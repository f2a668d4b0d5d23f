import Mathlib.Data.List.Count

/-!
# Timers and requests of an event loop

What a script has started and not yet seen the end of: armed timers and
requests in flight.  They end in any order, and each of them ends once.
-/

namespace ResearchTool.EcmaScript

/-- A timer or a request, under the identifier it was given. -/
structure Pending (α : Type) where
  id : Nat
  content : α

structure EventLoop (τ ρ : Type) where
  timers : List (Pending τ)
  requests : List (Pending ρ)
  nextId : Nat

namespace EventLoop

variable {τ ρ : Type}

def empty : EventLoop τ ρ where
  timers := []
  requests := []
  nextId := 1

/-- `setTimeout(task)`; the identifier is `nextId`. -/
def setTimeout (task : τ) (loop : EventLoop τ ρ) : EventLoop τ ρ :=
  { loop with
    timers := { id := loop.nextId, content := task } :: loop.timers
    nextId := loop.nextId + 1 }

/-- `clearTimeout(timer)`. -/
def clearTimeout (timer : Option Nat) (loop : EventLoop τ ρ) : EventLoop τ ρ :=
  { loop with timers := loop.timers.filter fun armed => some armed.id ≠ timer }

/-- `fetch`, up to its first suspension. -/
def fetch (call : ρ) (loop : EventLoop τ ρ) : EventLoop τ ρ :=
  { loop with
    requests := { id := loop.nextId, content := call } :: loop.requests
    nextId := loop.nextId + 1 }

/-- The reply to a request has arrived. -/
def settle (id : Nat) (loop : EventLoop τ ρ) : EventLoop τ ρ :=
  { loop with requests := loop.requests.filter fun request => request.id ≠ id }

def timer? (id : Nat) (loop : EventLoop τ ρ) : Option τ :=
  (loop.timers.find? fun armed => armed.id == id).map Pending.content

def request? (id : Nat) (loop : EventLoop τ ρ) : Option ρ :=
  (loop.requests.find? fun request => request.id == id).map Pending.content

theorem mem_of_timer? {id : Nat} {loop : EventLoop τ ρ} {task : τ}
    (found : loop.timer? id = some task) :
    { id, content := task } ∈ loop.timers := by
  obtain ⟨armed, first, rfl⟩ := Option.map_eq_some_iff.mp found
  have same : armed.id = id := by simpa using List.find?_some first
  rw [← same]
  exact List.mem_of_find?_eq_some first

theorem mem_of_request? {id : Nat} {loop : EventLoop τ ρ} {call : ρ}
    (found : loop.request? id = some call) : { id, content := call } ∈ loop.requests := by
  obtain ⟨request, first, rfl⟩ := Option.map_eq_some_iff.mp found
  have same : request.id = id := by simpa using List.find?_some first
  rw [← same]
  exact List.mem_of_find?_eq_some first

@[simp]
theorem mem_timers_setTimeout {armed : Pending τ} {task : τ} {loop : EventLoop τ ρ} :
    armed ∈ (loop.setTimeout task).timers ↔
      armed = { id := loop.nextId, content := task } ∨ armed ∈ loop.timers :=
  List.mem_cons

@[simp]
theorem requests_setTimeout (task : τ) (loop : EventLoop τ ρ) :
    (loop.setTimeout task).requests = loop.requests :=
  rfl

@[simp]
theorem nextId_setTimeout (task : τ) (loop : EventLoop τ ρ) :
    (loop.setTimeout task).nextId = loop.nextId + 1 :=
  rfl

@[simp]
theorem mem_timers_clearTimeout {armed : Pending τ} {timer : Option Nat} {loop : EventLoop τ ρ} :
    armed ∈ (loop.clearTimeout timer).timers ↔ armed ∈ loop.timers ∧ some armed.id ≠ timer := by
  simp [clearTimeout]

theorem timers_clearTimeout_subset (timer : Option Nat) (loop : EventLoop τ ρ) :
    (loop.clearTimeout timer).timers ⊆ loop.timers :=
  fun _ member => (mem_timers_clearTimeout.mp member).1

@[simp]
theorem requests_clearTimeout (timer : Option Nat) (loop : EventLoop τ ρ) :
    (loop.clearTimeout timer).requests = loop.requests :=
  rfl

@[simp]
theorem nextId_clearTimeout (timer : Option Nat) (loop : EventLoop τ ρ) :
    (loop.clearTimeout timer).nextId = loop.nextId :=
  rfl

@[simp]
theorem mem_requests_fetch {request : Pending ρ} {call : ρ} {loop : EventLoop τ ρ} :
    request ∈ (loop.fetch call).requests ↔
      request = { id := loop.nextId, content := call } ∨ request ∈ loop.requests :=
  List.mem_cons

@[simp]
theorem timers_fetch (call : ρ) (loop : EventLoop τ ρ) : (loop.fetch call).timers = loop.timers :=
  rfl

@[simp]
theorem mem_requests_settle {request : Pending ρ} {id : Nat} {loop : EventLoop τ ρ} :
    request ∈ (loop.settle id).requests ↔ request ∈ loop.requests ∧ request.id ≠ id := by
  simp [settle]

theorem requests_settle_subset (id : Nat) (loop : EventLoop τ ρ) :
    (loop.settle id).requests ⊆ loop.requests :=
  fun _ member => (mem_requests_settle.mp member).1

@[simp]
theorem timers_settle (id : Nat) (loop : EventLoop τ ρ) : (loop.settle id).timers = loop.timers :=
  rfl

@[simp]
theorem nextId_settle (id : Nat) (loop : EventLoop τ ρ) : (loop.settle id).nextId = loop.nextId :=
  rfl

/-! ## Counting -/

/-- How many timers and requests of two kinds are pending. -/
def pending (isTimer : τ → Bool) (isRequest : ρ → Bool) (loop : EventLoop τ ρ) : Nat :=
  loop.timers.countP (fun armed => isTimer armed.content) +
    loop.requests.countP fun request => isRequest request.content

variable {isTimer : τ → Bool} {isRequest : ρ → Bool} {loop : EventLoop τ ρ}

theorem countP_filter_lt {α : Type} {kind kept : α → Bool} {list : List α} {item : α}
    (member : item ∈ list) (counted : kind item = true) (dropped : kept item = false) :
    (list.filter kept).countP kind < list.countP kind := by
  induction list with
  | nil => cases member
  | cons head rest ih =>
      have rest_le : (rest.filter kept).countP kind ≤ rest.countP kind :=
        List.Sublist.countP_le List.filter_sublist
      rcases List.mem_cons.mp member with rfl | inside
      · rw [List.filter_cons, dropped, List.countP_cons, counted]
        simp only [Bool.false_eq_true, if_false, if_true]
        omega
      · have later := ih inside
        rw [List.filter_cons, List.countP_cons]
        split
        · rw [List.countP_cons]
          omega
        · omega

theorem pending_setTimeout (task : τ) :
    (loop.setTimeout task).pending isTimer isRequest =
      loop.pending isTimer isRequest + if isTimer task then 1 else 0 := by
  simp only [pending, setTimeout, List.countP_cons]
  omega

theorem pending_fetch (call : ρ) :
    (loop.fetch call).pending isTimer isRequest =
      loop.pending isTimer isRequest + if isRequest call then 1 else 0 := by
  simp only [pending, fetch, List.countP_cons]
  omega

theorem pending_clearTimeout_le (timer : Option Nat) :
    (loop.clearTimeout timer).pending isTimer isRequest ≤ loop.pending isTimer isRequest := by
  have fewer : (loop.clearTimeout timer).timers.countP (fun armed => isTimer armed.content) ≤
      loop.timers.countP fun armed => isTimer armed.content :=
    List.Sublist.countP_le List.filter_sublist
  simp only [pending, requests_clearTimeout]
  omega

theorem pending_settle_le (id : Nat) :
    (loop.settle id).pending isTimer isRequest ≤ loop.pending isTimer isRequest := by
  have fewer : (loop.settle id).requests.countP (fun request => isRequest request.content) ≤
      loop.requests.countP fun request => isRequest request.content :=
    List.Sublist.countP_le List.filter_sublist
  simp only [pending, timers_settle]
  omega

/-- A timer that has fired is not pending any more. -/
theorem pending_clearTimeout_lt {id : Nat} {task : τ}
    (member : { id, content := task } ∈ loop.timers)
    (counted : isTimer task = true) :
    (loop.clearTimeout (some id)).pending isTimer isRequest < loop.pending isTimer isRequest := by
  have fewer : (loop.clearTimeout (some id)).timers.countP (fun armed => isTimer armed.content) <
      loop.timers.countP fun armed => isTimer armed.content :=
    countP_filter_lt member counted (by simp)
  simp only [pending, requests_clearTimeout]
  omega

/-- Nor is a request that has been replied to. -/
theorem pending_settle_lt {id : Nat} {call : ρ} (member : { id, content := call } ∈ loop.requests)
    (counted : isRequest call = true) :
    (loop.settle id).pending isTimer isRequest < loop.pending isTimer isRequest := by
  have fewer : (loop.settle id).requests.countP (fun request => isRequest request.content) <
      loop.requests.countP fun request => isRequest request.content :=
    countP_filter_lt member counted (by simp)
  simp only [pending, timers_settle]
  omega

end EventLoop

end ResearchTool.EcmaScript
