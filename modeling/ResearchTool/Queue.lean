import ResearchTool.Errors
import ResearchTool.Schema

/-!
# The message queue

The broker keeps, for every message ever sent, its body, how often it has been
received and where it is.  The adapter of `sqs_adapter.py` provisions the queue
with its redrive policy and decodes what a receive returns.
-/

namespace ResearchTool

/-- The values of `core/conf.py` that the research package reads. -/
structure Settings where
  /-- `RESEARCH_MAX_QUEUE_ATTEMPTS` -/
  maxQueueAttempts : Nat := 3
  /-- `RESEARCH_SQS_VISIBILITY_TIMEOUT_SECONDS` -/
  visibilityTimeoutSeconds : Nat := 120
  /-- `RESEARCH_SQS_WAIT_TIME_SECONDS` -/
  waitTimeSeconds : Nat := 20
  /-- `RESEARCH_AI_TOKEN_BUDGET` -/
  aiTokenBudget : Int := 32000
  deriving DecidableEq, Repr

/-- A message body: the JSON text of a job message, or a text that is none and
does not validate. -/
inductive MessageBody where
  | job (message : ResearchJobMessage)
  | malformed (validationError : String)

/-- Where the broker keeps a message. -/
inductive Place where
  | visible
  | inFlight
  | deleted
  | deadLetter
  deriving DecidableEq, Repr

structure QueueMessage where
  body : MessageBody
  receiveCount : Nat := 0
  place : Place := .visible

/-- The job a message body names, if it validates. -/
def MessageBody.jobId? : MessageBody → Option JobId
  | job message => some message.jobId
  | malformed _ => none

structure RedrivePolicy where
  deadLetterTargetArn : String
  maxReceiveCount : Nat
  deriving DecidableEq, Repr

structure QueueAttributes where
  visibilityTimeout : Nat
  receiveMessageWaitTimeSeconds : Nat
  redrivePolicy : RedrivePolicy
  deriving DecidableEq, Repr

/-- The attributes `ensure_queues` creates the main queue with. -/
def ensureQueues (settings : Settings) (dlqArn : String) : QueueAttributes where
  visibilityTimeout := settings.visibilityTimeoutSeconds
  receiveMessageWaitTimeSeconds := settings.waitTimeSeconds
  redrivePolicy := {
    deadLetterTargetArn := dlqArn
    maxReceiveCount := settings.maxQueueAttempts
  }

/-- The broker's state; a message is named by its position. -/
structure Queue where
  attributes : QueueAttributes
  messages : List QueueMessage := []

/-- One entry of the `Messages` list of a receive response. -/
structure ReceivedItem where
  receiptHandle : ReceiptHandle
  body : MessageBody
  approximateReceiveCount : Option Nat

namespace Queue

def maxReceiveCount (queue : Queue) : Nat :=
  queue.attributes.redrivePolicy.maxReceiveCount

/-- The bodies of all messages ever sent. -/
def bodies (queue : Queue) : List MessageBody :=
  queue.messages.map QueueMessage.body

/-- The job that message `id` is about. -/
def jobAt (queue : Queue) (id : Nat) : Option JobId :=
  queue.bodies[id]?.bind MessageBody.jobId?

/-- Change one message. -/
def update (queue : Queue) (id : Nat) (change : QueueMessage → QueueMessage) : Queue :=
  { queue with messages := queue.messages.modify id change }

def enqueue (queue : Queue) (body : MessageBody) : Queue :=
  { queue with messages := queue.messages ++ [{ body }] }

/-- Message `id` is counted as received and hidden. -/
def markReceived (queue : Queue) (id : Nat) : Queue :=
  queue.update id fun message =>
    { message with receiveCount := message.receiveCount + 1, place := .inFlight }

/-- A receive of message `id`, which is handed out under a new handle.  The broker
does not hand out a message that was already received as often as the redrive
policy allows. -/
def receive? (queue : Queue) (id : Nat) : Option (ReceivedItem × Queue) :=
  match queue.messages[id]? with
  | none => none
  | some message =>
      if message.place = .visible ∧ message.receiveCount < queue.maxReceiveCount then
        some ({
          receiptHandle := { message := id, receive := message.receiveCount + 1 }
          body := message.body
          approximateReceiveCount := some (message.receiveCount + 1)
        }, queue.markReceived id)
      else
        none

/-- Whether a handle is the one of the latest receive. -/
def isCurrent (queue : Queue) (handle : ReceiptHandle) : Bool :=
  match queue.messages[handle.message]? with
  | some message => message.receiveCount == handle.receive
  | none => false

/-- `DeleteMessage`.  A stale handle is accepted, but the broker need not
honour it. -/
def delete (queue : Queue) (handle : ReceiptHandle) (honoured : Bool) : Queue :=
  if queue.isCurrent handle || honoured then
    queue.update handle.message fun message =>
      match message.place with
      | .deadLetter => message
      | _ => { message with place := .deleted }
  else
    queue

/-- `ChangeMessageVisibility`: a timeout of zero makes an in-flight message
visible at once. -/
def changeVisibility (queue : Queue) (handle : ReceiptHandle) (timeoutSeconds : Nat)
    (honoured : Bool) : Queue :=
  if timeoutSeconds = 0 ∧ (queue.isCurrent handle || honoured) then
    queue.update handle.message fun message =>
      if message.place = .inFlight then { message with place := .visible } else message
  else
    queue

/-- The visibility timeout of a message in flight runs out. -/
def timeout (queue : Queue) (id : Nat) : Queue :=
  queue.update id fun message =>
    if message.place = .inFlight then { message with place := .visible } else message

/-- Instead of another delivery, a message received often enough moves to the
dead-letter queue. -/
def redrive (queue : Queue) (id : Nat) : Queue :=
  queue.update id fun message =>
    if message.place = .visible ∧ queue.maxReceiveCount ≤ message.receiveCount then
      { message with place := .deadLetter }
    else
      message

/-! ## What a move of one message keeps -/

/-- Only message `id` may have changed, and not its body. -/
structure Moves (id : Nat) (before after : Queue) : Prop where
  bodies : after.bodies = before.bodies
  attributes : after.attributes = before.attributes
  others : ∀ other, other ≠ id → after.messages[other]? = before.messages[other]?

theorem Moves.refl (id : Nat) (queue : Queue) : Moves id queue queue :=
  ⟨rfl, rfl, fun _ _ => rfl⟩

theorem messages_update (queue : Queue) (id other : Nat) (change : QueueMessage → QueueMessage) :
    (queue.update id change).messages[other]? =
      if id = other then queue.messages[other]?.map change else queue.messages[other]? := by
  rw [update, List.getElem?_modify]
  split <;> simp

theorem bodies_update (queue : Queue) (id : Nat) {change : QueueMessage → QueueMessage}
    (keepsBody : ∀ message, (change message).body = message.body) :
    (queue.update id change).bodies = queue.bodies := by
  refine List.ext_getElem? fun other => ?_
  simp only [bodies, List.getElem?_map, messages_update]
  split
  · cases queue.messages[other]? <;> simp [keepsBody]
  · rfl

theorem moves_update (queue : Queue) (id : Nat) {change : QueueMessage → QueueMessage}
    (keepsBody : ∀ message, (change message).body = message.body) :
    Moves id queue (queue.update id change) where
  bodies := bodies_update queue id keepsBody
  attributes := rfl
  others other different := by rw [messages_update, if_neg (Ne.symm different)]

theorem moves_delete (queue : Queue) (handle : ReceiptHandle) (honoured : Bool) :
    Moves handle.message queue (queue.delete handle honoured) := by
  unfold delete
  split
  · refine moves_update queue _ fun message => ?_
    split <;> rfl
  · exact Moves.refl _ _

theorem moves_changeVisibility (queue : Queue) (handle : ReceiptHandle) (timeoutSeconds : Nat)
    (honoured : Bool) :
    Moves handle.message queue (queue.changeVisibility handle timeoutSeconds honoured) := by
  unfold changeVisibility
  split
  · refine moves_update queue _ fun message => ?_
    split <;> rfl
  · exact Moves.refl _ _

theorem moves_timeout (queue : Queue) (id : Nat) : Moves id queue (queue.timeout id) :=
  moves_update queue id fun message => by split <;> rfl

theorem moves_redrive (queue : Queue) (id : Nat) : Moves id queue (queue.redrive id) :=
  moves_update queue id fun message => by split <;> rfl

/-- What a receive hands out, and how it changes the queue. -/
theorem receive?_eq_some_iff {queue after : Queue} {id : Nat} {item : ReceivedItem} :
    queue.receive? id = some (item, after) ↔
      ∃ message, queue.messages[id]? = some message ∧ message.place = .visible ∧
        message.receiveCount < queue.maxReceiveCount ∧
        item = {
          receiptHandle := { message := id, receive := message.receiveCount + 1 }
          body := message.body
          approximateReceiveCount := some (message.receiveCount + 1)
        } ∧
        after = queue.markReceived id := by
  unfold receive?
  cases found : queue.messages[id]? with
  | none => simp
  | some message =>
      simp only [Option.some.injEq, exists_eq_left']
      split
      · rename_i ready
        simp [ready, eq_comm]
      · rename_i blocked
        simp only [reduceCtorEq, false_iff]
        rintro ⟨visible, below, -⟩
        exact blocked ⟨visible, below⟩

theorem moves_markReceived (queue : Queue) (id : Nat) : Moves id queue (queue.markReceived id) :=
  moves_update queue id fun _ => rfl

theorem Moves.jobAt {id : Nat} {before after : Queue} (moves : Moves id before after) :
    after.jobAt = before.jobAt := by
  funext other
  rw [Queue.jobAt, Queue.jobAt, moves.bodies]

theorem bodies_enqueue (queue : Queue) (body : MessageBody) :
    (queue.enqueue body).bodies = queue.bodies ++ [body] := by
  simp [enqueue, bodies]

end Queue

/-- The exception of a Pydantic model that rejects its input. -/
def validationError (message : String) : Exn :=
  .other "ValidationError" message

/-- The decoding of one item in `SQSMessageQueueAdapter.receive`. -/
def decodeItem (item : ReceivedItem) : Except Exn ReceivedMessage :=
  match item.body with
  | .malformed message => .error (validationError message)
  | .job body =>
      let receiveCount := item.approximateReceiveCount.getD 1
      if counted : 1 ≤ receiveCount then
        .ok {
          receiptHandle := item.receiptHandle
          body
          receiveCount
          receiveCount_ge := counted
        }
      else
        .error (validationError "receive_count: Input should be greater than or equal to 1")

/-- `SQSMessageQueueAdapter.receive` after the broker has answered.  The first
body that does not validate ends the decoding of the whole batch. -/
def decodeBatch : List ReceivedItem → Except Exn (List ReceivedMessage)
  | [] => .ok []
  | item :: items => do
      let received ← decodeItem item
      let rest ← decodeBatch items
      pure (received :: rest)

/-- The delivery a worker gets when the broker hands out message `id`. -/
def QueueMessage.delivery (message : QueueMessage) (id : Nat) (body : ResearchJobMessage) :
    ReceivedMessage where
  receiptHandle := { message := id, receive := message.receiveCount + 1 }
  body := body
  receiveCount := message.receiveCount + 1
  receiveCount_ge := Nat.le_add_left 1 _

end ResearchTool
