import ResearchTool.Encoding
import ResearchTool.Service

/-!
# Transport boundaries

`RedisStateCacheAdapter` and `SQSMessageQueueAdapter` down to the texts that
Redis and SQS hold.  Both stores return a text as it was stored.  What an
adapter reads is what was written, whatever happens to other keys and other
messages in between.
-/

namespace ResearchTool

open Pydantic Python

/-- What Pydantic contributes to a transport: the JSON form of datetimes, the
validators of its two modes, the parser of `model_validate_json` and how deeply
nested a text it reads, and the messages of its exceptions and of the
decoder's. -/
structure Libraries where
  datetimeJson : DateTime → String
  python : Validators
  json : Validators
  nestingLimit : Nat
  parseJson : Text → Option Json
  decodeMessage : Text → String
  rejection : Json → String
  malformed : Text → String

/-- What the adapters rely on: a text that `json.loads` reads means the same value
to the parser of `model_validate_json`, which refuses a text that is nested
deeper than its limit. -/
structure Libraries.Documented (libraries : Libraries) : Prop where
  python : libraries.python.Documented libraries.datetimeJson
  json : libraries.json.Documented libraries.datetimeJson
  parses : ∀ text value, Json.loads text = some value →
    libraries.parseJson text = if value.depth ≤ libraries.nestingLimit then some value else none

/-! ## Redis -/

/-- The texts Redis holds, by key. -/
abbrev Redis := String → Option Text

namespace RedisCli

/-- `set_json`; the time to live ends by an event of its own. -/
def setJson (redis : Redis) (key : String) (value : Json) : Redis :=
  Function.update redis key (some value.dumps)

/-- `get_json`: `None` for a missing key. -/
def getJson (libraries : Libraries) (redis : Redis) (key : String) : Except Exn Json :=
  match redis key with
  | none => .ok .null
  | some payload =>
      match Json.loads payload with
      | some value => .ok value
      | none => .error (.other "JSONDecodeError" (libraries.decodeMessage payload))

def delete (redis : Redis) (key : String) : Redis :=
  Function.update redis key none

end RedisCli

namespace RedisStateCacheAdapter

open RedisCli

/-- `_state_key`. -/
def stateKey (jobId : JobId) : String :=
  "research:job:" ++ jobId

/-- `_ai_cache_key`. -/
def aiCacheKey (cacheKey : String) : String :=
  "research:ai:" ++ cacheKey

/-- `get_json` and `model_validate` unless the payload is `None`. -/
def getModel {α : Type} (libraries : Libraries) (codec : Codec α) (redis : Redis) (key : String) :
    Except Exn (Option α) := do
  match ← getJson libraries redis key with
  | .null => pure none
  | payload =>
      match codec.validate payload with
      | some value => pure (some value)
      | none => .error (validationError (libraries.rejection payload))

section Adapter

variable (libraries : Libraries)

def snapshotCodec : Codec ResearchJobStateSnapshot :=
  Encoding.researchJobStateSnapshot libraries.datetimeJson libraries.python

def analysisCodec : Codec StructuredAIResponse :=
  Encoding.structuredAIResponse libraries.python

def setState (redis : Redis) (snapshot : ResearchJobStateSnapshot) : Redis :=
  setJson redis (stateKey snapshot.jobId) ((snapshotCodec libraries).dump snapshot)

def getState (redis : Redis) (jobId : JobId) : Except Exn (Option ResearchJobStateSnapshot) :=
  getModel libraries (snapshotCodec libraries) redis (stateKey jobId)

def deleteState (redis : Redis) (jobId : JobId) : Redis :=
  delete redis (stateKey jobId)

def getCachedAiResult (redis : Redis) (cacheKey : String) :
    Except Exn (Option StructuredAIResponse) :=
  getModel libraries (analysisCodec libraries) redis (aiCacheKey cacheKey)

def setCachedAiResult (redis : Redis) (cacheKey : String) (insights : StructuredAIResponse) :
    Redis :=
  setJson redis (aiCacheKey cacheKey) ((analysisCodec libraries).dump insights)

end Adapter

/-! ### Keys -/

theorem append_right_cancel {start left right : String} (same : start ++ left = start ++ right) :
    left = right := by
  have lists := congrArg String.toList same
  rw [String.toList_append, String.toList_append] at lists
  exact String.toList_injective (List.append_cancel_left lists)

theorem stateKey_injective : Function.Injective stateKey :=
  fun _ _ same => append_right_cancel same

theorem aiCacheKey_injective : Function.Injective aiCacheKey :=
  fun _ _ same => append_right_cancel same

/-- The key of a snapshot and the key of an analysis differ in their tenth
character. -/
theorem stateKey_ne_aiCacheKey (jobId : JobId) (cacheKey : String) :
    stateKey jobId ≠ aiCacheKey cacheKey := by
  intro same
  have tenth := congrArg (fun key : String => key.toList[9]?) same
  simp [stateKey, aiCacheKey, String.toList_append] at tenth

/-! ### One key -/

theorem getModel_of_missing {α : Type} (libraries : Libraries) (codec : Codec α) {redis : Redis}
    {key : String} (missing : redis key = none) :
    getModel libraries codec redis key = .ok none := by
  simp only [getModel, getJson, missing]
  rfl

/-- A model is read back from the text it was written as. -/
theorem getModel_of_dumped {α : Type} (libraries : Libraries) {codec : Codec α} {domain : α → Prop}
    (lawful : codec.Lawful domain) (present : codec.Present) {redis : Redis} {key : String}
    {value : α} (inside : domain value) (stored : redis key = some (codec.dump value).dumps) :
    getModel libraries codec redis key = .ok (some value) := by
  have loaded : getJson libraries redis key = .ok (codec.dump value) := by
    simp only [getJson, stored, Json.loads_dumps (lawful.written value inside)]
  have read := lawful.reads value inside
  simp only [getModel, loaded, bind, Except.bind]
  split
  · rename_i absent
    exact absurd absent (present value)
  · rw [read]
    rfl

/-! ### Runs -/

/-- What happens in Redis between two calls of the adapter. -/
inductive Event where
  | setState (snapshot : ResearchJobStateSnapshot)
  | setCachedAiResult (cacheKey : String) (insights : StructuredAIResponse)
  | deleteState (jobId : JobId)
  /-- another program of the deployment sets a key -/
  | set (key : String) (payload : Text)
  /-- another program deletes a key, or its time to live ends -/
  | drop (key : String)

namespace Event

/-- The key an event touches. -/
def key : Event → String
  | setState snapshot => stateKey snapshot.jobId
  | setCachedAiResult cacheKey _ => aiCacheKey cacheKey
  | deleteState jobId => stateKey jobId
  | set key _ => key
  | drop key => key

def apply (libraries : Libraries) (redis : Redis) : Event → Redis
  | setState snapshot => RedisStateCacheAdapter.setState libraries redis snapshot
  | setCachedAiResult cacheKey insights =>
      RedisStateCacheAdapter.setCachedAiResult libraries redis cacheKey insights
  | deleteState jobId => RedisStateCacheAdapter.deleteState redis jobId
  | set key payload => Function.update redis key (some payload)
  | drop key => Function.update redis key none

/-- The event is about another job, about an analysis, or about a key that is
not the one of this job's snapshot. -/
def SparesState (jobId : JobId) : Event → Prop
  | setState snapshot => snapshot.jobId ≠ jobId
  | setCachedAiResult _ _ => True
  | deleteState other => other ≠ jobId
  | set key _ => key ≠ stateKey jobId
  | drop key => key ≠ stateKey jobId

/-- The event is about another analysis, about a snapshot, or about a key that is
not the one of this analysis. -/
def SparesAnalysis (cacheKey : String) : Event → Prop
  | setState _ => True
  | setCachedAiResult other _ => other ≠ cacheKey
  | deleteState _ => True
  | set key _ => key ≠ aiCacheKey cacheKey
  | drop key => key ≠ aiCacheKey cacheKey

theorem key_ne_of_sparesState {jobId : JobId} {event : Event} (spares : event.SparesState jobId) :
    event.key ≠ stateKey jobId := by
  cases event with
  | setState snapshot => exact stateKey_injective.ne spares
  | setCachedAiResult cacheKey insights => exact (stateKey_ne_aiCacheKey jobId cacheKey).symm
  | deleteState other => exact stateKey_injective.ne spares
  | set key payload => exact spares
  | drop key => exact spares

theorem key_ne_of_sparesAnalysis {cacheKey : String} {event : Event}
    (spares : event.SparesAnalysis cacheKey) : event.key ≠ aiCacheKey cacheKey := by
  cases event with
  | setState snapshot => exact stateKey_ne_aiCacheKey snapshot.jobId cacheKey
  | setCachedAiResult other insights => exact aiCacheKey_injective.ne spares
  | deleteState jobId => exact stateKey_ne_aiCacheKey jobId cacheKey
  | set key payload => exact spares
  | drop key => exact spares

/-- An event touches its own key only. -/
theorem apply_of_ne (libraries : Libraries) (redis : Redis) (event : Event) {key : String}
    (other : event.key ≠ key) : event.apply libraries redis key = redis key := by
  cases event <;> exact Function.update_of_ne other.symm _ _

end Event

/-- Redis after some events, the first one first. -/
def run (libraries : Libraries) (redis : Redis) (events : List Event) : Redis :=
  events.foldl (Event.apply libraries) redis

/-- No event of a run that touches other keys changes what stands under a key. -/
theorem run_of_ne (libraries : Libraries) (redis : Redis) {events : List Event} {key : String}
    (others : ∀ event ∈ events, event.key ≠ key) : run libraries redis events key = redis key := by
  induction events generalizing redis with
  | nil => rfl
  | cons event events ih =>
      rw [List.forall_mem_cons] at others
      exact (ih _ others.2).trans (event.apply_of_ne libraries redis others.1)

section RoundTrips

variable {libraries : Libraries} (documented : libraries.Documented)

theorem snapshotCodec_lawful (documented : libraries.Documented) :
    (snapshotCodec libraries).Lawful ResearchJobStateSnapshot.IsFinite :=
  Encoding.researchJobStateSnapshot_lawful documented.python

theorem analysisCodec_lawful (documented : libraries.Documented) :
    (analysisCodec libraries).Lawful fun _ => True :=
  Encoding.structuredAIResponse_lawful documented.python

include documented

/-- A snapshot is read back as it was written. -/
theorem getState_after_setState (redis : Redis) {snapshot : ResearchJobStateSnapshot}
    (finite : snapshot.IsFinite) {events : List Event}
    (spared : ∀ event ∈ events, event.SparesState snapshot.jobId) :
    getState libraries (run libraries (setState libraries redis snapshot) events) snapshot.jobId =
      .ok (some snapshot) := by
  apply getModel_of_dumped libraries (snapshotCodec_lawful documented) (model_present _ _ _) finite
  rw [run_of_ne libraries _ fun event member => Event.key_ne_of_sparesState (spared event member)]
  exact Function.update_self _ _ _

/-- An analysis is read back as it was cached. -/
theorem getCachedAiResult_after_setCachedAiResult (redis : Redis) (cacheKey : String)
    (insights : StructuredAIResponse) {events : List Event}
    (spared : ∀ event ∈ events, event.SparesAnalysis cacheKey) :
    getCachedAiResult libraries
        (run libraries (setCachedAiResult libraries redis cacheKey insights) events) cacheKey =
      .ok (some insights) := by
  apply getModel_of_dumped libraries (analysisCodec_lawful documented)
    (model_present _ _ _) trivial
  rw [run_of_ne libraries _ fun event member =>
    Event.key_ne_of_sparesAnalysis (spared event member)]
  exact Function.update_self _ _ _

omit documented in
/-- A deleted snapshot reads as absent. -/
theorem getState_after_deleteState (redis : Redis) (jobId : JobId) {events : List Event}
    (spared : ∀ event ∈ events, event.SparesState jobId) :
    getState libraries (run libraries (deleteState redis jobId) events) jobId = .ok none := by
  apply getModel_of_missing
  rw [run_of_ne libraries _ fun event member => Event.key_ne_of_sparesState (spared event member)]
  exact Function.update_self _ _ _

end RoundTrips

end RedisStateCacheAdapter

/-! ## SQS -/

/-- The bodies of all messages ever sent, by message. -/
abbrev Mailbox := List Text

/-- One entry of the `Messages` list of a receive response. -/
structure ResponseItem where
  receiptHandle : ReceiptHandle
  body : Text
  approximateReceiveCount : Option Nat

/-- The broker hands out the stored text, and counts receives from one. -/
structure ResponseItem.From (mailbox : Mailbox) (item : ResponseItem) : Prop where
  stored : mailbox[item.receiptHandle.message]? = some item.body
  counted : ∀ count ∈ item.approximateReceiveCount, 1 ≤ count

namespace SQSMessageQueueAdapter

section Adapter

variable (libraries : Libraries)

def messageCodec : Codec ResearchJobMessage :=
  Encoding.researchJobMessage libraries.datetimeJson libraries.json

/-- `MessageBody`. -/
def messageText (message : ResearchJobMessage) : Text :=
  ((messageCodec libraries).dump message).dumps

def send (mailbox : Mailbox) (message : ResearchJobMessage) : Mailbox :=
  mailbox ++ [messageText libraries message]

/-- `ResearchJobMessage.model_validate_json`. -/
def readBody (body : Text) : MessageBody :=
  match (libraries.parseJson body).bind (messageCodec libraries).validate with
  | some message => .job message
  | none => .malformed (libraries.malformed body)

/-- The error with which the text of a message is refused, if it is. -/
def refusal (message : ResearchJobMessage) : Option String :=
  match readBody libraries (messageText libraries message) with
  | .job _ => none
  | .malformed error => some error

def readItem (item : ResponseItem) : ReceivedItem where
  receiptHandle := item.receiptHandle
  body := readBody libraries item.body
  approximateReceiveCount := item.approximateReceiveCount

/-- `receive`, from the response of the broker. -/
def receive (items : List ResponseItem) : Except Exn (List ReceivedMessage) :=
  decodeBatch (items.map (readItem libraries))

end Adapter

theorem foldl_send (libraries : Libraries) (messages : List ResearchJobMessage)
    (mailbox : Mailbox) :
    messages.foldl (send libraries) mailbox = mailbox ++ messages.map (messageText libraries) := by
  induction messages generalizing mailbox with
  | nil => simp
  | cons message messages ih =>
      rw [List.foldl_cons, ih, send, List.append_assoc]
      rfl

/-- The parser of the worker reads a message with these options; the message
itself is one more level. -/
def Legible (libraries : Libraries) (message : ResearchJobMessage) : Prop :=
  (Json.object message.options).depth < libraries.nestingLimit

instance (libraries : Libraries) (message : ResearchJobMessage) :
    Decidable (Legible libraries message) :=
  inferInstanceAs (Decidable (_ < _))

theorem depth_dump (libraries : Libraries) (message : ResearchJobMessage) :
    ((messageCodec libraries).dump message).depth = (Json.object message.options).depth + 1 := by
  have dumped : (messageCodec libraries).dump message = .object [("job_id", .string message.jobId),
      ("repo_url", .string message.repoUrl),
      ("enqueued_at", .string (libraries.datetimeJson message.enqueuedAt)),
      ("attempt", .int message.attempt), ("options", .object message.options)] := rfl
  simp [dumped, Json.depth, Json.depthEntries]

section Decoding

variable {libraries : Libraries} (documented : libraries.Documented) {message : ResearchJobMessage}
  (options : IsDictionary message.options)

include documented options

theorem parseJson_messageText :
    libraries.parseJson (messageText libraries message) =
      if ((messageCodec libraries).dump message).depth ≤ libraries.nestingLimit then
        some ((messageCodec libraries).dump message)
      else none :=
  documented.parses _ _ (Json.loads_dumps
    ((Encoding.researchJobMessage_lawful documented.json).written message options))

/-- The text of a legible message is the body of a job message to the queue. -/
theorem readBody_of_legible (legible : Legible libraries message) :
    readBody libraries (messageText libraries message) = .job message := by
  have parsed := parseJson_messageText documented options
  rw [if_pos (by rw [depth_dump]; exact legible)] at parsed
  have read := (Encoding.researchJobMessage_lawful documented.json).reads message options
  simp only [readBody, parsed, messageCodec, Option.bind_some, read]

/-- Any other text of a message does not validate. -/
theorem readBody_of_not_legible (deep : ¬ Legible libraries message) :
    ∃ error, readBody libraries (messageText libraries message) = .malformed error := by
  have parsed := parseJson_messageText documented options
  rw [if_neg (by rw [depth_dump]; exact deep)] at parsed
  refine ⟨libraries.malformed (messageText libraries message), ?_⟩
  simp only [readBody, parsed, Option.bind_none]

/-- A worker of the service receives what the adapter reads from the text that was
sent, in an environment that refuses messages as the libraries do. -/
theorem readBody_messageText {env : Environment}
    (refuses : env.refusal message = refusal libraries message) :
    env.readBody (.job message) = readBody libraries (messageText libraries message) := by
  rw [Environment.readBody, refuses, refusal]
  by_cases legible : Legible libraries message
  · rw [readBody_of_legible documented options legible]
    rfl
  · obtain ⟨error, malformed⟩ := readBody_of_not_legible documented options legible
    rw [malformed]
    rfl

/-- The messages that are not refused are the legible ones. -/
theorem refusal_eq_none_iff : refusal libraries message = none ↔ Legible libraries message := by
  rw [refusal]
  by_cases legible : Legible libraries message
  · rw [readBody_of_legible documented options legible]
    exact iff_of_true rfl legible
  · obtain ⟨error, malformed⟩ := readBody_of_not_legible documented options legible
    rw [malformed]
    exact iff_of_false (Option.some_ne_none error) legible

/-- An item that carries the text of a message is decoded to this message, if it
is legible. -/
theorem decodeItem_readItem {mailbox : Mailbox} {item : ResponseItem}
    (handed : item.From mailbox)
    (stored : mailbox[item.receiptHandle.message]? = some (messageText libraries message)) :
    if Legible libraries message then
      ∃ received, decodeItem (readItem libraries item) = .ok received ∧
        received.receiptHandle = item.receiptHandle ∧ received.body = message
    else ∃ error, decodeItem (readItem libraries item) = .error error := by
  have body : item.body = messageText libraries message :=
    Option.some.inj (handed.stored.symm.trans stored)
  have read : (readItem libraries item).body =
      readBody libraries (messageText libraries message) := by
    rw [readItem, body]
  split
  · rename_i legible
    rw [readBody_of_legible documented options legible] at read
    have counted : 1 ≤ (readItem libraries item).approximateReceiveCount.getD 1 := by
      cases given : item.approximateReceiveCount with
      | none => simp [readItem, given]
      | some count => simpa [readItem, given] using handed.counted count given
    simp only [decodeItem, read, dif_pos counted]
    exact ⟨_, rfl, rfl, rfl⟩
  · rename_i deep
    obtain ⟨error, malformed⟩ := readBody_of_not_legible documented options deep
    rw [malformed] at read
    exact ⟨validationError error, by simp only [decodeItem, read]⟩

end Decoding

/-- A batch of messages that the adapter has sent is decoded as a whole if and
only if all of them are legible. -/
theorem receive_of_sent {libraries : Libraries} (documented : libraries.Documented)
    {mailbox : Mailbox} (sent : Nat → Option ResearchJobMessage) {items : List ResponseItem}
    (handed : ∀ item ∈ items, item.From mailbox)
    (known : ∀ item ∈ items, ∃ message, sent item.receiptHandle.message = some message ∧
      IsDictionary message.options ∧
      mailbox[item.receiptHandle.message]? = some (messageText libraries message)) :
    (∃ batch, receive libraries items = .ok batch ∧
      List.Forall₂ (fun item received => received.receiptHandle = item.receiptHandle ∧
        sent item.receiptHandle.message = some received.body) items batch) ↔
      ∀ item ∈ items, ∀ message, sent item.receiptHandle.message = some message →
        Legible libraries message := by
  induction items with
  | nil => exact iff_of_true ⟨[], rfl, .nil⟩ (List.forall_mem_nil _)
  | cons item items ih =>
      rw [List.forall_mem_cons] at handed known
      obtain ⟨message, named, options, stored⟩ := known.1
      have unfolded : receive libraries (item :: items) =
          (decodeItem (readItem libraries item)).bind fun received =>
            (receive libraries items).bind fun rest => .ok (received :: rest) := rfl
      have decoded := decodeItem_readItem documented options handed.1 stored
      have only : (∀ other, sent item.receiptHandle.message = some other →
          Legible libraries other) ↔ Legible libraries message := by
        rw [named]
        exact ⟨fun all => all message rfl,
          fun legible other same => Option.some.inj same ▸ legible⟩
      rw [List.forall_mem_cons, only, ← ih handed.2 known.2]
      split at decoded
      · rename_i legible
        obtain ⟨received, first, handle, body⟩ := decoded
        constructor
        · rintro ⟨batch, whole, alike⟩
          rw [unfolded, first] at whole
          cases rest : receive libraries items with
          | error error =>
              rw [rest] at whole
              cases whole
          | ok others =>
              rw [rest] at whole
              cases whole
              exact ⟨legible, others, rfl, (List.forall₂_cons.mp alike).2⟩
        · rintro ⟨-, batch, rest, alike⟩
          refine ⟨received :: batch, ?_, .cons ⟨handle, body ▸ named⟩ alike⟩
          rw [unfolded, first, rest]
          rfl
      · rename_i deep
        obtain ⟨error, first⟩ := decoded
        refine iff_of_false ?_ fun both => deep both.1
        rintro ⟨batch, whole, -⟩
        rw [unfolded, first] at whole
        cases whole

end SQSMessageQueueAdapter

namespace Sample

def padded (width number : Nat) : Text :=
  (zeroPadded width number).toList

def fractionText (microsecond : Nat) : Text :=
  if microsecond = 0 then [] else '.' :: padded 6 microsecond

def offsetText : Option Int → Text
  | none => []
  | some minutes =>
      if minutes = 0 then ['Z']
      else (if minutes < 0 then '-' else '+') ::
        (padded 2 (minutes.natAbs / 60) ++ ':' :: padded 2 (minutes.natAbs % 60))

/-- Pydantic's JSON form of a `datetime`. -/
def isoText (d : DateTime) : Text :=
  padded 4 d.year ++ '-' :: (padded 2 d.month ++ '-' :: (padded 2 d.day ++ 'T' ::
    (padded 2 d.hour ++ ':' :: (padded 2 d.minute ++ ':' :: (padded 2 d.second ++
      (fractionText d.microsecond ++ offsetText d.offsetMinutes))))))

/-- The number a text begins with, and what follows. -/
def readNat (text : Text) : Nat × Text :=
  (Nat.ofDigitChars 10 (text.takeWhile Char.isDigit) 0, text.dropWhile Char.isDigit)

def readFraction : Text → Nat × Text
  | '.' :: rest => readNat rest
  | text => (0, text)

def readOffset : Text → Option Int
  | [] => none
  | 'Z' :: _ => some 0
  | sign :: rest =>
      let minutes : Int := (readNat rest).1 * 60 + (readNat (readNat rest).2.tail).1
      some (if sign = '-' then -minutes else minutes)

def ofIsoText (text : Text) : DateTime :=
  let (year, rest) := readNat text
  let (month, rest) := readNat rest.tail
  let (day, rest) := readNat rest.tail
  let (hour, rest) := readNat rest.tail
  let (minute, rest) := readNat rest.tail
  let (second, rest) := readNat rest.tail
  let (microsecond, rest) := readFraction rest
  { year, month, day, hour, minute, second, microsecond, offsetMinutes := readOffset rest }

theorem readNat_padded (width number : Nat) {rest : Text}
    (stops : ∀ c ∈ rest.head?, c.isDigit = false) :
    readNat (padded width number ++ rest) = (number, rest) := by
  have digits : ∀ c ∈ padded width number, c.isDigit = true :=
    fun c member => isDigit_of_mem_zeroPadded member
  have stopped : rest.takeWhile Char.isDigit = [] ∧ rest.dropWhile Char.isDigit = rest := by
    cases rest with
    | nil => exact ⟨rfl, rfl⟩
    | cons c rest =>
        have other := stops c rfl
        exact ⟨List.takeWhile_cons_of_neg (by simp [other]),
          List.dropWhile_cons_of_neg (by simp [other])⟩
  have value : Nat.ofDigitChars 10 (padded width number) 0 = number := by
    rw [padded, zeroPadded, String.toList_append, String.toList_ofList, Nat.ofDigitChars_append,
      Nat.ofDigitChars_replicate_zero, Nat.mul_zero, Nat.toString_eq_repr, Nat.toList_repr,
      Nat.ofDigitChars_ten_toDigits]
  rw [readNat, List.takeWhile_append_of_pos digits, List.dropWhile_append_of_pos digits,
    stopped.1, stopped.2, List.append_nil, value]

theorem readNat_padded_cons (width number : Nat) {c : Char} (separator : c.isDigit = false)
    (rest : Text) : readNat (padded width number ++ c :: rest) = (number, c :: rest) :=
  readNat_padded width number fun d first => by
    cases first
    exact separator

theorem head?_offsetText (offset : Option Int) :
    ∀ c ∈ (offsetText offset).head?, c.isDigit = false ∧ c ≠ '.' := by
  have signs : ∀ c ∈ ['Z', '-', '+'], c.isDigit = false ∧ c ≠ '.' := by decide
  intro c first
  apply signs
  cases offset with
  | none => cases first
  | some minutes =>
      rw [offsetText] at first
      split at first <;> cases first
      · exact List.mem_cons_self
      · split <;> simp

theorem readOffset_offsetText (offset : Option Int) : readOffset (offsetText offset) = offset := by
  cases offset with
  | none => rfl
  | some minutes =>
      have low : readNat (padded 2 (minutes.natAbs % 60) ++ []) = (minutes.natAbs % 60, []) :=
        readNat_padded 2 (minutes.natAbs % 60) (by simp)
      have high := readNat_padded_cons 2 (minutes.natAbs / 60) (c := ':') rfl
        (padded 2 (minutes.natAbs % 60))
      rw [List.append_nil] at low
      have read : ∀ sign, sign ≠ 'Z' →
          readOffset (sign :: (padded 2 (minutes.natAbs / 60) ++
            ':' :: padded 2 (minutes.natAbs % 60))) =
          some (if sign = '-' then -(minutes.natAbs : Int) else minutes.natAbs) := by
        intro sign other
        have parts : ((minutes.natAbs / 60 : Nat) : Int) * 60 + (minutes.natAbs % 60 : Nat) =
            minutes.natAbs := by
          omega
        simp only [readOffset, high, List.tail_cons, low, parts]
      rw [offsetText]
      split
      · rename_i utc
        rw [utc]
        rfl
      · rw [read _ (by split <;> decide)]
        apply congrArg some
        by_cases west : minutes < 0
        · rw [if_pos west, if_pos rfl]
          omega
        · rw [if_neg west, if_neg (by decide)]
          omega

theorem readFraction_fractionText (microsecond : Nat) (offset : Option Int) :
    readFraction (fractionText microsecond ++ offsetText offset) =
      (microsecond, offsetText offset) := by
  have first := head?_offsetText offset
  unfold fractionText
  split
  case isTrue zero =>
    rw [List.nil_append, readFraction.eq_def]
    split
    · rename_i point
      rw [point] at first
      exact absurd rfl (first '.' rfl).2
    · rw [zero]
  case isFalse =>
    exact readNat_padded 6 microsecond fun c head => (first c head).1

theorem head?_fractionText (microsecond : Nat) (offset : Option Int) :
    ∀ c ∈ (fractionText microsecond ++ offsetText offset).head?, c.isDigit = false := by
  unfold fractionText
  split
  · exact fun c first => (head?_offsetText offset c first).1
  · intro c first
    cases first
    rfl

theorem ofIsoText_isoText (d : DateTime) : ofIsoText (isoText d) = d := by
  simp only [ofIsoText, isoText, readNat_padded_cons _ _ (c := '-') rfl,
    readNat_padded_cons _ _ (c := ':') rfl, readNat_padded_cons _ _ (c := 'T') rfl, List.tail_cons,
    readNat_padded _ _ (head?_fractionText _ _), readFraction_fractionText, readOffset_offsetText]

def validators : Validators where
  text
    | .string value => some value
    | _ => none
  int
    | .int value => some value
    | _ => none
  float
    | .float token => if oneLine : '\n' ∉ token.toList then some ⟨token, oneLine⟩ else none
    | _ => none
  bool
    | .bool value => some value
    | _ => none
  datetime
    | .string text => some (ofIsoText text.toList)
    | _ => none

def libraries : Libraries where
  datetimeJson d := String.ofList (isoText d)
  python := validators
  json := validators
  nestingLimit := 200
  parseJson text := (Json.loads text).filter fun value => value.depth ≤ 200
  decodeMessage _ := "Expecting value: line 1 column 1 (char 0)"
  rejection _ := "1 validation error"
  malformed _ := "1 validation error for ResearchJobMessage"

theorem validators_documented : validators.Documented libraries.datetimeJson where
  text _ := rfl
  int _ := rfl
  float value _ := dif_pos value.oneLine
  bool _ := rfl
  datetime value := by
    rw [validators, libraries]
    simp only [String.toList_ofList, ofIsoText_isoText]

theorem libraries_documented : libraries.Documented where
  python := validators_documented
  json := validators_documented
  parses text value read := by
    by_cases shallow : value.depth ≤ 200 <;>
      simp [libraries, read, Option.filter, shallow]

theorem percentage_oneLine : '\n' ∉ "99.5".toList := by
  decide

def rust : LanguageEntry where
  name := "Rust"
  percentage := { text := "99.5", oneLine := percentage_oneLine }
  color := some "#dea584"

def snapshot : ResearchJobStateSnapshot where
  jobId := "job-1"
  status := .completed
  progressMsg := "Repository research completed"
  updatedAt := noon
  instantData := some {
    name := "Rocket"
    stars := 1
    forks := 0
    languages := [rust]
    recentCommits := [{ sha := "c0ffee1", message := "Lift off 🚀", committedAt := noon }]
    name_minLength := name_ne
  }
  aiFallback := some false

theorem snapshot_finite : snapshot.IsFinite := by
  rintro metadata ⟨⟩ entry member
  rw [List.mem_singleton.mp member]
  rfl

def options : List (String × Json) :=
  [("depth", .int 2), ("labels", .array [.string "a\"b", .null, .float "1e-05"])]

theorem options_dictionary : IsDictionary options := by
  have distinct : ["depth", "labels"].Nodup := by decide
  refine ⟨distinct, trivial, ?_⟩
  exact ⟨⟨trivial, trivial, rfl, trivial⟩, trivial⟩

/-- A message with options, and the item the broker hands out for it. -/
def order : ResearchJobMessage :=
  { message with options }

theorem order_legible : SQSMessageQueueAdapter.Legible libraries order := by
  decide +kernel

/-- The item the broker hands out for the first message ever sent. -/
def handed (message : ResearchJobMessage) : ResponseItem where
  receiptHandle := { message := 0, receive := 1 }
  body := SQSMessageQueueAdapter.messageText libraries message
  approximateReceiveCount := some 1

theorem handed_from (message : ResearchJobMessage) (after : Mailbox) :
    (handed message).From (SQSMessageQueueAdapter.messageText libraries message :: after) :=
  ⟨rfl, by simp [handed]⟩

/-- Arrays one inside the other. -/
def nested : Nat → Json
  | 0 => .array []
  | level + 1 => .array [nested level]

theorem nested_wellFormed (level : Nat) : (nested level).WellFormed := by
  induction level with
  | zero => exact trivial
  | succ level ih => exact ⟨ih, trivial⟩

/-- A message whose options are nested deeper than the parser goes. -/
def deepOrder : ResearchJobMessage :=
  { message with options := [("depth", nested 220)] }

theorem dictionary_singleton (key : String) {value : Json} (wellFormed : value.WellFormed) :
    IsDictionary [(key, value)] :=
  ⟨List.pairwise_singleton _ key, wellFormed, trivial⟩

theorem deepOrder_dictionary : IsDictionary deepOrder.options :=
  dictionary_singleton "depth" (nested_wellFormed 220)

theorem deepOrder_not_legible : ¬ SQSMessageQueueAdapter.Legible libraries deepOrder := by
  decide +kernel

end Sample

open SQSMessageQueueAdapter Sample in
theorem receive_handed {message : ResearchJobMessage} (options : IsDictionary message.options)
    (deep : ¬ Legible libraries message) :
    ∃ error, receive libraries [handed message] = .error error := by
  have decoded := decodeItem_readItem libraries_documented options (handed_from message []) rfl
  rw [if_neg deep] at decoded
  obtain ⟨error, raised⟩ := decoded
  refine ⟨error, ?_⟩
  rw [receive, List.map_singleton, decodeBatch, raised]
  rfl

end ResearchTool
