/-
Durable delivery of journal events (`events/delivery.py`, `events/bus.py`, and
`JournaledEventRuntime` in `events/journal.py`).

A consumer is called with every event of the journal in order, and its progress
is kept in a checkpoint of its own.  The environment decides what becomes of a
call (`Outcome`): the handler fails, or it returns and the checkpoint is not
written, or the checkpoint is written.  A process that dies during a call leaves
what the first or the second of these leaves, and nothing for the consumers after
it, so a crash is a failing call followed by a restart.

Beside its checkpoint the model keeps the list of the calls that returned
(`Consumer.handled`), which no function reads.  A checkpoint has no time here: it
is written and never compared.

* `validateNext`, `busReplay`: the checks of a chain of events;
* `nextIndex`, `deliverEvent`, `deliverPending`, `deliverNext`: the checkpoint
  store;
* `EventSystem`, `publish`, `subscribeDurable`, `restart`: the runtime;
* `DeliveryOp`, `EventSystem.step`: what can happen.
-/
import Ai4Binance.Events.DomainEvent
import Ai4Binance.Lib.Run

open Text Check

namespace Ai4Binance

/-! ### Chains of events -/

/-- `_validate_next_event`. -/
def validateNext (capacity : ℕ) (events : List DomainEvent) (event : DomainEvent) :
    Except PyError Unit := do
  raiseIf (capacity ≤ events.length) (.overflow "event journal capacity exceeded")
  raiseIf (event.eventId ∈ events.map (·.eventId)) (.value "duplicate event identity")
  raiseIf (event.sequence ≠ events.length + 1) (.value "event sequence is not contiguous")
  raiseIf (event.previousHash ≠ (events.getLast?.map (·.eventHash)).getD "GENESIS")
    (.value "event hash chain is broken")
  raiseIf (events.getLast?.any (event.occurredAt < ·.occurredAt))
    (.value "event time cannot move backwards")

/-- `DeterministicEventBus.replay` onto the events of a bus. -/
def busReplay (capacity : ℕ) (events : List DomainEvent) :
    List DomainEvent → Except PyError (List DomainEvent)
  | [] => .ok events
  | event :: rest => do
      validateNext capacity events event
      busReplay capacity (events ++ [event]) rest

/-- `_validated_event_snapshot`. -/
def validatedEventSnapshot (events : List DomainEvent) : Except PyError (List DomainEvent) :=
  if 1000000 < events.length then
    .error (.runtime "durable delivery history exceeds capacity")
  else
    match busReplay (max 1 events.length) [] events with
    | .ok _ => .ok events
    | .error _ => .error (.runtime "durable delivery event history is invalid")

/-! ### Checkpoints -/

/-- The part of a delivery that its idempotency key covers. -/
structure DeliveryIdentity where
  consumerId : String
  eventHash : String
  eventId : String
  sequence : ℕ
  deriving DecidableEq, Repr

/-- What identifies the delivery of an event to a consumer. -/
def deliveryIdentity (consumerId : String) (event : DomainEvent) : DeliveryIdentity :=
  ⟨consumerId, event.eventHash, event.eventId, event.sequence⟩

/-- `durable_event_idempotency_key`. -/
def durableEventIdempotencyKey [CanonicalDigest DeliveryIdentity] (consumerId : String)
    (event : DomainEvent) : String :=
  CanonicalDigest.hexdigest (deliveryIdentity consumerId event)

/-- `_validate_consumer_id`: the pattern of a consumer. -/
def validConsumerId (consumerId : String) : Bool :=
  match consumerId.toList with
  | [] => false
  | first :: rest => first.isAlphanum && rest.length ≤ 127 &&
      rest.all fun c => c.isAlphanum || "_.:-".toList.contains c

/-- `_is_sha256`. -/
def isSha256Digest (text : String) : Bool :=
  text.length = 64 && text.toList.all fun c => "0123456789abcdef".toList.contains c

/-- `DurableConsumerCheckpoint`. -/
structure DurableConsumerCheckpoint where
  consumerId : String
  sequence : ℕ
  eventId : String
  eventHash : String
  deriving DecidableEq, Repr

/-- The checkpoint that names an event. -/
def checkpointOf (consumerId : String) (event : DomainEvent) : DurableConsumerCheckpoint :=
  ⟨consumerId, event.sequence, event.eventId, event.eventHash⟩

/-- The checks of a checkpoint that depend on its event. -/
def checkpointChecks (event : DomainEvent) : List (Bool × String) :=
  [(event.sequence < 1, "durable consumer checkpoint sequence is invalid"),
    (isBlank event.eventId, "durable consumer checkpoint event identity is invalid"),
    (¬ isSha256Digest event.eventHash, "durable consumer checkpoint event hash is invalid")]

/-- `_next_index`: the number of events a checkpoint covers. -/
def nextIndex (checkpoint : Option DurableConsumerCheckpoint) (consumerId : String)
    (events : List DomainEvent) : Except PyError ℕ :=
  match checkpoint with
  | none => .ok 0
  | some c =>
      if c.consumerId ≠ consumerId then
        .error (.runtime "durable consumer checkpoint identity does not match consumer")
      else
        match events[c.sequence - 1]? with
        | none => .error (.runtime "durable consumer checkpoint sequence exceeds journal")
        | some matched =>
            if matched.sequence ≠ c.sequence then
              .error (.runtime "durable consumer checkpoint sequence does not match journal")
            else if matched.eventId ≠ c.eventId then
              .error (.runtime
                "durable consumer checkpoint event identity does not match journal")
            else if matched.eventHash ≠ c.eventHash then
              .error (.runtime "durable consumer checkpoint event hash does not match journal")
            else .ok c.sequence

/-! ### Deliveries -/

/-- What becomes of a call of a handler. -/
inductive Outcome where
  | handlerFailed
  | checkpointLost
  | delivered
  deriving DecidableEq, Repr

/-- A consumer: its checkpoint, and the calls of its handler that returned, each
with whether its checkpoint was written. -/
structure Consumer where
  checkpoint : Option DurableConsumerCheckpoint := none
  handled : List (DomainEvent × Bool) := []
  deriving DecidableEq

namespace Consumer

/-- The handler returned, and no checkpoint was written. -/
def handle (c : Consumer) (event : DomainEvent) : Consumer :=
  { c with handled := c.handled ++ [(event, false)] }

/-- The handler returned, and the checkpoint of the event was written. -/
def commit (c : Consumer) (consumerId : String) (event : DomainEvent) : Consumer where
  checkpoint := some (checkpointOf consumerId event)
  handled := c.handled ++ [(event, true)]

/-- The error of a delivery that failed. -/
def deliveryFailed (event : DomainEvent) : Except PyError Unit :=
  .error (.runtime ("durable consumer delivery failed at sequence " ++ toString event.sequence))

/-- `_deliver_event_unlocked`. -/
def deliverEvent (c : Consumer) (consumerId : String) (event : DomainEvent) :
    Outcome → Consumer × Except PyError Unit
  | .handlerFailed => (c, deliveryFailed event)
  | .checkpointLost => (c.handle event, deliveryFailed event)
  | .delivered =>
      if Passes (checkpointChecks event) then (c.commit consumerId event, .ok ())
      else (c.handle event, deliveryFailed event)

/-- The loop of `deliver_pending`. -/
def deliverAll (c : Consumer) (consumerId : String) (outcome : DomainEvent → Outcome) :
    List DomainEvent → Consumer × Except PyError Unit
  | [] => (c, .ok ())
  | event :: rest =>
      match c.deliverEvent consumerId event (outcome event) with
      | (c', .ok ()) => c'.deliverAll consumerId outcome rest
      | (c', .error e) => (c', .error e)

/-- `deliver_pending`. -/
def deliverPending (c : Consumer) (consumerId : String) (outcome : DomainEvent → Outcome)
    (events : List DomainEvent) : Consumer × Except PyError Unit :=
  match validatedEventSnapshot events with
  | .error e => (c, .error e)
  | .ok snapshot =>
      match nextIndex c.checkpoint consumerId snapshot with
      | .error e => (c, .error e)
      | .ok next => c.deliverAll consumerId outcome (snapshot.drop next)

/-- `_checkpoint_matches_previous_event`. -/
def matchesPreviousEvent (checkpoint : DurableConsumerCheckpoint) (event : DomainEvent)
    (previousEvent : Option DomainEvent) : Bool :=
  match previousEvent with
  | none => false
  | some previous =>
      checkpoint.sequence + 1 = event.sequence && previous.sequence = checkpoint.sequence &&
        previous.eventId = checkpoint.eventId && previous.eventHash = checkpoint.eventHash &&
        event.previousHash = previous.eventHash

/-- The delivery at the end of `deliver_next`. -/
def deliverTrue (c : Consumer) (consumerId : String) (outcome : DomainEvent → Outcome)
    (event : DomainEvent) : Consumer × Except PyError Bool :=
  ((c.deliverEvent consumerId event (outcome event)).1,
    (c.deliverEvent consumerId event (outcome event)).2.map fun _ => true)

/-- `deliver_next`. -/
def deliverNext (c : Consumer) (consumerId : String) (outcome : DomainEvent → Outcome)
    (event : DomainEvent) (previousEvent : Option DomainEvent) :
    Consumer × Except PyError Bool :=
  match c.checkpoint with
  | none =>
      if event.sequence ≠ 1 then (c, .ok false) else c.deliverTrue consumerId outcome event
  | some checkpoint =>
      if checkpoint.consumerId ≠ consumerId then
        (c, .error (.runtime "durable consumer checkpoint identity does not match consumer"))
      else if checkpoint.sequence = event.sequence then
        if checkpoint.eventId ≠ event.eventId ∨ checkpoint.eventHash ≠ event.eventHash then
          (c, .error (.runtime "durable consumer checkpoint does not match delivered event"))
        else (c, .ok true)
      else if matchesPreviousEvent checkpoint event previousEvent then
        c.deliverTrue consumerId outcome event
      else (c, .ok false)

end Consumer

/-! ### The runtime -/

/-- `JournaledEventRuntime`: the bus, the last event it took, and the registered
consumers. -/
structure JournaledEventRuntime where
  busEvents : List DomainEvent := []
  busCapacity : ℕ := 100000
  latestEvent : Option DomainEvent := none
  durableConsumers : List String := []

/-- The journal and the checkpoint store on disk, and the process that uses them;
there is none when the last one could not open the journal. -/
structure EventSystem where
  journal : DiskEventJournal := {}
  consumers : String → Consumer := fun _ => {}
  runtime : Option JournaledEventRuntime := none

/-- What the environment does during a call: what becomes of every call of a
handler, and for which consumers the journal can be read again. -/
structure Environment where
  outcome : String → DomainEvent → Outcome
  readable : String → Bool := fun _ => true

/-- `journal.load()` during a call. -/
def Environment.load (env : Environment) (consumerId : String) (events : List DomainEvent) :
    Option (List DomainEvent) :=
  if env.readable consumerId then some events else none

/-- What the loop of `publish` carries from one consumer to the next: the store, and
the history once it was read. -/
structure Dispatch where
  consumers : String → Consumer
  history : Option (List DomainEvent) := none

namespace Dispatch

variable (env : Environment)

/-- `deliver_pending` for a consumer over a history. -/
def catchUp (d : Dispatch) (consumerId : String) (history : List DomainEvent) : Dispatch where
  consumers := Function.update d.consumers consumerId
    ((d.consumers consumerId).deliverPending consumerId (env.outcome consumerId) history).1
  history := some history

/-- `deliver_next` for a consumer, and the reading of the history if it asks for
it. -/
def advance (d : Dispatch) (events : List DomainEvent) (event : DomainEvent)
    (previousEvent : Option DomainEvent) (consumerId : String) : Dispatch :=
  let (c, delivered) := (d.consumers consumerId).deliverNext consumerId (env.outcome consumerId)
    event previousEvent
  let next := { d with consumers := Function.update d.consumers consumerId c }
  match delivered, env.load consumerId events with
  | .ok false, some history => next.catchUp env consumerId history
  | _, _ => next

/-- One consumer of the loop of `publish`. -/
def serve (d : Dispatch) (events : List DomainEvent) (event : DomainEvent)
    (previousEvent : Option DomainEvent) (busCommitted : Bool) (consumerId : String) : Dispatch :=
  match d.history with
  | some history => d.catchUp env consumerId history
  | none => if busCommitted then d.advance env events event previousEvent consumerId else d

end Dispatch

namespace EventSystem

variable (encodedSize : DomainEvent → ℕ) (env : Environment)

/-- `JournaledEventRuntime.publish` after the event was appended: the bus, and the
consumers in the order of their names. -/
def dispatch (s : EventSystem) (runtime : JournaledEventRuntime) (event : DomainEvent) :
    EventSystem :=
  let accepted := (validateNext runtime.busCapacity runtime.busEvents event).isOk
  let busEvents := if accepted then runtime.busEvents ++ [event] else runtime.busEvents
  let busCommitted := accepted || busEvents.getLast? = some event
  let history := if busCommitted then none else env.load "" s.journal.events
  let served : Dispatch := (runtime.durableConsumers.insertionSort (· ≤ ·)).foldl
    (fun d consumerId => Dispatch.serve env d s.journal.events event runtime.latestEvent
      busCommitted consumerId) ⟨s.consumers, history⟩
  { s with
    consumers := served.consumers
    runtime := some { runtime with
      busEvents
      latestEvent := if busCommitted then some event else runtime.latestEvent } }

/-- `JournaledEventRuntime.publish`.  The failures it collects are raised after the
last consumer and change nothing. -/
def publish (s : EventSystem) (event : DomainEvent) : EventSystem :=
  match s.runtime, s.journal.append encodedSize event with
  | some runtime, .ok journal => { s with journal }.dispatch env runtime event
  | _, _ => s

/-- `JournaledEventRuntime.subscribe_durable`. -/
def subscribeDurable (s : EventSystem) (consumerId : String) : EventSystem :=
  match s.runtime, env.load consumerId s.journal.events with
  | some runtime, some history =>
      if consumerId ∈ runtime.durableConsumers ∨ ¬ validConsumerId consumerId then s
      else
        let (c, result) := (s.consumers consumerId).deliverPending consumerId
          (env.outcome consumerId) history
        { s with
          consumers := Function.update s.consumers consumerId c
          runtime := some (match result with
            | .ok () => { runtime with durableConsumers := runtime.durableConsumers ++ [consumerId] }
            | .error _ => runtime) }
  | _, _ => s

/-- The process ends, and `JournaledEventRuntime.open` starts another one. -/
def restart (s : EventSystem) (capacity : ℕ) : EventSystem :=
  { s with
    runtime := match busReplay capacity [] s.journal.events with
      | .ok busEvents => some
          { busEvents, busCapacity := capacity, latestEvent := busEvents.getLast? }
      | .error _ => none }

/-- Another process appends an event to the journal. -/
def appendElsewhere (s : EventSystem) (event : DomainEvent) : EventSystem :=
  match s.journal.append encodedSize event with
  | .ok journal => { s with journal }
  | .error _ => s

end EventSystem

/-- What can happen to a system. -/
inductive DeliveryOp where
  | publish (env : Environment) (event : DomainEvent)
  | subscribeDurable (env : Environment) (consumerId : String)
  | restart (capacity : ℕ)
  | appendElsewhere (event : DomainEvent)

/-- The state after an operation. -/
def EventSystem.step (encodedSize : DomainEvent → ℕ) (s : EventSystem) : DeliveryOp → EventSystem
  | .publish env event => s.publish encodedSize env event
  | .subscribeDurable env consumerId => s.subscribeDurable env consumerId
  | .restart capacity => s.restart capacity
  | .appendElsewhere event => s.appendElsewhere encodedSize event

end Ai4Binance
