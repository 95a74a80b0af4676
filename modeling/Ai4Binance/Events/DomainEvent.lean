/-
Domain events (`events/models.py`) and the append-only journal that keeps them
(`events/journal.py`, `events/bus.py`).

* `DomainEvent`: one ordered event of an aggregate, with a sorted dictionary of
  texts as payload;
* `DomainEvent.create`: the constructor, with its checks and the content hash;
* `DiskEventJournal.append`: an event is validated against the stored tail and
  written, or the journal is left as it is.
-/
import Ai4Binance.Lib.Python
import Ai4Binance.Lib.SortedMap
import Ai4Binance.Lib.Text
import Mathlib.Data.String.Basic

open Text Check

namespace Ai4Binance

/-- A dictionary of texts. -/
abbrev Payload := SortedMap String String

/-- The part of an event that its hash covers. -/
structure EventContent where
  eventId : String
  aggregateId : String
  eventType : String
  sequence : ℕ
  occurredAt : ℤ
  payload : Payload
  previousHash : String
  deriving DecidableEq

/-- `DomainEvent`.  The time is an instant: the constructor refuses a naive
one. -/
structure DomainEvent extends EventContent where
  eventHash : String
  deriving DecidableEq

namespace DomainEvent

/-- `DomainEvent.create`, with the checks of `__post_init__`. -/
def create [CanonicalDigest EventContent] (eventId aggregateId eventType : String)
    (sequence : ℕ) (occurredAt : Datetime) (payload : Payload) (previousHash : String) :
    Except PyError DomainEvent := do
  raiseIf (isBlank eventId || isBlank aggregateId || isBlank eventType || sequence < 1)
    (.value "event identity and positive sequence are required")
  match occurredAt with
  | .naive _ => throw (.value "event timestamp must be timezone-aware")
  | .aware instant =>
      raiseIf (payload.entries.any fun p => isBlank p.1)
        (.value "event payload keys must be non-empty and unique")
      let content : EventContent :=
        { eventId, aggregateId, eventType, sequence, occurredAt := instant, payload, previousHash }
      pure { content with eventHash := CanonicalDigest.hexdigest content }

end DomainEvent

/-! ### The journal -/

/-- `DiskEventJournal`: the events of the file, oldest first, and the limits. -/
structure DiskEventJournal where
  events : List DomainEvent := []
  maximumEventBytes : ℕ := 65536
  maximumJournalBytes : ℕ := 134217728

namespace DiskEventJournal

/-- `_capacity`. -/
def capacity (j : DiskEventJournal) : ℕ := min 1000000 (max 1 (j.maximumJournalBytes / 256))

/-- `_validate_next_event`. -/
def validateNextEvent (j : DiskEventJournal) (event : DomainEvent) : Except PyError Unit := do
  raiseIf (j.capacity ≤ j.events.length) (.overflow "event journal capacity exceeded")
  raiseIf (event.eventId ∈ j.events.map (·.eventId)) (.value "duplicate event identity")
  raiseIf (event.sequence ≠ j.events.length + 1) (.value "event sequence is not contiguous")
  raiseIf (event.previousHash ≠ (j.events.getLast?.map (·.eventHash)).getD "GENESIS")
    (.value "event hash chain is broken")
  raiseIf (j.events.getLast?.any (event.occurredAt < ·.occurredAt))
    (.value "event time cannot move backwards")

/-- `append`.  `encodedSize` is the length of an event's line in bytes. -/
def append (encodedSize : DomainEvent → ℕ) (j : DiskEventJournal) (event : DomainEvent) :
    Except PyError DiskEventJournal := do
  j.validateNextEvent event
  raiseIf (j.maximumEventBytes < encodedSize event)
    (.overflow "event record exceeds byte capacity")
  raiseIf (j.maximumJournalBytes < (j.events.map encodedSize).sum + encodedSize event)
    (.overflow "event journal byte capacity exceeded")
  pure { j with events := j.events ++ [event] }

/-- Appending the events one by one; an exception leaves the journal as far as
it was written. -/
def appendAll (encodedSize : DomainEvent → ℕ) (j : DiskEventJournal) :
    List DomainEvent → DiskEventJournal × Except PyError Unit
  | [] => (j, .ok ())
  | event :: rest =>
      match j.append encodedSize event with
      | .error e => (j, .error e)
      | .ok j' => j'.appendAll encodedSize rest

end DiskEventJournal

end Ai4Binance
