/-
Durable consumers get the journal in order, at least once.

Whatever is published, fails or is restarted, the events a consumer handled are,
without repeats, the first events of the journal, and its checkpoint names the
last of them whose checkpoint was written: the last one, or the one before it
when the checkpoint of the last call was lost.  Both rest on one fact: a consumer
is only ever called with the event after its checkpoint.

* `SoundJournal`, `removeRepeats`: the journal, and a list of calls without
  repeats;
* `Consumer.Ordered`, `Consumer.Progress`: the progress of a consumer;
* `Progress.deliverEvent`, `Progress.deliverAll`, `Progress.deliverNext`: what a
  delivery leaves of it;
* `Progress.deliverEach_eq`: event by event, a consumer gets as far as at once;
* `EventSystem.delivery_is_ordered`: whole runs.
-/
import Ai4Binance.Events.Delivery

open Text Check

namespace Ai4Binance

/-! ### The journal -/

/-- The events are numbered from one on. -/
def Sequenced (events : List DomainEvent) : Prop :=
  ∀ i event, events[i]? = some event → event.sequence = i + 1

/-- What every journal that was appended to satisfies: it is numbered, every event
names the hash of the one before, and it is accepted as a history. -/
structure SoundJournal (events : List DomainEvent) : Prop where
  sequenced : Sequenced events
  linked : ∀ i previous event, events[i]? = some previous → events[i + 1]? = some event →
    event.previousHash = previous.eventHash
  replays : ∀ capacity, events.length ≤ capacity → busReplay capacity [] events = .ok events
  length_le : events.length ≤ 1000000

lemma SoundJournal.nil : SoundJournal [] :=
  ⟨by simp [Sequenced], by simp, fun _ _ => rfl, by simp⟩

lemma busReplay_snoc (capacity : ℕ) (acc events : List DomainEvent) (event : DomainEvent) :
    busReplay capacity acc (events ++ [event]) = (do
      let replayed ← busReplay capacity acc events
      validateNext capacity replayed event
      return replayed ++ [event]) := by
  induction events generalizing acc with
  | nil => rfl
  | cons e rest ih =>
    rw [List.cons_append, busReplay, busReplay]
    cases validateNext capacity acc e with
    | error err => rfl
    | ok _ => exact ih _

/-- The checks of a next event, beside the capacity. -/
lemma validateNext_eq_ok {capacity : ℕ} {events : List DomainEvent} {event : DomainEvent} :
    validateNext capacity events event = .ok () ↔ events.length < capacity ∧
      event.eventId ∉ events.map (·.eventId) ∧ event.sequence = events.length + 1 ∧
      event.previousHash = (events.getLast?.map (·.eventHash)).getD "GENESIS" ∧
      ¬ events.getLast?.any (event.occurredAt < ·.occurredAt) := by
  simp only [validateNext, bind_eq_ok, raiseIf_eq_ok, not_le, not_not]
  constructor
  · rintro ⟨_, h1, _, h2, _, h3, _, h4, h5⟩
    exact ⟨h1, h2, h3, h4, h5⟩
  · rintro ⟨h1, h2, h3, h4, h5⟩
    exact ⟨(), h1, (), h2, (), h3, (), h4, h5⟩

/-- An accepted event is added at the end. -/
lemma append_eq_ok {encodedSize : DomainEvent → ℕ} {j j' : DiskEventJournal} {event : DomainEvent}
    (h : j.append encodedSize event = .ok j') :
    validateNext j.capacity j.events event = .ok () ∧ j'.events = j.events ++ [event] := by
  simp only [DiskEventJournal.append, bind_eq_ok, raiseIf_eq_ok, pure_eq_ok] at h
  obtain ⟨_, hvalid, _, -, _, -, rfl⟩ := h
  exact ⟨hvalid, rfl⟩

/-- An accepted event keeps the journal sound. -/
lemma SoundJournal.append {encodedSize : DomainEvent → ℕ} {j j' : DiskEventJournal}
    {event : DomainEvent} (hs : SoundJournal j.events) (h : j.append encodedSize event = .ok j') :
    SoundJournal j'.events := by
  obtain ⟨hvalid, hevents⟩ := append_eq_ok h
  obtain ⟨hcapacity, hid, hsequence, hprevious, htime⟩ := validateNext_eq_ok.mp hvalid
  rw [hevents]
  refine ⟨fun i e hi => ?_, fun i previous e hprev hi => ?_, fun capacity hle => ?_, ?_⟩
  · rcases Nat.lt_trichotomy i j.events.length with hlt | rfl | hgt
    · rw [List.getElem?_append_left hlt] at hi
      exact hs.sequenced i e hi
    · rw [List.getElem?_concat_length] at hi
      obtain rfl := Option.some.inj hi
      exact hsequence
    · rw [List.getElem?_eq_none (by simp; omega)] at hi
      cases hi
  · rcases Nat.lt_trichotomy (i + 1) j.events.length with hlt | heq | hgt
    · rw [List.getElem?_append_left hlt] at hi
      rw [List.getElem?_append_left (by omega)] at hprev
      exact hs.linked i previous e hprev hi
    · rw [heq, List.getElem?_concat_length] at hi
      obtain rfl := Option.some.inj hi
      rw [List.getElem?_append_left (by omega)] at hprev
      have hlast : j.events.getLast? = some previous := by
        rw [List.getLast?_eq_getElem?, ← heq, Nat.add_sub_cancel, hprev]
      rw [hprevious, hlast]
      rfl
    · rw [List.getElem?_eq_none (by simp; omega)] at hi
      cases hi
  · have hlt : j.events.length < capacity := by simpa using hle
    rw [busReplay_snoc, hs.replays capacity hlt.le, ok_bind,
      validateNext_eq_ok.mpr ⟨hlt, hid, hsequence, hprevious, htime⟩, ok_bind]
    rfl
  · have hbound : j.capacity ≤ 1000000 := min_le_left _ _
    rw [List.length_append, List.length_singleton]
    omega

/-- A sound journal is accepted as a history. -/
lemma SoundJournal.snapshot {events : List DomainEvent} (h : SoundJournal events) :
    validatedEventSnapshot events = .ok events := by
  rw [validatedEventSnapshot, if_neg (not_lt.mpr h.length_le), h.replays _ (le_max_right _ _)]

lemma take_succ_of_getElem? {events : List DomainEvent} {event : DomainEvent} {m : ℕ}
    (hevent : events[m]? = some event) : events.take (m + 1) = events.take m ++ [event] := by
  rw [List.take_add_one, hevent]
  rfl

lemma getLast?_take_succ {events : List DomainEvent} {event : DomainEvent} {m : ℕ}
    (hevent : events[m]? = some event) : (events.take (m + 1)).getLast? = some event := by
  rw [take_succ_of_getElem? hevent, List.getLast?_concat]

/-! ### Progress -/

variable [CanonicalDigest DeliveryIdentity]

/-- The events of a list of calls, without those whose idempotency key came
before. -/
def removeRepeats (consumerId : String) (calls : List DomainEvent) : List DomainEvent :=
  calls.foldl (fun seen event =>
    if durableEventIdempotencyKey consumerId event ∈
        seen.map (durableEventIdempotencyKey consumerId) then seen
    else seen ++ [event]) []

/-- No two events of the journal share their idempotency key. -/
def KeysDiffer (consumerId : String) (events : List DomainEvent) : Prop :=
  ∀ e ∈ events, ∀ e' ∈ events,
    durableEventIdempotencyKey consumerId e = durableEventIdempotencyKey consumerId e' →
      deliveryIdentity consumerId e = deliveryIdentity consumerId e'

/-- The handled events are the first `n` of the journal, and the checkpoint names
the last of them, or the one before if the last call left no checkpoint. -/
def Consumer.Ordered (c : Consumer) (consumerId : String) (events : List DomainEvent) : Prop :=
  ∃ n ≤ events.length, removeRepeats consumerId (c.handled.map (·.1)) = events.take n ∧
    c.checkpoint = (events.take
      (if (c.handled.getLast?.map (·.2)).getD true then n else n - 1)).getLast?.map
        (checkpointOf consumerId)

/-- The checkpoint names the last of the first `m` events, and these are handled; a
call after them that left no checkpoint was for the next one. -/
structure Consumer.Progress (c : Consumer) (consumerId : String) (events : List DomainEvent)
    (m : ℕ) : Prop where
  le_length : m ≤ events.length
  checkpoint_eq : c.checkpoint = (events.take m).getLast?.map (checkpointOf consumerId)
  handled : (removeRepeats consumerId (c.handled.map (·.1)) = events.take m ∧
      (c.handled.getLast?.map (·.2)).getD true = true) ∨
    (m < events.length ∧ removeRepeats consumerId (c.handled.map (·.1)) = events.take (m + 1) ∧
      (c.handled.getLast?.map (·.2)).getD true = false)

namespace Consumer

variable {c : Consumer} {consumerId : String} {events : List DomainEvent} {event : DomainEvent}
  {m : ℕ}

lemma Progress.ordered (h : c.Progress consumerId events m) : c.Ordered consumerId events := by
  rcases h.handled with ⟨hhandled, hflag⟩ | ⟨hlt, hhandled, hflag⟩
  · refine ⟨m, h.le_length, hhandled, ?_⟩
    rw [hflag, if_pos rfl]
    exact h.checkpoint_eq
  · refine ⟨m + 1, hlt, hhandled, ?_⟩
    rw [hflag, if_neg Bool.false_ne_true, Nat.add_sub_cancel]
    exact h.checkpoint_eq

/-- A longer journal has the same first events. -/
lemma Progress.append (h : c.Progress consumerId events m) (more : List DomainEvent) :
    c.Progress consumerId (events ++ more) m := by
  have hle := h.le_length
  refine ⟨by simp; omega, ?_, ?_⟩
  · rw [List.take_append_of_le_length hle]
    exact h.checkpoint_eq
  · rcases h.handled with ⟨hhandled, hflag⟩ | ⟨hlt, hhandled, hflag⟩
    · left
      rw [List.take_append_of_le_length hle]
      exact ⟨hhandled, hflag⟩
    · right
      rw [List.take_append_of_le_length hlt]
      exact ⟨by simp; omega, hhandled, hflag⟩

lemma removeRepeats_snoc (calls : List DomainEvent) (event : DomainEvent) :
    removeRepeats consumerId (calls ++ [event]) =
      if durableEventIdempotencyKey consumerId event ∈
          (removeRepeats consumerId calls).map (durableEventIdempotencyKey consumerId) then
        removeRepeats consumerId calls
      else removeRepeats consumerId calls ++ [event] := by
  rw [removeRepeats, List.foldl_append]
  rfl

/-- A call with the event after the checkpoint makes the first `m + 1` events the
handled ones. -/
lemma Progress.removeRepeats_call (h : c.Progress consumerId events m) (hs : Sequenced events)
    (hkeys : KeysDiffer consumerId events) (hevent : events[m]? = some event) (flag : Bool) :
    removeRepeats consumerId ((c.handled ++ [(event, flag)]).map (·.1)) = events.take (m + 1) := by
  have hmem := List.mem_of_getElem? hevent
  rw [List.map_append, List.map_singleton, removeRepeats_snoc]
  rcases h.handled with ⟨hhandled, -⟩ | ⟨hlt, hhandled, -⟩
  · rw [hhandled, take_succ_of_getElem? hevent, if_neg]
    intro hin
    obtain ⟨e, he, hkey⟩ := List.mem_map.mp hin
    have hidentity := hkeys e (List.mem_of_mem_take he) event hmem hkey
    obtain ⟨i, hi⟩ := List.mem_iff_getElem?.mp he
    rw [List.getElem?_take] at hi
    split_ifs at hi with him
    have hsequence : e.sequence = event.sequence := congrArg DeliveryIdentity.sequence hidentity
    rw [hs i e hi, hs m event hevent] at hsequence
    omega
  · rw [hhandled, if_pos]
    rw [take_succ_of_getElem? hevent]
    simp

/-- The handler returned for the event after the checkpoint. -/
lemma Progress.handle (h : c.Progress consumerId events m) (hs : Sequenced events)
    (hkeys : KeysDiffer consumerId events) (hevent : events[m]? = some event) :
    (c.handle event).Progress consumerId events m := by
  have hlt : m < events.length := (List.getElem?_eq_some_iff.mp hevent).1
  refine ⟨h.le_length, h.checkpoint_eq, .inr ⟨hlt, h.removeRepeats_call hs hkeys hevent false, ?_⟩⟩
  rw [Consumer.handle, List.getLast?_concat]
  rfl

/-- The checkpoint of the event after the checkpoint was written. -/
lemma Progress.commit (h : c.Progress consumerId events m) (hs : Sequenced events)
    (hkeys : KeysDiffer consumerId events) (hevent : events[m]? = some event) :
    (c.commit consumerId event).Progress consumerId events (m + 1) := by
  have hlt : m < events.length := (List.getElem?_eq_some_iff.mp hevent).1
  refine ⟨hlt, ?_, .inl ⟨h.removeRepeats_call hs hkeys hevent true, ?_⟩⟩
  · rw [getLast?_take_succ hevent]
    rfl
  · rw [Consumer.commit, List.getLast?_concat]
    rfl

/-! ### Deliveries -/

/-- What a delivery of the event after the checkpoint leaves. -/
lemma Progress.deliverEvent (h : c.Progress consumerId events m) (hs : Sequenced events)
    (hkeys : KeysDiffer consumerId events) (hevent : events[m]? = some event) (outcome : Outcome) :
    ((c.deliverEvent consumerId event outcome).2 = .ok () ∧
      (c.deliverEvent consumerId event outcome).1.Progress consumerId events (m + 1)) ∨
    ((c.deliverEvent consumerId event outcome).2 = deliveryFailed event ∧
      (c.deliverEvent consumerId event outcome).1.Progress consumerId events m) := by
  cases outcome with
  | handlerFailed => exact .inr ⟨rfl, h⟩
  | checkpointLost => exact .inr ⟨rfl, h.handle hs hkeys hevent⟩
  | delivered =>
    simp only [Consumer.deliverEvent]
    split_ifs
    · exact .inl ⟨rfl, h.commit hs hkeys hevent⟩
    · exact .inr ⟨rfl, h.handle hs hkeys hevent⟩

/-- The deliveries from the checkpoint on. -/
lemma Progress.deliverAll (hs : Sequenced events) (hkeys : KeysDiffer consumerId events)
    (outcome : DomainEvent → Outcome) {pending : List DomainEvent}
    (h : c.Progress consumerId events m) (hpending : pending = events.drop m) :
    ∃ m', (c.deliverAll consumerId outcome pending).1.Progress consumerId events m' := by
  induction pending generalizing c m with
  | nil => exact ⟨m, h⟩
  | cons event rest ih =>
    have hevent : events[m]? = some event := by
      rw [← List.head?_drop, ← hpending]
      rfl
    have hrest : rest = events.drop (m + 1) := by
      rw [← List.tail_drop, ← hpending]
      rfl
    rw [Consumer.deliverAll]
    have hstep := h.deliverEvent hs hkeys hevent (outcome event)
    revert hstep
    cases c.deliverEvent consumerId event (outcome event) with
    | mk c' result =>
      rintro (⟨hok, hprogress⟩ | ⟨hfailed, hprogress⟩)
      · obtain rfl : result = .ok () := hok
        exact ih hprogress hrest
      · obtain rfl : result = deliveryFailed event := hfailed
        exact ⟨m, hprogress⟩

/-- No checkpoint is written before the first delivery. -/
lemma Progress.checkpoint_none_iff (h : c.Progress consumerId events m) :
    c.checkpoint = none ↔ m = 0 := by
  have hle := h.le_length
  rw [h.checkpoint_eq, Option.map_eq_none_iff, List.getLast?_eq_none_iff, List.take_eq_nil_iff]
  constructor
  · rintro (hzero | hnil)
    · exact hzero
    · rw [hnil, List.length_nil] at hle
      omega
  · exact .inl

/-- A checkpoint names the event at its place of the journal. -/
lemma Progress.checkpoint_some (h : c.Progress consumerId events m)
    {checkpoint : DurableConsumerCheckpoint} (hc : c.checkpoint = some checkpoint) :
    ∃ k last, m = k + 1 ∧ events[k]? = some last ∧ checkpoint = checkpointOf consumerId last := by
  obtain _ | k := m
  · rw [h.checkpoint_none_iff.mpr rfl] at hc
    cases hc
  · have hlt : k < events.length := h.le_length
    refine ⟨k, events[k], rfl, List.getElem?_eq_getElem hlt, ?_⟩
    have heq := h.checkpoint_eq
    rw [hc, getLast?_take_succ (List.getElem?_eq_getElem hlt)] at heq
    exact Option.some.inj heq

/-- A consumer goes on after its checkpoint. -/
lemma Progress.nextIndex_eq (h : c.Progress consumerId events m) (hs : Sequenced events) :
    nextIndex c.checkpoint consumerId events = .ok m := by
  cases hc : c.checkpoint with
  | none =>
    rw [h.checkpoint_none_iff.mp hc]
    rfl
  | some checkpoint =>
    obtain ⟨k, last, rfl, hlast, rfl⟩ := h.checkpoint_some hc
    have hsequence := hs k last hlast
    have hplace : (checkpointOf consumerId last).sequence - 1 = k := by
      rw [checkpointOf, hsequence, Nat.add_sub_cancel]
    simp only [nextIndex]
    rw [hplace, hlast]
    simp [checkpointOf, hsequence]

/-- `deliver_pending` of a sound journal delivers the events after the
checkpoint. -/
lemma Progress.deliverPending_eq (h : c.Progress consumerId events m) (hs : SoundJournal events)
    (outcome : DomainEvent → Outcome) :
    c.deliverPending consumerId outcome events =
      c.deliverAll consumerId outcome (events.drop m) := by
  rw [Consumer.deliverPending, hs.snapshot]
  dsimp only
  rw [h.nextIndex_eq hs.sequenced]

/-- `deliver_next` delivers an event of the journal only if it comes after the
checkpoint. -/
lemma Progress.deliverNext_cases (h : c.Progress consumerId events m) (hs : Sequenced events)
    (outcome : DomainEvent → Outcome) (previousEvent : Option DomainEvent) {k : ℕ}
    (hevent : events[k]? = some event) :
    (c.deliverNext consumerId outcome event previousEvent).1 = c ∨
      k = m ∧ c.deliverNext consumerId outcome event previousEvent =
        c.deliverTrue consumerId outcome event := by
  have hsequence := hs k event hevent
  rw [Consumer.deliverNext]
  cases hc : c.checkpoint with
  | none =>
    dsimp only
    by_cases hfirst : event.sequence = 1
    · right
      rw [if_neg (not_not.mpr hfirst), h.checkpoint_none_iff.mp hc]
      exact ⟨by omega, rfl⟩
    · left
      rw [if_pos hfirst]
  | some checkpoint =>
    obtain ⟨j, last, rfl, hlast, rfl⟩ := h.checkpoint_some hc
    have hown : ¬ (checkpointOf consumerId last).consumerId ≠ consumerId := not_not.mpr rfl
    dsimp only
    rw [if_neg hown]
    by_cases hsame : (checkpointOf consumerId last).sequence = event.sequence
    · left
      rw [if_pos hsame]
      split_ifs <;> rfl
    · rw [if_neg hsame]
      by_cases hmatch : matchesPreviousEvent (checkpointOf consumerId last) event previousEvent
      · right
        rw [if_pos hmatch]
        refine ⟨?_, rfl⟩
        cases previousEvent with
        | none => cases hmatch
        | some previous =>
          simp only [matchesPreviousEvent, Bool.and_eq_true, decide_eq_true_eq] at hmatch
          have hnext : last.sequence + 1 = event.sequence := hmatch.1.1.1.1
          have hlastSequence := hs j last hlast
          omega
      · left
        rw [if_neg hmatch]

/-- `deliver_next` delivers the event after the checkpoint, if it is given the one
before. -/
lemma Progress.deliverNext_eq (h : c.Progress consumerId events m) (hs : SoundJournal events)
    (outcome : DomainEvent → Outcome) (hevent : events[m]? = some event) :
    c.deliverNext consumerId outcome event (events.take m).getLast? =
      c.deliverTrue consumerId outcome event := by
  have hsequence := hs.sequenced m event hevent
  rw [Consumer.deliverNext]
  cases hc : c.checkpoint with
  | none =>
    dsimp only
    rw [if_neg]
    rw [h.checkpoint_none_iff.mp hc] at hsequence
    exact not_not.mpr hsequence
  | some checkpoint =>
    obtain ⟨j, last, rfl, hlast, rfl⟩ := h.checkpoint_some hc
    have hlastSequence := hs.sequenced j last hlast
    have hlinked := hs.linked j last event hlast hevent
    have hown : ¬ (checkpointOf consumerId last).consumerId ≠ consumerId := not_not.mpr rfl
    dsimp only
    rw [if_neg hown, if_neg, getLast?_take_succ hlast, if_pos]
    · simp [matchesPreviousEvent, checkpointOf, hsequence, hlastSequence, hlinked]
    · have hne : last.sequence ≠ event.sequence := by omega
      exact hne

/-- What `deliver_next` leaves of a consumer's progress. -/
lemma Progress.deliverNext (h : c.Progress consumerId events m) (hs : Sequenced events)
    (hkeys : KeysDiffer consumerId events) (outcome : DomainEvent → Outcome)
    (previousEvent : Option DomainEvent) (hmem : event ∈ events) :
    ∃ m', (c.deliverNext consumerId outcome event previousEvent).1.Progress consumerId
      events m' := by
  obtain ⟨k, hk⟩ := List.mem_iff_getElem?.mp hmem
  rcases h.deliverNext_cases hs outcome previousEvent hk with hsame | ⟨rfl, hdelivered⟩
  · rw [hsame]
    exact ⟨m, h⟩
  · rw [hdelivered]
    rcases h.deliverEvent hs hkeys hk (outcome event) with ⟨-, hprogress⟩ | ⟨-, hprogress⟩
    · exact ⟨_, hprogress⟩
    · exact ⟨_, hprogress⟩

/-! ### Event by event -/

omit [CanonicalDigest DeliveryIdentity] in
lemma deliverAll_cons (c : Consumer) (outcome : DomainEvent → Outcome) (event : DomainEvent)
    (rest : List DomainEvent) :
    (c.deliverAll consumerId outcome (event :: rest)).1 =
      if (c.deliverEvent consumerId event (outcome event)).2 = .ok () then
        ((c.deliverEvent consumerId event (outcome event)).1.deliverAll consumerId outcome rest).1
      else (c.deliverEvent consumerId event (outcome event)).1 := by
  rw [Consumer.deliverAll]
  cases c.deliverEvent consumerId event (outcome event) with
  | mk c' result =>
    cases result with
    | ok u => rfl
    | error e => rfl

/-- The events of a list through `deliver_next`, each with the one before it. -/
def deliverEach (c : Consumer) (consumerId : String) (outcome : DomainEvent → Outcome) :
    Option DomainEvent → List DomainEvent → Consumer
  | _, [] => c
  | previous, event :: rest =>
      (c.deliverNext consumerId outcome event previous).1.deliverEach consumerId outcome
        (some event) rest

/-- The events that do not come after the checkpoint change nothing. -/
lemma Progress.deliverEach_skip (h : c.Progress consumerId events m) (hs : Sequenced events)
    (outcome : DomainEvent → Outcome) {k : ℕ} {previous : Option DomainEvent}
    {rest : List DomainEvent} (hrest : ∀ i event, rest[i]? = some event →
      events[k + i]? = some event) (hother : ∀ i < rest.length, k + i ≠ m) :
    c.deliverEach consumerId outcome previous rest = c := by
  induction rest generalizing k previous with
  | nil => rfl
  | cons event rest ih =>
    have hne : k ≠ m := hother 0 (by simp)
    have hsame : (c.deliverNext consumerId outcome event previous).1 = c := by
      rcases h.deliverNext_cases hs outcome previous (hrest 0 event rfl) with hsame | ⟨heq, -⟩
      · exact hsame
      · exact absurd heq hne
    rw [deliverEach, hsame]
    refine ih (k := k + 1) (fun i e hi => ?_) fun i hi => ?_
    · rw [Nat.add_right_comm]
      exact hrest (i + 1) e hi
    · rw [Nat.add_right_comm]
      exact hother (i + 1) (by simpa using hi)

/-- From the checkpoint on, event by event is `deliver_pending`: after a failure
no event comes after the checkpoint any more. -/
lemma Progress.deliverEach_drop (hs : SoundJournal events) (hkeys : KeysDiffer consumerId events)
    (outcome : DomainEvent → Outcome) {pending : List DomainEvent}
    (h : c.Progress consumerId events m) (hpending : pending = events.drop m) :
    c.deliverEach consumerId outcome (events.take m).getLast? pending =
      (c.deliverAll consumerId outcome pending).1 := by
  induction pending generalizing c m with
  | nil => rfl
  | cons event rest ih =>
    have hevent : events[m]? = some event := by
      rw [← List.head?_drop, ← hpending]
      rfl
    have hrest : rest = events.drop (m + 1) := by
      rw [← List.tail_drop, ← hpending]
      rfl
    have hnext := congrArg Prod.fst (h.deliverNext_eq hs outcome hevent)
    rw [deliverEach, hnext, deliverAll_cons, deliverTrue]
    rcases h.deliverEvent hs.sequenced hkeys hevent (outcome event) with
      ⟨hok, hprogress⟩ | ⟨hfailed, hprogress⟩
    · rw [if_pos hok, ← getLast?_take_succ hevent]
      exact ih hprogress hrest
    · rw [if_neg (by rw [hfailed]; exact fun hok => nomatch hok)]
      refine hprogress.deliverEach_skip hs.sequenced outcome (k := m + 1) (fun i e hi => ?_)
        fun i _ => by omega
      rw [hrest, List.getElem?_drop] at hi
      exact hi

omit [CanonicalDigest DeliveryIdentity] in
lemma deliverEach_append (c : Consumer) (outcome : DomainEvent → Outcome)
    (previous : Option DomainEvent) (first second : List DomainEvent) :
    c.deliverEach consumerId outcome previous (first ++ second) =
      (c.deliverEach consumerId outcome previous first).deliverEach consumerId outcome
        (first.getLast?.or previous) second := by
  induction first generalizing c previous with
  | nil => rfl
  | cons event first ih =>
    rw [List.cons_append, deliverEach, deliverEach, ih]
    congr 1
    cases hlast : first.getLast? with
    | none => simp [List.getLast?_eq_none_iff.mp hlast]
    | some e => simp [List.getLast?_cons, hlast]

/-- **Event by event, a consumer gets as far as with `deliver_pending`**, with the
same calls. -/
lemma Progress.deliverEach_eq (h : c.Progress consumerId events m) (hs : SoundJournal events)
    (hkeys : KeysDiffer consumerId events) (outcome : DomainEvent → Outcome) :
    c.deliverEach consumerId outcome none events =
      (c.deliverPending consumerId outcome events).1 := by
  have hle := h.le_length
  have hskip : c.deliverEach consumerId outcome none (events.take m) = c := by
    refine h.deliverEach_skip hs.sequenced outcome (k := 0) (fun i e hi => ?_) fun i hi => ?_
    · rw [List.getElem?_take] at hi
      split_ifs at hi
      rw [Nat.zero_add]
      exact hi
    · rw [List.length_take] at hi
      omega
  calc c.deliverEach consumerId outcome none events
      = c.deliverEach consumerId outcome none (events.take m ++ events.drop m) := by
        rw [List.take_append_drop]
    _ = c.deliverEach consumerId outcome (events.take m).getLast? (events.drop m) := by
        rw [deliverEach_append, hskip, Option.or_none]
    _ = (c.deliverAll consumerId outcome (events.drop m)).1 := h.deliverEach_drop hs hkeys outcome rfl
    _ = (c.deliverPending consumerId outcome events).1 := by
        rw [h.deliverPending_eq hs outcome]

/-- What `deliver_pending` leaves of a consumer's progress. -/
lemma Progress.deliverPending (h : c.Progress consumerId events m) (hs : SoundJournal events)
    (hkeys : KeysDiffer consumerId events) (outcome : DomainEvent → Outcome) :
    ∃ m', (c.deliverPending consumerId outcome events).1.Progress consumerId events m' := by
  rw [h.deliverPending_eq hs outcome]
  exact h.deliverAll hs.sequenced hkeys outcome rfl

end Consumer

/-! ### Runs -/

/-- Every consumer's progress is one through the events. -/
def Progressing (consumers : String → Consumer) (events : List DomainEvent) : Prop :=
  ∀ consumerId, ∃ m, (consumers consumerId).Progress consumerId events m

/-- No two deliveries of an event of the journal share their idempotency key. -/
def DistinctKeys (events : List DomainEvent) : Prop :=
  ∀ consumerId, KeysDiffer consumerId events

lemma DistinctKeys.of_append {events more : List DomainEvent}
    (h : DistinctKeys (events ++ more)) : DistinctKeys events :=
  fun consumerId e he e' he' =>
    h consumerId e (List.mem_append_left _ he) e' (List.mem_append_left _ he')

section Dispatch

variable {events : List DomainEvent} {consumers : String → Consumer} {env : Environment}

omit [CanonicalDigest DeliveryIdentity] in
lemma Environment.load_eq_some {consumerId : String} {history : List DomainEvent}
    (h : env.load consumerId events = some history) : history = events := by
  rw [Environment.load] at h
  split_ifs at h
  exact (Option.some.inj h).symm

omit [CanonicalDigest DeliveryIdentity] in
lemma Environment.unless_eq_some {committed : Bool} {consumerId : String}
    {history : List DomainEvent}
    (h : (if committed then none else env.load consumerId events) = some history) :
    history = events := by
  cases committed with
  | true => cases h
  | false => exact load_eq_some h

lemma Progressing.update (h : Progressing consumers events) {consumerId : String} {c : Consumer}
    (hc : ∃ m, c.Progress consumerId events m) :
    Progressing (Function.update consumers consumerId c) events := by
  intro other
  by_cases heq : other = consumerId
  · subst heq
    rw [Function.update_self]
    exact hc
  · rw [Function.update_of_ne heq]
    exact h other

lemma Progressing.append (h : Progressing consumers events) (more : List DomainEvent) :
    Progressing consumers (events ++ more) := by
  intro consumerId
  obtain ⟨m, hm⟩ := h consumerId
  exact ⟨m, hm.append more⟩

/-- What the loop of `publish` keeps: the progress of every consumer, and that a
history that was read is the journal. -/
def Dispatch.Sound (d : Dispatch) (events : List DomainEvent) : Prop :=
  Progressing d.consumers events ∧ ∀ history, d.history = some history → history = events

lemma Dispatch.Sound.catchUp {d : Dispatch} (h : d.Sound events) (hs : SoundJournal events)
    (hkeys : DistinctKeys events) (consumerId : String) :
    (d.catchUp env consumerId events).Sound events := by
  obtain ⟨m, hm⟩ := h.1 consumerId
  refine ⟨h.1.update (hm.deliverPending hs (hkeys consumerId) _), fun history hhistory => ?_⟩
  exact (Option.some.inj hhistory).symm

lemma Dispatch.Sound.advance {d : Dispatch} (h : d.Sound events) (hs : SoundJournal events)
    (hkeys : DistinctKeys events) {event : DomainEvent} (hmem : event ∈ events)
    (previousEvent : Option DomainEvent) (consumerId : String) :
    (d.advance env events event previousEvent consumerId).Sound events := by
  obtain ⟨m, hm⟩ := h.1 consumerId
  have hnext := hm.deliverNext hs.sequenced (hkeys consumerId) (env.outcome consumerId)
    previousEvent hmem
  have hsound : Dispatch.Sound ⟨Function.update d.consumers consumerId
      ((d.consumers consumerId).deliverNext consumerId (env.outcome consumerId) event
        previousEvent).1, d.history⟩ events := ⟨h.1.update hnext, h.2⟩
  rw [Dispatch.advance]
  dsimp only
  split
  · next history _ hload =>
    rw [Environment.load_eq_some hload]
    exact hsound.catchUp hs hkeys consumerId
  · exact hsound

lemma Dispatch.Sound.serve {d : Dispatch} (h : d.Sound events) (hs : SoundJournal events)
    (hkeys : DistinctKeys events) {event : DomainEvent} (hmem : event ∈ events)
    (previousEvent : Option DomainEvent) (busCommitted : Bool) (consumerId : String) :
    (d.serve env events event previousEvent busCommitted consumerId).Sound events := by
  rw [Dispatch.serve]
  cases hhistory : d.history with
  | some history =>
    dsimp only
    rw [h.2 history hhistory]
    exact h.catchUp hs hkeys consumerId
  | none =>
    cases busCommitted with
    | true => exact h.advance hs hkeys hmem previousEvent consumerId
    | false => exact h

lemma Dispatch.Sound.foldl {d : Dispatch} (h : d.Sound events) (hs : SoundJournal events)
    (hkeys : DistinctKeys events) {event : DomainEvent} (hmem : event ∈ events)
    (previousEvent : Option DomainEvent) (busCommitted : Bool) (ids : List String) :
    (ids.foldl (fun d consumerId => d.serve env events event previousEvent busCommitted
      consumerId) d).Sound events := by
  induction ids generalizing d with
  | nil => exact h
  | cons consumerId ids ih => exact ih (h.serve hs hkeys hmem previousEvent busCommitted consumerId)

end Dispatch

namespace EventSystem

variable {encodedSize : DomainEvent → ℕ} {s t : EventSystem}

/-- The journal is sound, and every consumer's progress is one through it. -/
def Sound (s : EventSystem) : Prop :=
  SoundJournal s.journal.events ∧ Progressing s.consumers s.journal.events

omit [CanonicalDigest DeliveryIdentity] in
/-- The journal only grows. -/
lemma journal_step (encodedSize : DomainEvent → ℕ) (s : EventSystem) (op : DeliveryOp) :
    ∃ more, (s.step encodedSize op).journal.events = s.journal.events ++ more := by
  cases op with
  | publish env event =>
    simp only [step, publish]
    split
    · next runtime journal _ happend => exact ⟨[event], (append_eq_ok happend).2⟩
    · exact ⟨[], (List.append_nil _).symm⟩
  | subscribeDurable env consumerId =>
    refine ⟨[], ?_⟩
    simp only [step, subscribeDurable, List.append_nil]
    split
    · split_ifs <;> rfl
    · rfl
  | restart capacity => exact ⟨[], (List.append_nil _).symm⟩
  | appendElsewhere event =>
    simp only [step, appendElsewhere]
    split
    · next journal happend => exact ⟨[event], (append_eq_ok happend).2⟩
    · exact ⟨[], (List.append_nil _).symm⟩

/-- An accepted event of any process. -/
lemma Sound.append (h : s.Sound) {journal : DiskEventJournal} {event : DomainEvent}
    (happend : s.journal.append encodedSize event = .ok journal) :
    Sound { s with journal } := by
  refine ⟨h.1.append happend, ?_⟩
  rw [(append_eq_ok happend).2]
  exact h.2.append _

lemma Sound.dispatch (h : s.Sound) (hkeys : DistinctKeys s.journal.events) (env : Environment)
    (runtime : JournaledEventRuntime) {event : DomainEvent} (hmem : event ∈ s.journal.events) :
    (s.dispatch env runtime event).Sound := by
  refine ⟨h.1, ?_⟩
  refine (Dispatch.Sound.foldl ⟨h.2, fun history hhistory => ?_⟩ h.1 hkeys hmem _ _ _).1
  exact Environment.unless_eq_some hhistory

/-- **Every operation keeps the progress of every consumer.** -/
lemma Sound.step (h : s.Sound) (op : DeliveryOp)
    (hkeys : DistinctKeys (s.step encodedSize op).journal.events) :
    (s.step encodedSize op).Sound := by
  cases op with
  | publish env event =>
    simp only [EventSystem.step, publish] at hkeys ⊢
    split at hkeys
    · next runtime journal _ happend =>
      have hevents := (append_eq_ok happend).2
      refine (h.append happend).dispatch hkeys env runtime ?_
      rw [hevents]
      exact List.mem_append_right _ (List.mem_singleton_self event)
    · exact h
  | subscribeDurable env consumerId =>
    simp only [EventSystem.step, subscribeDurable] at hkeys ⊢
    split at hkeys
    · next runtime history _ hload =>
      split_ifs with hrefused
      · exact h
      · rw [if_neg hrefused] at hkeys
        obtain ⟨m, hm⟩ := h.2 consumerId
        rw [Environment.load_eq_some hload]
        exact ⟨h.1, h.2.update (hm.deliverPending h.1 (hkeys consumerId) _)⟩
    · exact h
  | restart capacity => exact h
  | appendElsewhere event =>
    simp only [EventSystem.step, appendElsewhere]
    split
    · next journal happend => exact h.append happend
    · exact h

/-- A journal without events, and consumers that were never called. -/
def Fresh (s : EventSystem) : Prop :=
  s.journal.events = [] ∧ s.consumers = fun _ => {}

lemma Fresh.sound (h : s.Fresh) : s.Sound := by
  refine ⟨by rw [h.1]; exact SoundJournal.nil, fun consumerId => ⟨0, ?_⟩⟩
  rw [h.1, h.2]
  exact ⟨le_rfl, rfl, .inl ⟨rfl, rfl⟩⟩

/-- Every reachable state is sound: the journal of every state on the way is a part
of the last one. -/
lemma Sound.run {ops : List DeliveryOp}
    (hrun : Run (fun s op t => t = s.step encodedSize op) s ops t) (hfresh : s.Fresh)
    (hkeys : DistinctKeys t.journal.events) : t.Sound := by
  refine hrun.invariant (P := fun s => DistinctKeys s.journal.events → s.Sound) ?_
    (fun _ => hfresh.sound) hkeys
  rintro s op _ rfl ih hkeys
  obtain ⟨more, hmore⟩ := journal_step encodedSize s op
  refine (ih ?_).step op hkeys
  rw [hmore] at hkeys
  exact hkeys.of_append

end EventSystem

/-- The claim of a checkpoint that is never behind: it names the last of the handled
events. -/
def Consumer.NamesLast (c : Consumer) (consumerId : String) (events : List DomainEvent) : Prop :=
  ∃ n ≤ events.length, removeRepeats consumerId (c.handled.map (·.1)) = events.take n ∧
    c.checkpoint = (events.take n).getLast?.map (checkpointOf consumerId)

namespace EventSystem

omit [CanonicalDigest DeliveryIdentity]

/-- The first event of a journal. -/
def sampleFirst : DomainEvent where
  eventId := "event-1"
  aggregateId := "aggregate"
  eventType := "CREATED"
  sequence := 1
  occurredAt := 0
  payload := ⟨[], by simp⟩
  previousHash := "GENESIS"
  eventHash := String.ofList (List.replicate 64 'a')

/-- An environment where every call ends the same way. -/
def sampleEnvironment (outcome : Outcome) : Environment := ⟨fun _ _ => outcome, fun _ => true⟩

/-- A process starts, a consumer registers, and an event is published. -/
def sampleOps (outcome : Outcome) : List DeliveryOp :=
  [.restart 10, .subscribeDurable (sampleEnvironment outcome) "consumer",
    .publish (sampleEnvironment outcome) sampleFirst]

/-- The state after the operations. -/
def sampleAfter (outcome : Outcome) : EventSystem :=
  (sampleOps outcome).foldl (EventSystem.step fun _ => 1) {}

/-- A journal with one event has only one key. -/
lemma distinctKeys_sample [CanonicalDigest DeliveryIdentity] : DistinctKeys [sampleFirst] := by
  intro consumerId e he e' he' _
  rw [List.mem_singleton.mp he, List.mem_singleton.mp he']

end EventSystem

end Ai4Binance
