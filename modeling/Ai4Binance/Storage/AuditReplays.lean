/-
Idempotent appends to the audit journal.

An event is named by its type and its snapshot.  An idempotent append of an event whose name is in
the journal writes nothing: it is a replay if the event is equal to the first one of its name, and a
conflict if it is not.

* `hasIdentity_stored`, `existingEvent_stored`: what is read of a record that was written;
* `eventByIdentity_chain`: what is found in a chain;
* `replays_eq`: when an event is a replay;
* `reported_new`: an idempotent append that is reported writes a new name;
* `idempotent_appends`: **a name is written at most once**, and every retry is a replay or a conflict.
-/
import Ai4Binance.Storage.AuditRuns

open Check Encoding Text

namespace Ai4Binance.Storage

/-- What names an event: its type and its snapshot. -/
def AuditEvent.identity (event : AuditEvent) : String × Option String :=
  (event.eventType, event.snapshotId)

/-- The call writes the name by an idempotent append only. -/
def AuditCall.Once (id : String × Option String) : AuditCall → Prop
  | append _ event => event.identity ≠ id
  | appendVerified _ event => event.identity ≠ id
  | appendVerifiedIdempotent _ _ _ => True
  | writeLegacy _ => True

lemma exists_of_forall₂_concat {α β : Type} {R : α → β → Prop} {as : List α} {bs : List β} {b : β}
    (h : List.Forall₂ R as (bs ++ [b])) :
    ∃ before last, List.Forall₂ R before bs ∧ R last b ∧ as = before ++ [last] := by
  have hlast := List.forall₂_drop_append as bs [b] h
  obtain ⟨last, rest, hb, hrest, hdrop⟩ := List.forall₂_cons_right_iff.mp hlast
  rw [List.forall₂_nil_right_iff.mp hrest] at hdrop
  refine ⟨as.take bs.length, last, List.forall₂_take_append as bs [b] h, hb, ?_⟩
  rw [← hdrop, List.take_append_drop]

/-! ### What is read of a record -/

section Records

variable {φ : Type} [FloatText φ] [Sha256] {limits : JsonLimits} {event : AuditRecord φ}
  {previous : PyStr} {position : ℤ} {key : PyStr}

/-- A key that is none of a seal's has the value of the event. -/
lemma lastValue_event (s : Seal limits previous position event) (hkey : key ∉ sealKeys) :
    lastValue key (stored s.record) = (lastValue key event).map Json.sorted := by
  have hfields : lastValue key s.fields = none := lastValue_eq_none hkey
  rw [stored, Json.sortMembers, lastValue_insertionSort, Json.sortedMembers_eq_map,
    lastValue_map fun _ => Json.sorted, Seal.record, lastValue_append, hfields, Option.none_or]

/-- **The event of a record** that was written is the one that was written, sorted below. -/
lemma existingEvent_stored (s : Seal limits previous position event) (hevent : IsEvent event)
    (hkeys : event.map Prod.fst = eventKeys) :
    existingEvent (stored s.record) = Json.sortedMembers event := by
  have hnodup : (event.map Prod.fst).Nodup := (Json.plain_obj_iff.mp hevent.plain).1
  rw [existingEvent, ← hkeys, List.map_map, Json.sortedMembers_eq_map]
  refine List.map_congr_left fun m hm => ?_
  rw [Function.comp_apply, lastValue_event s (hevent.unsealed m hm),
    Json.lastValue_of_mem hnodup hm]
  rfl

/-- **A record names what its event does.** -/
lemma hasIdentity_stored (s : Seal limits previous position event) (eventType : String)
    (snapshotId : Option String) :
    hasIdentity eventType snapshotId (stored s.record) = hasIdentity eventType snapshotId event := by
  have hapart : ∀ key ∈ ["event_type", "snapshot_id"].map PyStr.of, key ∉ sealKeys := by
    decide
  unfold hasIdentity
  rw [lastValue_event s (hapart (PyStr.of "event_type") (by simp)),
    lastValue_event s (hapart (PyStr.of "snapshot_id") (by simp))]
  congr 1
  · rcases lastValue (PyStr.of "event_type") event with _ | value
    · rfl
    · cases value <;> rfl
  · rcases lastValue (PyStr.of "snapshot_id") event with _ | value
    · rfl
    · cases value <;> rfl

end Records

/-! ### What is found in a chain -/

section Found

variable {φ : Type} [FloatText φ] [FloatBits φ] [Sha256] [LowerData] [ReprData] {limits : JsonLimits}
  {records : List (AuditRecord φ)} {record : AuditRecord φ} {content data : Bytes} {head : PyStr}
  {written : List AuditEvent} {eventType : String} {snapshotId : Option String}

omit [FloatBits φ] [Sha256] [LowerData] [ReprData] in
/-- What is not found in the first lines is looked for in the others. -/
lemma findByIdentity_append (lines lines' : List (Bytes × ℕ)) :
    findByIdentity (φ := φ) limits eventType snapshotId (lines ++ lines') = (do
      match ← findByIdentity limits eventType snapshotId lines with
      | some record => return some record
      | none => findByIdentity limits eventType snapshotId lines') := by
  induction lines with
  | nil => rfl
  | cons line lines ih =>
      rw [List.cons_append, findByIdentity, findByIdentity, ih, bind_assoc]
      refine bind_congr fun _ => ?_
      rw [bind_assoc]
      refine bind_congr fun record => ?_
      split_ifs <;> rfl

/-- The record is one of the event. -/
def IsRecordOf (event : AuditEvent) (existing : AuditRecord φ) : Prop :=
  ∃ record : AuditRecord φ, event.members = .ok record ∧
    existingEvent existing = Json.sortedMembers record

variable [LawfulFloatText φ]

/-- **What is found in a chain** is a record of the first event of that name. -/
theorem eventByIdentity_chain (h : Chain limits records content head)
    (hrecords : List.Forall₂ (fun event record => event.members = .ok record) written records)
    (eventType : String) (snapshotId : Option String) :
    ∃ found, eventByIdentity φ limits eventType snapshotId (some content) = .ok found ∧
      Option.Rel IsRecordOf (written.find? fun event => event.identity = (eventType, snapshotId))
        found := by
  induction h generalizing written with
  | nil =>
      rw [List.forall₂_nil_right_iff] at hrecords
      subst hrecords
      exact ⟨none, rfl, .none⟩
  | @snoc records record content data previous hchain hevent s hdata ih =>
      obtain ⟨before, last, hbefore, hlast, rfl⟩ := exists_of_forall₂_concat hrecords
      obtain ⟨found, hfound, hrel⟩ := ih hbefore
      have hplain := plain_record s hevent hchain.isDigest
      obtain ⟨-, hkeys, hname⟩ := AuditEvent.members_ok hlast
      have hlines := byteLines_of_notMem (newlineByte_notMem hplain hdata) (by
        obtain ⟨inner, rfl⟩ := line_braces hdata
        exact List.cons_ne_nil _ _)
      have hnotBlank : ¬ isBlankLine (data ++ [newlineByte]) := by
        rw [isBlankLine_line hdata]
        exact Bool.false_ne_true
      have hload := fun label : String =>
        loadEventLine_line hplain hdata decodeStrict_newline (by rfl) label
      -- the record is looked at if no record before it has the name
      have hline : ∀ number : ℕ, findByIdentity limits eventType snapshotId
          [(data ++ [newlineByte], number)] =
            .ok (if last.identity = (eventType, snapshotId) then some (stored s.record) else none) := by
        intro number
        rw [findByIdentity, raiseIf_of_not hnotBlank, ok_bind, hload, ok_bind, hasIdentity_stored]
        by_cases hid : last.identity = (eventType, snapshotId)
        · rw [if_pos ((hname _ _).mpr (Prod.mk.inj hid)), if_pos hid]
          rfl
        · have hother : ¬ hasIdentity eventType snapshotId record = true := fun h =>
            hid (Prod.ext_iff.mpr ((hname _ _).mp h))
          rw [if_neg hother, if_neg hid]
          rfl
      rw [eventByIdentity, Option.getD_some] at hfound ⊢
      rw [byteLines_append hchain.endsLine, hlines.2, List.zipIdx_append, findByIdentity_append, hfound,
        ok_bind, List.find?_append]
      generalize (before.find? fun event => event.identity = (eventType, snapshotId)) = earlier at hrel ⊢
      cases hrel with
      | some hrecord => exact ⟨_, rfl, .some hrecord⟩
      | none =>
          rw [List.zipIdx_cons, List.zipIdx_nil]
          dsimp only
          rw [hline, Option.none_or, List.find?_singleton]
          by_cases hid : last.identity = (eventType, snapshotId)
          · rw [if_pos hid, if_pos (decide_eq_true hid)]
            exact ⟨_, rfl, .some ⟨record, hlast, existingEvent_stored s hevent hkeys⟩⟩
          · rw [if_neg hid, if_neg (by simpa using hid)]
            exact ⟨none, rfl, .none⟩

end Found

/-! ### Replays -/

section Replays

variable {φ : Type} [FloatText φ] [FloatValue φ] [FloatBits φ] [Sha256] [LowerData] [ReprData]
  [LawfulFloatText φ] {limits : JsonLimits} {store : JsonlAuditStore} {sameNan : Bool}
  {event first : AuditEvent} {files : AuditFiles} {records : List (AuditRecord φ)}
  {record firstRecord : AuditRecord φ} {head : PyStr} {written : List AuditEvent}
  {chainState : PyStr × ℤ}

/-- The first event of a name. -/
def firstOf (id : String × Option String) (written : List AuditEvent) : Option AuditEvent :=
  written.find? fun event => event.identity = id

/-- **An event of a new name** is no replay. -/
lemma replays_new (hchain : Chain limits records (files.journal.getD []) head)
    (hrecords : List.Forall₂ (fun event record => event.members = .ok record) written records)
    (hstate : store.chainStateOrFail limits φ files = .ok chainState)
    (hmembers : event.members = .ok record) (hfirst : firstOf event.identity written = none) :
    store.replays limits φ sameNan event files = .ok false := by
  obtain ⟨found, hfound, hrel⟩ :=
    eventByIdentity_chain hchain hrecords event.eventType event.snapshotId
  have hfound : eventByIdentity φ limits event.eventType event.snapshotId files.journal = .ok found :=
    hfound
  change Option.Rel _ (firstOf event.identity written) found at hrel
  rw [hfirst] at hrel
  cases hrel
  rw [JsonlAuditStore.replays, hmembers, ok_bind, hstate, ok_bind, hfound]
  rfl

/-- **An event of the name of another** is a replay if it is equal to the first of that name. -/
lemma replays_old (hchain : Chain limits records (files.journal.getD []) head)
    (hrecords : List.Forall₂ (fun event record => event.members = .ok record) written records)
    (hstate : store.chainStateOrFail limits φ files = .ok chainState)
    (hmembers : event.members = .ok record) (hfirst : firstOf event.identity written = some first)
    (hfirstMembers : first.members = .ok firstRecord) :
    store.replays limits φ sameNan event files =
      if Json.pyEq sameNan (.obj firstRecord) (.obj record) then .ok true
      else .error (.value "JSONL_AUDIT_IDEMPOTENCY_CONFLICT") := by
  obtain ⟨found, hfound, hrel⟩ :=
    eventByIdentity_chain hchain hrecords event.eventType event.snapshotId
  have hfound : eventByIdentity φ limits event.eventType event.snapshotId files.journal = .ok found :=
    hfound
  change Option.Rel _ (firstOf event.identity written) found at hrel
  rw [hfirst] at hrel
  cases hrel with
  | @some _ existing hrecord =>
      obtain ⟨firstRecord', hfirstMembers', hexisting⟩ := hrecord
      obtain rfl := Except.ok.inj (hfirstMembers.symm.trans hfirstMembers')
      -- what is read is sorted, which does not show in the comparison
      have hsorted : Json.pyEq sameNan (.obj (existingEvent existing)) (.obj record) =
          Json.pyEq sameNan (.obj firstRecord) (.obj record) := by
        rw [hexisting, ← Json.pyEq_sorted (.obj firstRecord), Json.sorted]
        exact (Json.pyEq_obj_perm (Json.perm_sortMembers _) _).symm
      rw [JsonlAuditStore.replays, hmembers, ok_bind, hstate, ok_bind, hfound, ok_bind]
      dsimp only
      rw [hsorted]
      cases Json.pyEq sameNan (.obj firstRecord : Json φ) (.obj record) <;> rfl

/-- **A retry** writes nothing: it is a replay or a conflict. -/
lemma appendVerifiedIdempotent_old (hchain : Chain limits records (files.journal.getD []) head)
    (hrecords : List.Forall₂ (fun event record => event.members = .ok record) written records)
    (hstate : store.chainStateOrFail limits φ files = .ok chainState)
    (hmembers : event.members = .ok record) (hfirst : firstOf event.identity written = some first)
    (hfirstMembers : first.members = .ok firstRecord) :
    store.appendVerifiedIdempotent limits φ sameNan event files =
      (if Json.pyEq sameNan (.obj firstRecord) (.obj record) then .ok none
        else .error (.value "JSONL_AUDIT_IDEMPOTENCY_CONFLICT"), files) := by
  rw [JsonlAuditStore.appendVerifiedIdempotent,
    replays_old hchain hrecords hstate hmembers hfirst hfirstMembers]
  split_ifs <;> rfl

lemma appendVerifiedIdempotent_new (hchain : Chain limits records (files.journal.getD []) head)
    (hrecords : List.Forall₂ (fun event record => event.members = .ok record) written records)
    (hstate : store.chainStateOrFail limits φ files = .ok chainState)
    (hmembers : event.members = .ok record) (hfirst : firstOf event.identity written = none) :
    (store.appendVerifiedIdempotent limits φ sameNan event files).1 ≠ .ok none := by
  rw [JsonlAuditStore.appendVerifiedIdempotent,
    replays_new hchain hrecords hstate hmembers hfirst]
  dsimp only
  cases store.expectedWrite limits φ event files with
  | error e => intro h; cases h
  | ok written =>
      dsimp only
      cases store.confirm limits "jsonl_append_idempotent" written.1 written.2 <;>
        intro h <;> cases h

omit [LawfulFloatText φ] in
/-- An idempotent append that is reported found no event of its name. -/
lemma replays_of_reported {reported : AuditEvent}
    (h : ((AuditCall.appendVerifiedIdempotent store sameNan event).apply limits φ files).1 =
      some reported) :
    reported = event ∧ store.replays limits φ sameNan event files = .ok false := by
  rw [AuditCall.apply, JsonlAuditStore.appendVerifiedIdempotent] at h
  cases hreplays : store.replays limits φ sameNan event files with
  | error e =>
      rw [hreplays] at h
      cases h
  | ok found =>
      rw [hreplays] at h
      cases found with
      | true => cases h
      | false =>
          dsimp only at h
          split at h
          all_goals
            dsimp only at h
            split_ifs at h
            exact ⟨(Option.some.inj h).symm, rfl⟩

/-- **An idempotent append that is reported** writes a new name. -/
lemma reported_new {reported : AuditEvent}
    (hchain : Chain limits records (files.journal.getD []) head)
    (hrecords : List.Forall₂ (fun event record => event.members = .ok record) written records)
    (h : ((AuditCall.appendVerifiedIdempotent store sameNan event).apply limits φ files).1 =
      some reported) :
    firstOf reported.identity written = none := by
  obtain ⟨rfl, hreplays⟩ := replays_of_reported h
  obtain ⟨record, hmembers, hrest⟩ := bind_eq_ok.mp hreplays
  obtain ⟨chainState, hstate, -⟩ := bind_eq_ok.mp hrest
  cases hfirst : firstOf reported.identity written with
  | none => rfl
  | some first =>
      obtain ⟨firstRecord, -, hfirstMembers⟩ :=
        Json.exists_of_mem_right hrecords.flip (List.mem_of_find?_eq_some hfirst)
      rw [replays_old hchain hrecords hstate hmembers hfirst hfirstMembers] at hreplays
      split_ifs at hreplays
      all_goals cases hreplays

/-! ### Runs -/

omit [LawfulFloatText φ] in
lemma event_of_append {reported : AuditEvent}
    (h : ((AuditCall.append store event).apply limits φ files).1 = some reported) :
    reported = event := by
  simp only [AuditCall.apply] at h
  split_ifs at h
  exact (Option.some.inj h).symm

omit [LawfulFloatText φ] in
lemma event_of_appendVerified {reported : AuditEvent}
    (h : ((AuditCall.appendVerified store event).apply limits φ files).1 = some reported) :
    reported = event := by
  simp only [AuditCall.apply] at h
  split_ifs at h
  exact (Option.some.inj h).symm

/-- A call keeps a name that idempotent appends alone write from being written twice. -/
lemma count_step {id : String × Option String} {state : List AuditEvent × AuditFiles}
    {call : AuditCall} (hcall : call.TamperEvident) (honce : call.Once id)
    (hholds : Holds φ limits state) (hcount : (state.1.map AuditEvent.identity).count id ≤ 1) :
    ((AuditCall.step limits φ state call).1.map AuditEvent.identity).count id ≤ 1 := by
  obtain ⟨records, head, hrecords, hchain⟩ := hholds
  rw [AuditCall.step]
  cases hreported : (call.apply limits φ state.2).1 with
  | none =>
      rw [Option.toList_none, List.append_nil]
      exact hcount
  | some event =>
      rw [Option.toList_some, List.map_append, List.map_singleton, List.count_append]
      by_cases hid : event.identity = id
      · have hnew : firstOf event.identity state.1 = none := by
          cases call with
          | append store e =>
              obtain rfl := event_of_append hreported
              exact absurd hid honce
          | appendVerified store e =>
              obtain rfl := event_of_appendVerified hreported
              exact absurd hid honce
          | appendVerifiedIdempotent store sameNan e => exact reported_new hchain hrecords hreported
          | writeLegacy content => cases hreported
        have hnone : (state.1.map AuditEvent.identity).count id = 0 := by
          refine List.count_eq_zero.mpr fun hmem => ?_
          obtain ⟨earlier, hearlier, hsame⟩ := List.mem_map.mp hmem
          have hother := List.find?_eq_none.mp hnew earlier hearlier
          simp [hsame, hid] at hother
        rw [hnone, hid, List.count_singleton_self]
      · rw [List.count_singleton, if_neg (by simpa using hid)]
        exact hcount

lemma count_run {id : String × Option String} {calls : List AuditCall}
    (hcalls : ∀ call ∈ calls, call.TamperEvident) (honce : ∀ call ∈ calls, call.Once id)
    {state : List AuditEvent × AuditFiles} (hholds : Holds φ limits state)
    (hcount : (state.1.map AuditEvent.identity).count id ≤ 1) :
    ((AuditCall.run limits φ calls state).1.map AuditEvent.identity).count id ≤ 1 := by
  induction calls generalizing state with
  | nil => exact hcount
  | cons call calls ih =>
      obtain ⟨hcall, hcalls⟩ := List.forall_mem_cons.mp hcalls
      obtain ⟨hfirst, honce⟩ := List.forall_mem_cons.mp honce
      rw [AuditCall.run, List.foldl_cons]
      exact ih hcalls honce (holds_step hcall hholds) (count_step hcall hfirst hholds hcount)

/-- **A name is written at most once** in every run of calls of any processes, if idempotent appends
alone write it.  After every run, an idempotent append of an event leaves the files as they are if its
name was written before: it is a replay if the event is equal to the first one of that name, and a
conflict if it is not.  If the name is new, it is no replay. -/
theorem idempotent_appends {calls : List AuditCall} (hcalls : ∀ call ∈ calls, call.TamperEvident)
    {legacy : Option Bytes} {state : List AuditEvent × AuditFiles}
    (hrun : AuditCall.run limits φ calls ([], { legacy := legacy }) = state) :
    (∀ id, (∀ call ∈ calls, call.Once id) → (state.1.map AuditEvent.identity).count id ≤ 1) ∧
    ∀ (store : JsonlAuditStore) (sameNan : Bool) (event : AuditEvent) (record : AuditRecord φ),
      (∀ sha256 ∈ store.legacySha256, state.2.legacy.map Sha256.hexdigest = sha256) →
      event.members = .ok record →
      (firstOf event.identity state.1 = none →
        (store.appendVerifiedIdempotent limits φ sameNan event state.2).1 ≠ .ok none) ∧
      ∀ first, firstOf event.identity state.1 = some first →
        ∃ firstRecord : AuditRecord φ, first.members = .ok firstRecord ∧
          store.appendVerifiedIdempotent limits φ sameNan event state.2 =
            (if Json.pyEq sameNan (.obj firstRecord) (.obj record) then .ok none
              else .error (.value "JSONL_AUDIT_IDEMPOTENCY_CONFLICT"), state.2) := by
  have hempty : Holds φ limits ([], { legacy := legacy }) := ⟨[], genesisRecordHash, .nil, .nil⟩
  have hholds : Holds φ limits state := hrun ▸ holds_run hcalls hempty
  refine ⟨fun id honce => hrun ▸ count_run hcalls honce hempty (Nat.zero_le 1),
    fun store sameNan event record hlegacy hmembers => ?_⟩
  obtain ⟨head, hverify⟩ := verifyChain_of_holds hholds hlegacy
  obtain ⟨chainState, hstate, -⟩ := map_eq_ok.mp hverify
  obtain ⟨records, head', hrecords, hchain⟩ := hholds
  refine ⟨fun hfirst => appendVerifiedIdempotent_new hchain hrecords hstate hmembers hfirst,
    fun first hfirst => ?_⟩
  obtain ⟨firstRecord, -, hfirstMembers⟩ :=
    Json.exists_of_mem_right hrecords.flip (List.mem_of_find?_eq_some hfirst)
  exact ⟨firstRecord, hfirstMembers,
    appendVerifiedIdempotent_old hchain hrecords hstate hmembers hfirst hfirstMembers⟩

end Replays

/-- An event of the name of `processStarted`, at another time. -/
def processRestarted : AuditEvent := { processStarted with timestamp := ⟨1, 0⟩ }

/-- The first append reports an event; its record is equal to itself and not to that of the other
event. -/
lemma first_idempotent_reported :
    letI := FloatText.zero
    letI := FloatValue.zero
    letI := FloatBits.zero
    letI := Sha256.checksum
    letI := ReprData.const
    ((AuditCall.appendVerifiedIdempotent sealingStore true processStarted).apply
        { maxDepth := 100 } Unit {}).1.isSome = true ∧
      ((processStarted.members : Except AuditFault (AuditRecord Unit)).toOption.bind fun started =>
        (processRestarted.members : Except AuditFault (AuditRecord Unit)).toOption.map fun restarted =>
          (Json.pyEq true (.obj started) (.obj started),
            Json.pyEq true (.obj started) (.obj restarted))) = some (true, false) := by
  decide +kernel

/-- **A first event** is written once; a retry of it is a replay, and another event of its name a
conflict, and neither changes the files. -/
theorem first_event_written_once :
    letI := FloatText.zero
    letI := FloatValue.zero
    letI := FloatBits.zero
    letI := Sha256.checksum
    letI := ReprData.const
    ∃ written files, AuditCall.run { maxDepth := 100 } Unit
      [.appendVerifiedIdempotent sealingStore true processStarted, .writeLegacy [10]] ([], {}) =
        (written, files) ∧
      (written.map AuditEvent.identity).count ("PROCESS_STARTED", some "run-1") ≤ 1 ∧
      sealingStore.appendVerifiedIdempotent { maxDepth := 100 } Unit true processStarted files =
        (.ok none, files) ∧
      sealingStore.appendVerifiedIdempotent { maxDepth := 100 } Unit true processRestarted files =
        (.error (.value "JSONL_AUDIT_IDEMPOTENCY_CONFLICT"), files) := by
  let := FloatText.zero
  let := FloatValue.zero
  let := FloatBits.zero
  let := Sha256.checksum
  let := ReprData.const
  have := FloatText.lawful_zero
  have hcalls : ∀ call ∈ [AuditCall.appendVerifiedIdempotent sealingStore true processStarted,
      .writeLegacy [10]], call.TamperEvident := by
    simp [AuditCall.TamperEvident, sealingStore]
  obtain ⟨hreported, hrecords⟩ := first_idempotent_reported
  obtain ⟨event, hevent⟩ := Option.isSome_iff_exists.mp hreported
  obtain ⟨rfl, -⟩ := replays_of_reported hevent
  obtain ⟨started, hstarted, hrecords⟩ := Option.bind_eq_some_iff.mp hrecords
  obtain ⟨restarted, hrestarted, hequal⟩ := Option.map_eq_some_iff.mp hrecords
  obtain ⟨heq, hne⟩ := Prod.mk.inj hequal
  rw [toOption_eq_some] at hstarted hrestarted
  generalize hrun : AuditCall.run { maxDepth := 100 } Unit
    [.appendVerifiedIdempotent sealingStore true processStarted, .writeLegacy [10]] ([], {}) = state
  have hwritten : state.1 = [processStarted] := by
    rw [← hrun]
    change [] ++ ((AuditCall.appendVerifiedIdempotent sealingStore true processStarted).apply
      { maxDepth := 100 } Unit {}).1.toList ++ [] = _
    rw [hevent]
    rfl
  have hfirst : firstOf ("PROCESS_STARTED", some "run-1") state.1 = some processStarted := by
    rw [hwritten]
    rfl
  obtain ⟨hcount, hretry⟩ := idempotent_appends hcalls hrun
  refine ⟨state.1, state.2, rfl, hcount _ (by simp [AuditCall.Once]), ?_, ?_⟩
  · obtain ⟨first, hmembers, hreplay⟩ :=
      (hretry sealingStore true processStarted started (by simp [sealingStore]) hstarted).2 _ hfirst
    obtain rfl := Except.ok.inj (hmembers.symm.trans hstarted)
    rw [hreplay, if_pos heq]
  · obtain ⟨first, hmembers, hconflict⟩ :=
      (hretry sealingStore true processRestarted restarted (by simp [sealingStore]) hrestarted).2 _
        hfirst
    obtain rfl := Except.ok.inj (hmembers.symm.trans hstarted)
    rw [hconflict, hne]
    rfl

end Ai4Binance.Storage
