/-
The calls of all processes on a tamper-evident audit journal, one after another.

* `Appended`: the journal after a record was written behind a chain;
* `confirm_line`: a record that was written is read back;
* `Writes`, `apply_writes`: what a call can do to a verified journal;
* `holds_step`, `holds_run`: every run of calls leaves a chain of the events that it reports;
* `journal_matches_reports`: **the journal is what was reported**, and it is verified.
-/
import Ai4Binance.Storage.AuditChain

open Check Encoding Text

namespace Ai4Binance.Storage

/-! ### The line that was written last -/

/-- **The last line is read back**, if it is within the limit. -/
lemma readLastNonemptyLine_line {content line : Bytes} (chunk : ℕ+) (maxEventBytes : ℤ) {fuel : ℕ}
    (hends : EndsLine content) (hlast : ∃ init b, line = init ++ [b] ∧ isTrimmed b = false)
    (hnewline : newlineByte ∉ line)
    (hfuel : (content ++ (line ++ [newlineByte])).length < fuel) :
    readLastNonemptyLine (content ++ (line ++ [newlineByte])) chunk maxEventBytes fuel =
      some (withinLimit maxEventBytes line) := by
  obtain ⟨init, b, hline, hb⟩ := hlast
  have hstrip : rstrip (content ++ (line ++ [newlineByte])) = content ++ line := by
    rw [← List.append_assoc, rstrip, List.rdropWhile_concat_pos _ _ _ isTrimmed_newline, hline,
      ← List.append_assoc, List.rdropWhile_concat_neg _ _ _ (by simp [hb])]
  have hafter : afterNewline (content ++ line) = line := by
    have hempty : afterNewline content = [] := by
      rcases List.eq_nil_or_concat content with rfl | ⟨before, last, rfl⟩
      · rfl
      · rw [List.concat_eq_append] at hends ⊢
        have hlast : last = newlineByte := hends last (by simp)
        rw [hlast, afterNewline_append_of_mem List.mem_cons_self]
        rfl
    rw [afterNewline_append_of_notMem hnewline, hempty, List.nil_append]
  have htake : (content ++ (line ++ [newlineByte])).take (content ++ line).length =
      content ++ line := by
    rw [← List.append_assoc, List.take_left]
  have hpos : 0 < (content ++ line).length := by
    rw [hline]
    simp
  have hshort : (content ++ line).length < fuel := by
    simp only [List.length_append, List.length_singleton] at hfuel ⊢
    omega
  rw [readLastNonemptyLine, trimTrailingWhitespace_eq hfuel, List.take_length, hstrip,
    Option.bind_eq_bind, Option.bind_some, if_neg hpos.ne', readTurns_eq hpos hshort, htake, hafter]

section Runs

variable {φ : Type} [FloatText φ] [FloatValue φ] [FloatBits φ] [Sha256] [LowerData] [ReprData]
  {limits : JsonLimits} {store : JsonlAuditStore} {event : AuditEvent} {files files' : AuditFiles}
  {journal journal' : Option Bytes} {records : List (AuditRecord φ)} {record : AuditRecord φ}
  {data : Bytes} {line previous head : PyStr} {position : ℤ}

/-- The journal after a record of the event was written behind a chain. -/
def Appended (φ : Type) [FloatText φ] [FloatBits φ] (limits : JsonLimits) (previous : PyStr)
    (position : ℤ) (event : AuditEvent) (journal journal' : Option Bytes) : Prop :=
  ∃ (record : AuditRecord φ) (s : Seal limits previous position record) (data : Bytes),
    event.members = .ok record ∧ canonicalBytes limits (.obj s.record) = .ok data ∧
      journal' = some (journal.getD [] ++ (data ++ [newlineByte]))

omit [FloatValue φ] in
/-- **An appended record** makes a chain longer. -/
lemma Chain.appended (h : Chain limits records (journal.getD []) head)
    (happended : Appended φ limits head (records.length + 1) event journal journal') :
    ∃ (record : AuditRecord φ) (head' : PyStr), event.members = .ok record ∧
      Chain limits (records ++ [record]) (journal'.getD []) head' := by
  obtain ⟨record, s, data, hmembers, hdata, rfl⟩ := happended
  exact ⟨record, s.recordSha256, hmembers, h.snoc (AuditEvent.members_ok hmembers).1 s hdata⟩

variable [LawfulFloatText φ]

/-! ### What is written -/

omit [FloatBits φ] [LowerData] [ReprData] [LawfulFloatText φ] in
/-- A sealing store has the state of a verified journal. -/
lemma verifyChainState_of_chainStateOrFail (htamper : store.tamperEvident) {state : PyStr × ℤ}
    (h : store.chainStateOrFail limits φ files = .ok state) :
    verifyChainState limits φ files.journal = .ok state := by
  have hstate : store.chainState limits φ files = .ok state := by
    rw [JsonlAuditStore.chainStateOrFail] at h
    split at h
    · next hstate => rw [hstate, Except.ok.inj h]
    · cases h
    · cases h
  obtain ⟨_, -, hstate⟩ := bind_eq_ok.mp hstate
  rwa [if_pos htamper] at hstate

omit [LawfulFloatText φ] in
/-- The line of an event is that of its sealed record. -/
lemma nextLine_ok (htamper : store.tamperEvident)
    (hverified : verifyChainState limits φ files.journal = .ok (previous, position))
    (h : store.nextLine limits φ event files = .ok line) :
    ∃ (record : AuditRecord φ) (s : Seal limits previous position record),
      event.members = .ok record ∧ Json.dumps limits false (.obj s.record) = .ok line := by
  obtain ⟨state, hstate, h⟩ := bind_eq_ok.mp h
  have hstate := verifyChainState_of_chainStateOrFail htamper hstate
  obtain rfl := Except.ok.inj (hstate.symm.trans hverified)
  obtain ⟨record, hmembers, h⟩ := bind_eq_ok.mp h
  rw [JsonlAuditStore.render, if_pos htamper] at h
  obtain ⟨sealed, hsealed, h⟩ := bind_eq_ok.mp h
  obtain ⟨s, rfl⟩ := exists_seal (AuditEvent.members_ok hmembers).1 hsealed
  exact ⟨record, s, hmembers, mapError_eq_ok.mp h⟩

omit [FloatBits φ] [LowerData] [ReprData] [LawfulFloatText φ] [FloatValue φ] [Sha256] in
/-- A line is appended if it is within the limit. -/
lemma appendLine_ok {content : Bytes} (hline : Json.dumps limits false (.obj record) = .ok line)
    (h : store.appendLine line journal = .ok content) :
    ∃ data, canonicalBytes limits (.obj record) = .ok data ∧ data.length ≤ store.maxEventBytes ∧
      content = journal.getD [] ++ (data ++ [newlineByte]) := by
  obtain ⟨data, hdata, h⟩ := bind_eq_ok.mp h
  obtain ⟨_, hlimit, h⟩ := bind_eq_ok.mp h
  refine ⟨data, ?_, not_lt.mp (raiseIf_eq_ok.mp hlimit), ?_⟩
  · rw [canonicalBytes, hline]
    exact hdata
  · rw [← pure_eq_ok.mp h, List.append_assoc]

/-! ### What is read back -/

omit [FloatBits φ] [LowerData] [ReprData] [FloatValue φ] [Sha256] in
/-- The last event of a file is the record that was appended. -/
lemma lastEvent_line {content : Bytes} (hends : EndsLine content)
    (hplain : Json.Plain false (.obj record)) (hdata : canonicalBytes limits (.obj record) = .ok data)
    (hlimit : data.length ≤ store.maxEventBytes) :
    store.lastEvent limits (content ++ (data ++ [newlineByte])) =
      .ok (.obj (stored record) : Json φ) := by
  obtain ⟨inner, hbraces⟩ := line_braces hdata
  have hread := readLastNonemptyLine_line tailReadChunkBytes store.maxEventBytes hends
    ⟨123 :: inner, 125, hbraces, by decide⟩ (newlineByte_notMem hplain hdata) (Nat.lt_succ_self _)
  obtain ⟨text, htext, hdecode⟩ := decodeStrict_line hplain hdata
  rw [JsonlAuditStore.lastEvent, hread, withinLimit, if_neg (not_lt.mpr hlimit), Option.getD_some]
  change (orRaise (decodeStrict data) AuditFault.unicode >>= fun text =>
    (Json.loadsText limits text).mapError AuditFault.json) = _
  rw [hdecode]
  change (Json.loadsText limits text).mapError AuditFault.json = _
  rw [Json.loadsText_dumps hplain htext]
  rfl

omit [FloatBits φ] [LowerData] [ReprData] in
/-- **The record is confirmed**: what is read back is what was expected. -/
lemma confirm_line {content : Bytes} (operation : String) (hends : EndsLine content)
    (hplain : Json.Plain false (.obj record)) (hdata : canonicalBytes limits (.obj record) = .ok data)
    (hlimit : data.length ≤ store.maxEventBytes) :
    store.confirm limits operation (.obj (stored record) : Json φ)
      (content ++ (data ++ [newlineByte])) =
        .ok ⟨operation, Sha256.hexdigest data, Sha256.hexdigest data⟩ := by
  have hsorted : (Json.obj record).sorted = .obj (stored record) := rfl
  have hdigest : canonicalJsonSha256 limits (.obj (stored record) : Json φ) =
      .ok (Sha256.hexdigest data) := by
    rw [canonicalJsonSha256, canonicalBytes_stored (Json.plain_obj_iff.mp hplain).1
      (perm_stored record), hdata]
    rfl
  have hloaded : Json.Plain false (.obj (stored record)) := by
    rw [← hsorted]
    exact hplain.sorted
  have hequal : Json.pyEq true (.obj (stored record) : Json φ) (.obj (stored record)) = true :=
    Json.pyEq_of_sorted_eq hloaded hloaded (.inl rfl) rfl
  rw [JsonlAuditStore.confirm, lastEvent_line hends hplain hdata hlimit, ok_bind,
    raiseIf_of_not (by simp [hequal]), ok_bind, hdigest]
  rfl

/-! ### Calls -/

/-- **What is expected of a write**: a record of the event behind the journal, and that it is read
back where the journal has ended its last line. -/
lemma expectedWrite_ok (htamper : store.tamperEvident)
    (hverified : verifyChainState limits φ files.journal = .ok (previous, position))
    (hprevious : IsDigest previous) {expected : Json φ} {content : Bytes}
    (h : store.expectedWrite limits φ event files = .ok (expected, content)) (operation : String) :
    Appended φ limits previous position event files.journal (some content) ∧
      (EndsLine (files.journal.getD []) →
        ∃ write, store.confirm limits operation expected content = .ok write) := by
  obtain ⟨line, hnext, h⟩ := bind_eq_ok.mp h
  obtain ⟨record, s, hmembers, hline⟩ := nextLine_ok htamper hverified hnext
  obtain ⟨loaded, hloaded, h⟩ := bind_eq_ok.mp h
  obtain ⟨written, hwritten, h⟩ := bind_eq_ok.mp h
  obtain ⟨rfl, rfl⟩ := Prod.mk.inj (pure_eq_ok.mp h)
  obtain ⟨data, hdata, hlimit, rfl⟩ := appendLine_ok hline hwritten
  have hplain := plain_record s (AuditEvent.members_ok hmembers).1 hprevious
  have hexpected : Json.obj (stored s.record) = loaded :=
    Except.ok.inj ((Json.loadsText_dumps hplain hline).symm.trans (mapError_eq_ok.mp hloaded))
  refine ⟨⟨record, s, data, hmembers, hdata, rfl⟩, fun hends => ?_⟩
  rw [← hexpected, confirm_line operation hends hplain hdata hlimit]
  exact ⟨_, rfl⟩

/-- What a call does to a verified journal: it is refused and the journal is as before, or a record
of an event is written behind it, which is reported if the journal has ended its last line. -/
def Writes (φ : Type) [FloatText φ] [FloatBits φ] (limits : JsonLimits) (previous : PyStr)
    (position : ℤ) (journal : Option Bytes) (outcome : Option AuditEvent × AuditFiles) : Prop :=
  outcome.1 = none ∧ outcome.2.journal = journal ∨
    ∃ event, Appended φ limits previous position event journal outcome.2.journal ∧
      (EndsLine (journal.getD []) → outcome.1 = some event)

omit [LawfulFloatText φ] in
lemma append_writes (htamper : store.tamperEvident)
    (hverified : verifyChainState limits φ files.journal = .ok (previous, position)) :
    Writes φ limits previous position files.journal
      ((AuditCall.append store event).apply limits φ files) := by
  rw [AuditCall.apply, JsonlAuditStore.append]
  cases hwrite : (do store.appendLine (← store.nextLine limits φ event files) files.journal) with
  | error e => exact .inl ⟨rfl, rfl⟩
  | ok content =>
      obtain ⟨line, hnext, hcontent⟩ := bind_eq_ok.mp hwrite
      obtain ⟨record, s, hmembers, hline⟩ := nextLine_ok htamper hverified hnext
      obtain ⟨data, hdata, -, rfl⟩ := appendLine_ok hline hcontent
      exact .inr ⟨event, ⟨record, s, data, hmembers, hdata, rfl⟩, fun _ => rfl⟩

lemma appendVerified_writes (htamper : store.tamperEvident)
    (hverified : verifyChainState limits φ files.journal = .ok (previous, position))
    (hprevious : IsDigest previous) :
    Writes φ limits previous position files.journal
      ((AuditCall.appendVerified store event).apply limits φ files) := by
  rw [AuditCall.apply, JsonlAuditStore.appendVerified]
  cases hwrite : store.expectedWrite limits φ event files with
  | error e => exact .inl ⟨rfl, rfl⟩
  | ok written =>
      obtain ⟨happended, hconfirm⟩ :=
        expectedWrite_ok htamper hverified hprevious hwrite "jsonl_append"
      refine .inr ⟨event, happended, fun hends => ?_⟩
      obtain ⟨write, hconfirm⟩ := hconfirm hends
      dsimp only
      rw [hconfirm]
      rfl

lemma appendVerifiedIdempotent_writes (htamper : store.tamperEvident)
    (hverified : verifyChainState limits φ files.journal = .ok (previous, position))
    (hprevious : IsDigest previous) (sameNan : Bool) :
    Writes φ limits previous position files.journal
      ((AuditCall.appendVerifiedIdempotent store sameNan event).apply limits φ files) := by
  rw [AuditCall.apply, JsonlAuditStore.appendVerifiedIdempotent]
  cases store.replays limits φ sameNan event files with
  | error e => exact .inl ⟨rfl, rfl⟩
  | ok found =>
      cases found with
      | true => exact .inl ⟨rfl, rfl⟩
      | false =>
          cases hwrite : store.expectedWrite limits φ event files with
          | error e => exact .inl ⟨rfl, rfl⟩
          | ok written =>
              obtain ⟨happended, hconfirm⟩ :=
                expectedWrite_ok htamper hverified hprevious hwrite "jsonl_append_idempotent"
              refine .inr ⟨event, happended, fun hends => ?_⟩
              obtain ⟨write, hconfirm⟩ := hconfirm hends
              dsimp only
              rw [hconfirm]
              rfl

/-- **A call on a verified journal** is refused, or a record is written behind it. -/
lemma apply_writes {call : AuditCall} (htamper : call.TamperEvident)
    (hverified : verifyChainState limits φ files.journal = .ok (previous, position))
    (hprevious : IsDigest previous) :
    Writes φ limits previous position files.journal (call.apply limits φ files) := by
  cases call with
  | append store event => exact append_writes htamper hverified
  | appendVerified store event => exact appendVerified_writes htamper hverified hprevious
  | appendVerifiedIdempotent store sameNan event =>
      exact appendVerifiedIdempotent_writes htamper hverified hprevious sameNan
  | writeLegacy content => exact .inl ⟨rfl, rfl⟩

/-- What is reported of a call, and what it does to the journal of a chain: it is refused and the
journal is as before, or the event is reported as written and a record of it was written. -/
def Reported (φ : Type) [FloatText φ] [FloatBits φ] (limits : JsonLimits) (previous : PyStr)
    (position : ℤ) (journal : Option Bytes) (outcome : Option AuditEvent × AuditFiles) : Prop :=
  outcome.1 = none ∧ outcome.2.journal = journal ∨
    ∃ event, outcome.1 = some event ∧
      Appended φ limits previous position event journal outcome.2.journal

/-- **A call on a chain** is refused, or its record is written and it is reported. -/
lemma apply_reported {call : AuditCall} (htamper : call.TamperEvident)
    (hchain : Chain limits records (files.journal.getD []) head) :
    Reported φ limits head (records.length + 1) files.journal (call.apply limits φ files) := by
  rcases apply_writes htamper hchain.verified hchain.isDigest with hrefused | ⟨event, happended, h⟩
  · exact .inl hrefused
  · exact .inr ⟨event, h hchain.endsLine, happended⟩

/-! ### Runs -/

/-- The journal is a chain of the events that were written. -/
def Holds (φ : Type) [FloatText φ] [FloatBits φ] (limits : JsonLimits)
    (state : List AuditEvent × AuditFiles) : Prop :=
  ∃ (records : List (AuditRecord φ)) (head : PyStr),
    List.Forall₂ (fun event record => event.members = .ok record) state.1 records ∧
      Chain limits records (state.2.journal.getD []) head

/-- A call keeps the journal a chain of the events that are reported. -/
lemma holds_step {call : AuditCall} (htamper : call.TamperEvident)
    {state : List AuditEvent × AuditFiles} (h : Holds φ limits state) :
    Holds φ limits (AuditCall.step limits φ state call) := by
  obtain ⟨records, head, hrecords, hchain⟩ := h
  rcases apply_reported htamper hchain with ⟨hnone, hsame⟩ | ⟨event, hevent, happended⟩
  · refine ⟨records, head, ?_, ?_⟩
    · rw [AuditCall.step, hnone, Option.toList_none, List.append_nil]
      exact hrecords
    · rw [AuditCall.step, hsame]
      exact hchain
  · obtain ⟨record, head', hmembers, hchain'⟩ := hchain.appended happended
    refine ⟨records ++ [record], head', ?_, hchain'⟩
    rw [AuditCall.step, hevent, Option.toList_some]
    exact List.rel_append hrecords (.cons hmembers .nil)

/-- **Every run of calls** does. -/
lemma holds_run {calls : List AuditCall} (hcalls : ∀ call ∈ calls, call.TamperEvident)
    {state : List AuditEvent × AuditFiles} (h : Holds φ limits state) :
    Holds φ limits (AuditCall.run limits φ calls state) := by
  induction calls generalizing state with
  | nil => exact h
  | cons call calls ih =>
      obtain ⟨hcall, hcalls⟩ := List.forall_mem_cons.mp hcalls
      rw [AuditCall.run, List.foldl_cons]
      exact ih hcalls (holds_step hcall h)

/-- A call writes behind a chain. -/
lemma prefix_step {call : AuditCall} (htamper : call.TamperEvident)
    {state : List AuditEvent × AuditFiles} (h : Holds φ limits state) :
    state.2.journal.getD [] <+: (AuditCall.step limits φ state call).2.journal.getD [] := by
  obtain ⟨records, head, -, hchain⟩ := h
  rcases apply_reported htamper hchain with ⟨-, hsame⟩ | ⟨_, -, _, _, data, -, -, hjournal⟩
  · rw [AuditCall.step, hsame]
  · rw [AuditCall.step, hjournal]
    exact List.prefix_append _ _

/-- **Every run of calls** does, and so keeps what was written. -/
lemma prefix_run {calls : List AuditCall} (hcalls : ∀ call ∈ calls, call.TamperEvident)
    {state : List AuditEvent × AuditFiles} (h : Holds φ limits state) :
    state.2.journal.getD [] <+: (AuditCall.run limits φ calls state).2.journal.getD [] := by
  induction calls generalizing state with
  | nil => exact List.prefix_rfl
  | cons call calls ih =>
      obtain ⟨hcall, hcalls⟩ := List.forall_mem_cons.mp hcalls
      rw [AuditCall.run, List.foldl_cons]
      exact (prefix_step hcall h).trans (ih hcalls (holds_step hcall h))

/-- `verify_chain` accepts such a journal, if the legacy file is as it was. -/
lemma verifyChain_of_holds {state : List AuditEvent × AuditFiles} (h : Holds φ limits state)
    (hlegacy : ∀ sha256 ∈ store.legacySha256, state.2.legacy.map Sha256.hexdigest = sha256) :
    ∃ head, store.verifyChain limits φ state.2 = .ok head := by
  obtain ⟨records, head, -, hchain⟩ := h
  have hanchor : ¬ store.legacySha256.any fun sha256 =>
      state.2.legacy.map Sha256.hexdigest ≠ sha256 := by
    cases hlegacy256 : store.legacySha256 with
    | none => simp
    | some sha256 => simp [hlegacy sha256 hlegacy256]
  have hstate : ∃ found, store.chainState limits φ state.2 = .ok found := by
    rw [JsonlAuditStore.chainState, raiseIf_of_not hanchor, ok_bind]
    split_ifs
    · exact ⟨_, hchain.verified⟩
    · exact ⟨_, rfl⟩
  obtain ⟨found, hfound⟩ := hstate
  exact ⟨found.1, by rw [JsonlAuditStore.verifyChain, JsonlAuditStore.chainStateOrFail, hfound]; rfl⟩

/-- **The journal is what was reported.**  After every run of calls of any processes on a journal
that was absent, among changes of the legacy file, the journal is a chain of the records of the
events that were reported as written, each once and in their order, and is verified; a call that is
refused then leaves it as it is, and one that is reported writes its record behind the others. -/
theorem journal_matches_reports {calls : List AuditCall}
    (hcalls : ∀ call ∈ calls, call.TamperEvident) {legacy : Option Bytes}
    {state : List AuditEvent × AuditFiles}
    (hrun : AuditCall.run limits φ calls ([], { legacy := legacy }) = state) :
    ∃ (records : List (AuditRecord φ)) (head : PyStr),
      List.Forall₂ (fun event record => event.members = .ok record) state.1 records ∧
      Chain limits records (state.2.journal.getD []) head ∧
      verifyChainState limits φ state.2.journal = .ok (head, (state.1.length : ℤ) + 1) ∧
      ∀ call : AuditCall, call.TamperEvident →
        Reported φ limits head (state.1.length + 1) state.2.journal
          (call.apply limits φ state.2) := by
  have hempty : Holds φ limits ([], { legacy := legacy }) := ⟨[], genesisRecordHash, .nil, .nil⟩
  obtain ⟨records, head, hrecords, hchain⟩ := hrun ▸ holds_run hcalls hempty
  have hlength : state.1.length = records.length := hrecords.length_eq
  refine ⟨records, head, hrecords, hchain, ?_, fun call hcall => ?_⟩
  · rw [hlength]
    exact hchain.verified
  · rw [hlength]
    exact apply_reported hcall hchain

end Runs

end Ai4Binance.Storage

/-! ### A journal without floats -/

/-- A checksum of eight digits, after fifty-six zeros. -/
def checksumText (data : Bytes) : PyStr :=
  List.replicate 56 48 ++ (List.range 8).map fun i =>
    JsonText.hexDigit (data.foldl (fun n b => (n * 31 + b.toNat) % 2 ^ 32) 1 / 16 ^ i % 16)

lemma length_checksumText (data : Bytes) : (checksumText data).length = 64 := by
  rw [checksumText, List.length_append, List.length_replicate, List.length_map, List.length_range]

lemma checksumText_hex (data : Bytes) :
    ∀ c ∈ checksumText data, 48 ≤ c ∧ c ≤ 57 ∨ 97 ≤ c ∧ c ≤ 102 := by
  intro c hc
  rcases List.mem_append.mp hc with hc | hc
  · rw [List.eq_of_mem_replicate hc]
    omega
  · obtain ⟨i, -, rfl⟩ := List.mem_map.mp hc
    rw [JsonText.hexDigit]
    split_ifs <;> omega

/-- A stand-in digest: a checksum of eight digits. -/
@[reducible] def Sha256.checksum : Sha256 where
  hexdigest := checksumText
  length_hexdigest := length_checksumText
  hexdigest_hex := checksumText_hex

/-- The one float `0.0`. -/
@[reducible] def FloatText.zero : FloatText Unit where
  parse text := if text = PyStr.of "0.0" then .finite () else .nan
  repr _ := PyStr.of "0.0"

@[reducible] def FloatValue.zero : FloatValue Unit := ⟨fun _ => 0⟩

@[reducible] def FloatBits.zero : FloatBits Unit := ⟨fun bits => if bits = 0 then .finite () else .nan⟩

lemma FloatText.lawful_zero : @LawfulFloatText Unit FloatText.zero := by
  let := FloatText.zero
  refine ⟨fun x => ⟨[48], [46, 48], by decide, ?_, ?_⟩, fun x => if_pos rfl, ?_⟩
  · change JsonText.scanNumber (PyStr.of "0.0") = _
    decide
  · change _ = PyStr.of "0.0"
    decide
  · intro x
    change ∀ c ∈ PyStr.of "0.0", 32 ≤ c ∧ c < 128
    decide

namespace Ai4Binance.Storage

/-- A store that seals its records. -/
def sealingStore : JsonlAuditStore where
  tamperEvident := true
  maxEventBytes_pos := by decide

/-- An event with a snapshot. -/
def processStarted : AuditEvent where
  eventType := "PROCESS_STARTED"
  timestamp := ⟨0, 0⟩
  payload := []
  snapshotId := some "run-1"
  eventType_ok := by decide
  snapshotId_ok := by decide

lemma first_append_reported :
    letI := FloatText.zero
    letI := FloatValue.zero
    letI := FloatBits.zero
    letI := Sha256.checksum
    letI := ReprData.const
    (AuditCall.run { maxDepth := 100 } Unit [.append sealingStore processStarted, .writeLegacy [10]]
      ([], {})).1.length = 1 := by
  decide +kernel

/-- **A first append** is reported, and the journal is verified with the next position. -/
theorem first_append_matches :
    letI := FloatText.zero
    letI := FloatValue.zero
    letI := FloatBits.zero
    letI := Sha256.checksum
    letI := ReprData.const
    ∃ written files, AuditCall.run { maxDepth := 100 } Unit
      [.append sealingStore processStarted, .writeLegacy [10]] ([], {}) = (written, files) ∧
        written.length = 1 ∧
        ∃ head, verifyChainState { maxDepth := 100 } Unit files.journal = .ok (head, 2) := by
  let := FloatText.zero
  let := FloatValue.zero
  let := FloatBits.zero
  let := Sha256.checksum
  let := ReprData.const
  have := FloatText.lawful_zero
  have hreported := first_append_reported
  have htamper : ∀ call ∈ [AuditCall.append sealingStore processStarted, .writeLegacy [10]],
      call.TamperEvident := by
    simp [AuditCall.TamperEvident, sealingStore]
  generalize hrun : AuditCall.run { maxDepth := 100 } Unit
    [.append sealingStore processStarted, .writeLegacy [10]] ([], {}) = state at hreported ⊢
  obtain ⟨records, head, -, -, hverified, -⟩ := journal_matches_reports htamper hrun
  rw [hreported] at hverified
  exact ⟨state.1, state.2, rfl, hreported, head, hverified⟩

end Ai4Binance.Storage
