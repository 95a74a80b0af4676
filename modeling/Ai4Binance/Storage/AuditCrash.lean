/-
A process that stops while it writes to the audit journal.

What it leaves is the journal and the first bytes of what it was about to add.

* `not_verified_cut`, `not_verified_unended`: a record that was cut is not verified, nor are two in
  one line;
* `run_unverified`: **a journal that is not verified** is changed by no call any more;
* `verified_unended`: a record without its newline is verified, until a call writes behind it;
* `torn_append`: **what a process leaves that stops at any byte** of any call.
-/
import Ai4Binance.Storage.AuditRuns

open Check Encoding Text

namespace Ai4Binance.Storage

/-! ### The last line of a journal -/

section LastLine

variable {φ : Type} [FloatText φ] [LawfulFloatText φ] [FloatValue φ] [Sha256] {limits : JsonLimits}
  {records : List (AuditRecord φ)} {record : AuditRecord φ} {content data rest : Bytes} {head : PyStr}

/-- The journal is not verified. -/
def Unverified (φ : Type) [FloatText φ] [FloatValue φ] (limits : JsonLimits)
    (journal : Option Bytes) : Prop := ∀ state, verifyChainState limits φ journal ≠ .ok state

/-- A line without a newline behind a chain is the last line that is verified. -/
lemma verifyChainState_line (hchain : Chain limits records content head) (hne : rest ≠ [])
    (hnewline : newlineByte ∉ rest) (ending : Bytes) (hending : ending = [] ∨ ending = [newlineByte]) :
    verifyChainState limits φ (some (content ++ (rest ++ ending))) =
      verifyLine limits φ (head, (records.length : ℤ) + 1)
        (rest ++ ending, 1 + (byteLines content).length) := by
  obtain ⟨halone, hended⟩ := byteLines_of_notMem hnewline hne
  have hlines : byteLines (rest ++ ending) = [rest ++ ending] := by
    rcases hending with rfl | rfl
    · rw [List.append_nil]
      exact halone
    · exact hended
  rw [verifyChainState_append hchain.endsLine hchain.verified, hlines, List.zipIdx_cons,
    List.foldlM_cons, List.zipIdx_nil]
  cases verifyLine limits φ (head, (records.length : ℤ) + 1)
    (rest ++ ending, 1 + (byteLines content).length) <;> rfl

omit [LawfulFloatText φ] in
/-- A line that is no object is not verified. -/
lemma verifyLine_ne_ok {state state' : PyStr × ℤ} {line : Bytes × ℕ}
    (h : ∀ label (members : AuditRecord φ), loadEventLine limits line.1 label ≠ .ok members) :
    verifyLine limits φ state line ≠ .ok state' := by
  intro hline
  obtain ⟨_, -, hline⟩ := bind_eq_ok.mp hline
  obtain ⟨members, hload, -⟩ := bind_eq_ok.mp hline
  exact h _ members hload

/-- **A record that was cut** is not verified. -/
lemma not_verified_cut (hchain : Chain limits records content head)
    (hplain : Json.Plain false (.obj record))
    (hdata : canonicalBytes limits (.obj record) = .ok (data ++ rest)) (hne : data ≠ [])
    (hrest : rest ≠ []) : Unverified φ limits (some (content ++ data)) := by
  intro state
  have hnewline : newlineByte ∉ data := fun hmem =>
    newlineByte_notMem hplain hdata (List.mem_append_left rest hmem)
  have hline := verifyChainState_line hchain hne hnewline [] (.inl rfl)
  rw [List.append_nil] at hline
  rw [hline]
  exact verifyLine_ne_ok (loadEventLine_cut hplain hdata hrest)

/-- **Two records in one line** are not verified. -/
lemma not_verified_unended (hchain : Chain limits records content head)
    (hplain : Json.Plain false (.obj record))
    (hdata : canonicalBytes limits (.obj record) = .ok data) {next : AuditRecord φ} {data' : Bytes}
    (hplain' : Json.Plain false (.obj next))
    (hdata' : canonicalBytes limits (.obj next) = .ok data') :
    Unverified φ limits (some (content ++ data ++ (data' ++ [newlineByte]))) := by
  intro state
  have hnewline : newlineByte ∉ data ++ data' := fun hmem =>
    (List.mem_append.mp hmem).elim (newlineByte_notMem hplain hdata)
      (newlineByte_notMem hplain' hdata')
  have hne : data ++ data' ≠ [] := by
    obtain ⟨inner, rfl⟩ := line_braces hdata
    exact List.cons_ne_nil _ _
  have hline := verifyChainState_line hchain hne hnewline [newlineByte] (.inr rfl)
  rw [List.append_assoc, ← List.append_assoc data, hline]
  refine verifyLine_ne_ok fun label members => ?_
  obtain ⟨text, htext, hdecode⟩ := decodeStrict_line hplain' hdata'
  obtain ⟨inner, hbraces⟩ := text_braces htext
  rw [List.append_assoc]
  refine loadEventLine_ne_ok hplain hdata (decodeStrict_append hdecode decodeStrict_newline) ?_
    label members
  rw [hbraces]
  exact List.cons_ne_nil _ _

end LastLine

/-! ### Journals that are not verified -/

section Crash

variable {φ : Type} [FloatText φ] [FloatValue φ] [FloatBits φ] [Sha256] [LowerData] [ReprData]
  {limits : JsonLimits} {store : JsonlAuditStore} {event : AuditEvent} {files : AuditFiles}
  {journal legacy : Option Bytes} {records : List (AuditRecord φ)} {record : AuditRecord φ}
  {content data rest : Bytes} {head previous : PyStr}

/-- No line is appended to a journal that is not verified. -/
lemma nextLine_unverified (htamper : store.tamperEvident) (event : AuditEvent)
    (h : Unverified φ limits files.journal) :
    ∃ e, store.nextLine limits φ event files = .error e := by
  cases hstate : store.chainStateOrFail limits φ files with
  | error e => exact ⟨e, by rw [JsonlAuditStore.nextLine, hstate]; rfl⟩
  | ok state => exact absurd (verifyChainState_of_chainStateOrFail htamper hstate) (h state)

lemma replays_unverified (htamper : store.tamperEvident) (sameNan : Bool) (event : AuditEvent)
    (h : Unverified φ limits files.journal) : ∃ e, store.replays limits φ sameNan event files = .error e := by
  cases hreplays : store.replays limits φ sameNan event files with
  | error e => exact ⟨e, rfl⟩
  | ok found =>
      obtain ⟨_, -, hreplays⟩ := bind_eq_ok.mp hreplays
      obtain ⟨state, hstate, -⟩ := bind_eq_ok.mp hreplays
      exact absurd (verifyChainState_of_chainStateOrFail htamper hstate) (h state)

/-- **Every call is refused** on a journal that is not verified. -/
lemma apply_unverified {call : AuditCall} (htamper : call.TamperEvident)
    (h : Unverified φ limits files.journal) :
    (call.apply limits φ files).1 = none ∧ (call.apply limits φ files).2.journal = files.journal := by
  cases call with
  | append store event =>
      obtain ⟨e, he⟩ := nextLine_unverified htamper event h
      rw [AuditCall.apply, JsonlAuditStore.append, he]
      exact ⟨rfl, rfl⟩
  | appendVerified store event =>
      obtain ⟨e, he⟩ := nextLine_unverified htamper event h
      rw [AuditCall.apply, JsonlAuditStore.appendVerified, JsonlAuditStore.expectedWrite, he]
      exact ⟨rfl, rfl⟩
  | appendVerifiedIdempotent store sameNan event =>
      obtain ⟨e, he⟩ := replays_unverified htamper sameNan event h
      rw [AuditCall.apply, JsonlAuditStore.appendVerifiedIdempotent, he]
      exact ⟨rfl, rfl⟩
  | writeLegacy content => exact ⟨rfl, rfl⟩

/-- **Such a journal stays as it is**, whatever is called. -/
lemma run_unverified {calls : List AuditCall} (hcalls : ∀ call ∈ calls, call.TamperEvident)
    {state : List AuditEvent × AuditFiles} (h : Unverified φ limits state.2.journal) :
    (AuditCall.run limits φ calls state).1 = state.1 ∧
      (AuditCall.run limits φ calls state).2.journal = state.2.journal := by
  induction calls generalizing state with
  | nil => exact ⟨rfl, rfl⟩
  | cons call calls ih =>
      obtain ⟨hcall, hcalls⟩ := List.forall_mem_cons.mp hcalls
      obtain ⟨hnone, hsame⟩ := apply_unverified hcall h
      have hstep : (AuditCall.step limits φ state call).1 = state.1 ∧
          (AuditCall.step limits φ state call).2.journal = state.2.journal := by
        rw [AuditCall.step, hnone, Option.toList_none, List.append_nil]
        exact ⟨rfl, hsame⟩
      rw [AuditCall.run, List.foldl_cons, ← AuditCall.run, ← hstep.1, ← hstep.2]
      exact ih hcalls (by rwa [hstep.2])

/-- The journal is not verified, and every run of calls leaves it as it is and reports nothing. -/
def Stuck (φ : Type) [FloatText φ] [FloatValue φ] [FloatBits φ] (limits : JsonLimits)
    (journal : Option Bytes) : Prop :=
  Unverified φ limits journal ∧
    ∀ calls : List AuditCall, (∀ call ∈ calls, call.TamperEvident) → ∀ written legacy,
      (AuditCall.run limits φ calls (written, ⟨journal, legacy⟩)).1 = written ∧
        (AuditCall.run limits φ calls (written, ⟨journal, legacy⟩)).2.journal = journal

lemma Unverified.stuck (h : Unverified φ limits journal) : Stuck φ limits journal :=
  ⟨h, fun _ hcalls written legacy => @run_unverified φ _ _ _ _ _ _ limits _ hcalls
    (written, ⟨journal, legacy⟩) h⟩

/-! ### Stopping at any byte -/

variable [LawfulFloatText φ]

/-- **A record without its newline** is verified, but no call writes behind it and leaves a journal
that is. -/
lemma verified_unended (hchain : Chain limits records content head) (hevent : IsEvent record)
    (s : Seal limits head ((records.length : ℤ) + 1) record)
    (hdata : canonicalBytes limits (.obj s.record) = .ok data) :
    verifyChainState limits φ (some (content ++ data)) =
      .ok (s.recordSha256, (records.length : ℤ) + 2) ∧
    ∀ call : AuditCall, call.TamperEvident → ∀ legacy,
      (call.apply limits φ ⟨some (content ++ data), legacy⟩).2.journal = some (content ++ data) ∨
        Stuck φ limits (call.apply limits φ ⟨some (content ++ data), legacy⟩).2.journal := by
  have hplain := plain_record s hevent hchain.isDigest
  have hverified : verifyChainState limits φ (some (content ++ data)) =
      .ok (s.recordSha256, (records.length : ℤ) + 2) := by
    have hne : data ≠ [] := by
      obtain ⟨inner, rfl⟩ := line_braces hdata
      exact List.cons_ne_nil _ _
    have hline := verifyChainState_line hchain hne (newlineByte_notMem hplain hdata) []
      (.inl rfl)
    have hempty : decodeStrict [] = some [] := rfl
    rw [verifyLine_line hevent hchain.isDigest s hdata hempty rfl, List.append_nil] at hline
    rw [hline, add_assoc]
    rfl
  refine ⟨hverified, fun call hcall legacy => ?_⟩
  have hdigest := isDigest_of_canonicalJsonSha256 s.record_eq
  let files : AuditFiles := ⟨some (content ++ data), legacy⟩
  have hverified' : verifyChainState limits φ files.journal =
      .ok (s.recordSha256, (records.length : ℤ) + 2) := hverified
  rcases apply_writes hcall hverified' hdigest with
    ⟨-, hsame⟩ | ⟨event, ⟨next, s', data', hmembers, hdata', hjournal⟩, -⟩
  · exact .inl hsame
  · have hplain' := plain_record s' (AuditEvent.members_ok hmembers).1 hdigest
    rw [hjournal]
    exact .inr (not_verified_unended hchain hplain hdata hplain' hdata').stuck

/-- **A process that stops at any byte of a call** leaves one of four journals: that before the
call; that after it; a record that was cut, which is not verified, and no call of any process
changes it any more; or a record without its newline, which is verified, but the next record is
written into the same line, and the journal is then not verified and no call changes it. -/
theorem torn_append {calls : List AuditCall} (hcalls : ∀ call ∈ calls, call.TamperEvident)
    {state : List AuditEvent × AuditFiles}
    (hrun : AuditCall.run limits φ calls ([], { legacy := legacy }) = state) {call : AuditCall}
    (hcall : call.TamperEvident) {torn : Bytes} (hbefore : state.2.journal.getD [] <+: torn)
    (hafter : torn <+: (call.apply limits φ state.2).2.journal.getD []) :
    torn = state.2.journal.getD [] ∨
    torn = (call.apply limits φ state.2).2.journal.getD [] ∨
    Stuck φ limits (some torn) ∨
    torn ++ [newlineByte] = (call.apply limits φ state.2).2.journal.getD [] ∧
      (∃ head, verifyChainState limits φ (some torn) = .ok (head, (state.1.length : ℤ) + 2)) ∧
      ∀ next : AuditCall, next.TamperEvident → ∀ legacy',
        (next.apply limits φ ⟨some torn, legacy'⟩).2.journal = some torn ∨
          Stuck φ limits (next.apply limits φ ⟨some torn, legacy'⟩).2.journal := by
  have hempty : Holds φ limits ([], { legacy := legacy }) := ⟨[], genesisRecordHash, .nil, .nil⟩
  obtain ⟨records, head, hrecords, hchain⟩ := hrun ▸ holds_run hcalls hempty
  have hlength : state.1.length = records.length := hrecords.length_eq
  rcases apply_reported hcall hchain with
    ⟨-, hsame⟩ | ⟨event, -, record, s, data, hmembers, hdata, hjournal⟩
  · rw [hsame] at hafter
    exact .inl (hafter.eq_of_length_le hbefore.length_le)
  · have hevent := (AuditEvent.members_ok hmembers).1
    rw [hjournal, Option.getD_some] at hafter ⊢
    obtain ⟨part, rfl⟩ := hbefore
    obtain ⟨rest, hrest⟩ := (List.prefix_append_right_inj _).mp hafter
    rcases List.eq_nil_or_concat rest with rfl | ⟨cut, last, rfl⟩
    · rw [List.append_nil] at hrest
      exact .inr (.inl (by rw [hrest]))
    rw [List.concat_eq_append, ← List.append_assoc] at hrest
    obtain ⟨rfl, -⟩ := List.append_inj' hrest rfl
    by_cases hpart : part = []
    · exact .inl (by rw [hpart, List.append_nil])
    by_cases hcut : cut = []
    · subst hcut
      rw [List.append_nil] at hdata
      obtain ⟨hverified, hnext⟩ := verified_unended hchain hevent s hdata
      refine .inr (.inr (.inr ⟨by rw [List.append_nil, List.append_assoc], ⟨s.recordSha256, ?_⟩, hnext⟩))
      rw [hlength]
      exact hverified
    · have hplain := plain_record s hevent hchain.isDigest
      exact .inr (.inr (.inl (not_verified_cut hchain hplain hdata hpart hcut).stuck))

end Crash

/-- **A first append that is cut** behind its brace leaves a journal that no call changes. -/
theorem first_append_cut :
    letI := FloatText.zero
    letI := FloatValue.zero
    letI := FloatBits.zero
    letI := Sha256.checksum
    letI := ReprData.const
    Stuck Unit { maxDepth := 100 } (some [123]) := by
  let := FloatText.zero
  let := FloatValue.zero
  let := FloatBits.zero
  let := Sha256.checksum
  let := ReprData.const
  have := FloatText.lawful_zero
  have hbegins : [123, 34] <+: ((AuditCall.append sealingStore processStarted).apply
      { maxDepth := 100 } Unit {}).2.journal.getD [] := by
    decide +kernel
  have hcalls : ∀ call ∈ ([] : List AuditCall), call.TamperEvident := by simp
  have hrun : AuditCall.run { maxDepth := 100 } Unit [] ([], {}) = ([], {}) := rfl
  have htamper : (AuditCall.append sealingStore processStarted).TamperEvident := rfl
  have hbefore : ({} : AuditFiles).journal.getD [] <+: [123] := List.nil_prefix
  have htorn := torn_append hcalls hrun htamper hbefore
  generalize ((AuditCall.append sealingStore processStarted).apply
    { maxDepth := 100 } Unit {}).2.journal.getD [] = written at hbegins htorn
  obtain ⟨rest, rfl⟩ := hbegins
  rcases htorn ⟨34 :: rest, rfl⟩ with hbefore | hafter | hstuck | ⟨hunended, -⟩
  · cases hbefore
  · cases hafter
  · exact hstuck
  · cases hunended

end Ai4Binance.Storage
