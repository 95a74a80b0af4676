/-
What a verified audit journal holds, whoever wrote it.

* `readEvents`: the events of a journal: the objects of its lines without their seals;
* `verifyLine_ok`: what a line that is verified is made of;
* `verified_hashChain`: **a verified journal is a hash chain** over the canonical texts of its events;
* `verified_heads_agree`: **journals that are verified with one head hold the same events**, or there
  is a collision of digests.
-/
import Ai4Binance.Lib.HashChain
import Ai4Binance.Lib.JsonLoaded
import Ai4Binance.Storage.AuditCrash

open Check Encoding Text

namespace Ai4Binance.Storage

section Tamper

variable {φ : Type} [FloatText φ] {limits : JsonLimits} {record : AuditRecord φ}
  {line data : Bytes} {label : String}

/-- The object of a line without its seal. -/
def unsealed (record : AuditRecord φ) : AuditRecord φ := record.filter fun m => m.1 ∉ sealKeys

/-- The events of a journal. -/
def readEvents (φ : Type) [FloatText φ] (limits : JsonLimits) (journal : Option Bytes) :
    Except AuditFault (List (AuditRecord φ)) :=
  (byteLines (journal.getD [])).mapM fun line =>
    (loadEventLine limits line "JSONL audit line").map unsealed

/-! ### Objects that are read -/

/-- The object of a line is plain. -/
lemma plain_of_loadEventLine (h : loadEventLine limits line label = .ok record) :
    Json.Plain false (.obj record) := by
  obtain ⟨text, hdecode, hloads⟩ := loadEventLine_eq_ok.mp h
  exact Json.loadsText_plain (valid_of_decodeUtf8 (decodeStrict_eq_some.mp hdecode).1) hloads

omit [FloatText φ] in
lemma plain_unsealed (h : Json.Plain false (.obj record)) :
    Json.Plain false (.obj (unsealed record)) := by
  obtain ⟨hkeys, hstrings, hvalues⟩ := Json.plain_obj_iff.mp h
  have hmem : ∀ m ∈ unsealed record, m ∈ record := fun m hm => (List.mem_filter.mp hm).1
  exact .obj (hkeys.sublist (List.filter_sublist.map _)) (fun m hm => hstrings m (hmem m hm))
    fun m hm => hvalues m (hmem m hm)

/-- The exception of a line names it, and the object does not. -/
lemma loadEventLine_label (h : loadEventLine limits line label = .ok record) (label' : String) :
    loadEventLine limits line label' = .ok record :=
  loadEventLine_eq_ok.mpr (loadEventLine_eq_ok.mp h)

variable [LawfulFloatText φ]

/-- **Plain values of one canonical text** differ in the order of members only. -/
lemma sorted_eq_of_canonicalBytes {value other : Json φ} (hvalue : Json.Plain false value)
    (hother : Json.Plain false other) (h : canonicalBytes limits value = .ok data)
    (h' : canonicalBytes limits other = .ok data) : value.sorted = other.sorted := by
  obtain ⟨text, htext, hdecode⟩ := decodeStrict_line hvalue h
  obtain ⟨text', htext', hdecode'⟩ := decodeStrict_line hother h'
  obtain rfl := Option.some.inj (hdecode.symm.trans hdecode')
  exact Json.sorted_eq_of_dumps hvalue hother htext htext'

/-! ### Links -/

section Links

variable [Sha256] {position position' : ℕ} {event event' previous previous' : PyStr}

/-- The content of a link. -/
def IsLink (φ : Type) [FloatText φ] (limits : JsonLimits) (position : ℕ) (event previous : PyStr)
    (link : Bytes) : Prop :=
  IsDigest event ∧ IsDigest previous ∧
    canonicalBytes limits (recordLink position event previous : Json φ) = .ok link

/-- The members of a link. -/
def linkMembers (φ : Type) (position : ℕ) (event previous : PyStr) : AuditRecord φ :=
  [(PyStr.of "chain_position", .int position), (PyStr.of "event_sha256", .str event),
    (PyStr.of "previous_record_sha256", .str previous)]

omit [FloatText φ] [LawfulFloatText φ] [Sha256] in
lemma nodup_linkMembers : ((linkMembers φ position event previous).map Prod.fst).Nodup := by
  have hkeys : (["chain_position", "event_sha256", "previous_record_sha256"].map PyStr.of).Nodup := by
    decide
  exact hkeys

omit [FloatText φ] [LawfulFloatText φ] [Sha256] in
lemma plain_recordLink (hevent : IsDigest event) (hprevious : IsDigest previous) :
    Json.Plain false (recordLink position event previous : Json φ) := by
  refine .obj nodup_linkMembers ?_ ?_
  · simp only [List.forall_mem_cons]
    exact ⟨stringPlain_of _, stringPlain_of _, stringPlain_of _, by simp⟩
  · simp only [List.forall_mem_cons]
    exact ⟨.int _, .str hevent.plain, .str hprevious.plain, by simp⟩

omit [FloatText φ] [LawfulFloatText φ] [Sha256] in
/-- The digests of a link are in its object. -/
lemma lastValue_linkMembers {key digest : PyStr}
    (hmem : (key, .str digest) ∈ linkMembers φ position event previous) :
    lastValue key (stored (linkMembers φ position event previous)) = some (.str digest) := by
  rw [stored, Json.sortMembers, lastValue_insertionSort, Json.sortedMembers_eq_map,
    lastValue_map fun _ => Json.sorted, Json.lastValue_of_mem nodup_linkMembers hmem]
  rfl

omit [Sha256] in
/-- **A link shows what it is made of.** -/
lemma isLink_shows {link : Bytes} (h : IsLink φ limits position event previous link)
    (h' : IsLink φ limits position' event' previous' link) :
    event = event' ∧ previous = previous' := by
  obtain ⟨hevent, hprevious, hlink⟩ := h
  obtain ⟨hevent', hprevious', hlink'⟩ := h'
  have hstored : stored (linkMembers φ position event previous) =
      stored (linkMembers φ position' event' previous') :=
    Json.obj.inj (sorted_eq_of_canonicalBytes (plain_recordLink hevent hprevious)
      (plain_recordLink hevent' hprevious') hlink hlink')
  have hsame : ∀ key {digest digest' : PyStr},
      (key, .str digest) ∈ linkMembers φ position event previous →
      (key, .str digest') ∈ linkMembers φ position' event' previous' → digest = digest' := by
    intro key digest digest' hmem hmem'
    have hlookup := lastValue_linkMembers hmem
    rw [hstored, lastValue_linkMembers hmem'] at hlookup
    exact (Json.str.inj (Option.some.inj hlookup)).symm
  exact ⟨hsame (PyStr.of "event_sha256") (by simp [linkMembers]) (by simp [linkMembers]),
    hsame (PyStr.of "previous_record_sha256") (by simp [linkMembers])
      (by simp [linkMembers])⟩

end Links

/-! ### Journals -/

section Journals

variable [Sha256] [FloatValue φ] {journal journal' : Option Bytes} {head previous : PyStr}
  {position : ℤ} {state : PyStr × ℤ}

/-- The hash chains over canonical texts of events. -/
abbrev AuditHashChain (φ : Type) [FloatText φ] (limits : JsonLimits) :
    List Bytes → List Bytes → PyStr → Prop :=
  HashChain Sha256.hexdigest (IsLink φ limits) genesisRecordHash

omit [LawfulFloatText φ] in
/-- **What an object that is verified is made of.** -/
lemma verifyRecord_ok {digest : PyStr}
    (h : verifyRecord limits label previous position record = .ok digest) :
    ∃ text link, canonicalBytes limits (.obj (unsealed record)) = .ok text ∧
      canonicalBytes limits (recordLink position (Sha256.hexdigest text) previous : Json φ) =
        .ok link ∧ digest = Sha256.hexdigest link := by
  obtain ⟨_, -, h⟩ := bind_eq_ok.mp h
  obtain ⟨_, -, h⟩ := bind_eq_ok.mp h
  obtain ⟨_, -, h⟩ := bind_eq_ok.mp h
  obtain ⟨_, -, h⟩ := bind_eq_ok.mp h
  obtain ⟨_, -, h⟩ := bind_eq_ok.mp h
  obtain ⟨recordSha256, -, h⟩ := bind_eq_ok.mp h
  obtain ⟨expectedEvent, hevent, h⟩ := bind_eq_ok.mp h
  obtain ⟨_, -, h⟩ := bind_eq_ok.mp h
  obtain ⟨expectedRecord, hrecord, h⟩ := bind_eq_ok.mp h
  obtain ⟨_, hsame, hreturn⟩ := bind_eq_ok.mp h
  obtain ⟨text, htext, rfl⟩ := exists_of_canonicalJsonSha256 hevent
  obtain ⟨link, hlink, rfl⟩ := exists_of_canonicalJsonSha256 hrecord
  exact ⟨text, link, htext, hlink,
    (pure_eq_ok.mp hreturn).symm.trans (not_not.mp (raiseIf_eq_ok.mp hsame))⟩

omit [FloatText φ] [FloatValue φ] [LawfulFloatText φ] [Sha256] in
lemma lastValue_of_textField {name : String} {text : PyStr}
    (h : textField record name label = .ok text) :
    lastValue (PyStr.of name) record = some (.str text) := by
  rw [textField] at h
  split at h
  · next s hs =>
      split_ifs at h
      rw [hs, Except.ok.inj h]
  · cases h

omit [LawfulFloatText φ] in
/-- **What an object that is verified shows**: its position, and its digest. -/
lemma verifyRecord_shows {digest : PyStr}
    (h : verifyRecord limits label previous position record = .ok digest) :
    (∃ value, lastValue (PyStr.of "chain_position") record = some value ∧
      Json.pyEq true value (.int position) = true) ∧
    lastValue (PyStr.of "record_sha256") record = some (.str digest) := by
  obtain ⟨_, -, h⟩ := bind_eq_ok.mp h
  obtain ⟨_, hposition, h⟩ := bind_eq_ok.mp h
  obtain ⟨_, -, h⟩ := bind_eq_ok.mp h
  obtain ⟨_, -, h⟩ := bind_eq_ok.mp h
  obtain ⟨_, -, h⟩ := bind_eq_ok.mp h
  obtain ⟨recordSha256, hrecord, h⟩ := bind_eq_ok.mp h
  obtain ⟨_, -, h⟩ := bind_eq_ok.mp h
  obtain ⟨_, -, h⟩ := bind_eq_ok.mp h
  obtain ⟨_, -, h⟩ := bind_eq_ok.mp h
  obtain ⟨_, -, hreturn⟩ := bind_eq_ok.mp h
  obtain rfl := pure_eq_ok.mp hreturn
  refine ⟨?_, lastValue_of_textField hrecord⟩
  have hall := raiseIf_eq_ok.mp hposition
  cases hvalue : lastValue (PyStr.of "chain_position") record with
  | none =>
      rw [hvalue] at hall
      exact absurd rfl hall
  | some value =>
      rw [hvalue, Option.all_some] at hall
      exact ⟨value, rfl, by simpa using hall⟩

omit [LawfulFloatText φ] in
/-- A line that is verified has an object that is. -/
lemma verifyLine_ok {numbered : Bytes × ℕ}
    (h : verifyLine limits φ (previous, position) numbered = .ok state) :
    ∃ (record : AuditRecord φ) (label : String), isBlankLine numbered.1 = false ∧
      loadEventLine limits numbered.1 label = .ok record ∧
      verifyRecord limits label previous position record = .ok state.1 ∧ state.2 = position + 1 := by
  obtain ⟨_, hblank, h⟩ := bind_eq_ok.mp h
  obtain ⟨record, hload, h⟩ := bind_eq_ok.mp h
  obtain ⟨digest, hverify, h⟩ := bind_eq_ok.mp h
  obtain rfl := pure_eq_ok.mp h
  exact ⟨record, _, Bool.eq_false_iff.mpr (raiseIf_eq_ok.mp hblank), hload, hverify, rfl⟩

/-- The contents that are digested for events, the newest first, of which the last link has the
digest. -/
def Digested (limits : JsonLimits) (events : List (AuditRecord φ)) (contents : List Bytes)
    (head : PyStr) : Prop :=
  ∃ texts, List.Forall₂ (fun event text => canonicalBytes limits (.obj event) = .ok text)
      events texts ∧
    AuditHashChain φ limits texts contents head

omit [FloatValue φ] [LawfulFloatText φ] in
lemma Digested.isDigest {events : List (AuditRecord φ)} {contents : List Bytes}
    (h : Digested limits events contents head) : IsDigest head := by
  obtain ⟨texts, -, hchain⟩ := h
  cases hchain with
  | nil => exact isDigest_genesis
  | @cons _ _ _ _ link _ _ => exact isDigest_hexdigest link

omit [LawfulFloatText φ] in
/-- **A line that is verified** puts the event of its object on the chain. -/
lemma digested_verifyLine {events : List (AuditRecord φ)} {contents : List Bytes}
    (hdigested : Digested limits events contents previous) {numbered : Bytes × ℕ}
    (h : verifyLine limits φ (previous, (events.length : ℤ) + 1) numbered = .ok state) :
    ∃ record contents', loadEventLine limits numbered.1 "JSONL audit line" = .ok record ∧
      Digested limits (unsealed record :: events) contents' state.1 ∧
      state.2 = (events.length : ℤ) + 1 + 1 := by
  obtain ⟨record, label, -, hload, hverify, hposition⟩ := verifyLine_ok h
  obtain ⟨text, link, htext, hlink, hstate⟩ := verifyRecord_ok hverify
  have hprevious := hdigested.isDigest
  obtain ⟨texts, htexts, hchain⟩ := hdigested
  have hislink : IsLink φ limits (texts.length + 1) (Sha256.hexdigest text) previous link := by
    refine ⟨isDigest_hexdigest text, hprevious, ?_⟩
    rw [← htexts.length_eq, Nat.cast_add, Nat.cast_one]
    exact hlink
  refine ⟨record, link :: text :: contents, loadEventLine_label hload _, ?_, hposition⟩
  rw [hstate]
  exact ⟨text :: texts, .cons htext htexts, hchain.cons hislink⟩

omit [LawfulFloatText φ] in
/-- Lines that are verified put their events on the chain. -/
lemma digested_foldlM {lines : List (Bytes × ℕ)} {events : List (AuditRecord φ)}
    {contents : List Bytes} (hdigested : Digested limits events contents previous)
    (h : lines.foldlM (verifyLine limits φ) (previous, (events.length : ℤ) + 1) = .ok state) :
    ∃ new contents', (lines.map Prod.fst).mapM (fun line =>
        (loadEventLine limits line "JSONL audit line").map unsealed) = .ok new ∧
      Digested limits (new.reverse ++ events) contents' state.1 ∧
      state.2 = ((new.reverse ++ events).length : ℤ) + 1 := by
  induction lines generalizing events contents previous with
  | nil =>
      obtain rfl := pure_eq_ok.mp h
      exact ⟨[], contents, rfl, hdigested, rfl⟩
  | cons numbered lines ih =>
      rw [List.foldlM_cons] at h
      obtain ⟨⟨head, position⟩, hline, h⟩ := bind_eq_ok.mp h
      obtain ⟨record, contents', hload, hdigested', hposition⟩ := digested_verifyLine hdigested hline
      dsimp only at hdigested' hposition
      subst hposition
      have hlength : (events.length : ℤ) + 1 = ((unsealed record :: events).length : ℤ) := by
        rw [List.length_cons, Nat.cast_add, Nat.cast_one]
      rw [hlength] at h
      obtain ⟨new, contents'', hnew, hchain, hstate⟩ := ih hdigested' h
      refine ⟨unsealed record :: new, contents'', ?_, ?_, ?_⟩
      · rw [List.map_cons, List.mapM_cons, hload, hnew]
        rfl
      · rw [List.reverse_cons, List.append_assoc, List.singleton_append]
        exact hchain
      · rw [List.reverse_cons, List.append_assoc, List.singleton_append]
        exact hstate

omit [LawfulFloatText φ] in
/-- **A verified journal is a hash chain** over the canonical texts of its events. -/
theorem verified_hashChain (h : verifyChainState limits φ journal = .ok state) :
    ∃ events contents, readEvents φ limits journal = .ok events ∧
      Digested limits events.reverse contents state.1 ∧ state.2 = (events.length : ℤ) + 1 := by
  have hgenesis : Digested (φ := φ) limits [] [] genesisRecordHash := ⟨[], .nil, .nil⟩
  obtain ⟨events, contents, hread, hdigested, hposition⟩ := digested_foldlM hgenesis h
  rw [List.append_nil] at hdigested hposition
  rw [List.length_reverse] at hposition
  rw [List.zipIdx_map_fst] at hread
  exact ⟨events, contents, hread, hdigested, hposition⟩

omit [LawfulFloatText φ] [Sha256] [FloatValue φ] in
/-- The events of a journal are plain. -/
lemma plain_of_readEvents {events : List (AuditRecord φ)}
    (h : readEvents φ limits journal = .ok events) :
    ∀ event ∈ events, Json.Plain false (.obj event) := by
  intro event hevent
  obtain ⟨line, -, hline⟩ := mem_of_mapM_eq_ok h hevent
  obtain ⟨record, hload, rfl⟩ := map_eq_ok.mp hline
  exact plain_unsealed (plain_of_loadEventLine hload)

/-- The digest of no text is that with which a chain begins. -/
lemma hexdigest_ne_genesis (data : Bytes) : Sha256.hexdigest data ≠ genesisRecordHash := by
  intro h
  have hlength := congrArg List.length h
  rw [Sha256.length_hexdigest] at hlength
  have hseven : genesisRecordHash.length = 7 := by decide
  omega

omit [Sha256] [FloatValue φ] in
/-- Events of the same canonical texts differ in the order of members only. -/
lemma sorted_eq_of_texts {events events' : List (AuditRecord φ)} {texts : List Bytes}
    (hplain : ∀ event ∈ events, Json.Plain false (.obj event))
    (hplain' : ∀ event ∈ events', Json.Plain false (.obj event))
    (h : List.Forall₂ (fun event text => canonicalBytes limits (.obj event) = .ok text) events texts)
    (h' : List.Forall₂ (fun event text => canonicalBytes limits (.obj event) = .ok text)
      events' texts) : events.map stored = events'.map stored := by
  induction h generalizing events' with
  | nil =>
      rw [List.forall₂_nil_right_iff] at h'
      rw [h']
  | cons hfirst _ ih =>
      obtain ⟨event', rest', hfirst', hrest', rfl⟩ := List.forall₂_cons_right_iff.mp h'
      obtain ⟨hevent, hplain⟩ := List.forall_mem_cons.mp hplain
      obtain ⟨hevent', hplain'⟩ := List.forall_mem_cons.mp hplain'
      have hsorted := sorted_eq_of_canonicalBytes hevent hevent' hfirst hfirst'
      rw [List.map_cons, List.map_cons, ih hplain hplain' hrest']
      exact congrArg (· :: _) (Json.obj.inj hsorted)

omit [FloatValue φ] in
/-- **Events that are digested for one head** are the same, or there is a collision. -/
lemma Digested.eq_or_collides {events events' : List (AuditRecord φ)} {contents contents' : List Bytes}
    (hplain : ∀ event ∈ events, Json.Plain false (.obj event))
    (hplain' : ∀ event ∈ events', Json.Plain false (.obj event))
    (h : Digested limits events contents head) (h' : Digested limits events' contents' head) :
    events.map stored = events'.map stored ∨ Collides Sha256.hexdigest contents contents' := by
  obtain ⟨texts, htexts, hchain⟩ := h
  obtain ⟨texts', htexts', hchain'⟩ := h'
  have hshows : Shows (IsLink φ limits) := fun _ _ _ _ _ _ _ => isLink_shows
  refine (hchain.eq_or_collides hshows hexdigest_ne_genesis hchain').imp_left fun hsame => ?_
  subst hsame
  exact sorted_eq_of_texts hplain hplain' htexts htexts'

omit [FloatValue φ] [LawfulFloatText φ] in
/-- The events of a chain are plain. -/
lemma Chain.plain {records : List (AuditRecord φ)} {content : Bytes}
    (h : Chain limits records content head) : ∀ event ∈ records, Json.Plain false (.obj event) := by
  induction h with
  | nil => simp
  | snoc _ hevent _ _ ih =>
      exact List.forall_mem_append.mpr ⟨ih, by simpa using hevent.plain⟩

omit [FloatValue φ] [LawfulFloatText φ] in
/-- **The events of a chain** are digested for its head. -/
lemma Chain.digested {records : List (AuditRecord φ)} {content : Bytes}
    (h : Chain limits records content head) :
    ∃ contents, Digested limits records.reverse contents head := by
  induction h with
  | nil => exact ⟨[], [], .nil, .nil⟩
  | @snoc events event content data previous hchain hevent s hdata ih =>
      obtain ⟨contents, texts, htexts, hhash⟩ := ih
      obtain ⟨text, htext, hevent256⟩ := exists_of_canonicalJsonSha256 s.event_eq
      obtain ⟨link, hlink, hrecord256⟩ := exists_of_canonicalJsonSha256 s.record_eq
      have hlength : texts.length = events.length := by simpa using htexts.length_eq.symm
      have hislink : IsLink φ limits (texts.length + 1) (Sha256.hexdigest text) previous link := by
        refine ⟨isDigest_hexdigest text, hchain.isDigest, ?_⟩
        rw [hlength, hevent256, Nat.cast_add, Nat.cast_one]
        exact hlink
      refine ⟨link :: text :: contents, text :: texts, ?_, ?_⟩
      · rw [List.reverse_append, List.reverse_singleton, List.singleton_append]
        exact .cons htext htexts
      · rw [← hrecord256]
        exact hhash.cons hislink

/-- **Journals that are verified with one head hold the same events.**  Whoever wrote them, the
events are as many and, but for the order in which the members of their objects stand, the same and
in the same order; or a content that is digested to verify the one journal and another one that is
digested for the other have the same digest. -/
theorem verified_heads_agree {position' : ℤ}
    (h : verifyChainState limits φ journal = .ok (head, position))
    (h' : verifyChainState limits φ journal' = .ok (head, position')) :
    ∃ events events' contents contents',
      readEvents φ limits journal = .ok events ∧ readEvents φ limits journal' = .ok events' ∧
      Digested limits events.reverse contents head ∧
      Digested limits events'.reverse contents' head ∧
      (position = position' ∧ events.map stored = events'.map stored ∨
        Collides Sha256.hexdigest contents contents') := by
  obtain ⟨events, contents, hread, hdigested, hposition⟩ := verified_hashChain h
  obtain ⟨events', contents', hread', hdigested', hposition'⟩ := verified_hashChain h'
  refine ⟨events, events', contents, contents', hread, hread', hdigested, hdigested', ?_⟩
  have hagree := hdigested.eq_or_collides (by simpa using plain_of_readEvents hread)
    (by simpa using plain_of_readEvents hread') hdigested'
  refine hagree.imp_left fun hsorted => ?_
  rw [List.map_reverse, List.map_reverse] at hsorted
  have hsame := List.reverse_injective hsorted
  have hlength : events.length = events'.length := by simpa using congrArg List.length hsame
  dsimp only at hposition hposition'
  exact ⟨by rw [hposition, hposition', hlength], hsame⟩

end Journals

end Tamper

/-- **The newline at the end is not sealed**: the first journal is verified with and without it, with
one head, and holds the same event. -/
theorem first_append_agrees :
    letI := FloatText.zero
    letI := FloatValue.zero
    letI := Sha256.checksum
    ∃ content head events events', content ≠ [] ∧
      verifyChainState { maxDepth := 100 } Unit (some (content ++ [newlineByte])) = .ok (head, 2) ∧
      verifyChainState { maxDepth := 100 } Unit (some content) = .ok (head, 2) ∧
      readEvents Unit { maxDepth := 100 } (some (content ++ [newlineByte])) = .ok events ∧
      readEvents Unit { maxDepth := 100 } (some content) = .ok events' ∧
      ∃ contents contents', Digested { maxDepth := 100 } events.reverse contents head ∧
        Digested { maxDepth := 100 } events'.reverse contents' head ∧
        (events.map stored = events'.map stored ∨
          Collides Sha256.hexdigest contents contents') := by
  let := FloatText.zero
  let := FloatValue.zero
  let := FloatBits.zero
  let := Sha256.checksum
  let := ReprData.const
  have := FloatText.lawful_zero
  have hcalls : ∀ call ∈ [AuditCall.append sealingStore processStarted, .writeLegacy [10]],
      call.TamperEvident := by
    simp [AuditCall.TamperEvident, sealingStore]
  have hempty : Holds Unit { maxDepth := 100 } ([], {}) := ⟨[], genesisRecordHash, .nil, .nil⟩
  obtain ⟨records, head, hrecords, hchain⟩ := holds_run hcalls hempty
  have hlength := hrecords.length_eq.symm.trans first_append_reported
  generalize ((AuditCall.run { maxDepth := 100 } Unit
    [AuditCall.append sealingStore processStarted, .writeLegacy [10]] ([], {})).2.journal.getD []) =
      journal at hchain
  have hverified := hchain.verified
  cases hchain with
  | nil => cases hlength
  | @snoc before event content data previous hbefore hevent s hdata =>
      have hone : before.length = 0 := by simpa using hlength
      obtain ⟨hunended, -⟩ := verified_unended hbefore hevent s hdata
      obtain ⟨inner, hbraces⟩ := line_braces hdata
      generalize s.recordSha256 = head at hverified hunended
      rw [hlength, ← List.append_assoc] at hverified
      rw [hone] at hunended
      obtain ⟨events, events', contents, contents', hread, hread', hdigested, hdigested', hagree⟩ :=
        verified_heads_agree hverified hunended
      exact ⟨content ++ data, head, events, events', by simp [hbraces], hverified, hunended, hread,
        hread', contents, contents', hdigested, hdigested', hagree.imp_left And.right⟩

end Ai4Binance.Storage
