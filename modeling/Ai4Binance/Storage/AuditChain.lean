/-
The chain of the audit journal, over the calls of all processes.

* `byteLines_append`: a file whose last line is ended and what follows it;
* `AuditEvent.members_ok`: the object of an event is plain, has none of the keys of a seal, and names
  the event;
* `Chain`: the files that the store writes, with the events in them;
* `verifyLine_line`: a line that was written is verified at its place;
* `Chain.verified`: **a chain is verified**, with its last digest and the next position.
-/
import Ai4Binance.Storage.AuditJournal

open Check Encoding Text

namespace Ai4Binance.Storage

lemma mapError_eq_ok {ε ε' α : Type} {x : Except ε α} {f : ε → ε'} {a : α} :
    x.mapError f = .ok a ↔ x = .ok a := by
  cases x <;> simp [Except.mapError]

/-! ### Lines -/

section Lines

variable {content rest line : Bytes}

/-- The last line is ended. -/
def EndsLine (content : Bytes) : Prop := ∀ b ∈ content.getLast?, b = newlineByte

lemma endsLine_append (content : Bytes) : EndsLine (content ++ [newlineByte]) := by
  intro b hb
  rw [List.getLast?_concat] at hb
  exact (Option.some.inj hb).symm

lemma byteLines_ne_nil (h : content ≠ []) : byteLines content ≠ [] := by
  cases content with
  | nil => exact absurd rfl h
  | cons b content =>
      rw [byteLines]
      split_ifs
      · exact List.cons_ne_nil _ _
      · split <;> exact List.cons_ne_nil _ _

/-- **What follows an ended line** is divided apart from it. -/
lemma byteLines_append (h : EndsLine content) :
    byteLines (content ++ rest) = byteLines content ++ byteLines rest := by
  induction content with
  | nil => rfl
  | cons b content ih =>
      rw [List.cons_append, byteLines, byteLines]
      split_ifs with hb
      · have hends : EndsLine content := by
          intro b' hb'
          refine h b' ?_
          cases content with
          | nil => cases hb'
          | cons _ _ => exact hb'
        rw [ih hends, List.cons_append]
      · have hne : content ≠ [] := by
          rintro rfl
          exact hb (h b rfl)
        have hends : EndsLine content := by
          intro b' hb'
          refine h b' ?_
          rw [Option.mem_def] at hb' ⊢
          rw [List.getLast?_cons, hb']
          rfl
        rw [ih hends]
        cases hlines : byteLines content with
        | nil => exact absurd hlines (byteLines_ne_nil hne)
        | cons line lines => rfl

/-- A line without a newline in it is one, ended or not. -/
lemma byteLines_of_notMem (h : newlineByte ∉ line) (hne : line ≠ []) :
    byteLines line = [line] ∧ byteLines (line ++ [newlineByte]) = [line ++ [newlineByte]] := by
  induction line with
  | nil => exact absurd rfl hne
  | cons b line ih =>
      obtain ⟨hb, hline⟩ := not_or.mp (List.mem_cons.not.mp h)
      rw [List.cons_append, byteLines, byteLines, if_neg (Ne.symm hb), if_neg (Ne.symm hb)]
      cases line with
      | nil => exact ⟨rfl, rfl⟩
      | cons b' line =>
          obtain ⟨halone, hended⟩ := ih hline (List.cons_ne_nil _ _)
          rw [halone, hended]
          exact ⟨rfl, rfl⟩

end Lines

/-! ### The object of an event -/

section Events

lemma of_injective : Function.Injective PyStr.of := by
  intro s t h
  have hchar : Function.Injective Char.toNat := fun _ _ => Char.toNat_inj.mp
  exact String.toList_injective (List.map_injective_iff.mpr hchar h)

lemma valid_of (s : String) : (PyStr.of s).Valid := by
  intro c hc
  obtain ⟨char, -, rfl⟩ := List.mem_map.mp hc
  have hvalid : char.toNat < 0xd800 ∨ 0xdfff < char.toNat ∧ char.toNat < 0x110000 := char.valid
  omega

lemma stringPlain_of (s : String) : Json.StringPlain false (PyStr.of s) :=
  ⟨valid_of s, nofun⟩

namespace PyValue

variable {φ : Type} [FloatBits φ]

lemma itemsToJson_eq_some {items : List (String × PyValue)} {members : AuditRecord φ} :
    itemsToJson items = some members ↔
      List.Forall₂ (fun item m => m.1 = PyStr.of item.1 ∧ toJson item.2 = some m.2) items members := by
  induction items generalizing members with
  | nil => rw [itemsToJson, Option.some.injEq, List.forall₂_nil_left_iff, eq_comm]
  | cons item items ih =>
      rw [itemsToJson, Option.bind_eq_some_iff, List.forall₂_cons_left_iff]
      constructor
      · rintro ⟨value, hvalue, h⟩
        obtain ⟨rest, hrest, rfl⟩ := Option.map_eq_some_iff.mp h
        exact ⟨_, rest, ⟨rfl, hvalue⟩, ih.mp hrest, rfl⟩
      · rintro ⟨⟨key, value⟩, rest, ⟨rfl, hvalue⟩, hrest, rfl⟩
        exact ⟨value, hvalue, Option.map_eq_some_iff.mpr ⟨rest, ih.mpr hrest, rfl⟩⟩

lemma listToJson_eq_some {items : List PyValue} {values : List (Json φ)} :
    listToJson items = some values ↔
      List.Forall₂ (fun item value => toJson item = some value) items values := by
  induction items generalizing values with
  | nil => rw [listToJson, Option.some.injEq, List.forall₂_nil_left_iff, eq_comm]
  | cons item items ih =>
      rw [listToJson, Option.bind_eq_some_iff, List.forall₂_cons_left_iff]
      constructor
      · rintro ⟨value, hvalue, h⟩
        obtain ⟨rest, hrest, rfl⟩ := Option.map_eq_some_iff.mp h
        exact ⟨value, rest, hvalue, ih.mp hrest, rfl⟩
      · rintro ⟨value, rest, hvalue, hrest, rfl⟩
        exact ⟨value, hvalue, Option.map_eq_some_iff.mpr ⟨rest, ih.mpr hrest, rfl⟩⟩

/-- The keys of an object are those of the mapping. -/
lemma keys_itemsToJson {items : List (String × PyValue)} {members : AuditRecord φ}
    (h : itemsToJson items = some members) :
    members.map Prod.fst = (items.map Prod.fst).map PyStr.of := by
  rw [itemsToJson_eq_some] at h
  induction h with
  | nil => rfl
  | cons hfirst _ ih => rw [List.map_cons, List.map_cons, List.map_cons, ih, hfirst.1]

/-- The member of an object under the text of a key. -/
lemma lastValue_itemsToJson {items : List (String × PyValue)} {members : AuditRecord φ}
    (h : itemsToJson items = some members) (key : String) :
    lastValue (PyStr.of key) members = (lastValue key items).bind toJson := by
  rw [itemsToJson_eq_some] at h
  have hmapped : List.Forall₂ (fun e m => m.1 = e.1 ∧ toJson e.2 = some m.2)
      (items.map fun item => (PyStr.of item.1, item.2)) members :=
    List.forall₂_map_left_iff.mpr h
  have hrel := rel_lastValue (k := PyStr.of key) (R := fun item value => toJson item = some value)
    hmapped
  rw [lastValue_mapKey of_injective] at hrel
  generalize lastValue key items = item, lastValue (PyStr.of key) members = value at hrel
  cases hrel with
  | some hvalue => rw [Option.bind_some, hvalue]
  | none => rfl

/-- A redacted value is written plainly. -/
lemma plain_of_redact [LowerData] {value : PyValue} {json : Json φ}
    (h : value.redact.toJson = some json) : Json.Plain false json := by
  have hlist : ∀ items : List PyValue,
      (∀ item ∈ items, ∀ {json : Json φ}, item.redact.toJson = some json → Json.Plain false json) →
      ∀ {json : Json φ}, (list (redactList items)).toJson = some json → Json.Plain false json := by
    intro items ih json hjson
    obtain ⟨values, hvalues, rfl⟩ := Option.map_eq_some_iff.mp hjson
    rw [redactList_eq_map, listToJson_eq_some, List.forall₂_map_left_iff] at hvalues
    refine .arr fun value hvalue => ?_
    obtain ⟨item, hitem, hvalue⟩ := Json.exists_of_mem_right hvalues hvalue
    exact ih item hitem hvalue
  induction value generalizing json with
  | leaf x =>
      cases x <;> cases h
      · exact .null
      · exact .bool _
      · exact .int _
      · exact .float _
      · exact .str (stringPlain_of _)
  | enum value _ => cases h
  | dataclass fields _ => cases h
  | mapping items ih =>
      rw [redact] at h
      obtain ⟨members, hmembers, rfl⟩ := Option.map_eq_some_iff.mp h
      have hpairs := itemsToJson_eq_some.mp hmembers
      refine .obj ?_ (fun m hm => ?_) fun m hm => ?_
      · rw [keys_itemsToJson hmembers]
        exact (Dict.nodup_ofPairs _).map of_injective
      · obtain ⟨item, -, hkey, -⟩ := Json.exists_of_mem_right hpairs hm
        rw [hkey]
        exact stringPlain_of _
      · obtain ⟨item, hitem, -, hvalue⟩ := Json.exists_of_mem_right hpairs hm
        have hmem := Dict.mem_of_mem_ofPairs hitem
        rw [redactItems_eq_map] at hmem
        obtain ⟨source, hsource, rfl⟩ := List.mem_map.mp hmem
        change (mask source.1 source.2).toJson = some m.2 at hvalue
        rw [mask] at hvalue
        split_ifs at hvalue
        · rw [← Option.some.inj hvalue]
          exact .str (stringPlain_of _)
        · exact ih source hsource hvalue
  | set items ih => exact hlist items (fun item hitem _ => ih item hitem) h
  | list items ih => exact hlist items (fun item hitem _ => ih item hitem) h
  | tuple items ih => exact hlist items (fun item hitem _ => ih item hitem) h

end PyValue

/-- A key of ASCII characters is sensitive under every mapping of letters or under none. -/
lemma isSensitive_ascii [LowerData] {key : String}
    (h : (strip key).toList.all fun c => c.toNat < 128) :
    isSensitive key = @isSensitive asciiLower key := by
  have hascii : ∀ c ∈ (strip key).toList, c.toNat < 128 := by simpa using h
  have hlower : LowerData.lower (strip key) = @LowerData.lower asciiLower (strip key) :=
    LowerData.lower_ascii _ hascii
  rw [isSensitive, normalizedKey, hlower]
  rfl

/-- The object is plain, and has none of the keys of a seal. -/
structure IsEvent {φ : Type} (event : AuditRecord φ) : Prop where
  plain : Json.Plain false (.obj event)
  unsealed : ∀ m ∈ event, m.1 ∉ sealKeys

namespace AuditEvent

open PyValue

variable {φ : Type} [FloatBits φ] [LowerData] [ReprData] {event : AuditEvent}
  {members : AuditRecord φ}

omit [FloatBits φ] [LowerData] in
/-- The keys of fields stay as they are. -/
lemma keys_of_inTurn {items d : List (String × PyValue)}
    (h : inTurn (items.map fun item => (item.1, item.2.toPrimitive)) = .ok d) :
    d.map Prod.fst = items.map Prod.fst := by
  have hpairs := forall₂_of_inTurn h
  clear h
  induction hpairs with
  | nil => rfl
  | cons hfirst _ ih => rw [List.map_cons, List.map_cons, ih, hfirst.1]

/-- A name of an event is at its place in the object of the event. -/
lemma lastValue_members {items : List (String × PyValue)} {primitive : PyValue} {key : String}
    {x : PyLeaf} (hprimitive : Converts (.dataclass event.fields) primitive)
    (hredact : primitive.redact = .mapping items) (hmembers : itemsToJson items = some members)
    (hkey : isSensitive key = false)
    (hfield : (PyValue.dataclass event.fields).child (.key key) = some (.leaf x))
    (hx : x.primitive = x) : lastValue (PyStr.of key) members = (leaf x).toJson := by
  obtain ⟨item, hitem, hchild⟩ := child_primitive hprimitive hfield
  obtain rfl := eq_leaf_of_recordLeaf (x := x) hitem (congrArg some hx)
  rw [hredact, maskAt, mask, if_neg (Bool.eq_false_iff.mp hkey)] at hchild
  rw [lastValue_itemsToJson hmembers]
  change lastValue key items = _ at hchild
  rw [hchild]
  rfl

/-- **The object of an event** is plain, has the five keys of an event, and names the event. -/
theorem members_ok (h : event.members = .ok members) :
    IsEvent members ∧ members.map Prod.fst = eventKeys ∧
      ∀ eventType snapshotId, hasIdentity eventType snapshotId members = true ↔
        event.eventType = eventType ∧ event.snapshotId = snapshotId := by
  obtain ⟨recorded, hrecord, h⟩ := bind_eq_ok.mp h
  obtain ⟨primitive, hprimitive, hredact, -⟩ := exists_primitive (mapError_eq_ok.mp hrecord)
  have hplain : ∀ json : Json φ, recorded.toJson = some json → Json.Plain false json := by
    intro json hjson
    rw [← hredact] at hjson
    exact plain_of_redact hjson
  obtain ⟨d, hd, rfl⟩ := map_eq_ok.mp hprimitive
  rw [itemPrimitives_eq_map] at hd
  have hkeys : d.map Prod.fst = event.fields.map Prod.fst := keys_of_inTurn hd
  have hnodup : (d.map Prod.fst).Nodup := by
    rw [hkeys]
    change ["event_type", "timestamp", "payload", "snapshot_id", "schema_version"].Nodup
    decide
  have hmasked : (redactItems d).map Prod.fst = d.map Prod.fst := by
    rw [redactItems_eq_map, List.map_map]
    rfl
  rw [redact, Dict.ofPairs_of_nodup hnodup, Dict.ofPairs_of_nodup (hmasked ▸ hnodup)] at hredact
  subst hredact
  cases hjson : (mapping (redactItems d)).toJson (φ := φ) with
  | none =>
      rw [hjson] at h
      cases h
  | some json =>
      rw [hjson] at h
      obtain ⟨members', hmembers, rfl⟩ := Option.map_eq_some_iff.mp hjson
      obtain rfl := pure_eq_ok.mp h
      have hmemberKeys : members'.map Prod.fst = eventKeys := by
        rw [keys_itemsToJson hmembers, hmasked, hkeys]
        rfl
      refine ⟨⟨hplain _ hjson, fun m hm => ?_⟩, hmemberKeys, ?_⟩
      · have hmem : m.1 ∈ eventKeys := hmemberKeys ▸ List.mem_map_of_mem hm
        have hapart : ∀ key ∈ eventKeys, key ∉ sealKeys := by decide
        exact hapart m.1 hmem
      · have hsensitive : ∀ key ∈ ["event_type", "snapshot_id"], isSensitive key = false := by
          intro key hkey
          have hall : ["event_type", "snapshot_id"].all fun key =>
              ((strip key).toList.all fun c => c.toNat < 128) && !@isSensitive asciiLower key := by
            decide
          obtain ⟨hascii, hplain⟩ := Bool.and_eq_true_iff.mp (List.all_eq_true.mp hall key hkey)
          rw [isSensitive_ascii hascii, ← Bool.not_eq_true']
          exact hplain
        have hconverted : Converts (.dataclass event.fields) (mapping (Dict.ofPairs d)) := hprimitive
        have hredacted : (mapping (Dict.ofPairs d)).redact = mapping (redactItems d) := by
          rw [redact, Dict.ofPairs_of_nodup hnodup, Dict.ofPairs_of_nodup (hmasked ▸ hnodup)]
        have htype := lastValue_members hconverted hredacted hmembers
          (hsensitive "event_type" (by simp)) rfl rfl
        have hsnapshot := lastValue_members (x := event.snapshotId.elim .none .str) hconverted
          hredacted hmembers (hsensitive "snapshot_id" (by simp)) rfl
          (by cases event.snapshotId <;> rfl)
        intro eventType snapshotId
        unfold hasIdentity
        rw [htype, hsnapshot]
        cases event.snapshotId <;> cases snapshotId <;> simp [toJson, of_injective.eq_iff]

end AuditEvent

end Events

/-! ### Sealed records -/

section Sealed

variable {φ : Type} [FloatText φ] [Sha256] {limits : JsonLimits} {event : AuditRecord φ}
  {previous : PyStr} {position : ℤ}

/-- The seal of an event at its place in a chain: the two digests. -/
structure Seal (limits : JsonLimits) (previous : PyStr) (position : ℤ) (event : AuditRecord φ) where
  eventSha256 : PyStr
  recordSha256 : PyStr
  event_eq : canonicalJsonSha256 limits (.obj event) = .ok eventSha256
  record_eq : canonicalJsonSha256 limits (recordLink position eventSha256 previous : Json φ) =
    .ok recordSha256

namespace Seal

/-- The fields of a seal, in the order in which they are set. -/
def fields (s : Seal limits previous position event) : AuditRecord φ :=
  [(PyStr.of "chain_position", .int position), (PyStr.of "tamper_evident", .bool true),
    (PyStr.of "previous_record_sha256", .str previous),
    (PyStr.of "event_sha256", .str s.eventSha256), (PyStr.of "record_sha256", .str s.recordSha256)]

/-- The sealed record. -/
def record (s : Seal limits previous position event) : AuditRecord φ := event ++ s.fields

end Seal

omit [Sha256] in
lemma nodup_sealKeys : sealKeys.Nodup := by decide

/-- The keys of a sealed record do not repeat. -/
lemma nodup_record (s : Seal limits previous position event) (hevent : IsEvent event) :
    (s.record.map Prod.fst).Nodup := by
  obtain ⟨hnodup, -, -⟩ := Json.plain_obj_iff.mp hevent.plain
  have hfields : s.fields.map Prod.fst = sealKeys := rfl
  rw [Seal.record, List.map_append, hfields, List.nodup_append]
  refine ⟨hnodup, nodup_sealKeys, ?_⟩
  rintro key hkey _ hseal rfl
  obtain ⟨m, hm, rfl⟩ := List.mem_map.mp hkey
  exact hevent.unsealed m hm hseal

/-- **A sealed record** is the event with the fields of its seal behind it. -/
lemma exists_seal {record : AuditRecord φ} (hevent : IsEvent event)
    (h : sealTamperEvidentRecord limits previous position event = .ok record) :
    ∃ s : Seal limits previous position event, s.record = record := by
  obtain ⟨eventSha256, hevent256, h⟩ := bind_eq_ok.mp h
  obtain ⟨recordSha256, hrecord256, h⟩ := bind_eq_ok.mp h
  obtain rfl := pure_eq_ok.mp h
  let s : Seal limits previous position event := ⟨eventSha256, recordSha256, hevent256, hrecord256⟩
  exact ⟨s, (Dict.foldl_set_of_nodup (nodup_record s hevent)).symm⟩

/-- What a reader makes of the object of a record. -/
def stored (record : AuditRecord φ) : AuditRecord φ := Json.sortMembers (Json.sortedMembers record)

omit [FloatText φ] [Sha256] in
lemma perm_stored (record : AuditRecord φ) :
    (stored record).Perm (record.map fun m => (m.1, m.2.sorted)) := by
  rw [stored, Json.sortedMembers_eq_map]
  exact Json.perm_sortMembers _

/-! ### Digests -/

/-- What a record may name as the digest before it. -/
structure IsDigest (digest : PyStr) : Prop where
  plain : Json.StringPlain false digest
  notBlank : isBlankText digest = false

omit [FloatText φ] [Sha256] in
lemma isDigest_genesis : IsDigest genesisRecordHash := ⟨stringPlain_of _, by decide⟩

omit [FloatText φ] in
lemma isDigest_hexdigest (data : Bytes) : IsDigest (Sha256.hexdigest data) := by
  have hrange : ∀ c ∈ Sha256.hexdigest data, 48 ≤ c ∧ c ≤ 102 := fun c hc => by
    have := Sha256.hexdigest_hex data c hc
    omega
  refine ⟨⟨fun c hc => by have := hrange c hc; omega, nofun⟩, ?_⟩
  have hlength := Sha256.length_hexdigest data
  cases h : Sha256.hexdigest data with
  | nil =>
      rw [h] at hlength
      cases hlength
  | cons c digest =>
      have hc := hrange c (h ▸ List.mem_cons_self)
      have hvalid : c.isValidChar := .inl (by omega)
      have hnat : (Char.ofNat c).toNat = c := by
        rw [Char.toNat_ofNat, if_pos hvalid]
      rw [isBlankText, List.all_cons, isSpace_of_graphic (by omega) (by omega), Bool.false_and]

/-- The digest of a value is one of the bytes of its canonical text. -/
lemma exists_of_canonicalJsonSha256 {value : Json φ} {digest : PyStr}
    (h : canonicalJsonSha256 limits value = .ok digest) :
    ∃ data, canonicalBytes limits value = .ok data ∧ Sha256.hexdigest data = digest :=
  map_eq_ok.mp h

lemma isDigest_of_canonicalJsonSha256 {value : Json φ} {digest : PyStr}
    (h : canonicalJsonSha256 limits value = .ok digest) : IsDigest digest := by
  obtain ⟨data, -, rfl⟩ := exists_of_canonicalJsonSha256 h
  exact isDigest_hexdigest data

/-- **A sealed record is plain.** -/
lemma plain_record (s : Seal limits previous position event) (hevent : IsEvent event)
    (hprevious : IsDigest previous) : Json.Plain false (.obj s.record) := by
  obtain ⟨-, hkeys, hvalues⟩ := Json.plain_obj_iff.mp hevent.plain
  refine .obj (nodup_record s hevent) (List.forall_mem_append.mpr ⟨hkeys, ?_⟩)
    (List.forall_mem_append.mpr ⟨hvalues, ?_⟩)
  · simp only [Seal.fields, List.forall_mem_cons]
    exact ⟨stringPlain_of _, stringPlain_of _, stringPlain_of _, stringPlain_of _,
      stringPlain_of _, by simp⟩
  · simp only [Seal.fields, List.forall_mem_cons]
    exact ⟨.int _, .bool _, .str hprevious.plain,
      .str (isDigest_of_canonicalJsonSha256 s.event_eq).plain,
      .str (isDigest_of_canonicalJsonSha256 s.record_eq).plain, by simp⟩

/-! ### Verification -/

/-- A field of the seal is at its place in the record that is read. -/
lemma lastValue_field (s : Seal limits previous position event) (hevent : IsEvent event)
    {m : PyStr × Json φ} (hm : m ∈ s.fields) : lastValue m.1 (stored s.record) = some m.2.sorted := by
  have hlookup := Json.lastValue_of_mem (nodup_record s hevent) (List.mem_append_right event hm)
  rw [stored, Json.sortMembers, lastValue_insertionSort, Json.sortedMembers_eq_map,
    lastValue_map fun _ => Json.sorted, hlookup]
  rfl

lemma textField_field (s : Seal limits previous position event) (hevent : IsEvent event)
    {name label : String} {digest : PyStr} (hm : (PyStr.of name, .str digest) ∈ s.fields)
    (hdigest : IsDigest digest) : textField (stored s.record) name label = .ok digest := by
  have hlookup := lastValue_field s hevent hm
  dsimp only at hlookup
  rw [textField, hlookup]
  exact if_neg (by rw [hdigest.notBlank]; exact Bool.false_ne_true)

omit [Sha256] in
/-- The order of members, here and below, does not show in the canonical text. -/
lemma canonicalBytes_stored (hnodup : (event.map Prod.fst).Nodup)
    {members : AuditRecord φ} (hperm : members.Perm (event.map fun m => (m.1, m.2.sorted))) :
    canonicalBytes limits (.obj members) = canonicalBytes limits (.obj event) := by
  have hkeys : ((event.map fun m => (m.1, m.2.sorted)).map Prod.fst).Nodup := by
    rw [List.map_map]
    exact hnodup
  have hmembers : (members.map Prod.fst).Nodup := ((hperm.map Prod.fst).nodup_iff).mpr hkeys
  have hsorted : (Json.obj event).sorted = .obj (stored event) := rfl
  rw [canonicalBytes, canonicalBytes, Json.dumps, Json.dumps,
    Json.write_obj_perm (hperm.trans (perm_stored event).symm) hmembers, ← hsorted,
    Json.write_sorted]

/-- The digest of what is left of a sealed record without its seal. -/
lemma canonicalJsonSha256_unsealed (s : Seal limits previous position event)
    (hevent : IsEvent event) :
    canonicalJsonSha256 limits (.obj ((stored s.record).filter fun m => m.1 ∉ sealKeys)) =
      .ok s.eventSha256 := by
  have hfields : ∀ m ∈ s.fields, m.1 ∈ sealKeys := fun m hm => List.mem_map_of_mem (f := Prod.fst) hm
  have hperm : ((stored s.record).filter fun m => m.1 ∉ sealKeys).Perm
      (event.map fun m => (m.1, m.2.sorted)) := by
    refine ((perm_stored s.record).filter _).trans (.of_eq ?_)
    rw [List.filter_map, Seal.record, List.filter_append]
    have hkept : event.filter ((fun m => decide (m.1 ∉ sealKeys)) ∘ fun m => (m.1, m.2.sorted)) =
        event := List.filter_eq_self.mpr fun m hm => decide_eq_true (hevent.unsealed m hm)
    have hleft : s.fields.filter ((fun m => decide (m.1 ∉ sealKeys)) ∘ fun m => (m.1, m.2.sorted)) =
        [] := List.filter_eq_nil_iff.mpr fun m hm => by simp [hfields m hm]
    rw [hkept, hleft, List.append_nil]
  rw [canonicalJsonSha256, canonicalBytes_stored (Json.plain_obj_iff.mp hevent.plain).1 hperm]
  exact s.event_eq

variable [FloatValue φ]

/-- **A sealed record is verified** at its place. -/
theorem verifyRecord_stored (s : Seal limits previous position event) (hevent : IsEvent event)
    (hprevious : IsDigest previous) (label : String) :
    verifyRecord limits label previous position (stored s.record) = .ok s.recordSha256 := by
  have htamper := lastValue_field s hevent (m := (PyStr.of "tamper_evident", .bool true))
    (by simp [Seal.fields])
  have hposition := lastValue_field s hevent (m := (PyStr.of "chain_position", .int position))
    (by simp [Seal.fields])
  have hfield : ∀ (name : String) {digest : PyStr}, (PyStr.of name, .str digest) ∈ s.fields →
      IsDigest digest → textField (stored s.record) name label = .ok digest :=
    fun name digest hm hdigest => textField_field s hevent hm hdigest
  dsimp only [Json.sorted] at htamper hposition
  have hequal : Json.pyEq true (.int position : Json φ) (.int position) = true := by
    simp [Json.pyEq, Json.number?, Json.numberEq]
  rw [verifyRecord, htamper, raiseIf_of_not (by simp), ok_bind, hposition,
    raiseIf_of_not (by simp [hequal]), ok_bind,
    hfield "previous_record_sha256" (by simp [Seal.fields]) hprevious, ok_bind,
    raiseIf_of_not (not_not.mpr rfl), ok_bind,
    hfield "event_sha256" (by simp [Seal.fields])
      (isDigest_of_canonicalJsonSha256 s.event_eq), ok_bind,
    hfield "record_sha256" (by simp [Seal.fields])
      (isDigest_of_canonicalJsonSha256 s.record_eq), ok_bind,
    canonicalJsonSha256_unsealed s hevent, ok_bind, raiseIf_of_not (not_not.mpr rfl), ok_bind,
    s.record_eq, ok_bind, raiseIf_of_not (not_not.mpr rfl), ok_bind]
  rfl

end Sealed

/-! ### The line of a record -/

section Line

variable {φ : Type} [FloatText φ] {limits : JsonLimits} {record : AuditRecord φ} {data rest : Bytes}

/-- The text of a record begins with a brace and ends in one. -/
lemma text_braces {text : PyStr} (h : Json.dumps limits false (.obj record) = .ok text) :
    ∃ inner, text = 123 :: (inner ++ [125]) := by
  obtain ⟨-, texts, -, -, rfl⟩ := Json.write_obj_ok h
  exact ⟨[44].intercalate texts, rfl⟩

lemma line_braces (h : canonicalBytes limits (.obj record) = .ok data) :
    ∃ inner, data = 123 :: (inner ++ [125]) := by
  obtain ⟨text, htext, h⟩ := bind_eq_ok.mp h
  obtain ⟨inner, rfl⟩ := text_braces (mapError_eq_ok.mp htext)
  obtain ⟨-, rfl⟩ := encodeUtf8_eq_some.mp (orRaise_eq_ok.mp h)
  refine ⟨inner.flatMap utf8Bytes, ?_⟩
  rw [List.flatMap_cons, List.flatMap_append]
  rfl

lemma isBlankLine_line (h : canonicalBytes limits (.obj record) = .ok data) (rest : Bytes) :
    isBlankLine (data ++ rest) = false := by
  obtain ⟨inner, rfl⟩ := line_braces h
  rfl

variable [LawfulFloatText φ]

/-- The bytes of a line are no control characters. -/
lemma le_toNat_of_mem_line (hplain : Json.Plain false (.obj record))
    (h : canonicalBytes limits (.obj record) = .ok data) {b : UInt8} (hb : b ∈ data) :
    32 ≤ b.toNat := by
  obtain ⟨text, htext, h⟩ := bind_eq_ok.mp h
  obtain ⟨-, rfl⟩ := encodeUtf8_eq_some.mp (orRaise_eq_ok.mp h)
  obtain ⟨c, hc, hbyte⟩ := List.mem_flatMap.mp hb
  obtain ⟨h32, hbound⟩ := Json.isShown_of_mem_write hplain (mapError_eq_ok.mp htext) c hc
  have := toNat_of_mem_utf8Bytes hbound hbyte
  omega

/-- **A line has no newline** in it. -/
lemma newlineByte_notMem (hplain : Json.Plain false (.obj record))
    (h : canonicalBytes limits (.obj record) = .ok data) : newlineByte ∉ data := by
  intro hmem
  have hten : newlineByte.toNat = 10 := rfl
  have := le_toNat_of_mem_line hplain h hmem
  omega

/-- The bytes of a line are those of its text. -/
lemma decodeStrict_line {value : Json φ} (hplain : Json.Plain false value)
    (h : canonicalBytes limits value = .ok data) :
    ∃ text, Json.dumps limits false value = .ok text ∧ decodeStrict data = some text := by
  obtain ⟨text, htext, h⟩ := bind_eq_ok.mp h
  have htext := mapError_eq_ok.mp htext
  have hvalid : text.Valid := fun c hc => (Json.isShown_of_mem_write hplain htext c hc).2
  exact ⟨text, htext, decodeStrict_encodeUtf8 hvalid (orRaise_eq_ok.mp h)⟩

omit [LawfulFloatText φ] in
/-- A line that is loaded is the text of an object. -/
lemma loadEventLine_eq_ok {rawLine : Bytes} {label : String} :
    loadEventLine limits rawLine label = .ok record ↔
      ∃ text, decodeStrict rawLine = some text ∧ Json.loadsText limits text = .ok (.obj record) := by
  constructor
  · intro h
    obtain ⟨text, hdecode, h⟩ := bind_eq_ok.mp h
    obtain ⟨value, hloads, h⟩ := bind_eq_ok.mp h
    refine ⟨text, orRaise_eq_ok.mp hdecode, ?_⟩
    rw [mapError_eq_ok.mp hloads]
    split at h
    · rw [pure_eq_ok.mp h]
    · cases h
  · rintro ⟨text, hdecode, hloads⟩
    rw [loadEventLine, hdecode]
    change ((Json.loadsText limits text).mapError AuditFault.json >>= _) = _
    rw [hloads]
    rfl

omit [FloatText φ] [LawfulFloatText φ] in
lemma decodeStrict_newline : decodeStrict [newlineByte] = some [10] := by decide

/-- **A line is loaded** with white space behind it, or none. -/
lemma loadEventLine_line (hplain : Json.Plain false (.obj record))
    (h : canonicalBytes limits (.obj record) = .ok data) {more : PyStr}
    (hrest : decodeStrict rest = some more) (hmore : Json.skipSpace more = []) (label : String) :
    loadEventLine limits (data ++ rest) label = .ok (stored record) := by
  obtain ⟨text, htext, hdecode⟩ := decodeStrict_line hplain h
  refine loadEventLine_eq_ok.mpr ⟨text ++ more, decodeStrict_append hdecode hrest, ?_⟩
  rw [Json.loadsText_append (Json.loadsText_dumps hplain htext), if_pos hmore]
  rfl

/-- With anything else behind it, it is not. -/
lemma loadEventLine_ne_ok (hplain : Json.Plain false (.obj record))
    (h : canonicalBytes limits (.obj record) = .ok data) {more : PyStr}
    (hrest : decodeStrict rest = some more) (hmore : Json.skipSpace more ≠ []) (label : String)
    (members : AuditRecord φ) : loadEventLine limits (data ++ rest) label ≠ .ok members := by
  intro hload
  obtain ⟨text, htext, hdecode⟩ := decodeStrict_line hplain h
  obtain ⟨whole, hwhole, hloads⟩ := loadEventLine_eq_ok.mp hload
  obtain rfl := Option.some.inj (hwhole.symm.trans (decodeStrict_append hdecode hrest))
  rw [Json.loadsText_append (Json.loadsText_dumps hplain htext), if_neg hmore] at hloads
  cases hloads

/-- **A line that was cut** is no object. -/
lemma loadEventLine_cut (hplain : Json.Plain false (.obj record))
    (h : canonicalBytes limits (.obj record) = .ok (data ++ rest)) (hrest : rest ≠ [])
    (label : String) (members : AuditRecord φ) : loadEventLine limits data label ≠ .ok members := by
  intro hload
  obtain ⟨text, htext, hdecode⟩ := decodeStrict_line hplain h
  obtain ⟨part, hpart, hloads⟩ := loadEventLine_eq_ok.mp hload
  obtain ⟨more, hmore, rfl⟩ := prefix_of_decodeStrict hdecode hpart
  -- what was cut off ends in the brace of the record, so it is no white space
  obtain ⟨inner, hbraces⟩ := text_braces htext
  have hbrace : 125 ∈ more := by
    have hlast : (part ++ more).getLast? = some 125 := by
      rw [hbraces, ← List.cons_append, List.getLast?_concat]
    rw [List.getLast?_append_of_ne_nil _ (ne_nil_of_decodeStrict hrest hmore)] at hlast
    exact List.mem_of_getLast? hlast
  have hspace : Json.skipSpace more ≠ [] := fun hnil => by
    have := List.dropWhile_eq_nil_iff.mp hnil 125 hbrace
    simp at this
  have hwhole := Json.loadsText_dumps hplain htext
  rw [Json.loadsText_append hloads, if_neg hspace] at hwhole
  cases hwhole

end Line

/-! ### Chains -/

section Chains

variable {φ : Type} [FloatText φ] [FloatValue φ] [Sha256] {limits : JsonLimits}
  {events : List (AuditRecord φ)} {event : AuditRecord φ} {content data rest : Bytes}
  {previous head : PyStr} {position : ℤ}

/-- The files that the stores write, with the objects of their events and the digest of the last
record. -/
inductive Chain (limits : JsonLimits) : List (AuditRecord φ) → Bytes → PyStr → Prop where
  | nil : Chain limits [] [] genesisRecordHash
  | snoc {events : List (AuditRecord φ)} {event : AuditRecord φ} {content data : Bytes}
      {previous : PyStr} (hchain : Chain limits events content previous) (hevent : IsEvent event)
      (s : Seal limits previous (events.length + 1) event)
      (hdata : canonicalBytes limits (.obj s.record) = .ok data) :
      Chain limits (events ++ [event]) (content ++ (data ++ [newlineByte])) s.recordSha256

namespace Chain

omit [FloatValue φ] in
lemma isDigest (h : Chain limits events content head) : IsDigest head := by
  cases h with
  | nil => exact isDigest_genesis
  | snoc _ _ s _ => exact isDigest_of_canonicalJsonSha256 s.record_eq

omit [FloatValue φ] in
lemma endsLine (h : Chain limits events content head) : EndsLine content := by
  cases h with
  | nil => simp [EndsLine]
  | snoc _ _ _ _ =>
      rw [← List.append_assoc]
      exact endsLine_append _

omit [FloatValue φ] in
/-- An empty file has no records. -/
lemma eq_nil (h : Chain limits events content head) (hnil : content = []) : events = [] := by
  cases h with
  | nil => rfl
  | snoc _ _ _ _ => simp at hnil

end Chain

/-- The lines behind a verified file are verified from its state on. -/
lemma verifyChainState_append {state : PyStr × ℤ} (hends : EndsLine content)
    (h : verifyChainState limits φ (some content) = .ok state) :
    verifyChainState limits φ (some (content ++ rest)) =
      ((byteLines rest).zipIdx (1 + (byteLines content).length)).foldlM (verifyLine limits φ)
        state := by
  rw [verifyChainState, Option.getD_some] at h ⊢
  rw [byteLines_append hends, List.zipIdx_append, List.foldlM_append, h]
  rfl

variable [LawfulFloatText φ]

/-- **A line that was written** is verified at its place, with its newline or without. -/
lemma verifyLine_line (hevent : IsEvent event) (hprevious : IsDigest previous)
    (s : Seal limits previous position event)
    (hdata : canonicalBytes limits (.obj s.record) = .ok data) {more : PyStr}
    (hrest : decodeStrict rest = some more) (hmore : Json.skipSpace more = []) (number : ℕ) :
    verifyLine limits φ (previous, position) (data ++ rest, number) =
      .ok (s.recordSha256, position + 1) := by
  have hnotBlank : ¬ isBlankLine (data ++ rest) := by
    rw [isBlankLine_line hdata]
    exact Bool.false_ne_true
  rw [verifyLine, raiseIf_of_not hnotBlank, ok_bind,
    loadEventLine_line (plain_record s hevent hprevious) hdata hrest hmore, ok_bind,
    verifyRecord_stored s hevent hprevious]
  rfl

/-- **A chain is verified**, with its last digest and the next position. -/
theorem Chain.verified (h : Chain limits events content head) :
    verifyChainState limits φ (some content) = .ok (head, events.length + 1) := by
  induction h with
  | nil => rfl
  | @snoc events event content data previous hchain hevent s hdata ih =>
      have hplain := plain_record s hevent hchain.isDigest
      have hline := byteLines_of_notMem (newlineByte_notMem hplain hdata) (by
        obtain ⟨inner, rfl⟩ := line_braces hdata
        exact List.cons_ne_nil _ _)
      have hverified := verifyLine_line hevent hchain.isDigest s hdata
        decodeStrict_newline rfl (1 + (byteLines content).length)
      rw [verifyChainState_append hchain.endsLine ih, hline.2, List.zipIdx_cons, List.foldlM_cons,
        hverified, List.length_append, List.length_singleton, Nat.cast_add, Nat.cast_one]
      rfl

end Chains

end Ai4Binance.Storage
