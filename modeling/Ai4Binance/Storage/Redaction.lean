/-
The records of the audit journal (`core/serialization.py`, `storage/jsonl.py`).

An event is converted to values that JSON has (`to_primitive`), and the values under sensitive keys
are then replaced (`SecretRedactor.redact`).

* `PyValue`: values of any depth; `PyValue.descend`: what is at a path in one;
* `isSensitive`: the keys that may hold credentials;
* `PyValue.toPrimitive`, `PyValue.redact`: the two walks;
* `AuditEvent.record`: the record of an event;
* `redact_redact`: redacting twice is redacting once;
* `child_primitive`: what both walks make of a child;
* `redaction_complete`: **nothing under a sensitive key is in a record, and every other leaf is**.
-/
import Ai4Binance.Lib.Datetime
import Ai4Binance.Lib.Dict
import Ai4Binance.Lib.LowerCase
import Ai4Binance.Lib.Python

open Check Text

namespace Ai4Binance.Storage

/-! ### Values -/

/-- A value that is no container.  A float is given by its bits, a `Decimal` by `str(value)`, a
`datetime` by `value.isoformat()`, and a value that has no conversion by the name of its type.  A
member of an enumeration of texts or numbers is one itself. -/
inductive PyLeaf where
  | none
  | bool (b : Bool)
  | int (n : ℤ)
  | float (bits : UInt64)
  | str (s : String)
  | decimal (text : String)
  | datetime (text : String)
  | other (typeName : String)
  deriving DecidableEq

/-- A value.  The items of a mapping stand in their order with `str(key)`, which keys may share,
and those of a set in the order it is iterated. -/
inductive PyValue where
  | leaf (leaf : PyLeaf)
  | enum (value : PyValue)
  | dataclass (fields : List (String × PyValue))
  | mapping (items : List (String × PyValue))
  | set (items : List PyValue)
  | list (items : List PyValue)
  | tuple (items : List PyValue)

/-- `repr` of a value. -/
class ReprData where
  repr : PyValue → String

/-- A `repr` that tells no two values apart. -/
@[reducible] def ReprData.const : ReprData where
  repr _ := ""

/-- What `_render` raises: a `TypeError` of its own, and those of `json.dumps`. -/
inductive RenderError where
  | type (message : String)
  | notSerializable
  deriving DecidableEq

/-! ### Sensitive keys -/

/-- `_SENSITIVE_KEY_FRAGMENTS`. -/
def sensitiveKeyFragments : List String :=
  ["api_key", "apikey", "secret", "signature", "authorization", "password", "private_key", "token"]

/-- `_SAFE_TOKEN_METRIC_KEYS`. -/
def safeTokenMetricKeys : List String :=
  ["cached_input_tokens", "cached_prompt_tokens", "completion_tokens", "input_tokens",
    "output_tokens", "prompt_tokens", "reasoning_tokens", "token_accounting_source",
    "token_source_required", "total_tokens"]

section Definitions

variable [LowerData]

/-- `key.strip().lower().replace("-", "_")`. -/
def normalizedKey (key : String) : String :=
  String.ofList ((LowerData.lower (strip key)).toList.map fun c => if c = '-' then '_' else c)

/-- `_is_sensitive`. -/
def isSensitive (key : String) : Bool :=
  normalizedKey key ∉ safeTokenMetricKeys &&
    sensitiveKeyFragments.any fun fragment => containsText fragment (normalizedKey key)

/-! ### The two walks -/

/-- What a leaf is converted to. -/
def PyLeaf.primitive : PyLeaf → PyLeaf
  | .decimal text | .datetime text => .str text
  | leaf => leaf

/-- `to_primitive` of a leaf. -/
def PyLeaf.toPrimitive : PyLeaf → Except RenderError PyLeaf
  | .other typeName => .error (.type ("unsupported audit value type: " ++ typeName))
  | leaf => .ok leaf.primitive

/-- `json.dumps` has a text for a leaf. -/
def PyLeaf.isJson : PyLeaf → Bool
  | .none | .bool _ | .int _ | .float _ | .str _ => true
  | _ => false

/-- The values of items, or the first exception. -/
def inTurn {ε α : Type} (items : List (String × Except ε α)) : Except ε (List (String × α)) :=
  items.mapM fun item => item.2.map fun value => (item.1, value)

/-- `sorted(items, key=...)`, of items with their keys. -/
def sortedByKey {α : Type} (items : List (String × α)) : List (String × α) :=
  items.insertionSort fun item item' => item.1 ≤ item'.1

namespace PyValue

variable [ReprData]

/- Each member is converted where it stands, and what the conversions return is then put in the
order in which the source converts. -/
mutual

/-- `to_primitive`. -/
def toPrimitive : PyValue → Except RenderError PyValue
  | .leaf x => x.toPrimitive.map .leaf
  | .enum value => .ok value
  | .dataclass fields => (inTurn (itemPrimitives fields)).map fun d => .mapping (Dict.ofPairs d)
  | .mapping items =>
      (inTurn (sortedByKey (itemPrimitives items))).map fun d => .mapping (Dict.ofPairs d)
  | .set items =>
      (inTurn (sortedByKey ((items.map ReprData.repr).zip (listPrimitives items)))).map
        fun d => .list (d.map Prod.snd)
  | .list items => ((listPrimitives items).mapM id).map .list
  | .tuple items => ((listPrimitives items).mapM id).map .list

/-- `to_primitive` of the values of items. -/
def itemPrimitives : List (String × PyValue) → List (String × Except RenderError PyValue)
  | [] => []
  | (key, item) :: items => (key, toPrimitive item) :: itemPrimitives items

/-- `to_primitive` of the members of a list. -/
def listPrimitives : List PyValue → List (Except RenderError PyValue)
  | [] => []
  | item :: items => toPrimitive item :: listPrimitives items

end

/-- `REDACTED`. -/
def redacted : PyValue := .leaf (.str "[REDACTED]")

mutual

/-- `SecretRedactor.redact`. -/
def redact : PyValue → PyValue
  | .mapping items => .mapping (Dict.ofPairs (redactItems items))
  | .set items => .list (redactList items)
  | .list items => .list (redactList items)
  | .tuple items => .list (redactList items)
  | value => value

/-- The items of a mapping, redacted. -/
def redactItems : List (String × PyValue) → List (String × PyValue)
  | [] => []
  | (key, item) :: items =>
      (key, if isSensitive key then redacted else redact item) :: redactItems items

/-- The members of a list, redacted. -/
def redactList : List PyValue → List PyValue
  | [] => []
  | item :: items => redact item :: redactList items

end

mutual

/-- `json.dumps` has a text for a value. -/
def isJson : PyValue → Bool
  | .leaf x => x.isJson
  | .mapping items => itemsAreJson items
  | .list items => listIsJson items
  | .tuple items => listIsJson items
  | _ => false

/-- `json.dumps` has texts for the values of items. -/
def itemsAreJson : List (String × PyValue) → Bool
  | [] => true
  | (_, item) :: items => isJson item && itemsAreJson items

/-- `json.dumps` has texts for the members of a list. -/
def listIsJson : List PyValue → Bool
  | [] => true
  | item :: items => isJson item && listIsJson items

end

end PyValue

/-! ### Records -/

/-- `_EVENT_TYPE_PATTERN`. -/
def isEventType (eventType : String) : Bool :=
  match eventType.toList with
  | [] => false
  | c :: rest =>
      c.isUpper && 1 ≤ rest.length && rest.length ≤ 63 &&
        rest.all fun c => c.isUpper || c.isDigit || c = '_'

/-- `AuditEvent`.  The payload is given by its items. -/
structure AuditEvent where
  eventType : String
  timestamp : Timestamp
  payload : List (String × PyValue)
  snapshotId : Option String := none
  schemaVersion : String := "1.0"
  eventType_ok : isEventType eventType
  snapshotId_ok : snapshotId.all (!isBlank ·)

namespace AuditEvent

/-- The fields of an event, in the order of the class. -/
def fields (event : AuditEvent) : List (String × PyValue) :=
  [("event_type", .leaf (.str event.eventType)),
    ("timestamp", .leaf (.datetime event.timestamp.isoformat)),
    ("payload", .mapping event.payload),
    ("snapshot_id", .leaf (event.snapshotId.elim .none .str)),
    ("schema_version", .leaf (.str event.schemaVersion))]

/-- The record of an event without a seal: `redactor.redact(to_primitive(event))`, if `json.dumps`
has a text for it. -/
def record [ReprData] (event : AuditEvent) : Except RenderError PyValue := do
  let primitive ← (PyValue.dataclass event.fields).toPrimitive
  if primitive.redact.isJson then .ok primitive.redact else .error .notSerializable

end AuditEvent

end Definitions

/-! ### Paths -/

/-- A step into a value: a key of a mapping or a field, or a place in a sequence. -/
inductive PathStep where
  | key (name : String)
  | index (i : ℕ)
  deriving DecidableEq

namespace PyValue

section Paths

variable [ReprData]

/-- The child at a step.  Of several items whose keys have one text it is the last, and the members
of a set are taken in the order of their `repr`. -/
def child : PyValue → PathStep → Option PyValue
  | .dataclass fields, .key name => lastValue name fields
  | .mapping items, .key name => lastValue name items
  | .set items, .index i =>
      (items.insertionSort fun item item' => ReprData.repr item ≤ ReprData.repr item')[i]?
  | .list items, .index i => items[i]?
  | .tuple items, .index i => items[i]?
  | _, _ => none

/-- What is at a path. -/
def descend (value : PyValue) : List PathStep → Option PyValue
  | [] => some value
  | step :: path => (value.child step).bind fun item => item.descend path

lemma descend_append {value : PyValue} (path rest : List PathStep) :
    value.descend (path ++ rest) = (value.descend path).bind fun item => item.descend rest := by
  induction path generalizing value with
  | nil => rfl
  | cons step path ih =>
      rw [List.cons_append, descend, descend, Option.bind_assoc]
      exact congrArg _ (funext fun next => ih)

end Paths

/-- What a leaf, or a member of an enumeration, is in a record. -/
def recordLeaf : PyValue → Option PyLeaf
  | .leaf x => some x.primitive
  | .enum (.leaf x) => some x
  | _ => none

/-! ### Induction -/

/-- Values are built from values. -/
@[induction_eliminator]
theorem ind {motive : PyValue → Prop} (leaf : ∀ x, motive (.leaf x))
    (enum : ∀ value, motive value → motive (.enum value))
    (dataclass : ∀ fields, (∀ field ∈ fields, motive field.2) → motive (.dataclass fields))
    (mapping : ∀ items, (∀ item ∈ items, motive item.2) → motive (.mapping items))
    (set : ∀ items, (∀ item ∈ items, motive item) → motive (.set items))
    (list : ∀ items, (∀ item ∈ items, motive item) → motive (.list items))
    (tuple : ∀ items, (∀ item ∈ items, motive item) → motive (.tuple items)) :
    ∀ value, motive value :=
  @PyValue.rec motive (fun items => ∀ item ∈ items, motive item.2)
    (fun items => ∀ item ∈ items, motive item) (fun item => motive item.2) leaf enum dataclass mapping
    set list tuple (by simp) (fun _ _ hitem hitems => List.forall_mem_cons.mpr ⟨hitem, hitems⟩)
    (by simp) (fun _ _ hitem hitems => List.forall_mem_cons.mpr ⟨hitem, hitems⟩)
    fun _ _ hitem => hitem

lemma itemPrimitives_eq_map [ReprData] (items : List (String × PyValue)) :
    itemPrimitives items = items.map fun item => (item.1, item.2.toPrimitive) := by
  induction items with
  | nil => rfl
  | cons item items ih => rw [itemPrimitives, ih, List.map_cons]

lemma listPrimitives_eq_map [ReprData] (items : List PyValue) :
    listPrimitives items = items.map toPrimitive := by
  induction items with
  | nil => rfl
  | cons item items ih => rw [listPrimitives, ih, List.map_cons]

lemma itemsAreJson_iff {items : List (String × PyValue)} :
    itemsAreJson items ↔ ∀ item ∈ items, item.2.isJson := by
  induction items with
  | nil => simp [itemsAreJson]
  | cons item items ih => rw [itemsAreJson, Bool.and_eq_true, ih, List.forall_mem_cons]

lemma listIsJson_iff {items : List PyValue} : listIsJson items ↔ ∀ item ∈ items, item.isJson := by
  induction items with
  | nil => simp [listIsJson]
  | cons item items ih => rw [listIsJson, Bool.and_eq_true, ih, List.forall_mem_cons]

/-- Lists that correspond have members that do. -/
lemma rel_getElem? {α β : Type} {R : α → β → Prop} {l : List α} {l' : List β}
    (h : List.Forall₂ R l l') (i : ℕ) : Option.Rel R l[i]? l'[i]? := by
  induction h generalizing i with
  | nil => exact .none
  | cons hab _ ih =>
      cases i with
      | zero => exact .some hab
      | succ i => exact ih i

/-- `to_primitive` returns a value. -/
def Converts [ReprData] (value primitive : PyValue) : Prop := value.toPrimitive = .ok primitive

/-- Items that are converted in their order correspond to what they are converted to. -/
lemma forall₂_of_inTurn [ReprData] {items : List (String × PyValue)} {d : List (String × PyValue)}
    (h : inTurn (items.map fun item => (item.1, item.2.toPrimitive)) = .ok d) :
    List.Forall₂ (fun item e => e.1 = item.1 ∧ Converts item.2 e.2) items d := by
  rw [inTurn, mapM_eq_ok, List.forall₂_map_left_iff] at h
  refine h.imp fun item e he => ?_
  obtain ⟨value, hvalue, rfl⟩ := map_eq_ok.mp he
  exact ⟨rfl, hvalue⟩

lemma sortedByKey_map {α β : Type} (key : α → String) (f : α → β) (l : List α) :
    sortedByKey (l.map fun a => (key a, f a)) =
      (l.insertionSort fun a b => key a ≤ key b).map fun a => (key a, f a) := by
  refine (List.map_insertionSort _ _ _ l fun a _ b _ => ?_).symm
  exact Iff.rfl

section Walks

variable [LowerData]

/-- What redaction makes of the value under a key. -/
def mask (key : String) (value : PyValue) : PyValue :=
  if isSensitive key then redacted else value.redact

lemma redactItems_eq_map (items : List (String × PyValue)) :
    redactItems items = items.map fun item => (item.1, mask item.1 item.2) := by
  induction items with
  | nil => rfl
  | cons item items ih => rw [redactItems, ih, List.map_cons, mask]

lemma redactList_eq_map (items : List PyValue) : redactList items = items.map redact := by
  induction items with
  | nil => rfl
  | cons item items ih => rw [redactList, ih, List.map_cons]

/-! ### Redacting twice -/

lemma mask_mask {key : String} {value : PyValue} (h : value.redact.redact = value.redact) :
    mask key (mask key value) = mask key value := by
  by_cases hkey : isSensitive key
  · rw [mask, if_pos hkey, mask, if_pos hkey]
  · rw [mask, if_neg hkey, mask, if_neg hkey, h]

lemma redactItems_ofPairs (items : List (String × PyValue)) :
    redactItems (Dict.ofPairs items) = Dict.ofPairs (redactItems items) := by
  rw [redactItems_eq_map, redactItems_eq_map, Dict.ofPairs_map]

/-- **Redacting twice** is redacting once. -/
theorem redact_redact (value : PyValue) : value.redact.redact = value.redact := by
  have hlist : ∀ items : List PyValue, (∀ item ∈ items, item.redact.redact = item.redact) →
      redact (.list (redactList items)) = .list (redactList items) := by
    intro items ih
    rw [redact, redactList_eq_map, redactList_eq_map, List.map_map, PyValue.list.injEq]
    exact List.map_congr_left ih
  induction value with
  | leaf x => rfl
  | enum value _ => rfl
  | dataclass fields _ => rfl
  | mapping items ih =>
      have hitems : redactItems (redactItems items) = redactItems items := by
        rw [redactItems_eq_map, redactItems_eq_map, List.map_map]
        refine List.map_congr_left fun item hitem => ?_
        exact congrArg (item.1, ·) (mask_mask (ih item hitem))
      rw [redact, redact, redactItems_ofPairs, hitems, Dict.ofPairs_ofPairs]
  | set items ih => exact hlist items ih
  | list items ih => exact hlist items ih
  | tuple items ih => exact hlist items ih

/-- What JSON has is still so when it is redacted. -/
lemma isJson_redact {value : PyValue} (h : value.isJson) : value.redact.isJson := by
  have hlist : ∀ items : List PyValue, (∀ item ∈ items, item.isJson → item.redact.isJson) →
      listIsJson items → listIsJson (redactList items) := by
    intro items ih hitems
    rw [redactList_eq_map, listIsJson_iff, List.forall_mem_map]
    exact fun item hitem => ih item hitem (listIsJson_iff.mp hitems item hitem)
  induction value with
  | leaf x => exact h
  | enum value _ => cases h
  | dataclass fields _ => cases h
  | mapping items ih =>
      rw [redact, isJson, redactItems_eq_map, itemsAreJson_iff]
      intro entry hentry
      obtain ⟨item, hitem, rfl⟩ := List.mem_map.mp (Dict.mem_of_mem_ofPairs hentry)
      change (mask item.1 item.2).isJson
      rw [mask]
      split_ifs
      · rfl
      · exact ih item hitem (itemsAreJson_iff.mp h item hitem)
  | set items ih => cases h
  | list items ih => exact hlist items ih h
  | tuple items ih => exact hlist items ih h

/-! ### Redacted values hold nothing sensitive -/

/-- What redaction makes of the child at a step. -/
def maskAt : PathStep → PyValue → PyValue
  | .key key, item => mask key item
  | .index _, item => item.redact

lemma redact_maskAt (step : PathStep) (item : PyValue) :
    (maskAt step item).redact = maskAt step item := by
  cases step with
  | index i => exact redact_redact item
  | key key =>
      rw [maskAt, mask]
      split_ifs
      · rfl
      · exact redact_redact item

variable [ReprData]

/-- The value under a key of a redacted mapping. -/
lemma child_redact_mapping (items : List (String × PyValue)) (key : String) :
    (mapping items).redact.child (.key key) = (lastValue key items).map (mask key) := by
  rw [redact, child, Dict.lastValue_ofPairs, redactItems_eq_map, lastValue_map]

/-- A child of a redacted value that has a JSON text comes of the redaction of a value. -/
lemma exists_mask_of_child {value item : PyValue} {step : PathStep} (hjson : value.redact.isJson)
    (h : value.redact.child step = some item) :
    item.isJson ∧ ∃ source, item = maskAt step source := by
  have hlist : ∀ items : List PyValue, listIsJson (redactList items) →
      (list (redactList items)).child step = some item →
      item.isJson ∧ ∃ source, item = maskAt step source := by
    intro items hitems hchild
    cases step with
    | key key => cases hchild
    | index i =>
        have hmem := List.mem_of_getElem? hchild
        refine ⟨listIsJson_iff.mp hitems _ hmem, ?_⟩
        rw [redactList_eq_map] at hmem
        obtain ⟨source, -, rfl⟩ := List.mem_map.mp hmem
        exact ⟨source, rfl⟩
  cases value with
  | leaf x => cases step <;> cases h
  | enum value => cases hjson
  | dataclass fields => cases hjson
  | mapping items =>
      cases step with
      | index i => cases h
      | key key =>
          refine ⟨itemsAreJson_iff.mp hjson _ (mem_of_lastValue h), ?_⟩
          rw [child_redact_mapping] at h
          obtain ⟨source, -, rfl⟩ := Option.map_eq_some_iff.mp h
          exact ⟨source, rfl⟩
  | set items => exact hlist items hjson h
  | list items => exact hlist items hjson h
  | tuple items => exact hlist items hjson h

/-- Whatever is in a redacted value is redacted. -/
lemma redact_of_descend {value item : PyValue} {path : List PathStep} (hjson : value.isJson)
    (hvalue : value.redact = value) (h : value.descend path = some item) :
    item.isJson ∧ item.redact = item := by
  induction path generalizing value with
  | nil =>
      obtain rfl := Option.some.inj h
      exact ⟨hjson, hvalue⟩
  | cons step path ih =>
      obtain ⟨next, hnext, h⟩ := Option.bind_eq_some_iff.mp h
      rw [← hvalue] at hjson hnext
      obtain ⟨hnextJson, source, rfl⟩ := exists_mask_of_child hjson hnext
      exact ih hnextJson (redact_maskAt step source) h

/-- **No value under a sensitive key** is in a redacted value. -/
theorem eq_redacted_of_sensitive {value item : PyValue} {path : List PathStep} {key : String}
    (hjson : value.isJson) (hvalue : value.redact = value) (hkey : isSensitive key)
    (h : value.descend (path ++ [.key key]) = some item) : item = redacted := by
  rw [descend_append] at h
  obtain ⟨parent, hparent, h⟩ := Option.bind_eq_some_iff.mp h
  obtain ⟨hparentJson, hparentRedact⟩ := redact_of_descend hjson hvalue hparent
  obtain ⟨child, hchild, h⟩ := Option.bind_eq_some_iff.mp h
  obtain rfl := Option.some.inj h
  rw [← hparentRedact] at hparentJson hchild
  obtain ⟨-, source, rfl⟩ := exists_mask_of_child hparentJson hchild
  rw [maskAt, mask, if_pos hkey]

/-! ### What the walks keep -/

variable {value converted item : PyValue} {step : PathStep} {path : List PathStep}

/-- What the two walks make of the items of a mapping, or of fields. -/
lemma child_of_forall₂ {items d : List (String × PyValue)} {key : String}
    (hd : Option.Rel Converts (lastValue key items) (lastValue key d))
    (h : lastValue key items = some item) :
    ∃ primitive, Converts item primitive ∧
      (mapping (Dict.ofPairs d)).redact.child (.key key) = some (mask key primitive) := by
  rw [h] at hd
  generalize hlast : lastValue key d = last at hd
  cases hd with
  | some hprimitive =>
      refine ⟨_, hprimitive, ?_⟩
      rw [child_redact_mapping, Dict.lastValue_ofPairs, hlast, Option.map_some]

/-- What the two walks make of the members of a sequence. -/
lemma child_of_list {items primitives : List PyValue} {i : ℕ}
    (hprimitives : List.Forall₂ Converts items primitives)
    (h : items[i]? = some item) :
    ∃ primitive, Converts item primitive ∧
      (list primitives).redact.child (.index i) = some primitive.redact := by
  have hrel := rel_getElem? hprimitives i
  rw [h] at hrel
  generalize hget : primitives[i]? = found at hrel
  cases hrel with
  | some hprimitive =>
      refine ⟨_, hprimitive, ?_⟩
      rw [redact, child, redactList_eq_map, List.getElem?_map, hget, Option.map_some]

/-- **Both walks at a step**: the child of what a value becomes is what its child becomes. -/
theorem child_primitive (hvalue : Converts value converted)
    (h : value.child step = some item) :
    ∃ primitive, Converts item primitive ∧
      converted.redact.child step = some (maskAt step primitive) := by
  have hsequence : ∀ items : List PyValue,
      ((listPrimitives items).mapM id).map list = .ok converted → ∀ i, items[i]? = some item →
      ∃ primitive, Converts item primitive ∧
        converted.redact.child (.index i) = some primitive.redact := by
    intro items hitems i hi
    obtain ⟨primitives, hprimitives, rfl⟩ := map_eq_ok.mp hitems
    rw [mapM_eq_ok, listPrimitives_eq_map, List.forall₂_map_left_iff] at hprimitives
    exact child_of_list hprimitives hi
  cases value with
  | leaf x => cases step <;> cases h
  | enum value => cases step <;> cases h
  | dataclass fields =>
      cases step with
      | index i => cases h
      | key key =>
          obtain ⟨d, hd, rfl⟩ := map_eq_ok.mp hvalue
          rw [itemPrimitives_eq_map] at hd
          exact child_of_forall₂ (rel_lastValue (forall₂_of_inTurn hd)) h
  | mapping items =>
      cases step with
      | index i => cases h
      | key key =>
          obtain ⟨d, hd, rfl⟩ := map_eq_ok.mp hvalue
          rw [itemPrimitives_eq_map, sortedByKey_map (fun item : String × PyValue => item.1)
            fun item => item.2.toPrimitive] at hd
          have hrel := rel_lastValue (k := key) (forall₂_of_inTurn hd)
          rw [lastValue_insertionSort] at hrel
          exact child_of_forall₂ hrel h
  | set items =>
      cases step with
      | key key => cases h
      | index i =>
          obtain ⟨d, hd, rfl⟩ := map_eq_ok.mp hvalue
          rw [listPrimitives_eq_map, List.zip_map', sortedByKey_map, inTurn, mapM_eq_ok,
            List.forall₂_map_left_iff] at hd
          refine child_of_list (List.forall₂_map_right_iff.mpr (hd.imp fun member e he => ?_)) h
          obtain ⟨primitive, hprimitive, rfl⟩ := map_eq_ok.mp he
          exact hprimitive
  | list items =>
      cases step with
      | key key => cases h
      | index i => exact hsequence items hvalue i h
  | tuple items =>
      cases step with
      | key key => cases h
      | index i => exact hsequence items hvalue i h

omit [LowerData] in
/-- A leaf is converted to the leaf that records have for it. -/
lemma eq_leaf_of_recordLeaf {x : PyLeaf} (hitem : Converts item value)
    (hx : item.recordLeaf = some x) : value = .leaf x := by
  cases item with
  | leaf y =>
      obtain rfl := Option.some.inj hx
      obtain ⟨z, hz, rfl⟩ := map_eq_ok.mp hitem
      cases y <;> cases hz <;> rfl
  | enum member =>
      obtain rfl := Except.ok.inj hitem
      cases member with
      | leaf y => rw [Option.some.inj hx]
      | _ => cases hx
  | _ => cases hx

/-- A step to a value that redaction replaces. -/
def masks : PathStep → Bool
  | .key key => isSensitive key
  | .index _ => false

/-- No key of a path is sensitive. -/
def Unmasked (path : List PathStep) : Prop := ∀ step ∈ path, masks step = false

instance (path : List PathStep) : Decidable (Unmasked path) :=
  inferInstanceAs (Decidable (∀ step ∈ path, _))

/-- **Both walks along a path**, when no key of it is sensitive. -/
theorem descend_primitive (hpath : Unmasked path) (hvalue : Converts value converted)
    (h : value.descend path = some item) :
    ∃ primitive, Converts item primitive ∧
      converted.redact.descend path = some primitive.redact := by
  induction path generalizing value converted with
  | nil =>
      obtain rfl := Option.some.inj h
      exact ⟨converted, hvalue, rfl⟩
  | cons step path ih =>
      obtain ⟨next, hnext, h⟩ := Option.bind_eq_some_iff.mp h
      obtain ⟨nextPrimitive, hnextPrimitive, hchild⟩ := child_primitive hvalue hnext
      have hmask : maskAt step nextPrimitive = nextPrimitive.redact := by
        have hstep := hpath step List.mem_cons_self
        cases step with
        | index i => rfl
        | key key => exact if_neg (Bool.eq_false_iff.mp hstep)
      obtain ⟨primitive, hprimitive, hdescend⟩ :=
        ih (fun later hlater => hpath later (List.mem_cons_of_mem _ hlater)) hnextPrimitive h
      refine ⟨primitive, hprimitive, ?_⟩
      rw [descend, hchild, hmask, Option.bind_some, hdescend]

end Walks

end PyValue

/-! ### Records of events -/

namespace AuditEvent

open PyValue

section Records

variable [LowerData] [ReprData] {event : AuditEvent} {recorded : PyValue}

/-- A record is a redacted value that JSON has. -/
lemma exists_primitive (h : event.record = .ok recorded) :
    ∃ primitive, Converts (.dataclass event.fields) primitive ∧ primitive.redact = recorded ∧
      recorded.isJson := by
  obtain ⟨primitive, hprimitive, h⟩ := bind_eq_ok.mp h
  split_ifs at h with hjson
  obtain rfl := Except.ok.inj h
  exact ⟨primitive, hprimitive, rfl, hjson⟩

/-- An event is recorded if its conversion is. -/
lemma exists_record (h : (PyValue.dataclass event.fields).toPrimitive.toOption.any isJson) :
    ∃ recorded, event.record = .ok recorded := by
  obtain ⟨primitive, hprimitive, hjson⟩ := exists_ok_of_any h
  refine ⟨primitive.redact, ?_⟩
  rw [record, hprimitive]
  exact if_pos (isJson_redact hjson)

/-- **Redaction is complete.**  In the record of an event every value under a sensitive key is
replaced, at any depth; every leaf that is under no sensitive key is at its place, as its text where
JSON has no such leaf; and a value under a sensitive key is there, replaced.  Redacting twice is
redacting once. -/
theorem redaction_complete (h : event.record = .ok recorded) :
    (∀ path key value, isSensitive key → recorded.descend (path ++ [.key key]) = some value →
      value = redacted) ∧
    (∀ path value x, Unmasked path →
      (PyValue.dataclass event.fields).descend path = some value → value.recordLeaf = some x →
      recorded.descend path = some (.leaf x)) ∧
    (∀ path key value, Unmasked path → isSensitive key →
      (PyValue.dataclass event.fields).descend (path ++ [.key key]) = some value →
      recorded.descend (path ++ [.key key]) = some redacted) ∧
    ∀ value : PyValue, value.redact.redact = value.redact := by
  obtain ⟨primitive, hprimitive, rfl, hjson⟩ := exists_primitive h
  refine ⟨fun path key value hkey hvalue => ?_, fun path value x hpath hvalue hx => ?_,
    fun path key value hpath hkey hvalue => ?_, redact_redact⟩
  · exact eq_redacted_of_sensitive hjson (redact_redact primitive) hkey hvalue
  · obtain ⟨item, hitem, hredact⟩ := descend_primitive hpath hprimitive hvalue
    obtain rfl := eq_leaf_of_recordLeaf hitem hx
    rw [hredact]
    rfl
  · rw [descend_append] at hvalue
    obtain ⟨parent, hparent, hvalue⟩ := Option.bind_eq_some_iff.mp hvalue
    obtain ⟨child, hchild, -⟩ := Option.bind_eq_some_iff.mp hvalue
    obtain ⟨item, hitem, hredact⟩ := descend_primitive hpath hprimitive hparent
    obtain ⟨masked, -, hmasked⟩ := child_primitive hitem hchild
    rw [descend_append, hredact, Option.bind_some, descend, hmasked, Option.bind_some, descend,
      maskAt, mask, if_pos hkey]

end Records

/-- An event with a credential among the headers of a request. -/
def sentRequest : AuditEvent where
  eventType := "REQUEST_SENT"
  timestamp := ⟨0, 0⟩
  payload := [("headers", .tuple [.mapping [("X-Api-Key", .leaf (.str "k")),
    ("weight", .leaf (.decimal "1.50"))]])]
  eventType_ok := by decide
  snapshotId_ok := by decide

/-- **The credential is replaced**, and the number beside it is there as its text. -/
theorem sentRequest_redacted :
    letI := ReprData.const
    ∃ recorded, sentRequest.record = .ok recorded ∧
      recorded.descend [.key "payload", .key "headers", .index 0, .key "X-Api-Key"] =
        some redacted ∧
      recorded.descend [.key "payload", .key "headers", .index 0, .key "weight"] =
        some (.leaf (.str "1.50")) := by
  let := ReprData.const
  obtain ⟨recorded, hrecord⟩ : ∃ recorded, sentRequest.record = .ok recorded :=
    exists_record (by decide)
  obtain ⟨-, hleaf, hmasked, -⟩ := redaction_complete hrecord
  refine ⟨recorded, hrecord, ?_, ?_⟩
  · exact hmasked [.key "payload", .key "headers", .index 0] "X-Api-Key" _ (by decide)
      (by decide) rfl
  · exact hleaf _ _ (.str "1.50") (by decide) rfl rfl

end AuditEvent

end Ai4Binance.Storage
