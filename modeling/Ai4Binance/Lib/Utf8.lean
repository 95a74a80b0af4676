/-
UTF-8, there and back.

* `decodeUtf8_utf8Bytes`: the bytes of a code point are read as it, before any others;
* `decodeUtf8_append`: **what was decoded is decoded alike** before more bytes;
* `decodeStrict`: `bytes.decode("utf-8")`, which has no surrogates;
* `decodeStrict_encodeUtf8`: **an encoded text is decoded**;
* `prefix_of_decodeStrict`: the first bytes are decoded to the beginning of the text;
* `toNat_of_mem_utf8Bytes`: a byte of a code point is its only one, or none of ASCII.
-/
import Ai4Binance.Lib.Encoding

namespace Encoding

open PyStr

variable {c bits : ℕ} {s t : PyStr} {b rest : Bytes}

/-! ### Code points -/

lemma toNat_toUInt8 {n : ℕ} (h : n < 256) : n.toUInt8.toNat = n := by
  rw [Nat.toUInt8_eq, UInt8.toNat_ofNat', Nat.mod_eq_of_lt h]

lemma toNat_continuation (bits : ℕ) : (continuation bits).toNat = 0x80 + bits % 0x40 :=
  toNat_toUInt8 (by omega)

/-- A byte that continues a code point is told from the others. -/
lemma continuation_range (bits : ℕ) : 0x80 ≤ continuation bits ∧ continuation bits < 0xc0 := by
  rw [UInt8.le_iff_toNat_le, UInt8.lt_iff_toNat_lt, toNat_continuation]
  refine ⟨Nat.le_add_right _ _, ?_⟩
  change 0x80 + bits % 0x40 < 0xc0
  omega

lemma utf8Char_eq_some {lead smallest : ℕ} {tail : Bytes}
    (htail : ∀ b ∈ tail, 0x80 ≤ b ∧ b < 0xc0)
    (hvalue : tail.foldl (fun c b => c * 0x40 + (b.toNat - 0x80)) lead = c) (hsmallest : smallest ≤ c)
    (hc : c < 0x110000) : utf8Char lead tail smallest = some c := by
  subst hvalue
  exact if_pos ⟨List.all_eq_true.mpr fun b hb => by simpa using htail b hb, hsmallest, hc⟩

/-- **The bytes of a code point** are read as it, before any others. -/
theorem decodeUtf8_utf8Bytes (hc : c < 0x110000) (rest : Bytes) :
    decodeUtf8 (utf8Bytes c ++ rest) = (decodeUtf8 rest).map (c :: ·) := by
  rw [utf8Bytes]
  split_ifs with h1 h2 h3
  · rw [List.singleton_append, decodeUtf8.eq_def]
    simp only [toNat_toUInt8 (n := c) (by omega), if_pos h1]
  · have hlead : (0xc0 + c / 0x40).toUInt8.toNat = 0xc0 + c / 0x40 := toNat_toUInt8 (by omega)
    have hchar : utf8Char (0xc0 + c / 0x40 - 0xc0) [continuation c] 0x80 = some c := by
      refine utf8Char_eq_some (by simp [continuation_range]) ?_ (by omega) hc
      simp only [List.foldl_cons, List.foldl_nil, toNat_continuation]
      omega
    rw [List.cons_append, List.singleton_append, decodeUtf8.eq_def]
    simp only [hlead]
    rw [if_neg (by omega), if_neg (by omega), if_pos (by omega), hchar, Option.bind_some]
  · have hlead : (0xe0 + c / 0x1000).toUInt8.toNat = 0xe0 + c / 0x1000 := toNat_toUInt8 (by omega)
    have hchar : utf8Char (0xe0 + c / 0x1000 - 0xe0) [continuation (c / 0x40), continuation c]
        0x800 = some c := by
      refine utf8Char_eq_some (by simp [continuation_range]) ?_ (by omega) hc
      simp only [List.foldl_cons, List.foldl_nil, toNat_continuation]
      omega
    rw [List.cons_append, List.cons_append, List.singleton_append, decodeUtf8.eq_def]
    simp only [hlead]
    rw [if_neg (by omega), if_neg (by omega), if_neg (by omega), if_pos (by omega), hchar,
      Option.bind_some]
  · have hlead : (0xf0 + c / 0x40000).toUInt8.toNat = 0xf0 + c / 0x40000 :=
      toNat_toUInt8 (by omega)
    have hchar : utf8Char (0xf0 + c / 0x40000 - 0xf0)
        [continuation (c / 0x1000), continuation (c / 0x40), continuation c] 0x10000 = some c := by
      refine utf8Char_eq_some (by simp [continuation_range]) ?_ (by omega) hc
      simp only [List.foldl_cons, List.foldl_nil, toNat_continuation]
      omega
    rw [List.cons_append, List.cons_append, List.cons_append, List.singleton_append,
      decodeUtf8.eq_def]
    simp only [hlead]
    rw [if_neg (by omega), if_neg (by omega), if_neg (by omega), if_neg (by omega),
      if_pos (by omega), hchar, Option.bind_some]

/-- A byte of a code point is its only one, or none of ASCII. -/
lemma toNat_of_mem_utf8Bytes (hc : c < 0x110000) {b : UInt8} (hb : b ∈ utf8Bytes c) :
    b.toNat = c ∨ 0x80 ≤ b.toNat := by
  have hcontinuation : ∀ bits, 0x80 ≤ (continuation bits).toNat := fun bits => by
    rw [toNat_continuation]
    omega
  rw [utf8Bytes] at hb
  split_ifs at hb with h1 h2 h3
  · rw [List.mem_singleton.mp hb]
    exact .inl (toNat_toUInt8 (by omega))
  · refine .inr ?_
    rcases List.mem_cons.mp hb with rfl | hb
    · rw [toNat_toUInt8 (by omega)]
      omega
    · rw [List.mem_singleton.mp hb]
      exact hcontinuation _
  · refine .inr ?_
    rcases List.mem_cons.mp hb with rfl | hb
    · rw [toNat_toUInt8 (by omega)]
      omega
    · rcases List.mem_pair.mp hb with rfl | rfl <;> exact hcontinuation _
  · refine .inr ?_
    rcases List.mem_cons.mp hb with rfl | hb
    · rw [toNat_toUInt8 (by omega)]
      omega
    · rcases List.mem_cons.mp hb with rfl | hb
      · exact hcontinuation _
      · rcases List.mem_pair.mp hb with rfl | rfl <;> exact hcontinuation _

/-! ### Texts -/

/-- An encoded text is decoded, before any bytes. -/
lemma decodeUtf8_flatMap (hs : s.Valid) (rest : Bytes) :
    decodeUtf8 (s.flatMap utf8Bytes ++ rest) = (decodeUtf8 rest).map (s ++ ·) := by
  induction s with
  | nil => simp
  | cons c s ih =>
      obtain ⟨hc, hs⟩ := List.forall_mem_cons.mp hs
      rw [List.flatMap_cons, List.append_assoc, decodeUtf8_utf8Bytes hc, ih hs, Option.map_map]
      rfl

/-- **What was decoded is decoded alike** before more bytes. -/
theorem decodeUtf8_append (h : decodeUtf8 b = some s) (rest : Bytes) :
    decodeUtf8 (b ++ rest) = (decodeUtf8 rest).map (s ++ ·) := by
  have hcons : ∀ {c : ℕ} {b : Bytes} {s : PyStr}, (∀ {s}, decodeUtf8 b = some s →
      decodeUtf8 (b ++ rest) = (decodeUtf8 rest).map (s ++ ·)) →
      (decodeUtf8 b).map (c :: ·) = some s →
      (decodeUtf8 (b ++ rest)).map (c :: ·) = (decodeUtf8 rest).map (s ++ ·) := by
    intro c b s ih hmap
    obtain ⟨s', hs', rfl⟩ := Option.map_eq_some_iff.mp hmap
    rw [ih hs', Option.map_map]
    rfl
  fun_induction decodeUtf8 b generalizing s with
  | case1 =>
    obtain rfl := Option.some.inj h
    simp
  | case2 a b lead h80 =>
    rename_i ih
    have h80 : a.toNat < 0x80 := h80
    rw [List.cons_append, decodeUtf8.eq_def]
    dsimp only
    rw [if_pos h80]
    exact hcons ih h
  | case5 a lead h80 b' b hc0 he0 =>
    rename_i ih
    have h80 : ¬ a.toNat < 0x80 := h80
    have hc0 : ¬ a.toNat < 0xc0 := hc0
    have he0 : a.toNat < 0xe0 := he0
    obtain ⟨c, hc, h⟩ := Option.bind_eq_some_iff.mp h
    rw [List.cons_append, List.cons_append, decodeUtf8.eq_def]
    dsimp only
    rw [if_neg h80, if_neg hc0, if_pos he0, hc, Option.bind_some]
    exact hcons ih h
  | case7 a lead h80 b' hc0 he0 c' b hf0 =>
    rename_i ih
    have h80 : ¬ a.toNat < 0x80 := h80
    have hc0 : ¬ a.toNat < 0xc0 := hc0
    have he0 : ¬ a.toNat < 0xe0 := he0
    have hf0 : a.toNat < 0xf0 := hf0
    obtain ⟨c, hc, h⟩ := Option.bind_eq_some_iff.mp h
    rw [List.cons_append, List.cons_append, List.cons_append, decodeUtf8.eq_def]
    dsimp only
    rw [if_neg h80, if_neg hc0, if_neg he0, if_pos hf0, hc, Option.bind_some]
    exact hcons ih h
  | case9 a lead h80 b' hc0 he0 c' hf0 d' b hf8 =>
    rename_i ih
    have h80 : ¬ a.toNat < 0x80 := h80
    have hc0 : ¬ a.toNat < 0xc0 := hc0
    have he0 : ¬ a.toNat < 0xe0 := he0
    have hf0 : ¬ a.toNat < 0xf0 := hf0
    have hf8 : a.toNat < 0xf8 := hf8
    obtain ⟨c, hc, h⟩ := Option.bind_eq_some_iff.mp h
    rw [List.cons_append, List.cons_append, List.cons_append, List.cons_append, decodeUtf8.eq_def]
    dsimp only
    rw [if_neg h80, if_neg hc0, if_neg he0, if_neg hf0, if_pos hf8, hc, Option.bind_some]
    exact hcons ih h
  | case3 => cases h
  | case4 => cases h
  | case6 => cases h
  | case8 => cases h
  | case10 => cases h

/-- `data.decode("utf-8")`; `none` is a `UnicodeDecodeError`. -/
def decodeStrict (b : Bytes) : Option PyStr :=
  (decodeUtf8 b).bind fun s => if NoSurrogate s then some s else none

lemma decodeStrict_eq_some : decodeStrict b = some s ↔ decodeUtf8 b = some s ∧ NoSurrogate s := by
  rw [decodeStrict, Option.bind_eq_some_iff]
  constructor
  · rintro ⟨s', hs', h⟩
    split_ifs at h with hsurrogate
    obtain rfl := Option.some.inj h
    exact ⟨hs', hsurrogate⟩
  · rintro ⟨hs, hsurrogate⟩
    exact ⟨s, hs, if_pos hsurrogate⟩

lemma encodeUtf8_eq_some : encodeUtf8 s = some b ↔ NoSurrogate s ∧ s.flatMap utf8Bytes = b := by
  rw [encodeUtf8]
  split_ifs with h <;> simp [h]

/-- **An encoded text is decoded.** -/
theorem decodeStrict_encodeUtf8 (hs : s.Valid) (h : encodeUtf8 s = some b) :
    decodeStrict b = some s := by
  obtain ⟨hsurrogate, rfl⟩ := encodeUtf8_eq_some.mp h
  have hdecode := decodeUtf8_flatMap hs []
  rw [List.append_nil] at hdecode
  rw [decodeStrict_eq_some, hdecode, decodeUtf8, Option.map_some, List.append_nil]
  exact ⟨rfl, hsurrogate⟩

lemma lt_of_utf8Char {lead smallest : ℕ} {tail : Bytes} (h : utf8Char lead tail smallest = some c) :
    c < 0x110000 := by
  rw [utf8Char] at h
  split_ifs at h with hc
  obtain rfl := Option.some.inj h
  exact hc.2.2

/-- **What is decoded is valid.** -/
lemma valid_of_decodeUtf8 (h : decodeUtf8 b = some s) : s.Valid := by
  have hcons : ∀ {c : ℕ} {b : Bytes} {s : PyStr}, c < 0x110000 →
      (∀ {s}, decodeUtf8 b = some s → s.Valid) → (decodeUtf8 b).map (c :: ·) = some s → s.Valid := by
    intro c b s hc ih hmap
    obtain ⟨s', hs', rfl⟩ := Option.map_eq_some_iff.mp hmap
    exact List.forall_mem_cons.mpr ⟨hc, ih hs'⟩
  have hbind : ∀ {lead smallest : ℕ} {tail b : Bytes} {s : PyStr},
      (∀ {s}, decodeUtf8 b = some s → s.Valid) →
      ((utf8Char lead tail smallest).bind fun c => (decodeUtf8 b).map (c :: ·)) = some s →
      s.Valid := by
    intro lead smallest tail b s ih hbind
    obtain ⟨c, hc, hmap⟩ := Option.bind_eq_some_iff.mp hbind
    exact hcons (lt_of_utf8Char hc) ih hmap
  fun_induction decodeUtf8 b generalizing s with
  | case1 =>
    obtain rfl := Option.some.inj h
    simp [PyStr.Valid]
  | case2 a b lead h80 =>
    rename_i ih
    have h80 : a.toNat < 0x80 := h80
    exact hcons (by omega) ih h
  | case5 =>
    rename_i ih
    exact hbind ih h
  | case7 =>
    rename_i ih
    exact hbind ih h
  | case9 =>
    rename_i ih
    exact hbind ih h
  | case3 => cases h
  | case4 => cases h
  | case6 => cases h
  | case8 => cases h
  | case10 => cases h

/-- Bytes have a text that is not empty. -/
lemma ne_nil_of_decodeStrict (hb : b ≠ []) (h : decodeStrict b = some s) : s ≠ [] := by
  obtain ⟨h, -⟩ := decodeStrict_eq_some.mp h
  have hmap : ∀ {c : ℕ} {o : Option PyStr}, o.map (c :: ·) = some s → s ≠ [] := by
    intro c o ho
    obtain ⟨s', -, rfl⟩ := Option.map_eq_some_iff.mp ho
    exact List.cons_ne_nil c s'
  have hbind : ∀ {o : Option ℕ} {o' : Option PyStr},
      (o.bind fun c => o'.map (c :: ·)) = some s → s ≠ [] := by
    intro o o' ho
    obtain ⟨c, -, ho⟩ := Option.bind_eq_some_iff.mp ho
    exact hmap ho
  fun_induction decodeUtf8 b with
  | case1 => exact absurd rfl hb
  | case2 => exact hmap h
  | case5 => exact hbind h
  | case7 => exact hbind h
  | case9 => exact hbind h
  | case3 => cases h
  | case4 => cases h
  | case6 => cases h
  | case8 => cases h
  | case10 => cases h

/-- Encoded texts stand behind one another. -/
lemma decodeStrict_append {b' : Bytes} (h : decodeStrict b = some s) (h' : decodeStrict b' = some t) :
    decodeStrict (b ++ b') = some (s ++ t) := by
  obtain ⟨hs, hsurrogate⟩ := decodeStrict_eq_some.mp h
  obtain ⟨ht, hsurrogate'⟩ := decodeStrict_eq_some.mp h'
  rw [decodeStrict_eq_some, decodeUtf8_append hs, ht]
  exact ⟨rfl, List.forall_mem_append.mpr ⟨hsurrogate, hsurrogate'⟩⟩

/-- **What is decoded of the first bytes** is the beginning of the whole text. -/
lemma prefix_of_decodeStrict {b' : Bytes} (h : decodeStrict (b ++ b') = some t)
    (hs : decodeStrict b = some s) : ∃ r, decodeStrict b' = some r ∧ t = s ++ r := by
  obtain ⟨ht, hsurrogate⟩ := decodeStrict_eq_some.mp h
  rw [decodeUtf8_append (decodeStrict_eq_some.mp hs).1] at ht
  obtain ⟨r, hr, rfl⟩ := Option.map_eq_some_iff.mp ht
  exact ⟨r, decodeStrict_eq_some.mpr ⟨hr, (List.forall_mem_append.mp hsurrogate).2⟩, rfl⟩

end Encoding
