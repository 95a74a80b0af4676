/-
The encodings of texts (`str.encode`, `bytes.decode`), and the one of a JSON document.

A text with a surrogate has no UTF-8; a document is read with `surrogatepass`, so its surrogates
stay.

* `encodeUtf8`, `encodeUtf8_isSome`: writing;
* `decodeUtf8`, `decodeUtf16`, `decodeUtf32`: reading;
* `encodeReplace`, `decodeReplace`: with replacements, of a text and of its first bytes;
* `Codec`, `detectEncoding`, `decodeDocument`: the encoding of a document, by its first bytes.
-/
import Ai4Binance.Lib.JsonText

/-- A `bytes`. -/
abbrev Bytes : Type := List UInt8

namespace Encoding

open PyStr

/-- The text has no surrogate. -/
def NoSurrogate (s : PyStr) : Prop := ∀ c ∈ s, ¬ IsHigh c ∧ ¬ IsLow c

instance (s : PyStr) : Decidable (NoSurrogate s) :=
  inferInstanceAs (Decidable (∀ c ∈ s, ¬ IsHigh c ∧ ¬ IsLow c))

/-- A byte that continues a code point, with its six bits. -/
def continuation (bits : ℕ) : UInt8 := (0x80 + bits % 0x40).toUInt8

/-- The bytes of a code point in UTF-8. -/
def utf8Bytes (c : ℕ) : Bytes :=
  if c < 0x80 then [c.toUInt8]
  else if c < 0x800 then [(0xc0 + c / 0x40).toUInt8, continuation c]
  else if c < 0x10000 then
    [(0xe0 + c / 0x1000).toUInt8, continuation (c / 0x40), continuation c]
  else [(0xf0 + c / 0x40000).toUInt8, continuation (c / 0x1000), continuation (c / 0x40),
    continuation c]

/-- `text.encode("utf-8")`; `none` is a `UnicodeEncodeError`. -/
def encodeUtf8 (s : PyStr) : Option Bytes :=
  if NoSurrogate s then some (s.flatMap utf8Bytes) else none

lemma encodeUtf8_isSome {s : PyStr} : (encodeUtf8 s).isSome ↔ NoSurrogate s := by
  rw [encodeUtf8]
  split_ifs with h <;> simp [h]

/-- The code point of the bits of its first byte and its other bytes, of which the smallest is
given: no code point has two sequences. -/
def utf8Char (lead : ℕ) (tail : Bytes) (smallest : ℕ) : Option ℕ :=
  let c := tail.foldl (fun c b => c * 0x40 + (b.toNat - 0x80)) lead
  if (tail.all fun b => 0x80 ≤ b && b < 0xc0) ∧ smallest ≤ c ∧ c < 0x110000 then some c else none

/-- `data.decode("utf-8", "surrogatepass")`. -/
def decodeUtf8 : Bytes → Option PyStr
  | [] => some []
  | a :: rest =>
      let lead := a.toNat
      if lead < 0x80 then (decodeUtf8 rest).map (lead :: ·)
      else
        match rest with
        | [] => none
        | b :: rest =>
            if lead < 0xc0 then none
            else if lead < 0xe0 then
              (utf8Char (lead - 0xc0) [b] 0x80).bind fun c => (decodeUtf8 rest).map (c :: ·)
            else
              match rest with
              | [] => none
              | c :: rest =>
                  if lead < 0xf0 then
                    (utf8Char (lead - 0xe0) [b, c] 0x800).bind fun c =>
                      (decodeUtf8 rest).map (c :: ·)
                  else
                    match rest with
                    | [] => none
                    | d :: rest =>
                        if lead < 0xf8 then
                          (utf8Char (lead - 0xf0) [b, c, d] 0x10000).bind fun c =>
                            (decodeUtf8 rest).map (c :: ·)
                        else none

/-- `text.encode("utf-8", errors="replace")`: a surrogate becomes a question mark. -/
def encodeReplace (s : PyStr) : Bytes :=
  s.flatMap fun c => utf8Bytes (if IsHigh c ∨ IsLow c then 63 else c)

/-- `data.decode("utf-8", errors="replace")` of the first bytes of an encoded text: what is left of
a code point that was cut becomes a replacement character. -/
def decodeReplace (b : Bytes) : PyStr :=
  ([0, 1, 2, 3].findSome? fun n => (decodeUtf8 (b.take (b.length - n))).map
    (· ++ if n = 0 then [] else [0xfffd])).getD []

/-- The number of some bytes, of which the first is the most significant. -/
def bigEndian (b : Bytes) : ℕ := b.foldl (fun n b => n * 0x100 + b.toNat) 0

/-- The bytes of a number, the most significant first. -/
def inOrder (little : Bool) (b : Bytes) : Bytes := if little then b.reverse else b

/-- The units of two bytes. -/
def units16 (little : Bool) : Bytes → Option (List ℕ)
  | [] => some []
  | [_] => none
  | a :: b :: rest => (units16 little rest).map (bigEndian (inOrder little [a, b]) :: ·)

/-- `data.decode("utf-16-le", "surrogatepass")`, or of the other order: two surrogates are one code
point. -/
def decodeUtf16 (little : Bool) (b : Bytes) : Option PyStr :=
  (units16 little b).map fun units => JsonText.joinPairs (units.map (·, true))

/-- `data.decode("utf-32-le", "surrogatepass")`, or of the other order. -/
def decodeUtf32 (little : Bool) : Bytes → Option PyStr
  | [] => some []
  | a :: b :: c :: d :: rest =>
      let point := bigEndian (inOrder little [a, b, c, d])
      if point < 0x110000 then (decodeUtf32 little rest).map (point :: ·) else none
  | _ => none

/-- The encodings that a document may have, `utf-16` and `utf-32` with their byte order mark. -/
inductive Codec where
  | utf8
  | utf8Sig
  | utf16 (little : Bool)
  | utf16Marked (little : Bool)
  | utf32 (little : Bool)
  | utf32Marked (little : Bool)
  deriving DecidableEq

/-- `json.detect_encoding`. -/
def detectEncoding (b : Bytes) : Codec :=
  if [0x00, 0x00, 0xfe, 0xff].isPrefixOf b then .utf32Marked false
  else if [0xff, 0xfe, 0x00, 0x00].isPrefixOf b then .utf32Marked true
  else if [0xfe, 0xff].isPrefixOf b then .utf16Marked false
  else if [0xff, 0xfe].isPrefixOf b then .utf16Marked true
  else if [0xef, 0xbb, 0xbf].isPrefixOf b then .utf8Sig
  else
    match b with
    | [b₀, b₁] =>
        if b₀ = 0 then .utf16 false else if b₁ = 0 then .utf16 true else .utf8
    | b₀ :: b₁ :: b₂ :: b₃ :: _ =>
        if b₀ = 0 then (if b₁ = 0 then .utf32 false else .utf16 false)
        else if b₁ = 0 then (if b₂ = 0 ∧ b₃ = 0 then .utf32 true else .utf16 true)
        else .utf8
    | _ => .utf8

/-- `data.decode(detect_encoding(data), "surrogatepass")`; `none` is a `UnicodeDecodeError`. -/
def decodeDocument (b : Bytes) : Option PyStr :=
  match detectEncoding b with
  | .utf8 => decodeUtf8 b
  | .utf8Sig => decodeUtf8 (b.drop 3)
  | .utf16 little => decodeUtf16 little b
  | .utf16Marked little => decodeUtf16 little (b.drop 2)
  | .utf32 little => decodeUtf32 little b
  | .utf32Marked little => decodeUtf32 little (b.drop 4)

/-- A text of three bytes a character is read back. -/
example : (encodeUtf8 (PyStr.of "[\"€\"]")).bind decodeDocument = some (PyStr.of "[\"€\"]") := by
  decide +kernel

end Encoding
