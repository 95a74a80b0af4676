/-
The reader of the last records of a JSONL file (`core/__init__.py`).

The file is read backward in chunks until the chunks hold enough lines.  Unless a chunk begins at
the end of a record, its first line is left out: it may be the end of a longer one.

* `splitlines`, `readBoundedJsonlTail`: the reader, with a bound on the turns of its loops;
* `recordLines`: the lines of a text that are not blank;
* `recordLines_append`, `recordLines_append_tail`: the records of a text and those of its end;
* `bounded_tail_correct`: **the reader returns the last records**, or raises where the end of the file
  holds too few of them.
-/
import Ai4Binance.Storage.TailReader

namespace Ai4Binance.Storage

/-! ### Lines -/

/-- What ends a line: `b"\n"` or `b"\r"`. -/
def isLineEnd (b : UInt8) : Bool := b = 13 || b = newlineByte

/-- `data.splitlines()`: `b"\r\n"` ends one line. -/
def splitlines : Bytes → List Bytes
  | [] => []
  | b :: rest =>
      if b = 13 ∧ rest.head? = some newlineByte then splitlines rest
      else if isLineEnd b then [] :: splitlines rest
      else match splitlines rest with
        | [] => [[b]]
        | line :: lines => (b :: line) :: lines

/-- `not line.strip()`. -/
def isBlankLine (line : Bytes) : Bool := line.all fun b => 9 ≤ b && b ≤ 13 || b = 32

/-- Lines that are not blank. -/
def nonblankLines (lines : List Bytes) : List Bytes := lines.filter fun line => !isBlankLine line

/-- The lines of a text that are not blank. -/
def recordLines (text : Bytes) : List Bytes := nonblankLines (splitlines text)

/-- `lines[-n:]`. -/
def lastLines (n : ℤ) (lines : List Bytes) : List Bytes := lines.drop (lines.length - n.toNat)

/-! ### The reader -/

/-- `_DEFAULT_MAX_TAIL_BYTES`. -/
def defaultMaxTailBytes : ℤ := 16 * 1024 * 1024

/-- What the reader raises: a `ValueError` or an `OSError` with its text. -/
inductive TailError where
  | value (message : String)
  | os (message : String)
  deriving DecidableEq, Repr

/-- The variables of the loop of `read_bounded_jsonl_tail`. -/
structure BoundedTail where
  cursor : ℕ
  buffer : Bytes := []

section Reader

variable (content : Bytes) (chunk : ℕ+) (maxLines maxBytes : ℤ)

/-- `starts_at_record_boundary`. -/
def startsAtRecordBoundary (start : ℕ) : Bool :=
  start = 0 || (readAt content (start - 1) 1).all isLineEnd || (readAt content start 1).all isLineEnd

/-- `lines`: those of the buffer, without the first one if that may be the end of a longer one. -/
def wholeLines (start : ℕ) (buffer : Bytes) : List Bytes :=
  let lines := recordLines buffer
  if lines ≠ [] ∧ !startsAtRecordBoundary content start then lines.tail else lines

/-- A turn of the loop of `read_bounded_jsonl_tail`. -/
def boundedTurn (s : BoundedTail) : BoundedTail ⊕ Except TailError (List Bytes) :=
  if 0 < s.cursor then
    let start := s.cursor - chunk
    let buffer := readAt content start (s.cursor - start) ++ s.buffer
    if maxBytes < buffer.length then .inr (.error (.os "JSONL tail exceeds bounded read limit"))
    else
      let lines := wholeLines content start buffer
      if maxLines ≤ lines.length ∨ start = 0 then .inr (.ok (lastLines maxLines lines))
      else .inl ⟨start, buffer⟩
  else .inr (.ok [])

/-- `read_bounded_jsonl_tail`, with at most `fuel` turns of each loop. -/
def readBoundedJsonlTail (fuel : ℕ) : Option (Except TailError (List Bytes)) :=
  if maxLines < 1 ∨ maxBytes < 1 then some (.error (.value "JSONL tail limits must be positive"))
  else do
    let endAt ← trimTrailingWhitespace content chunk fuel content.length
    While.turns (boundedTurn content chunk maxLines maxBytes) fuel { cursor := endAt }

end Reader

/-! ### The records of a text -/

section Records

variable {b : UInt8} {a text rest : Bytes}

lemma nonblankLines_append (lines lines' : List Bytes) :
    nonblankLines (lines ++ lines') = nonblankLines lines ++ nonblankLines lines' :=
  List.filter_append ..

lemma nonblankLines_cons (line : Bytes) (lines : List Bytes) :
    nonblankLines (line :: lines) = nonblankLines [line] ++ nonblankLines lines :=
  nonblankLines_append [line] lines

@[simp] lemma recordLines_nil : recordLines [] = [] := rfl

/-- `b"\r\n"` has an empty line between its bytes, else the lines are those between their ends. -/
lemma splitlines_splitOnP (text : Bytes) (hne : text ≠ []) : ∃ line lines lines',
    splitlines text = line :: lines ∧ text.splitOnP isLineEnd = line :: lines' ∧
      nonblankLines lines = nonblankLines lines' := by
  induction text with
  | nil => exact absurd rfl hne
  | cons b rest ih =>
      rw [splitlines, List.splitOnP_cons_eq_if_modifyHead]
      by_cases hrest : rest = []
      · subst hrest
        have hcr : ¬ (b = 13 ∧ ([] : Bytes).head? = some newlineByte) := fun h => by cases h.2
        rw [if_neg hcr]
        split_ifs with hend
        · exact ⟨[], [], [[]], rfl, by rw [List.splitOnP_nil], rfl⟩
        · exact ⟨[b], [], [], rfl, by rw [List.splitOnP_nil]; rfl, rfl⟩
      · obtain ⟨line, lines, lines', hlines, hsplit, hsame⟩ := ih hrest
        rw [hlines, hsplit]
        by_cases hcr : b = 13 ∧ rest.head? = some newlineByte
        · have hend : isLineEnd b = true := by rw [hcr.1]; decide
          rw [if_pos hcr, if_pos hend]
          obtain ⟨rest', rfl⟩ := List.head?_eq_some_iff.mp hcr.2
          have hempty : line = [] := by
            rw [List.splitOnP_cons_eq_if_modifyHead, if_pos (by decide)] at hsplit
            exact (List.cons.inj hsplit).1.symm
          subst hempty
          exact ⟨[], lines, [] :: lines', rfl, rfl, hsame⟩
        · rw [if_neg hcr]
          split_ifs with hend
          · refine ⟨[], line :: lines, line :: lines', rfl, rfl, ?_⟩
            rw [nonblankLines_cons, nonblankLines_cons line lines', hsame]
          · exact ⟨b :: line, lines, lines', rfl, rfl, hsame⟩

/-- **The records** are the texts between ends of lines. -/
lemma recordLines_eq (text : Bytes) : recordLines text = nonblankLines (text.splitOnP isLineEnd) := by
  by_cases hne : text = []
  · subst hne
    rw [List.splitOnP_nil]
    rfl
  · obtain ⟨line, lines, lines', hlines, hsplit, hsame⟩ := splitlines_splitOnP text hne
    rw [recordLines, hlines, hsplit, nonblankLines_cons, nonblankLines_cons line lines', hsame]

/-- The end of a line divides a text. -/
lemma recordLines_append_cons (hb : isLineEnd b) (a rest : Bytes) :
    recordLines (a ++ b :: rest) = recordLines a ++ recordLines rest := by
  rw [recordLines_eq, recordLines_eq, recordLines_eq, List.splitOnP_append_cons a rest hb,
    nonblankLines_append]

/-- **At the end of a record** the records of a text are divided. -/
lemma recordLines_append (h : a.getLast?.all isLineEnd ∨ text.head?.all isLineEnd) :
    recordLines (a ++ text) = recordLines a ++ recordLines text := by
  rcases h with h | h
  · rcases List.eq_nil_or_concat a with rfl | ⟨before, b, rfl⟩
    · rfl
    · rw [List.concat_eq_append, List.getLast?_concat] at h
      have hself := recordLines_append_cons (b := b) h before []
      rw [List.concat_eq_append, List.append_assoc, List.singleton_append, recordLines_append_cons h,
        hself]
      simp
  · cases text with
    | nil => simp
    | cons b rest =>
        have hself := recordLines_append_cons (b := b) h [] rest
        rw [List.nil_append] at hself
        rw [recordLines_append_cons h, hself]
        simp

/-- **Anywhere else** the first record of the rest may be the end of a longer one. -/
lemma recordLines_append_tail (a text : Bytes) : ∃ before,
    recordLines (a ++ text) = before ++ (recordLines text).tail := by
  have hpieces : ∃ line lines before, (a ++ text).splitOnP isLineEnd = line :: lines ∧
      nonblankLines lines = before ++ (recordLines text).tail := by
    induction a with
    | nil =>
        obtain ⟨line, lines, hlines⟩ :=
          List.exists_cons_of_ne_nil (List.splitOnP_ne_nil isLineEnd text)
        rw [List.nil_append, recordLines_eq, hlines]
        refine ⟨line, lines, ?_⟩
        by_cases hblank : isBlankLine line
        · have hskip : nonblankLines (line :: lines) = nonblankLines lines :=
            List.filter_cons_of_neg (by simp [hblank])
          exact ⟨(nonblankLines lines).take 1, rfl, by rw [hskip, ← List.drop_one, List.take_append_drop]⟩
        · have hkeep : nonblankLines (line :: lines) = line :: nonblankLines lines :=
            List.filter_cons_of_pos (by simp [hblank])
          exact ⟨[], rfl, by rw [hkeep, List.tail_cons, List.nil_append]⟩
    | cons b a ih =>
        obtain ⟨line, lines, before, hlines, hrecords⟩ := ih
        rw [List.cons_append, List.splitOnP_cons_eq_if_modifyHead, hlines]
        split_ifs
        · refine ⟨[], line :: lines, nonblankLines [line] ++ before, rfl, ?_⟩
          rw [List.append_assoc, ← hrecords, ← nonblankLines_cons]
        · exact ⟨b :: line, lines, before, rfl, hrecords⟩
  obtain ⟨line, lines, before, hlines, hrecords⟩ := hpieces
  refine ⟨nonblankLines [line] ++ before, ?_⟩
  rw [recordLines_eq, hlines, List.append_assoc, ← hrecords, ← nonblankLines_cons]

end Records

/-! ### The loop -/

section Loop

variable {content text : Bytes} {chunk : ℕ+} {maxLines maxBytes : ℤ} {fuel : ℕ}

/-- The buffer is what stands behind the cursor, and holds too few records so far. -/
structure BoundedTail.Covers (text : Bytes) (maxLines : ℤ) (s : BoundedTail) (content : Bytes) :
    Prop where
  text_eq : content.take s.cursor ++ s.buffer = text
  cursor_le : s.cursor ≤ content.length
  few : ((recordLines s.buffer).length : ℤ) ≤ maxLines
  started : s.cursor = 0 → s.buffer = []

/-- What is before a chunk and what is in it. -/
lemma BoundedTail.Covers.text_eq_chunk {s : BoundedTail} (hs : s.Covers text maxLines content) :
    content.take (s.cursor - chunk) ++
      (readAt content (s.cursor - chunk) (s.cursor - (s.cursor - chunk)) ++ s.buffer) = text := by
  rw [← List.append_assoc, ← take_eq_append_readAt content (Nat.sub_le s.cursor chunk), hs.text_eq]

/-- What `startsAtRecordBoundary` reads: the bytes before and behind a position. -/
lemma boundary_of_startsAt {start count : ℕ} (hcount : 0 < count) (hstart : start < content.length)
    (h : startsAtRecordBoundary content start) (rest : Bytes) :
    (content.take start).getLast?.all isLineEnd ∨
      (readAt content start count ++ rest).head?.all isLineEnd := by
  have hread : ∀ {i n : ℕ}, i < content.length → 0 < n →
      (readAt content i n).head? = content[i]? := by
    intro i n hi hn
    rw [readAt, List.head?_take, if_neg hn.ne', List.head?_drop]
  have hone : ∀ {i : ℕ}, i < content.length → (readAt content i 1).all isLineEnd →
      content[i]?.all isLineEnd := by
    intro i hi hall
    rw [← hread hi Nat.one_pos]
    cases hbytes : readAt content i 1 with
    | nil => rfl
    | cons b bytes =>
        rw [hbytes, List.all_cons, Bool.and_eq_true] at hall
        exact hall.1
  rw [startsAtRecordBoundary, Bool.or_eq_true, Bool.or_eq_true, decide_eq_true_eq] at h
  rcases h with (rfl | hprevious) | hcurrent
  · exact .inl rfl
  · by_cases hzero : start = 0
    · subst hzero
      exact .inl rfl
    · rw [List.getLast?_take, if_neg hzero, Option.or_of_isSome (by simp; omega)]
      exact .inl (hone (by omega) hprevious)
  · right
    have hsome := hread hstart hcount
    rw [List.getElem?_eq_getElem hstart] at hsome
    rw [List.head?_append, hsome, Option.some_or, ← List.getElem?_eq_getElem hstart]
    exact hone hstart hcurrent

/-- **The lines of a chunk** and of what is behind it are the last records of the text. -/
lemma records_of_chunk {start : ℕ} {buffer : Bytes} (htext : content.take start ++ buffer = text)
    (hboundary : startsAtRecordBoundary content start →
      (content.take start).getLast?.all isLineEnd ∨ buffer.head?.all isLineEnd) :
    ∃ before, recordLines text = before ++ wholeLines content start buffer ∧
      (start = 0 → before = []) := by
  rw [← htext]
  by_cases hzero : start = 0
  · subst hzero
    refine ⟨[], ?_, fun _ => rfl⟩
    rw [wholeLines, if_neg fun h => by simp [startsAtRecordBoundary] at h]
    rfl
  · rw [wholeLines]
    split_ifs with hpartial
    · obtain ⟨before, hbefore⟩ := recordLines_append_tail (content.take start) buffer
      exact ⟨before, hbefore, fun h => absurd h hzero⟩
    · by_cases hstarts : startsAtRecordBoundary content start
      · exact ⟨recordLines (content.take start), recordLines_append (hboundary hstarts),
          fun h => absurd h hzero⟩
      · have hempty : recordLines buffer = [] := by
          by_contra hne
          exact hpartial ⟨hne, by simpa using hstarts⟩
        obtain ⟨before, hbefore⟩ := recordLines_append_tail (content.take start) buffer
        exact ⟨before, by rw [hbefore, hempty]; rfl, fun h => absurd h hzero⟩

/-- The lines that are kept are at least all but one. -/
lemma length_recordLines_le (content : Bytes) (start : ℕ) (buffer : Bytes) :
    (recordLines buffer).length ≤ (wholeLines content start buffer).length + 1 := by
  rw [wholeLines]
  split_ifs
  · rw [List.length_tail]
    omega
  · omega

/-- The last lines of a text are those of its last lines. -/
lemma lastLines_append {lines : List Bytes} (before : List Bytes)
    (h : maxLines ≤ lines.length ∨ before = []) :
    lastLines maxLines (before ++ lines) = lastLines maxLines lines := by
  rcases h with h | rfl
  · have hdrop : (before ++ lines).length - maxLines.toNat =
        before.length + (lines.length - maxLines.toNat) := by
      rw [List.length_append]
      omega
    rw [lastLines, lastLines, hdrop, List.drop_append, List.drop_of_length_le (by omega),
      List.nil_append, Nat.add_sub_cancel_left]
  · rfl

/-- What the reader may return of a text: its last records; or it raises, and less than a chunk more
than the limit ends the text without more records than were asked for. -/
def ReadsTail (text : Bytes) (chunk : ℕ+) (maxLines maxBytes : ℤ) :
    Except TailError (List Bytes) → Prop
  | .ok lines => lines = lastLines maxLines (recordLines text)
  | .error e => e = .os "JSONL tail exceeds bounded read limit" ∧
      ∃ tail, tail <:+ text ∧ maxBytes < tail.length + chunk ∧ maxBytes < text.length ∧
        ((recordLines tail).length : ℤ) ≤ maxLines

/-- A turn that goes on has found too few records. -/
lemma boundedTurn_next {s next : BoundedTail} (hs : s.Covers text maxLines content)
    (h : boundedTurn content chunk maxLines maxBytes s = .inl next) :
    next.Covers text maxLines content ∧ next.cursor < s.cursor := by
  simp only [boundedTurn] at h
  split_ifs at h with hpos hlimit hdone
  obtain rfl := Sum.inl.inj h
  obtain ⟨hfew, hstart⟩ := not_or.mp hdone
  have hchunk := chunk.pos
  have hcursor := hs.cursor_le
  have hle := length_recordLines_le content (s.cursor - chunk)
    (readAt content (s.cursor - chunk) (s.cursor - (s.cursor - chunk)) ++ s.buffer)
  refine ⟨⟨hs.text_eq_chunk, ?_, ?_, fun hzero => absurd hzero hstart⟩, ?_⟩
  all_goals
    dsimp only
    omega

/-- **A turn that leaves the loop** has the last records of the text. -/
lemma boundedTurn_last {s : BoundedTail} {result : Except TailError (List Bytes)}
    (hs : s.Covers text maxLines content)
    (h : boundedTurn content chunk maxLines maxBytes s = .inr result) :
    ReadsTail text chunk maxLines maxBytes result := by
  have htext : content.take (s.cursor - chunk) ++ _ = text := hs.text_eq_chunk
  have hchunk := chunk.pos
  have hcursor := hs.cursor_le
  simp only [boundedTurn] at h
  split_ifs at h with hpos hlimit hdone
  · obtain rfl := Sum.inr.inj h
    refine ⟨rfl, s.buffer, ⟨content.take s.cursor, hs.text_eq⟩, ?_, ?_, hs.few⟩
    · have hread : (readAt content (s.cursor - chunk) (s.cursor - (s.cursor - chunk))).length ≤
          chunk := by
        rw [readAt, List.length_take]
        omega
      rw [List.length_append] at hlimit
      omega
    · rw [← htext, List.length_append]
      omega
  · obtain rfl := Sum.inr.inj h
    obtain ⟨before, hrecords, hbefore⟩ := records_of_chunk htext fun hstarts =>
      boundary_of_startsAt (by omega) (by omega) hstarts s.buffer
    rw [ReadsTail, hrecords]
    exact (lastLines_append before (hdone.imp_right hbefore)).symm
  · obtain rfl := Sum.inr.inj h
    have hzero : s.cursor = 0 := by omega
    have hnil := hs.text_eq
    rw [hzero, hs.started hzero, List.take_zero, List.append_nil] at hnil
    rw [ReadsTail, ← hnil, recordLines_nil, lastLines, List.drop_nil]

end Loop

/-- The reader returns the last records of a text, or raises where it may. -/
lemma readBoundedJsonlTail_reads (content : Bytes) (chunk : ℕ+) {maxLines maxBytes : ℤ} {fuel : ℕ}
    (hlines : 1 ≤ maxLines) (hbytes : 1 ≤ maxBytes) (hfuel : content.length < fuel) :
    ∃ result, readBoundedJsonlTail content chunk maxLines maxBytes fuel = some result ∧
      ReadsTail (rstrip content) chunk maxLines maxBytes result := by
  have hprefix : content.take (rstrip content).length = rstrip content :=
    (List.prefix_iff_eq_take.mp (List.rdropWhile_prefix isTrimmed content)).symm
  have hlength : (rstrip content).length ≤ content.length :=
    (List.rdropWhile_prefix isTrimmed content).length_le
  have hcovers : BoundedTail.Covers (rstrip content) maxLines { cursor := (rstrip content).length }
      content := by
    refine ⟨by rw [List.append_nil, hprefix], hlength, ?_, fun _ => rfl⟩
    simp
    omega
  rw [readBoundedJsonlTail, if_neg (by omega), trimTrailingWhitespace_eq hfuel, List.take_length]
  exact While.turns_ensure (fun s => s.Covers (rstrip content) maxLines content) BoundedTail.cursor
    (ReadsTail (rstrip content) chunk maxLines maxBytes) boundedTurn_next boundedTurn_last hcovers
    (by dsimp only; omega)

/-- **The bounded reader is correct**, and each of its loops ends within one turn more than the file
has bytes.  Whatever the size of the chunks and wherever a chunk divides a record, it returns the last
records of the file, without the white space at its end: all of them where there are fewer than were
asked for.  It raises only where the file is longer than the limit, and an end of it that is less than
a chunk shorter than the limit has no more records than were asked for. -/
theorem bounded_tail_correct (content : Bytes) (chunk : ℕ+) {maxLines maxBytes : ℤ} {fuel : ℕ}
    (hlines : 1 ≤ maxLines) (hbytes : 1 ≤ maxBytes) (hfuel : content.length < fuel) :
    ∃ result, readBoundedJsonlTail content chunk maxLines maxBytes fuel = some result ∧
      ReadsTail (rstrip content) chunk maxLines maxBytes result ∧
      ((rstrip content).length ≤ maxBytes →
        result = .ok (lastLines maxLines (recordLines (rstrip content)))) := by
  obtain ⟨result, hread, hresult⟩ :=
    readBoundedJsonlTail_reads content chunk hlines hbytes hfuel
  refine ⟨result, hread, hresult, fun hshort => ?_⟩
  cases result with
  | error e =>
      obtain ⟨-, -, -, -, hlong, -⟩ := hresult
      omega
  | ok lines => rw [hresult]

/-- The last two records, read in chunks of two bytes, of which one divides `b"\r\n"`. -/
theorem short_tail_is_read : readBoundedJsonlTail [97, 10, 98, 99, 100, 13, 10, 101, 32] 2 2 100 10 =
    some (.ok [[98, 99, 100], [101]]) := by
  obtain ⟨result, hread, -, hresult⟩ :=
    bounded_tail_correct [97, 10, 98, 99, 100, 13, 10, 101, 32] 2 (by decide : (1 : ℤ) ≤ 2)
      (by decide : (1 : ℤ) ≤ 100) (by decide : _ < 10)
  rw [hread, hresult (by decide)]
  decide

end Ai4Binance.Storage
