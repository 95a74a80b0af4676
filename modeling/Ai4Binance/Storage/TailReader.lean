/-
The reader of the last event of a JSONL file (`storage/jsonl.py`).

The file is read backward in chunks, twice: once for the end of its last text, and once for the
newline before that.

* `trimTrailingWhitespace`, `readLastNonemptyLine`: the two loops, with a bound on their turns;
* `lastNonemptyLine`: what the reader is for: the last line that is not blank, without the white
  space at its end;
* `trimTurn_next`, `readTurn_next`: what one chunk keeps;
* `lastNonemptyLine_eq`: the last line, from the end of the last text;
* `tail_reader_correct`: **the reader returns this line whenever it is short enough**, and raises
  otherwise.
-/
import Ai4Binance.Lib.Encoding
import Ai4Binance.Lib.While
import Mathlib.Data.List.DropRight

namespace Ai4Binance

/-! ### Bytes -/

/-- `b"\n"`. -/
def newlineByte : UInt8 := 10

/-- A byte of `b" \t\r\n"`. -/
def isTrimmed (b : UInt8) : Bool := b = 32 || b = 9 || b = 13 || b = newlineByte

/-- `block.rstrip(b" \t\r\n")`. -/
def rstrip (block : Bytes) : Bytes := block.rdropWhile isTrimmed

/-- `block.rfind(b"\n")`; `none` is `-1`. -/
def rfindNewline : Bytes → Option ℕ
  | [] => none
  | b :: block =>
      match rfindNewline block with
      | some i => some (i + 1)
      | none => if b = newlineByte then some 0 else none

/-- `stream.seek(start)`, then `stream.read(count)`. -/
def readAt (content : Bytes) (start count : ℕ) : Bytes := (content.drop start).take count

/-! ### The two loops -/

/-- `_TAIL_READ_CHUNK_BYTES`. -/
def tailReadChunkBytes : ℕ+ := ⟨64 * 1024, by norm_num⟩

/-- An `OSError` with its text. -/
structure OsError where
  message : String
  deriving DecidableEq, Repr

section Loops

variable (content : Bytes) (chunk : ℕ+)

/-- A turn of `_trim_trailing_whitespace`, before which the text ends at `endAt`. -/
def trimTurn (endAt : ℕ) : ℕ ⊕ ℕ :=
  if 0 < endAt then
    let start := endAt - chunk
    let stripped := rstrip (readAt content start (endAt - start))
    if stripped ≠ [] then .inr (start + stripped.length) else .inl start
  else .inr 0

/-- `_trim_trailing_whitespace`. -/
def trimTrailingWhitespace (fuel endAt : ℕ) : Option ℕ :=
  While.turns (trimTurn content chunk) fuel endAt

/-- The variables of the loop of `_read_last_nonempty_line`. -/
structure TailRead where
  cursor : ℕ
  parts : List Bytes := []
  eventSize : ℕ := 0

/-- `b"".join(reversed(parts))`. -/
def joinReversed (parts : List Bytes) : Bytes := parts.reverse.flatten

/-- A turn of the loop of `_read_last_nonempty_line`. -/
def readTurn (maxEventBytes : ℤ) (s : TailRead) : TailRead ⊕ Except OsError Bytes :=
  if 0 < s.cursor then
    let start := s.cursor - chunk
    let block := readAt content start (s.cursor - start)
    let newline := rfindNewline block
    let part := match newline with
      | some i => block.drop (i + 1)
      | none => block
    let eventSize := s.eventSize + part.length
    if maxEventBytes < eventSize then
      .inr (.error ⟨"JSONL destination event exceeds bounded read limit"⟩)
    else if newline.isSome then .inr (.ok (joinReversed (s.parts ++ [part])))
    else .inl ⟨start, s.parts ++ [part], eventSize⟩
  else .inr (.ok (joinReversed s.parts))

/-- `_read_last_nonempty_line`, with at most `fuel` turns of each loop. -/
def readLastNonemptyLine (maxEventBytes : ℤ) (fuel : ℕ) : Option (Except OsError Bytes) := do
  let endAt ← trimTrailingWhitespace content chunk fuel content.length
  if endAt = 0 then return .error ⟨"JSONL destination contains no event"⟩
  else While.turns (readTurn content chunk maxEventBytes) fuel { cursor := endAt }

end Loops

/-! ### What the reader is for -/

/-- The line has a byte other than white space. -/
def isNonempty (line : Bytes) : Bool := line.any fun b => !isTrimmed b

/-- The last line with a byte other than white space, without the white space at its end. -/
def lastNonemptyLine (content : Bytes) : Option Bytes :=
  ((content.splitOn newlineByte).filter isNonempty).getLast?.map rstrip

/-- A line within the bound on its length. -/
def withinLimit (maxEventBytes : ℤ) (line : Bytes) : Except OsError Bytes :=
  if maxEventBytes < line.length then
    .error ⟨"JSONL destination event exceeds bounded read limit"⟩
  else .ok line

/-- The bytes after the last newline. -/
def afterNewline (text : Bytes) : Bytes := text.rtakeWhile (· ≠ newlineByte)

/-! ### A text and what follows it -/

section Append

variable {α : Type*} {p : α → Bool} {l l' : List α}

lemma rdropWhile_append_of_ne_nil (h : l'.rdropWhile p ≠ []) :
    (l ++ l').rdropWhile p = l ++ l'.rdropWhile p := by
  have hne : (l'.reverse.dropWhile p).isEmpty = false := by
    simpa [List.rdropWhile] using h
  rw [List.rdropWhile, List.reverse_append, List.dropWhile_append, hne, if_neg (by simp),
    List.reverse_append, List.reverse_reverse, ← List.rdropWhile]

lemma rdropWhile_append_of_eq_nil (h : l'.rdropWhile p = []) :
    (l ++ l').rdropWhile p = l.rdropWhile p := by
  have hempty : (l'.reverse.dropWhile p).isEmpty = true := by
    simpa [List.rdropWhile] using h
  rw [List.rdropWhile, List.reverse_append, List.dropWhile_append, if_pos hempty, ← List.rdropWhile]

lemma rtakeWhile_append_of_all (h : ∀ x ∈ l', p x) :
    (l ++ l').rtakeWhile p = l.rtakeWhile p ++ l' := by
  rw [List.rtakeWhile, List.reverse_append, List.takeWhile_append_of_pos (by simpa using h),
    List.reverse_append, List.reverse_reverse, ← List.rtakeWhile]

lemma rtakeWhile_append_of_not_all (h : ∃ x ∈ l', ¬ p x) :
    (l ++ l').rtakeWhile p = l'.rtakeWhile p := by
  have hne : (l'.reverse.takeWhile p).length ≠ l'.reverse.length := by
    intro heq
    have hself := (List.takeWhile_prefix p).eq_of_length heq
    obtain ⟨x, hx, hpx⟩ := h
    exact hpx (List.takeWhile_eq_self_iff.mp hself x (List.mem_reverse.mpr hx))
  rw [List.rtakeWhile, List.reverse_append, List.takeWhile_append, if_neg hne, ← List.rtakeWhile]

lemma exists_concat_of_rdropWhile (h : l.rdropWhile p ≠ []) :
    ∃ init x, l.rdropWhile p = init ++ [x] ∧ p x = false :=
  ⟨_, _, (List.dropLast_append_getLast h).symm, by simpa using List.rdropWhile_last_not p l h⟩

end Append

/-- Bytes without a newline belong to the last line. -/
lemma afterNewline_append_of_notMem {text part : Bytes} (h : newlineByte ∉ part) :
    afterNewline (text ++ part) = afterNewline text ++ part :=
  rtakeWhile_append_of_all fun _ hb => decide_eq_true (ne_of_mem_of_not_mem hb h)

/-- The last line begins behind every newline. -/
lemma afterNewline_append_of_mem {text part : Bytes} (h : newlineByte ∈ part) :
    afterNewline (text ++ part) = afterNewline part :=
  rtakeWhile_append_of_not_all ⟨newlineByte, h, by simp⟩

/-! ### One chunk -/

lemma rfindNewline_eq_none {block : Bytes} : rfindNewline block = none ↔ newlineByte ∉ block := by
  induction block with
  | nil => simp [rfindNewline]
  | cons b block ih =>
      rw [rfindNewline]
      cases hfind : rfindNewline block with
      | some i =>
          have hmem : newlineByte ∈ block := by
            by_contra hnot
            rw [ih.mpr hnot] at hfind
            cases hfind
          simp [hmem]
      | none =>
          by_cases hb : b = newlineByte
          · simp [hb]
          · simp [hb, ih.mp hfind, Ne.symm hb]

lemma mem_of_rfindNewline {block : Bytes} {i : ℕ} (h : rfindNewline block = some i) :
    newlineByte ∈ block := by
  by_contra hnot
  rw [rfindNewline_eq_none.mpr hnot] at h
  cases h

/-- The part of a block after its last newline. -/
lemma drop_rfindNewline {block : Bytes} {i : ℕ} (h : rfindNewline block = some i) :
    block.drop (i + 1) = afterNewline block := by
  induction block generalizing i with
  | nil => simp [rfindNewline] at h
  | cons b block ih =>
      rw [rfindNewline] at h
      rw [List.drop_succ_cons, ← List.singleton_append]
      cases hfind : rfindNewline block with
      | some j =>
          obtain rfl : j + 1 = i := by simpa [hfind] using h
          rw [afterNewline_append_of_mem (mem_of_rfindNewline hfind)]
          exact ih hfind
      | none =>
          simp only [hfind] at h
          split_ifs at h with hb
          obtain rfl := Option.some.inj h
          rw [afterNewline_append_of_notMem (rfindNewline_eq_none.mp hfind), hb]
          simp [afterNewline, List.rtakeWhile]

/-- The bytes before a position are those before a chunk and the chunk. -/
lemma take_eq_append_readAt (content : Bytes) {start endAt : ℕ} (h : start ≤ endAt) :
    content.take endAt = content.take start ++ readAt content start (endAt - start) := by
  rw [readAt, ← List.take_add, Nat.add_sub_cancel' h]

section Loops

variable {content : Bytes} {chunk : ℕ+} {fuel endAt : ℕ}

/-- The end of the text does not change while blank chunks are left behind. -/
lemma trimTurn_next {next : ℕ} (h : trimTurn content chunk endAt = .inl next) :
    next < endAt ∧ (rstrip (content.take next)).length = (rstrip (content.take endAt)).length := by
  simp only [trimTurn] at h
  split_ifs at h with hpos hblank
  obtain rfl := Sum.inl.inj h
  have hchunk := chunk.pos
  refine ⟨by omega, ?_⟩
  rw [take_eq_append_readAt content (Nat.sub_le endAt chunk), rstrip, rstrip,
    rdropWhile_append_of_eq_nil (not_not.mp hblank)]

/-- A chunk with a text in it has its end. -/
lemma trimTurn_last {result : ℕ} (h : trimTurn content chunk endAt = .inr result) :
    result = (rstrip (content.take endAt)).length := by
  simp only [trimTurn] at h
  split_ifs at h with hpos hblank
  · obtain rfl := Sum.inr.inj h
    have hstart : endAt - chunk ≤ content.length := by
      by_contra hlt
      rw [readAt, List.drop_eq_nil_of_le (by omega)] at hblank
      simp [rstrip] at hblank
    rw [take_eq_append_readAt content (Nat.sub_le endAt chunk), rstrip, rstrip,
      rdropWhile_append_of_ne_nil hblank, List.length_append, List.length_take,
      Nat.min_eq_left hstart]
  · obtain rfl := Sum.inr.inj h
    simp [show endAt = 0 by omega, rstrip]

/-- The trimming loop finds the end of the text. -/
lemma trimTrailingWhitespace_eq (hfuel : endAt < fuel) :
    trimTrailingWhitespace content chunk fuel endAt =
      some (rstrip (content.take endAt)).length :=
  While.turns_eq (fun _ => True) id (fun endAt => (rstrip (content.take endAt)).length)
    (fun _ h => ⟨trivial, trimTurn_next h⟩) (fun _ h => trimTurn_last h) trivial hfuel

variable {maxEventBytes : ℤ}

/-- The size counts the parts, which are within the limit once there are any. -/
structure TailRead.Counted (maxEventBytes : ℤ) (s : TailRead) : Prop where
  size_eq : s.eventSize = (joinReversed s.parts).length
  within : s.cursor = 0 → (s.eventSize : ℤ) ≤ maxEventBytes

/-- The line that the loop is about to return: what stands before the cursor, and the parts. -/
def TailRead.line (content : Bytes) (s : TailRead) : Bytes :=
  afterNewline (content.take s.cursor) ++ joinReversed s.parts

@[simp] lemma joinReversed_append (parts : List Bytes) (part : Bytes) :
    joinReversed (parts ++ [part]) = part ++ joinReversed parts := by
  simp [joinReversed]

/-- A chunk without a newline is a part of the line. -/
lemma line_of_rfindNewline_none {s : TailRead}
    (h : rfindNewline (readAt content (s.cursor - chunk) (s.cursor - (s.cursor - chunk))) = none) :
    s.line content = afterNewline (content.take (s.cursor - chunk)) ++
      (readAt content (s.cursor - chunk) (s.cursor - (s.cursor - chunk)) ++
        joinReversed s.parts) := by
  rw [TailRead.line, take_eq_append_readAt content (Nat.sub_le s.cursor chunk),
    afterNewline_append_of_notMem (rfindNewline_eq_none.mp h), List.append_assoc]

/-- A chunk with a newline has the beginning of the line. -/
lemma line_of_rfindNewline_some {s : TailRead} {i : ℕ}
    (h : rfindNewline (readAt content (s.cursor - chunk) (s.cursor - (s.cursor - chunk))) =
      some i) :
    s.line content = (readAt content (s.cursor - chunk) (s.cursor - (s.cursor - chunk))).drop
      (i + 1) ++ joinReversed s.parts := by
  rw [TailRead.line, take_eq_append_readAt content (Nat.sub_le s.cursor chunk),
    afterNewline_append_of_mem (mem_of_rfindNewline h), drop_rfindNewline h]

/-- The loop goes on with the same line. -/
lemma readTurn_next {s next : TailRead} (hs : s.Counted maxEventBytes)
    (h : readTurn content chunk maxEventBytes s = .inl next) :
    next.Counted maxEventBytes ∧ next.cursor < s.cursor ∧ next.line content = s.line content := by
  simp only [readTurn] at h
  split_ifs at h with hpos hlimit hnewline
  have hnone := Option.not_isSome_iff_eq_none.mp hnewline
  rw [hnone] at h hlimit
  obtain rfl := Sum.inl.inj h
  have hchunk := chunk.pos
  refine ⟨⟨?_, fun _ => not_lt.mp hlimit⟩, by dsimp only; omega, ?_⟩
  · rw [joinReversed_append, List.length_append, hs.size_eq, Nat.add_comm]
  · rw [line_of_rfindNewline_none hnone, TailRead.line, joinReversed_append]

/-- The loop returns its line, unless the parts so far are too long already. -/
lemma readTurn_last {s : TailRead} {result : Except OsError Bytes} (hs : s.Counted maxEventBytes)
    (h : readTurn content chunk maxEventBytes s = .inr result) :
    result = withinLimit maxEventBytes (s.line content) := by
  have hsize := hs.size_eq
  simp only [readTurn] at h
  split_ifs at h with hpos hlimit hnewline
  · -- the parts are at the end of the line
    obtain rfl := Sum.inr.inj h
    rw [withinLimit, if_pos]
    cases hfind : rfindNewline
        (readAt content (s.cursor - chunk) (s.cursor - (s.cursor - chunk))) with
    | none =>
        simp only [hfind] at hlimit
        rw [line_of_rfindNewline_none hfind, List.length_append, List.length_append]
        omega
    | some i =>
        simp only [hfind] at hlimit
        rw [line_of_rfindNewline_some hfind, List.length_append]
        omega
  · obtain ⟨i, hfind⟩ := Option.isSome_iff_exists.mp hnewline
    simp only [hfind] at h hlimit
    obtain rfl := Sum.inr.inj h
    rw [joinReversed_append, ← line_of_rfindNewline_some hfind, withinLimit, if_neg]
    rw [line_of_rfindNewline_some hfind, List.length_append]
    omega
  · -- the line begins the file
    obtain rfl := Sum.inr.inj h
    have hcursor : s.cursor = 0 := by omega
    have hwithin := hs.within hcursor
    have hline : s.line content = joinReversed s.parts := by
      simp [TailRead.line, hcursor, afterNewline, List.rtakeWhile]
    rw [hline, withinLimit, if_neg (by omega)]

/-- The reading loop returns the line that ends at its first cursor, if it is short enough. -/
lemma readTurns_eq (hpos : 0 < endAt) (hfuel : endAt < fuel) :
    While.turns (readTurn content chunk maxEventBytes) fuel { cursor := endAt } =
      some (withinLimit maxEventBytes (afterNewline (content.take endAt))) := by
  have hcounted : TailRead.Counted maxEventBytes { cursor := endAt } :=
    ⟨rfl, fun h => absurd h hpos.ne'⟩
  rw [While.turns_eq (TailRead.Counted maxEventBytes) TailRead.cursor
    (fun s => withinLimit maxEventBytes (s.line content))
    (fun hs h => ?_) readTurn_last hcounted hfuel, TailRead.line]
  · simp [joinReversed]
  · obtain ⟨hcounted, hlt, hline⟩ := readTurn_next hs h
    exact ⟨hcounted, hlt, by rw [hline]⟩

end Loops

/-! ### The last line -/

section LastLine

variable {content line text blank : Bytes}

lemma isTrimmed_newline : isTrimmed newlineByte = true := by decide

/-- The lines of a text have only its bytes. -/
lemma mem_of_mem_splitOn {b : UInt8} (hline : line ∈ content.splitOn newlineByte)
    (hb : b ∈ line) : b ∈ content := by
  induction content generalizing line with
  | nil =>
      rw [List.splitOn_nil, List.mem_singleton] at hline
      rw [hline] at hb
      exact hb
  | cons c content ih =>
      rw [List.splitOn_cons_eq_if_modifyHead] at hline
      split_ifs at hline with hc
      · rcases List.mem_cons.mp hline with rfl | hline
        · exact absurd hb List.not_mem_nil
        · exact List.mem_cons_of_mem _ (ih hline hb)
      · obtain ⟨head, rest, hsplit⟩ :=
          List.exists_cons_of_ne_nil (List.splitOn_ne_nil newlineByte content)
        rw [hsplit] at hline ih
        rcases List.mem_cons.mp hline with rfl | hline
        · rcases List.mem_cons.mp hb with rfl | hb
          · exact List.mem_cons_self
          · exact List.mem_cons_of_mem _ (ih List.mem_cons_self hb)
        · exact List.mem_cons_of_mem _ (ih (List.mem_cons_of_mem _ hline) hb)

/-- What stands before the last line of a text ends in a newline. -/
lemma eq_append_afterNewline (text : Bytes) : newlineByte ∉ text ∧ afterNewline text = text ∨
    ∃ before, text = before ++ newlineByte :: afterNewline text := by
  have hsplit : text.rdropWhile (· ≠ newlineByte) ++ afterNewline text = text :=
    List.rdropWhile_append_rtakeWhile
  by_cases hnil : text.rdropWhile (· ≠ newlineByte) = []
  · refine .inl ⟨fun hmem => ?_, by rwa [hnil, List.nil_append] at hsplit⟩
    exact absurd rfl (of_decide_eq_true (List.rdropWhile_eq_nil_iff.mp hnil _ hmem))
  · obtain ⟨before, b, hbefore, hb⟩ := exists_concat_of_rdropWhile hnil
    obtain rfl : b = newlineByte := by simpa using hb
    rw [hbefore, List.append_assoc, List.singleton_append] at hsplit
    exact .inr ⟨before, hsplit.symm⟩

/-- A text that is not blank ends in a byte of its last line. -/
lemma exists_afterNewline_rstrip (h : rstrip content ≠ []) : ∃ init b, isTrimmed b = false ∧
    afterNewline (rstrip content) = init ++ [b] := by
  obtain ⟨init, b, hconcat, hb⟩ := exists_concat_of_rdropWhile h
  refine ⟨afterNewline init, b, hb, ?_⟩
  rw [rstrip, hconcat, afterNewline, List.rtakeWhile_concat_pos, afterNewline]
  refine decide_eq_true fun hnewline => ?_
  rw [hnewline, isTrimmed_newline] at hb
  cases hb

lemma isNonempty_eq_false (h : ∀ b ∈ line, isTrimmed b) : isNonempty line = false := by
  simpa [isNonempty] using h

/-- White space has no line that is not empty. -/
lemma filter_splitOn_of_blank (h : ∀ b ∈ blank, isTrimmed b) :
    (blank.splitOn newlineByte).filter isNonempty = [] :=
  List.filter_eq_nil_iff.mpr fun line hline => by
    rw [isNonempty_eq_false fun b hb => h b (mem_of_mem_splitOn hline hb)]
    exact Bool.false_ne_true

/-- The white space after a line is at its end or in empty lines. -/
lemma filter_splitOn_append_blank (hline : newlineByte ∉ line) (hne : isNonempty line)
    (h : ∀ b ∈ blank, isTrimmed b) : ∃ tail, (∀ b ∈ tail, isTrimmed b) ∧
      ((line ++ blank).splitOn newlineByte).filter isNonempty = [line ++ tail] := by
  have hkeep (tail : Bytes) : isNonempty (line ++ tail) = true := by
    rw [isNonempty, List.any_append, ← isNonempty, hne, Bool.true_or]
  by_cases hnewline : newlineByte ∈ blank
  · obtain ⟨tail, rest, rfl, hnot⟩ := List.eq_append_cons_of_mem hnewline
    have htail : newlineByte ∉ line ++ tail := by simp [hline, hnot]
    refine ⟨tail, fun b hb => h b (List.mem_append_left _ hb), ?_⟩
    rw [← List.append_assoc, List.splitOn_append_cons_self_of_not_mem htail,
      List.filter_cons_of_pos (hkeep tail), filter_splitOn_of_blank fun b hb =>
        h b (List.mem_append_right _ (List.mem_cons_of_mem _ hb))]
  · have hall : newlineByte ∉ line ++ blank := by simp [hline, hnewline]
    exact ⟨blank, h, by rw [List.splitOn_eq_singleton hall, List.filter_cons_of_pos (hkeep blank),
      List.filter_nil]⟩

/-- **The last line ends where the last text does.** -/
lemma lastNonemptyLine_eq (content : Bytes) : lastNonemptyLine content =
    if rstrip content = [] then none else some (afterNewline (rstrip content)) := by
  have hsplit : rstrip content ++ content.rtakeWhile isTrimmed = content :=
    List.rdropWhile_append_rtakeWhile
  have hblank : ∀ b ∈ content.rtakeWhile isTrimmed, isTrimmed b :=
    fun b hb => List.mem_rtakeWhile_imp hb
  rw [lastNonemptyLine]
  split_ifs with hempty
  · rw [hempty, List.nil_append] at hsplit
    rw [hsplit] at hblank
    rw [filter_splitOn_of_blank hblank]
    rfl
  · obtain ⟨init, b, hb, hline⟩ := exists_afterNewline_rstrip hempty
    have hnonempty : isNonempty (afterNewline (rstrip content)) := by
      simp [isNonempty, hline, hb]
    have hnewline : newlineByte ∉ afterNewline (rstrip content) := fun hmem => by
      simpa using List.mem_rtakeWhile_imp hmem
    obtain ⟨tail, htail, hfilter⟩ := filter_splitOn_append_blank hnewline hnonempty hblank
    have hstrip : rstrip (afterNewline (rstrip content) ++ tail) =
        afterNewline (rstrip content) := by
      rw [rstrip, rdropWhile_append_of_eq_nil (List.rdropWhile_eq_nil_iff.mpr htail), hline,
        List.rdropWhile_concat_neg _ _ _ (by simp [hb])]
    -- the lines before the last one do not matter
    obtain ⟨before, hbefore⟩ : ∃ before, (content.splitOn newlineByte).filter isNonempty =
        before ++ [afterNewline (rstrip content) ++ tail] := by
      rcases eq_append_afterNewline (rstrip content) with ⟨-, hwhole⟩ | ⟨before, hbefore⟩
      · refine ⟨[], ?_⟩
        rw [List.nil_append, ← hfilter, hwhole, hsplit]
      · refine ⟨(before.splitOn newlineByte).filter isNonempty, ?_⟩
        rw [← hfilter, ← List.filter_append, ← List.splitOn_append_cons_self, ← List.cons_append,
          ← List.append_assoc, ← hbefore, hsplit]
    rw [hbefore, List.getLast?_concat, Option.map_some, hstrip]

end LastLine

/-- **The tail reader is correct**, and each of its loops ends within one turn more than the file
has bytes: whatever the size of the chunks, it returns the last line that is not blank without the
white space at its end, if that is within the limit, and raises when it is longer or there is
none. -/
theorem tail_reader_correct (content : Bytes) (chunk : ℕ+) (maxEventBytes : ℤ) (fuel : ℕ)
    (hfuel : content.length < fuel) :
    readLastNonemptyLine content chunk maxEventBytes fuel =
      some (match lastNonemptyLine content with
        | some line => withinLimit maxEventBytes line
        | none => .error ⟨"JSONL destination contains no event"⟩) := by
  have hprefix : content.take (rstrip content).length = rstrip content :=
    (List.prefix_iff_eq_take.mp (List.rdropWhile_prefix isTrimmed content)).symm
  rw [readLastNonemptyLine, trimTrailingWhitespace_eq hfuel, List.take_length, lastNonemptyLine_eq]
  by_cases hempty : rstrip content = []
  · rw [if_pos hempty, hempty]
    rfl
  · have hpos : 0 < (rstrip content).length := List.length_pos_iff.mpr hempty
    have hle : (rstrip content).length ≤ content.length :=
      (List.rdropWhile_prefix isTrimmed content).length_le
    simp only [Option.bind_eq_bind, Option.bind_some, if_neg hpos.ne', if_neg hempty]
    rw [readTurns_eq hpos (by omega), hprefix]

/-- An event in the middle of blank lines, read in chunks of two bytes. -/
theorem short_event_is_read : readLastNonemptyLine [10, 123, 125, 13, 10, 32] 2 2 7 =
    some (.ok [123, 125]) :=
  (tail_reader_correct [10, 123, 125, 13, 10, 32] 2 2 7 (by decide)).trans (by decide)

end Ai4Binance
