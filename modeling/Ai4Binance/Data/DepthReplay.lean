/-
Writing the depth journal (`data/market_depth.py`, `DepthJournal.append`), and what a head promises
to a reader.

A record gets the next number of the journal and sets the head of its stream; a snapshot or a
checkpoint is where a replay starts, and the oldest records before it are deleted.

* `DepthPayload`: the payload of a record; `checkpointPayload`: the one of a checkpoint;
* `DepthJournal.append`: a batch of records;
* `compact_keeps`: **no record at or after the checkpoint is deleted**;
* `Continues`, `HeadReplays`: a record continues a book, and a head replays to it;
* `HeadReplays.appendRecord`: what one record does to the head of any stream;
* `readLocalDepth_of_live`: **a live head is read as the book of its last record**.
-/
import Ai4Binance.Data.MarketDepth

open Check Text

namespace Ai4Binance

/-! ### Payloads -/

/-- The payload of a record, with the bytes of its JSON text: a response holds more than is read
of it. -/
inductive DepthPayload where
  | snapshot (bytes : ℕ) (raw : DepthSnapshotPayload)
  | event (bytes : ℕ) (raw : DepthEventPayload)
  | reason (bytes : ℕ)

/-- Payloads as they are read back.  A payload of the wrong kind lacks a key. -/
def DepthPayload.codec : DepthCodec DepthPayload where
  size
    | .snapshot bytes _ | .event bytes _ | .reason bytes => bytes
  eof _ := true
  snapshot
    | .snapshot _ raw => .ok raw
    | _ => .error .attribute
  delta
    | .event _ raw => .ok raw
    | _ => .error .attribute

/-- `_checkpoint`. -/
def checkpointPayload (book : ReadOnlyOrderBook) : DepthSnapshotPayload where
  eventAt := book.lastEventAt.getD 0
  lastUpdateId := (book.lastUpdateId.getD 0 : ℕ)
  bids := book.levels.1.map fun row => (some row.price.1, some row.quantity)
  asks := book.levels.2.map fun row => (some row.price.1, some row.quantity)
  bridged := true

/-! ### Appending -/

/-- `DepthRecord`, with the book that its payload leads to, which the journal does not keep. -/
structure DepthRecord where
  symbol : String
  kind : DepthKind
  payload : DepthPayload
  receivedAt : ℚ
  book : Option ReadOnlyOrderBook

/-- `kind in {"snapshot", "checkpoint"}`. -/
def DepthKind.startsReplay : DepthKind → Bool
  | .snapshot | .checkpoint => true
  | _ => false

/-- The status of a head after a record. -/
def DepthKind.status : DepthKind → DepthStatus
  | .delta | .checkpoint => .live
  | .snapshot => .syncing
  | .gap => .gap

/-- `DELETE … LIMIT`: the first records of a stream below a number. -/
def compact {β : Type} (stream : DepthStream) (checkpoint : ℕ) :
    ℕ → List (DepthEventRow β) → List (DepthEventRow β)
  | 0, events => events
  | _ + 1, [] => []
  | limit + 1, e :: events =>
      if e.stream = stream ∧ e.seq < checkpoint then compact stream checkpoint limit events
      else e :: compact stream checkpoint (limit + 1) events

/-- `INSERT … ON CONFLICT`: the head of a stream is replaced, its checkpoint only by another. -/
def putHead (head : DepthHead) : List DepthHead → List DepthHead
  | [] => [head]
  | h :: heads =>
      if h.stream = head.stream then
        { head with checkpointSeq := head.checkpointSeq.or h.checkpointSeq } :: heads
      else h :: putHead head heads

/-- The checkpoint of the head of a stream. -/
def lastCheckpoint (stream : DepthStream) (heads : List DepthHead) : Option ℕ :=
  (heads.find? (·.stream = stream)).bind (·.checkpointSeq)

section Append

variable {β : Type} {stream : DepthStream} {checkpoint limit : ℕ} {events : List (DepthEventRow β)}
  {head : DepthHead} {heads : List DepthHead}

lemma compact_sublist : (compact stream checkpoint limit events).Sublist events := by
  induction events generalizing limit with
  | nil => cases limit <;> exact List.Sublist.refl _
  | cons e events ih =>
      cases limit with
      | zero => exact List.Sublist.refl _
      | succ limit =>
          rw [compact]
          split_ifs
          · exact ih.cons e
          · exact ih.cons_cons e

/-- **No record at or after the checkpoint is deleted**, and none of another stream. -/
theorem compact_keeps {keep : DepthEventRow β → Bool}
    (h : ∀ e, keep e = true → e.stream = stream → checkpoint ≤ e.seq) :
    (compact stream checkpoint limit events).filter keep = events.filter keep := by
  induction events generalizing limit with
  | nil => cases limit <;> rfl
  | cons e events ih =>
      cases limit with
      | zero => rfl
      | succ limit =>
          rw [compact]
          split_ifs with hdeleted
          · have hnot : ¬ keep e = true := fun hkeep =>
              absurd (h e hkeep hdeleted.1) (not_le.mpr hdeleted.2)
            rw [ih, List.filter_cons_of_neg hnot]
          · rw [List.filter_cons, List.filter_cons, ih]

lemma mem_streams_putHead {s : DepthStream} (h : s ∈ (putHead head heads).map (·.stream)) :
    s = head.stream ∨ s ∈ heads.map (·.stream) := by
  induction heads with
  | nil => exact Or.inl (List.mem_singleton.mp h)
  | cons h' heads ih =>
      rw [putHead] at h
      split_ifs at h with hsame
      · rcases List.mem_cons.mp h with rfl | hmem
        · exact Or.inl rfl
        · exact Or.inr (List.mem_cons_of_mem _ hmem)
      · rcases List.mem_cons.mp h with rfl | hmem
        · exact Or.inr List.mem_cons_self
        · exact (ih hmem).imp_right (List.mem_cons_of_mem _)

lemma nodup_putHead (h : (heads.map (·.stream)).Nodup) :
    ((putHead head heads).map (·.stream)).Nodup := by
  induction heads with
  | nil => exact List.nodup_singleton _
  | cons h' heads ih =>
      obtain ⟨hnot, hrest⟩ := List.nodup_cons.mp h
      rw [putHead]
      split_ifs with hsame
      · exact List.nodup_cons.mpr ⟨hsame ▸ hnot, hrest⟩
      · refine List.nodup_cons.mpr ⟨fun hmem => ?_, ih hrest⟩
        exact (mem_streams_putHead hmem).elim hsame hnot

/-- The head of a stream after its record. -/
lemma mem_putHead (hunique : (heads.map (·.stream)).Nodup) {h : DepthHead}
    (hmem : h ∈ putHead head heads) :
    (h ∈ heads ∧ h.stream ≠ head.stream) ∨
      h = { head with checkpointSeq := head.checkpointSeq.or (lastCheckpoint head.stream heads) } := by
  induction heads with
  | nil =>
      right
      rw [List.mem_singleton.mp hmem]
      cases head
      simp [lastCheckpoint]
  | cons h' heads ih =>
      obtain ⟨hnot, hrest⟩ := List.nodup_cons.mp hunique
      rw [putHead] at hmem
      split_ifs at hmem with hsame
      · rcases List.mem_cons.mp hmem with rfl | hmem
        · right
          simp [lastCheckpoint, hsame]
        · refine Or.inl ⟨List.mem_cons_of_mem _ hmem, fun heq => hnot ?_⟩
          exact List.mem_map.mpr ⟨h, hmem, heq.trans hsame.symm⟩
      · rcases List.mem_cons.mp hmem with rfl | hmem
        · exact Or.inl ⟨List.mem_cons_self, hsame⟩
        · rw [lastCheckpoint, List.find?_cons_of_neg (by simpa using hsame)]
          exact (ih hrest hmem).imp_left fun h => ⟨List.mem_cons_of_mem _ h.1, h.2⟩

lemma mem_putHead_of_ne {h : DepthHead} (hmem : h ∈ heads) (hne : h.stream ≠ head.stream) :
    h ∈ putHead head heads := by
  induction heads with
  | nil => exact absurd hmem List.not_mem_nil
  | cons h' heads ih =>
      rw [putHead]
      split_ifs with hsame
      · rcases List.mem_cons.mp hmem with rfl | hmem
        · exact absurd hsame hne
        · exact List.mem_cons_of_mem _ hmem
      · rcases List.mem_cons.mp hmem with rfl | hmem
        · exact List.mem_cons_self
        · exact List.mem_cons_of_mem _ (ih hmem)

lemma exists_mem_putHead (head : DepthHead) (heads : List DepthHead) :
    ∃ h ∈ putHead head heads, h.stream = head.stream ∧ h.status = head.status := by
  induction heads with
  | nil => exact ⟨head, List.mem_cons_self, rfl, rfl⟩
  | cons h' heads ih =>
      rw [putHead]
      split_ifs
      · exact ⟨_, List.mem_cons_self, rfl, rfl⟩
      · obtain ⟨h, hmem, hh⟩ := ih
        exact ⟨h, List.mem_cons_of_mem _ hmem, hh⟩

/-- A head is the one that its stream is looked up by. -/
lemma find?_of_mem (hunique : (heads.map (·.stream)).Nodup) {h : DepthHead} (hmem : h ∈ heads) :
    heads.find? (·.stream = h.stream) = some h := by
  induction heads with
  | nil => exact absurd hmem List.not_mem_nil
  | cons h' heads ih =>
      obtain ⟨hnot, hrest⟩ := List.nodup_cons.mp hunique
      rcases List.mem_cons.mp hmem with rfl | hmem
      · exact List.find?_cons_of_pos (by simp)
      · have hne : h'.stream ≠ h.stream := fun heq =>
          hnot (List.mem_map.mpr ⟨h, hmem, heq.symm⟩)
        rw [List.find?_cons_of_neg (by simpa using hne)]
        exact ih hrest hmem

lemma lastCheckpoint_of_mem (hunique : (heads.map (·.stream)).Nodup) {h : DepthHead}
    (hmem : h ∈ heads) : lastCheckpoint h.stream heads = h.checkpointSeq := by
  rw [lastCheckpoint, find?_of_mem hunique hmem]
  rfl

end Append

namespace DepthJournal

variable {β : Type} (journal : DepthJournal β)

/-- `lastrowid` of the next record. -/
def nextSeq : ℕ := (journal.events.getLast?.map (·.seq)).getD 0 + 1

variable {journal}

lemma seq_lt_nextSeq {e : DepthEventRow β} (h : e ∈ journal.events) :
    e.seq < journal.nextSeq := by
  rw [nextSeq]
  rcases List.eq_nil_or_concat journal.events with hnil | ⟨older, last, hlast⟩
  · rw [hnil] at h
    exact absurd h List.not_mem_nil
  · have hordered := journal.ordered
    rw [hlast, List.concat_eq_append] at h hordered
    rw [hlast, List.concat_eq_append, List.getLast?_concat]
    rcases List.mem_append.mp h with hmem | hmem
    · have hlt := (List.pairwise_append.mp hordered).2.2 e hmem last List.mem_cons_self
      exact Nat.lt_succ_of_lt hlt
    · rw [List.mem_singleton.mp hmem]
      exact Nat.lt_succ_self _

/-- The row of a record. -/
def row (journal : DepthJournal β) (stream : DepthStream) (kind : DepthKind) (payload : β)
    (receivedAt : ℚ) : DepthEventRow β where
  seq := journal.nextSeq
  stream
  kind
  payload
  receivedAt

lemma ordered_append (stream : DepthStream) (kind : DepthKind) (payload : β) (receivedAt : ℚ) :
    (journal.events ++ [journal.row stream kind payload receivedAt]).Pairwise
      fun e f => e.seq < f.seq := by
  refine List.pairwise_append.mpr ⟨journal.ordered, List.pairwise_singleton _ _, ?_⟩
  intro e he f hf
  rw [List.mem_singleton.mp hf]
  exact seq_lt_nextSeq he

/-- A record of `append`. -/
def appendRow (journal : DepthJournal β) (stream : DepthStream) (kind : DepthKind) (payload : β)
    (receivedAt : ℚ) : DepthJournal β where
  events :=
    let events := journal.events ++ [journal.row stream kind payload receivedAt]
    if kind.startsReplay then compact stream journal.nextSeq 50000 events else events
  heads := putHead
    { stream
      checkpointSeq := if kind.startsReplay then some journal.nextSeq else none
      latestSeq := journal.nextSeq
      status := kind.status
      receivedAt } journal.heads
  ordered := by
    dsimp only
    split_ifs
    · exact (ordered_append stream kind payload receivedAt).sublist compact_sublist
    · exact ordered_append stream kind payload receivedAt
  unique := nodup_putHead journal.unique

/-- The record of a market. -/
def appendRecord (market : String) (journal : DepthJournal DepthPayload) (record : DepthRecord) :
    DepthJournal DepthPayload :=
  journal.appendRow (market, record.symbol) record.kind record.payload record.receivedAt

/-- The row of the record of a market. -/
def recordRow (market : String) (journal : DepthJournal DepthPayload) (record : DepthRecord) :
    DepthEventRow DepthPayload :=
  journal.row (market, record.symbol) record.kind record.payload record.receivedAt

/-- `append`, of the records of a market that has a stream. -/
def append (market : String) (journal : DepthJournal DepthPayload) (records : List DepthRecord) :
    DepthJournal DepthPayload :=
  records.foldl (appendRecord market) journal

end DepthJournal

/-! ### Heads and replays -/

section Replay

variable [UnicodeData]

/-- The book of `read_local_depth` and of the collector. -/
def newDepthBook (market symbol : String) : Except PyError ReadOnlyOrderBook :=
  ReadOnlyOrderBook.new symbol 100000 (market ≠ "spot")

omit [UnicodeData] in
/-- A record that is not too large, on the order book. -/
def replayPayload (market : String) (book : ReadOnlyOrderBook) (row : DepthEventRow DepthPayload) :
    Except PyError ReadOnlyOrderBook := do
  match row.kind with
  | .snapshot | .checkpoint =>
      applyDepthSnapshot book (← DepthPayload.codec.snapshot row.payload)
  | .delta => return (← applyDepthEvent book (← DepthPayload.codec.delta row.payload) market).2
  | .gap => throw (.value "local depth contains a gap")

/-- Rows that begin with a snapshot or a checkpoint lead to a book. -/
def Replays (market symbol : String) (rows : List (DepthEventRow DepthPayload))
    (book : ReadOnlyOrderBook) : Prop :=
  ∃ fresh row rest, newDepthBook market symbol = .ok fresh ∧ rows = row :: rest ∧
    row.kind.startsReplay = true ∧ rows.foldlM (replayPayload market) fresh = .ok book

omit [UnicodeData] in
/-- The rows of a stream from a checkpoint on. -/
def rowsFrom (journal : DepthJournal DepthPayload) (stream : DepthStream) (checkpoint : ℕ) :
    List (DepthEventRow DepthPayload) :=
  journal.events.filter fun e => e.stream = stream ∧ checkpoint ≤ e.seq

/-- **A record continues the books that the earlier ones of its streams have led to.** -/
inductive Continues (market : String) (recorded : String → Option ReadOnlyOrderBook) :
    DepthRecord → Prop
  | start {symbol : String} {kind : DepthKind} {bytes : ℕ} {raw : DepthSnapshotPayload}
      {receivedAt : ℚ} {fresh book : ReadOnlyOrderBook} (kind_start : kind.startsReplay = true)
      (fresh_eq : newDepthBook market symbol = .ok fresh)
      (applied : applyDepthSnapshot fresh raw = .ok book)
      (normal : kind = .checkpoint → upper (strip symbol) = symbol) :
      Continues market recorded ⟨symbol, kind, .snapshot bytes raw, receivedAt, some book⟩
  | delta {symbol : String} {bytes : ℕ} {raw : DepthEventPayload} {receivedAt : ℚ}
      {prior book : ReadOnlyOrderBook} (prior_eq : recorded symbol = some prior)
      (applied : applyDepthEvent prior raw market = .ok (true, book))
      (normal : upper (strip symbol) = symbol) :
      Continues market recorded ⟨symbol, .delta, .event bytes raw, receivedAt, some book⟩
  | gap {symbol : String} {bytes : ℕ} {receivedAt : ℚ} :
      Continues market recorded ⟨symbol, .gap, .reason bytes, receivedAt, none⟩

omit [UnicodeData] in
/-- The books after a record. -/
def noteBook (recorded : String → Option ReadOnlyOrderBook) (record : DepthRecord) :
    String → Option ReadOnlyOrderBook :=
  Function.update recorded record.symbol record.book

/-- **What the head of a stream promises**: unless there is a gap, the rows from its checkpoint on
lead to the book of the last record. -/
structure HeadReplays (market symbol : String) (journal : DepthJournal DepthPayload)
    (recorded : Option ReadOnlyOrderBook) : Prop where
  known : ∀ book, recorded = some book →
    ∃ head ∈ journal.heads, head.stream = (market, symbol) ∧ head.status ≠ .gap
  latest : ∀ head ∈ journal.heads, head.stream = (market, symbol) →
    ∀ e ∈ journal.events, e.stream = (market, symbol) → e.seq ≤ head.latestSeq
  replays : ∀ head ∈ journal.heads, head.stream = (market, symbol) → head.status ≠ .gap →
    ∃ checkpoint book, head.checkpointSeq = some checkpoint ∧ recorded = some book ∧
      Replays market symbol (rowsFrom journal (market, symbol) checkpoint) book
  normal : ∀ head ∈ journal.heads, head.stream = (market, symbol) → head.status = .live →
    upper (strip symbol) = symbol

section Appended

variable {market symbol : String} {journal : DepthJournal DepthPayload} {record : DepthRecord}
  {recorded : String → Option ReadOnlyOrderBook}

open DepthJournal

omit [UnicodeData] in
/-- A row of the journal after a record is an earlier one or that of the record. -/
lemma mem_events_appendRecord {e : DepthEventRow DepthPayload}
    (h : e ∈ (journal.appendRecord market record).events) :
    e ∈ journal.events ∨ e = journal.recordRow market record := by
  have hmem : e ∈ journal.events ++ [journal.recordRow market record] := by
    rw [appendRecord, appendRow] at h
    dsimp only at h
    split_ifs at h
    · exact compact_sublist.subset h
    · exact h
  exact (List.mem_append.mp hmem).imp_right List.mem_singleton.mp

omit [UnicodeData] in
/-- The rows of a stream from a checkpoint that the record does not delete. -/
lemma rowsFrom_appendRecord (checkpoint : ℕ)
    (hkeep : record.symbol = symbol → record.kind.startsReplay = true →
      journal.nextSeq ≤ checkpoint) :
    rowsFrom (journal.appendRecord market record) (market, symbol) checkpoint =
      rowsFrom journal (market, symbol) checkpoint ++
        [journal.recordRow market record].filter fun e =>
          e.stream = (market, symbol) ∧ checkpoint ≤ e.seq := by
  rw [rowsFrom, rowsFrom, ← List.filter_append, appendRecord, appendRow]
  dsimp only
  split_ifs with hstart
  · refine compact_keeps fun e he hstream => ?_
    obtain ⟨hs, hle⟩ := of_decide_eq_true he
    exact (hkeep (Prod.mk.inj (hstream.symm.trans hs)).2 hstart).trans hle
  · rfl

omit [UnicodeData] in
/-- The rows of another stream are left. -/
lemma rowsFrom_appendRecord_of_ne (hne : record.symbol ≠ symbol) (checkpoint : ℕ) :
    rowsFrom (journal.appendRecord market record) (market, symbol) checkpoint =
      rowsFrom journal (market, symbol) checkpoint := by
  have hrow : ¬ ((journal.recordRow market record).stream = (market, symbol) ∧
      checkpoint ≤ (journal.recordRow market record).seq) :=
    fun he => hne (Prod.mk.inj he.1).2
  rw [rowsFrom_appendRecord checkpoint fun heq => absurd heq hne,
    List.filter_cons_of_neg (by simpa using hrow), List.filter_nil, List.append_nil]

omit [UnicodeData] in
/-- The rows of the record's own stream end with its row. -/
lemma rowsFrom_appendRecord_self {checkpoint : ℕ} (hle : checkpoint ≤ journal.nextSeq)
    (hkeep : record.kind.startsReplay = true → journal.nextSeq ≤ checkpoint) :
    rowsFrom (journal.appendRecord market record) (market, record.symbol) checkpoint =
      rowsFrom journal (market, record.symbol) checkpoint ++
        [journal.recordRow market record] := by
  have hrow : (journal.recordRow market record).stream = (market, record.symbol) ∧
      checkpoint ≤ (journal.recordRow market record).seq := ⟨rfl, hle⟩
  rw [rowsFrom_appendRecord checkpoint fun _ => hkeep,
    List.filter_cons_of_pos (by simpa using hrow), List.filter_nil]

omit [UnicodeData] in
/-- No earlier row has the number of the record. -/
lemma rowsFrom_nextSeq (stream : DepthStream) :
    rowsFrom journal stream journal.nextSeq = [] := by
  rw [rowsFrom, List.filter_eq_nil_iff]
  intro e he hkeep
  exact absurd (of_decide_eq_true hkeep).2 (not_le.mpr (seq_lt_nextSeq he))

/-- **The head of another stream** promises what it did. -/
lemma HeadReplays.of_ne (hne : record.symbol ≠ symbol)
    (h : HeadReplays market symbol journal (recorded symbol)) :
    HeadReplays market symbol (journal.appendRecord market record)
      (noteBook recorded record symbol) := by
  have hbook : noteBook recorded record symbol = recorded symbol :=
    Function.update_of_ne (Ne.symm hne) _ _
  have hheads : ∀ head ∈ (journal.appendRecord market record).heads,
      head.stream = (market, symbol) → head ∈ journal.heads := by
    intro head hmem hstream
    rcases mem_putHead journal.unique hmem with ⟨hold, -⟩ | rfl
    · exact hold
    · exact absurd (Prod.mk.inj hstream).2 hne
  rw [hbook]
  refine ⟨fun book hknown => ?_, fun head hmem hstream e he hs => ?_,
    fun head hmem hstream hgap => ?_, fun head hmem hstream => ?_⟩
  · obtain ⟨head, hmem, hstream, hgap⟩ := h.known book hknown
    refine ⟨head, mem_putHead_of_ne hmem fun heq => ?_, hstream, hgap⟩
    exact hne (Prod.mk.inj (heq.symm.trans hstream)).2
  · rcases mem_events_appendRecord he with hold | rfl
    · exact h.latest head (hheads head hmem hstream) hstream e hold hs
    · exact absurd (Prod.mk.inj hs).2 hne
  · obtain ⟨checkpoint, book, hcheckpoint, hrecorded, hreplays⟩ :=
      h.replays head (hheads head hmem hstream) hstream hgap
    refine ⟨checkpoint, book, hcheckpoint, hrecorded, ?_⟩
    rw [rowsFrom_appendRecord_of_ne hne]
    exact hreplays
  · exact h.normal head (hheads head hmem hstream) hstream

omit [UnicodeData] in
/-- The head of the record's own stream. -/
lemma head_of_appendRecord {head : DepthHead}
    (hmem : head ∈ (journal.appendRecord market record).heads)
    (hstream : head.stream = (market, record.symbol)) :
    head.latestSeq = journal.nextSeq ∧ head.status = record.kind.status ∧
      head.checkpointSeq = (if record.kind.startsReplay then some journal.nextSeq
        else none).or (lastCheckpoint (market, record.symbol) journal.heads) := by
  rcases mem_putHead journal.unique hmem with ⟨-, hother⟩ | rfl
  · exact absurd hstream hother
  · exact ⟨rfl, rfl, rfl⟩

omit [UnicodeData] in
/-- No row of the record's own stream comes after it. -/
lemma latest_of_appendRecord {head : DepthHead}
    (hmem : head ∈ (journal.appendRecord market record).heads)
    (hstream : head.stream = (market, record.symbol)) {e : DepthEventRow DepthPayload}
    (he : e ∈ (journal.appendRecord market record).events) : e.seq ≤ head.latestSeq := by
  rw [(head_of_appendRecord hmem hstream).1]
  rcases mem_events_appendRecord he with hold | rfl
  · exact (seq_lt_nextSeq hold).le
  · exact le_rfl

/-- **After a gap** a head promises nothing, whatever the stream held. -/
lemma headReplays_of_gap (hkind : record.kind = .gap) :
    HeadReplays market record.symbol (journal.appendRecord market record) none := by
  have hgap : ∀ head ∈ (journal.appendRecord market record).heads,
      head.stream = (market, record.symbol) → head.status = .gap := by
    intro head hmem hstream
    rw [(head_of_appendRecord hmem hstream).2.1, hkind]
    rfl
  refine ⟨fun book hnone => absurd hnone nofun,
    fun head hmem hstream e he _ => latest_of_appendRecord hmem hstream he,
    fun head hmem hstream hne => absurd (hgap head hmem hstream) hne,
    fun head hmem hstream hlive => ?_⟩
  have hsame : DepthStatus.gap = .live := (hgap head hmem hstream).symm.trans hlive
  exact nomatch hsame

omit [UnicodeData] in
/-- The head of the record's own stream is there, with the status of the record. -/
lemma known_of_appendRecord (hstatus : record.kind.status ≠ .gap) :
    ∃ head ∈ (journal.appendRecord market record).heads,
      head.stream = (market, record.symbol) ∧ head.status ≠ .gap := by
  obtain ⟨head, hmem, hstream, hsame⟩ := exists_mem_putHead _ journal.heads
  exact ⟨head, hmem, hstream, hsame ▸ hstatus⟩

/-- **A snapshot or a checkpoint** is the start of the replay. -/
lemma headReplays_of_start {kind : DepthKind} {bytes : ℕ} {raw : DepthSnapshotPayload}
    {receivedAt : ℚ} {fresh book : ReadOnlyOrderBook} (hkind : kind.startsReplay = true)
    (hfresh : newDepthBook market symbol = .ok fresh)
    (happly : applyDepthSnapshot fresh raw = .ok book)
    (hnormal : kind = .checkpoint → upper (strip symbol) = symbol) :
    HeadReplays market symbol (journal.appendRecord market
      ⟨symbol, kind, .snapshot bytes raw, receivedAt, some book⟩) (some book) := by
  have hcases : kind = .snapshot ∨ kind = .checkpoint := by
    cases kind with
    | snapshot => exact Or.inl rfl
    | checkpoint => exact Or.inr rfl
    | delta => exact absurd hkind Bool.false_ne_true
    | gap => exact absurd hkind Bool.false_ne_true
  have hstatus : kind.status ≠ .gap := by
    rcases hcases with rfl | rfl <;> exact nofun
  refine ⟨fun _ _ => known_of_appendRecord hstatus,
    fun head hmem hstream e he _ => latest_of_appendRecord hmem hstream he,
    fun head hmem hstream _ => ?_, fun head hmem hstream hlive => hnormal ?_⟩
  · have hcheckpoint := (head_of_appendRecord hmem hstream).2.2
    rw [if_pos hkind, Option.some_or] at hcheckpoint
    refine ⟨_, book, hcheckpoint, rfl, fresh, journal.recordRow market
      ⟨symbol, kind, .snapshot bytes raw, receivedAt, some book⟩, [], hfresh, ?_, hkind, ?_⟩
    · rw [rowsFrom_appendRecord_self le_rfl fun _ => le_rfl, rowsFrom_nextSeq]
      rfl
    · rw [rowsFrom_appendRecord_self le_rfl fun _ => le_rfl, rowsFrom_nextSeq]
      rcases hcases with rfl | rfl <;>
        simpa [replayPayload, recordRow, row, DepthPayload.codec] using happly
  · have hlive' : kind.status = .live := (head_of_appendRecord hmem hstream).2.1.symm.trans hlive
    rcases hcases with rfl | rfl
    · exact nomatch hlive'
    · rfl

/-- **A delta** lengthens the replay by its row. -/
lemma headReplays_of_delta {bytes : ℕ} {raw : DepthEventPayload} {receivedAt : ℚ}
    {prior book : ReadOnlyOrderBook} (h : HeadReplays market symbol journal (some prior))
    (happly : applyDepthEvent prior raw market = .ok (true, book))
    (hnormal : upper (strip symbol) = symbol) :
    HeadReplays market symbol (journal.appendRecord market
      ⟨symbol, .delta, .event bytes raw, receivedAt, some book⟩) (some book) := by
  obtain ⟨old, hold, hstream, hgap⟩ := h.known prior rfl
  obtain ⟨checkpoint, _, hcheckpoint, hrecorded, fresh, first, rest, hfresh, hrows, hkind,
    hfold⟩ := h.replays old hold hstream hgap
  obtain rfl := Option.some.inj hrecorded
  have hle : checkpoint ≤ journal.nextSeq := by
    have hfirst : first ∈ rowsFrom journal (market, symbol) checkpoint :=
      hrows ▸ List.mem_cons_self
    obtain ⟨hevent, hkeep⟩ := List.mem_filter.mp hfirst
    exact (of_decide_eq_true hkeep).2.trans (seq_lt_nextSeq hevent).le
  have hdelta : DepthKind.delta.startsReplay = true → journal.nextSeq ≤ checkpoint :=
    fun hstart => absurd hstart Bool.false_ne_true
  refine ⟨fun _ _ => known_of_appendRecord nofun,
    fun head hmem hstream e he _ => latest_of_appendRecord hmem hstream he,
    fun head hmem hstream' _ => ?_, fun _ _ _ _ => hnormal⟩
  have hcheckpoint' := (head_of_appendRecord hmem hstream').2.2
  rw [← hstream, lastCheckpoint_of_mem journal.unique hold, hcheckpoint] at hcheckpoint'
  refine ⟨checkpoint, book, hcheckpoint', rfl, fresh, first, rest ++ [journal.recordRow
    market ⟨symbol, .delta, .event bytes raw, receivedAt, some book⟩], hfresh, ?_, hkind, ?_⟩
  · rw [rowsFrom_appendRecord_self hle hdelta, hrows]
    rfl
  · rw [rowsFrom_appendRecord_self hle hdelta, List.foldlM_append, hfold]
    simp [replayPayload, recordRow, row, DepthPayload.codec, happly]

/-- **One record, and the head of any stream.** -/
lemma HeadReplays.appendRecord (hrecord : Continues market recorded record)
    (h : HeadReplays market symbol journal (recorded symbol)) :
    HeadReplays market symbol (journal.appendRecord market record)
      (noteBook recorded record symbol) := by
  by_cases hne : record.symbol ≠ symbol
  · exact h.of_ne hne
  obtain rfl : record.symbol = symbol := not_not.mp hne
  have hbook : noteBook recorded record record.symbol = record.book :=
    Function.update_self _ _ _
  rw [hbook]
  cases hrecord with
  | gap => exact headReplays_of_gap rfl
  | start hkind hfresh happly hnormal => exact headReplays_of_start hkind hfresh happly hnormal
  | delta hprior happly hnormal => exact headReplays_of_delta (hprior ▸ h) happly hnormal

end Appended

/-! ### Reading a live head -/

section Live

variable {market symbol : String} {journal : DepthJournal DepthPayload} {head : DepthHead}
  {recorded : Option ReadOnlyOrderBook} {instant : ℤ} {maximumAgeSeconds : ℚ}

omit [UnicodeData] in
/-- A record that is not too large is replayed. -/
lemma foldlM_replayRecord {rows : List (DepthEventRow DepthPayload)} {fresh : ReadOnlyOrderBook}
    (hsize : ∀ row ∈ rows, DepthPayload.codec.size row.payload ≤ 16000000) :
    rows.foldlM (replayRecord DepthPayload.codec market) fresh =
      rows.foldlM (replayPayload market) fresh := by
  induction rows generalizing fresh with
  | nil => rfl
  | cons row rows ih =>
      have hrow : replayRecord DepthPayload.codec market fresh row =
          replayPayload market fresh row := by
        have hok : ¬ (16000000 < DepthPayload.codec.size row.payload ∨
            DepthPayload.codec.eof row.payload = false) :=
          not_or.mpr ⟨not_lt.mpr (hsize row List.mem_cons_self), Bool.noConfusion⟩
        rw [replayRecord, raiseIf_of_not hok]
        rfl
      rw [List.foldlM_cons, List.foldlM_cons, hrow]
      congr 1
      funext book
      exact ih fun row hrow => hsize row (List.mem_cons_of_mem _ hrow)

/-- The rows of a head are those from its checkpoint on. -/
lemma HeadReplays.rows_eq (h : HeadReplays market symbol journal recorded)
    (hmem : head ∈ journal.heads) (hstream : head.stream = (market, symbol)) {checkpoint : ℕ}
    (hcheckpoint : head.checkpointSeq = some checkpoint)
    (hcount : (journal.rows head).length ≤ 100000) :
    journal.rows head = rowsFrom journal (market, symbol) checkpoint := by
  have hfilter : (journal.events.filter fun e => e.stream = head.stream ∧
      head.checkpointSeq.any (· ≤ e.seq) ∧ e.seq ≤ head.latestSeq) =
        rowsFrom journal (market, symbol) checkpoint := by
    refine List.filter_congr fun e he => ?_
    rw [hstream, hcheckpoint, Option.any_some]
    by_cases hs : e.stream = (market, symbol)
    · simp [hs, h.latest head hmem hstream e he hs]
    · simp [hs]
  rw [DepthJournal.rows, hfilter] at hcount ⊢
  rw [List.length_take] at hcount
  exact List.take_of_length_le (by omega)

/-- **A live head is read as the book of its last record.** -/
theorem readLocalDepth_of_live (h : HeadReplays market symbol journal recorded)
    (hmarket : market ∈ depthMarkets) (hmem : head ∈ journal.heads)
    (hstream : head.stream = (market, symbol)) (hlive : head.status = .live)
    (hcount : (journal.rows head).length ≤ 100000)
    (hsize : ∀ row ∈ journal.rows head, DepthPayload.codec.size row.payload ≤ 16000000)
    (hmaximum : 0 < maximumAgeSeconds ∧ maximumAgeSeconds ≤ 60)
    (hage : 0 ≤ (instant / 1000000 - head.receivedAt : ℚ) ∧
      (instant / 1000000 - head.receivedAt : ℚ) ≤ maximumAgeSeconds) :
    ∃ book depth, recorded = some book ∧
      readLocalDepth DepthPayload.codec journal market symbol (.aware instant)
        maximumAgeSeconds = .ok depth ∧
      depth.bids = book.levels.1 ∧ depth.asks = book.levels.2 ∧
      depth.lastUpdateId = book.lastUpdateId := by
  obtain ⟨checkpoint, book, hcheckpoint, hrecorded, fresh, first, rest, hfresh, hrows, hkind,
    hfold⟩ := h.replays head hmem hstream (by rw [hlive]; exact nofun)
  have hsymbol : fresh.symbol = symbol := by
    rw [ReadOnlyOrderBook.new_symbol hfresh, h.normal head hmem hstream hlive]
  have hrows' := h.rows_eq hmem hstream hcheckpoint hcount
  have hfind : journal.heads.find? (fun h => h.stream = (market, fresh.symbol)) = some head := by
    rw [hsymbol, ← hstream]
    exact find?_of_mem journal.unique hmem
  have hstart : (journal.rows head).head?.any (fun row =>
      row.kind = .snapshot ∨ row.kind = .checkpoint) = true := by
    rw [hrows', hrows, List.head?_cons, Option.any_some]
    cases hk : first.kind <;> simp_all [DepthKind.startsReplay]
  have hquery : ¬ (market ∉ depthMarkets ∨ ¬ (0 < maximumAgeSeconds ∧ maximumAgeSeconds ≤ 60)) :=
    not_or.mpr ⟨not_not.mpr hmarket, not_not.mpr hmaximum⟩
  have hlive' : ¬ (head.status ≠ .live ∨ ¬ (0 ≤ (instant / 1000000 - head.receivedAt : ℚ) ∧
      (instant / 1000000 - head.receivedAt : ℚ) ≤ maximumAgeSeconds)) :=
    not_or.mpr ⟨not_not.mpr hlive, not_not.mpr hage⟩
  have hrowsok : ¬ ((journal.rows head).length > 100000 ∨ ¬ (journal.rows head).head?.any
      (fun row => row.kind = .snapshot ∨ row.kind = .checkpoint) = true) :=
    not_or.mpr ⟨not_lt.mpr hcount, not_not.mpr hstart⟩
  have hrun : (journal.rows head).foldlM (replayRecord DepthPayload.codec market) fresh =
      .ok book := by
    rw [foldlM_replayRecord hsize, hrows', hfold]
  refine ⟨book, ⟨(market, book.symbol), head.receivedAt, book.lastUpdateId, book.lastEventAt,
    book.levels.1, book.levels.2⟩, hrecorded, ?_, rfl, rfl, rfl⟩
  unfold readLocalDepth
  dsimp only
  rw [newDepthBook] at hfresh
  rw [raiseIf_of_not hquery, hfresh]
  simp only [ok_bind, hfind, orRaise]
  rw [raiseIf_of_not hlive', ok_bind, raiseIf_of_not hrowsok, ok_bind, hrun]
  rfl

end Live

end Replay

end Ai4Binance
