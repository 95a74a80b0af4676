/-
The journal of public depth streams (`data/market_depth.py`).

A journal keeps the records of every stream, numbered in one sequence, and for each stream a head
with its last checkpoint, its latest record and its status.  A reader replays the records between
the two through the order book.  What is no longer collected is removed when a collector starts.

* `applyDepthSnapshot`, `applyDepthEvent`: a record on the order book;
* `DepthJournal.retainStreams`: the records and heads of other streams are removed;
* `readLocalDepth`: the replay;
* `retainStreams_ok_iff`: which streams may be retained;
* `Retains`, `retain_covers_iff`: **the other streams are removed and no retained one reads
  differently, exactly when every symbol is alphanumeric in its normal form**;
* `delivery_symbol_refused`: a delivery symbol of the order book.
-/
import Ai4Binance.Exchange.OrderBook

open Check Text

namespace Ai4Binance

/-! ### Records on the order book -/

/-- The markets of `_URLS`. -/
def depthMarkets : List String := ["spot", "usd_m_futures", "coin_m_futures"]

/-- A price and a quantity, where they are finite. -/
abbrev DepthLevel : Type := Option ℚ × Option ℚ

/-- The snapshot of a response or of a checkpoint, with its numbers read: the time is an instant
in microseconds. -/
structure DepthSnapshotPayload where
  eventAt : ℤ
  lastUpdateId : ℤ
  bids : List DepthLevel
  asks : List DepthLevel
  bridged : Bool
  deriving DecidableEq

/-- An event of a depth stream, with its numbers read. -/
structure DepthEventPayload where
  e : Option String
  s : Option String
  st : Option ℤ
  firstUpdateId : ℤ
  lastUpdateId : ℤ
  eventTime : ℤ
  bids : List DepthLevel
  asks : List DepthLevel
  previousUpdateId : Option ℤ
  deriving DecidableEq

/-- `BookLevel(price, quantity)`. -/
def newBookLevel : DepthLevel → Except PyError BookLevel
  | (some price, some quantity) =>
      if h : 0 < price ∧ 0 ≤ quantity then .ok ⟨⟨price, h.1⟩, quantity, h.2⟩
      else .error (.value "book level price and quantity are invalid")
  | _ => .error (.value "book level price and quantity are invalid")

/-- `_levels`. -/
def depthLevels (raw : List DepthLevel) : Except PyError (List BookLevel) := do
  raiseIf (100000 < raw.length) (.value "invalid depth levels")
  raw.mapM newBookLevel

/-- `OrderBookSnapshot(…)`. -/
def newOrderBookSnapshot (symbol : String) (lastUpdateId observedAt : ℤ)
    (bids asks : List BookLevel) (sequenceBridged : Bool) : Except PyError OrderBookSnapshot :=
  if hid : 1 ≤ lastUpdateId.toNat ∧ isBlank symbol = false then
    if hsides : bids ≠ [] ∧ asks ≠ [] then
      .ok ⟨symbol, lastUpdateId.toNat, observedAt, bids, asks, sequenceBridged, hid.1, hid.2,
        hsides.1, hsides.2⟩
    else .error (.value "order-book snapshot must contain both sides")
  else .error (.value "order-book snapshot identity is invalid")

/-- `OrderBookDelta(…)`. -/
def newOrderBookDelta (firstUpdateId lastUpdateId eventTime : ℤ) (bids asks : List BookLevel)
    (previousUpdateId : Option ℤ) : Except PyError OrderBookDelta :=
  if h : 1 ≤ firstUpdateId.toNat ∧ firstUpdateId.toNat ≤ lastUpdateId.toNat then
    if previousUpdateId.any (· < 0) then
      .error (.value "order-book previous sequence is invalid")
    else
      .ok ⟨firstUpdateId.toNat, lastUpdateId.toNat, eventTime, bids, asks,
        previousUpdateId.map Int.toNat, h.1, h.2⟩
  else .error (.value "order-book delta sequence is invalid")

/-- `apply_depth_snapshot`. -/
def applyDepthSnapshot (book : ReadOnlyOrderBook) (raw : DepthSnapshotPayload) :
    Except PyError ReadOnlyOrderBook := do
  let bids ← depthLevels raw.bids
  let asks ← depthLevels raw.asks
  let snapshot ← newOrderBookSnapshot book.symbol raw.lastUpdateId raw.eventAt bids asks raw.bridged
  let outcome := book.applySnapshot snapshot
  let result ← outcome.2
  raiseIf (¬ result.accepted) (.value "depth snapshot failed validation")
  return outcome.1

/-- `apply_depth_event`: whether the event was new, and the book. -/
def applyDepthEvent (book : ReadOnlyOrderBook) (raw : DepthEventPayload) (market : String) :
    Except PyError (Bool × ReadOnlyOrderBook) := do
  raiseIf (raw.e ≠ some "depthUpdate" ∨ raw.s ≠ some book.symbol)
    (.value "depth event identity mismatch")
  raiseIf (market ≠ "spot" ∧ raw.st.any (· ≠ if market = "coin_m_futures" then 2 else 1))
    (.value "depth market type mismatch")
  let bids ← depthLevels raw.bids
  let asks ← depthLevels raw.asks
  let delta ← newOrderBookDelta raw.firstUpdateId raw.lastUpdateId raw.eventTime bids asks
    raw.previousUpdateId
  let outcome := book.applyDelta delta
  let result ← outcome.2
  if result.blockers = ["ORDER_BOOK_OLD_DELTA"] then return (false, outcome.1)
  raiseIf (¬ result.accepted) (.value "depth sequence or integrity gap")
  return (true, outcome.1)

/-! ### The journal -/

/-- `kind` of a record. -/
inductive DepthKind where
  | snapshot
  | checkpoint
  | delta
  | gap
  deriving DecidableEq

/-- `status` of a head. -/
inductive DepthStatus where
  | live
  | syncing
  | gap
  deriving DecidableEq

/-- A market and a symbol. -/
abbrev DepthStream : Type := String × String

/-- A row of `depth_events`. -/
structure DepthEventRow (β : Type) where
  seq : ℕ
  stream : DepthStream
  kind : DepthKind
  payload : β
  receivedAt : ℚ

/-- A row of `depth_heads`. -/
structure DepthHead where
  stream : DepthStream
  checkpointSeq : Option ℕ
  latestSeq : ℕ
  status : DepthStatus
  receivedAt : ℚ
  deriving DecidableEq

/-- The two tables, with their primary keys; records stand in the order of their numbers. -/
structure DepthJournal (β : Type) where
  events : List (DepthEventRow β)
  heads : List DepthHead
  ordered : events.Pairwise fun e f => e.seq < f.seq
  unique : (heads.map DepthHead.stream).Nodup

namespace DepthJournal

variable {β : Type} (journal : DepthJournal β)

/-- The streams that have a head or a record. -/
def streams : List DepthStream :=
  (journal.heads.map (·.stream) ++ journal.events.map (·.stream)).dedup

/-- The journal without the records and heads that a test refuses. -/
def filter (keep : DepthStream → Bool) : DepthJournal β where
  events := journal.events.filter fun e => keep e.stream
  heads := journal.heads.filter fun h => keep h.stream
  ordered := journal.ordered.filter _
  unique := (journal.unique.sublist (List.filter_sublist.map _))

/-- The numbers of removed streams, records and heads. -/
structure Retention where
  removedStreamCount : ℕ
  removedEventCount : ℕ
  removedHeadCount : ℕ
  deriving DecidableEq

/-- The deletions of `retain_streams`, with the counts of what they remove. -/
def removeStreams : List DepthStream → DepthJournal β → ℕ → ℕ → DepthJournal β × ℕ × ℕ
  | [], journal, events, heads => (journal, events, heads)
  | stream :: rest, journal, events, heads =>
      removeStreams rest (journal.filter (· ≠ stream))
        (events + (journal.events.filter fun e => e.stream = stream).length)
        (heads + (journal.heads.filter fun h => h.stream = stream).length)

/-- `str.isalnum()`. -/
def isAlnum [UnicodeData] (symbol : String) : Bool :=
  symbol ≠ "" && symbol.toList.all UnicodeData.isAlnum

/-- The check of an allowed symbol. -/
def checkSymbol [UnicodeData] (symbol : String) : Except PyError Unit :=
  raiseIf (upper (strip symbol) ≠ symbol ∨ isAlnum (upper (strip symbol)) = false)
    (.value "invalid depth retention symbol")

/-- The checks of an allowed market and of its symbols. -/
def checkMarket [UnicodeData] (entry : String × List String) : Except PyError Unit := do
  raiseIf (entry.1 ∉ depthMarkets) (.value "invalid depth retention market")
  entry.2.forM checkSymbol

/-- The allowed streams. -/
def allowedPairs (allowed : List (String × List String)) : List DepthStream :=
  allowed.flatMap fun entry => entry.2.map (entry.1, ·)

/-- `retain_streams`. -/
def retainStreams [UnicodeData] (allowed : List (String × List String)) :
    Except PyError (DepthJournal β × Retention) := do
  allowed.forM checkMarket
  let removed := (journal.streams.filter (· ∉ allowedPairs allowed)).insertionSort
    fun s t => toLex s ≤ toLex t
  let (journal', events, heads) := removeStreams removed journal 0 0
  return (journal', ⟨removed.length, events, heads⟩)

end DepthJournal

/-! ### Replay -/

/-- `zlib` and `json` on the payload of a record: the number of its bytes and whether it ends, and
what it is read as. -/
structure DepthCodec (β : Type) where
  size : β → ℕ
  eof : β → Bool
  snapshot : β → Except PyError DepthSnapshotPayload
  delta : β → Except PyError DepthEventPayload

/-- What `read_local_depth` returns. -/
structure LocalDepth where
  stream : DepthStream
  receivedAt : ℚ
  lastUpdateId : Option ℕ
  eventAt : Option ℤ
  bids : List BookLevel
  asks : List BookLevel
  deriving DecidableEq

section Replay

variable {β : Type} (codec : DepthCodec β)

/-- A record of the loop of `read_local_depth`. -/
def replayRecord (market : String) (book : ReadOnlyOrderBook) (row : DepthEventRow β) :
    Except PyError ReadOnlyOrderBook := do
  raiseIf (16000000 < codec.size row.payload ∨ codec.eof row.payload = false)
    (.value "local depth record too large or corrupt")
  match row.kind with
  | .snapshot | .checkpoint => applyDepthSnapshot book (← codec.snapshot row.payload)
  | .delta => return (← applyDepthEvent book (← codec.delta row.payload) market).2
  | .gap => throw (.value "local depth contains a gap")

/-- The rows between the checkpoint of a head and its latest record. -/
def DepthJournal.rows (journal : DepthJournal β) (head : DepthHead) : List (DepthEventRow β) :=
  (journal.events.filter fun e =>
    e.stream = head.stream ∧ head.checkpointSeq.any (· ≤ e.seq) ∧ e.seq ≤ head.latestSeq).take
      100001

/-- `read_local_depth`. -/
def readLocalDepth [UnicodeData] (journal : DepthJournal β) (market symbol : String)
    (now : Datetime) (maximumAgeSeconds : ℚ) : Except PyError LocalDepth := do
  match now with
  | .naive _ => throw (.value "invalid local depth query")
  | .aware instant =>
      raiseIf (market ∉ depthMarkets ∨ ¬ (0 < maximumAgeSeconds ∧ maximumAgeSeconds ≤ 60))
        (.value "invalid local depth query")
      let book ← ReadOnlyOrderBook.new symbol 100000 (market ≠ "spot")
      let head ← orRaise (journal.heads.find? fun h => h.stream = (market, book.symbol))
        (.value "local depth unavailable, stale, or unsynchronized")
      let age : ℚ := instant / 1000000 - head.receivedAt
      raiseIf (head.status ≠ .live ∨ ¬ (0 ≤ age ∧ age ≤ maximumAgeSeconds))
        (.value "local depth unavailable, stale, or unsynchronized")
      let rows := journal.rows head
      raiseIf (rows.length > 100000 ∨
          ¬ rows.head?.any fun row => row.kind = .snapshot ∨ row.kind = .checkpoint)
        (.value "local depth checkpoint unavailable")
      let book ← rows.foldlM (replayRecord codec market) book
      return {
        stream := (market, book.symbol)
        receivedAt := head.receivedAt
        lastUpdateId := book.lastUpdateId
        eventAt := book.lastEventAt
        bids := book.levels.1
        asks := book.levels.2 }

end Replay

/-! ### What is retained -/

namespace DepthJournal

section Filter

variable {β : Type} {journal : DepthJournal β} {keep keep' : DepthStream → Bool}

/-- Two tests that agree on the streams of a journal keep the same. -/
lemma filter_congr (h : ∀ stream ∈ journal.streams, keep stream = keep' stream) :
    journal.filter keep = journal.filter keep' := by
  have hevents : journal.events.filter (fun e => keep e.stream) =
      journal.events.filter fun e => keep' e.stream := by
    refine List.filter_congr fun e he => h _ ?_
    exact List.mem_dedup.mpr (List.mem_append_right _ (List.mem_map_of_mem he))
  have hheads : journal.heads.filter (fun e => keep e.stream) =
      journal.heads.filter fun e => keep' e.stream := by
    refine List.filter_congr fun e he => h _ ?_
    exact List.mem_dedup.mpr (List.mem_append_left _ (List.mem_map_of_mem he))
  simp only [filter, hevents, hheads]

lemma filter_filter : (journal.filter keep).filter keep' =
    journal.filter fun stream => keep' stream && keep stream := by
  simp only [filter, List.filter_filter]

/-- The deletions remove the streams they are given. -/
lemma removeStreams_fst (removed : List DepthStream) (journal : DepthJournal β)
    (events heads : ℕ) :
    (removeStreams removed journal events heads).1 = journal.filter (· ∉ removed) := by
  induction removed generalizing journal events heads with
  | nil =>
      rw [removeStreams]
      simp [filter]
  | cons stream rest ih =>
      rw [removeStreams, ih, filter_filter]
      refine filter_congr fun stream' _ => ?_
      simp only [List.mem_cons, not_or, Bool.decide_and, Bool.and_comm]

end Filter

section Retain

variable [UnicodeData] {β : Type} {journal journal' : DepthJournal β}
  {allowed : List (String × List String)} {counts : Retention}

/-- What is retained are the allowed streams. -/
lemma eq_filter_of_retainStreams (h : journal.retainStreams allowed = .ok (journal', counts)) :
    journal' = journal.filter (· ∈ allowedPairs allowed) := by
  rw [retainStreams] at h
  obtain ⟨_, -, h⟩ := bind_eq_ok.mp h
  cases h
  rw [removeStreams_fst]
  refine filter_congr fun stream hstream => ?_
  have hmem : stream ∈ (journal.streams.filter (· ∉ allowedPairs allowed)).insertionSort
      (fun s t => toLex s ≤ toLex t) ↔ stream ∉ allowedPairs allowed := by
    rw [List.mem_insertionSort, List.mem_filter]
    exact ⟨fun h => of_decide_eq_true h.2, fun h => ⟨hstream, decide_eq_true h⟩⟩
  simp only [hmem, not_not]

/-- The streams that may be retained. -/
lemma retainStreams_ok_iff : (∃ out, journal.retainStreams allowed = .ok out) ↔
    ∀ entry ∈ allowed, entry.1 ∈ depthMarkets ∧ ∀ symbol ∈ entry.2,
      upper (strip symbol) = symbol ∧ isAlnum symbol = true := by
  have hsymbol : ∀ symbol : String, checkSymbol symbol = .ok () ↔
      upper (strip symbol) = symbol ∧ isAlnum symbol = true := by
    intro symbol
    rw [checkSymbol, raiseIf_eq_ok, not_or, not_not, Bool.not_eq_false]
    exact and_congr_right fun h => by rw [h]
  have hmarket : ∀ entry : String × List String, checkMarket entry = .ok () ↔
      entry.1 ∈ depthMarkets ∧ ∀ symbol ∈ entry.2,
        upper (strip symbol) = symbol ∧ isAlnum symbol = true := by
    intro entry
    rw [checkMarket, bind_eq_ok]
    simp only [raiseIf_eq_ok, not_not, forM_eq_ok, hsymbol, exists_const]
  have hchecks : (∃ out, journal.retainStreams allowed = .ok out) ↔
      allowed.forM checkMarket = .ok () := by
    constructor
    · rintro ⟨out, h⟩
      rw [retainStreams] at h
      obtain ⟨_, hchecks, -⟩ := bind_eq_ok.mp h
      exact hchecks
    · intro h
      rw [retainStreams, h]
      exact ⟨_, rfl⟩
  rw [hchecks, forM_eq_ok]
  exact forall₂_congr fun entry _ => hmarket entry

end Retain

end DepthJournal

/-! ### What is read -/

section Read

variable [UnicodeData] {β : Type} {codec : DepthCodec β} {journal : DepthJournal β}
  {keep : DepthStream → Bool} {market symbol : String}

lemma ReadOnlyOrderBook.new_symbol {maximumLevels : ℕ} {futuresSequence : Bool}
    {book : ReadOnlyOrderBook} (h : new symbol maximumLevels futuresSequence = .ok book) :
    book.symbol = upper (strip symbol) := by
  rw [new] at h
  split_ifs at h
  exact (Except.ok.inj h).symm ▸ rfl

/-- A stream that is kept reads as before. -/
lemma readLocalDepth_filter (hkeep : keep (market, upper (strip symbol)) = true) (now : Datetime)
    (maximumAgeSeconds : ℚ) :
    readLocalDepth codec (journal.filter keep) market symbol now maximumAgeSeconds =
      readLocalDepth codec journal market symbol now maximumAgeSeconds := by
  have hhead : (journal.filter keep).heads.find?
      (fun h => h.stream = (market, upper (strip symbol))) =
      journal.heads.find? fun h => h.stream = (market, upper (strip symbol)) := by
    rw [DepthJournal.filter, List.find?_filter]
    congr 1
    funext h
    by_cases hstream : h.stream = (market, upper (strip symbol))
    · rw [hstream, hkeep]
      simp
    · simp [hstream]
  have hrows : ∀ head : DepthHead, head.stream = (market, upper (strip symbol)) →
      (journal.filter keep).rows head = journal.rows head := by
    intro head hhead
    rw [DepthJournal.rows, DepthJournal.rows, DepthJournal.filter, List.filter_filter]
    congr 1
    refine List.filter_congr fun e _ => ?_
    by_cases hstream : e.stream = head.stream
    · rw [hstream, hhead, hkeep]
      simp
    · simp [hstream]
  cases now with
  | naive wall => rfl
  | aware instant =>
      unfold readLocalDepth
      dsimp only
      cases hbook : ReadOnlyOrderBook.new symbol 100000 (market ≠ "spot") with
      | error e => rfl
      | ok book =>
          simp only [ok_bind]
          rw [ReadOnlyOrderBook.new_symbol hbook, hhead]
          cases hfind : journal.heads.find? fun h => h.stream = (market, upper (strip symbol)) with
          | none => rfl
          | some head =>
              have hstream : head.stream = (market, upper (strip symbol)) := by
                simpa using List.find?_some hfind
              simp only [orRaise, ok_bind, hrows head hstream]

end Read

/-! ### The symbols of the order book -/

section Symbols

variable [UnicodeData] {β : Type} {journal : DepthJournal β}
  {allowed : List (String × List String)}

/-- The allowed streams are retained: the records and heads of the others are removed, and no
allowed stream reads differently. -/
def Retains (journal : DepthJournal β) (allowed : List (String × List String)) : Prop :=
  ∃ journal' counts, journal.retainStreams allowed = .ok (journal', counts) ∧
    journal'.events = journal.events.filter (·.stream ∈ DepthJournal.allowedPairs allowed) ∧
    journal'.heads = journal.heads.filter (·.stream ∈ DepthJournal.allowedPairs allowed) ∧
    ∀ codec : DepthCodec β, ∀ stream ∈ DepthJournal.allowedPairs allowed,
      ∀ now maximumAgeSeconds,
        readLocalDepth codec journal' stream.1 stream.2 now maximumAgeSeconds =
          readLocalDepth codec journal stream.1 stream.2 now maximumAgeSeconds

/-- A symbol of the order book is alphanumeric unless it has a delivery suffix. -/
lemma isAlnum_iff_of_isBookSymbol {symbol : String} (h : isBookSymbol symbol = true) :
    DepthJournal.isAlnum symbol = true ↔ '_' ∉ symbol.toList := by
  simp only [isBookSymbol, Bool.and_eq_true, decide_eq_true_eq] at h
  obtain ⟨⟨⟨hlength, -⟩, hhead⟩, -⟩ := h
  have hne : symbol ≠ "" := by
    rintro rfl
    exact absurd hlength (by decide)
  rw [DepthJournal.isAlnum, Bool.and_eq_true, decide_eq_true_eq, and_iff_right hne]
  constructor
  · intro hall hmem
    have hunderscore := List.all_eq_true.mp hall '_' hmem
    rw [UnicodeData.isAlnum_ascii '_' (by decide)] at hunderscore
    exact absurd hunderscore (by decide)
  · intro hnone
    have hself : symbol.toList.takeWhile (· ≠ '_') = symbol.toList :=
      List.takeWhile_eq_self_iff.mpr fun c hc => decide_eq_true fun heq => hnone (heq ▸ hc)
    rwa [hself] at hhead

/-- A retention that is accepted retains the allowed streams. -/
lemma retains_iff_of_ok : Retains journal allowed ↔
    ∃ out, journal.retainStreams allowed = .ok out := by
  constructor
  · rintro ⟨journal', counts, h, -⟩
    exact ⟨_, h⟩
  · rintro ⟨⟨journal', counts⟩, h⟩
    obtain rfl := DepthJournal.eq_filter_of_retainStreams h
    refine ⟨_, counts, h, rfl, rfl, fun codec stream hstream now maximumAgeSeconds => ?_⟩
    refine readLocalDepth_filter ?_ now maximumAgeSeconds
    obtain ⟨entry, hentry, hpair⟩ := List.mem_flatMap.mp hstream
    obtain ⟨symbol, hsymbol, rfl⟩ := List.mem_map.mp hpair
    have hnormal := (DepthJournal.retainStreams_ok_iff.mp ⟨_, h⟩ entry hentry).2 symbol hsymbol
    rw [hnormal.1]
    exact decide_eq_true hstream

/-- **Which streams of the order book are retained.** -/
theorem retain_covers_iff (hmarkets : ∀ entry ∈ allowed, entry.1 ∈ depthMarkets)
    (hsymbols : ∀ entry ∈ allowed, ∀ symbol ∈ entry.2,
      isBookSymbol (upper (strip symbol)) = true) :
    Retains journal allowed ↔ ∀ entry ∈ allowed, ∀ symbol ∈ entry.2,
      upper (strip symbol) = symbol ∧ '_' ∉ symbol.toList := by
  rw [retains_iff_of_ok, DepthJournal.retainStreams_ok_iff]
  refine forall₂_congr fun entry hentry => ?_
  rw [and_iff_right (hmarkets entry hentry)]
  refine forall₂_congr fun symbol hsymbol => and_congr_right fun hnormal => ?_
  have hbook := hsymbols entry hentry symbol hsymbol
  rw [hnormal] at hbook
  exact isAlnum_iff_of_isBookSymbol hbook

end Symbols

/-! ### A delivery symbol -/

/-- A journal of two spot streams. -/
def twoStreams : DepthJournal Unit where
  events := [⟨1, ("spot", "BTCUSDT"), .gap, (), 0⟩, ⟨2, ("spot", "ETHUSDT"), .gap, (), 1⟩]
  heads := [⟨("spot", "BTCUSDT"), none, 1, .gap, 0⟩, ⟨("spot", "ETHUSDT"), none, 2, .gap, 1⟩]
  ordered := by decide
  unique := by decide

/-- A spot symbol is retained. -/
theorem spot_symbol_retained : Retains twoStreams [("spot", ["BTCUSDT"])] :=
  (retain_covers_iff (by decide) (by decide)).mpr (by decide)

/-- A delivery symbol that the order book accepts is refused. -/
theorem delivery_symbol_refused :
    (ReadOnlyOrderBook.new "BTCUSD_PERP" 100000 true).toOption.isSome ∧
      ¬ Retains twoStreams [("coin_m_futures", ["BTCUSD_PERP"])] := by
  refine ⟨by decide, ?_⟩
  rintro ⟨journal', counts, h, -⟩
  have hrefused : (twoStreams.retainStreams [("coin_m_futures", ["BTCUSD_PERP"])]).toOption.isNone :=
    by decide
  rw [h] at hrefused
  exact Bool.false_ne_true hrefused

end Ai4Binance
