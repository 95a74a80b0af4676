/-
The cost basis of a Spot holding (`portfolio/cost_basis.py`).

The trades of a symbol are read page by page, put into the order of their times, and folded into
a quantity at an average cost.  The rows of a page are typed; their numbers are texts.  Every
operation on an amount rounds its exact result (`Arithmetic`).

* `TradeRow.fill`, `SpotTradeFill`: the parsing of a row;
* `CostBasisService.loadTradeHistory`: the pages;
* `takeFill`, `summarize`, `CostBasisService.evaluate`: the fold and its report;
* `Answers`, `loadTradeHistory_complete`, `loadTradeHistory_limited`: what a reader of a history
  gives, whatever the limit and the order of the rows of a page;
* `SellsWhatItHolds`, `Balances`: histories that sell what they hold, and the accounts of a report;
* `cost_basis_is_correct`: **the cost basis** of a history;
* `decimal_cost_unbalanced`: rounded, the accounts of a report can be off.
-/
import Ai4Binance.Backtesting.SpotConservation
import Ai4Binance.Lib.Decimal
import Ai4Binance.Lib.Pages

open Text Check

namespace Ai4Binance

/-! ### Rows and fills -/

/-- A row of the trade history. -/
structure TradeRow where
  id : ℤ
  price : String
  qty : String
  quoteQty : String
  commission : Option String := none
  commissionAsset : String
  isBuyer : Bool
  time : ℤ
  deriving DecidableEq, Repr

/-- `SpotTradeFill`, with the checks of its constructor as fields. -/
structure SpotTradeFill where
  tradeId : ℤ
  symbol : String
  price : ℚ
  quantity : ℚ
  quoteQuantity : ℚ
  commission : ℚ
  commissionAsset : String
  isBuyer : Bool
  timeMs : ℤ
  counters_nonneg : 0 ≤ tradeId ∧ 0 ≤ timeMs
  amounts_pos : 0 < price ∧ 0 < quantity
  amounts_nonneg : 0 ≤ quoteQuantity ∧ 0 ≤ commission
  texts : symbol ≠ "" ∧ commissionAsset ≠ ""
  deriving DecidableEq

namespace TradeRow

section

variable [UnicodeData]

/-- `_decimal`. -/
def decimal (text name : String) : Except PyError ℚ :=
  match Decimal.parse text with
  | none => .error (.value (name ++ " must be decimal-compatible"))
  | some (.finite d) =>
      if d.toRat < 0 then .error (.value (name ++ " must be finite and non-negative"))
      else .ok d.toRat
  | some _ => .error (.value (name ++ " must be finite and non-negative"))

/-- `_integer`, of an integer. -/
def integer (value : ℤ) (name : String) : Except PyError ℤ :=
  if value < 0 then .error (.value (name ++ " cannot be negative")) else .ok value

/-- `_text`, of a text. -/
def text (value name : String) : Except PyError String :=
  if isBlank value then .error (.value (name ++ " must be text")) else .ok (upper (strip value))

/-- `_fill`. -/
def fill (row : TradeRow) (symbol : String) : Except PyError SpotTradeFill := do
  let tradeId ← integer row.id "id"
  let price ← decimal row.price "price"
  let quantity ← decimal row.qty "qty"
  let quoteQuantity ← decimal row.quoteQty "quoteQty"
  let commission ← decimal (row.commission.getD "0") "commission"
  let commissionAsset ← text row.commissionAsset "commissionAsset"
  let timeMs ← integer row.time "time"
  if h : (0 ≤ tradeId ∧ 0 ≤ timeMs) ∧ (0 < price ∧ 0 < quantity) ∧
      (0 ≤ quoteQuantity ∧ 0 ≤ commission) ∧ symbol ≠ "" ∧ commissionAsset ≠ "" then
    return ⟨tradeId, symbol, price, quantity, quoteQuantity, commission, commissionAsset,
      row.isBuyer, timeMs, h.1, h.2.1, h.2.2.1, h.2.2.2⟩
  else throw (.value "Spot trade fill is invalid")

/-- A fill has the id of its row. -/
lemma fill_tradeId {row : TradeRow} {symbol : String} {f : SpotTradeFill}
    (h : row.fill symbol = .ok f) : f.tradeId = row.id := by
  simp only [fill, bind_eq_ok] at h
  obtain ⟨tradeId, hid, _, -, _, -, _, -, _, -, _, -, _, -, h⟩ := h
  rw [integer] at hid
  split_ifs at hid
  split_ifs at h
  obtain rfl := pure_eq_ok.mp h
  exact (Except.ok.inj hid).symm

end

end TradeRow

/-! ### Symbols -/

/-- `_symbol`. -/
def normalizedSymbol [UnicodeData] (value : String) : Except PyError String := do
  let normalized := upper (strip value)
  raiseIf (normalized = "" ∨ ¬ normalized.toList.all fun c => c.toNat < 128 && c.isAlphanum)
    (.value "symbol must be ASCII alphanumeric")
  return normalized

/-- `_assets`: the base and the quote asset of a symbol. -/
def assets (symbol : String) : Except PyError (String × String) :=
  match ["USDT", "FDUSD", "USDC", "BTC", "ETH", "BNB"].find? fun quote =>
      quote.toList.isSuffixOf symbol.toList && decide (quote.length < symbol.length) with
  | some quote => .ok (String.ofList (symbol.toList.take (symbol.length - quote.length)), quote)
  | none => .error (.value "symbol quote asset is unsupported")

/-! ### The pages -/

/-- `CostBasisService`.  The reader answers a symbol, a first id and a limit. -/
structure CostBasisService where
  reader : String → ℤ → ℕ → List TradeRow
  maximumHistoryPages : ℕ := 10
  pages_bounds : 1 ≤ maximumHistoryPages ∧ maximumHistoryPages ≤ 100

section Load

variable [UnicodeData] (reader : String → ℤ → ℕ → List TradeRow) (symbol : String) (limit : ℕ)

/-- The loop of `_load_trade_history`, with the pages that are left. -/
def loadFrom : ℕ → ℤ → List SpotTradeFill → Except PyError (List SpotTradeFill × List String)
  | 0, _, fills => .ok (fills, ["TRADE_HISTORY_PAGE_LIMIT_REACHED"])
  | pages + 1, fromId, fills => do
      let payload := reader symbol fromId limit
      raiseIf (limit < payload.length)
        (.value "trade history page exceeds requested limit")
      let page ← payload.mapM fun row => row.fill symbol
      if page.any fun f => f.tradeId < fromId then
        return (fills, ["TRADE_HISTORY_PAGINATION_STALLED"])
      else if page.length < limit then return (fills ++ page, [])
      else
        match (page.map (·.tradeId)).max? with
        | none => throw (.value "max() iterable argument is empty")
        | some last =>
            if last + 1 ≤ fromId then
              return (fills ++ page, ["TRADE_HISTORY_PAGINATION_STALLED"])
            else loadFrom pages (last + 1) (fills ++ page)

/-- `_load_trade_history`. -/
def CostBasisService.loadTradeHistory (service : CostBasisService) :
    Except PyError (List SpotTradeFill × List String) :=
  loadFrom service.reader symbol limit service.maximumHistoryPages 0 []

end Load

/-! ### The fold -/

/-- The variables of the loop of `evaluate`. -/
structure CostState where
  quantity : ℚ := 0
  cost : ℚ := 0
  realized : ℚ := 0
  quoteFees : ℚ := 0
  blockers : List String
  seen : List ℤ := []
  deriving DecidableEq, Repr

/-- The commission of a fill in an asset. -/
def SpotTradeFill.feeIn (f : SpotTradeFill) (asset : String) : ℚ :=
  if f.commissionAsset = asset then f.commission else 0

section Fold

variable (a : Arithmetic) (base quote : String)

/-- A purchase. -/
def CostState.buy (s : CostState) (f : SpotTradeFill) : CostState :=
  let acquired := a.sub f.quantity (f.feeIn base)
  if acquired ≤ 0 then
    { s with blockers := s.blockers ++ ["INVALID_NET_ACQUIRED_QUANTITY"] }
  else
    { s with
      quantity := a.add s.quantity acquired
      cost := a.add s.cost (a.add f.quoteQuantity (f.feeIn quote)) }

/-- A sale of a quantity, as far as the inventory has it. -/
def CostState.dispose (s : CostState) (f : SpotTradeFill) (disposed : ℚ) : CostState :=
  if disposed ≤ 0 then s
  else
    let average := if 0 < s.quantity then a.div s.cost s.quantity else 0
    let proceeds := a.sub f.quoteQuantity (f.feeIn quote)
    { s with
      realized := a.add s.realized (a.sub proceeds (a.mul average disposed))
      quantity := a.sub s.quantity disposed
      cost := a.sub s.cost (a.mul average disposed) }

/-- A sale. -/
def CostState.sell (s : CostState) (f : SpotTradeFill) : CostState :=
  let disposed := a.add f.quantity (f.feeIn base)
  if s.quantity < disposed then
    CostState.dispose a quote
      { s with blockers := s.blockers ++ ["SELL_EXCEEDS_RECONSTRUCTED_INVENTORY"] } f s.quantity
  else s.dispose a quote f disposed

/-- A fill seen for the first time, with its fee. -/
def CostState.meet (s : CostState) (f : SpotTradeFill) : CostState :=
  { s with
    seen := f.tradeId :: s.seen
    blockers := s.blockers ++
      if 0 < f.commission ∧ f.commissionAsset ≠ base ∧ f.commissionAsset ≠ quote then
        ["TRADE_FEE_CONVERSION_UNAVAILABLE"] else []
    quoteFees := a.add s.quoteFees (f.feeIn quote) }

/-- One pass of the loop of `evaluate`. -/
def takeFill (s : CostState) (f : SpotTradeFill) : CostState :=
  if f.tradeId ∈ s.seen then { s with blockers := s.blockers ++ ["DUPLICATE_TRADE_ID"] }
  else if f.isBuyer then (s.meet a base quote f).buy a base quote f
  else (s.meet a base quote f).sell a base quote f

end Fold

/-- The fills in the order of their times, and of their ids at one time. -/
def inOrder (fills : List SpotTradeFill) : List SpotTradeFill :=
  fills.mergeSort fun f g => f.timeMs < g.timeMs ∨ f.timeMs = g.timeMs ∧ f.tradeId ≤ g.tradeId

/-- `CostBasisReport`. -/
structure CostBasisReport where
  symbol : String
  baseAsset : String
  quoteAsset : String
  quantity : ℚ
  averageCostQuote : Option ℚ
  realizedPnlQuote : ℚ
  quoteFees : ℚ
  tradeCount : ℕ
  blockers : List String
  deriving DecidableEq, Repr

/-- `CostBasisReport(…)`. -/
def CostBasisReport.create (r : CostBasisReport) : Except PyError CostBasisReport := do
  raiseIf (r.symbol = "" ∨ r.baseAsset = "" ∨ r.quoteAsset = "" ∨ r.quantity < 0)
    (.value "cost basis report is invalid")
  raiseIf (r.averageCostQuote.any (· < 0)) (.value "average cost is invalid")
  return r

section Evaluate

variable (a : Arithmetic)

/-- The part of `evaluate` after the history is read. -/
def summarize (symbol base quote : String) (walletQuantity : ℚ) (fills : List SpotTradeFill)
    (historyBlockers : List String) : Except PyError CostBasisReport :=
  let ordered := inOrder fills
  let s := ordered.foldl (takeFill a base quote) { blockers := historyBlockers }
  CostBasisReport.create
    { symbol
      baseAsset := base
      quoteAsset := quote
      quantity := s.quantity
      averageCostQuote := if 0 < s.quantity then some (a.div s.cost s.quantity) else none
      realizedPnlQuote := s.realized
      quoteFees := s.quoteFees
      tradeCount := ordered.length
      blockers := (s.blockers ++
        (if 1 / 10 ^ 8 < |a.sub s.quantity walletQuantity| then
          ["WALLET_TRADE_HISTORY_QUANTITY_MISMATCH"] else []) ++
        (if ordered = [] then ["TRADE_HISTORY_UNAVAILABLE"] else [])).eraseDups }

/-- `evaluate`. -/
def CostBasisService.evaluate [UnicodeData] (service : CostBasisService) (symbol : String)
    (walletQuantity : ℚ) (limit : ℕ) : Except PyError CostBasisReport := do
  let normalized ← normalizedSymbol symbol
  let (base, quote) ← assets normalized
  raiseIf (walletQuantity < 0) (.value "wallet quantity must be finite and non-negative")
  raiseIf (limit < 1 ∨ 1000 < limit) (.value "trade history limit must be between 1 and 1000")
  let (fills, historyBlockers) ← service.loadTradeHistory normalized limit
  summarize a normalized base quote walletQuantity fills historyBlockers

end Evaluate

/-! ### Readers of a history -/

/-- The reader answers with the first rows of the history whose ids are at least the one asked
for, in any order. -/
def Answers (reader : String → ℤ → ℕ → List TradeRow) (symbol : String)
    (history : List TradeRow) : Prop :=
  ∀ fromId limit, (reader symbol fromId limit).Perm (Pages.page (·.id) history fromId limit)

section Pagination

variable [UnicodeData] {reader : String → ℤ → ℕ → List TradeRow} {symbol : String}
  {history done rest : List TradeRow} {fillOf : TradeRow → SpotTradeFill} {fromId : ℤ}
  {limit : ℕ} {fills : List SpotTradeFill}

/-- Rows that are parsed one by one. -/
lemma mapM_fill {rows : List TradeRow}
    (h : ∀ row ∈ rows, row.fill symbol = .ok (fillOf row)) :
    rows.mapM (fun row => row.fill symbol) = .ok (rows.map fillOf) := by
  rw [mapM_eq_ok, List.forall₂_map_right_iff, List.forall₂_same]
  exact h

variable (limit) in
/-- One page of a history: the fills of its rows, each at or after the cursor. -/
lemma readPage (hanswers : Answers reader symbol history)
    (hparsed : ∀ row ∈ history, row.fill symbol = .ok (fillOf row))
    (hsplit : Pages.Split (·.id) history done rest fromId) :
    ∃ page, (reader symbol fromId limit).mapM (fun row => row.fill symbol) = .ok page ∧
      page.Perm ((rest.take limit).map fillOf) ∧
      (reader symbol fromId limit).length = min limit rest.length ∧
      (∀ f ∈ page, fromId ≤ f.tradeId) ∧
      (page.map (·.tradeId)).Perm ((rest.take limit).map (·.id)) := by
  have hpage := hanswers fromId limit
  rw [hsplit.page_eq] at hpage
  have hrest : ∀ row ∈ rest, row ∈ history := by
    intro row hrow
    rw [← (Pages.ordered_perm (·.id) history).mem_iff, hsplit.append]
    exact List.mem_append_right _ hrow
  have hids : ∀ row ∈ rest, (fillOf row).tradeId = row.id := fun row hrow =>
    TradeRow.fill_tradeId (hparsed row (hrest row hrow))
  have hmem : ∀ row ∈ reader symbol fromId limit, row ∈ rest := fun row hrow =>
    List.mem_of_mem_take (hpage.mem_iff.mp hrow)
  refine ⟨_, mapM_fill fun row hrow => hparsed row (hrest row (hmem row hrow)), hpage.map fillOf,
    ?_, ?_, ?_⟩
  · rw [hpage.length_eq, List.length_take]
  · intro f hf
    obtain ⟨row, hrow, rfl⟩ := List.mem_map.mp hf
    rw [hids row (hmem row hrow)]
    exact hsplit.after row (hmem row hrow)
  · rw [List.map_map]
    refine (hpage.map _).trans (.of_eq (List.map_congr_left fun row hrow => ?_))
    exact hids row (List.mem_of_mem_take hrow)

/-- **The pages of a history.**  With enough pages all of the rows are read; without, the limit
is reported. -/
lemma loadFrom_eq (hanswers : Answers reader symbol history)
    (hparsed : ∀ row ∈ history, row.fill symbol = .ok (fillOf row))
    (hkeys : (history.map (·.id)).Nodup) (hlimit : 1 ≤ limit) (pages : ℕ)
    (hsplit : Pages.Split (·.id) history done rest fromId)
    (hfills : fills.Perm (done.map fillOf)) :
    ∃ read, loadFrom reader symbol limit pages fromId fills =
        .ok (read, if rest.length < limit * pages then []
          else ["TRADE_HISTORY_PAGE_LIMIT_REACHED"]) ∧
      (rest.length < limit * pages → read.Perm ((done ++ rest).map fillOf)) := by
  induction pages generalizing done rest fromId fills with
  | zero => exact ⟨fills, by simp [loadFrom], by simp⟩
  | succ pages ih =>
      obtain ⟨page, hread, hperm, hlength, hfrom, hids⟩ := readPage limit hanswers hparsed hsplit
      have hpage : page.length = min limit rest.length := by
        rw [hperm.length_eq, List.length_map, List.length_take]
      have hnotstalled : ¬ (page.any fun f => f.tradeId < fromId) = true := by
        simp only [List.any_eq_true, decide_eq_true_eq, not_exists, not_and, not_lt]
        exact hfrom
      have hall : (fills ++ page).Perm ((done ++ rest.take limit).map fillOf) := by
        rw [List.map_append]
        exact hfills.append hperm
      rw [loadFrom]
      simp only [raiseIf_of_not (not_lt.mpr (hlength.trans_le (min_le_left _ _))), ok_bind, hread,
        if_neg hnotstalled]
      by_cases hlast : rest.length < limit
      · -- the page is short: it is the last
        have hshort : page.length < limit := by omega
        have henough : rest.length < limit * (pages + 1) := by
          rw [Nat.mul_succ]
          omega
        rw [if_pos hshort, if_pos henough]
        rw [List.take_of_length_le hlast.le] at hall
        exact ⟨_, rfl, fun _ => hall⟩
      · have hfull : ¬ page.length < limit := by omega
        have hsome : ∃ last, ((rest.take limit).map (·.id)).max? = some last := by
          rw [← Option.isSome_iff_exists, List.isSome_max?_iff]
          intro hnil
          have hzero := congrArg List.length hnil
          rw [List.length_map, List.length_take, List.length_nil] at hzero
          omega
        obtain ⟨last, hmax⟩ := hsome
        obtain ⟨hnext, hcursor⟩ := hsplit.next hkeys hmax
        have hmax' : (page.map (·.tradeId)).max? = some last := by
          rw [List.max?_eq_some_iff] at hmax ⊢
          exact ⟨hids.mem_iff.mpr hmax.1, fun b hb => hmax.2 b (hids.mem_iff.mp hb)⟩
        rw [if_neg hfull, hmax']
        simp only [if_neg (show ¬ last + 1 ≤ fromId by omega)]
        obtain ⟨read, hloaded, hcomplete⟩ := ih hnext hall
        have hcount : (rest.drop limit).length < limit * pages ↔
            rest.length < limit * (pages + 1) := by
          rw [List.length_drop, Nat.mul_succ]
          omega
        rw [List.append_assoc, List.take_append_drop, hcount] at hcomplete
        simp only [hcount] at hloaded
        exact ⟨read, hloaded, hcomplete⟩

/-- The history that a service reads: all of it, or the report of the limit. -/
lemma loadTradeHistory_eq {service : CostBasisService}
    (hanswers : Answers service.reader symbol history)
    (hparsed : ∀ row ∈ history, row.fill symbol = .ok (fillOf row))
    (hkeys : (history.map (·.id)).Nodup) (hlimit : 1 ≤ limit) :
    ∃ read, service.loadTradeHistory symbol limit =
        .ok (read, if history.length < limit * service.maximumHistoryPages then []
          else ["TRADE_HISTORY_PAGE_LIMIT_REACHED"]) ∧
      (history.length < limit * service.maximumHistoryPages →
        read.Perm (history.map fillOf)) := by
  have hnonneg : ∀ row ∈ history, 0 ≤ row.id := fun row hrow =>
    TradeRow.fill_tradeId (hparsed row hrow) ▸ (fillOf row).counters_nonneg.1
  have hperm := Pages.ordered_perm (·.id) history
  obtain ⟨read, hread, hall⟩ := loadFrom_eq hanswers hparsed hkeys hlimit
    service.maximumHistoryPages (Pages.split_start hnonneg) (List.Perm.refl [])
  rw [hperm.length_eq] at hread hall
  exact ⟨read, hread, fun h => (hall h).trans (hperm.map fillOf)⟩

/-- The rows of a history have fills with the ids of the rows. -/
lemma nodup_tradeId (hparsed : ∀ row ∈ history, row.fill symbol = .ok (fillOf row))
    (hkeys : (history.map (·.id)).Nodup) : ((history.map fillOf).map (·.tradeId)).Nodup := by
  have hids : history.map (fun row => (fillOf row).tradeId) = history.map (·.id) :=
    List.map_congr_left fun row hrow => TradeRow.fill_tradeId (hparsed row hrow)
  rw [List.map_map]
  exact hids ▸ hkeys

end Pagination

/-! ### The order of the fills -/

section Order

variable {fills fills' : List SpotTradeFill}

/-- Fills with distinct ids have one order. -/
lemma inOrder_congr (h : fills.Perm fills') (hids : (fills.map (·.tradeId)).Nodup) :
    inOrder fills = inOrder fills' := by
  refine Pages.sorted_congr h ?_ ?_ fun f hf g hg hfg hgf => ?_
  · intro f g k hfg hgk
    simp only [decide_eq_true_eq] at hfg hgk ⊢
    omega
  · intro f g
    simp only [Bool.or_eq_true, decide_eq_true_eq]
    omega
  · simp only [decide_eq_true_eq] at hfg hgf
    exact List.inj_on_of_nodup_map hids hf hg (by omega)

lemma inOrder_perm (fills : List SpotTradeFill) : (inOrder fills).Perm fills :=
  List.mergeSort_perm _ _

/-- A report depends on the fills alone, not on the order in which they were read. -/
lemma summarize_congr (h : fills.Perm fills') (hids : (fills.map (·.tradeId)).Nodup)
    (a : Arithmetic) (symbol base quote : String) (walletQuantity : ℚ)
    (historyBlockers : List String) :
    summarize a symbol base quote walletQuantity fills historyBlockers =
      summarize a symbol base quote walletQuantity fills' historyBlockers := by
  rw [summarize, summarize, inOrder_congr h hids]

end Order

/-! ### What a report says -/

section Report

variable {a : Arithmetic} {base quote symbol : String} {walletQuantity : ℚ}
  {fills : List SpotTradeFill} {historyBlockers : List String} {s : CostState} {f : SpotTradeFill}

lemma dispose_blockers (disposed : ℚ) : (s.dispose a quote f disposed).blockers = s.blockers := by
  by_cases h : disposed ≤ 0
  · rw [CostState.dispose, if_pos h]
  · rw [CostState.dispose, if_neg h]

/-- The blockers of the loop only grow. -/
lemma takeFill_blockers {blocker : String} (hmem : blocker ∈ s.blockers) :
    blocker ∈ (takeFill a base quote s f).blockers := by
  have hmeet : blocker ∈ (s.meet a base quote f).blockers := List.mem_append_left _ hmem
  rw [takeFill]
  split_ifs
  · exact List.mem_append_left _ hmem
  · by_cases h : a.sub f.quantity (f.feeIn base) ≤ 0
    · rw [CostState.buy, if_pos h]
      exact List.mem_append_left _ hmeet
    · rw [CostState.buy, if_neg h]
      exact hmeet
  · by_cases h : (s.meet a base quote f).quantity < a.add f.quantity (f.feeIn base)
    · rw [CostState.sell, if_pos h, dispose_blockers]
      exact List.mem_append_left _ hmeet
    · rw [CostState.sell, if_neg h, dispose_blockers]
      exact hmeet

lemma foldl_blockers {blocker : String} (hmem : blocker ∈ s.blockers)
    (fills : List SpotTradeFill) :
    blocker ∈ (fills.foldl (takeFill a base quote) s).blockers := by
  induction fills generalizing s with
  | nil => exact hmem
  | cons f fills ih => exact ih (takeFill_blockers hmem)

/-- A report names what blocked its history. -/
lemma summarize_blockers {r : CostBasisReport}
    (h : summarize a symbol base quote walletQuantity fills historyBlockers = .ok r) :
    ∀ blocker ∈ historyBlockers, blocker ∈ r.blockers := by
  simp only [summarize, CostBasisReport.create, bind_eq_ok, pure_eq_ok] at h
  obtain ⟨_, -, _, -, rfl⟩ := h
  intro blocker hmem
  rw [List.mem_eraseDups]
  exact List.mem_append_left _ (List.mem_append_left _ (foldl_blockers hmem _))

end Report

/-! ### The accounts in exact arithmetic -/

/-- Neither the quantity nor its cost is negative. -/
structure CostState.Solvent (s : CostState) : Prop where
  quantity_nonneg : 0 ≤ s.quantity
  cost_nonneg : 0 ≤ s.cost

/-- Histories, from an inventory on, in which every purchase acquires something and no sale is
of more than the inventory. -/
def SellsWhatItHolds (base : String) : ℚ → List SpotTradeFill → Prop
  | _, [] => True
  | inventory, f :: fills =>
      if f.isBuyer then
        0 < f.quantity - f.feeIn base ∧ SellsWhatItHolds base (inventory + (f.quantity - f.feeIn base)) fills
      else
        f.quantity + f.feeIn base ≤ inventory ∧
          SellsWhatItHolds base (inventory - (f.quantity + f.feeIn base)) fills

instance decidableSellsWhatItHolds (base : String) :
    (inventory : ℚ) → (fills : List SpotTradeFill) → Decidable (SellsWhatItHolds base inventory fills)
  | _, [] => isTrue trivial
  | inventory, f :: fills =>
      haveI := decidableSellsWhatItHolds base (inventory + (f.quantity - f.feeIn base)) fills
      haveI := decidableSellsWhatItHolds base (inventory - (f.quantity + f.feeIn base)) fills
      inferInstanceAs (Decidable (if f.isBuyer then _ ∧ _ else _ ∧ _))

/-- The cash of a fill: the quote amount, net of the fee in the quote asset. -/
def SpotTradeFill.cash (quote : String) (f : SpotTradeFill) : ℚ :=
  if f.isBuyer then -(f.quoteQuantity + f.feeIn quote) else f.quoteQuantity - f.feeIn quote

/-- The accounts of a report: the realized PnL less the cost of what remains is what the sales
brought in less what the purchases took. -/
def Balances (quote : String) (fills : List SpotTradeFill) (r : CostBasisReport) : Prop :=
  r.realizedPnlQuote - r.averageCostQuote.getD 0 * r.quantity =
    ((fills.filter fun f => !f.isBuyer).map fun f => f.quoteQuantity - f.feeIn quote).sum -
      ((fills.filter fun f => f.isBuyer).map fun f => f.quoteQuantity + f.feeIn quote).sum

instance (quote : String) (fills : List SpotTradeFill) (r : CostBasisReport) :
    Decidable (Balances quote fills r) :=
  inferInstanceAs (Decidable (_ = _))

lemma sum_cash (quote : String) (fills : List SpotTradeFill) :
    (fills.map (·.cash quote)).sum =
      ((fills.filter fun f => !f.isBuyer).map fun f => f.quoteQuantity - f.feeIn quote).sum -
        ((fills.filter fun f => f.isBuyer).map fun f => f.quoteQuantity + f.feeIn quote).sum := by
  induction fills with
  | nil => simp
  | cons f fills ih =>
      rw [List.map_cons, List.sum_cons, ih, SpotTradeFill.cash]
      cases hbuyer : f.isBuyer with
      | true =>
          simp only [List.filter_cons, hbuyer, Bool.not_true, Bool.false_eq_true, if_false, if_true,
            List.map_cons, List.sum_cons]
          ring
      | false =>
          simp only [List.filter_cons, hbuyer, Bool.not_false, Bool.false_eq_true, if_false,
            if_true, List.map_cons, List.sum_cons]
          ring

section Exact

variable {base quote : String} {s : CostState} {f : SpotTradeFill}

lemma feeIn_nonneg (f : SpotTradeFill) (asset : String) : 0 ≤ f.feeIn asset := by
  rw [SpotTradeFill.feeIn]
  split_ifs
  · exact f.amounts_nonneg.2
  · exact le_rfl

/-- The cost of a quantity at the average cost is at most the cost of all. -/
lemma average_mul_le (h : s.Solvent) {disposed : ℚ} (hle : disposed ≤ s.quantity)
    (hpos : 0 < disposed) : s.cost / s.quantity * disposed ≤ s.cost := by
  have hquantity := hpos.trans_le hle
  rw [div_mul_eq_mul_div, div_le_iff₀ hquantity]
  exact mul_le_mul_of_nonneg_left hle h.cost_nonneg

lemma CostState.Solvent.dispose (h : s.Solvent) {disposed : ℚ} (hle : disposed ≤ s.quantity) :
    (s.dispose .exact quote f disposed).Solvent := by
  by_cases hnone : disposed ≤ 0
  · rwa [CostState.dispose, if_pos hnone]
  · have hpos := not_le.mp hnone
    rw [CostState.dispose, if_neg hnone]
    refine ⟨sub_nonneg.mpr hle, ?_⟩
    simp only [if_pos (hpos.trans_le hle), Arithmetic.exact_sub, Arithmetic.exact_mul,
      Arithmetic.exact_div]
    exact sub_nonneg.mpr (average_mul_le h hle hpos)

/-- A fill keeps the quantity and its cost above zero. -/
lemma CostState.Solvent.takeFill (h : s.Solvent) :
    (takeFill .exact base quote s f).Solvent := by
  have hmeet : (s.meet .exact base quote f).Solvent := ⟨h.quantity_nonneg, h.cost_nonneg⟩
  rw [Ai4Binance.takeFill]
  split_ifs
  · exact ⟨h.quantity_nonneg, h.cost_nonneg⟩
  · by_cases hnone : Arithmetic.exact.sub f.quantity (f.feeIn base) ≤ 0
    · rw [CostState.buy, if_pos hnone]
      exact ⟨h.quantity_nonneg, h.cost_nonneg⟩
    · rw [CostState.buy, if_neg hnone]
      exact ⟨add_nonneg h.quantity_nonneg (not_le.mp hnone).le,
        add_nonneg h.cost_nonneg (add_nonneg f.amounts_nonneg.1 (feeIn_nonneg f quote))⟩
  · by_cases hmore : (s.meet .exact base quote f).quantity <
        Arithmetic.exact.add f.quantity (f.feeIn base)
    · have hblocked : CostState.Solvent { s.meet .exact base quote f with
          blockers := (s.meet .exact base quote f).blockers ++
            ["SELL_EXCEEDS_RECONSTRUCTED_INVENTORY"] } := ⟨h.quantity_nonneg, h.cost_nonneg⟩
      rw [CostState.sell, if_pos hmore]
      exact hblocked.dispose le_rfl
    · rw [CostState.sell, if_neg hmore]
      exact hmeet.dispose (not_lt.mp hmore)

variable (base quote) in
lemma solvent_foldl (h : s.Solvent) (fills : List SpotTradeFill) :
    (fills.foldl (takeFill .exact base quote) s).Solvent := by
  induction fills generalizing s with
  | nil => exact h
  | cons f fills ih => exact ih h.takeFill

/-- The state of the loop in a regular history: an empty inventory has no cost. -/
structure CostState.Stocked (s : CostState) (inventory : ℚ) : Prop extends s.Solvent where
  quantity_eq : s.quantity = inventory
  empty : s.quantity = 0 → s.cost = 0

variable (quote) in
/-- A purchase that acquires something puts its cash into the cost. -/
lemma takeFill_buy {inventory : ℚ} (h : s.Stocked inventory) (hnew : f.tradeId ∉ s.seen)
    (hbuyer : f.isBuyer) (hacquired : 0 < f.quantity - f.feeIn base) :
    (takeFill .exact base quote s f).Stocked (inventory + (f.quantity - f.feeIn base)) ∧
      (takeFill .exact base quote s f).realized - (takeFill .exact base quote s f).cost =
        s.realized - s.cost + f.cash quote := by
  have hsolvent : (takeFill .exact base quote s f).Solvent := h.toSolvent.takeFill
  have hrun : takeFill .exact base quote s f =
      { s.meet .exact base quote f with
        quantity := s.quantity + (f.quantity - f.feeIn base)
        cost := s.cost + (f.quoteQuantity + f.feeIn quote) } := by
    rw [takeFill, if_neg hnew, if_pos hbuyer, CostState.buy, Arithmetic.exact_sub,
      if_neg (not_le.mpr hacquired)]
    rfl
  refine ⟨⟨hsolvent, ?_, fun hzero => ?_⟩, ?_⟩
  · rw [hrun, ← h.quantity_eq]
  · rw [hrun] at hzero
    exact absurd hzero (add_pos_of_nonneg_of_pos h.quantity_nonneg hacquired).ne'
  · rw [hrun, SpotTradeFill.cash, if_pos hbuyer]
    change s.realized - (s.cost + (f.quoteQuantity + f.feeIn quote)) = _
    ring

variable (quote) in
/-- A sale of what the inventory has realizes its cash less the average cost. -/
lemma takeFill_sell {inventory : ℚ} (h : s.Stocked inventory) (hnew : f.tradeId ∉ s.seen)
    (hseller : ¬ f.isBuyer) (hheld : f.quantity + f.feeIn base ≤ inventory) :
    (takeFill .exact base quote s f).Stocked (inventory - (f.quantity + f.feeIn base)) ∧
      (takeFill .exact base quote s f).realized - (takeFill .exact base quote s f).cost =
        s.realized - s.cost + f.cash quote := by
  have hsolvent : (takeFill .exact base quote s f).Solvent := h.toSolvent.takeFill
  have hpos : 0 < f.quantity + f.feeIn base :=
    add_pos_of_pos_of_nonneg f.amounts_pos.2 (feeIn_nonneg f base)
  have hle : f.quantity + f.feeIn base ≤ s.quantity := h.quantity_eq ▸ hheld
  have hquantity : 0 < s.quantity := hpos.trans_le hle
  have hrun : takeFill .exact base quote s f =
      { s.meet .exact base quote f with
        realized := s.realized + (f.quoteQuantity - f.feeIn quote -
          s.cost / s.quantity * (f.quantity + f.feeIn base))
        quantity := s.quantity - (f.quantity + f.feeIn base)
        cost := s.cost - s.cost / s.quantity * (f.quantity + f.feeIn base) } := by
    have hmeet : (s.meet .exact base quote f).quantity = s.quantity := rfl
    rw [takeFill, if_neg hnew, if_neg hseller, CostState.sell, hmeet, Arithmetic.exact_add,
      if_neg (not_lt.mpr hle), CostState.dispose, if_neg (not_le.mpr hpos), hmeet]
    simp only [if_pos hquantity]
    rfl
  refine ⟨⟨hsolvent, ?_, fun hzero => ?_⟩, ?_⟩
  · rw [hrun, ← h.quantity_eq]
  · rw [hrun] at hzero ⊢
    have hall : f.quantity + f.feeIn base = s.quantity := (sub_eq_zero.mp hzero).symm
    change s.cost - s.cost / s.quantity * (f.quantity + f.feeIn base) = 0
    rw [hall, div_mul_cancel₀ _ hquantity.ne', sub_self]
  · rw [hrun, SpotTradeFill.cash, if_neg hseller]
    change s.realized + (f.quoteQuantity - f.feeIn quote -
      s.cost / s.quantity * (f.quantity + f.feeIn base)) -
        (s.cost - s.cost / s.quantity * (f.quantity + f.feeIn base)) = _
    ring

lemma takeFill_seen (a : Arithmetic) :
    (takeFill a base quote s f).seen ⊆ f.tradeId :: s.seen := by
  rw [takeFill]
  split_ifs with hseen
  · exact List.subset_cons_self _ _
  · by_cases h : a.sub f.quantity (f.feeIn base) ≤ 0
    · rw [CostState.buy, if_pos h]
      exact List.Subset.refl _
    · rw [CostState.buy, if_neg h]
      exact List.Subset.refl _
  · have hdispose : ∀ (t : CostState) (disposed : ℚ),
        (t.dispose a quote f disposed).seen = t.seen := by
      intro t disposed
      by_cases h : disposed ≤ 0
      · rw [CostState.dispose, if_pos h]
      · rw [CostState.dispose, if_neg h]
    by_cases h : (s.meet a base quote f).quantity < a.add f.quantity (f.feeIn base)
    · rw [CostState.sell, if_pos h, hdispose]
      exact List.Subset.refl _
    · rw [CostState.sell, if_neg h, hdispose]
      exact List.Subset.refl _

variable (quote) in
/-- **The loop over a regular history** moves the cash of every fill between the realized PnL
and the cost. -/
lemma foldl_regular {fills : List SpotTradeFill} {inventory : ℚ} (h : s.Stocked inventory)
    (hregular : SellsWhatItHolds base inventory fills) (hids : (fills.map (·.tradeId)).Nodup)
    (hnew : ∀ f ∈ fills, f.tradeId ∉ s.seen) :
    (∃ left, (fills.foldl (takeFill .exact base quote) s).Stocked left) ∧
      (fills.foldl (takeFill .exact base quote) s).realized -
          (fills.foldl (takeFill .exact base quote) s).cost =
        s.realized - s.cost + (fills.map (·.cash quote)).sum := by
  induction fills generalizing s inventory with
  | nil => exact ⟨⟨inventory, h⟩, by simp⟩
  | cons f fills ih =>
      rw [List.map_cons, List.nodup_cons] at hids
      have hfresh := hnew f List.mem_cons_self
      have hrest : ∀ g ∈ fills, g.tradeId ∉ (takeFill .exact base quote s f).seen := by
        intro g hg hseen
        rcases List.mem_cons.mp (takeFill_seen .exact hseen) with heq | hseen
        · exact hids.1 (heq ▸ List.mem_map_of_mem hg)
        · exact hnew g (List.mem_cons_of_mem _ hg) hseen
      rw [List.foldl_cons, List.map_cons, List.sum_cons]
      rw [SellsWhatItHolds] at hregular
      by_cases hbuyer : f.isBuyer
      · rw [if_pos hbuyer] at hregular
        obtain ⟨hstocked, hcash⟩ := takeFill_buy quote h hfresh hbuyer hregular.1
        obtain ⟨hleft, hsum⟩ := ih hstocked hregular.2 hids.2 hrest
        exact ⟨hleft, by rw [hsum, hcash]; ring⟩
      · rw [if_neg hbuyer] at hregular
        obtain ⟨hstocked, hcash⟩ := takeFill_sell quote h hfresh hbuyer hregular.1
        obtain ⟨hleft, hsum⟩ := ih hstocked hregular.2 hids.2 hrest
        exact ⟨hleft, by rw [hsum, hcash]; ring⟩

end Exact

/-! ### The report of a history -/

/-- The assets of a symbol are named. -/
lemma assets_named {symbol base quote : String} (h : assets symbol = .ok (base, quote)) :
    symbol ≠ "" ∧ base ≠ "" ∧ quote ≠ "" := by
  rw [assets] at h
  split at h
  · next found hfound =>
    obtain ⟨hbase, rfl⟩ := Prod.mk.inj (Except.ok.inj h)
    have hsuffix := List.find?_some hfound
    have hquote := List.mem_of_find?_eq_some hfound
    simp only [Bool.and_eq_true, decide_eq_true_eq] at hsuffix
    have hlength : 0 < symbol.length := by omega
    refine ⟨?_, ?_, ?_⟩
    · rintro rfl
      exact absurd hlength (lt_irrefl _)
    · rintro rfl
      have hnil := congrArg String.toList hbase
      rw [String.toList_ofList] at hnil
      have hzero := congrArg List.length hnil
      rw [List.length_take, String.length_toList] at hzero
      simp only [String.toList_empty, List.length_nil] at hzero
      omega
    · rintro rfl
      exact absurd hquote (by decide)
  · exact absurd h nofun

section History

variable {symbol base quote : String}

/-- In exact arithmetic every history is reported, and a regular one with accounts that
balance. -/
lemma summarize_ok (walletQuantity : ℚ) (fills : List SpotTradeFill) (hnamed : symbol ≠ "" ∧ base ≠ "" ∧ quote ≠ "")
    (historyBlockers : List String) :
    ∃ r, summarize .exact symbol base quote walletQuantity fills historyBlockers = .ok r ∧
      ((fills.map (·.tradeId)).Nodup → SellsWhatItHolds base 0 (inOrder fills) → Balances quote fills r) := by
  have hsolvent := solvent_foldl base quote
    (show CostState.Solvent { blockers := historyBlockers } from ⟨le_rfl, le_rfl⟩) (inOrder fills)
  rw [summarize]
  generalize hs : (inOrder fills).foldl (takeFill .exact base quote)
    { blockers := historyBlockers } = s at hsolvent ⊢
  have hreport : ¬ (symbol = "" ∨ base = "" ∨ quote = "" ∨ s.quantity < 0) := by
    simp only [not_or, not_lt]
    exact ⟨hnamed.1, hnamed.2.1, hnamed.2.2, hsolvent.quantity_nonneg⟩
  have haverage : ¬ ((if 0 < s.quantity then some (Arithmetic.exact.div s.cost s.quantity)
      else none).any fun cost => decide (cost < 0)) = true := by
    split_ifs
    · simpa using div_nonneg hsolvent.cost_nonneg hsolvent.quantity_nonneg
    · simp
  simp only [CostBasisReport.create, raiseIf_of_not hreport, raiseIf_of_not haverage, ok_bind]
  refine ⟨_, rfl, fun hids hregular => ?_⟩
  have hperm := inOrder_perm fills
  obtain ⟨⟨left, hstocked⟩, hcash⟩ := foldl_regular quote
    (show CostState.Stocked { blockers := historyBlockers } 0 from
      ⟨⟨le_rfl, le_rfl⟩, rfl, fun _ => rfl⟩) hregular
    ((hperm.map _).nodup_iff.mpr hids) (fun f _ => List.not_mem_nil)
  rw [hs] at hstocked hcash
  rw [Balances, ← sum_cash, ← (hperm.map _).sum_eq]
  have hcost : (if 0 < s.quantity then some (Arithmetic.exact.div s.cost s.quantity)
      else none).getD 0 * s.quantity = s.cost := by
    by_cases hpos : 0 < s.quantity
    · rw [if_pos hpos, Option.getD_some, Arithmetic.exact_div, div_mul_cancel₀ _ hpos.ne']
    · have hzero : s.quantity = 0 := le_antisymm (not_lt.mp hpos) hsolvent.quantity_nonneg
      rw [if_neg hpos, Option.getD_none, zero_mul, hstocked.empty hzero]
  rw [hcost, hcash]
  simp

end History

/-- An evaluation summarizes what it has read: all of the history below the limit of the pages. -/
lemma evaluate_eq_summarize [UnicodeData] {symbol normalized base quote : String}
    {walletQuantity : ℚ} {history : List TradeRow} {fillOf : TradeRow → SpotTradeFill}
    (hsymbol : normalizedSymbol symbol = .ok normalized)
    (hassets : assets normalized = .ok (base, quote)) (hwallet : 0 ≤ walletQuantity)
    (hkeys : (history.map (·.id)).Nodup)
    (hparsed : ∀ row ∈ history, row.fill normalized = .ok (fillOf row)) (a : Arithmetic)
    {service : CostBasisService} {limit : ℕ}
    (hanswers : Answers service.reader normalized history) (hlimit : 1 ≤ limit ∧ limit ≤ 1000) :
    ∃ read, service.evaluate a symbol walletQuantity limit =
        summarize a normalized base quote walletQuantity read
          (if history.length < limit * service.maximumHistoryPages then []
            else ["TRADE_HISTORY_PAGE_LIMIT_REACHED"]) ∧
      (history.length < limit * service.maximumHistoryPages → read.Perm (history.map fillOf)) := by
  obtain ⟨read, hread, hall⟩ := loadTradeHistory_eq hanswers hparsed hkeys hlimit.1
  refine ⟨read, ?_, hall⟩
  have hbounds : ¬ (limit < 1 ∨ 1000 < limit) := by omega
  simp only [CostBasisService.evaluate, hsymbol, hassets, raiseIf_of_not (not_lt.mpr hwallet),
    raiseIf_of_not hbounds, hread, ok_bind]

/-- **The cost basis of a history.**  For rows with distinct ids, below the limit of the pages the
outcome is the same for every reader and limit, whatever the rounding; from it on the limit is
reported.  In exact arithmetic every history has its report, and the accounts of a regular history
balance. -/
theorem cost_basis_is_correct [UnicodeData] {symbol normalized base quote : String}
    {walletQuantity : ℚ} {history : List TradeRow} {fillOf : TradeRow → SpotTradeFill}
    (hsymbol : normalizedSymbol symbol = .ok normalized)
    (hassets : assets normalized = .ok (base, quote)) (hwallet : 0 ≤ walletQuantity)
    (hkeys : (history.map (·.id)).Nodup)
    (hparsed : ∀ row ∈ history, row.fill normalized = .ok (fillOf row)) :
    (∀ (a : Arithmetic) (service service' : CostBasisService) (limit limit' : ℕ),
      Answers service.reader normalized history → Answers service'.reader normalized history →
      (1 ≤ limit ∧ limit ≤ 1000) → (1 ≤ limit' ∧ limit' ≤ 1000) →
      history.length < limit * service.maximumHistoryPages →
      history.length < limit' * service'.maximumHistoryPages →
      service.evaluate a symbol walletQuantity limit =
        service'.evaluate a symbol walletQuantity limit') ∧
    ∀ (service : CostBasisService) (limit : ℕ),
      Answers service.reader normalized history → (1 ≤ limit ∧ limit ≤ 1000) →
      (∃ r, service.evaluate .exact symbol walletQuantity limit = .ok r ∧
        (history.length < limit * service.maximumHistoryPages →
          SellsWhatItHolds base 0 (inOrder (history.map fillOf)) →
          Balances quote (history.map fillOf) r)) ∧
      (limit * service.maximumHistoryPages ≤ history.length →
        ∀ a r, service.evaluate a symbol walletQuantity limit = .ok r →
          "TRADE_HISTORY_PAGE_LIMIT_REACHED" ∈ r.blockers) := by
  have hids := nodup_tradeId hparsed hkeys
  have hnamed := assets_named hassets
  refine ⟨?_, fun service limit hanswers hlimit => ⟨?_, ?_⟩⟩
  · intro a service service' limit limit' hanswers hanswers' hlimit hlimit' hcount hcount'
    obtain ⟨read, hrun, hall⟩ :=
      evaluate_eq_summarize hsymbol hassets hwallet hkeys hparsed a hanswers hlimit
    obtain ⟨read', hrun', hall'⟩ :=
      evaluate_eq_summarize hsymbol hassets hwallet hkeys hparsed a hanswers' hlimit'
    have hperm := (hall hcount).trans (hall' hcount').symm
    rw [hrun, hrun', if_pos hcount, if_pos hcount']
    exact summarize_congr hperm (((hall hcount).map _).nodup_iff.mpr hids) ..
  · obtain ⟨read, hrun, hall⟩ :=
      evaluate_eq_summarize hsymbol hassets hwallet hkeys hparsed .exact hanswers hlimit
    obtain ⟨r, hr, hbalances⟩ := summarize_ok walletQuantity read hnamed
      (if history.length < limit * service.maximumHistoryPages then []
        else ["TRADE_HISTORY_PAGE_LIMIT_REACHED"])
    refine ⟨r, hrun.trans hr, fun hcount hregular => ?_⟩
    have hperm := hall hcount
    have hread := ((hperm.map (·.tradeId)).nodup_iff.mpr hids)
    have hread' := hbalances hread (inOrder_congr hperm hread ▸ hregular)
    rw [Balances, ← sum_cash] at hread' ⊢
    rw [hread', (hperm.map _).sum_eq]
  · intro hfull a r hr
    obtain ⟨read, hrun, -⟩ :=
      evaluate_eq_summarize hsymbol hassets hwallet hkeys hparsed a hanswers hlimit
    rw [hrun, if_neg (not_lt.mpr hfull)] at hr
    exact summarize_blockers hr _ (List.mem_singleton_self _)

/-! ### Two purchases and a sale -/

/-- A trade of the sample symbol at a price, its fee in the quote asset. -/
def sampleRow (id : ℤ) (isBuyer : Bool) (price qty quoteQty commission : String) : TradeRow where
  id
  price
  qty
  quoteQty
  commission := some commission
  commissionAsset := "USDT"
  isBuyer
  time := id

/-- Two purchases of ten, and a sale of five. -/
def sampleHistory : List TradeRow :=
  [sampleRow 1 true "1" "10" "10" "0.1", sampleRow 2 true "3" "10" "30" "0.3",
    sampleRow 3 false "3" "5" "15" "0.15"]

/-- A reader of a history, that gives the rows of a page in the order of their ids or in the
opposite order. -/
def historyService (history : List TradeRow) (reversed : Bool) : CostBasisService where
  reader _ fromId limit :=
    let rows := Pages.page (·.id) history fromId limit
    if reversed then rows.reverse else rows
  pages_bounds := by norm_num

lemma historyService_answers (history : List TradeRow) (reversed : Bool) (symbol : String) :
    Answers (historyService history reversed).reader symbol history := by
  intro fromId limit
  cases reversed with
  | true => exact List.reverse_perm _
  | false => exact List.Perm.refl _

/-- A fill of one coin for one. -/
def oneForOneFill : SpotTradeFill where
  tradeId := 0
  symbol := "HOTUSDT"
  price := 1
  quantity := 1
  quoteQuantity := 1
  commission := 0
  commissionAsset := "USDT"
  isBuyer := true
  timeMs := 0
  counters_nonneg := by norm_num
  amounts_pos := by norm_num
  amounts_nonneg := by norm_num
  texts := by decide

/-- The fill of a row of the sample symbol. -/
def sampleFill (row : TradeRow) : SpotTradeFill := (row.fill "HOTUSDT").toOption.getD oneForOneFill

lemma fill_sampleFill {row : TradeRow} (h : (row.fill "HOTUSDT").toOption.isSome) :
    row.fill "HOTUSDT" = .ok (sampleFill row) := by
  obtain ⟨f, hf⟩ := Option.isSome_iff_exists.mp h
  rw [sampleFill, hf]
  exact toOption_eq_some.mp hf

/-- Read two rows at a time in the opposite order, or all at once, the sample has one report, and
its accounts balance. -/
theorem sample_history_balances :
    (historyService sampleHistory true).evaluate .decimal "hotusdt" 15 2 =
        (historyService sampleHistory false).evaluate .decimal "hotusdt" 15 1000 ∧
      ∃ r, (historyService sampleHistory true).evaluate .exact "hotusdt" 15 2 = .ok r ∧
        Balances "USDT" (sampleHistory.map sampleFill) r := by
  have hparsed : ∀ row ∈ sampleHistory, row.fill "HOTUSDT" = .ok (sampleFill row) := by
    have hall : ∀ row ∈ sampleHistory, (row.fill "HOTUSDT").toOption.isSome := by decide +kernel
    exact fun row hrow => fill_sampleFill (hall row hrow)
  have hassets : assets "HOTUSDT" = .ok ("HOT", "USDT") := by decide +kernel
  obtain ⟨hsame, hreport⟩ := cost_basis_is_correct
    (show normalizedSymbol "hotusdt" = .ok "HOTUSDT" by decide +kernel) hassets
    (show (0 : ℚ) ≤ 15 by norm_num) (by decide) hparsed
  obtain ⟨⟨r, hr, hbalances⟩, -⟩ := hreport (historyService sampleHistory true) 2
    (historyService_answers _ _ _) (by norm_num)
  refine ⟨hsame .decimal _ _ 2 1000 (historyService_answers _ _ _) (historyService_answers _ _ _)
    (by norm_num) (by norm_num) (by decide) (by decide), r, hr, hbalances (by decide) ?_⟩
  have hsorted : inOrder (sampleHistory.map sampleFill) = sampleHistory.map sampleFill :=
    List.mergeSort_of_pairwise (by decide +kernel)
  rw [hsorted]
  decide +kernel

/-- Three coins for one, and one of them for one. -/
def thirdHistory : List TradeRow :=
  [sampleRow 1 true "0.3333333333" "3" "1" "0", sampleRow 2 false "1" "1" "1" "0"]

/-- In the decimal context the accounts of a regular history can be off: an average cost of a
third is rounded. -/
theorem decimal_cost_unbalanced :
    (∀ row ∈ thirdHistory, row.fill "HOTUSDT" = .ok (sampleFill row)) ∧
      SellsWhatItHolds "HOT" 0 (inOrder (thirdHistory.map sampleFill)) ∧
      ∃ r, (historyService thirdHistory false).evaluate .decimal "HOTUSDT" 2 1000 = .ok r ∧
        ¬ Balances "USDT" (thirdHistory.map sampleFill) r := by
  have hparsed : ∀ row ∈ thirdHistory, row.fill "HOTUSDT" = .ok (sampleFill row) := by
    have hall : ∀ row ∈ thirdHistory, (row.fill "HOTUSDT").toOption.isSome := by decide +kernel
    exact fun row hrow => fill_sampleFill (hall row hrow)
  have hassets : assets "HOTUSDT" = .ok ("HOT", "USDT") := by decide +kernel
  have hsorted : inOrder (thirdHistory.map sampleFill) = thirdHistory.map sampleFill :=
    List.mergeSort_of_pairwise (by decide +kernel)
  have hregular : SellsWhatItHolds "HOT" 0 (inOrder (thirdHistory.map sampleFill)) := by
    rw [hsorted]
    decide +kernel
  -- the report is that of the two fills in their order
  obtain ⟨read, hrun, hall⟩ := evaluate_eq_summarize
    (show normalizedSymbol "HOTUSDT" = .ok "HOTUSDT" by decide +kernel) hassets
    (show (0 : ℚ) ≤ 2 by norm_num) (by decide) hparsed .decimal
    (historyService_answers thirdHistory false "HOTUSDT") (show 1 ≤ 1000 ∧ 1000 ≤ 1000 by norm_num)
  have hcount : thirdHistory.length < 1000 * (historyService thirdHistory false).maximumHistoryPages :=
    by decide
  have hids := nodup_tradeId hparsed (by decide)
  rw [if_pos hcount,
    summarize_congr (hall hcount) (((hall hcount).map _).nodup_iff.mpr hids)] at hrun
  have hoff : (summarize .decimal "HOTUSDT" "HOT" "USDT" 2 (thirdHistory.map sampleFill)
      []).toOption.any fun r => decide (¬ Balances "USDT" (thirdHistory.map sampleFill) r) := by
    rw [summarize, hsorted]
    decide +kernel
  obtain ⟨r, hr, hoff⟩ := exists_ok_of_any hoff
  exact ⟨hparsed, hregular, r, hrun.trans hr, of_decide_eq_true hoff⟩

end Ai4Binance
