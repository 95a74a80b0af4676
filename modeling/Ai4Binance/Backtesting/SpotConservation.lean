/-
Cash conservation of the Spot backtest (`research/backtesting/engine.py`).

In exact arithmetic the cash of a run is its initial cash and the net PnL of the closed
trades, and a closed trade is the sum of its exits: what they bring in, less the cost and
the fee of the entry.  The decimal context rounds every operation to 28 digits, and a run
in which that changes nothing conserves cash too.

* `TradeExit`, `Priced`: an exit of a trade, staged or final, and how it is priced;
* `Booked`: the exits of an open trade so far account for its partial PnL;
* `Decomposes`: the exits of a closed trade account for its record;
* `Conserves`: what every candle of the loop keeps;
* `spot_cash_is_conserved`: **cash is conserved**, in every run that the context leaves
  exact;
* `decimal_context_loses_cash`: rounded, the last equity point can be off.
-/
import Ai4Binance.Backtesting.SpotNoLookAhead

open Text Check

namespace Ai4Binance

namespace Arithmetic

/-- Arithmetic without rounding. -/
def exact : Arithmetic := ⟨id⟩

/-- The arithmetic of the default decimal context. -/
def decimal : Arithmetic := ⟨fun x => (Context.default.round x).getD x⟩

@[simp] lemma exact_add (x y : ℚ) : exact.add x y = x + y := rfl

@[simp] lemma exact_sub (x y : ℚ) : exact.sub x y = x - y := rfl

@[simp] lemma exact_mul (x y : ℚ) : exact.mul x y = x * y := rfl

@[simp] lemma exact_div (x y : ℚ) : exact.div x y = x / y := rfl

@[simp] lemma exact_sum (xs : List ℚ) : exact.sum xs = xs.sum := by
  rw [sum, List.sum_eq_foldl]
  rfl

end Arithmetic

/-! ### The exits of a trade -/

/-- An exit of a trade, staged or final: the price it was decided at, the price that was
paid, the quantity and the fee. -/
structure TradeExit where
  referencePrice : ℚ
  price : ℚ
  quantity : ℚ
  feeUsdt : ℚ
  deriving DecidableEq, Repr

lemma sum_map_sub {α : Type} (f g : α → ℚ) (xs : List α) :
    (xs.map fun x => f x - g x).sum = (xs.map f).sum - (xs.map g).sum := by
  induction xs with
  | nil => simp
  | cons x xs ih =>
    simp only [List.map_cons, List.sum_cons, ih]
    ring

/-- What an exit brings in: its value less its fee. -/
def TradeExit.proceeds (exit : TradeExit) : ℚ := exit.price * exit.quantity - exit.feeUsdt

/-- The gross profit of an exit, between the reference prices of the exit and of the
entry. -/
def TradeExit.gross (entryReference : ℚ) (exit : TradeExit) : ℚ :=
  (exit.referencePrice - entryReference) * exit.quantity

/-- The exit is priced as the engine prices it. -/
structure TradeExit.Priced (config : BacktestConfig) (exit : TradeExit) : Prop where
  quantity_nonneg : 0 ≤ exit.quantity
  reference_nonneg : 0 ≤ exit.referencePrice
  price_eq : config.roundPrice (exit.referencePrice * (1 - config.slippageRatio)) .down =
    .ok exit.price
  fee_eq : exit.feeUsdt = exit.price * exit.quantity * config.feeRatio

/-- A rounded price of a value that is not negative is not negative. -/
lemma BacktestConfig.roundPrice_nonneg {config : BacktestConfig} {value price : ℚ}
    {rounding : Rounding} (hvalue : 0 ≤ value)
    (h : config.roundPrice value rounding = .ok price) : 0 ≤ price :=
  Context.quantize_nonneg hvalue (orRaise_eq_ok.mp h)

/-- A fee is at most a hundredth of the value, so an exit brings something in. -/
lemma TradeExit.Priced.proceeds_nonneg {config : BacktestConfig} {exit : TradeExit}
    (h : exit.Priced config) : 0 ≤ exit.proceeds := by
  have hslippage : 0 ≤ 1 - config.slippageRatio := by linarith [config.slippage_bounds.2]
  have hprice : 0 ≤ exit.price :=
    BacktestConfig.roundPrice_nonneg (mul_nonneg h.reference_nonneg hslippage) h.price_eq
  have hvalue : 0 ≤ exit.price * exit.quantity := mul_nonneg hprice h.quantity_nonneg
  have hratio : 0 ≤ 1 - config.feeRatio := by linarith [config.fee_bounds.2]
  calc 0 ≤ exit.price * exit.quantity * (1 - config.feeRatio) := mul_nonneg hvalue hratio
    _ = exit.proceeds := by rw [TradeExit.proceeds, h.fee_eq]; ring

/-- The exits that an open trade has made account for its quantity, its targets and its
partial PnL. -/
structure Booked (config : BacktestConfig) (trade : OpenTrade) (staged : List TradeExit) :
    Prop where
  records : trade.stagedExits.map (fun e => (e.price, e.quantity, e.feeUsdt)) =
    staged.map (fun e => (e.price, e.quantity, e.feeUsdt))
  references : staged.map (·.referencePrice) ++ trade.position.takeProfitLevels =
    trade.intent.targets
  priced : ∀ exit ∈ staged, exit.Priced config
  quantity : (staged.map (·.quantity)).sum + trade.position.quantity = trade.originalQuantity
  pnl : trade.realizedPartialPnl = (staged.map (·.proceeds)).sum -
    (trade.entryPrice * (staged.map (·.quantity)).sum +
      trade.entryFee * ((staged.map (·.quantity)).sum / trade.originalQuantity))
  slippage : trade.realizedExitSlippageCost =
    (staged.map fun e => (e.referencePrice - e.price) * e.quantity).sum
  position_pos : 0 < trade.position.quantity
  original_pos : 0 < trade.originalQuantity

/-- The amounts of a closed trade. -/
structure TradeAmounts where
  entryReferencePrice : ℚ
  entryPrice : ℚ
  quantity : ℚ
  entryFeeUsdt : ℚ
  exitPrice : ℚ
  exitFeeUsdt : ℚ
  netPnlUsdt : ℚ
  grossPnlUsdt : ℚ
  stagedExits : List StagedExitRecord
  initialTakeProfitLevels : List ℚ
  deriving DecidableEq

def TradeRecord.amounts (record : TradeRecord) : TradeAmounts where
  entryReferencePrice := record.entryReferencePrice
  entryPrice := record.entryPrice
  quantity := record.quantity
  entryFeeUsdt := record.entryFeeUsdt
  exitPrice := record.exitPrice
  exitFeeUsdt := record.exitFeeUsdt
  netPnlUsdt := record.netPnlUsdt
  grossPnlUsdt := record.grossPnlUsdt
  stagedExits := record.stagedExits
  initialTakeProfitLevels := record.initialTakeProfitLevels

/-- The exits of a closed trade account for its amounts. -/
structure Decomposes (config : BacktestConfig) (record : TradeAmounts) (staged : List TradeExit)
    (final : TradeExit) : Prop where
  records : record.stagedExits.map (fun e => (e.price, e.quantity, e.feeUsdt)) =
    staged.map (fun e => (e.price, e.quantity, e.feeUsdt))
  references : staged.map (·.referencePrice) <+: record.initialTakeProfitLevels
  final_price : record.exitPrice = final.price
  fees : record.exitFeeUsdt = ((staged ++ [final]).map (·.feeUsdt)).sum
  priced : ∀ exit ∈ staged ++ [final], exit.Priced config
  quantity : ((staged ++ [final]).map (·.quantity)).sum = record.quantity
  net : record.netPnlUsdt = ((staged ++ [final]).map (·.proceeds)).sum -
    (record.entryPrice * record.quantity + record.entryFeeUsdt)
  gross : record.grossPnlUsdt =
    ((staged ++ [final]).map (·.gross record.entryReferencePrice)).sum

/-- A trade loses at most what its entry cost. -/
lemma Decomposes.net_ge {config : BacktestConfig} {record : TradeAmounts} {staged : List TradeExit}
    {final : TradeExit} (h : Decomposes config record staged final) :
    -(record.entryPrice * record.quantity + record.entryFeeUsdt) ≤ record.netPnlUsdt := by
  have hsum : 0 ≤ ((staged ++ [final]).map (·.proceeds)).sum := by
    refine List.sum_nonneg fun x hx => ?_
    obtain ⟨exit, hexit, rfl⟩ := List.mem_map.mp hx
    exact (h.priced exit hexit).proceeds_nonneg
  rw [h.net]
  linarith

/-! ### One trade -/

namespace BacktestConfig

variable {config : BacktestConfig} {trade next : OpenTrade} {candle : OHLCVCandle}
  {staged : List TradeExit}

/-- What an exit leaves of an open trade accounts, as long as its amounts do. -/
lemma Booked.congr (h : Booked config trade staged)
    (hrecords : next.stagedExits = trade.stagedExits) (hintent : next.intent = trade.intent)
    (hlevels : next.position.takeProfitLevels = trade.position.takeProfitLevels)
    (hposition : next.position.quantity = trade.position.quantity)
    (horiginal : next.originalQuantity = trade.originalQuantity)
    (hpnl : next.realizedPartialPnl = trade.realizedPartialPnl)
    (hprice : next.entryPrice = trade.entryPrice) (hfee : next.entryFee = trade.entryFee)
    (hslippage : next.realizedExitSlippageCost = trade.realizedExitSlippageCost) :
    Booked config next staged where
  records := hrecords ▸ h.records
  references := by rw [hlevels, hintent, h.references]
  priced := h.priced
  quantity := by rw [hposition, horiginal, h.quantity]
  pnl := by rw [hpnl, hprice, hfee, horiginal, h.pnl]
  slippage := hslippage.trans h.slippage
  position_pos := hposition ▸ h.position_pos
  original_pos := horiginal ▸ h.original_pos

lemma holdCandle_booked (h : Booked config trade staged) :
    Booked config (holdCandle .exact trade candle) staged :=
  Booked.congr h rfl rfl rfl rfl rfl rfl rfl rfl rfl

lemma create_eq_ok {candidateId symbol : String} {entryPrice quantity stopLoss trailingStop : ℚ}
    {levels : List ℚ} {position : PaperPosition}
    (h : PaperPosition.create candidateId symbol entryPrice quantity stopLoss trailingStop levels =
      .ok position) :
    position.quantity = quantity ∧ position.takeProfitLevels = levels ∧
      position.entryPrice = entryPrice := by
  rw [PaperPosition.create] at h
  split_ifs at h
  obtain rfl := Except.ok.inj h
  exact ⟨rfl, rfl, rfl⟩

lemma endCandle_booked (h : Booked config trade staged)
    (hend : config.endCandle .exact trade candle = .ok next) : Booked config next staged := by
  simp only [endCandle, withTrailingStop, bind_eq_ok, pure_eq_ok] at hend
  obtain ⟨stop, -, position, hposition, rfl⟩ := hend
  obtain ⟨hquantity, hlevels, -⟩ := create_eq_ok hposition
  exact Booked.congr h rfl rfl hlevels hquantity rfl rfl rfl rfl rfl

/-- A trade is opened for the cash that was checked, with no exits. -/
lemma openTrade_booked {intent : BacktestIntent}
    (hopen : config.openTrade .exact intent candle = .ok trade) :
    Booked config trade [] ∧ trade.realizedPartialPnl = 0 ∧
      trade.entryFee = trade.entryPrice * trade.originalQuantity * config.feeRatio := by
  simp only [openTrade, bind_eq_ok, pure_eq_ok] at hopen
  obtain ⟨fill, -, entry, -, position, hposition, rfl⟩ := hopen
  obtain ⟨hquantity, hlevels, -⟩ := create_eq_ok hposition
  refine ⟨?_, rfl, rfl⟩
  exact {
    records := rfl
    references := hlevels
    priced := by simp
    quantity := by simp [hquantity]
    pnl := by simp
    slippage := by simp
    position_pos := position.values_pos.2.1
    original_pos := hquantity ▸ position.values_pos.2.1 }

/-- A staged exit at the first target is one more exit. -/
lemma partialExit_booked (h : Booked config trade staged) {reduced : OpenTrade} {target : ℚ}
    {later : List ℚ} (hlevels : trade.position.takeProfitLevels = target :: later)
    (hshort_fill : config.partialExit .exact trade candle target = .ok reduced) :
    ∃ exit : TradeExit, Booked config reduced (staged ++ [exit]) ∧
      reduced.realizedPartialPnl =
        trade.realizedPartialPnl + SpotBacktestConfig.lastStagedPnl reduced := by
  simp only [partialExit, bind_eq_ok, pure_eq_ok] at hshort_fill
  obtain ⟨price, hprice, position, hposition, rfl⟩ := hshort_fill
  obtain ⟨hquantity, hlater, -⟩ := create_eq_ok hposition
  have htarget : 0 < target :=
    trade.position.values_pos.1.trans
      (trade.position.targets_gt.2 target (by rw [hlevels]; exact List.mem_cons_self))
  have hratio := trade.intent.ratio_bounds
  have hpos := h.position_pos
  refine ⟨⟨target, price, trade.position.quantity * trade.intent.partialExitRatio,
    price * (trade.position.quantity * trade.intent.partialExitRatio) * config.feeRatio⟩, ?_, ?_⟩
  · exact {
      records := by
        rw [List.map_append, List.map_append, h.records]
        rfl
      references := by
        rw [hlater, hlevels, List.tail_cons, List.map_append, List.append_assoc]
        simpa [hlevels] using h.references
      priced := by
        intro exit hexit
        rcases List.mem_append.mp hexit with hexit | hexit
        · exact h.priced exit hexit
        · obtain rfl := List.mem_singleton.mp hexit
          exact ⟨(mul_pos hpos hratio.1).le, htarget.le, hprice, rfl⟩
      quantity := by
        simp only [List.map_append, List.map_cons, List.map_nil, List.sum_append, List.sum_cons,
          List.sum_nil, hquantity, Arithmetic.exact_sub, Arithmetic.exact_mul]
        linarith [h.quantity]
      pnl := by
        simp only [List.map_append, List.map_cons, List.map_nil, List.sum_append, List.sum_cons,
          List.sum_nil, Arithmetic.exact_sub, Arithmetic.exact_mul, Arithmetic.exact_add,
          Arithmetic.exact_div, TradeExit.proceeds, h.pnl]
        ring
      slippage := by
        simp only [List.map_append, List.map_cons, List.map_nil, List.sum_append, List.sum_cons,
          List.sum_nil, Arithmetic.exact_sub, Arithmetic.exact_mul, Arithmetic.exact_add,
          h.slippage]
        ring
      position_pos := by
        rw [hquantity, Arithmetic.exact_sub, Arithmetic.exact_mul]
        have hkept : 0 < trade.position.quantity * (1 - trade.intent.partialExitRatio) :=
          mul_pos hpos (by linarith [hratio.2])
        linarith
      original_pos := h.original_pos }
  · simp [SpotBacktestConfig.lastStagedPnl]

/-- **A closed trade is the sum of its exits.** -/
lemma closeTrade_decomposes [UnicodeData] (h : Booked config trade staged)
    {reason : BacktestExitReason} {reference : ℚ} (hreference : 0 ≤ reference)
    {record : TradeRecord}
    (hclose : config.closeTrade .exact trade candle reason reference = .ok record) :
    ∃ final : TradeExit, Decomposes config record.amounts staged final ∧
      record.entryPrice = trade.entryPrice ∧ record.quantity = trade.originalQuantity ∧
      record.entryFeeUsdt = trade.entryFee := by
  simp only [closeTrade, bind_eq_ok, pure_eq_ok] at hclose
  obtain ⟨price, hprice, rfl⟩ := hclose
  have hfees : (trade.stagedExits.map (·.feeUsdt)) = staged.map (·.feeUsdt) := by
    have hproject := congrArg (List.map fun e : ℚ × ℚ × ℚ => e.2.2) h.records
    simpa [Function.comp_def] using hproject
  have hfee_sum : ((trade.stagedExits.map (·.feeUsdt))).sum = (staged.map (·.feeUsdt)).sum := by
    rw [hfees]
  have hremaining : trade.position.quantity =
      trade.originalQuantity - (staged.map (·.quantity)).sum := by linarith [h.quantity]
  have horiginal : trade.originalQuantity ≠ 0 := h.original_pos.ne'
  have hproceeds : (staged.map (·.proceeds)).sum =
      (staged.map fun e => e.price * e.quantity).sum - (staged.map (·.feeUsdt)).sum :=
    sum_map_sub _ _ _
  have hslippage : (staged.map fun e => (e.referencePrice - e.price) * e.quantity).sum =
      (staged.map fun e => e.referencePrice * e.quantity).sum -
        (staged.map fun e => e.price * e.quantity).sum := by
    rw [← sum_map_sub]
    simp only [sub_mul]
  have hgross : (staged.map (·.gross trade.entryReferencePrice)).sum =
      (staged.map fun e => e.referencePrice * e.quantity).sum -
        trade.entryReferencePrice * (staged.map (·.quantity)).sum := by
    rw [← List.sum_map_mul_left, ← sum_map_sub]
    simp only [TradeExit.gross, sub_mul]
  refine ⟨⟨reference, price, trade.position.quantity,
    price * trade.position.quantity * config.feeRatio⟩, ?_, rfl, rfl, rfl⟩
  exact {
    records := h.records
    references := ⟨_, h.references⟩
    final_price := rfl
    fees := by
      simp only [TradeRecord.amounts, List.map_append, List.map_cons, List.map_nil, List.sum_append, List.sum_cons,
        List.sum_nil, Arithmetic.exact_mul, Arithmetic.exact_add, Arithmetic.exact_sum, hfee_sum]
      ring
    priced := by
      intro exit hexit
      rcases List.mem_append.mp hexit with hexit | hexit
      · exact h.priced exit hexit
      · obtain rfl := List.mem_singleton.mp hexit
        exact ⟨h.position_pos.le, hreference, hprice, rfl⟩
    quantity := by
      simp only [TradeRecord.amounts, List.map_append, List.map_cons, List.map_nil, List.sum_append, List.sum_cons,
        List.sum_nil]
      linarith [h.quantity]
    net := by
      simp only [TradeRecord.amounts, List.map_append, List.map_cons, List.map_nil, List.sum_append, List.sum_cons,
        List.sum_nil, Arithmetic.exact_sub, Arithmetic.exact_mul, Arithmetic.exact_add,
        Arithmetic.exact_div, TradeExit.proceeds, h.pnl, hremaining]
      field_simp
      ring
    gross := by
      simp only [TradeRecord.amounts, List.map_append, List.map_cons, List.map_nil, List.sum_append, List.sum_cons,
        List.sum_nil, Arithmetic.exact_sub, Arithmetic.exact_mul, Arithmetic.exact_add,
        Arithmetic.exact_div, Arithmetic.exact_sum, hfee_sum, h.pnl, h.slippage, hremaining,
        hproceeds, hslippage, hgross]
      rw [TradeExit.gross]
      field_simp
      ring }

/-- An exit price is not negative, and a target exit is at the first target. -/
lemma evaluateLongExit_spec {intent : BacktestIntent} {position : PaperPosition} {bars : ℕ}
    {exit : ExitDecision} (h : evaluateLongExit intent position candle bars = some exit) :
    0 ≤ exit.referencePrice ∧ (exit.reason = .target →
      ∃ later, position.takeProfitLevels = exit.referencePrice :: later) := by
  have hlevels := position.targets_gt
  have hstop := position.values_pos.2.2
  rw [evaluateLongExit, Option.orElse_eq_orElse, Option.orElse_eq_or, Option.or_eq_some_iff] at h
  rcases h with h | ⟨-, h⟩
  · simp only [protectiveOrTargetExit] at h
    split_ifs at h with hlow htrailing hhigh
    · obtain rfl := Option.some.inj h
      exact ⟨le_min candle.nonneg.1 (hstop.1.le.trans (le_max_left _ _)), by
        simp [ExitReason.canonical]⟩
    · obtain rfl := Option.some.inj h
      exact ⟨le_min candle.nonneg.1 (hstop.1.le.trans (le_max_left _ _)), by
        simp [ExitReason.canonical]⟩
    · obtain rfl := Option.some.inj h
      refine ⟨?_, fun _ => ⟨_, (List.cons_head_tail hlevels.1).symm⟩⟩
      exact (position.values_pos.1.trans (hlevels.2 _ (List.head_mem hlevels.1))).le
  · split_ifs at h
    obtain rfl := Option.some.inj h
    exact ⟨candle.nonneg.2.2.2.1, by simp⟩

end BacktestConfig

/-! ### The loop -/

/-- The net PnL of closed trades. -/
def netPnl (trades : List TradeRecord) : ℚ := (trades.map (·.netPnlUsdt)).sum

lemma netPnl_snoc (trades : List TradeRecord) (record : TradeRecord) :
    netPnl (trades ++ [record]) = netPnl trades + record.netPnlUsdt := by
  simp [netPnl]

namespace SpotBacktestConfig

variable (config : SpotBacktestConfig)

/-- The cash of a run is its initial cash, the net PnL of its closed trades and what the
open trade has realized; the closed trades are the sums of their exits, and the entry of
the open one was paid for. -/
structure Conserves (s : SpotRun) : Prop where
  cash : s.availableCash = config.initialCashUsdt + netPnl s.trades +
    (s.openTrade.map (·.realizedPartialPnl)).getD 0
  solvent : 0 ≤ config.initialCashUsdt + netPnl s.trades
  closed : ∀ record ∈ s.trades, ∃ staged final,
    Decomposes config.toBacktestConfig record.amounts staged final
  booked : ∀ trade ∈ s.openTrade, (∃ staged, Booked config.toBacktestConfig trade staged) ∧
    trade.entryPrice * trade.originalQuantity + trade.entryFee ≤
      config.initialCashUsdt + netPnl s.trades

variable {config} {s t : SpotRun} {candle : OHLCVCandle} {index : ℕ}

/-- A closed trade hands its cash back to the run. -/
lemma Conserves.close [UnicodeData] {trade : OpenTrade} {record : TradeRecord}
    {reason : BacktestExitReason} {reference cash : ℚ} {staged : List TradeExit}
    (hs : config.Conserves s) (hopen : s.openTrade.map (·.realizedPartialPnl) =
      some trade.realizedPartialPnl)
    (hbooked : Booked config.toBacktestConfig trade staged)
    (hpaid : trade.entryPrice * trade.originalQuantity + trade.entryFee ≤
      config.initialCashUsdt + netPnl s.trades)
    (hreference : 0 ≤ reference)
    (hclose : config.closeTrade .exact trade candle reason reference = .ok record)
    (htrades : t.trades = s.trades ++ [record]) (hopen' : t.openTrade = none)
    (hcash : cash = s.availableCash + (record.netPnlUsdt - trade.realizedPartialPnl))
    (hcash' : t.availableCash = cash) : config.Conserves t := by
  obtain ⟨final, hfinal, hentry, hquantity, hfee⟩ :=
    BacktestConfig.closeTrade_decomposes hbooked hreference hclose
  have hnet : -(record.entryPrice * record.quantity + record.entryFeeUsdt) ≤ record.netPnlUsdt :=
    hfinal.net_ge
  rw [hentry, hquantity, hfee] at hnet
  have hbefore := hs.cash
  rw [hopen, Option.getD_some] at hbefore
  exact {
    cash := by
      rw [hcash', hcash, htrades, hopen', netPnl_snoc, Option.map_none, Option.getD_none]
      linarith
    solvent := by
      rw [htrades, netPnl_snoc]
      linarith
    closed := by
      intro r hr
      rw [htrades] at hr
      rcases List.mem_append.mp hr with hr | hr
      · exact hs.closed r hr
      · obtain rfl := List.mem_singleton.mp hr
        exact ⟨staged, final, hfinal⟩
    booked := by simp [hopen'] }

/-- An entry is opened within the cash. -/
lemma entryBlockers_paid {intent : BacktestIntent} {cash : ℚ} {trade : OpenTrade}
    (hblockers : config.entryBlockers .exact intent candle cash = .ok [])
    (hopen : config.openTrade .exact intent candle = .ok trade) :
    trade.entryPrice * trade.originalQuantity + trade.entryFee ≤ cash := by
  have hfee := (BacktestConfig.openTrade_booked hopen).2.2
  simp only [entryBlockers, bind_eq_ok, pure_eq_ok, List.append_eq_nil_iff] at hblockers
  simp only [BacktestConfig.openTrade, bind_eq_ok, pure_eq_ok] at hopen
  obtain ⟨fill, hfill, fillBlockers, -, entry, hentry, ⟨-, hcash⟩, -⟩ := hblockers
  obtain ⟨fill', hfill', entry', hentry', position, -, rfl⟩ := hopen
  rw [hfill] at hfill'
  obtain rfl := Except.ok.inj hfill'
  rw [hentry] at hentry'
  obtain rfl := Except.ok.inj hentry'
  have hle : entry * fill.filledQuantity * (1 + config.feeRatio) ≤ cash := by
    by_contra hlt
    rw [blockerWhen, if_pos (by simpa using hlt)] at hcash
    exact List.cons_ne_nil _ _ hcash
  simp only at hfee ⊢
  rw [hfee]
  linarith

lemma enterPending_conserves (hs : config.Conserves s)
    (h : config.enterPending .exact index candle s = .ok t) : config.Conserves t := by
  rw [enterPending] at h
  split at h
  · rename_i pending _ hclosed
    simp only [bind_eq_ok] at h
    obtain ⟨blockers, hblockers, h⟩ := h
    split_ifs at h with hblocked
    · obtain rfl := pure_eq_ok.mp h
      exact ⟨hs.cash, hs.solvent, hs.closed, hs.booked⟩
    · simp only [bind_eq_ok, pure_eq_ok] at h
      obtain ⟨trade, htrade, rfl⟩ := h
      obtain rfl := not_not.mp hblocked
      obtain ⟨hbooked, hshort_fill, -⟩ := BacktestConfig.openTrade_booked htrade
      have hcash : s.availableCash = config.initialCashUsdt + netPnl s.trades := by
        rw [hs.cash, hclosed, Option.map_none, Option.getD_none, add_zero]
      have hpaid := entryBlockers_paid hblockers htrade
      exact {
        cash := by rw [hcash, Option.map_some, Option.getD_some, hshort_fill, add_zero]
        solvent := hs.solvent
        closed := hs.closed
        booked := by
          intro trade' htrade'
          obtain rfl := Option.some.inj htrade'
          exact ⟨⟨[], hbooked⟩, hcash ▸ hpaid⟩ }
  · obtain rfl := pure_eq_ok.mp h
    exact hs

lemma endCandle_amounts {trade next : OpenTrade}
    (h : config.endCandle .exact trade candle = .ok next) :
    next.realizedPartialPnl = trade.realizedPartialPnl ∧ next.entryPrice = trade.entryPrice ∧
      next.originalQuantity = trade.originalQuantity ∧ next.entryFee = trade.entryFee := by
  simp only [BacktestConfig.endCandle, bind_eq_ok, pure_eq_ok] at h
  obtain ⟨stop, -, position, -, rfl⟩ := h
  exact ⟨rfl, rfl, rfl, rfl⟩

lemma manageOpenTrade_conserves [UnicodeData] (hs : config.Conserves s)
    (h : config.manageOpenTrade .exact candle s = .ok t) : config.Conserves t := by
  rw [manageOpenTrade] at h
  split at h
  · obtain rfl := pure_eq_ok.mp h
    exact hs
  · rename_i trade hopen
    obtain ⟨⟨staged, hbooked⟩, hpaid⟩ := hs.booked trade hopen
    have hheld : Booked config.toBacktestConfig
        (BacktestConfig.holdCandle .exact trade candle) staged :=
      BacktestConfig.holdCandle_booked hbooked
    have hcash := hs.cash
    rw [hopen, Option.map_some, Option.getD_some] at hcash
    dsimp only at h
    split at h
    · rename_i exit hexit
      obtain ⟨hreference, htarget⟩ := BacktestConfig.evaluateLongExit_spec hexit
      split_ifs at h with hstaged
      · -- a staged exit: its PnL is credited, and the trade remembers it
        simp only [bind_eq_ok, pure_eq_ok] at h
        obtain ⟨reduced, hreduced, next, hnext, rfl⟩ := h
        obtain ⟨later, hlevels⟩ := htarget hstaged.1
        obtain ⟨exit', hbooked', hpnl⟩ :=
          BacktestConfig.partialExit_booked hheld hlevels hreduced
        obtain ⟨hpnl', hprice, horiginal, hfee⟩ := endCandle_amounts hnext
        have hkept : reduced.entryPrice = trade.entryPrice ∧
            reduced.originalQuantity = trade.originalQuantity ∧
            reduced.entryFee = trade.entryFee := by
          simp only [BacktestConfig.partialExit, bind_eq_ok, pure_eq_ok] at hreduced
          obtain ⟨price, -, position, -, rfl⟩ := hreduced
          exact ⟨rfl, rfl, rfl⟩
        have hheld_pnl : (BacktestConfig.holdCandle .exact trade candle).realizedPartialPnl =
          trade.realizedPartialPnl := rfl
        exact {
          cash := by
            simp only [recordStagedExit, Arithmetic.exact_add, Option.map_some, Option.getD_some,
              hpnl', hpnl, hheld_pnl, hcash]
            ring
          solvent := hs.solvent
          closed := hs.closed
          booked := by
            intro trade' htrade'
            obtain rfl := Option.some.inj htrade'
            refine ⟨⟨_, BacktestConfig.endCandle_booked hbooked' hnext⟩, ?_⟩
            rw [hprice, horiginal, hfee, hkept.1, hkept.2.1, hkept.2.2]
            exact hpaid }
      · simp only [bind_eq_ok, pure_eq_ok] at h
        obtain ⟨record, hrecord, rfl⟩ := h
        refine hs.close ?_ hheld hpaid hreference hrecord rfl rfl rfl rfl
        rw [hopen]
        rfl
    · simp only [bind_eq_ok, pure_eq_ok] at h
      obtain ⟨next, hnext, rfl⟩ := h
      obtain ⟨hpnl, hprice, horiginal, hfee⟩ := endCandle_amounts hnext
      exact {
        cash := by
          rw [Option.map_some, Option.getD_some, hpnl]
          exact hcash
        solvent := hs.solvent
        closed := hs.closed
        booked := by
          intro trade' htrade'
          obtain rfl := Option.some.inj htrade'
          refine ⟨⟨staged, BacktestConfig.endCandle_booked hheld hnext⟩, ?_⟩
          rw [hprice, horiginal, hfee]
          exact hpaid }

lemma consultProvider_conserves [UnicodeData] [LowerCase] {symbol timeframe : String}
    {provider : SignalProvider} {candles : List OHLCVCandle} (hs : config.Conserves s)
    (h : consultProvider symbol timeframe provider candles index candle s = .ok t) :
    config.Conserves t ∧ t.availableCash = s.availableCash ∧ t.equityCurve = s.equityCurve ∧
      (t.openTrade = none ↔ s.openTrade = none) := by
  simp only [consultProvider, bind_eq_ok] at h
  obtain ⟨answer, -, h⟩ := h
  cases answer with
  | none =>
    obtain rfl := pure_eq_ok.mp h
    exact ⟨⟨hs.cash, hs.solvent, hs.closed, hs.booked⟩, rfl, rfl, Iff.rfl⟩
  | some intent =>
    simp only [takeSignal, bind_eq_ok] at h
    obtain ⟨observationId, -, h⟩ := h
    split_ifs at h with hblocked
    · -- the open trade, if any, counts the signal as ignored
      obtain rfl := pure_eq_ok.mp h
      refine ⟨⟨?_, hs.solvent, hs.closed, ?_⟩, rfl, rfl, Option.map_eq_none_iff⟩
      · rw [hs.cash, Option.map_map]
        rfl
      · intro trade htrade
        obtain ⟨before, hbefore, rfl⟩ := Option.map_eq_some_iff.mp htrade
        obtain ⟨⟨staged, hbooked⟩, hpaid⟩ := hs.booked before hbefore
        exact ⟨⟨staged, BacktestConfig.Booked.congr hbooked rfl rfl rfl rfl rfl rfl rfl rfl rfl⟩,
          hpaid⟩
    · obtain rfl := pure_eq_ok.mp h
      exact ⟨⟨hs.cash, hs.solvent, hs.closed, hs.booked⟩, rfl, rfl, Iff.rfl⟩

/-- **Every candle conserves cash**, and while no trade is open its equity point is the
cash. -/
lemma barStep_conserves [UnicodeData] [LowerCase] {symbol timeframe : String}
    {provider : SignalProvider} {candles : List OHLCVCandle} (hs : config.Conserves s)
    (h : config.barStep .exact symbol timeframe provider candles index candle s = .ok t) :
    config.Conserves t ∧ (t.openTrade = none →
      t.equityCurve.getLast?.map (·.equityUsdt) = some t.availableCash) := by
  simp only [barStep, bind_eq_ok] at h
  obtain ⟨entered, hentered, managed, hmanaged, h⟩ := h
  have hmarked := manageOpenTrade_conserves (enterPending_conserves hs hentered) hmanaged
  have hconserves : config.Conserves (config.markEquity .exact candle managed) :=
    ⟨hmarked.cash, hmarked.solvent, hmarked.closed, hmarked.booked⟩
  obtain ⟨ht, hcash, hequity, hopen⟩ := consultProvider_conserves hconserves h
  refine ⟨ht, fun hnone => ?_⟩
  have hclosed : managed.openTrade = none := hopen.mp hnone
  rw [hequity, hcash, markEquity, List.getLast?_append, hclosed]
  rfl

/-- What the loop keeps: cash, and the equity point of the last candle. -/
lemma afterBars_conserves [UnicodeData] [LowerCase] {symbol timeframe : String}
    {provider : SignalProvider} {candles : List OHLCVCandle} {k : ℕ}
    (h : config.afterBars .exact symbol timeframe provider candles k = .ok s) :
    config.Conserves s ∧ (0 < (candles.take k).length → s.openTrade = none →
      s.equityCurve.getLast?.map (·.equityUsdt) = some s.availableCash) := by
  refine Loop.after_invariant (P := fun i s => config.Conserves s ∧ (0 < i → s.openTrade = none →
    s.equityCurve.getLast?.map (·.equityUsdt) = some s.availableCash)) ?_ h ⟨?_, by simp⟩
  · intro i candle s t _ hs ht
    obtain ⟨hconserves, hpoint⟩ := barStep_conserves hs.1 ht
    exact ⟨hconserves, fun _ => hpoint⟩
  · exact {
      cash := by simp [initialRun, netPnl]
      solvent := by simpa [initialRun, netPnl] using config.cash_pos.le
      closed := by simp [initialRun]
      booked := by simp [initialRun] }

/-- The end of the data conserves cash too. -/
lemma closeAtEnd_conserves [UnicodeData] {last : OHLCVCandle} (hs : config.Conserves s)
    (hpoint : s.openTrade = none →
      s.equityCurve.getLast?.map (·.equityUsdt) = some s.availableCash)
    (h : config.closeAtEnd .exact last s = .ok t) :
    config.Conserves { t with openTrade := none } ∧
      t.equityCurve.getLast?.map (·.equityUsdt) = some t.availableCash := by
  rw [closeAtEnd] at h
  split at h
  · rename_i hopen
    obtain rfl := pure_eq_ok.mp h
    refine ⟨⟨?_, hs.solvent, hs.closed, by simp⟩, hpoint hopen⟩
    rw [hs.cash, hopen]
  · rename_i trade hopen
    simp only [bind_eq_ok, pure_eq_ok] at h
    obtain ⟨record, hrecord, rfl⟩ := h
    obtain ⟨⟨staged, hbooked⟩, hpaid⟩ := hs.booked trade hopen
    refine ⟨hs.close ?_ hbooked hpaid last.nonneg.2.2.2.1 hrecord rfl rfl rfl rfl, ?_⟩
    · rw [hopen]
      rfl
    · rw [List.getLast?_append]
      rfl

/-- What a result says about the cash of its run: the last equity point is the initial
cash and the net PnL of all trades, it is not negative, and every trade is the sum of its
exits. -/
structure CashConserved (config : SpotBacktestConfig) (r : SpotResult) : Prop where
  last_equity : r.equityCurve.getLast?.map (·.equityUsdt) =
    some (config.initialCashUsdt + netPnl r.trades)
  solvent : 0 ≤ config.initialCashUsdt + netPnl r.trades
  trades : ∀ record ∈ r.trades, ∃ staged final,
    Decomposes config.toBacktestConfig record.amounts staged final

/-- Two results have the same equity curve and trades of the same amounts. -/
structure SameAmounts (r r' : SpotResult) : Prop where
  equityCurve_eq : r.equityCurve = r'.equityCurve
  trades_eq : r.trades.map (·.amounts) = r'.trades.map (·.amounts)

instance (r r' : SpotResult) : Decidable (SameAmounts r r') :=
  decidable_of_iff (r.equityCurve = r'.equityCurve ∧
    r.trades.map (·.amounts) = r'.trades.map (·.amounts))
    ⟨fun h => ⟨h.1, h.2⟩, fun h => ⟨h.equityCurve_eq, h.trades_eq⟩⟩

lemma CashConserved.of_sameAmounts {r r' : SpotResult} (h : CashConserved config r')
    (hsame : SameAmounts r r') : CashConserved config r := by
  have hnet : netPnl r.trades = netPnl r'.trades := by
    have hsum := congrArg (fun xs : List TradeAmounts => (xs.map (·.netPnlUsdt)).sum)
      hsame.trades_eq
    simpa [netPnl, TradeRecord.amounts, Function.comp_def] using hsum
  refine ⟨?_, hnet ▸ h.solvent, ?_⟩
  · rw [hsame.equityCurve_eq, hnet, h.last_equity]
  · intro record hrecord
    have hmem : record.amounts ∈ r'.trades.map (·.amounts) :=
      hsame.trades_eq ▸ List.mem_map_of_mem hrecord
    obtain ⟨record', hrecord', heq⟩ := List.mem_map.mp hmem
    exact heq ▸ h.trades record' hrecord'

lemma run_conserves [UnicodeData] [LowerCase] {symbol timeframe : String}
    {provider : SignalProvider} {candles : List OHLCVCandle} {r : SpotResult}
    (h : config.run .exact symbol timeframe provider candles = .ok r) : CashConserved config r := by
  simp only [run, bind_eq_ok] at h
  obtain ⟨_, hvalid, s, hloop, hfinish⟩ := h
  have hlong : 0 < (candles.take candles.length).length := by
    simp only [validateInputs, bind_eq_ok, raiseIf_eq_ok, not_lt] at hvalid
    obtain ⟨_, -, _, h, -⟩ := hvalid
    rw [List.take_length]
    omega
  rw [← Loop.after_length] at hloop
  obtain ⟨hs, hpoint⟩ := afterBars_conserves hloop
  simp only [finishRun, bind_eq_ok, pure_eq_ok] at hfinish
  obtain ⟨first, -, last, -, closed, hclosed, benchmark, -, missed, -, _, -, rfl⟩ := hfinish
  obtain ⟨htrades, hopen, -, hequity, hcash, -⟩ := rejectPending_records candles.length s
  have hpending : config.Conserves (rejectPending candles.length s) := by
    refine ⟨?_, ?_, ?_, ?_⟩
    · rw [hcash, htrades, hopen]
      exact hs.cash
    · rw [htrades]
      exact hs.solvent
    · rw [htrades]
      exact hs.closed
    · rw [htrades, hopen]
      exact hs.booked
  obtain ⟨hend, hlast⟩ := closeAtEnd_conserves hpending (by
    rw [hopen, hequity, hcash]
    exact hpoint hlong) hclosed
  refine ⟨?_, hend.solvent, hend.closed⟩
  have hfinal := hend.cash
  rw [Option.map_none, Option.getD_none, add_zero] at hfinal
  exact hlast.trans (congrArg some hfinal)

/-- **Cash is conserved.**  In exact arithmetic, while no trade is open the cash is the
initial cash and the net PnL of the trades closed so far, and never negative.  A run whose
amounts the rounding of its arithmetic leaves as they are ends with the initial cash and
the net PnL of all its trades, each of them the sum of its exits. -/
theorem spot_cash_is_conserved [UnicodeData] [LowerCase] (config : SpotBacktestConfig)
    (symbol timeframe : String) (provider : SignalProvider) (candles : List OHLCVCandle) :
    (∀ k s, config.afterBars .exact symbol timeframe provider candles k = .ok s →
      s.openTrade = none → s.availableCash = config.initialCashUsdt + netPnl s.trades ∧
        0 ≤ s.availableCash) ∧
    ∀ (a : Arithmetic) (r r' : SpotResult),
      config.run a symbol timeframe provider candles = .ok r →
      config.run .exact symbol timeframe provider candles = .ok r' → SameAmounts r r' →
      CashConserved config r := by
  constructor
  · intro k s hs hopen
    obtain ⟨hconserves, -⟩ := afterBars_conserves hs
    have hcash := hconserves.cash
    rw [hopen, Option.map_none, Option.getD_none, add_zero] at hcash
    exact ⟨hcash, hcash ▸ hconserves.solvent⟩
  · intro a r r' hr hr' hsame
    exact (run_conserves hr').of_sameAmounts hsame

/-! ### Two sample runs under the decimal context -/

/-- The rising sample has the amounts of exact arithmetic under the default context, and
conserves cash. -/
theorem rising_sample_conserves : ∃ r : SpotResult,
    defaultConfig.run .decimal "BTCUSDT" "1m" closeProvider risingCandles = .ok r ∧
      r.trades.length = 1 ∧ CashConserved defaultConfig r := by
  have hboth : (defaultConfig.run .exact "BTCUSDT" "1m" closeProvider risingCandles).toOption.any
      fun r' => (defaultConfig.run .decimal "BTCUSDT" "1m" closeProvider
        risingCandles).toOption.any fun r => decide (SameAmounts r r' ∧ r.trades.length = 1) := by
    decide +kernel
  obtain ⟨r', hr', hp'⟩ := exists_ok_of_any hboth
  obtain ⟨r, hr, hp⟩ := exists_ok_of_any hp'
  obtain ⟨hsame, hcount⟩ := of_decide_eq_true hp
  exact ⟨r, hr, hcount, (spot_cash_is_conserved defaultConfig "BTCUSDT" "1m" closeProvider
    risingCandles).2 .decimal r r' hr hr' hsame⟩

/-- Ten thousand of cash, a third of a coin and a fee of 0.00075. -/
def thirdConfig : SpotBacktestConfig where
  initialCashUsdt := 10000
  quantity := 33333333 / 100000000
  feeRatio := 75 / 100000
  quantity_pos := by norm_num
  fee_bounds := by norm_num
  slippage_bounds := BacktestConfig.default_slippage
  trailing_pos := BacktestConfig.default_trailing
  tick_pos := BacktestConfig.default_step
  step_pos := BacktestConfig.default_step
  cash_pos := by norm_num
  notional_pos := default_notional

/-- A signal that sells two thirds at its first target. -/
def twoThirdsIntent (timestamp : ℤ) : BacktestIntent where
  signalId := "s1"
  timestamp := timestamp
  stopLoss := 90
  takeProfit := 1116 / 10
  atr := 4
  takeProfitLevels := [1116 / 10, 12003 / 100]
  partialExitRatio := 666667 / 1000000
  prices_pos := by norm_num
  levels_sorted := by decide +kernel
  ratio_bounds := by norm_num
  breakeven_pos := BacktestIntent.default_trigger
  trailing_pos := BacktestIntent.default_trigger
  holding_pos := BacktestIntent.default_holding
  funnel_ok := BacktestIntent.default_funnel

/-- A provider that signals on the first candle. -/
def firstProvider : SignalProvider := fun history =>
  .ok (if history.length = 1 then some (twoThirdsIntent 0) else none)

/-- An entry, the first target and the second one. -/
def targetCandles : List OHLCVCandle :=
  [minuteCandle 0 100 101 99 100 flatRange,
    minuteCandle 1 (9965 / 100) 105 98 104 (by norm_num),
    minuteCandle 2 104 112 103 111 targetRange,
    minuteCandle 3 111 125 110 122 risingRange]

/-- Under the default context the last equity point of a run can miss the sum, of exact
numbers and of rounded ones: the cash of each staged exit is rounded on its own. -/
theorem decimal_context_loses_cash : ∃ r : SpotResult,
    thirdConfig.run .decimal "BTCUSDT" "1m" firstProvider targetCandles = .ok r ∧
      ∃ point ∈ r.equityCurve.getLast?,
        point.equityUsdt ≠ thirdConfig.initialCashUsdt + netPnl r.trades ∧
        point.equityUsdt ≠ Arithmetic.decimal.add thirdConfig.initialCashUsdt
          (Arithmetic.decimal.sum (r.trades.map (·.netPnlUsdt))) := by
  have hmiss : (thirdConfig.run .decimal "BTCUSDT" "1m" firstProvider targetCandles).toOption.any
      fun r => r.equityCurve.getLast?.any fun point => decide
        (point.equityUsdt ≠ thirdConfig.initialCashUsdt + netPnl r.trades ∧
          point.equityUsdt ≠ Arithmetic.decimal.add thirdConfig.initialCashUsdt
            (Arithmetic.decimal.sum (r.trades.map (·.netPnlUsdt)))) := by
    decide +kernel
  obtain ⟨r, hr, hp⟩ := exists_ok_of_any hmiss
  obtain ⟨point, hpoint, hne⟩ := (Option.any_eq_true _ _).mp hp
  exact ⟨r, hr, point, hpoint, of_decide_eq_true hne⟩

end SpotBacktestConfig

end Ai4Binance
