/-
The exchange grid of the prices and quantities of the two backtest engines and of the virtual
runtime (`research/backtesting/engine.py`, `research/backtesting/futures_engine.py`,
`application/virtual_runtime_engine.py`).

All three round with `Decimal.quantize`, which goes by the exponent of the tick or step and not
by its value.  The exits of a Spot position of the virtual runtime are not rounded at all, and
neither is the quantity of a staged exit.

* `Priced`, `Quantified`: the prices and quantities that the three produce, with what they are
  rounded from;
* `exchange_grid_law`: **those that are rounded are on the grid, and on their side of it, exactly
  if tick and step are powers of ten without trailing zeros**;
* `coarse_tick_leaves_grid`: the three ways to leave the grid.
-/
import Ai4Binance.Backtesting.SpotConservation
import Ai4Binance.Backtesting.TradeLife

open Text Check

namespace Ai4Binance

/-! ### The law -/

/-- What an order does. -/
inductive TradeSide where
  | buy
  | sell
  deriving DecidableEq, Repr

/-- The rounding of the price of an order. -/
def TradeSide.rounding : TradeSide → Rounding
  | .buy => .up
  | .sell => .down

/-- A price on the grid of a tick, for a buy not below and for a sell not above the one that
was rounded. -/
structure OnPriceGrid (tick : ℚ) (side : TradeSide) (raw price : ℚ) : Prop where
  multiple : price ∈ AddSubgroup.zmultiples tick
  on_side : match side with
    | .buy => raw ≤ price
    | .sell => price ≤ raw

/-- The largest multiple of a step that is not above a quantity. -/
def OnQuantityGrid (step requested quantity : ℚ) : Prop :=
  IsGreatest {y | y ∈ AddSubgroup.zmultiples step ∧ y ≤ requested} quantity

/-- A price that was quantized at the exponent of a power of ten is on its grid. -/
lemma onPriceGrid_of_quantize {c : Context} {tick : Decimal} (side : TradeSide) {raw price : ℚ}
    (htick : 0 < tick.toRat) (hunit : tick.coeff = 1) (hraw : 0 ≤ raw)
    (h : c.quantize side.rounding raw tick.exp = some price) :
    OnPriceGrid tick.toRat side raw price := by
  refine ⟨?_, ?_⟩
  · rw [Decimal.toRat_of_coeff_one htick hunit]
    exact Context.quantize_mem h
  · cases side with
    | buy => exact Context.le_quantize_up hraw h
    | sell => exact Context.quantize_down_le hraw h

/-- Rounding down twice, with a bound in between, is rounding down the smaller one. -/
lemma onQuantityGrid_min {step requested rounded capacity quantity : ℚ}
    (h : OnQuantityGrid step requested rounded)
    (h' : OnQuantityGrid step (min rounded capacity) quantity) :
    OnQuantityGrid step (min requested capacity) quantity := by
  obtain ⟨⟨hmem, hle⟩, hmax⟩ := h'
  refine ⟨⟨hmem, hle.trans (min_le_min_right _ h.1.2)⟩, ?_⟩
  rintro y ⟨hy, hyle⟩
  refine hmax ⟨hy, le_min (h.2 ⟨hy, hyle.trans (min_le_left _ _)⟩) (hyle.trans (min_le_right _ _))⟩

/-- Zero is the only multiple up to a smaller bound, if it is the largest up to a larger one. -/
lemma onQuantityGrid_zero {step requested capacity : ℚ} (hcapacity : 0 ≤ capacity)
    (h : OnQuantityGrid step requested 0) : OnQuantityGrid step (min requested capacity) 0 := by
  refine ⟨⟨h.1.1, le_min h.1.2 hcapacity⟩, ?_⟩
  rintro y ⟨hy, hyle⟩
  exact h.2 ⟨hy, hyle.trans (min_le_left _ _)⟩

/-! ### What is rounded -/

/-- The quantity that the volume of a candle leaves of an order. -/
def fillable (quantity volume : ℚ) : Option LiquidityStressConfig → ℚ
  | none => quantity
  | some stress => min quantity (volume * stress.maxVolumeParticipation)

/-- The quantity that a request may fill. -/
def VirtualRuntimeRequest.fillable (request : VirtualRuntimeRequest) : ℚ :=
  match request.candleVolume with
  | none => request.quantity
  | some volume => min request.quantity (volume * request.liquidityStress.maxVolumeParticipation)

/-- The side of the entry of a Futures trade. -/
def TradeDirection.entrySide : TradeDirection → TradeSide
  | .long => .buy
  | .short => .sell

/-- The side of the exit of a Futures trade. -/
def TradeDirection.exitSide : TradeDirection → TradeSide
  | .long => .sell
  | .short => .buy

/-- A price moved against an order by a ratio. -/
def TradeSide.against (side : TradeSide) (a : Arithmetic) (price ratio : ℚ) : ℚ :=
  a.mul price (match side with | .buy => a.add 1 ratio | .sell => a.sub 1 ratio)

/-- Where a price comes from. -/
inductive PriceKind where
  | spotEntry
  | spotExit
  | spotStagedExit
  | futuresEntry
  | futuresExit
  | virtualEntry
  | virtualSpotExit
  | virtualFuturesExit
  deriving DecidableEq, Repr

/-- Where a quantity comes from. -/
inductive QuantityKind where
  | spotEntry
  | spotExit
  | spotStagedExit
  | futuresEntry
  | futuresExit
  | virtualEntry
  | virtualExit
  deriving DecidableEq, Repr

open Arithmetic BacktestConfig in
/-- The entry and exit prices of the three engines, with the side of the order and the price
before it is rounded. -/
inductive Priced [UnicodeData] (tick : Decimal) : PriceKind → TradeSide → ℚ → ℚ → Prop
  | spotEntry {config : BacktestConfig} {intent : BacktestIntent} {candle : OHLCVCandle}
      {fill : EntryFill} {trade : OpenTrade} (htick : config.tickSize = tick)
      (hfill : config.entryFill candle = .ok fill)
      (h : config.openTrade decimal intent candle = .ok trade) :
      Priced tick .spotEntry .buy (decimal.mul candle.open
        (decimal.add (decimal.add 1 config.slippageRatio) fill.priceImpactRatio)) trade.entryPrice
  | spotExit {config : BacktestConfig} {intent : BacktestIntent} {first candle : OHLCVCandle}
      {bars : List OHLCVCandle} {trade : OpenTrade} {exit : ExitDecision} {record : TradeRecord}
      (htick : config.tickSize = tick) (before : config.Held decimal intent first bars trade)
      (hexit : evaluateLongExit (holdCandle decimal trade candle).intent
        (holdCandle decimal trade candle).position candle
        (holdCandle decimal trade candle).barsHeld = some exit)
      (h : config.closeTrade decimal (holdCandle decimal trade candle) candle exit.reason
        exit.referencePrice = .ok record) :
      Priced tick .spotExit .sell
        (TradeSide.against .sell decimal exit.referencePrice config.slippageRatio) record.exitPrice
  | spotEndOfData {config : BacktestConfig} {intent : BacktestIntent} {first last : OHLCVCandle}
      {bars : List OHLCVCandle} {trade : OpenTrade} {record : TradeRecord}
      (htick : config.tickSize = tick) (before : config.Held decimal intent first bars trade)
      (h : config.closeTrade decimal trade last .endOfData last.close = .ok record) :
      Priced tick .spotExit .sell
        (TradeSide.against .sell decimal last.close config.slippageRatio) record.exitPrice
  | spotStagedExit {config : BacktestConfig} {intent : BacktestIntent}
      {first candle : OHLCVCandle} {bars : List OHLCVCandle} {trade reduced : OpenTrade}
      {exit : ExitDecision} {staged : StagedExitRecord}
      (htick : config.tickSize = tick) (before : config.Held decimal intent first bars trade)
      (hexit : evaluateLongExit (holdCandle decimal trade candle).intent
        (holdCandle decimal trade candle).position candle
        (holdCandle decimal trade candle).barsHeld = some exit)
      (h : config.partialExit decimal (holdCandle decimal trade candle) candle
        exit.referencePrice = .ok reduced)
      (hstaged : reduced.stagedExits = trade.stagedExits ++ [staged]) :
      Priced tick .spotStagedExit .sell
        (TradeSide.against .sell decimal exit.referencePrice config.slippageRatio) staged.price
  | futuresEntry {config : FuturesRunConfig} {signal : FuturesSignal} {bar : ReplayCandle}
      {availableCash : ℚ} {blockers : List String} {fill : EntryFill} {trade : FuturesTrade}
      (htick : config.tickSize = tick) (hfill : config.entryFill bar.candle = .ok fill)
      (hblockers : config.entryBlockers decimal signal bar availableCash = .ok blockers)
      (hfree : ∀ blocker ∈ blockers, blocker = "STOP_BEYOND_LIQUIDATION")
      (h : config.openTrade decimal signal bar.candle = .ok trade) :
      Priced tick .futuresEntry signal.direction.entrySide
        (signal.direction.entrySide.against decimal bar.candle.open
          (decimal.add config.slippageRatio fill.priceImpactRatio)) trade.entryPrice
  | futuresExit {config : FuturesRunConfig} {dataset : RuntimeFuturesReplayDataset}
      {bar : ReplayCandle} {held : FuturesTrade} {decision : ExitDecision}
      {record : FuturesTradeRecord} (htick : config.tickSize = tick)
      (hdecision : held.exitDecision bar = some decision)
      (h : config.exitTrade decimal dataset held bar decision = .ok record) :
      Priced tick .futuresExit held.intent.direction.exitSide
        (held.intent.direction.exitSide.against decimal decision.referencePrice
          config.slippageRatio) record.exitPrice
  | futuresEndOfData {config : FuturesRunConfig} {dataset : RuntimeFuturesReplayDataset}
      {last : OHLCVCandle} {trade : FuturesTrade} {record : FuturesTradeRecord}
      (htick : config.tickSize = tick)
      (h : config.closeAtEndOfData decimal dataset trade last = .ok record) :
      Priced tick .futuresExit trade.intent.direction.exitSide
        (trade.intent.direction.exitSide.against decimal last.close config.slippageRatio)
        record.exitPrice
  | virtualEntry {request : VirtualRuntimeRequest} {preview : VirtualFillPreview}
      (htick : request.tickSize = tick) (h : request.fillPreview = .ok preview)
      (hfree : preview.blockers = []) :
      Priced tick .virtualEntry (if request.action = .buy then .buy else .sell)
        (TradeSide.against (if request.action = .buy then .buy else .sell) exact
          request.entryPrice
          (request.slippageRatio + request.halfSpreadRatio + preview.priceImpactRatio))
        preview.executionPrice
  | virtualSpotExit {request : VirtualRuntimeRequest} {position : VirtualManagedPosition}
      {p : VirtualPortfolioState} {candle : OHLCVCandle} {context : VirtualExitContext}
      {update : VirtualPositionUpdateDecision} {e : VirtualPositionExit}
      (htick : request.tickSize = tick) (before : Managed request position)
      (h : position.processSpotPosition p candle context = .ok update)
      (he : e ∈ update.positionAfter.exits) :
      Priced tick .virtualSpotExit .sell e.price e.price
  | virtualFuturesExit {request : VirtualRuntimeRequest} {position : VirtualManagedPosition}
      {margin : FuturesMargin} {candle : OHLCVCandle} {context : VirtualExitContext}
      {futuresContext : VirtualFuturesPositionContext} {orders : List ExitOrder}
      {order : ExitOrder} {e : VirtualPositionExit}
      (htick : request.tickSize = tick) (before : Managed request position)
      (horders : position.futuresExitOrders margin candle context futuresContext = .ok orders)
      (horder : order ∈ orders) (h : position.futuresExit candle.timestamp order = .ok e) :
      Priced tick .virtualFuturesExit
        (match position.positionSide with | .long => .sell | .short => .buy)
        (TradeSide.against (match position.positionSide with | .long => .sell | .short => .buy)
          exact order.referencePrice position.slippageRatio) e.price

open Arithmetic BacktestConfig in
/-- The filled quantities of the three engines, with the quantity before it is rounded.  An exit
that is not staged closes what the entry filled. -/
inductive Quantified [UnicodeData] (step : Decimal) : QuantityKind → ℚ → ℚ → Prop
  | spotEntry {config : BacktestConfig} {intent : BacktestIntent} {candle : OHLCVCandle}
      {trade : OpenTrade} (hstep : config.stepSize = step)
      (h : config.openTrade decimal intent candle = .ok trade) :
      Quantified step .spotEntry (fillable config.quantity candle.volume config.liquidityStress)
        trade.originalQuantity
  | spotExit {config : BacktestConfig} {intent : BacktestIntent} {first candle : OHLCVCandle}
      {bars : List OHLCVCandle} {trade : OpenTrade} {reason : BacktestExitReason}
      {referencePrice : ℚ} {record : TradeRecord} (hstep : config.stepSize = step)
      (before : config.Held decimal intent first bars trade) (hwhole : trade.stagedExits = [])
      (h : config.closeTrade decimal trade candle reason referencePrice = .ok record) :
      Quantified step .spotExit (fillable config.quantity first.volume config.liquidityStress)
        trade.position.quantity
  | spotStagedExit {config : BacktestConfig} {intent : BacktestIntent}
      {first candle : OHLCVCandle} {bars : List OHLCVCandle} {trade reduced : OpenTrade}
      {referencePrice : ℚ} {staged : StagedExitRecord} (hstep : config.stepSize = step)
      (before : config.Held decimal intent first bars trade)
      (h : config.partialExit decimal (holdCandle decimal trade candle) candle referencePrice =
        .ok reduced)
      (hstaged : reduced.stagedExits = trade.stagedExits ++ [staged]) :
      Quantified step .spotStagedExit
        (decimal.mul trade.position.quantity trade.intent.partialExitRatio) staged.quantity
  | spotRemainder {config : BacktestConfig} {intent : BacktestIntent}
      {first candle : OHLCVCandle} {bars : List OHLCVCandle} {trade : OpenTrade}
      {reason : BacktestExitReason} {referencePrice : ℚ} {record : TradeRecord}
      (hstep : config.stepSize = step) (before : config.Held decimal intent first bars trade)
      (hpart : trade.stagedExits ≠ [])
      (h : config.closeTrade decimal trade candle reason referencePrice = .ok record) :
      Quantified step .spotStagedExit trade.position.quantity trade.position.quantity
  | futuresEntry {config : FuturesRunConfig} {signal : FuturesSignal} {candle : OHLCVCandle}
      {trade : FuturesTrade} (hstep : config.stepSize = step)
      (h : config.openTrade decimal signal candle = .ok trade) :
      Quantified step .futuresEntry
        (fillable config.quantity candle.volume config.liquidityStress) trade.quantity
  | futuresExit {config : FuturesRunConfig} {dataset : RuntimeFuturesReplayDataset}
      {signal : FuturesSignal} {first : ReplayCandle} {bars : List ReplayCandle}
      {trade : FuturesTrade} {exitTimestamp : ℤ} {decision : ExitDecision}
      {record : FuturesTradeRecord} (hstep : config.stepSize = step)
      (before : config.Held decimal dataset signal first bars trade)
      (h : config.closeTrade decimal trade exitTimestamp decision = .ok record) :
      Quantified step .futuresExit
        (fillable config.quantity first.candle.volume config.liquidityStress) record.quantity
  | virtualEntry {request : VirtualRuntimeRequest} {preview : VirtualFillPreview}
      (hstep : request.stepSize = step) (h : request.fillPreview = .ok preview)
      (hfree : preview.blockers = []) :
      Quantified step .virtualEntry request.fillable preview.filledQuantity
  | virtualExit {request : VirtualRuntimeRequest} {position : VirtualManagedPosition}
      {p : VirtualPortfolioState} {event : CandleEvent} {update : VirtualPositionUpdateDecision}
      {e : VirtualPositionExit} (hstep : request.stepSize = step)
      (before : Managed request position)
      (h : position.processPosition p event.candle event.context event.futuresContext
        event.availableAt = .ok update)
      (he : e ∈ update.positionAfter.exits) :
      Quantified step .virtualExit request.fillable e.quantity

/-! ### Prices -/

section Prices

variable {tick : Decimal} {side : TradeSide} {raw price : ℚ}

lemma Arithmetic.decimal_round_nonneg {x : ℚ} (hx : 0 ≤ x) : 0 ≤ Arithmetic.decimal.round x := by
  rw [decimal]
  cases hround : Context.default.round x with
  | none => simpa [hround] using hx
  | some r => simpa [hround] using Context.round_nonneg hx hround

/-- A price moved against an order by at most itself is not negative. -/
lemma TradeSide.against_nonneg {a : Arithmetic} (ha : ∀ x, 0 ≤ x → 0 ≤ a.round x) {ratio : ℚ}
    (hprice : 0 ≤ price) (hratio : 0 ≤ ratio) (hle : ratio ≤ 1) :
    0 ≤ side.against a price ratio := by
  cases side with
  | buy => exact ha _ (mul_nonneg hprice (ha _ (by linarith)))
  | sell => exact ha _ (mul_nonneg hprice (ha _ (by linarith)))

/-- A positive price that was quantized is on the grid. -/
lemma onPriceGrid_of_pos {c : Context} (side : TradeSide) (htick : 0 < tick.toRat) (hunit : tick.coeff = 1)
    (hprice : 0 < price) (h : c.quantize side.rounding raw tick.exp = some price) :
    OnPriceGrid tick.toRat side raw price :=
  onPriceGrid_of_quantize side htick hunit (Context.nonneg_of_quantize_pos h hprice) h

/-- The exit prices of a configuration are on its grid. -/
lemma BacktestConfig.exit_onPriceGrid {config : BacktestConfig} {reference : ℚ}
    (htick : config.tickSize = tick) (hunit : tick.coeff = 1) (hreference : 0 ≤ reference)
    (h : config.roundPrice (side.against .decimal reference config.slippageRatio) side.rounding =
      .ok price) :
    OnPriceGrid tick.toRat side (side.against .decimal reference config.slippageRatio) price := by
  subst htick
  have hbounds := config.slippage_bounds
  have hraw : 0 ≤ side.against .decimal reference config.slippageRatio :=
    TradeSide.against_nonneg (fun x hx => Arithmetic.decimal_round_nonneg hx) hreference
      hbounds.1.le (by linarith [hbounds.2])
  exact onPriceGrid_of_quantize side config.tick_pos hunit hraw (orRaise_eq_ok.mp h)

lemma FuturesRunConfig.exitPrice_eq {config : FuturesRunConfig} {direction : TradeDirection}
    {reference : ℚ} : config.exitPrice .decimal direction reference =
      config.roundPrice (direction.exitSide.against .decimal reference config.slippageRatio)
        direction.exitSide.rounding := by
  cases direction <;> rfl

/-- The reference price of a decision is not negative. -/
lemma FuturesTrade.exitDecision_nonneg {trade : FuturesTrade} {bar : ReplayCandle}
    {decision : ExitDecision} (h : trade.exitDecision bar = some decision) :
    0 ≤ decision.referencePrice := by
  obtain ⟨hstop, htarget⟩ := trade.exitLoopTrade.intent.prices_pos
  have hmark := (bar.markCandle.getD bar.candle).nonneg
  have hcandle := bar.candle.nonneg
  rw [exitDecision, OpenFuturesTrade.exitDecision] at h
  split at h
  · split_ifs at h with hliquidated hstopped hreached
    · obtain rfl := Option.some.inj h
      exact le_min hmark.1 (hmark.2.2.1.trans hliquidated)
    · obtain rfl := Option.some.inj h
      exact le_min hcandle.1 hstop.le
    · obtain rfl := Option.some.inj h
      exact htarget.le
    · rw [OpenFuturesTrade.timeExit] at h
      split_ifs at h
      obtain rfl := Option.some.inj h
      exact hcandle.2.2.2.1
  · split_ifs at h with hliquidated hstopped hreached
    · obtain rfl := Option.some.inj h
      exact le_max_of_le_left hmark.1
    · obtain rfl := Option.some.inj h
      exact le_max_of_le_left hcandle.1
    · obtain rfl := Option.some.inj h
      exact htarget.le
    · rw [OpenFuturesTrade.timeExit] at h
      split_ifs at h
      obtain rfl := Option.some.inj h
      exact hcandle.2.2.2.1

/-- A closed Futures trade has the exit price of its direction, and its quantity. -/
lemma FuturesRunConfig.closeTrade_values {config : FuturesRunConfig} {trade : FuturesTrade}
    {exitTimestamp : ℤ} {decision : ExitDecision} {record : FuturesTradeRecord}
    (h : config.closeTrade .decimal trade exitTimestamp decision = .ok record) :
    config.exitPrice .decimal trade.intent.direction decision.referencePrice =
      .ok record.exitPrice ∧ record.quantity = trade.quantity := by
  simp only [closeTrade, bind_eq_ok, pure_eq_ok] at h
  obtain ⟨price, hprice, rfl⟩ := h
  exact ⟨hprice, rfl⟩

lemma FuturesRunConfig.exitTrade_price {config : FuturesRunConfig}
    {dataset : RuntimeFuturesReplayDataset} {held : FuturesTrade} {bar : ReplayCandle}
    {decision : ExitDecision} {record : FuturesTradeRecord}
    (h : config.exitTrade .decimal dataset held bar decision = .ok record) :
    config.exitPrice .decimal held.intent.direction decision.referencePrice =
      .ok record.exitPrice := by
  have hnoted : held.Keeps (held.noteDecision bar decision) :=
    FuturesTrade.noteDecision_keeps bar decision
  have hprice := (closeTrade_values h).1
  split_ifs at hprice
  · rwa [(hnoted.trans (applyCandleCloseFunding_keeps _)).intent_eq] at hprice
  · rwa [hnoted.intent_eq] at hprice

lemma FuturesRunConfig.closeAtEndOfData_price {config : FuturesRunConfig}
    {dataset : RuntimeFuturesReplayDataset} {trade : FuturesTrade} {last : OHLCVCandle}
    {record : FuturesTradeRecord}
    (h : config.closeAtEndOfData .decimal dataset trade last = .ok record) :
    config.exitPrice .decimal trade.intent.direction last.close = .ok record.exitPrice := by
  have hprice := (closeTrade_values h).1
  rwa [(applyCandleCloseFunding_keeps (a := .decimal) last).intent_eq] at hprice

/-- The fill of a preview without blockers. -/
lemma VirtualRuntimeRequest.fillPreview_filled (request : VirtualRuntimeRequest)
    {preview : VirtualFillPreview} (h : request.fillPreview = .ok preview)
    (hfree : preview.blockers = []) :
    ∃ rounded blockers reasonCodes, request.roundQuantity request.quantity = .ok rounded ∧
      0 < rounded ∧ request.liquidityFill rounded =
        .ok (preview.filledQuantity, preview.priceImpactRatio, blockers, reasonCodes) ∧
      0 < preview.filledQuantity ∧
      request.roundPrice (request.entryPrice *
        if request.action = .buy then
          1 + (request.slippageRatio + request.halfSpreadRatio + preview.priceImpactRatio)
        else 1 - (request.slippageRatio + request.halfSpreadRatio + preview.priceImpactRatio)) =
          .ok preview.executionPrice := by
  have hfilled := request.fillPreview_spec h hfree
  simp only [fillPreview, bind_eq_ok] at h
  obtain ⟨rounded, hrounded, h⟩ := h
  split_ifs at h with hzero
  · obtain rfl := pure_eq_ok.mp h
    exact absurd hfilled.quantity_pos (lt_irrefl 0)
  · simp only [bind_eq_ok] at h
    obtain ⟨⟨filled, impact, blockers, reasonCodes⟩, hliquidity, h⟩ := h
    dsimp only at h
    split_ifs at h with hnone
    · obtain rfl := pure_eq_ok.mp h
      exact absurd hfilled.quantity_pos (lt_irrefl 0)
    · simp only [filledPreview, bind_eq_ok] at h
      obtain ⟨price, hprice, h⟩ := h
      obtain rfl := pure_eq_ok.mp h
      exact ⟨rounded, blockers, reasonCodes, hrounded, not_le.mp hzero, hliquidity,
        not_le.mp hnone, hprice⟩

/-- An admitted entry has a positive price. -/
lemma FuturesRunConfig.entryPrice_pos {config : FuturesRunConfig} {signal : FuturesSignal}
    {bar : ReplayCandle} {availableCash entry : ℚ} {blockers : List String}
    {fill : BacktestConfig.EntryFill} (hfill : config.entryFill bar.candle = .ok fill)
    (hentry : config.entryPrice .decimal signal.direction bar.candle.open fill = .ok entry)
    (h : config.entryBlockers .decimal signal bar availableCash = .ok blockers)
    (hfree : ∀ blocker ∈ blockers, blocker = "STOP_BEYOND_LIQUIDATION") : 0 < entry := by
  simp only [entryBlockers, bind_eq_ok] at h
  obtain ⟨fill', hfill', fillBlockers, -, entry', hentry', h⟩ := h
  obtain rfl := Except.ok.inj (hfill.symm.trans hfill')
  obtain rfl := Except.ok.inj (hentry.symm.trans hentry')
  by_contra hle
  rw [if_pos (not_lt.mp hle)] at h
  obtain rfl := pure_eq_ok.mp h
  exact absurd (hfree "INVALID_NEXT_BAR_ENTRY_PRICE" (by simp)) (by decide)

variable [UnicodeData]

/-- **A price that is rounded at a power of ten is on the grid.** -/
theorem Priced.onPriceGrid {kind : PriceKind} (h : Priced tick kind side raw price)
    (hkind : kind ≠ .virtualSpotExit) (htick : 0 < tick.toRat) (hunit : tick.coeff = 1) :
    OnPriceGrid tick.toRat side raw price := by
  cases h with
  | @spotEntry config intent candle fill trade hsame hfill h =>
    simp only [BacktestConfig.openTrade, hfill, ok_bind, bind_eq_ok, pure_eq_ok] at h
    obtain ⟨entry, hentry, position, hposition, rfl⟩ := h
    subst hsame
    have hpos : 0 < entry :=
      (BacktestConfig.create_eq_ok hposition).2.2 ▸ position.values_pos.1
    exact onPriceGrid_of_pos .buy htick hunit hpos (orRaise_eq_ok.mp hentry)
  | spotExit hsame before hexit h =>
    simp only [BacktestConfig.closeTrade, bind_eq_ok, pure_eq_ok] at h
    obtain ⟨price, hprice, rfl⟩ := h
    exact BacktestConfig.exit_onPriceGrid hsame hunit
      (BacktestConfig.evaluateLongExit_spec hexit).1 hprice
  | @spotEndOfData config intent first last bars trade record hsame before h =>
    simp only [BacktestConfig.closeTrade, bind_eq_ok, pure_eq_ok] at h
    obtain ⟨price, hprice, rfl⟩ := h
    exact BacktestConfig.exit_onPriceGrid hsame hunit last.nonneg.2.2.2.1 hprice
  | spotStagedExit hsame before hexit h hstaged =>
    simp only [BacktestConfig.partialExit, bind_eq_ok, pure_eq_ok] at h
    obtain ⟨price, hprice, position, -, rfl⟩ := h
    have hlast := List.append_cancel_left hstaged
    obtain rfl := (List.cons.inj hlast).1
    exact BacktestConfig.exit_onPriceGrid hsame hunit
      (BacktestConfig.evaluateLongExit_spec hexit).1 hprice
  | @futuresEntry config signal bar cash blockers fill trade hsame hfill hblockers hfree h =>
    simp only [FuturesRunConfig.openTrade, hfill, ok_bind, bind_eq_ok, pure_eq_ok] at h
    obtain ⟨entry, hentry, liquidation, -, rfl⟩ := h
    subst hsame
    have hpos := FuturesRunConfig.entryPrice_pos hfill hentry hblockers hfree
    cases hdirection : signal.direction with
    | long =>
      rw [hdirection] at hentry
      exact onPriceGrid_of_pos .buy htick hunit hpos (orRaise_eq_ok.mp hentry)
    | short =>
      rw [hdirection] at hentry
      exact onPriceGrid_of_pos .sell htick hunit hpos (orRaise_eq_ok.mp hentry)
  | futuresExit hsame hdecision h =>
    have hprice := FuturesRunConfig.exitTrade_price h
    rw [FuturesRunConfig.exitPrice_eq] at hprice
    exact BacktestConfig.exit_onPriceGrid hsame hunit
      (FuturesTrade.exitDecision_nonneg hdecision) hprice
  | @futuresEndOfData config dataset last trade record hsame h =>
    have hprice := FuturesRunConfig.closeAtEndOfData_price h
    rw [FuturesRunConfig.exitPrice_eq] at hprice
    exact BacktestConfig.exit_onPriceGrid hsame hunit last.nonneg.2.2.2.1 hprice
  | @virtualEntry request preview hsame h hfree =>
    obtain ⟨rounded, blockers, reasonCodes, -, -, -, hquantity, hprice⟩ :=
      request.fillPreview_filled h hfree
    have hfilled := request.fillPreview_spec h hfree
    have hpos : 0 < preview.executionPrice := by
      have hgross := request.minimumNotional_pos.trans_le hfilled.minimum_le
      rw [hfilled.gross_eq] at hgross
      exact (mul_pos_iff_of_pos_right hquantity).mp hgross
    rw [VirtualRuntimeRequest.roundPrice, orRaise_eq_ok, hsame] at hprice
    split_ifs at hprice ⊢ with hbuy
    · exact onPriceGrid_of_pos .buy htick hunit hpos hprice
    · exact onPriceGrid_of_pos .sell htick hunit hpos hprice
  | virtualSpotExit hsame before h he => exact absurd rfl hkind
  | @virtualFuturesExit request position margin candle context futuresContext orders order e hsame
      before horders horder h =>
    obtain ⟨preview, -, -, hterms⟩ := before.terms
    have hpristine := hterms.pristine
    have hreference : 0 ≤ order.referencePrice := by
      rcases hpristine.exitOrders_cases horders with rfl | ⟨only, rfl, -, hnonneg⟩
      · cases horder
      · rwa [List.mem_singleton.mp horder]
    have hraw (side : TradeSide) :
        0 ≤ side.against .exact order.referencePrice position.slippageRatio :=
      TradeSide.against_nonneg (fun x hx => hx) hreference hpristine.slippage_nonneg
        (by linarith [hpristine.slippage_le])
    have hprice := (VirtualManagedPosition.futuresExit_values h).1
    rw [VirtualManagedPosition.exitPrice, hterms.tickSize_eq, hsame] at hprice
    cases hside : position.positionSide with
    | long =>
      rw [hside] at hprice
      exact onPriceGrid_of_quantize .sell htick hunit (hraw .sell) hprice
    | short =>
      rw [hside] at hprice
      exact onPriceGrid_of_quantize .buy htick hunit (hraw .buy) hprice

end Prices

/-! ### Quantities -/

section Quantities

variable {step : Decimal} {candle : OHLCVCandle} {requested quantity : ℚ}

/-- A quantity that was quantized at the exponent of a power of ten is on its grid. -/
lemma onQuantityGrid_of_quantize {c : Context} (hstep : 0 < step.toRat) (hunit : step.coeff = 1)
    (hrequested : 0 ≤ requested) (h : c.quantize .down requested step.exp = some quantity) :
    OnQuantityGrid step.toRat requested quantity := by
  rw [OnQuantityGrid, Decimal.toRat_of_coeff_one hstep hunit]
  exact Context.quantize_down_isGreatest hrequested h

/-- What the volume leaves of a rounded quantity, rounded. -/
lemma onQuantityGrid_assess {c : Context} (hstep : 0 < step.toRat) (hunit : step.coeff = 1)
    {rounded volume : ℚ} {stress : LiquidityStressConfig} {assessed : LiquidityFillDecision}
    (hrounded : OnQuantityGrid step.toRat requested rounded)
    (hassessed : assessLiquidityFill rounded volume stress = .ok assessed)
    (h : c.quantize .down assessed.filledQuantity step.exp = some quantity) :
    0 ≤ assessed.filledQuantity ∧
      OnQuantityGrid step.toRat (min requested (volume * stress.maxVolumeParticipation))
        quantity := by
  simp only [assessLiquidityFill, bind_eq_ok, raiseIf_eq_ok, pure_eq_ok, not_le, not_lt] at hassessed
  obtain ⟨_, hpos, _, hvolume, rfl⟩ := hassessed
  have hfilled : 0 ≤ min rounded (volume * stress.maxVolumeParticipation) :=
    le_min hpos.le (mul_nonneg hvolume stress.participation_pos.le)
  exact ⟨hfilled, onQuantityGrid_min hrounded (onQuantityGrid_of_quantize hstep hunit hfilled h)⟩

/-- **The entry of a backtest fills the largest multiple of the step.** -/
lemma BacktestConfig.entryFill_onQuantityGrid {config : BacktestConfig} {fill : EntryFill}
    (hsame : config.stepSize = step) (hunit : step.coeff = 1)
    (h : config.entryFill candle = .ok fill) :
    OnQuantityGrid step.toRat (fillable config.quantity candle.volume config.liquidityStress)
      fill.filledQuantity := by
  subst hsame
  rw [entryFill, bind_eq_ok] at h
  obtain ⟨rounded, hrounded, h⟩ := h
  have hquantized := orRaise_eq_ok.mp hrounded
  have hnonneg := Context.quantize_nonneg config.quantity_pos.le hquantized
  have hgrid := onQuantityGrid_of_quantize config.step_pos hunit config.quantity_pos.le hquantized
  split_ifs at h with hzero
  · obtain rfl := pure_eq_ok.mp h
    obtain rfl := le_antisymm hzero hnonneg
    cases hstress : config.liquidityStress with
    | none => exact hgrid
    | some stress =>
      exact onQuantityGrid_zero (mul_nonneg candle.nonneg.2.2.2.2 stress.participation_pos.le) hgrid
  · cases hstress : config.liquidityStress with
    | none =>
      rw [hstress] at h
      obtain rfl := pure_eq_ok.mp h
      exact hgrid
    | some stress =>
      simp only [hstress, bind_eq_ok, pure_eq_ok] at h
      obtain ⟨assessed, hassessed, filled, hfilled, rfl⟩ := h
      obtain ⟨hpos, hresult⟩ := onQuantityGrid_assess config.step_pos hunit hgrid hassessed
        (orRaise_eq_ok.mp hfilled)
      have hnonneg' := Context.quantize_nonneg hpos (orRaise_eq_ok.mp hfilled)
      dsimp only
      split_ifs with hnone
      · rw [← le_antisymm hnone hnonneg']
        exact hresult
      · exact hresult

/-- **The fill of a request is the largest multiple of the step.** -/
lemma VirtualRuntimeRequest.fill_onQuantityGrid (request : VirtualRuntimeRequest)
    {preview : VirtualFillPreview} (hsame : request.stepSize = step) (hstep : 0 < step.toRat)
    (hunit : step.coeff = 1) (h : request.fillPreview = .ok preview)
    (hfree : preview.blockers = []) :
    OnQuantityGrid step.toRat request.fillable preview.filledQuantity := by
  obtain ⟨rounded, blockers, reasonCodes, hrounded, hpos, hliquidity, -⟩ :=
    request.fillPreview_filled h hfree
  rw [roundQuantity, orRaise_eq_ok, hsame] at hrounded
  have hgrid := onQuantityGrid_of_quantize hstep hunit
    (Context.nonneg_of_quantize_pos hrounded hpos) hrounded
  rw [fillable]
  cases hvolume : request.candleVolume with
  | none =>
    rw [liquidityFill, hvolume] at hliquidity
    obtain ⟨hfilled, -⟩ := Prod.mk.inj (Except.ok.inj hliquidity)
    exact hfilled ▸ hgrid
  | some volume =>
    simp only [liquidityFill, hvolume, bind_eq_ok, pure_eq_ok, Prod.mk.injEq] at hliquidity
    obtain ⟨assessed, hassessed, filled, hfilled, rfl, -⟩ := hliquidity
    rw [roundQuantity, orRaise_eq_ok, hsame] at hfilled
    exact (onQuantityGrid_assess hstep hunit hgrid hassessed hfilled).2

/-- A candle that leaves a trade without staged exits leaves its quantity. -/
lemma BacktestConfig.generalCandle_whole [UnicodeData] {config : BacktestConfig} {a : Arithmetic}
    {trade next : OpenTrade} (h : config.generalCandle a trade candle = .ok (.inl next))
    (hwhole : next.stagedExits = []) :
    trade.stagedExits = [] ∧ next.position.quantity = trade.position.quantity := by
  have hend {before : OpenTrade} (h : config.endCandle a before candle = .ok next) :
      next.stagedExits = before.stagedExits ∧
        next.position.quantity = before.position.quantity := by
    simp only [endCandle, withTrailingStop, bind_eq_ok, pure_eq_ok] at h
    obtain ⟨stop, -, position, hposition, rfl⟩ := h
    exact ⟨rfl, (create_eq_ok hposition).1⟩
  rw [generalCandle] at h
  cases hexit : evaluateLongExit (holdCandle a trade candle).intent
      (holdCandle a trade candle).position candle (holdCandle a trade candle).barsHeld with
  | none =>
    rw [hexit] at h
    simp only [applyExit, bind_eq_ok, pure_eq_ok, Sum.inl.injEq] at h
    obtain ⟨moved, hmoved, rfl⟩ := h
    obtain ⟨hstaged, hquantity⟩ := hend hmoved
    exact ⟨hstaged.symm.trans hwhole, hquantity⟩
  | some exit =>
    rw [hexit, applyExit] at h
    split_ifs at h with hpartial
    · simp only [bind_eq_ok, pure_eq_ok, Sum.inl.injEq] at h
      obtain ⟨reduced, hreduced, moved, hmoved, rfl⟩ := h
      simp only [partialExit, bind_eq_ok, pure_eq_ok] at hreduced
      obtain ⟨price, -, position, -, rfl⟩ := hreduced
      rw [(hend hmoved).1] at hwhole
      exact absurd hwhole (by simp)
    · simp only [bind_eq_ok, pure_eq_ok, reduceCtorEq, and_false, exists_false] at h

/-- A trade without staged exits still has what its entry filled. -/
lemma BacktestConfig.Held.onQuantityGrid [UnicodeData] {config : BacktestConfig} {a : Arithmetic}
    {intent : BacktestIntent} {first : OHLCVCandle} {bars : List OHLCVCandle} {trade : OpenTrade}
    (h : config.Held a intent first bars trade) (hsame : config.stepSize = step)
    (hunit : step.coeff = 1) (hwhole : trade.stagedExits = []) :
    OnQuantityGrid step.toRat (fillable config.quantity first.volume config.liquidityStress)
      trade.position.quantity := by
  induction h with
  | opened h =>
    simp only [openTrade, bind_eq_ok, pure_eq_ok] at h
    obtain ⟨fill, hfill, entry, -, position, hposition, rfl⟩ := h
    rw [(create_eq_ok hposition).1]
    exact entryFill_onQuantityGrid hsame hunit hfill
  | held before h ih =>
    obtain ⟨hbefore, hquantity⟩ := generalCandle_whole h hwhole
    rw [hquantity]
    exact ih hbefore
  | ignored before ih => exact ih hwhole

/-- An open Futures trade has what its entry filled. -/
lemma FuturesRunConfig.Held.onQuantityGrid {config : FuturesRunConfig} {a : Arithmetic}
    {dataset : RuntimeFuturesReplayDataset} {signal : FuturesSignal} {first : ReplayCandle}
    {bars : List ReplayCandle} {trade : FuturesTrade}
    (h : config.Held a dataset signal first bars trade) (hsame : config.stepSize = step)
    (hunit : step.coeff = 1) :
    OnQuantityGrid step.toRat
      (fillable config.quantity first.candle.volume config.liquidityStress) trade.quantity := by
  induction h with
  | opened hfree h =>
    simp only [openTrade, bind_eq_ok, pure_eq_ok] at h
    obtain ⟨fill, hfill, entry, -, liquidation, -, rfl⟩ := h
    exact BacktestConfig.entryFill_onQuantityGrid hsame hunit hfill
  | held before h hstay ih =>
    have hentry := congrArg TradeEntry.quantity (holdBar_keeps h).entry_eq
    simp only [FuturesTrade.entry] at hentry
    rwa [hentry]
  | ignored before ih => exact ih

/-- The one exit of a managed position closes all of it. -/
lemma Terms.exit_quantity {request : VirtualRuntimeRequest} {position : VirtualManagedPosition}
    {p : VirtualPortfolioState} {event : CandleEvent} {update : VirtualPositionUpdateDecision}
    {e : VirtualPositionExit} {preview : VirtualFillPreview}
    (hterms : Terms request preview position)
    (h : position.processPosition p event.candle event.context event.futuresContext
      event.availableAt = .ok update)
    (he : e ∈ update.positionAfter.exits) : e.quantity = position.initialQuantity := by
  have hp := hterms.pristine
  cases hm : position.market with
  | spot =>
    have hspot := processPosition_spot event hm h
    simp only [VirtualManagedPosition.processSpotPosition, bind_eq_ok, raiseIf_eq_ok,
      pure_eq_ok] at hspot
    obtain ⟨_, -, _, -, l, hl, processed, hprocessed, protected', hb, ⟨final, reason⟩, hf, after,
      ha, q, -, _, -, rfl⟩ := hspot
    obtain ⟨-, htime⟩ := VirtualManagedPosition.open_of_processCandle hl hprocessed
    obtain ⟨l', processed', final', reason', hl', hprocessed', hb', hf', ⟨target, hof⟩, hlife⟩ :=
      hp.lifecycle_final htime event.context (position.spotMfe event.candle)
    obtain rfl := Except.ok.inj (hl'.symm.trans hl)
    obtain rfl := Except.ok.inj (hprocessed'.symm.trans hprocessed)
    obtain rfl := Except.ok.inj (hb'.symm.trans hb)
    obtain ⟨rfl, rfl⟩ := Prod.mk.inj (Except.ok.inj (hf'.symm.trans hf))
    have hamounts := VirtualManagedPosition.drop_exits_amounts hp.exits_eq ha
    rw [hp.exits_eq, List.length_nil, List.drop_zero] at hamounts
    have hmem : e.amounts ∈ final'.exits.map (·.amounts) := by
      rw [← hamounts]
      exact List.mem_map_of_mem he
    cases href : position.spotExitReference event.candle event.context with
    | some reference =>
      rw [href] at hlife
      obtain ⟨only, honly, -, hquantity, -⟩ := hlife.exits_eq
      rw [honly, hof.exits_eq] at hmem
      have hsame := List.mem_singleton.mp hmem
      have heq : e.quantity = only.quantity := congrArg (·.2.1) hsame
      rw [heq, hquantity, hof.remaining_eq]
    | none =>
      rw [href] at hlife
      rw [hlife.exits_eq, hof.exits_eq] at hmem
      cases hmem
  | usdMFutures =>
    obtain ⟨margin, futuresContext, -, -, hfutures⟩ := processPosition_futures hm h
    obtain ⟨orders, exits, horders, hexits, hafter⟩ :=
      position.processFuturesPosition_exits hfutures
    rw [hafter, hp.exits_eq, List.nil_append] at he
    rcases hp.exitOrders_cases horders with rfl | ⟨order, rfl, hquantity, -⟩
    · obtain rfl : exits = [] := by simpa [mapM_eq_ok] using hexits
      cases he
    · obtain ⟨only, honly, rfl⟩ := VirtualManagedPosition.mapM_singleton.mp hexits
      rw [List.mem_singleton.mp he, (VirtualManagedPosition.futuresExit_values honly).2.1,
        hquantity]

/-- **A quantity that is rounded at a power of ten is on the grid.** -/
theorem Quantified.onQuantityGrid [UnicodeData] {kind : QuantityKind}
    (h : Quantified step kind requested quantity) (hkind : kind ≠ .spotStagedExit)
    (hstep : 0 < step.toRat) (hunit : step.coeff = 1) :
    OnQuantityGrid step.toRat requested quantity := by
  cases h with
  | spotEntry hsame h =>
    simp only [BacktestConfig.openTrade, bind_eq_ok, pure_eq_ok] at h
    obtain ⟨fill, hfill, entry, -, position, -, rfl⟩ := h
    exact BacktestConfig.entryFill_onQuantityGrid hsame hunit hfill
  | spotExit hsame before hwhole h => exact before.onQuantityGrid hsame hunit hwhole
  | spotStagedExit hsame before h hstaged => exact absurd rfl hkind
  | spotRemainder hsame before hpart h => exact absurd rfl hkind
  | futuresEntry hsame h =>
    simp only [FuturesRunConfig.openTrade, bind_eq_ok, pure_eq_ok] at h
    obtain ⟨fill, hfill, entry, -, liquidation, -, rfl⟩ := h
    exact BacktestConfig.entryFill_onQuantityGrid hsame hunit hfill
  | futuresExit hsame before h =>
    rw [(FuturesRunConfig.closeTrade_values h).2]
    exact before.onQuantityGrid hsame hunit
  | @virtualEntry request preview hsame h hfree =>
    exact request.fill_onQuantityGrid hsame hstep hunit h hfree
  | @virtualExit request position p event update e hsame before h he =>
    obtain ⟨preview, hpreview, hfree, hterms⟩ := before.terms
    rw [hterms.exit_quantity h he, hterms.initialQuantity_eq]
    exact request.fill_onQuantityGrid hsame hstep hunit hpreview hfree

end Quantities

/-! ### The grid law -/

/-- A buy of the last digit of a step, at the last digit of a tick. -/
def lastDigitFields (tick step : Decimal) : RequestFields :=
  { unitRequest freshWallet .buy (10 ^ tick.exp) 1 0 with
    quantity := 10 ^ step.exp
    tickSize := tick
    stepSize := step
    minimumNotional := 10 ^ tick.exp * 10 ^ step.exp }

/-- Every positive tick and step admits the buy. -/
def lastDigitBuy {tick step : Decimal} (htick : 0 < tick.toRat) (hstep : 0 < step.toRat) :
    VirtualRuntimeRequest where
  toRequestFields := lastDigitFields tick step
  passes := by
    have hbase : Passes (unitRequest freshWallet .buy 100 1 0).checks := by decide +kernel
    have hprice : (0 : ℚ) < 10 ^ tick.exp := by positivity
    have hquantity : (0 : ℚ) < 10 ^ step.exp := by positivity
    simp only [RequestFields.checks, passes_append, passes_cons, decide_eq_false_iff_not, not_or,
      not_le] at hbase ⊢
    obtain ⟨hreasons, h1, -, h2, h3, h4, h5, -, -, -, hrest⟩ := hbase
    exact ⟨hreasons, h1, ⟨hquantity, hprice, one_pos⟩, h2, h3, h4, h5, htick, hstep,
      mul_pos hprice hquantity, hrest⟩

/-- The buy is filled at the last digit of the tick, with that of the step. -/
lemma lastDigitBuy_fills {tick step : Decimal} (htick : 0 < tick.toRat) (hstep : 0 < step.toRat) :
    ∃ preview, (lastDigitBuy htick hstep).fillPreview = .ok preview ∧ preview.blockers = [] ∧
      preview.executionPrice = 10 ^ tick.exp ∧ preview.filledQuantity = 10 ^ step.exp := by
  set request := lastDigitBuy htick hstep with hrequest
  have hprec : 0 < Context.default.prec := by decide
  have hquantity : (0 : ℚ) < 10 ^ step.exp := by positivity
  have hrounded : request.roundQuantity request.quantity = .ok (10 ^ step.exp) :=
    orRaise_eq_ok.mpr (Context.quantize_self hprec)
  have hliquidity : request.liquidityFill (10 ^ step.exp) = .ok (10 ^ step.exp, 0, [], []) := rfl
  have hraw : request.entryPrice * (1 + (request.slippageRatio + request.halfSpreadRatio + 0)) =
      10 ^ tick.exp := by
    simp [hrequest, lastDigitBuy, lastDigitFields, unitRequest]
  have hprice : request.roundPrice (10 ^ tick.exp) = .ok (10 ^ tick.exp) :=
    orRaise_eq_ok.mpr (Context.quantize_self hprec)
  have hbuy : request.action = .buy := rfl
  simp only [VirtualRuntimeRequest.fillPreview, hrounded, ok_bind, if_neg (not_le.mpr hquantity),
    hliquidity, VirtualRuntimeRequest.filledPreview, if_pos hbuy, hraw, hprice]
  have hnotional : ¬ (10 : ℚ) ^ tick.exp * 10 ^ step.exp < request.minimumNotional := lt_irrefl _
  refine ⟨_, rfl, ?_, rfl, rfl⟩
  dsimp only
  rw [if_neg hnotional]
  rfl

/-- **The exchange grid law**: what the three engines round is on the grid of tick and step, and
on its side of what was rounded, exactly if both are powers of ten without trailing zeros. -/
theorem exchange_grid_law [UnicodeData] {tick step : Decimal} (htick : 0 < tick.toRat)
    (hstep : 0 < step.toRat) :
    ((∀ kind side raw price, kind ≠ .virtualSpotExit → Priced tick kind side raw price →
        OnPriceGrid tick.toRat side raw price) ∧
      ∀ kind requested quantity, kind ≠ .spotStagedExit → Quantified step kind requested quantity →
        OnQuantityGrid step.toRat requested quantity) ↔
      tick.coeff = 1 ∧ step.coeff = 1 := by
  constructor
  · rintro ⟨hprices, hquantities⟩
    obtain ⟨preview, hpreview, hfree, hprice, hquantity⟩ := lastDigitBuy_fills htick hstep
    have hpriced := hprices _ _ _ _ (by simp) (.virtualEntry rfl hpreview hfree)
    have hfilled := hquantities _ _ _ (by simp) (.virtualEntry rfl hpreview hfree)
    refine ⟨(Decimal.pow_mem_zmultiples_iff htick).mp ?_,
      (Decimal.pow_mem_zmultiples_iff hstep).mp ?_⟩
    · rw [← hprice]
      exact hpriced.multiple
    · rw [← hquantity]
      exact hfilled.1.1
  · rintro ⟨hunit, hunit'⟩
    exact ⟨fun _ _ _ _ hkind h => h.onPriceGrid hkind htick hunit,
      fun _ _ _ hkind h => h.onQuantityGrid hkind hstep hunit'⟩

/-- A tick of a hundredth and a step of a thousandth are kept by every rounded price and
quantity. -/
theorem cent_tick_keeps_grid :
    (∀ kind side raw price, kind ≠ .virtualSpotExit → Priced ⟨false, 1, -2⟩ kind side raw price →
      OnPriceGrid (1 / 100) side raw price) ∧
    ∀ kind requested quantity, kind ≠ .spotStagedExit →
      Quantified ⟨false, 1, -3⟩ kind requested quantity →
        OnQuantityGrid (1 / 1000) requested quantity := by
  have htick : Decimal.toRat ⟨false, 1, -2⟩ = 1 / 100 := by decide +kernel
  have hstep : Decimal.toRat ⟨false, 1, -3⟩ = 1 / 1000 := by decide +kernel
  have hlaw := (@exchange_grid_law _ ⟨false, 1, -2⟩ ⟨false, 1, -3⟩ (by decide +kernel)
    (by decide +kernel)).mpr ⟨rfl, rfl⟩
  rwa [htick, hstep] at hlaw

/-! ### Three ways to leave the grid -/

/-- An entry at 100.01 with a tick of five hundredths. -/
def coarseConfig : BacktestConfig :=
  { BacktestConfig.sampleConfig with
    tickSize := ⟨false, 5, -2⟩
    stepSize := ⟨false, 1, 0⟩
    tick_pos := by decide +kernel
    step_pos := by decide +kernel }

/-- A signal that sells half at its first target. -/
def stagedIntent : BacktestIntent :=
  { BacktestConfig.sampleIntent with
    takeProfitLevels := [110, 130]
    levels_sorted := by norm_num
    breakevenTriggerR := none
    breakeven_pos := BacktestIntent.default_trigger }

lemma stagedRange : (99 : ℚ) ≤ 115 := by norm_num

/-- A candle from 100.01 to above the first target. -/
def stagedCandle : OHLCVCandle where
  timestamp := 60000000
  «open» := 10001 / 100
  high := 115
  low := 99
  close := 112
  volume := 10
  nonneg := by norm_num
  low_le_high := stagedRange
  max_le_high := by norm_num
  low_le_min := by norm_num

/-- A Spot buy at 100 with a stop at 90 and a tick of a hundredth. -/
def slippedBuy : VirtualRuntimeRequest where
  toRequestFields :=
    { targetsBuy [130] with tickSize := ⟨false, 1, -2⟩, slippageRatio := 1 / 10000 }
  passes := by decide +kernel

/-- A candle that falls through the stop. -/
def fallingCandle : OHLCVCandle where
  timestamp := 60000000
  «open» := 99
  high := 100
  low := 85
  close := 86
  volume := 10
  nonneg := by norm_num
  low_le_high := by norm_num
  max_le_high := by norm_num
  low_le_min := by norm_num

/-- A multiple of a unit is a whole number of units. -/
lemma den_eq_one_of_mem {unit x : ℚ} (hunit : unit ≠ 0) (h : x ∈ AddSubgroup.zmultiples unit) :
    (x / unit).den = 1 := by
  obtain ⟨n, rfl⟩ := AddSubgroup.mem_zmultiples_iff.mp h
  rw [zsmul_eq_mul, mul_div_cancel_right₀ _ hunit]
  exact Rat.den_intCast n

/-- **Three ways to leave the grid**: with a tick of 0.05 the entry of the Spot backtest is filled
at 100.07; half of one unit is sold at its first target, where the step is one; and a Spot
position of the virtual runtime is stopped out at 89.991, where the tick is 0.01. -/
theorem coarse_tick_leaves_grid :
    (∃ raw price, Priced ⟨false, 5, -2⟩ .spotEntry .buy raw price ∧
      price ∉ AddSubgroup.zmultiples (Decimal.toRat ⟨false, 5, -2⟩)) ∧
    (∃ requested quantity, Quantified ⟨false, 1, 0⟩ .spotStagedExit requested quantity ∧
      quantity ∉ AddSubgroup.zmultiples (Decimal.toRat ⟨false, 1, 0⟩)) ∧
    ∃ raw price, Priced ⟨false, 1, -2⟩ .virtualSpotExit .sell raw price ∧
      price ∉ AddSubgroup.zmultiples (Decimal.toRat ⟨false, 1, -2⟩) := by
  refine ⟨?_, ?_, ?_⟩
  · have hrun : ((coarseConfig.entryFill stagedCandle).toOption.bind fun _ =>
        (coarseConfig.openTrade .decimal stagedIntent stagedCandle).toOption.map
          (·.entryPrice)) = some (10007 / 100) := by decide +kernel
    obtain ⟨fill, hfill, hrun⟩ := Option.bind_eq_some_iff.mp hrun
    obtain ⟨trade, hopen, hprice⟩ := Option.map_eq_some_iff.mp hrun
    refine ⟨_, _, .spotEntry rfl (toOption_eq_some.mp hfill) (toOption_eq_some.mp hopen), ?_⟩
    rw [hprice]
    intro hmem
    exact absurd (den_eq_one_of_mem (by decide +kernel) hmem) (by decide +kernel)
  · have hrun : ((coarseConfig.openTrade .decimal stagedIntent stagedCandle).toOption.bind
        fun trade => (coarseConfig.partialExit .decimal
          (BacktestConfig.holdCandle .decimal trade stagedCandle) stagedCandle 110).toOption.map
            fun reduced => (trade.stagedExits.length, reduced.stagedExits.map (·.quantity))) =
        some (0, [1 / 2]) := by decide +kernel
    obtain ⟨trade, hopen, hrun⟩ := Option.bind_eq_some_iff.mp hrun
    obtain ⟨reduced, hreduced, hstaged⟩ := Option.map_eq_some_iff.mp hrun
    obtain ⟨hlength, hquantities⟩ := Prod.mk.inj hstaged
    obtain ⟨staged, hone, hquantity⟩ := List.map_eq_singleton_iff.mp hquantities
    have hnone := List.length_eq_zero_iff.mp hlength
    have hpart : reduced.stagedExits = trade.stagedExits ++ [staged] := by rw [hone, hnone]; rfl
    refine ⟨_, _, .spotStagedExit rfl (.opened (toOption_eq_some.mp hopen))
      (toOption_eq_some.mp hreduced) hpart, ?_⟩
    rw [hquantity]
    intro hmem
    exact absurd (den_eq_one_of_mem (by decide +kernel) hmem) (by decide +kernel)
  · have hrun : (slippedBuy.evaluate.toOption.bind fun decision =>
        (materializeManagedPosition slippedBuy decision 0 none).toOption.bind fun position =>
          (position.processSpotPosition decision.portfolioAfter fallingCandle {}).toOption.map
            fun u => (decision.tradeIntent.isSome, u.positionAfter.exits.map (·.price))) =
        some (true, [89991 / 1000]) := by decide +kernel
    obtain ⟨decision, hdecision, hrun⟩ := Option.bind_eq_some_iff.mp hrun
    obtain ⟨position, hposition, hrun⟩ := Option.bind_eq_some_iff.mp hrun
    obtain ⟨update, hupdate, hexits⟩ := Option.map_eq_some_iff.mp hrun
    obtain ⟨hready, hprices⟩ := Prod.mk.inj hexits
    obtain ⟨e, hone, hprice⟩ := List.map_eq_singleton_iff.mp hprices
    have hmade : e ∈ update.positionAfter.exits := by
      rw [hone]
      exact List.mem_singleton_self _
    refine ⟨_, _, .virtualSpotExit rfl
      (.opened (toOption_eq_some.mp hdecision) hready (toOption_eq_some.mp hposition))
      (toOption_eq_some.mp hupdate) hmade, ?_⟩
    rw [hprice]
    intro hmem
    exact absurd (den_eq_one_of_mem (by decide +kernel) hmem) (by decide +kernel)

end Ai4Binance
