/-
Conservation over the life of a Futures position.

A fill posts the isolated margin and pays fee and funding; each candle may pay
funding and close a part of the position; the last exit leaves the wallet flat.
Five formulas of the source keep the books of this: the two portfolio updates,
the PnL of an exit, the PnL of the position, and the closed-trade record.

* `VirtualClosedTradeRecord`, `closedTradeRecord`: the record of a closed trade;
* `FuturesCandleEffect`: what a processed candle does, field by field;
* `RoundTrip`: the invariant that ties position and portfolio to the wallet
  before the fill, with `RoundTrip.start` and `RoundTrip.step`;
* `futures_round_trip`: what is left of it when the position is closed.
-/
import Ai4Binance.Lib.Run
import Ai4Binance.Virtual.Materialize

open Text Check

namespace Ai4Binance

/-! ### The closed-trade record -/

/-- `VirtualClosedTradeRecord`, without the decision evidence and the parameter
methods that it hands on. -/
structure VirtualClosedTradeRecord where
  tradeId : String
  lineage : TradeLineage
  market : Market
  symbol : String
  opportunityId : String
  direction : VirtualPositionSide
  entryTime : ℤ
  exitTime : ℤ
  entryPrice : ℚ
  exitPrice : ℚ
  quantity : ℚ
  riskAtEntry : ℚ
  entryReason : List String
  exitReason : BacktestExitReason
  grossPnlUsdt : ℚ
  feeCostUsdt : ℚ
  slippageCostUsdt : ℚ
  fundingCostUsdt : ℚ
  netPnlUsdt : ℚ
  realizedRMultiple : ℚ
  maximumFavorableExcursion : ℚ
  maximumAdverseExcursion : ℚ
  falseBreakout : Bool
  leverage : Option ℤ
  initialStopLoss : ℚ
  initialTakeProfitLevels : List ℚ
  plannedRr : Option ℚ
  deriving DecidableEq

namespace VirtualManagedPosition

/-- The price PnL of an exit of a position. -/
def grossPnl (position : VirtualManagedPosition) (e : VirtualPositionExit) : ℚ :=
  (e.price - position.entryPrice) * e.quantity * position.positionSide.sign

/-- The part of the isolated margin that an exit returns to cash. -/
def marginRelease (position : VirtualManagedPosition) (isolatedMargin : ℚ)
    (e : VirtualPositionExit) : ℚ :=
  isolatedMargin * e.quantity / position.initialQuantity

/-- `_closed_trade_record`; a position without exits has no last one to read. -/
def closedTradeRecord (before after : VirtualManagedPosition) : Option VirtualClosedTradeRecord :=
  after.exits.getLast?.map fun lastExit =>
    let quantity := before.initialQuantity
    let executionPnl := (after.exits.map before.grossPnl).sum
    let totalSlippage :=
      before.entrySlippageCostUsdt + (after.exits.map (·.slippageCostUsdt)).sum
    let riskAtEntry := quantity * |before.entryPrice - before.stopLoss|
    { tradeId := before.positionId
      lineage := before.lineage
      market := before.market
      symbol := before.symbol
      opportunityId := before.opportunityId
      direction := before.positionSide
      entryTime := before.openedAt
      exitTime := lastExit.timestamp
      entryPrice := before.entryPrice
      exitPrice := lastExit.price
      quantity, riskAtEntry
      entryReason := before.entryReason
      exitReason := lastExit.reason
      grossPnlUsdt := executionPnl + totalSlippage
      feeCostUsdt := before.entryFeeUsdt + (after.exits.map (·.feeUsdt)).sum
      slippageCostUsdt := totalSlippage
      fundingCostUsdt := after.fundingCostUsdt
      netPnlUsdt := after.realizedPnlUsdt
      realizedRMultiple := if riskAtEntry ≤ 0 then 0 else after.realizedPnlUsdt / riskAtEntry
      maximumFavorableExcursion := after.maximumFavorableExcursionUsdt
      maximumAdverseExcursion :=
        if after.maximumAdverseExcursionUsdt ≠ 0 then after.maximumAdverseExcursionUsdt
        else |before.entryPrice - before.stopLoss| * quantity
      falseBreakout := lastExit.reason.isStop ∧
        before.entryReason.any fun code => "BREAKOUT".toList.IsInfix code.toList
      leverage := before.leverage
      initialStopLoss := before.stopLoss
      initialTakeProfitLevels := before.takeProfitLevels
      plannedRr :=
        if before.entryPrice ≠ before.stopLoss then
          some (|before.takeProfitLevels.headD 0 - before.entryPrice| /
            |before.entryPrice - before.stopLoss|)
        else none }

end VirtualManagedPosition

/-- The closed trade of an update. -/
def VirtualPositionUpdateDecision.closedTrade (d : VirtualPositionUpdateDecision) :
    Option VirtualClosedTradeRecord :=
  if d.positionAfter.status = .closed then d.positionBefore.closedTradeRecord d.positionAfter
  else none

/-! ### One candle -/

/-- What stays of a position from its entry to its end. -/
structure SameEntry (position after : VirtualManagedPosition) : Prop where
  market_eq : after.market = position.market
  side_eq : after.positionSide = position.positionSide
  entryPrice_eq : after.entryPrice = position.entryPrice
  entryFee_eq : after.entryFeeUsdt = position.entryFeeUsdt
  initialQuantity_eq : after.initialQuantity = position.initialQuantity
  margin_eq : after.margin = position.margin
  slippage_eq : after.entrySlippageCostUsdt = position.entrySlippageCostUsdt

lemma SameEntry.refl (position : VirtualManagedPosition) : SameEntry position position :=
  ⟨rfl, rfl, rfl, rfl, rfl, rfl, rfl⟩

lemma SameEntry.trans {p q r : VirtualManagedPosition} (h : SameEntry p q) (h' : SameEntry q r) :
    SameEntry p r :=
  ⟨h'.market_eq.trans h.market_eq, h'.side_eq.trans h.side_eq,
    h'.entryPrice_eq.trans h.entryPrice_eq, h'.entryFee_eq.trans h.entryFee_eq,
    h'.initialQuantity_eq.trans h.initialQuantity_eq, h'.margin_eq.trans h.margin_eq,
    h'.slippage_eq.trans h.slippage_eq⟩

/-- What a processed candle does to a Futures position and to its portfolio. -/
structure FuturesCandleEffect (position after : VirtualManagedPosition)
    (p q : VirtualPortfolioState) (margin : FuturesMargin) (fundingDelta markPrice : ℚ)
    (newExits : List VirtualPositionExit) : Prop where
  entry : SameEntry position after
  exits_eq : after.exits = position.exits ++ newExits
  remaining_eq : after.remainingQuantity =
    position.remainingQuantity - (newExits.map (·.quantity)).sum
  realized_eq : after.realizedPnlUsdt =
    position.realizedPnlUsdt - fundingDelta + (newExits.map (·.netPnlUsdt)).sum
  funding_eq : after.fundingCostUsdt = position.fundingCostUsdt + fundingDelta
  netPnl : ∀ e ∈ newExits, e.netPnlUsdt = position.grossPnl e - e.feeUsdt -
    position.entryFeeUsdt * e.quantity / position.initialQuantity
  market_eq : q.market = p.market
  cash_eq : q.cashUsdt = p.cashUsdt - fundingDelta + (newExits.map fun e =>
    position.marginRelease margin.isolatedMarginUsdt e + position.grossPnl e - e.feeUsdt).sum
  portfolioRealized_eq : q.realizedPnlUsdt =
    p.realizedPnlUsdt + (-fundingDelta + (newExits.map (·.netPnlUsdt)).sum)
  unrealized_eq : q.unrealizedPnlUsdt =
    (markPrice - position.entryPrice) * position.positionSide.sign * after.remainingQuantity
  equity_eq : q.equityUsdt = q.cashUsdt +
    margin.isolatedMarginUsdt * (after.remainingQuantity / position.initialQuantity) +
      q.unrealizedPnlUsdt
  flat : after.status = .closed →
    q.openPositionCount = 0 ∧ q.positionSide = none ∧ q.leverage = none ∧
      ∀ x ∈ q.futuresScalars, x = none

namespace VirtualManagedPosition

variable {position after : VirtualManagedPosition} {p : VirtualPortfolioState}
  {margin : FuturesMargin} {candle : OHLCVCandle} {context : VirtualExitContext}
  {orders : List ExitOrder} {exits : List VirtualPositionExit}

/-- One exit: the quantity and the reason of its order, and its net PnL. -/
lemma futuresExit_spec {timestamp : ℤ} {order : ExitOrder} {e : VirtualPositionExit}
    (h : position.futuresExit timestamp order = .ok e) :
    e.quantity = order.quantity ∧ e.reason = order.reason ∧
      e.netPnlUsdt = position.grossPnl e - e.feeUsdt -
        position.entryFeeUsdt * e.quantity / position.initialQuantity := by
  simp only [futuresExit] at h
  cases hs : position.positionSide with
  | long =>
    simp only [hs, bind_eq_ok] at h
    obtain ⟨price, -, h⟩ := h
    obtain ⟨-, hreason, hprice, hquantity, hfee, hnet, -⟩ := VirtualPositionExit.create_spec h
    refine ⟨hquantity, hreason, ?_⟩
    rw [hnet, grossPnl, hs, VirtualPositionSide.sign, hprice, hquantity, hfee]
    ring
  | short =>
    simp only [hs, bind_eq_ok] at h
    obtain ⟨price, -, h⟩ := h
    obtain ⟨-, hreason, hprice, hquantity, hfee, hnet, -⟩ := VirtualPositionExit.create_spec h
    refine ⟨hquantity, hreason, ?_⟩
    rw [hnet, grossPnl, hs, VirtualPositionSide.sign, hprice, hquantity, hfee]
    ring

/-- The exits of a candle close the quantities of its orders. -/
lemma sum_quantity_exits {timestamp : ℤ}
    (h : orders.mapM (position.futuresExit timestamp) = .ok exits) :
    (exits.map (·.quantity)).sum = (orders.map (·.quantity)).sum := by
  have hall := mapM_eq_ok.mp h
  induction hall with
  | nil => rfl
  | cons he _ ih =>
    rw [List.map_cons, List.map_cons, List.sum_cons, List.sum_cons, (futuresExit_spec he).1,
      ih (mapM_eq_ok.mpr ‹_›)]

/-- Every exit of a candle has the net PnL of one exit. -/
lemma netPnl_exits {timestamp : ℤ}
    (h : orders.mapM (position.futuresExit timestamp) = .ok exits) :
    ∀ e ∈ exits, e.netPnlUsdt = position.grossPnl e - e.feeUsdt -
      position.entryFeeUsdt * e.quantity / position.initialQuantity := by
  intro e he
  obtain ⟨order, -, ho⟩ := mem_of_mapM_eq_ok h he
  exact (futuresExit_spec ho).2.2

/-- The position after a candle. -/
lemma futuresPositionAfter_spec {fundingDelta : ℚ}
    (h : position.futuresPositionAfter candle context fundingDelta orders exits = .ok after) :
    SameEntry position after ∧ after.exits = position.exits ++ exits ∧
      after.remainingQuantity = position.remainingAfter orders ∧
      after.realizedPnlUsdt =
        position.realizedPnlUsdt - fundingDelta + (exits.map (·.netPnlUsdt)).sum ∧
      after.fundingCostUsdt = position.fundingCostUsdt + fundingDelta := by
  simp only [futuresPositionAfter, bind_eq_ok] at h
  obtain ⟨review, -, hc⟩ := h
  rw [create_eq_ok] at hc
  obtain ⟨ratios, hr⟩ := PositionFields.normalized_eq _
  rw [hr] at hc
  refine ⟨⟨?_, ?_, ?_, ?_, ?_, ?_, ?_⟩, ?_, ?_, ?_, ?_⟩ <;> rw [hc]
  rfl

/-- **What one candle does** to a Futures position and to its portfolio. -/
theorem processFuturesPosition_effect {futuresContext : VirtualFuturesPositionContext}
    {decision : VirtualPositionUpdateDecision}
    (h : position.processFuturesPosition margin p candle context futuresContext = .ok decision) :
    decision.positionBefore = position ∧ ∃ newExits,
      FuturesCandleEffect position decision.positionAfter p decision.portfolioAfter margin
        (position.fundingDelta futuresContext) futuresContext.markPrice newExits := by
  simp only [processFuturesPosition, bind_eq_ok, raiseIf_eq_ok, pure_eq_ok] at h
  obtain ⟨orders, -, exits, he, after, ha, q, hq, _, -, rfl⟩ := h
  obtain ⟨hentry, hexits, hremaining, hrealized, hfunding⟩ := futuresPositionAfter_spec ha
  have hnew : after.exits.drop position.exits.length = exits := by
    rw [hexits, List.drop_left]
  unfold futuresPortfolioAfterPositionUpdate at hq
  rw [VirtualPortfolioState.create_eq_ok] at hq
  simp only [hnew] at hq
  refine ⟨rfl, exits, hentry, hexits, ?_, hrealized, hfunding, netPnl_exits he, ?_, ?_, ?_, ?_, ?_,
    ?_⟩
  · rw [hremaining, remainingAfter, sum_quantity_exits he]
  · rw [hq]
  · rw [hq]
    rfl
  · rw [hq]
  · rw [hq]
  · rw [hq]
  · intro hclosed
    rw [hq]
    have hafter : after.status = .closed := hclosed
    simp [hafter, PortfolioFields.futuresScalars]

end VirtualManagedPosition

/-! ### Sums over exits -/

namespace VirtualManagedPosition

variable (position : VirtualManagedPosition)

/-- The price PnL of exits less their fees. -/
def exitProceeds (exits : List VirtualPositionExit) : ℚ :=
  (exits.map fun e => position.grossPnl e - e.feeUsdt).sum

/-- The quantity that exits close. -/
def exitQuantity (exits : List VirtualPositionExit) : ℚ := (exits.map (·.quantity)).sum

variable {position} {exits : List VirtualPositionExit}

lemma exitProceeds_append (exits exits' : List VirtualPositionExit) :
    position.exitProceeds (exits ++ exits') =
      position.exitProceeds exits + position.exitProceeds exits' := by
  simp [exitProceeds]

lemma exitQuantity_append (exits exits' : List VirtualPositionExit) :
    exitQuantity (exits ++ exits') = exitQuantity exits + exitQuantity exits' := by
  simp [exitQuantity]

/-- Exits release margin in the proportion of their quantity. -/
lemma sum_marginRelease (isolated : ℚ) (exits : List VirtualPositionExit) :
    (exits.map (position.marginRelease isolated)).sum =
      isolated * (exitQuantity exits / position.initialQuantity) := by
  induction exits with
  | nil => simp [exitQuantity]
  | cons e exits ih =>
      rw [List.map_cons, List.sum_cons, ih, marginRelease, exitQuantity, exitQuantity,
        List.map_cons, List.sum_cons]
      ring

/-- What exits bring in: the margin they release and their proceeds. -/
lemma sum_cash (isolated : ℚ) (exits : List VirtualPositionExit) :
    (exits.map fun e => position.marginRelease isolated e + position.grossPnl e - e.feeUsdt).sum =
      isolated * (exitQuantity exits / position.initialQuantity) +
        position.exitProceeds exits := by
  rw [← sum_marginRelease]
  induction exits with
  | nil => simp [exitProceeds]
  | cons e exits ih =>
      rw [List.map_cons, List.sum_cons, ih, exitProceeds, exitProceeds, List.map_cons,
        List.map_cons, List.sum_cons, List.sum_cons]
      ring

/-- The net PnL of exits: their proceeds less their share of the entry fee. -/
lemma sum_netPnl_exits (h : ∀ e ∈ exits, e.netPnlUsdt = position.grossPnl e - e.feeUsdt -
      position.entryFeeUsdt * e.quantity / position.initialQuantity) :
    (exits.map (·.netPnlUsdt)).sum = position.exitProceeds exits -
      position.entryFeeUsdt * (exitQuantity exits / position.initialQuantity) := by
  induction exits with
  | nil => simp [exitProceeds, exitQuantity]
  | cons e exits ih =>
      have ih' := ih fun e' he' => h e' (List.mem_cons_of_mem _ he')
      simp only [exitProceeds, exitQuantity, List.map_cons, List.sum_cons] at ih' ⊢
      rw [ih', h e List.mem_cons_self]
      ring

end VirtualManagedPosition

/-- The proceeds are those of the entry. -/
lemma SameEntry.exitProceeds_eq {position after : VirtualManagedPosition}
    (h : SameEntry position after) (exits : List VirtualPositionExit) :
    after.exitProceeds exits = position.exitProceeds exits := by
  simp only [VirtualManagedPosition.exitProceeds, VirtualManagedPosition.grossPnl,
    h.entryPrice_eq, h.side_eq]

namespace VirtualManagedPosition

/-- The record of a closed trade balances: gross PnL less all costs is the price
PnL less fees and funding. -/
lemma closedTradeRecord_balance {position after : VirtualManagedPosition} (hne : after.exits ≠ []) :
    ∃ record, position.closedTradeRecord after = some record ∧
      record.netPnlUsdt = after.realizedPnlUsdt ∧
      record.grossPnlUsdt - record.feeCostUsdt - record.slippageCostUsdt -
        record.fundingCostUsdt =
          position.exitProceeds after.exits - position.entryFeeUsdt - after.fundingCostUsdt := by
  obtain ⟨lastExit, hlast⟩ := Option.isSome_iff_exists.mp (List.getLast?_isSome.mpr hne)
  refine ⟨_, by rw [closedTradeRecord, hlast, Option.map_some], rfl, ?_⟩
  have hproceeds : position.exitProceeds after.exits =
      (after.exits.map position.grossPnl).sum - (after.exits.map (·.feeUsdt)).sum := by
    rw [exitProceeds]
    induction after.exits with
    | nil => simp
    | cons e exits ih =>
        simp only [List.map_cons, List.sum_cons, ih]
        ring
  rw [hproceeds]
  ring

/-- An update names the position it started from. -/
lemma processPosition_before {position : VirtualManagedPosition} {p : VirtualPortfolioState}
    {candle : OHLCVCandle} {context : VirtualExitContext}
    {futuresContext : Option VirtualFuturesPositionContext} {availableAt : Option ℤ}
    {update : VirtualPositionUpdateDecision}
    (h : position.processPosition p candle context futuresContext availableAt = .ok update) :
    update.positionBefore = position := by
  simp only [processPosition, bind_eq_ok] at h
  obtain ⟨_, -, h⟩ := h
  split at h
  · cases h
  · simp only [bind_eq_ok] at h
    obtain ⟨_, -, margin, -, h⟩ := h
    exact (processFuturesPosition_effect h).1
  · cases h
  · simp only [processSpotPosition, bind_eq_ok, raiseIf_eq_ok, pure_eq_ok] at h
    obtain ⟨_, -, _, -, _, -, _, -, _, -, _, -, _, -, _, -, _, -, rfl⟩ := h
    rfl

end VirtualManagedPosition

/-! ### The invariant -/

/-- A candle with what is observed beside it. -/
structure CandleEvent where
  candle : OHLCVCandle
  context : VirtualExitContext
  futuresContext : Option VirtualFuturesPositionContext
  availableAt : Option ℤ

/-- `process_position` accepts the candle, and leads to the next position and
portfolio. -/
def ManagedStep (s : VirtualManagedPosition × VirtualPortfolioState) (e : CandleEvent)
    (t : VirtualManagedPosition × VirtualPortfolioState) : Prop :=
  ∃ update, s.1.processPosition s.2 e.candle e.context e.futuresContext e.availableAt =
    .ok update ∧ t = (update.positionAfter, update.portfolioAfter)

/-- A Futures portfolio without a position. -/
def VirtualPortfolioState.Flat (p : VirtualPortfolioState) : Prop :=
  p.openPositionCount = 0 ∧ p.positionSide = none ∧ p.leverage = none ∧
    ∀ x ∈ p.futuresScalars, x = none

/-- The books of a position that was opened on the wallet `wallet`: all that has
left the wallet is the margin of what remains, the entry fee, the funding and the
losses of the exits. -/
structure RoundTrip (wallet : VirtualPortfolioState) (opened : VirtualManagedPosition)
    (margin : FuturesMargin) (s : VirtualManagedPosition × VirtualPortfolioState) : Prop where
  market_eq : s.1.market = .usdMFutures
  entry : SameEntry opened s.1
  margin_eq : opened.margin = some margin
  quantity_eq : VirtualManagedPosition.exitQuantity s.1.exits =
    opened.initialQuantity - s.1.remainingQuantity
  realized_eq : s.1.realizedPnlUsdt = -s.1.fundingCostUsdt + opened.exitProceeds s.1.exits -
    opened.entryFeeUsdt * (VirtualManagedPosition.exitQuantity s.1.exits / opened.initialQuantity)
  cash_eq : s.2.cashUsdt = wallet.cashUsdt -
    margin.isolatedMarginUsdt * (s.1.remainingQuantity / opened.initialQuantity) -
      opened.entryFeeUsdt - s.1.fundingCostUsdt + opened.exitProceeds s.1.exits
  portfolioRealized_eq : s.2.realizedPnlUsdt = wallet.realizedPnlUsdt + s.1.realizedPnlUsdt
  equity_eq : s.2.equityUsdt = s.2.cashUsdt +
    margin.isolatedMarginUsdt * (s.1.remainingQuantity / opened.initialQuantity) +
      s.2.unrealizedPnlUsdt
  unrealized_eq : ∃ markPrice, s.2.unrealizedPnlUsdt =
    (markPrice - opened.entryPrice) * opened.positionSide.sign * s.1.remainingQuantity
  flat : s.1.status = .closed → s.2.Flat

/-- A Futures candle is processed with its context and the margin of the position. -/
lemma processPosition_futures {position : VirtualManagedPosition} {p : VirtualPortfolioState}
    {e : CandleEvent} {update : VirtualPositionUpdateDecision}
    (hm : position.market = .usdMFutures)
    (h : position.processPosition p e.candle e.context e.futuresContext e.availableAt =
      .ok update) :
    ∃ margin futuresContext, position.margin = some margin ∧
      e.futuresContext = some futuresContext ∧
      position.processFuturesPosition margin p e.candle e.context futuresContext = .ok update := by
  simp only [VirtualManagedPosition.processPosition, bind_eq_ok, raiseIf_eq_ok, not_not] at h
  obtain ⟨_, -, h⟩ := h
  rw [hm] at h
  cases hc : e.futuresContext with
  | none => simp [hc] at h
  | some futuresContext =>
    simp only [hc, bind_eq_ok, raiseIf_eq_ok, orRaise_eq_ok] at h
    obtain ⟨_, -, margin, hmargin, h⟩ := h
    exact ⟨margin, futuresContext, hmargin, rfl, h⟩

namespace RoundTrip

variable {wallet : VirtualPortfolioState} {opened : VirtualManagedPosition}
  {margin : FuturesMargin}

/-- **One candle keeps the books.** -/
theorem candle {position : VirtualManagedPosition} {p : VirtualPortfolioState} {e : CandleEvent}
    {update : VirtualPositionUpdateDecision} (hinv : RoundTrip wallet opened margin (position, p))
    (h : position.processPosition p e.candle e.context e.futuresContext e.availableAt =
      .ok update) :
    RoundTrip wallet opened margin (update.positionAfter, update.portfolioAfter) := by
  obtain ⟨margin', futuresContext, hmargin, -, h⟩ := processPosition_futures hinv.market_eq h
  obtain rfl : margin' = margin := by
    have heq := hinv.entry.margin_eq.symm.trans hmargin
    rw [hinv.margin_eq] at heq
    exact (Option.some.inj heq).symm
  obtain ⟨-, newExits, heffect⟩ := VirtualManagedPosition.processFuturesPosition_effect h
  set after := update.positionAfter
  set q := update.portfolioAfter
  have hentry := hinv.entry
  have hproceeds := hentry.exitProceeds_eq newExits
  have hnet := VirtualManagedPosition.sum_netPnl_exits heffect.netPnl
  rw [hproceeds, hentry.entryFee_eq, hentry.initialQuantity_eq] at hnet
  have hcash := heffect.cash_eq
  rw [VirtualManagedPosition.sum_cash, hproceeds, hentry.initialQuantity_eq] at hcash
  have hremaining : after.remainingQuantity =
      position.remainingQuantity - VirtualManagedPosition.exitQuantity newExits :=
    heffect.remaining_eq
  have hquantity : VirtualManagedPosition.exitQuantity after.exits =
      VirtualManagedPosition.exitQuantity position.exits +
        VirtualManagedPosition.exitQuantity newExits := by
    rw [heffect.exits_eq, VirtualManagedPosition.exitQuantity_append]
  have hall : opened.exitProceeds after.exits =
      opened.exitProceeds position.exits + opened.exitProceeds newExits := by
    rw [heffect.exits_eq, VirtualManagedPosition.exitProceeds_append]
  have hrealized : after.realizedPnlUsdt = position.realizedPnlUsdt -
      position.fundingDelta futuresContext + (newExits.map (·.netPnlUsdt)).sum :=
    heffect.realized_eq
  have hq := hinv.quantity_eq
  dsimp only at hq
  refine ⟨?_, ?_, hinv.margin_eq, ?_, ?_, ?_, ?_, ?_, ⟨futuresContext.markPrice, ?_⟩, heffect.flat⟩
  · exact heffect.entry.market_eq.trans hinv.market_eq
  · exact hentry.trans heffect.entry
  · dsimp only
    rw [hquantity, hremaining, hq]
    ring
  · have hbefore := hinv.realized_eq
    dsimp only at hbefore ⊢
    rw [hrealized, hnet, hbefore, heffect.funding_eq, hquantity, hall]
    ring
  · have hbefore := hinv.cash_eq
    dsimp only at hbefore ⊢
    rw [hcash, hbefore, heffect.funding_eq, hremaining, hall]
    ring
  · have hbefore := hinv.portfolioRealized_eq
    dsimp only at hbefore ⊢
    rw [heffect.portfolioRealized_eq, hbefore, hrealized]
    ring
  · dsimp only
    rw [heffect.equity_eq, hentry.initialQuantity_eq]
  · dsimp only
    rw [heffect.unrealized_eq, hentry.entryPrice_eq, hentry.side_eq]

/-- Every run of candles keeps the books. -/
lemma run {s t : VirtualManagedPosition × VirtualPortfolioState} {events : List CandleEvent}
    (hrun : Run ManagedStep s events t) (hinv : RoundTrip wallet opened margin s) :
    RoundTrip wallet opened margin t := by
  refine hrun.invariant (P := RoundTrip wallet opened margin) ?_ hinv
  rintro s e t ⟨update, hupdate, rfl⟩ hs
  exact hs.candle hupdate

/-- **The books at entry**: the fill posts the margin, pays fee and funding, and
the opened position starts with the funding as its loss. -/
theorem start {request : VirtualRuntimeRequest} {decision : VirtualRuntimeDecision}
    {preview : VirtualFillPreview} {openedAt : ℤ} {positionId : Option String}
    (hex : request.Executes preview decision) (hm : request.market = .usdMFutures)
    (h : materializeManagedPosition request decision openedAt positionId = .ok opened) :
    ∃ margin, RoundTrip request.portfolio opened margin (opened, decision.portfolioAfter) := by
  have hfutures : request.portfolio.market = .usdMFutures := request.market_eq ▸ hm
  obtain ⟨terms, ht⟩ := hex.entersFutures hfutures
  have heffect := hex.futuresFillEffect hfutures ht
  have hfilled := request.fillPreview_spec hex.fillPreview_eq hex.blockers_nil
  rw [materialize_eq_create hex, VirtualManagedPosition.create_eq_ok] at h
  obtain ⟨ratios, hr⟩ := PositionFields.normalized_eq
    (openingFields request decision.portfolioAfter.toPortfolioFields preview.executionPrice
      preview.filledQuantity openedAt positionId)
  rw [hr] at h
  have hmargin : opened.margin = some ⟨terms.isolatedMargin,
      preview.grossNotionalUsdt / terms.leverage, terms.maintenanceMarginRatio,
      terms.liquidationPrice preview, terms.leverage⟩ := by
    rw [h]
    simp [openingFields, PositionFields.margin, heffect.isolated_eq, heffect.initial_eq,
      ht.maintenance_eq, heffect.liquidation_eq, heffect.leverage_eq]
  have hexits : opened.exits = [] := by rw [h]; rfl
  have hinitial : opened.initialQuantity = preview.filledQuantity := by rw [h]; rfl
  have hremaining : opened.remainingQuantity = opened.initialQuantity := by rw [h]; rfl
  have hfee : opened.entryFeeUsdt = preview.feeUsdt := by
    rw [h]
    simp only [openingFields, heffect.fees_eq]
    ring
  have hfunding : opened.fundingCostUsdt = terms.fundingCost request preview := by
    rw [h]
    simp only [openingFields, heffect.funding_eq]
    ring
  have hrealized : opened.realizedPnlUsdt = -opened.fundingCostUsdt := by rw [h]; rfl
  have hside : opened.positionSide = terms.side := by
    rw [h]
    simp [openingFields, ht.side_eq]
  have hprice : opened.entryPrice = preview.executionPrice := by rw [h]; rfl
  have hwhole : opened.remainingQuantity / opened.initialQuantity = 1 := by
    rw [hremaining, hinitial, div_self hfilled.quantity_pos.ne']
  refine ⟨_, ⟨?_, .refl _, hmargin, ?_, ?_, ?_, ?_, ?_, ⟨terms.markPrice, ?_⟩, ?_⟩⟩
  · rw [h]
    exact hm
  · simp [VirtualManagedPosition.exitQuantity, hexits, hremaining]
  · simp [VirtualManagedPosition.exitQuantity, VirtualManagedPosition.exitProceeds, hexits,
      hrealized]
  · simp only [VirtualManagedPosition.exitProceeds, hexits, hwhole, heffect.cash_eq, hfee, hfunding,
      List.map_nil, List.sum_nil]
    ring
  · simp only [heffect.realized_eq, hrealized, hfunding]
    ring
  · simp only [heffect.equity_eq, hwhole]
    ring
  · simp only [heffect.unrealized_eq, hprice, hside, hremaining, hinitial]
  · intro hclosed
    have hopen : opened.status = .open := by rw [h]; rfl
    rw [hopen] at hclosed
    cases hclosed

end RoundTrip

/-- **Conservation of a Futures round trip.**  From a flat wallet whose cash is
its equity: whatever candles, forced exits and funding a position goes through
until an update closes it, its exits close the initial quantity and return the
isolated margin once; the wallet is flat again and its equity, its realized PnL
and the closed-trade record all change by the realized PnL of the position. -/
theorem futures_round_trip (request : VirtualRuntimeRequest) (decision : VirtualRuntimeDecision)
    (openedAt : ℤ) (positionId : Option String) (opened position : VirtualManagedPosition)
    (portfolio : VirtualPortfolioState) (events : List CandleEvent) (last : CandleEvent)
    (update : VirtualPositionUpdateDecision)
    (hm : request.market = .usdMFutures)
    (hcash : request.portfolio.cashUsdt = request.portfolio.equityUsdt)
    (hok : request.evaluate = .ok decision) (hready : decision.tradeIntent.isSome)
    (hopened : materializeManagedPosition request decision openedAt positionId = .ok opened)
    (hrun : Run ManagedStep (opened, decision.portfolioAfter) events (position, portfolio))
    (hlast : position.processPosition portfolio last.candle last.context last.futuresContext
      last.availableAt = .ok update)
    (hclosed : update.positionAfter.status = .closed) :
    (update.positionAfter.exits.map (·.quantity)).sum = opened.initialQuantity ∧
      (∃ isolated, opened.isolatedMarginUsdt = some isolated ∧
        (update.positionAfter.exits.map (opened.marginRelease isolated)).sum = isolated) ∧
      update.portfolioAfter.Flat ∧
      update.portfolioAfter.cashUsdt = update.portfolioAfter.equityUsdt ∧
      update.portfolioAfter.equityUsdt - request.portfolio.equityUsdt =
        update.positionAfter.realizedPnlUsdt ∧
      update.portfolioAfter.realizedPnlUsdt - request.portfolio.realizedPnlUsdt =
        update.positionAfter.realizedPnlUsdt ∧
      ∃ record, update.closedTrade = some record ∧
        record.netPnlUsdt = update.positionAfter.realizedPnlUsdt ∧
        record.grossPnlUsdt - record.feeCostUsdt - record.slippageCostUsdt -
          record.fundingCostUsdt = update.positionAfter.realizedPnlUsdt := by
  obtain ⟨preview, hex⟩ := request.evaluate_orderReady hok hready
  obtain ⟨margin, hstart⟩ := RoundTrip.start hex hm hopened
  have hbefore := RoundTrip.run hrun hstart
  have hend := hbefore.candle hlast
  set after := update.positionAfter with hafter
  have hremaining : after.remainingQuantity = 0 := after.closed_iff.mp hclosed
  have hpos := opened.values_pos.2.1
  have hquantity : VirtualManagedPosition.exitQuantity after.exits = opened.initialQuantity := by
    have h := hend.quantity_eq
    dsimp only at h
    rw [h, hremaining, sub_zero]
  have hunrealized : update.portfolioAfter.unrealizedPnlUsdt = 0 := by
    obtain ⟨mark, h⟩ := hend.unrealized_eq
    dsimp only at h
    rw [h, hremaining, mul_zero]
  have hequity : update.portfolioAfter.equityUsdt = update.portfolioAfter.cashUsdt := by
    have h := hend.equity_eq
    dsimp only at h
    rw [h, hremaining, hunrealized]
    ring
  have hwhole : VirtualManagedPosition.exitQuantity after.exits / opened.initialQuantity = 1 := by
    rw [hquantity, div_self hpos.ne']
  have hrealized : after.realizedPnlUsdt = -after.fundingCostUsdt +
      opened.exitProceeds after.exits - opened.entryFeeUsdt := by
    have h := hend.realized_eq
    dsimp only at h
    rw [h, hwhole, mul_one]
  refine ⟨hquantity, ⟨margin.isolatedMarginUsdt, ?_, ?_⟩, hend.flat hclosed, hequity.symm, ?_, ?_,
    ?_⟩
  · exact (PositionFields.margin_eq_some.mp hend.margin_eq).1
  · rw [VirtualManagedPosition.sum_marginRelease, hwhole, mul_one]
  · have h := hend.cash_eq
    dsimp only at h
    rw [hequity, h, hremaining, hrealized, ← hcash]
    ring
  · have h := hend.portfolioRealized_eq
    dsimp only at h
    rw [h]
    ring
  · have hne : after.exits ≠ [] := by
      intro h
      rw [h] at hquantity
      exact hpos.ne hquantity
    obtain ⟨record, hrecord, hnet, hbalance⟩ :=
      @VirtualManagedPosition.closedTradeRecord_balance position after hne
    refine ⟨record, ?_, hnet, ?_⟩
    · rw [VirtualPositionUpdateDecision.closedTrade, if_pos hclosed,
        VirtualManagedPosition.processPosition_before hlast]
      exact hrecord
    · rw [hbalance, hbefore.entry.exitProceeds_eq, hbefore.entry.entryFee_eq, hrealized]
      ring

/-! ### A sample round trip -/

/-- A flat Futures wallet with a thousand in cash. -/
def freshFuturesWallet : VirtualPortfolioState where
  portfolioId := "virtual-futures"
  market := .usdMFutures
  cashUsdt := 1000
  equityUsdt := 1000
  passes := by decide +kernel

/-- An approved long of one unit at 100 with the given margin and funding rate. -/
def longRequest (isolatedMargin fundingRate : ℚ) : RequestFields :=
  { unitRequest freshFuturesWallet .buy 100 90 (1 / 1000) with
    market := .usdMFutures
    positionSide := some .long
    markPrice := some 100
    fundingRate := some fundingRate
    leverage := some 5
    isolatedMarginUsdt := some isolatedMargin
    maintenanceMarginRatio := some (1 / 100) }

/-- A long that pays funding at entry. -/
def fundedLong : VirtualRuntimeRequest where
  toRequestFields := longRequest 20 (1 / 1000)
  passes := by decide +kernel

/-- A candle of a Futures position, observed at its close. -/
def futuresCandle (timestamp : ℤ) (candle : OHLCVCandle) (fundingRate : ℚ)
    (hpos : 0 < candle.close) : CandleEvent where
  candle := { candle with timestamp }
  context := {}
  futuresContext := some
    { observedAt := timestamp
      markPrice := candle.close
      fundingRate
      fundingPaymentDue := true
      markPrice_pos := hpos
      aligned := by simp }
  availableAt := none

/-- A candle between the stop and the target. -/
def quietCandle : OHLCVCandle where
  timestamp := 0
  «open» := 101
  high := 112
  low := 99
  close := 110
  volume := 10
  nonneg := by norm_num
  low_le_high := by norm_num
  max_le_high := by norm_num
  low_le_min := by norm_num

/-- A candle that reaches the target. -/
def takeProfitCandle : OHLCVCandle where
  timestamp := 0
  «open» := 112
  high := 131
  low := 111
  close := 128
  volume := 10
  nonneg := by norm_num
  low_le_high := by norm_num
  max_le_high := by norm_num
  low_le_min := by norm_num

/-- The first candle of the round trip, which pays funding. -/
def quietEvent : CandleEvent := futuresCandle 60 quietCandle (1 / 500) (by norm_num [quietCandle])

/-- The second candle, which closes the position. -/
def takeProfitEvent : CandleEvent := futuresCandle 120 takeProfitCandle 0 (by norm_num [takeProfitCandle])

/-- The long is opened, pays funding, and is closed on its target. -/
lemma fundedLong_runs : ∃ decision opened mid update,
    fundedLong.evaluate = .ok decision ∧ decision.tradeIntent.isSome ∧
      materializeManagedPosition fundedLong decision 0 none = .ok opened ∧
      opened.processPosition decision.portfolioAfter quietEvent.candle quietEvent.context
        quietEvent.futuresContext quietEvent.availableAt = .ok mid ∧
      mid.positionAfter.processPosition mid.portfolioAfter takeProfitEvent.candle takeProfitEvent.context
        takeProfitEvent.futuresContext takeProfitEvent.availableAt = .ok update ∧
      update.positionAfter.status = .closed := by
  have h : (fundedLong.evaluate.toOption.bind fun decision =>
      (materializeManagedPosition fundedLong decision 0 none).toOption.bind fun opened =>
        (opened.processPosition decision.portfolioAfter quietEvent.candle quietEvent.context
          quietEvent.futuresContext quietEvent.availableAt).toOption.bind fun mid =>
            (mid.positionAfter.processPosition mid.portfolioAfter takeProfitEvent.candle
              takeProfitEvent.context takeProfitEvent.futuresContext
              takeProfitEvent.availableAt).toOption.map fun update =>
                (decision.tradeIntent.isSome, update.positionAfter.status)) =
      some (true, .closed) := by
    decide +kernel
  simp only [Option.bind_eq_some_iff, Option.map_eq_some_iff, toOption_eq_some,
    Prod.mk.injEq] at h
  obtain ⟨decision, hok, opened, hopened, mid, hmid, update, hupdate, hready, hclosed⟩ := h
  exact ⟨decision, opened, mid, update, hok, hready, hopened, hmid, hupdate, hclosed⟩

/-- The round trip of the long. -/
theorem fundedLong_round_trip : ∃ (opened : VirtualManagedPosition)
    (update : VirtualPositionUpdateDecision),
    (update.positionAfter.exits.map (·.quantity)).sum = opened.initialQuantity ∧
      update.portfolioAfter.Flat ∧ update.portfolioAfter.equityUsdt -
        freshFuturesWallet.equityUsdt = update.positionAfter.realizedPnlUsdt := by
  obtain ⟨decision, opened, mid, update, hok, hready, hopened, hmid, hupdate, hclosed⟩ :=
    fundedLong_runs
  obtain ⟨hquantity, -, hflat, -, hequity, -⟩ := futures_round_trip fundedLong decision 0 none
    opened mid.positionAfter mid.portfolioAfter [quietEvent] takeProfitEvent update rfl rfl hok hready
    hopened (.single ⟨mid, hmid, rfl⟩) hupdate hclosed
  exact ⟨opened, update, hquantity, hflat, hequity⟩

end Ai4Binance
