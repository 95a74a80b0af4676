/-
The protective stop of a long in the Spot backtest, its single-target replay, the paper
lifecycle and the virtual runtime (`domain/research/trailing.py`,
`research/backtesting/engine.py`, `domain/research/paper_lifecycle.py`,
`application/virtual_runtime_engine.py`).

A long is protected by its stop loss or its trailing stop, whichever is higher.  All four
engines raise the trailing stop at the end of a candle, by the close less a distance and, once
break-even is armed, to the entry price; the Futures part of the runtime does not round what it
raises it to.

* `LongStop`: what protects a long, with `Tightens` and `RaisedOnGrid` of a candle;
* `Protected`, `StopStep`: a long of one of the engines, and a candle of it;
* `StopStep.tightens`, `StopStep.raisedOnGrid`: **one candle**;
* `TrailCall`: the calls of `update_long_trailing_stop`;
* `protective_stop_law`: **every run of candles**.
-/
import Ai4Binance.Backtesting.FuturesAgreement
import Ai4Binance.Backtesting.SpotAgreement
import Ai4Binance.Backtesting.TradeLife

open Text Check

namespace Ai4Binance

/-! ### What protects a long -/

/-- The prices that protect a long, with its entry, its tick and whether break-even is armed. -/
structure LongStop where
  entryPrice : ℚ
  tickSize : ℚ
  stopLoss : ℚ
  trailingStop : ℚ
  armed : Bool

namespace LongStop

/-- The higher one of the two stops. -/
def effective (s : LongStop) : ℚ := max s.stopLoss s.trailingStop

/-- The trailing stop only rises, and break-even raises it to the entry price. -/
structure Tightens (s t : LongStop) : Prop where
  entryPrice_eq : t.entryPrice = s.entryPrice
  stopLoss_eq : t.stopLoss = s.stopLoss
  trailing_le : s.trailingStop ≤ t.trailingStop
  breakeven : t.armed → t.entryPrice ≤ t.trailingStop

/-- A raised trailing stop is the entry price, or a multiple of the tick below the close. -/
def RaisedOnGrid (close : ℚ) (s t : LongStop) : Prop :=
  s.trailingStop < t.trailingStop → t.trailingStop = t.entryPrice ∨
    t.trailingStop ∈ AddSubgroup.zmultiples t.tickSize ∧ t.trailingStop < close

/-- What holds of two prices wherever they are above a third holds of the higher one. -/
lemma of_lt_max {P : ℚ → Prop} {p x y : ℚ} (hx : p < x → P x) (hy : p < y → P y)
    (h : p < max x y) : P (max x y) := by
  rcases max_choice x y with hmax | hmax
  · rw [hmax] at h ⊢
    exact hx h
  · rw [hmax] at h ⊢
    exact hy h

lemma Tightens.effective_le {s t : LongStop} (h : s.Tightens t) : s.effective ≤ t.effective := by
  rw [effective, effective, h.stopLoss_eq]
  exact max_le_max le_rfl h.trailing_le

lemma Tightens.entry_le {s t : LongStop} (h : s.Tightens t) (harmed : t.armed) :
    t.entryPrice ≤ t.effective :=
  (h.breakeven harmed).trans (le_max_right _ _)

end LongStop

/-! ### The Spot backtest -/

namespace BacktestConfig

variable {config : BacktestConfig} {a : Arithmetic} {intent : BacktestIntent} {trade : OpenTrade}
  {close trailingStop : ℚ} {armed : Bool}

/-- The distance of the trailing stop, without rounding. -/
def distance (config : BacktestConfig) (intent : BacktestIntent) : ℚ :=
  intent.trailingAtrMultiple.getD config.trailingMultiplier * intent.atr

lemma distance_pos (config : BacktestConfig) (intent : BacktestIntent) :
    0 < config.distance intent :=
  mul_pos (multiplier_pos config intent) intent.prices_pos.2.2

/-- The arithmetic computes the candidate at a close as the rationals do: the digits of the
context hold it. -/
structure Unrounded (config : BacktestConfig) (a : Arithmetic) (intent : BacktestIntent)
    (close : ℚ) : Prop where
  candidate : a.sub close
      (a.mul (intent.trailingAtrMultiple.getD config.trailingMultiplier) intent.atr) =
    close - config.distance intent
  units : Rounding.down.toInt (a.div (close - config.distance intent) config.tickSize.toRat) =
    Rounding.down.toInt ((close - config.distance intent) / config.tickSize.toRat)
  price : a.mul (Rounding.down.toInt ((close - config.distance intent) / config.tickSize.toRat))
      config.tickSize.toRat =
    Rounding.down.toInt ((close - config.distance intent) / config.tickSize.toRat) *
      config.tickSize.toRat

/-- What trailing raises the stop to is a multiple of the tick below the close. -/
lemma cut_mem {tick distance : ℚ} (htick : 0 < tick) (hdistance : 0 < distance)
    (h : 0 < (Rounding.down.toInt ((close - distance) / tick) : ℚ) * tick) :
    (Rounding.down.toInt ((close - distance) / tick) : ℚ) * tick ∈ AddSubgroup.zmultiples tick ∧
      (Rounding.down.toInt ((close - distance) / tick) : ℚ) * tick < close := by
  refine ⟨AddSubgroup.mem_zmultiples_iff.mpr ⟨_, zsmul_eq_mul _ _⟩, ?_⟩
  calc (Rounding.down.toInt ((close - distance) / tick) : ℚ) * tick ≤ close - distance :=
        Rounding.down_mul_le htick h
    _ < close := sub_lt_self _ hdistance

/-- The trailing stop of the backtest is raised to break-even or on the grid. -/
lemma trailedStop_raised (hgrid : config.Unrounded a trade.intent close) (hpos : 0 < trailingStop)
    (h : trailingStop < config.trailedStop a trade (config.trailingDistance a trade) close armed
      trailingStop) :
    config.trailedStop a trade (config.trailingDistance a trade) close armed trailingStop =
        trade.entryPrice ∨
      config.trailedStop a trade (config.trailingDistance a trade) close armed trailingStop ∈
          AddSubgroup.zmultiples config.tickSize.toRat ∧
        config.trailedStop a trade (config.trailingDistance a trade) close armed trailingStop <
          close := by
  rw [trailedStop] at h ⊢
  dsimp only at h ⊢
  rw [trailingDistance, hgrid.candidate, hgrid.units, hgrid.price] at h ⊢
  set cut := (Rounding.down.toInt ((close - config.distance trade.intent) /
    config.tickSize.toRat) : ℚ) * config.tickSize.toRat
  set Good : ℚ → Prop := fun price => price = trade.entryPrice ∨
    price ∈ AddSubgroup.zmultiples config.tickSize.toRat ∧ price < close
  have hstays (h : trailingStop < trailingStop) : Good trailingStop := absurd h (lt_irrefl _)
  have hentry (_ : trailingStop < trade.entryPrice) : Good trade.entryPrice := .inl rfl
  have hcut (hlt : trailingStop < cut) : Good cut :=
    .inr (cut_mem config.tick_pos (config.distance_pos trade.intent) (hpos.trans hlt))
  have htrailed : trailingStop < (if trailingStop < close then max trailingStop cut
      else trailingStop) →
        Good (if trailingStop < close then max trailingStop cut else trailingStop) := by
    split_ifs
    · exact LongStop.of_lt_max hstays hcut
    · exact hstays
  by_cases harmed : armed = true
  · rw [if_pos harmed] at h ⊢
    exact LongStop.of_lt_max htrailed hentry h
  · rw [if_neg harmed] at h ⊢
    exact htrailed h

/-- Break-even raises the trailing stop to the entry price. -/
lemma entry_le_trailedStop (config : BacktestConfig) (a : Arithmetic) (trade : OpenTrade)
    (distance close trailingStop : ℚ) :
    trade.entryPrice ≤ config.trailedStop a trade distance close true trailingStop := by
  rw [trailedStop]
  dsimp only
  rw [if_pos rfl]
  exact le_max_right _ _

end BacktestConfig

/-! ### The paper lifecycle -/

namespace PaperLifecycleEngine

variable {engine : PaperLifecycleEngine} {p q : LifecyclePosition} {candle : OHLCVCandle}
  {context : ClosureContext}

/-- The prices of a position that no exit moves. -/
def prices (p : LifecyclePosition) : ℚ × ℚ × ℚ × ℚ :=
  (p.entryPrice, p.stopLoss, p.trailingStop, p.atr)

lemma applyExit_prices {timestamp : ℤ} {reason : ExitReason} {price quantity : ℚ} {index : ℕ}
    (h : engine.applyExit p timestamp reason price quantity context index = .ok q) :
    prices q = prices p := by
  simp only [applyExit, bind_eq_ok] at h
  obtain ⟨e, -, hq⟩ := h
  rw [LifecyclePosition.create_eq_ok] at hq
  rw [prices, hq]
  rfl

lemma takeTargets_prices {targets : List (ℚ × ℚ)}
    (h : engine.takeTargets candle context targets p = .ok q) : prices q = prices p := by
  induction targets generalizing p with
  | nil =>
    obtain rfl := Except.ok.inj h
    rfl
  | cons t rest ih =>
    obtain ⟨target, ratio⟩ := t
    rw [takeTargets] at h
    split_ifs at h
    · obtain rfl := Except.ok.inj h
      rfl
    · obtain ⟨updated, hupdated, h⟩ := bind_eq_ok.mp h
      have hsame := applyExit_prices hupdated
      split_ifs at h
      · obtain rfl := Except.ok.inj h
        exact hsame
      · exact (ih h).trans hsame

/-- What the close of a candle raises the trailing stop of a position to. -/
def cut (engine : PaperLifecycleEngine) (p : LifecyclePosition) (close : ℚ) : ℚ :=
  Rounding.down.toInt ((close - engine.trailingMultiplier * p.atr) / engine.tickSize) *
    engine.tickSize

/-- A candle moves at most the trailing stop. -/
lemma processCandle_prices (h : engine.processCandle p candle context = .ok q) :
    q.entryPrice = p.entryPrice ∧ q.stopLoss = p.stopLoss ∧
      (q.trailingStop = p.trailingStop ∨
        q.trailingStop = max p.trailingStop (engine.cut p candle.close)) := by
  simp only [processCandle, bind_eq_ok, raiseIf_eq_ok] at h
  obtain ⟨_, -, _, -, h⟩ := h
  by_cases hstop : candle.low ≤ max p.stopLoss p.trailingStop
  · rw [if_pos hstop] at h
    have hsame := applyExit_prices h
    simp only [prices, Prod.mk.injEq] at hsame
    obtain ⟨hentry, hloss, htrailing, -⟩ := hsame
    exact ⟨hentry, hloss, .inl htrailing⟩
  · rw [if_neg hstop, bind_eq_ok] at h
    obtain ⟨updated, hupdated, h⟩ := h
    have hsame := takeTargets_prices hupdated
    simp only [prices, Prod.mk.injEq] at hsame
    obtain ⟨hentry, hloss, htrailing, hatr⟩ := hsame
    split_ifs at h
    · obtain rfl := pure_eq_ok.mp h
      exact ⟨hentry, hloss, .inl htrailing⟩
    · have hq := trail_eq h
      refine ⟨by rw [hq, ← hentry], by rw [hq, ← hloss], .inr ?_⟩
      rw [hq, cut, ← htrailing, ← hatr]

/-- The prices of a position are positive. -/
lemma prices_pos (p : LifecyclePosition) : 0 < p.trailingStop ∧ 0 < p.atr := by
  have h := p.passes
  simp only [LifecycleFields.checks, passes_cons, decide_eq_false_iff_not, not_or, not_lt,
    List.any_cons, List.any_nil, Bool.or_eq_true, decide_eq_true_eq, not_le] at h
  obtain ⟨-, -, ⟨-, -, -, -, htrailing, hatr, -⟩, -⟩ := h
  exact ⟨htrailing, hatr⟩

lemma engine_pos (h : Passes engine.checks) :
    0 < engine.trailingMultiplier ∧ 0 < engine.tickSize := by
  simp only [checks, passes_cons, decide_eq_false_iff_not, not_le, lt_min_iff] at h
  exact h.2.2.1

/-- The trailing stop of the paper lifecycle is raised on the grid. -/
lemma cut_raised (hengine : Passes engine.checks) {close : ℚ}
    (h : p.trailingStop < engine.cut p close) :
    engine.cut p close ∈ AddSubgroup.zmultiples engine.tickSize ∧ engine.cut p close < close := by
  obtain ⟨hmultiplier, htick⟩ := engine_pos hengine
  obtain ⟨htrailing, hatr⟩ := prices_pos p
  exact BacktestConfig.cut_mem htick (mul_pos hmultiplier hatr) (htrailing.trans h)

end PaperLifecycleEngine

/-! ### The virtual runtime -/

namespace VirtualManagedPosition

variable {position after : VirtualManagedPosition} {l q : LifecyclePosition}
  {candle : OHLCVCandle} {context : VirtualExitContext} {p : VirtualPortfolioState}
  {event : CandleEvent} {update : VirtualPositionUpdateDecision}

/-- What protects an open position; a closed one is armed no more. -/
def longStop (position : VirtualManagedPosition) : LongStop :=
  ⟨position.entryPrice, position.tickSize.toRat, position.stopLoss, position.trailingStop,
    decide (position.status ≠ .closed) &&
      position.breakevenTriggerReached position.maximumFavorableExcursionUsdt⟩

lemma lifecyclePosition_prices (h : position.lifecyclePosition = .ok l) :
    l.entryPrice = position.entryPrice ∧ l.stopLoss = position.stopLoss ∧
      l.trailingStop = position.trailingStop := by
  simp only [lifecyclePosition, bind_eq_ok] at h
  obtain ⟨plan, -, h⟩ := h
  rw [LifecyclePosition.create_eq_ok] at h
  rw [h]
  exact ⟨rfl, rfl, rfl⟩

/-- An exit at the close leaves the trailing stop, and an open position all of it. -/
lemma closeForced_trailing {reason : Option BacktestExitReason}
    (h : position.closeForced l candle context = .ok (q, reason)) :
    q.trailingStop = l.trailingStop ∧ (q.status ≠ .closed → q = l) := by
  rw [closeForced] at h
  cases hreason : position.closingReason context with
  | none =>
    rw [hreason] at h
    obtain ⟨rfl, -⟩ := Prod.mk.inj (pure_eq_ok.mp h)
    exact ⟨rfl, fun _ => rfl⟩
  | some forced =>
    rw [hreason] at h
    dsimp only at h
    split_ifs at h
    · simp only [closeLifecycleRemaining, bind_eq_ok, pure_eq_ok, Prod.mk.injEq] at h
      obtain ⟨closed, ⟨e, -, hclosed⟩, rfl, -⟩ := h
      rw [LifecyclePosition.create_eq_ok] at hclosed
      rw [hclosed]
      exact ⟨rfl, fun hopen => absurd rfl hopen⟩
    · obtain ⟨rfl, -⟩ := Prod.mk.inj (pure_eq_ok.mp h)
      exact ⟨rfl, fun _ => rfl⟩

/-- The trailing stop after break-even. -/
lemma breakeven_trailing {mfe : ℚ} (h : position.breakeven l mfe = .ok q) :
    (q.trailingStop = l.trailingStop ∨ q.trailingStop = max l.trailingStop l.entryPrice) ∧
      q.status = l.status ∧
      (q.status ≠ .closed → position.breakevenTriggerReached mfe →
        q.trailingStop = max l.trailingStop l.entryPrice) := by
  rw [breakeven] at h
  split_ifs at h with hreached
  · rw [LifecyclePosition.create_eq_ok] at h
    rw [h]
    exact ⟨.inr rfl, rfl, fun _ _ => rfl⟩
  · obtain rfl := Except.ok.inj h
    exact ⟨.inl rfl, rfl, fun hopen htrigger => absurd ⟨hopen, htrigger⟩ hreached⟩

/-- What protects a position that a candle has moved. -/
lemma longStop_of_moved {m : Moved} {ratios : List ℚ} (h : after.toPositionFields =
    { position.toPositionFields.move m with takeProfitQuantityRatios := ratios }) :
    after.longStop = ⟨position.entryPrice, position.tickSize.toRat, position.stopLoss,
      m.trailingStop, decide (m.status ≠ .closed) &&
        position.breakevenTriggerReached m.maximumFavorableExcursionUsdt⟩ := by
  rw [longStop, breakevenTriggerReached, h]
  rfl

/-- A candle of a Spot position. -/
lemma processSpotPosition_longStop
    (h : position.processSpotPosition p candle context = .ok update) :
    position.longStop.Tightens update.positionAfter.longStop ∧
      LongStop.RaisedOnGrid candle.close position.longStop update.positionAfter.longStop := by
  simp only [processSpotPosition, bind_eq_ok, raiseIf_eq_ok, pure_eq_ok, not_not] at h
  obtain ⟨_, -, _, hengine, l, hl, processed, hprocessed, kept, hkept, ⟨final, reason⟩, hforced,
    after, hafter, q, -, _, -, rfl⟩ := h
  obtain ⟨hentry, -, htrailing⟩ := lifecyclePosition_prices hl
  obtain ⟨hentry', -, hmoved⟩ := PaperLifecycleEngine.processCandle_prices hprocessed
  obtain ⟨hbreakeven, hstatus, harmed⟩ := breakeven_trailing hkept
  obtain ⟨hfinal, hsame⟩ := closeForced_trailing hforced
  obtain ⟨exits, review, heq⟩ :=
    managedPositionFromLifecycle_eq position final (position.barsHeld + 1)
      (max position.maximumFavorableExcursionUsdt
        (max (candle.high - position.entryPrice) 0 * position.initialQuantity)) reason
  rw [heq, create_eq_ok] at hafter
  obtain ⟨ratios, hratios⟩ := PositionFields.normalized_eq (position.toPositionFields.move _)
  rw [hratios] at hafter
  set good : ℚ → Prop := fun price => price = position.entryPrice ∨
    price ∈ AddSubgroup.zmultiples position.tickSize.toRat ∧ price < candle.close with hgood
  have hfirst : position.trailingStop ≤ processed.trailingStop ∧
      (position.trailingStop < processed.trailingStop → good processed.trailingStop) := by
    rw [htrailing] at hmoved
    rcases hmoved with hmoved | hmoved
    · rw [hmoved]
      exact ⟨le_rfl, fun hlt => absurd hlt (lt_irrefl _)⟩
    · rw [hmoved]
      refine ⟨le_max_left _ _, LongStop.of_lt_max (fun hlt => absurd hlt (lt_irrefl _)) ?_⟩
      rw [← htrailing]
      exact fun hlt => .inr (PaperLifecycleEngine.cut_raised hengine hlt)
  have hsecond : processed.trailingStop ≤ kept.trailingStop ∧
      (position.trailingStop < kept.trailingStop → good kept.trailingStop) := by
    rcases hbreakeven with hbreakeven | hbreakeven
    · rw [hbreakeven]
      exact ⟨le_rfl, hfirst.2⟩
    · rw [hbreakeven]
      refine ⟨le_max_left _ _, LongStop.of_lt_max hfirst.2 fun _ => .inl ?_⟩
      rw [hentry', hentry]
  rw [longStop_of_moved hafter]
  refine ⟨⟨rfl, rfl, ?_, ?_⟩, ?_⟩
  · exact (hfirst.1.trans hsecond.1).trans hfinal.ge
  · intro harmed'
    obtain ⟨hopen, htrigger⟩ := (Bool.and_eq_true _ _).mp harmed'
    have hopen' : final.status ≠ .closed := of_decide_eq_true hopen
    have hkeptopen : kept.status ≠ .closed := hsame hopen' ▸ hopen'
    have hraised := harmed hkeptopen htrigger
    rw [hentry', hentry] at hraised
    exact (hraised.symm ▸ le_max_right _ _ : position.entryPrice ≤ kept.trailingStop).trans
      hfinal.ge
  · intro hlt
    change position.trailingStop < final.trailingStop at hlt
    rw [hfinal] at hlt
    have hgood := hsecond.2 hlt
    rwa [← hfinal] at hgood

/-- The trailing stop of a Futures long rises, to its entry once break-even is reached. -/
lemma futuresTrailingStop_long (hlong : position.positionSide = .long) (candle : OHLCVCandle)
    (mfe : ℚ) :
    position.trailingStop ≤ position.futuresTrailingStop candle mfe ∧
      (position.breakevenTriggerReached mfe →
        position.entryPrice ≤ position.futuresTrailingStop candle mfe) := by
  have hlower : (if position.breakevenTriggerReached mfe then
      max position.trailingStop position.entryPrice else position.trailingStop) ≤
        position.futuresTrailingStop candle mfe := by
    rw [futuresTrailingStop, hlong]
    cases position.trailingAtrMultiple with
    | none => exact le_rfl
    | some multiple => exact le_max_left _ _
  constructor
  · refine le_trans ?_ hlower
    split_ifs
    · exact le_max_left _ _
    · exact le_rfl
  · intro htrigger
    refine le_trans ?_ hlower
    rw [if_pos htrigger]
    exact le_max_right _ _

/-- The price that a Futures long trails at lies above its trailing stop and off the tick. -/
def TrailsOffGrid (position : VirtualManagedPosition) (candle : OHLCVCandle) : Prop :=
  position.market = .usdMFutures ∧ ∃ multiple, position.trailingAtrMultiple = some multiple ∧
    position.trailingStop < candle.close - position.atr * multiple ∧
    candle.close - position.atr * multiple ∉ AddSubgroup.zmultiples position.tickSize.toRat

/-- A trailing stop that is not raised off the grid is raised on it. -/
lemma futuresTrailingStop_raised (hlong : position.positionSide = .long)
    (hmarket : position.market = .usdMFutures) {mfe : ℚ} (hgrid : ¬ position.TrailsOffGrid candle)
    (h : position.trailingStop < position.futuresTrailingStop candle mfe) :
    position.futuresTrailingStop candle mfe = position.entryPrice ∨
      position.futuresTrailingStop candle mfe ∈ AddSubgroup.zmultiples position.tickSize.toRat ∧
        position.futuresTrailingStop candle mfe < candle.close := by
  rw [futuresTrailingStop, hlong] at h ⊢
  dsimp only at h ⊢
  set good : ℚ → Prop := fun price => price = position.entryPrice ∨
    price ∈ AddSubgroup.zmultiples position.tickSize.toRat ∧ price < candle.close
  set trailing := (if position.breakevenTriggerReached mfe = true then
    max position.trailingStop position.entryPrice else position.trailingStop) with htrailing
  have hbreakeven : position.trailingStop < trailing → good trailing := by
    rw [htrailing]
    split_ifs
    · exact LongStop.of_lt_max (fun hlt => absurd hlt (lt_irrefl _)) fun _ => .inl rfl
    · exact fun hlt => absurd hlt (lt_irrefl _)
  cases hmultiple : position.trailingAtrMultiple with
  | none =>
    rw [hmultiple] at h
    exact hbreakeven h
  | some multiple =>
    rw [hmultiple] at h
    refine LongStop.of_lt_max hbreakeven (fun hlt => .inr ⟨?_, ?_⟩) h
    · by_contra hoff
      exact hgrid ⟨hmarket, multiple, hmultiple, hlt, hoff⟩
    · have hvalues := position.amountsValid
      have hatr : 0 < position.atr := hvalues.values_pos _ (by simp)
      have hpos := hvalues.trailing_pos multiple hmultiple
      exact sub_lt_self _ (mul_pos hatr hpos)

/-- A candle of a Futures long. -/
lemma processFuturesPosition_longStop {margin : FuturesMargin}
    {futuresContext : VirtualFuturesPositionContext} (hmarket : position.market = .usdMFutures)
    (hlong : position.positionSide = .long)
    (h : position.processFuturesPosition margin p candle context futuresContext = .ok update) :
    position.longStop.Tightens update.positionAfter.longStop ∧
      (¬ position.TrailsOffGrid candle →
        LongStop.RaisedOnGrid candle.close position.longStop update.positionAfter.longStop) := by
  simp only [processFuturesPosition, bind_eq_ok, raiseIf_eq_ok, pure_eq_ok] at h
  obtain ⟨orders, -, exits, -, after, hafter, q, -, _, -, rfl⟩ := h
  have hparts := hafter
  simp only [futuresPositionAfter, bind_eq_ok] at hparts
  obtain ⟨review, hreview, -⟩ := hparts
  rw [futuresPositionAfter_eq hreview, create_eq_ok] at hafter
  obtain ⟨ratios, hratios⟩ := PositionFields.normalized_eq (position.toPositionFields.move _)
  rw [hratios] at hafter
  have hremaining : 0 ≤ position.remainingAfter orders := by
    have hnonneg := after.amountsValid.remaining_nonneg
    rw [hafter] at hnonneg
    exact hnonneg
  obtain ⟨hrises, hentry⟩ := futuresTrailingStop_long hlong candle (position.excursions candle).1
  rw [longStop_of_moved hafter]
  refine ⟨⟨rfl, rfl, ?_, ?_⟩, ?_⟩
  · dsimp only [movedBy, longStop]
    split_ifs
    · exact hrises
    · exact le_rfl
  · intro harmed
    obtain ⟨hopen, htrigger⟩ := (Bool.and_eq_true _ _).mp harmed
    have hopen' : position.statusAfter (position.remainingAfter orders) exits ≠ .closed :=
      of_decide_eq_true hopen
    have hpos : 0 < position.remainingAfter orders := by
      refine lt_of_le_of_ne hremaining fun hzero => hopen' ?_
      rw [statusAfter, if_pos hzero.symm]
    dsimp only [movedBy]
    rw [if_pos hpos]
    exact hentry htrigger
  · intro hgrid hlt
    dsimp only [movedBy, longStop] at hlt ⊢
    split_ifs at hlt ⊢
    · exact futuresTrailingStop_raised hlong hmarket hgrid hlt
    · exact absurd hlt (lt_irrefl _)

end VirtualManagedPosition

/-! ### The four engines -/

/-- A long of one of the four engines. -/
inductive Protected where
  | backtest (config : BacktestConfig) (a : Arithmetic) (trade : OpenTrade)
  | singleTarget (config : BacktestConfig) (a : Arithmetic) (trade : OpenTrade)
      (s : BacktestConfig.SingleTargetState) (hpos : 0 < s.trailingStop)
  | paper (engine : PaperLifecycleEngine) (position : LifecyclePosition)
  | runtime (position : VirtualManagedPosition)

/-- What protects it; the paper lifecycle has no break-even. -/
def Protected.longStop : Protected → LongStop
  | .backtest config _ trade => ⟨trade.entryPrice, config.tickSize.toRat, trade.position.stopLoss,
      trade.position.trailingStop, trade.breakevenArmed⟩
  | .singleTarget config _ trade s _ => ⟨trade.entryPrice, config.tickSize.toRat,
      trade.position.stopLoss, s.trailingStop, s.breakevenArmed⟩
  | .paper engine position => ⟨position.entryPrice, engine.tickSize, position.stopLoss,
      position.trailingStop, false⟩
  | .runtime position => position.longStop

open BacktestConfig in
/-- A candle that an engine takes a long through.  A run of the backtest may ignore a signal at
its end. -/
inductive StopStep [UnicodeData] : Protected → OHLCVCandle → Protected → Prop
  | backtest {config : BacktestConfig} {a : Arithmetic} {trade next after : OpenTrade}
      {candle : OHLCVCandle} (h : config.generalCandle a trade candle = .ok (.inl next))
      (hafter : after = next ∨ ∃ blockers, after = SpotBacktestConfig.ignoreSignal next blockers) :
      StopStep (.backtest config a trade) candle (.backtest config a after)
  | singleTarget {config : BacktestConfig} {a : Arithmetic} {trade : OpenTrade}
      {s : SingleTargetState} {candle : OHLCVCandle} (hpos : 0 < s.trailingStop)
      (h : fastExit trade candle (heldState a trade candle s) = none) :
      StopStep (.singleTarget config a trade s hpos) candle
        (.singleTarget config a trade (config.nextState a trade candle (heldState a trade candle s))
          (nextState_pos hpos))
  | paper {engine : PaperLifecycleEngine} {position next : LifecyclePosition}
      {candle : OHLCVCandle} {context : ClosureContext} (hengine : Passes engine.checks)
      (h : engine.processCandle position candle context = .ok next) :
      StopStep (.paper engine position) candle (.paper engine next)
  | runtime {position : VirtualManagedPosition} {portfolio : VirtualPortfolioState}
      {event : CandleEvent} {update : VirtualPositionUpdateDecision}
      (hlong : position.positionSide = .long)
      (h : position.processPosition portfolio event.candle event.context event.futuresContext
        event.availableAt = .ok update) :
      StopStep (.runtime position) event.candle (.runtime update.positionAfter)

/-- The candle raises the trailing stop on the grid, if it raises it: a backtest does not round
the candidate to its digits, and the runtime does not trail a Futures long off the tick. -/
def Protected.KeepsGrid : Protected → OHLCVCandle → Prop
  | .backtest config a trade, candle => config.Unrounded a trade.intent candle.close
  | .singleTarget config a trade _ _, candle => config.Unrounded a trade.intent candle.close
  | .paper _ _, _ => True
  | .runtime position, candle => ¬ position.TrailsOffGrid candle

namespace StopStep

variable [UnicodeData] {s t u v : Protected} {candle : OHLCVCandle}

/-- **One candle**: the stop of a long only tightens. -/
theorem tightens (h : StopStep s candle t) : s.longStop.Tightens t.longStop := by
  cases h with
  | @backtest config a trade next after _ h hafter =>
    have hnext := BacktestConfig.generalCandle_survives h
    have hsame : (Protected.backtest config a after).longStop =
        (Protected.backtest config a next).longStop := by
      rcases hafter with rfl | ⟨blockers, rfl⟩
      · rfl
      · rfl
    rw [hsame]
    refine ⟨hnext.entryPrice_eq, hnext.stopLoss_eq, ?_, ?_⟩
    · change trade.position.trailingStop ≤ next.position.trailingStop
      rw [hnext.trailingStop_eq]
      exact BacktestConfig.le_trailedStop _ _ _ _ _ _ _
    · intro harmed
      change next.breakevenArmed = true at harmed
      change next.entryPrice ≤ next.position.trailingStop
      rw [hnext.trailingStop_eq, harmed, hnext.entryPrice_eq]
      exact BacktestConfig.entry_le_trailedStop _ _ _ _ _ _
  | @singleTarget config a trade state _ hpos h =>
    refine ⟨rfl, rfl, BacktestConfig.le_trailedStop _ _ _ _ _ _ _, ?_⟩
    intro harmed
    change trade.entryPrice ≤ config.trailedStop a trade _ _
      (config.nextState a trade candle (BacktestConfig.heldState a trade candle state)).breakevenArmed
      _
    rw [show (config.nextState a trade candle
      (BacktestConfig.heldState a trade candle state)).breakevenArmed = true from harmed]
    exact BacktestConfig.entry_le_trailedStop _ _ _ _ _ _
  | @paper engine position next _ context hengine h =>
    obtain ⟨hentry, hloss, htrailing⟩ := PaperLifecycleEngine.processCandle_prices h
    refine ⟨hentry, hloss, ?_, fun harmed => absurd harmed Bool.false_ne_true⟩
    change position.trailingStop ≤ next.trailingStop
    rcases htrailing with htrailing | htrailing
    · exact htrailing.ge
    · rw [htrailing]
      exact le_max_left _ _
  | @runtime position portfolio event update hlong h =>
    cases hmarket : position.market with
    | spot =>
      exact (VirtualManagedPosition.processSpotPosition_longStop
        (processPosition_spot event hmarket h)).1
    | usdMFutures =>
      obtain ⟨margin, futuresContext, -, -, hfutures⟩ := processPosition_futures hmarket h
      exact (VirtualManagedPosition.processFuturesPosition_longStop hmarket hlong hfutures).1

/-- **One candle**: a raised trailing stop is break-even, or on the grid below the close. -/
theorem raisedOnGrid (h : StopStep s candle t) (hgrid : s.KeepsGrid candle) :
    LongStop.RaisedOnGrid candle.close s.longStop t.longStop := by
  cases h with
  | @backtest config a trade next after _ h hafter =>
    have hnext := BacktestConfig.generalCandle_survives h
    have hsame : (Protected.backtest config a after).longStop =
        (Protected.backtest config a next).longStop := by
      rcases hafter with rfl | ⟨blockers, rfl⟩
      · rfl
      · rfl
    rw [hsame]
    intro hlt
    change trade.position.trailingStop < next.position.trailingStop at hlt
    change next.position.trailingStop = next.entryPrice ∨
      next.position.trailingStop ∈ AddSubgroup.zmultiples config.tickSize.toRat ∧
        next.position.trailingStop < candle.close
    rw [hnext.trailingStop_eq] at hlt ⊢
    rw [hnext.entryPrice_eq]
    exact BacktestConfig.trailedStop_raised hgrid trade.position.values_pos.2.2.2 hlt
  | @singleTarget config a trade state _ hpos h =>
    exact fun hlt => BacktestConfig.trailedStop_raised hgrid hpos hlt
  | @paper engine position next _ context hengine h =>
    obtain ⟨-, -, htrailing⟩ := PaperLifecycleEngine.processCandle_prices h
    intro hlt
    change position.trailingStop < next.trailingStop at hlt
    change next.trailingStop = next.entryPrice ∨
      next.trailingStop ∈ AddSubgroup.zmultiples engine.tickSize ∧ next.trailingStop < candle.close
    rcases htrailing with htrailing | htrailing
    · exact absurd hlt (by rw [htrailing]; exact lt_irrefl _)
    · rw [htrailing] at hlt ⊢
      exact LongStop.of_lt_max (P := fun price => price = next.entryPrice ∨
          price ∈ AddSubgroup.zmultiples engine.tickSize ∧ price < candle.close)
        (fun hlt => absurd hlt (lt_irrefl _))
        (fun hlt => .inr (PaperLifecycleEngine.cut_raised hengine hlt)) hlt
  | @runtime position portfolio event update hlong h =>
    cases hmarket : position.market with
    | spot =>
      exact (VirtualManagedPosition.processSpotPosition_longStop
        (processPosition_spot event hmarket h)).2
    | usdMFutures =>
      obtain ⟨margin, futuresContext, -, -, hfutures⟩ := processPosition_futures hmarket h
      exact (VirtualManagedPosition.processFuturesPosition_longStop hmarket hlong hfutures).2 hgrid

end StopStep

/-! ### The calls of `update_long_trailing_stop` -/

/-- The calls on a candle, with what they return. -/
inductive TrailCall : Protected → OHLCVCandle → Except PyError ℚ → Prop
  | backtest {config : BacktestConfig} {a : Arithmetic} {trade : OpenTrade} {candle : OHLCVCandle}
      (h : trade.position.trailingStop < candle.close) :
      TrailCall (.backtest config a trade) candle
        (config.updateLongTrailingStop a trade.position.trailingStop candle.close trade.intent.atr
          (trade.intent.trailingAtrMultiple.getD config.trailingMultiplier))
  | paper {engine : PaperLifecycleEngine} {position updated : LifecyclePosition}
      {candle : OHLCVCandle} {context : ClosureContext} (hengine : Passes engine.checks)
      (hstop : ¬ candle.low ≤ max position.stopLoss position.trailingStop)
      (h : engine.takeTargets candle context (PaperLifecycleEngine.openTargets position) position =
        .ok updated) :
      TrailCall (.paper engine position) candle
        (updateLongTrailingStop updated.trailingStop candle.close updated.atr
          engine.trailingMultiplier engine.tickSize)
  | runtime {position : VirtualManagedPosition} {lifecycle : LifecyclePosition}
      {candle : OHLCVCandle} {result : Except PyError ℚ} (hspot : position.market = .spot)
      (hlife : position.lifecyclePosition = .ok lifecycle)
      (h : TrailCall (.paper position.engine lifecycle) candle result) :
      TrailCall (.runtime position) candle result

/-- No call is refused. -/
lemma TrailCall.accepted {s : Protected} {candle : OHLCVCandle} {result : Except PyError ℚ}
    (h : TrailCall s candle result) : ∃ stop, result = .ok stop := by
  induction h with
  | @backtest config a trade candle h =>
    have hpos := trade.position.values_pos.2.2.2
    have hchecks : ¬ ([trade.position.trailingStop, candle.close, trade.intent.atr,
        trade.intent.trailingAtrMultiple.getD config.trailingMultiplier,
        config.tickSize.toRat].any (· ≤ 0)) = true := by
      simp [hpos, hpos.trans h, trade.intent.prices_pos.2.2,
        BacktestConfig.multiplier_pos config trade.intent, config.tick_pos]
    rw [BacktestConfig.updateLongTrailingStop]
    dsimp only
    rw [raiseIf_of_not hchecks, ok_bind, raiseIf_of_not (not_le.mpr h), ok_bind]
    exact ⟨_, rfl⟩
  | @paper engine position updated candle context hengine hstop h =>
    have hsame := PaperLifecycleEngine.takeTargets_prices h
    simp only [PaperLifecycleEngine.prices, Prod.mk.injEq] at hsame
    obtain ⟨-, -, htrailing, -⟩ := hsame
    have hlow : updated.trailingStop < candle.low := by
      rw [htrailing]
      exact (le_max_right _ _).trans_lt (not_le.mp hstop)
    obtain ⟨q, hq, -⟩ := PaperLifecycleEngine.trail_held hengine hlow
    simp only [PaperLifecycleEngine.trail, bind_eq_ok] at hq
    obtain ⟨stop, hstop, -⟩ := hq
    exact ⟨stop, hstop⟩
  | runtime hspot hlife h ih => exact ih

/-! ### Every run of candles -/

/-- **The protective stop law**: on every run of candles the stop of a long never falls, and lies
at its entry price or above from the candle after break-even was armed; each candle that keeps
the grid raises the trailing stop on it and below its close, if not to the entry price; and no
update of a trailing stop is refused. -/
theorem protective_stop_law [UnicodeData] {s t u v : Protected} {before after : List OHLCVCandle}
    {candle : OHLCVCandle} (hbefore : Run StopStep s before t) (hcandle : StopStep t candle u)
    (hafter : Run StopStep u after v) :
    (s.longStop.effective ≤ t.longStop.effective ∧
      t.longStop.effective ≤ u.longStop.effective ∧
      u.longStop.effective ≤ v.longStop.effective) ∧
    (u.longStop.armed → v.longStop.entryPrice ≤ v.longStop.effective) ∧
    (t.KeepsGrid candle → LongStop.RaisedOnGrid candle.close t.longStop u.longStop) ∧
    ∀ result, TrailCall t candle result → ∃ stop, result = .ok stop := by
  have hrises {s t : Protected} {candles : List OHLCVCandle} (h : Run StopStep s candles t) :
      s.longStop.effective ≤ t.longStop.effective :=
    h.monotone (fun s => s.longStop.effective) fun hstep => hstep.tightens.effective_le
  have htight := hcandle.tightens
  refine ⟨⟨hrises hbefore, htight.effective_le, hrises hafter⟩, ?_, hcandle.raisedOnGrid,
    fun _ hcall => hcall.accepted⟩
  intro harmed
  have hentry : v.longStop.entryPrice = u.longStop.entryPrice :=
    hafter.invariant (P := fun w => w.longStop.entryPrice = u.longStop.entryPrice)
      (fun hstep heq => hstep.tightens.entryPrice_eq.trans heq) rfl
  rw [hentry]
  exact (htight.entry_le harmed).trans (hrises hafter)

/-- The exact arithmetic rounds no candidate. -/
lemma BacktestConfig.unrounded_exact (config : BacktestConfig) (intent : BacktestIntent)
    (close : ℚ) : config.Unrounded .exact intent close :=
  ⟨rfl, rfl, rfl⟩

/-- The sample trade rises by 15, and its trailing stop with it. -/
theorem sample_trade_trails : ∃ trade next,
    BacktestConfig.sampleConfig.openTrade .exact BacktestConfig.sampleIntent BacktestConfig.risingCandle =
      .ok trade ∧
    (Protected.backtest BacktestConfig.sampleConfig .exact trade).longStop.effective ≤
      (Protected.backtest BacktestConfig.sampleConfig .exact next).longStop.effective ∧
    LongStop.RaisedOnGrid BacktestConfig.risingCandle.close
      (Protected.backtest BacktestConfig.sampleConfig .exact trade).longStop
      (Protected.backtest BacktestConfig.sampleConfig .exact next).longStop ∧
    trade.position.trailingStop < next.position.trailingStop := by
  have hrun : ((BacktestConfig.sampleConfig.openTrade .exact BacktestConfig.sampleIntent
      BacktestConfig.risingCandle).toOption.bind fun trade =>
        (BacktestConfig.sampleConfig.generalCandle .exact trade BacktestConfig.risingCandle).toOption.bind
          fun outcome => outcome.getLeft?.map fun next =>
            decide (trade.position.trailingStop < next.position.trailingStop)) = some true := by
    decide +kernel
  obtain ⟨trade, hopen, hrun⟩ := Option.bind_eq_some_iff.mp hrun
  obtain ⟨outcome, hstep, hrun⟩ := Option.bind_eq_some_iff.mp hrun
  obtain ⟨next, hleft, hraised⟩ := Option.map_eq_some_iff.mp hrun
  rw [Sum.getLeft?_eq_some_iff] at hleft
  subst hleft
  obtain ⟨⟨-, heffective, -⟩, -, hgrid, -⟩ := protective_stop_law
    (.nil (.backtest BacktestConfig.sampleConfig .exact trade))
    (.backtest (toOption_eq_some.mp hstep) (.inl rfl)) (.nil _)
  exact ⟨trade, next, toOption_eq_some.mp hopen, heffective,
    hgrid (BacktestConfig.unrounded_exact _ _ _), of_decide_eq_true hraised⟩

/-! ### A Futures long that trails off the tick -/

namespace VirtualManagedPosition

/-- The Futures long at 100, trailed at 1.0001 times its range of 5. -/
def trailedPosition : VirtualManagedPosition :=
  { gapPosition with
    trailingAtrMultiple := some (10001 / 10000)
    passes := by decide +kernel }

/-- On a candle that closes at 102 its trailing stop is raised to 96.9995, where the tick is a
hundredth. -/
theorem trailed_off_tick : ∃ next, StopStep (.runtime trailedPosition) calmBar.candle next ∧
    ¬ LongStop.RaisedOnGrid calmBar.candle.close (Protected.runtime trailedPosition).longStop
      next.longStop := by
  have hrun : (trailedPosition.processPosition gapPortfolio calmBar.candle {}
      (some calmBar.futuresContext) none).toOption.map (fun update =>
        (update.positionAfter.trailingStop, update.positionAfter.entryPrice,
          update.positionAfter.tickSize)) = some (969995 / 10000, 100, ⟨false, 1, -2⟩) := by
    decide +kernel
  obtain ⟨update, hupdate, hsame⟩ := Option.map_eq_some_iff.mp hrun
  obtain ⟨htrailing, hrest⟩ := Prod.mk.inj hsame
  obtain ⟨hentry, htick⟩ := Prod.mk.inj hrest
  refine ⟨_, @StopStep.runtime _ _ gapPortfolio
    ⟨calmBar.candle, {}, some calmBar.futuresContext, none⟩ update rfl
    (toOption_eq_some.mp hupdate), fun hgrid => ?_⟩
  have hraised : trailedPosition.trailingStop < update.positionAfter.trailingStop := by
    rw [htrailing]
    decide +kernel
  rcases hgrid hraised with hsame | ⟨hmem, -⟩
  · change update.positionAfter.trailingStop = update.positionAfter.entryPrice at hsame
    rw [htrailing, hentry] at hsame
    exact absurd hsame (by norm_num)
  · change update.positionAfter.trailingStop ∈
      AddSubgroup.zmultiples update.positionAfter.tickSize.toRat at hmem
    rw [htrailing, htick] at hmem
    obtain ⟨n, hn⟩ := AddSubgroup.mem_zmultiples_iff.mp hmem
    have hden : ((969995 / 10000 : ℚ) / Decimal.toRat ⟨false, 1, -2⟩).den = 1 := by
      rw [← hn, zsmul_eq_mul, mul_div_cancel_right₀ _ (by decide +kernel)]
      exact Rat.den_intCast n
    exact absurd hden (by decide +kernel)

end VirtualManagedPosition

end Ai4Binance
