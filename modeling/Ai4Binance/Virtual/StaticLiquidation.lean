/-
The liquidation price recorded at entry, and that of the liquidation solver.

The virtual runtime (`_futures_portfolio_after_fill`) and the Futures backtest without a mark
path (`_liquidation_price`) charge the maintenance of a position on its entry notional; the
solver (`isolated_liquidation_price`) charges it on the notional at the liquidation price.
With `ratio` the maintenance ratio, the recorded distance from the entry is `1 - ratio` times
that of the solver for a long position, and `1 + ratio` times that for a short one.

* `bufferPrice`: the recorded price;
* `bufferPrice_distances`: against the price of the solver on one tier;
* `static_liquidation_distances`: **the recorded prices of both**;
* `recorded_short_further`: a short position is recorded further from its entry.
-/
import Ai4Binance.Virtual.FuturesConservation
import Ai4Binance.Virtual.Leverage
import Ai4Binance.Backtesting.FuturesRecords

open Check

namespace Ai4Binance

/-! ### One tier -/

/-- The liquidation price with the maintenance of the entry notional. -/
def bufferPrice (long : Bool) (entry quantity margin ratio : ℚ) : ℚ :=
  entry - liquidationSign long * ((margin - entry * quantity * ratio) / quantity)

/-- How far the recorded price of a position is from its entry, against the price that the
solver gives on one tier with the same ratio that covers the notional. -/
structure StaticDistances (long : Bool) (entry quantity margin ratio recorded price : ℚ) : Prop where
  long_le : long = true → margin ≤ (1 + ratio) * (entry * quantity) →
    |recorded - entry| ≤ |price - entry|
  long_over : long = true → (1 + ratio) * (entry * quantity) < margin → recorded < 0 ∧ price = 0
  short_eq : long = false → |recorded - entry| = (1 + ratio) * |price - entry|

variable {long : Bool} {entry quantity margin price : ℚ} {b : FuturesRiskBracket}

/-- A tier that passes the validation alone charges no deduction. -/
lemma singleton_cumulative (h : validateFuturesBrackets [b] = .ok ()) :
    b.cumulativeMaintenance = 0 := by
  obtain ⟨-, -, -, first, hfirst, hfloor⟩ := tiers_chain h
  obtain rfl : b = first := by simpa using hfirst
  have hle := b.cumulative_le
  rw [hfloor, zero_mul] at hle
  exact le_antisymm hle b.cumulative_nonneg

/-- The first tier tried decides: the solver gives its price, or zero. -/
lemma solveTiers_singleton (h : solveTiers long entry quantity margin [b] = .ok price) :
    let tried := (liquidationSign long * entry * quantity - margin - b.cumulativeMaintenance) /
      (quantity * (liquidationSign long - b.maintenanceRatio))
    (long = true ∧ tried ≤ 0 ∧ price = 0) ∨ ((long = true → 0 < tried) ∧ price = tried) := by
  intro tried
  have hunfold : solveTiers long entry quantity margin [b] =
      if long = true ∧ tried ≤ 0 then .ok 0
      else if b.notionalFloor ≤ tried * quantity ∧ tried * quantity < b.notionalCap then .ok tried
      else .error (.value "liquidation notional is outside verified maintenance brackets") := rfl
  rw [hunfold] at h
  split_ifs at h with hzero hcovers
  · exact Or.inl ⟨hzero.1, hzero.2, (Except.ok.inj h).symm⟩
  · refine Or.inr ⟨fun hlong => ?_, (Except.ok.inj h).symm⟩
    by_contra htried
    exact hzero ⟨hlong, not_lt.mp htried⟩

/-- The recorded price against that of the solver. -/
lemma bufferPrice_distances
    (h : isolatedLiquidationPrice long entry quantity margin [b] = .ok price) :
    StaticDistances long entry quantity margin b.maintenanceRatio
      (bufferPrice long entry quantity margin b.maintenanceRatio) price := by
  have hratio := b.ratio_pos
  have hratio' := b.ratio_lt_one
  simp only [isolatedLiquidationPrice, bind_eq_ok, raiseIf_eq_ok, not_le, lt_min_iff] at h
  obtain ⟨_, hvalid, _, ⟨hentry, hquantity⟩, hsolve⟩ := h
  have hcumulative := singleton_cumulative hvalid
  have hsolved := solveTiers_singleton hsolve
  dsimp only at hsolved
  rw [hcumulative, sub_zero] at hsolved
  obtain ⟨buffer, hbuffer⟩ :
      ∃ buffer, buffer = (margin - entry * quantity * b.maintenanceRatio) / quantity := ⟨_, rfl⟩
  have hmargin : margin = quantity * (buffer + entry * b.maintenanceRatio) := by
    rw [hbuffer]
    field_simp
    ring
  rw [bufferPrice, ← hbuffer]
  cases long with
  | true =>
    simp only [liquidationSign, if_true, one_mul] at hsolved ⊢
    -- the solver tries the entry less the buffer over `1 - ratio`
    have hkeep : 0 < 1 - b.maintenanceRatio := by linarith
    have htried : (entry * quantity - margin) / (quantity * (1 - b.maintenanceRatio)) =
        entry - buffer / (1 - b.maintenanceRatio) := by
      rw [hmargin]
      field_simp
      ring
    rw [htried] at hsolved
    have hgrow : |buffer| ≤ |buffer / (1 - b.maintenanceRatio)| := by
      rw [abs_div, abs_of_pos hkeep, le_div_iff₀ hkeep]
      have hscaled := mul_le_mul_of_nonneg_left hratio.le (abs_nonneg buffer)
      linarith
    have hover : (1 + b.maintenanceRatio) * (entry * quantity) < margin ↔ entry < buffer := by
      rw [hmargin, show (1 + b.maintenanceRatio) * (entry * quantity) =
        quantity * (entry + entry * b.maintenanceRatio) by ring, mul_lt_mul_iff_right₀ hquantity]
      constructor <;> intro hlt <;> linarith
    refine ⟨fun _ hle => ?_, fun _ hlt => ?_, fun hfalse => by cases hfalse⟩
    · have hbuffer_le : buffer ≤ entry := not_lt.mp (hover.not.mp (not_lt.mpr hle))
      rw [show entry - buffer - entry = -buffer by ring, abs_neg]
      rcases hsolved with ⟨-, hnonpos, rfl⟩ | ⟨-, rfl⟩
      · have hpos : 0 ≤ buffer := by
          by_contra hneg
          have hneg' := div_neg_of_neg_of_pos (not_le.mp hneg) hkeep
          linarith
        rw [zero_sub, abs_neg, abs_of_pos hentry, abs_of_nonneg hpos]
        exact hbuffer_le
      · rw [show entry - buffer / (1 - b.maintenanceRatio) - entry =
          -(buffer / (1 - b.maintenanceRatio)) by ring, abs_neg]
        exact hgrow
    · have hlt' := hover.mp hlt
      refine ⟨by linarith, ?_⟩
      rcases hsolved with ⟨-, -, hzero⟩ | ⟨hpos, -⟩
      · exact hzero
      · have hpos' := hpos trivial
        have hbuffer_pos : 0 < buffer := hentry.trans hlt'
        rw [abs_of_pos hbuffer_pos, abs_of_pos (div_pos hbuffer_pos hkeep)] at hgrow
        linarith
  | false =>
    simp only [liquidationSign, Bool.false_eq_true, if_false, false_and, false_or,
      false_implies, true_and, neg_mul, one_mul] at hsolved ⊢
    have hgrown : 0 < 1 + b.maintenanceRatio := by linarith
    have htried : (-(entry * quantity) - margin) / (quantity * (-1 - b.maintenanceRatio)) =
        entry + buffer / (1 + b.maintenanceRatio) := by
      rw [hmargin, show quantity * (-1 - b.maintenanceRatio) =
        -(quantity * (1 + b.maintenanceRatio)) by ring]
      field_simp
      ring
    rw [htried] at hsolved
    refine ⟨fun hfalse => (Bool.false_ne_true hfalse).elim, fun hfalse =>
      (Bool.false_ne_true hfalse).elim, fun _ => ?_⟩
    rw [hsolved, show entry - -buffer - entry = buffer by ring, add_sub_cancel_left, abs_div,
      abs_of_pos hgrown]
    field_simp

/-! ### What the two record -/

/-- The virtual runtime records the price with the maintenance of the entry notional. -/
lemma FuturesTerms.liquidationPrice_eq {request : VirtualRuntimeRequest}
    {preview : VirtualFillPreview} (terms : FuturesTerms) (hfilled : request.Filled preview) :
    terms.liquidationPrice preview =
      bufferPrice (decide (terms.side = .long)) preview.executionPrice preview.filledQuantity
        terms.isolatedMargin terms.maintenanceMarginRatio := by
  rw [FuturesTerms.liquidationPrice, bufferPrice, hfilled.gross_eq]
  cases terms.side <;> rfl

namespace FuturesRunConfig

variable {config : FuturesRunConfig} {a : Arithmetic} {signal : FuturesSignal}
  {bar : ReplayCandle} {cash : ℚ} {trade : FuturesTrade}

/-- An entry without blockers is at a positive price, and of the minimum notional. -/
lemma entryBlockers_nil (h : config.entryBlockers a signal bar cash = .ok []) :
    ∃ fill entry, config.entryFill bar.candle = .ok fill ∧
      config.entryPrice a signal.direction bar.candle.open fill = .ok entry ∧ 0 < entry ∧
      config.minimumNotional ≤ a.mul entry fill.filledQuantity := by
  simp only [entryBlockers, bind_eq_ok] at h
  obtain ⟨fill, hfill, fillBlockers, -, entry, hentry, h⟩ := h
  have hnotional : 0 < entry → fillBlockers ++
      config.pricedBlockers a signal bar cash entry fill.filledQuantity = [] →
      ∃ fill entry, config.entryFill bar.candle = .ok fill ∧
        config.entryPrice a signal.direction bar.candle.open fill = .ok entry ∧ 0 < entry ∧
        config.minimumNotional ≤ a.mul entry fill.filledQuantity := by
    intro hpos hblockers
    simp only [pricedBlockers, List.append_eq_nil_iff, blockerWhen_eq_nil, not_lt] at hblockers
    exact ⟨fill, entry, hfill, hentry, hpos, hblockers.2.1.2⟩
  split_ifs at h with hnonpos hblocked
  · exact absurd (pure_eq_ok.mp h) (by simp)
  · have hnil := pure_eq_ok.mp h
    rw [Check.eraseDups_eq_nil] at hnil
    exact hnotional (not_le.mp hnonpos) hnil
  · simp only [bind_eq_ok, pure_eq_ok] at h
    obtain ⟨liquidation, -, hnil⟩ := h
    rw [Check.eraseDups_eq_nil, List.append_eq_nil_iff] at hnil
    exact hnotional (not_le.mp hnonpos) hnil.1

/-- An opened trade has its recorded price from its margin, where no mark path is required. -/
lemma openTrade_liquidation (hpath : config.requireMarkPricePath = false)
    (h : config.openTrade .exact signal bar.candle = .ok trade) :
    ∃ fill entry, config.entryFill bar.candle = .ok fill ∧
      config.entryPrice .exact signal.direction bar.candle.open fill = .ok entry ∧
      trade.entryPrice = entry ∧ trade.quantity = fill.filledQuantity ∧
      trade.initialMargin = entry * fill.filledQuantity / config.leverage ∧
      trade.liquidationPrice = bufferPrice (decide (signal.direction = .long)) trade.entryPrice
        trade.quantity trade.initialMargin config.maintenanceMarginRatio := by
  simp only [openTrade, bind_eq_ok, pure_eq_ok, liquidationPrice, hpath, Bool.false_eq_true,
    if_false] at h
  obtain ⟨fill, hfill, entry, hentry, liquidation, hliquidation, rfl⟩ := h
  refine ⟨fill, entry, hfill, hentry, rfl, rfl, rfl, ?_⟩
  cases hdirection : signal.direction with
  | long =>
    simp only [hdirection, Arithmetic.exact_sub, Arithmetic.exact_mul, Arithmetic.exact_div,
      Except.ok.injEq] at hliquidation
    rw [← hliquidation]
    simp [bufferPrice, liquidationSign]
  | short =>
    simp only [hdirection, Arithmetic.exact_sub, Arithmetic.exact_add, Arithmetic.exact_mul,
      Arithmetic.exact_div, Except.ok.injEq] at hliquidation
    rw [← hliquidation]
    simp [bufferPrice, liquidationSign]

end FuturesRunConfig

/-- **The recorded liquidation price against that of the solver**, when no operation rounds: for
every fill of the virtual runtime and every entry of the backtest without a mark path, and one
tier of the same maintenance ratio.  The margin of a backtest is never over its notional. -/
theorem static_liquidation_distances :
    (∀ (request : VirtualRuntimeRequest) (decision : VirtualRuntimeDecision)
      (preview : VirtualFillPreview), request.evaluate = .ok decision →
      decision.tradeIntent.isSome → request.portfolio.market = .usdMFutures →
      request.fillPreview = .ok preview →
      ∃ side margin ratio recorded, request.positionSide = some side ∧
        request.isolatedMarginUsdt = some margin ∧
        request.maintenanceMarginRatio = some ratio ∧
        decision.portfolioAfter.liquidationPrice = some recorded ∧
        ∀ (b : FuturesRiskBracket) (price : ℚ), b.maintenanceRatio = ratio →
          isolatedLiquidationPrice (decide (side = .long)) preview.executionPrice
            preview.filledQuantity margin [b] = .ok price →
          StaticDistances (decide (side = .long)) preview.executionPrice preview.filledQuantity
            margin ratio recorded price) ∧
    ∀ (config : FuturesRunConfig) (signal : FuturesSignal) (bar : ReplayCandle) (cash : ℚ)
      (trade : FuturesTrade), config.requireMarkPricePath = false →
      config.entryBlockers .exact signal bar cash = .ok [] →
      config.openTrade .exact signal bar.candle = .ok trade →
      trade.initialMargin ≤ (1 + config.maintenanceMarginRatio) *
        (trade.entryPrice * trade.quantity) ∧
      ∀ (b : FuturesRiskBracket) (price : ℚ), b.maintenanceRatio = config.maintenanceMarginRatio →
        isolatedLiquidationPrice (decide (signal.direction = .long)) trade.entryPrice
          trade.quantity trade.initialMargin [b] = .ok price →
        StaticDistances (decide (signal.direction = .long)) trade.entryPrice trade.quantity
          trade.initialMargin config.maintenanceMarginRatio trade.liquidationPrice price := by
  constructor
  · intro request decision preview hevaluate hready hmarket hpreview
    obtain ⟨preview', hex⟩ := request.evaluate_orderReady hevaluate hready
    obtain rfl : preview = preview' :=
      Except.ok.inj (hpreview.symm.trans hex.fillPreview_eq)
    obtain ⟨terms, hterms⟩ := hex.entersFutures hmarket
    have heffect := hex.futuresFillEffect hmarket hterms
    have hfilled := request.fillPreview_spec hex.fillPreview_eq hex.blockers_nil
    refine ⟨terms.side, terms.isolatedMargin, terms.maintenanceMarginRatio, _, hterms.side_eq,
      hterms.isolated_eq, hterms.maintenance_eq, heffect.liquidation_eq, ?_⟩
    intro b price hb hprice
    rw [terms.liquidationPrice_eq hfilled, ← hb]
    exact bufferPrice_distances hprice
  · intro config signal bar cash trade hpath hblockers htrade
    obtain ⟨fill, entry, hfill, hentry, hpos, hminimum⟩ :=
      FuturesRunConfig.entryBlockers_nil hblockers
    obtain ⟨fill', entry', hfill', hentry', hprice, hquantity, hmargin, hrecorded⟩ :=
      FuturesRunConfig.openTrade_liquidation hpath htrade
    obtain rfl : fill = fill' := Except.ok.inj (hfill.symm.trans hfill')
    obtain rfl : entry = entry' := Except.ok.inj (hentry.symm.trans hentry')
    refine ⟨?_, fun b price hb hsolved => ?_⟩
    · rw [Arithmetic.exact_mul] at hminimum
      have hnotional := config.notional_pos.trans_le hminimum
      have hleverage : (1 : ℚ) ≤ config.leverage := by
        exact_mod_cast config.leverage_bounds.1
      have hratio := mul_nonneg config.maintenance_pos.le hnotional.le
      rw [hmargin, hprice, hquantity]
      calc entry * fill.filledQuantity / config.leverage
          ≤ entry * fill.filledQuantity := div_le_self hnotional.le hleverage
        _ ≤ (1 + config.maintenanceMarginRatio) * (entry * fill.filledQuantity) := by
            linarith
    · rw [hrecorded, ← hb]
      exact bufferPrice_distances hsolved

/-- One tier with the maintenance ratio of a configuration or request, for every notional below
a thousand. -/
def flatTier (ratio : ℚ) (h : 0 < ratio ∧ ratio < 1) : FuturesRiskBracket where
  notionalFloor := 0
  notionalCap := 1000
  initialLeverage := 125
  maintenanceRatio := ratio
  cumulativeMaintenance := 0
  floor_nonneg := singleTier_floor
  floor_lt_cap := singleTier_cap
  ratio_pos := h.1
  ratio_lt_one := h.2
  cumulative_nonneg := singleTier_floor
  cumulative_le := by norm_num
  leverage_pos := singleTier_leverage

/-- The bar of a candle without a mark candle. -/
def hourBar : ReplayCandle := ⟨FuturesRunConfig.hourCandle 1 100 105 98 104 FuturesRunConfig.dipRange, none⟩

/-- A long position of the virtual runtime and one of the backtest: their recorded prices are
closer to the entry than those of the solver. -/
theorem long_recorded_closer :
    (∃ decision recorded price, fundedLong.evaluate = .ok decision ∧
      decision.portfolioAfter.liquidationPrice = some recorded ∧
      isolatedLiquidationPrice true 100 1 20 [flatTier (1 / 100) (by norm_num)] = .ok price ∧
      |recorded - 100| ≤ |price - 100|) ∧
    ∃ (trade : FuturesTrade) (price : ℚ),
      isolatedLiquidationPrice true trade.entryPrice trade.quantity trade.initialMargin
        [flatTier (5 / 1000) (by norm_num)] = .ok price ∧
      |trade.liquidationPrice - trade.entryPrice| ≤ |price - trade.entryPrice| := by
  constructor
  · obtain ⟨decision, hok, hready⟩ := exists_ready fundedLong (by decide +kernel)
    obtain ⟨preview, hpreview, hfields⟩ : ∃ preview, fundedLong.fillPreview = .ok preview ∧
        preview.executionPrice = 100 ∧ preview.filledQuantity = 1 := by
      obtain ⟨preview, hpreview, hfields⟩ := exists_ok_of_any
        (x := fundedLong.fillPreview)
        (p := fun preview => preview.executionPrice = 100 ∧ preview.filledQuantity = 1)
        (by decide +kernel)
      exact ⟨preview, hpreview, by simpa using hfields⟩
    obtain ⟨side, margin, ratio, recorded, hside, hmargin, hratio, hrecorded, hall⟩ :=
      static_liquidation_distances.1 fundedLong decision preview hok hready rfl hpreview
    obtain rfl : VirtualPositionSide.long = side := Option.some.inj hside
    obtain rfl : 20 = margin := Option.some.inj hmargin
    obtain rfl : 1 / 100 = ratio := Option.some.inj hratio
    rw [hfields.1, hfields.2] at hall
    have hprice : isolatedLiquidationPrice true 100 1 20 [flatTier (1 / 100) (by norm_num)] =
        .ok (8000 / 99) := by
      decide +kernel
    exact ⟨decision, recorded, _, hok, hrecorded, hprice,
      (hall _ _ rfl hprice).long_le rfl (by norm_num)⟩
  · obtain ⟨trade, htrade, hprice⟩ := exists_ok_of_any
      (x := FuturesRunConfig.defaultFutures.openTrade .exact
        (FuturesRunConfig.longSignal "f1" 0 90 110 (by norm_num) (by decide +kernel)) hourBar.candle)
      (p := fun trade => (isolatedLiquidationPrice true trade.entryPrice trade.quantity
        trade.initialMargin [flatTier (5 / 1000) (by norm_num)]).toOption.isSome)
      (by decide +kernel)
    obtain ⟨hmargin, hall⟩ := static_liquidation_distances.2 FuturesRunConfig.defaultFutures
      (FuturesRunConfig.longSignal "f1" 0 90 110 (by norm_num) (by decide +kernel)) hourBar 1000
      trade rfl (by decide +kernel) htrade
    obtain ⟨price, hprice⟩ := Option.isSome_iff_exists.mp hprice
    rw [toOption_eq_some] at hprice
    exact ⟨trade, price, hprice, (hall _ price rfl hprice).long_le rfl hmargin⟩

/-- A short signal with a stop and a target. -/
def shortSignal : FuturesSignal where
  direction := .short
  stopLoss := 110
  takeProfit := 90
  prices_pos := by norm_num
  holding_pos := BacktestIntent.default_holding
  signalId := "f1"
  timestamp := 0
  market_eq := FuturesSignal.default_market
  identified := by decide +kernel
  reasons_ok := FuturesSignal.default_reasons
  scores_nonneg := FuturesSignal.default_scores
  blockers_ok := FuturesSignal.default_blockers
  funnel_ok := BacktestIntent.default_funnel

/-- A short entry of the backtest is recorded further from its entry than the solver has it. -/
theorem recorded_short_further : ∃ (trade : FuturesTrade) (price : ℚ),
    FuturesRunConfig.defaultFutures.entryBlockers .decimal shortSignal hourBar 1000 = .ok [] ∧
    FuturesRunConfig.defaultFutures.openTrade .decimal shortSignal hourBar.candle = .ok trade ∧
    Arithmetic.decimal.isolatedLiquidationPrice false trade.entryPrice trade.quantity
      trade.initialMargin [flatTier (5 / 1000) (by norm_num)] = .ok price ∧
    |price - trade.entryPrice| < |trade.liquidationPrice - trade.entryPrice| := by
  obtain ⟨trade, htrade, hprice⟩ := exists_ok_of_any
    (x := FuturesRunConfig.defaultFutures.openTrade .decimal shortSignal hourBar.candle)
    (p := fun trade => (Arithmetic.decimal.isolatedLiquidationPrice false trade.entryPrice
      trade.quantity trade.initialMargin [flatTier (5 / 1000) (by norm_num)]).toOption.any
        fun price => |price - trade.entryPrice| < |trade.liquidationPrice - trade.entryPrice|)
    (by decide +kernel)
  obtain ⟨price, hprice, hlt⟩ := exists_ok_of_any hprice
  exact ⟨trade, price, by decide +kernel, htrade, hprice, of_decide_eq_true hlt⟩

end Ai4Binance
