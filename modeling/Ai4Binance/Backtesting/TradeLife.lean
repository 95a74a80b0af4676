/-
The life of a trade in the two backtest engines and of a position in the virtual runtime
(`research/backtesting/engine.py`, `research/backtesting/futures_engine.py`,
`application/virtual_runtime_engine.py`).

A trade is opened at the open of a candle, goes through that candle and later ones as long as
none closes it, and counts the signals that it ignores in between.

* `generalCandle_survives`: what a candle leaves of a Spot trade that it does not close;
* `BacktestConfig.Held`, `FuturesRunConfig.Held`: the trades that are open after some candles;
* `run_held`: in each engine, the open trade of a run is one of them, with the last candles of
  the run;
* `Managed`, `run_managed`: the same for the open positions of the virtual runtime;
* `Managed.terms`: what a position keeps of the fill that opened it.
-/
import Ai4Binance.Backtesting.FuturesCounterfactual
import Ai4Binance.Virtual.Progress

open Text Check

namespace Ai4Binance

/-! ### Spot -/

/-- A trade that is open after some candles, of which that of the entry is the first. -/
inductive BacktestConfig.Held [UnicodeData] (config : BacktestConfig) (a : Arithmetic)
    (intent : BacktestIntent) (first : OHLCVCandle) : List OHLCVCandle → OpenTrade → Prop
  | opened {trade : OpenTrade} (h : config.openTrade a intent first = .ok trade) :
      Held config a intent first [] trade
  | held {bars : List OHLCVCandle} {trade next : OpenTrade} {candle : OHLCVCandle}
      (before : Held config a intent first bars trade)
      (h : config.generalCandle a trade candle = .ok (.inl next)) :
      Held config a intent first (bars ++ [candle]) next
  | ignored {bars : List OHLCVCandle} {trade : OpenTrade} {blockers : List String}
      (before : Held config a intent first bars trade) :
      Held config a intent first bars (SpotBacktestConfig.ignoreSignal trade blockers)

namespace BacktestConfig

/-- What a candle that leaves a trade open does to it. -/
structure Survives (config : BacktestConfig) (a : Arithmetic) (candle : OHLCVCandle)
    (trade next : OpenTrade) : Prop where
  stop_lt : max trade.position.stopLoss trade.position.trailingStop < candle.low
  intent_eq : next.intent = trade.intent
  entryPrice_eq : next.entryPrice = trade.entryPrice
  barsHeld_eq : next.barsHeld = trade.barsHeld + 1
  stopLoss_eq : next.position.stopLoss = trade.position.stopLoss
  armed : trade.breakevenArmed → next.breakevenArmed
  trailingStop_eq : next.position.trailingStop = config.trailedStop a trade
    (config.trailingDistance a trade) candle.close next.breakevenArmed trade.position.trailingStop

section Candle

variable {config : BacktestConfig} {a : Arithmetic} {candle : OHLCVCandle} {trade next : OpenTrade}

/-- The end of a candle moves break-even and trailing stop, and nothing else. -/
lemma endCandle_spec (h : config.endCandle a trade candle = .ok next) :
    ∃ position, withTrailingStop trade.position (config.trailedStop a trade
        (config.trailingDistance a trade) candle.close next.breakevenArmed
          trade.position.trailingStop) = .ok position ∧
      next = { trade with
        breakevenArmed := trade.breakevenArmed || breakevenTriggerReached a trade, position } := by
  simp only [endCandle, bind_eq_ok, pure_eq_ok] at h
  obtain ⟨stop, hstop, position, hposition, rfl⟩ := h
  rw [updatedTrailingStop_eq] at hstop
  obtain rfl := Except.ok.inj hstop
  exact ⟨position, hposition, rfl⟩

/-- A new position has the stops that it is given. -/
lemma create_stops {candidateId symbol : String} {entryPrice quantity stopLoss trailingStop : ℚ}
    {targets : List ℚ} {position : PaperPosition}
    (h : PaperPosition.create candidateId symbol entryPrice quantity stopLoss trailingStop targets =
      .ok position) :
    position.stopLoss = stopLoss ∧ position.trailingStop = trailingStop := by
  rw [PaperPosition.create] at h
  split_ifs at h
  obtain rfl := Except.ok.inj h
  exact ⟨rfl, rfl⟩

/-- A candle that reaches the stop closes the trade. -/
lemma exists_stop_exit (intent : BacktestIntent) (position : PaperPosition) (barsHeld : ℕ)
    (h : candle.low ≤ max position.stopLoss position.trailingStop) :
    ∃ exit, evaluateLongExit intent position candle barsHeld = some exit ∧
      exit.reason ≠ .target := by
  rw [evaluateLongExit, protectiveOrTargetExit, if_pos h]
  refine ⟨_, rfl, ?_⟩
  dsimp only
  split_ifs <;> decide

/-- A trade survives only candles that stay above its stop. -/
lemma generalCandle_survives [UnicodeData]
    (h : config.generalCandle a trade candle = .ok (.inl next)) :
    config.Survives a candle trade next := by
  rw [generalCandle] at h
  have hstop : max trade.position.stopLoss trade.position.trailingStop < candle.low := by
    by_contra hlow
    obtain ⟨exit, hexit, hreason⟩ := exists_stop_exit (holdCandle a trade candle).intent
      (holdCandle a trade candle).position (holdCandle a trade candle).barsHeld (not_lt.mp hlow)
    rw [hexit, applyExit, if_neg (fun htarget => hreason htarget.1)] at h
    simp only [bind_eq_ok, pure_eq_ok, reduceCtorEq, and_false, exists_false] at h
  cases hexit : evaluateLongExit (holdCandle a trade candle).intent
      (holdCandle a trade candle).position candle (holdCandle a trade candle).barsHeld with
  | none =>
    rw [hexit, applyExit, bind_eq_ok] at h
    obtain ⟨moved, hmoved, h⟩ := h
    obtain rfl := Sum.inl.inj (pure_eq_ok.mp h)
    obtain ⟨position, hposition, heq⟩ := endCandle_spec hmoved
    obtain ⟨hloss, htrailing⟩ := create_stops hposition
    rw [heq] at htrailing ⊢
    exact ⟨hstop, rfl, rfl, rfl, hloss, fun harmed => Bool.or_eq_true_iff.mpr (.inl harmed), htrailing⟩
  | some exit =>
    rw [hexit, applyExit] at h
    split_ifs at h
    · simp only [bind_eq_ok] at h
      obtain ⟨reduced, hreduced, moved, hmoved, h⟩ := h
      obtain rfl := Sum.inl.inj (pure_eq_ok.mp h)
      simp only [partialExit, bind_eq_ok, pure_eq_ok] at hreduced
      obtain ⟨price, -, staged, hstaged, rfl⟩ := hreduced
      obtain ⟨position, hposition, heq⟩ := endCandle_spec hmoved
      obtain ⟨hloss, htrailing⟩ := create_stops hposition
      obtain ⟨hloss', htrailing'⟩ := create_stops hstaged
      rw [heq] at htrailing ⊢
      dsimp only at htrailing
      rw [htrailing'] at htrailing
      exact ⟨hstop, rfl, rfl, rfl, hloss.trans hloss',
        fun harmed => Bool.or_eq_true_iff.mpr (.inl harmed), htrailing⟩
    · simp only [bind_eq_ok, pure_eq_ok, reduceCtorEq, and_false, exists_false] at h

end Candle

end BacktestConfig

namespace SpotBacktestConfig

section Run

variable [UnicodeData] {config : SpotBacktestConfig} {a : Arithmetic} {candle : OHLCVCandle}
  {s t : SpotRun} {symbol timeframe : String} {provider : SignalProvider}
  {candles past : List OHLCVCandle} {index : ℕ} {trade : OpenTrade}

/-- The open trade of a run is held, on the last candles of those that are past. -/
def TradeHeld (config : SpotBacktestConfig) (a : Arithmetic) (past : List OHLCVCandle)
    (s : SpotRun) : Prop :=
  ∀ trade, s.openTrade = some trade → ∃ intent first bars,
    config.Held a intent first bars trade ∧ bars.head? = some first ∧ bars <:+ past

/-- At the open of a candle a trade is open that has candles behind it, or that enters there. -/
lemma enterPending_held (hs : config.TradeHeld a past s)
    (h : config.enterPending a index candle s = .ok t) (hopen : t.openTrade = some trade) :
    ∃ intent first bars, config.Held a intent first bars trade ∧
      (bars ++ [candle]).head? = some first ∧ bars <:+ past := by
  rw [enterPending] at h
  split at h
  · rename_i pending hpending hnone
    simp only [bind_eq_ok] at h
    obtain ⟨blockers, -, h⟩ := h
    split_ifs at h with hblocked
    · obtain rfl := pure_eq_ok.mp h
      simp [hnone] at hopen
    · simp only [bind_eq_ok, pure_eq_ok] at h
      obtain ⟨opened, hopened, rfl⟩ := h
      obtain rfl := Option.some.inj hopen
      exact ⟨_, _, [], .opened hopened, rfl, List.nil_suffix⟩
  · obtain rfl := pure_eq_ok.mp h
    obtain ⟨intent, first, bars, hheld, hhead, hsuffix⟩ := hs trade hopen
    refine ⟨intent, first, bars, hheld, ?_, hsuffix⟩
    rw [List.head?_append, hhead, Option.some_or]

/-- A candle that leaves a trade open is one more of its candles. -/
lemma manageOpenTrade_held (hs : config.TradeHeld a past s) {entered : SpotRun}
    (hentered : config.enterPending a index candle s = .ok entered)
    (h : config.manageOpenTrade a candle entered = .ok t) :
    config.TradeHeld a (past ++ [candle]) t := by
  intro next hnext
  cases hopen : entered.openTrade with
  | none =>
    rw [manageOpenTrade, hopen] at h
    obtain rfl := pure_eq_ok.mp h
    rw [hopen] at hnext
    cases hnext
  | some trade =>
    obtain ⟨intent, first, bars, hheld, hhead, hsuffix⟩ := enterPending_held hs hentered hopen
    rcases manageOpenTrade_step hopen h with ⟨moved, hmoved, hstill, -⟩ | ⟨record, -, hclosed, -⟩
    · obtain rfl := Option.some.inj (hstill.symm.trans hnext)
      refine ⟨intent, first, bars ++ [candle], .held hheld hmoved, hhead, ?_⟩
      obtain ⟨early, hearly⟩ := hsuffix
      exact ⟨early, by rw [← List.append_assoc, hearly]⟩
    · rw [hclosed] at hnext
      cases hnext

variable [LowerCase]

/-- Asking the provider leaves the open trade, or lets it ignore a signal. -/
lemma consultProvider_held (hs : config.TradeHeld a past s)
    (h : consultProvider symbol timeframe provider candles index candle s = .ok t) :
    config.TradeHeld a past t := by
  simp only [consultProvider, bind_eq_ok] at h
  obtain ⟨answer, -, h⟩ := h
  cases answer with
  | none =>
    obtain rfl := pure_eq_ok.mp h
    exact hs
  | some intent =>
    simp only [takeSignal, bind_eq_ok] at h
    obtain ⟨observationId, -, h⟩ := h
    split_ifs at h with hblocked
    · obtain rfl := pure_eq_ok.mp h
      intro trade hopen
      obtain ⟨before, hbefore, rfl⟩ := Option.map_eq_some_iff.mp hopen
      obtain ⟨intent, first, bars, hheld, hrest⟩ := hs before hbefore
      exact ⟨intent, first, bars, .ignored hheld, hrest⟩
    · obtain rfl := pure_eq_ok.mp h
      exact hs

/-- **The open trade of a run is held.** -/
theorem run_held {k : ℕ} (h : config.afterBars a symbol timeframe provider candles k = .ok s) :
    config.TradeHeld a (candles.take k) s := by
  have hlast := Loop.after_invariant
    (P := fun i s => config.TradeHeld a (candles.take i) s) ?_ h ?_
  · rwa [List.length_take, ← List.take_eq_take_min] at hlast
  · intro i candle s t hcandle hs ht
    simp only [barStep, bind_eq_ok] at ht
    obtain ⟨entered, hentered, managed, hmanaged, ht⟩ := ht
    rw [List.take_add_one, hcandle, Option.toList_some]
    have hmarked : config.TradeHeld a (candles.take i ++ [candle])
        (config.markEquity a candle managed) :=
      fun trade hopen => manageOpenTrade_held hs hentered hmanaged trade hopen
    exact consultProvider_held hmarked ht
  · intro trade hopen
    cases hopen

end Run

end SpotBacktestConfig

/-! ### Futures -/

/-- A trade that was admitted and is open after some bars, of which that of the entry is the
first. -/
inductive FuturesRunConfig.Held (config : FuturesRunConfig) (a : Arithmetic)
    (dataset : RuntimeFuturesReplayDataset) (signal : FuturesSignal) (first : ReplayCandle) :
    List ReplayCandle → FuturesTrade → Prop
  | opened {trade : FuturesTrade} {availableCash : ℚ}
      (hfree : config.entryBlockers a signal first availableCash = .ok [])
      (h : config.openTrade a signal first.candle = .ok trade) :
      Held config a dataset signal first [] trade
  | held {bars : List ReplayCandle} {trade next : FuturesTrade} {bar : ReplayCandle}
      (before : Held config a dataset signal first bars trade)
      (h : config.holdBar a dataset trade bar = .ok next)
      (hstay : next.exitDecision bar = none) :
      Held config a dataset signal first (bars ++ [bar]) next
  | ignored {bars : List ReplayCandle} {trade : FuturesTrade} {blockers : List String}
      (before : Held config a dataset signal first bars trade) :
      Held config a dataset signal first bars (FuturesRunConfig.ignoreSignal trade blockers)

namespace FuturesRunConfig

section Run

variable {config : FuturesRunConfig} {a : Arithmetic} {dataset : RuntimeFuturesReplayDataset}
  {provider : FuturesSignalProvider} {bar : ReplayCandle} {bars past : List ReplayCandle}
  {trade : FuturesTrade} {s t : FuturesRun} {index : ℕ}

/-- The open trade of a run is held, on the last bars of those that are past. -/
def TradeHeld (config : FuturesRunConfig) (a : Arithmetic) (dataset : RuntimeFuturesReplayDataset)
    (past : List ReplayCandle) (s : FuturesRun) : Prop :=
  ∀ trade, s.openTrade = some trade → ∃ signal first bars,
    config.Held a dataset signal first bars trade ∧ bars.head? = some first ∧ bars <:+ past

/-- At the open of a bar a trade is open that has bars behind it, or that enters there. -/
lemma enterPending_held (hs : config.TradeHeld a dataset past s)
    (h : config.enterPending a index bar s = .ok t) (hopen : t.openTrade = some trade) :
    ∃ signal first bars, config.Held a dataset signal first bars trade ∧
      (bars ++ [bar]).head? = some first ∧ bars <:+ past := by
  rw [enterPending] at h
  split at h
  · rename_i pending hpending hnone
    simp only [bind_eq_ok] at h
    obtain ⟨blockers, hblockers, h⟩ := h
    split_ifs at h with hblocked
    · obtain rfl := pure_eq_ok.mp h
      simp [hnone] at hopen
    · simp only [bind_eq_ok, pure_eq_ok] at h
      obtain ⟨opened, hopened, rfl⟩ := h
      obtain rfl := Option.some.inj hopen
      rw [not_not] at hblocked
      subst hblocked
      exact ⟨_, _, [], .opened hblockers hopened, rfl, List.nil_suffix⟩
  · obtain rfl := pure_eq_ok.mp h
    obtain ⟨signal, first, bars, hheld, hhead, hsuffix⟩ := hs trade hopen
    refine ⟨signal, first, bars, hheld, ?_, hsuffix⟩
    rw [List.head?_append, hhead, Option.some_or]

/-- A bar that leaves a trade open is one more of its bars. -/
lemma manageOpenTrade_held (hs : config.TradeHeld a dataset past s) {entered : FuturesRun}
    (hentered : config.enterPending a index bar s = .ok entered)
    (h : config.manageOpenTrade a dataset bar entered = .ok t) :
    config.TradeHeld a dataset (past ++ [bar]) t := by
  intro next hnext
  rw [manageOpenTrade] at h
  cases hopen : entered.openTrade with
  | none =>
    rw [hopen] at h
    obtain rfl := pure_eq_ok.mp h
    rw [hopen] at hnext
    cases hnext
  | some trade =>
    obtain ⟨signal, first, bars, hheld, hhead, hsuffix⟩ := enterPending_held hs hentered hopen
    simp only [hopen, bind_eq_ok] at h
    obtain ⟨moved, hmoved, h⟩ := h
    split at h
    · rename_i hstay
      obtain rfl := pure_eq_ok.mp h
      obtain rfl := Option.some.inj hnext
      refine ⟨signal, first, bars ++ [bar], .held hheld hmoved hstay, hhead, ?_⟩
      obtain ⟨early, hearly⟩ := hsuffix
      exact ⟨early, by rw [← List.append_assoc, hearly]⟩
    · simp only [bind_eq_ok, pure_eq_ok] at h
      obtain ⟨record, -, rfl⟩ := h
      cases hnext

variable [UnicodeData] [CanonicalDigest RuntimeFuturesReplayDataset]

/-- Asking the provider leaves the open trade, or lets it ignore a signal. -/
lemma consultProvider_held {candle : OHLCVCandle} (hs : config.TradeHeld a dataset past s)
    (h : consultProvider dataset provider index candle s = .ok t) :
    config.TradeHeld a dataset past t := by
  simp only [consultProvider, bind_eq_ok] at h
  obtain ⟨answer, -, h⟩ := h
  cases answer with
  | none =>
    obtain rfl := pure_eq_ok.mp h
    exact hs
  | some signal =>
    simp only [takeSignal, bind_eq_ok] at h
    obtain ⟨observationId, -, h⟩ := h
    split_ifs at h with hblocked
    · obtain rfl := pure_eq_ok.mp h
      intro trade hopen
      obtain ⟨before, hbefore, rfl⟩ := Option.map_eq_some_iff.mp hopen
      obtain ⟨signal, first, bars, hheld, hrest⟩ := hs before hbefore
      exact ⟨signal, first, bars, .ignored hheld, hrest⟩
    · obtain rfl := pure_eq_ok.mp h
      exact hs

/-- **The open trade of a run is held.** -/
theorem run_held {k : ℕ} (h : config.afterBars a dataset provider bars k = .ok s) :
    config.TradeHeld a dataset (bars.take k) s := by
  have hlast := Loop.after_invariant
    (P := fun i s => config.TradeHeld a dataset (bars.take i) s) ?_ h ?_
  · rwa [List.length_take, ← List.take_eq_take_min] at hlast
  · intro i bar s t hbar hs ht
    simp only [barStep, bind_eq_ok] at ht
    obtain ⟨entered, hentered, managed, hmanaged, ht⟩ := ht
    rw [List.take_add_one, hbar, Option.toList_some]
    have hmarked : config.TradeHeld a dataset (bars.take i ++ [bar])
        (config.markEquity a bar managed) :=
      fun trade hopen => manageOpenTrade_held hs hentered hmanaged trade hopen
    exact consultProvider_held hmarked ht
  · intro trade hopen
    cases hopen

end Run

end FuturesRunConfig

/-! ### The virtual runtime -/

/-- An open position that a request opened. -/
inductive Managed (request : VirtualRuntimeRequest) : VirtualManagedPosition → Prop
  | opened {decision : VirtualRuntimeDecision} {openedAt : ℤ} {positionId : Option String}
      {position : VirtualManagedPosition} (hok : request.evaluate = .ok decision)
      (hready : decision.tradeIntent.isSome)
      (h : materializeManagedPosition request decision openedAt positionId = .ok position) :
      Managed request position
  | moved {position : VirtualManagedPosition} {p : VirtualPortfolioState} {event : CandleEvent}
      {update : VirtualPositionUpdateDecision} (before : Managed request position)
      (h : position.processPosition p event.candle event.context event.futuresContext
        event.availableAt = .ok update)
      (hopen : update.positionAfter.status ≠ .closed) :
      Managed request update.positionAfter

section Managed

variable {request : VirtualRuntimeRequest} {position : VirtualManagedPosition}
  {p : VirtualPortfolioState} {event : CandleEvent} {update : VirtualPositionUpdateDecision}

/-- A candle moves a position, and leaves the rest of it as it is. -/
lemma processPosition_moves (h : position.processPosition p event.candle event.context
    event.futuresContext event.availableAt = .ok update) :
    ∃ m ratios, update.positionAfter.toPositionFields =
      { position.toPositionFields.move m with takeProfitQuantityRatios := ratios } := by
  have hcreate : ∃ m, VirtualManagedPosition.create (position.toPositionFields.move m) =
      .ok update.positionAfter := by
    cases hm : position.market with
    | spot =>
      have hspot := processPosition_spot event hm h
      simp only [VirtualManagedPosition.processSpotPosition, bind_eq_ok, raiseIf_eq_ok,
        pure_eq_ok] at hspot
      obtain ⟨_, -, _, -, l, -, processed, -, protected', -, ⟨final, reason⟩, -, after, hafter,
        q, -, _, -, rfl⟩ := hspot
      obtain ⟨exits, review, heq⟩ :=
        position.managedPositionFromLifecycle_eq final (position.barsHeld + 1) _ reason
      exact ⟨_, heq ▸ hafter⟩
    | usdMFutures =>
      obtain ⟨margin, futuresContext, -, -, hfutures⟩ := processPosition_futures hm h
      simp only [VirtualManagedPosition.processFuturesPosition, bind_eq_ok, raiseIf_eq_ok,
        pure_eq_ok] at hfutures
      obtain ⟨orders, -, exits, -, after, hafter, q, -, _, -, rfl⟩ := hfutures
      have hparts := hafter
      simp only [VirtualManagedPosition.futuresPositionAfter, bind_eq_ok] at hparts
      obtain ⟨review, hreview, -⟩ := hparts
      rw [VirtualManagedPosition.futuresPositionAfter_eq hreview] at hafter
      exact ⟨_, hafter⟩
  obtain ⟨m, hm⟩ := hcreate
  obtain ⟨ratios, hratios⟩ := (position.toPositionFields.move m).normalized_eq
  rw [VirtualManagedPosition.create_eq_ok, hratios] at hm
  exact ⟨m, ratios, hm⟩

/-- A closed position stays closed. -/
lemma open_of_processPosition (h : position.processPosition p event.candle event.context
    event.futuresContext event.availableAt = .ok update)
    (hopen : update.positionAfter.status ≠ .closed) : position.status ≠ .closed := by
  cases hm : position.market with
  | spot =>
    have hspot := processPosition_spot event hm h
    simp only [VirtualManagedPosition.processSpotPosition, bind_eq_ok] at hspot
    obtain ⟨_, -, _, -, l, hl, processed, hprocessed, -⟩ := hspot
    exact (VirtualManagedPosition.open_of_processCandle hl hprocessed).1
  | usdMFutures =>
    obtain ⟨margin, futuresContext, -, -, hfutures⟩ := processPosition_futures hm h
    exact VirtualManagedPosition.open_of_processFutures hfutures hopen

/-- What an open position keeps of the fill that opened it. -/
structure Terms (request : VirtualRuntimeRequest) (preview : VirtualFillPreview)
    (position : VirtualManagedPosition) : Prop where
  reached : Reached request.market position
  isOpen : position.status ≠ .closed
  tickSize_eq : position.tickSize = request.tickSize
  slippageRatio_eq : position.slippageRatio = request.slippageRatio
  initialQuantity_eq : position.initialQuantity = preview.filledQuantity

lemma Terms.pristine {preview : VirtualFillPreview} (h : Terms request preview position) :
    position.Pristine :=
  h.reached.pristine h.isOpen

/-- **An open position keeps the terms of its fill.** -/
theorem Managed.terms (h : Managed request position) :
    ∃ preview, request.fillPreview = .ok preview ∧ preview.blockers = [] ∧
      Terms request preview position := by
  induction h with
  | @opened decision openedAt positionId position hok hready h =>
    obtain ⟨preview, hex⟩ := request.evaluate_orderReady hok hready
    have hreached := reached_of_enter hok hready h
    rw [materialize_eq_create hex] at h
    obtain ⟨target, htarget⟩ := one_target_of_passes
      (VirtualManagedPosition.exists_create_iff.mp ⟨position, h⟩)
    rw [VirtualManagedPosition.create_eq_ok, normalized_openingFields htarget] at h
    rw [request.market_eq.symm] at hreached
    refine ⟨preview, hex.fillPreview_eq, hex.blockers_nil, hreached, ?_, ?_, ?_, ?_⟩
    · rw [h]
      simp [openingWithTarget, openingFields]
    all_goals rw [h]; rfl
  | @moved position p event update before h hopen ih =>
    obtain ⟨preview, hpreview, hfree, hterms⟩ := ih
    obtain ⟨m, ratios, heq⟩ := processPosition_moves h
    have hmarket : position.market = p.market := by
      simp only [VirtualManagedPosition.processPosition, bind_eq_ok, raiseIf_eq_ok, not_not] at h
      obtain ⟨_, hsame, -⟩ := h
      exact hsame
    have hsame : p.market = request.market := hmarket.symm.trans hterms.reached.market_eq
    obtain ⟨hafter, hkept⟩ := reached_of_candle (hsame ▸ hterms.reached) h
    rw [hkept, hsame] at hafter
    refine ⟨preview, hpreview, hfree, hafter, hopen, ?_, ?_, ?_⟩
    · rw [heq]
      exact hterms.tickSize_eq
    · rw [heq]
      exact hterms.slippageRatio_eq
    · rw [heq]
      exact hterms.initialQuantity_eq

/-- **The open positions of a run are managed.** -/
theorem run_managed {d d' : Desk} {events : List RuntimeEvent}
    (h : Run RuntimeStep d events d') (hnone : d.positions = []) :
    ∀ position ∈ d'.positions, position.status ≠ .closed → ∃ request, Managed request position := by
  refine h.invariant
    (P := fun d => ∀ position ∈ d.positions, position.status ≠ .closed →
      (∃ request, Managed request position)) ?_ (by simp [hnone])
  intro d event d' hstep hd position hposition hopen
  cases hstep with
  | evaluate hp hok => exact hd position hposition hopen
  | enter hp hok hready hopened =>
    rcases List.mem_append.mp hposition with hold | hnew
    · exact hd position hold hopen
    · rw [List.mem_singleton.mp hnew]
      exact ⟨_, .opened hok hready hopened⟩
  | candle hget hupdate =>
    rcases List.mem_or_eq_of_mem_set hposition with hold | rfl
    · exact hd position hold hopen
    · obtain ⟨request, hmanaged⟩ :=
        hd _ (List.mem_of_getElem? hget) (open_of_processPosition hupdate hopen)
      exact ⟨request, .moved hmanaged hupdate hopen⟩

end Managed

end Ai4Binance
