/-
Progress of the virtual runtime: whether a reachable position can take the next
candle.

A desk is reached from a wallet without positions by evaluations, by entries that
open a managed position, and by processed candles.  Every position on it that is
not closed is pristine, so a candle is accepted exactly under the conditions of
its market (`candle_accepted_iff`).

* `RuntimeEvent`, `RuntimeStep`: the accepted calls of the runtime;
* `RuntimeInv`: the positions of a reachable desk;
* `CandleMatches`, `CandleCovered`: the candles the runtime may be given, and
  those it takes.
-/
import Ai4Binance.Virtual.SpotProgress
import Ai4Binance.Virtual.SpotReconciliation

open Text Check

namespace Ai4Binance

/-! ### Runs of the runtime -/

/-- The calls of the runtime: an evaluation, an evaluation whose fill is opened as
a managed position, and a candle for a managed position. -/
inductive RuntimeEvent where
  | evaluate (request : VirtualRuntimeRequest)
  | enter (request : VirtualRuntimeRequest) (openedAt : ℤ) (positionId : Option String)
  | candle (index : ℕ) (event : CandleEvent)

/-- The accepted calls, for both markets. -/
inductive RuntimeStep : Desk → RuntimeEvent → Desk → Prop
  | evaluate {d : Desk} {request : VirtualRuntimeRequest} {decision : VirtualRuntimeDecision} :
      request.portfolio = d.portfolio → request.evaluate = .ok decision →
      RuntimeStep d (.evaluate request) ⟨decision.portfolioAfter, d.positions⟩
  | enter {d : Desk} {request : VirtualRuntimeRequest} {openedAt : ℤ}
      {positionId : Option String} {decision : VirtualRuntimeDecision}
      {position : VirtualManagedPosition} :
      request.portfolio = d.portfolio → request.evaluate = .ok decision →
      decision.tradeIntent.isSome →
      materializeManagedPosition request decision openedAt positionId = .ok position →
      RuntimeStep d (.enter request openedAt positionId)
        ⟨decision.portfolioAfter, d.positions ++ [position]⟩
  | candle {d : Desk} {index : ℕ} {event : CandleEvent} {position : VirtualManagedPosition}
      {update : VirtualPositionUpdateDecision} :
      d.positions[index]? = some position →
      position.processPosition d.portfolio event.candle event.context event.futuresContext
        event.availableAt = .ok update →
      RuntimeStep d (.candle index event)
        ⟨update.portfolioAfter, d.positions.set index update.positionAfter⟩

/-- A position of a reachable desk. -/
structure Reached (market : Market) (position : VirtualManagedPosition) : Prop where
  market_eq : position.market = market
  pristine : position.status ≠ .closed → position.Pristine
  spot_funding : position.market = .spot → position.fundingCostUsdt = 0

/-- Every position of the desk is as an entry or a candle leaves it. -/
def RuntimeInv (d : Desk) : Prop := ∀ position ∈ d.positions, Reached d.portfolio.market position

/-! ### The invariant, call by call -/

/-- An evaluation keeps the market of the portfolio. -/
lemma evaluate_market {request : VirtualRuntimeRequest} {decision : VirtualRuntimeDecision}
    (h : request.evaluate = .ok decision) :
    decision.portfolioAfter.market = request.portfolio.market := by
  by_cases hready : decision.tradeIntent.isSome
  · obtain ⟨preview, hex⟩ := request.evaluate_orderReady h hready
    cases hm : request.portfolio.market with
    | spot => exact (hex.fillEffect hm).market_eq
    | usdMFutures =>
      obtain ⟨terms, ht⟩ := hex.entersFutures hm
      exact (hex.futuresFillEffect hm ht).market_eq.trans hm
  · simp only [VirtualRuntimeRequest.evaluate, bind_eq_ok] at h
    obtain ⟨preview, -, eligibility, -, h⟩ := h
    split at h
    · simp only [VirtualRuntimeRequest.orderReady, bind_eq_ok, raiseIf_eq_ok, pure_eq_ok] at h
      obtain ⟨_, -, _, -, _, -, rfl⟩ := h
      exact absurd rfl hready
    · simp only [VirtualRuntimeRequest.noAction, bind_eq_ok, raiseIf_eq_ok, pure_eq_ok] at h
      obtain ⟨_, -, rfl⟩ := h
      rfl

/-- The fee and slippage ratios of a request. -/
lemma VirtualRuntimeRequest.fill_ratios (request : VirtualRuntimeRequest) :
    (0 ≤ request.feeRatio ∧ request.feeRatio ≤ 1 / 100) ∧
      0 ≤ request.slippageRatio ∧ request.slippageRatio ≤ 2 / 100 := by
  have h := request.passes
  simp only [RequestFields.checks, passes_append, passes_cons, decide_eq_false_iff_not, not_or,
    not_lt] at h
  obtain ⟨-, -, -, -, hfee, hslippage, -⟩ := h
  exact ⟨hfee, hslippage⟩

/-- An entry opens a pristine position. -/
lemma reached_of_enter {request : VirtualRuntimeRequest} {decision : VirtualRuntimeDecision}
    {openedAt : ℤ} {positionId : Option String} {position : VirtualManagedPosition}
    (hok : request.evaluate = .ok decision) (hready : decision.tradeIntent.isSome)
    (h : materializeManagedPosition request decision openedAt positionId = .ok position) :
    Reached request.portfolio.market position := by
  obtain ⟨preview, hex⟩ := request.evaluate_orderReady hok hready
  rw [materialize_eq_create hex] at h
  obtain ⟨target, htarget⟩ := one_target_of_passes
    (VirtualManagedPosition.exists_create_iff.mp ⟨position, h⟩)
  rw [VirtualManagedPosition.create_eq_ok, normalized_openingFields htarget] at h
  obtain ⟨⟨hfee, hfee'⟩, hslip, hslip'⟩ := request.fill_ratios
  refine ⟨by rw [h]; exact request.market_eq, fun _ => ?_, fun hspot => ?_⟩
  · constructor
    case one_target => exact ⟨target, by rw [h]; exact htarget⟩
    case fee_nonneg => rw [h]; exact hfee
    case fee_le => rw [h]; exact hfee'
    case slippage_nonneg => rw [h]; exact hslip
    case slippage_le => rw [h]; exact hslip'
    all_goals rw [h]; rfl
  · have hm : request.portfolio.market = .spot := by
      rw [h] at hspot
      exact request.market_eq ▸ hspot
    rw [h]
    simp only [openingWithTarget, openingFields, hex.spot_funding hm, sub_self]

section Candle

variable {position : VirtualManagedPosition} {p : VirtualPortfolioState} {event : CandleEvent}
  {update : VirtualPositionUpdateDecision}

/-- A moved position that is still open as a whole is pristine again. -/
lemma VirtualManagedPosition.Pristine.move {position after : VirtualManagedPosition} {m : Moved}
    (hp : position.Pristine)
    (h : VirtualManagedPosition.create (position.toPositionFields.move m) = .ok after)
    (hremaining : m.remainingQuantity = position.initialQuantity) (hstatus : m.status = .open)
    (hindex : m.nextTargetIndex = 0) (hexits : after.exits = [])
    (hrealized : m.realizedPnlUsdt = -m.fundingCostUsdt) : after.Pristine := by
  have hratios : (position.toPositionFields.move m).takeProfitQuantityRatios ≠ [] := by
    change position.takeProfitQuantityRatios ≠ []
    rw [hp.ratios_eq]
    simp
  rw [create_eq_ok, PositionFields.normalized, if_neg (fun hc => hratios hc.1)] at h
  constructor
  case one_target => rw [h]; exact hp.one_target
  case ratios_eq => rw [h]; exact hp.ratios_eq
  case index_eq => rw [h]; exact hindex
  case exits_eq => exact hexits
  case status_eq => rw [h]; exact hstatus
  case remaining_eq => rw [h]; exact hremaining
  case holding_none => rw [h]; exact hp.holding_none
  case breakeven_none => rw [h]; exact hp.breakeven_none
  case trailing_none => rw [h]; exact hp.trailing_none
  case realized_eq => rw [h]; exact hrealized
  case fee_nonneg => rw [h]; exact hp.fee_nonneg
  case fee_le => rw [h]; exact hp.fee_le
  case slippage_nonneg => rw [h]; exact hp.slippage_nonneg
  case slippage_le => rw [h]; exact hp.slippage_le

/-- Nothing of a closed Futures position is opened again. -/
lemma VirtualManagedPosition.open_of_processFutures {margin : FuturesMargin} {candle : OHLCVCandle}
    {context : VirtualExitContext} {futuresContext : VirtualFuturesPositionContext}
    (h : position.processFuturesPosition margin p candle context futuresContext = .ok update)
    (hopen : update.positionAfter.status ≠ .closed) : position.status ≠ .closed := by
  intro hclosed
  obtain ⟨-, newExits, heffect⟩ := processFuturesPosition_effect h
  have hzero := position.closed_iff.mp hclosed
  have hsum : 0 ≤ (newExits.map (·.quantity)).sum :=
    List.sum_nonneg fun q hq => by
      obtain ⟨e, -, rfl⟩ := List.mem_map.mp hq
      exact e.nonneg.2.1
  have hafter := update.positionAfter.remaining_bounds.1
  refine hopen (update.positionAfter.closed_iff.mpr ?_)
  have hremaining := heffect.remaining_eq
  rw [hzero] at hremaining
  linarith

/-- A Futures candle leaves a reached position. -/
lemma reached_of_futures {margin : FuturesMargin} {candle : OHLCVCandle}
    {context : VirtualExitContext} {futuresContext : VirtualFuturesPositionContext}
    (hreached : Reached p.market position) (hm : position.market = .usdMFutures)
    (h : position.processFuturesPosition margin p candle context futuresContext = .ok update) :
    Reached update.portfolioAfter.market update.positionAfter := by
  obtain ⟨-, newExits, heffect⟩ := VirtualManagedPosition.processFuturesPosition_effect h
  have hmarket : update.positionAfter.market = .usdMFutures := heffect.entry.market_eq.trans hm
  refine ⟨?_, fun hopen => ?_, fun hspot => ?_⟩
  · rw [heffect.market_eq, heffect.entry.market_eq]
    exact hreached.market_eq
  · have hp := hreached.pristine (VirtualManagedPosition.open_of_processFutures h hopen)
    simp only [VirtualManagedPosition.processFuturesPosition, bind_eq_ok, raiseIf_eq_ok,
      pure_eq_ok] at h
    obtain ⟨orders, ho, exits, he, after, ha, q, hq, _, -, rfl⟩ := h
    have hstatus := VirtualManagedPosition.futuresPositionAfter_status ha
    obtain rfl | ⟨order, rfl, hquantity, -⟩ := hp.exitOrders_cases ho
    · obtain rfl : exits = [] := by simpa [mapM_eq_ok] using he
      have hpos := position.values_pos.2.1
      have hremaining : position.remainingAfter [] = position.initialQuantity := by
        simp [VirtualManagedPosition.remainingAfter, hp.remaining_eq]
      have hstill : position.statusAfter (position.remainingAfter []) [] = .open := by
        simp [VirtualManagedPosition.statusAfter, hremaining, hpos.ne', hp.status_eq]
      have hreview : position.closureReviewAfter
          (position.statusAfter (position.remainingAfter []) []) context [] = .ok none := by
        rw [hstill]
        rfl
      have hexits := (VirtualManagedPosition.futuresPositionAfter_spec ha).2.1
      rw [hp.exits_eq] at hexits
      rw [VirtualManagedPosition.futuresPositionAfter_eq hreview] at ha
      refine hp.move ha hremaining hstill ?_ hexits ?_
      · simp [VirtualManagedPosition.movedBy, hp.index_eq]
      · simp only [VirtualManagedPosition.movedBy, hp.realized_eq, List.map_nil, List.sum_nil]
        ring
    · refine absurd ?_ hopen
      rw [hstatus]
      simp [VirtualManagedPosition.statusAfter, VirtualManagedPosition.remainingAfter,
        hp.remaining_eq, hquantity]
  · rw [hmarket] at hspot
    cases hspot

/-- The lifecycle takes only open positions, and no candle from before their time. -/
lemma VirtualManagedPosition.open_of_processCandle {candle : OHLCVCandle} {context : ClosureContext}
    {l processed : LifecyclePosition} (hl : position.lifecyclePosition = .ok l)
    (h : position.engine.processCandle l candle context = .ok processed) :
    position.status ≠ .closed ∧ position.openedAt ≤ candle.timestamp := by
  simp only [lifecyclePosition, bind_eq_ok] at hl
  obtain ⟨plan, -, hl⟩ := hl
  rw [LifecyclePosition.create_eq_ok] at hl
  simp only [PaperLifecycleEngine.processCandle, bind_eq_ok, raiseIf_eq_ok] at h
  obtain ⟨_, hstatus, _, htime, -⟩ := h
  rw [hl] at hstatus htime
  exact ⟨hstatus, not_lt.mp htime⟩

/-- A Spot candle leaves a reached position. -/
lemma reached_of_spot {candle : OHLCVCandle} {context : VirtualExitContext}
    (hreached : Reached p.market position) (hm : position.market = .spot)
    (h : position.processSpotPosition p candle context = .ok update) :
    Reached update.portfolioAfter.market update.positionAfter := by
  obtain ⟨-, hmarket, hportfolio⟩ := VirtualManagedPosition.processSpotPosition_books h
  have hafter : update.portfolioAfter.market = p.market := by
    rw [VirtualManagedPosition.spotPortfolioAfterPositionUpdate,
      VirtualPortfolioState.create_eq_ok] at hportfolio
    rw [hportfolio]
  simp only [VirtualManagedPosition.processSpotPosition, bind_eq_ok, raiseIf_eq_ok,
    pure_eq_ok] at h
  obtain ⟨_, -, _, -, l, hl, processed, hprocessed, protected', hb, ⟨final, reason⟩, hf, after, ha,
    q, -, _, -, rfl⟩ := h
  obtain ⟨exits, review, heq⟩ :=
    position.managedPositionFromLifecycle_eq final (position.barsHeld + 1) _ reason
  have hmoved := heq ▸ ha
  refine ⟨?_, fun hopen => ?_, fun _ => ?_⟩
  · exact hmarket.trans (hreached.market_eq.trans hafter.symm)
  · obtain ⟨hbefore, htime⟩ := VirtualManagedPosition.open_of_processCandle hl hprocessed
    have hp := hreached.pristine hbefore
    obtain ⟨l', processed', final', reason', hl', hprocessed', hb', hf', ⟨target, hof⟩, hlife⟩ :=
      hp.lifecycle_final htime context (position.spotMfe candle)
    obtain rfl := Except.ok.inj (hl'.symm.trans hl)
    obtain rfl := Except.ok.inj (hprocessed'.symm.trans hprocessed)
    obtain rfl := Except.ok.inj (hb'.symm.trans hb)
    obtain ⟨rfl, rfl⟩ := Prod.mk.inj (Except.ok.inj (hf'.symm.trans hf))
    have hstatus : after.status = final'.status := by
      rw [(VirtualManagedPosition.create_eq_ok.mp hmoved)]
      obtain ⟨ratios, hr⟩ := PositionFields.normalized_eq _
      rw [hr]
      rfl
    cases href : position.spotExitReference candle context with
    | some reference =>
      rw [href] at hlife
      exact absurd (hstatus.trans hlife.status_eq) hopen
    | none =>
      rw [href] at hlife
      have hexits : after.exits = [] := by
        have hamounts := VirtualManagedPosition.drop_exits_amounts hp.exits_eq ha
        rw [hp.exits_eq, List.length_nil, List.drop_zero, hlife.exits_eq, hof.exits_eq] at hamounts
        exact List.map_eq_nil_iff.mp hamounts
      refine hp.move hmoved ?_ ?_ ?_ hexits ?_
      · exact hlife.remaining_eq.trans hof.remaining_eq
      · exact hlife.status_eq.trans hof.status_eq
      · exact hlife.index_eq.trans hof.index_eq
      · exact (hlife.realized_eq.trans hof.realized_eq).trans hp.realized_eq
  · have hfunding := hreached.spot_funding hm
    rw [(VirtualManagedPosition.create_eq_ok.mp hmoved)]
    obtain ⟨ratios, hr⟩ := PositionFields.normalized_eq _
    rw [hr]
    exact hfunding

/-- A Spot candle is processed without a Futures context. -/
lemma processPosition_spot (event : CandleEvent) (hm : position.market = .spot)
    (h : position.processPosition p event.candle event.context event.futuresContext
      event.availableAt = .ok update) :
    position.processSpotPosition p event.candle event.context = .ok update := by
  simp only [VirtualManagedPosition.processPosition, bind_eq_ok, raiseIf_eq_ok] at h
  obtain ⟨_, -, h⟩ := h
  rw [hm] at h
  cases hc : event.futuresContext with
  | none =>
    rw [hc] at h
    exact h
  | some futuresContext => simp [hc] at h

/-- A candle leaves a reached position and the market of the portfolio. -/
lemma reached_of_candle (hreached : Reached p.market position)
    (h : position.processPosition p event.candle event.context event.futuresContext
      event.availableAt = .ok update) :
    Reached update.portfolioAfter.market update.positionAfter ∧
      update.portfolioAfter.market = p.market := by
  cases hm : position.market with
  | spot =>
    have hspot := processPosition_spot event hm h
    have hafter := reached_of_spot hreached hm hspot
    obtain ⟨-, hmarket, -⟩ := VirtualManagedPosition.processSpotPosition_books hspot
    exact ⟨hafter, hafter.market_eq.symm.trans (hmarket.trans hreached.market_eq)⟩
  | usdMFutures =>
    obtain ⟨margin, futuresContext, -, -, hfutures⟩ := processPosition_futures hm h
    obtain ⟨-, newExits, heffect⟩ := VirtualManagedPosition.processFuturesPosition_effect hfutures
    exact ⟨reached_of_futures hreached hm hfutures, heffect.market_eq⟩

/-- Every call keeps the positions of a desk reached. -/
theorem RuntimeInv.step {d d' : Desk} {e : RuntimeEvent} (h : RuntimeStep d e d')
    (hinv : RuntimeInv d) : RuntimeInv d' := by
  cases h with
  | evaluate hp hok =>
    intro position hposition
    have hmarket := evaluate_market hok
    rw [hp] at hmarket
    exact hmarket ▸ hinv position hposition
  | enter hp hok hready hopened =>
    intro position hposition
    have hmarket := evaluate_market hok
    rw [hp] at hmarket
    rcases List.mem_append.mp hposition with hold | hnew
    · exact hmarket ▸ hinv position hold
    · rw [List.mem_singleton.mp hnew]
      have hreached := reached_of_enter hok hready hopened
      rw [hp] at hreached
      exact hmarket ▸ hreached
  | candle hget hupdate =>
    intro position hposition
    obtain ⟨hreached, hmarket⟩ :=
      reached_of_candle (hinv _ (List.mem_of_getElem? hget)) hupdate
    rcases List.mem_or_eq_of_mem_set hposition with hold | hnew
    · exact hmarket ▸ hinv position hold
    · rw [hnew]
      exact hreached

end Candle

/-! ### Progress -/

/-- A candle as the runtime may be given it: not before the position was opened,
without a Futures context on Spot, and with one that is observed when the candle
is available on Futures. -/
structure CandleMatches (position : VirtualManagedPosition) (event : CandleEvent) : Prop where
  not_before : position.openedAt ≤ event.candle.timestamp
  spot : position.market = .spot → event.futuresContext = none
  futures : position.market = .usdMFutures → ∃ futuresContext,
    event.futuresContext = some futuresContext ∧
      futuresContext.observedAt = event.availableAt.getD event.candle.timestamp

/-- The losses, the funding and the fees of the candle are covered. -/
structure CandleCovered (position : VirtualManagedPosition) (p : VirtualPortfolioState)
    (event : CandleEvent) : Prop where
  spot : position.market = .spot → position.SpotAccepts p event.candle event.context
  futures : ∀ futuresContext margin, event.futuresContext = some futuresContext →
    position.margin = some margin →
      position.FuturesAccepts margin p event.candle event.context futuresContext

/-- The margin of a Futures position is there and valid. -/
lemma VirtualManagedPosition.exists_margin {position : VirtualManagedPosition}
    (hm : position.market = .usdMFutures) :
    ∃ margin, position.margin = some margin ∧ position.MarginValid margin := by
  have h := position.passes
  simp only [PositionFields.checks, passes_append] at h
  exact (PositionFields.marginChecks_futures_iff hm).mp h.1.2

/-- **Progress.**  From any wallet, at every desk that evaluations, entries and
candles lead to, an open position takes a candle exactly if it is covered. -/
theorem candle_accepted_iff (wallet : VirtualPortfolioState) (events : List RuntimeEvent) (d : Desk)
    (position : VirtualManagedPosition) (event : CandleEvent)
    (hrun : Run RuntimeStep ⟨wallet, []⟩ events d) (hposition : position ∈ d.positions)
    (hopen : position.status ≠ .closed) (hmatches : CandleMatches position event) :
    (∃ update, position.processPosition d.portfolio event.candle event.context
      event.futuresContext event.availableAt = .ok update) ↔
      CandleCovered position d.portfolio event := by
  have hinv : RuntimeInv d := hrun.invariant (P := RuntimeInv) RuntimeInv.step (by simp [RuntimeInv])
  have hreached := hinv position hposition
  have hp := hreached.pristine hopen
  have hmarket : ¬ position.market ≠ d.portfolio.market := not_not.mpr hreached.market_eq
  simp only [VirtualManagedPosition.processPosition, raiseIf_of_not hmarket, ok_bind]
  cases hm : position.market with
  | spot =>
    have hspot := hreached.market_eq.symm.trans hm
    rw [hmatches.spot hm]
    dsimp only
    rw [VirtualManagedPosition.processSpotPosition_accepted_iff hp hm hspot
      (hreached.spot_funding hm) hmatches.not_before]
    constructor
    · intro h
      refine ⟨fun _ => h, fun futuresContext margin hc _ => ?_⟩
      rw [hmatches.spot hm] at hc
      cases hc
    · intro h
      exact h.spot hm
  | usdMFutures =>
    have hfutures := hreached.market_eq.symm.trans hm
    obtain ⟨futuresContext, hc, hobserved⟩ := hmatches.futures hm
    obtain ⟨margin, hmargin, hvalid⟩ := VirtualManagedPosition.exists_margin hm
    rw [hc]
    simp only [raiseIf_of_not (not_not.mpr hobserved), hmargin, orRaise, ok_bind]
    rw [VirtualManagedPosition.processFuturesPosition_accepted_iff hp hfutures hvalid]
    constructor
    · intro h
      refine ⟨fun hspot => ?_, fun futuresContext' margin' hc' hmargin' => ?_⟩
      · rw [hm] at hspot
        cases hspot
      · obtain rfl := Option.some.inj (hc.symm.trans hc')
        obtain rfl := Option.some.inj (hmargin.symm.trans hmargin')
        exact h
    · intro h
      exact h.futures futuresContext margin hc hmargin

/-! ### A gap beyond the margin -/

/-- The desk after the entry of a request on a wallet. -/
lemma run_enter {request : VirtualRuntimeRequest} {decision : VirtualRuntimeDecision}
    {opened : VirtualManagedPosition} (hok : request.evaluate = .ok decision)
    (hready : decision.tradeIntent.isSome)
    (hopened : materializeManagedPosition request decision 0 none = .ok opened) :
    Run RuntimeStep ⟨request.portfolio, []⟩ [.enter request 0 none]
      ⟨decision.portfolioAfter, [opened]⟩ :=
  .single (.enter rfl hok hready hopened)

/-- A candle that funding and the price leave covered is taken. -/
theorem fundedLong_takes_quiet_candle : ∃ (d : Desk) (position : VirtualManagedPosition),
    Run RuntimeStep ⟨freshFuturesWallet, []⟩ [.enter fundedLong 0 none] d ∧
      position ∈ d.positions ∧ position.status ≠ .closed ∧ CandleMatches position quietEvent ∧
      CandleCovered position d.portfolio quietEvent := by
  obtain ⟨decision, opened, mid, update, hok, hready, hopened, hmid, -, -⟩ := fundedLong_runs
  have hrun := run_enter hok hready hopened
  have hfields : opened.status ≠ .closed ∧ opened.openedAt = 0 ∧ opened.market = .usdMFutures := by
    obtain ⟨preview, hex⟩ := fundedLong.evaluate_orderReady hok hready
    rw [materialize_eq_create hex, VirtualManagedPosition.create_eq_ok] at hopened
    obtain ⟨ratios, hr⟩ := PositionFields.normalized_eq _
    rw [hr] at hopened
    rw [hopened]
    exact ⟨by simp [openingFields], rfl, rfl⟩
  obtain ⟨hopen, htime, hm⟩ := hfields
  have hmatches : CandleMatches opened quietEvent := by
    refine ⟨by rw [htime]; decide, fun hspot => ?_, fun _ => ⟨_, rfl, rfl⟩⟩
    rw [hm] at hspot
    cases hspot
  refine ⟨_, opened, hrun, List.mem_singleton_self _, hopen, hmatches, ?_⟩
  exact (candle_accepted_iff freshFuturesWallet _ _ opened quietEvent hrun
    (List.mem_singleton_self _) hopen hmatches).mp ⟨mid, hmid⟩

/-- A wallet with forty in cash. -/
def thinWallet : VirtualPortfolioState where
  portfolioId := "virtual-futures"
  market := .usdMFutures
  cashUsdt := 40
  equityUsdt := 40
  passes := by decide +kernel

/-- A long of one unit at 100 with a margin of 20 on it. -/
def thinLong : VirtualRuntimeRequest where
  toRequestFields := { longRequest 20 0 with portfolio := thinWallet }
  passes := by decide +kernel

/-- A candle that opens at half of the entry price. -/
def crashCandle : OHLCVCandle where
  timestamp := 0
  «open» := 50
  high := 55
  low := 45
  close := 50
  volume := 10
  nonneg := by norm_num
  low_le_high := by norm_num
  max_le_high := by norm_num
  low_le_min := by norm_num

/-- The crash, with its mark. -/
def crashEvent : CandleEvent := futuresCandle 60 crashCandle 0 (by norm_num [crashCandle])

/-- The long is opened, and the candle that gaps through its liquidation price by
more than the wallet holds is refused: the position stays open. -/
theorem crash_is_refused : ∃ (d : Desk) (position : VirtualManagedPosition),
    Run RuntimeStep ⟨thinWallet, []⟩ [.enter thinLong 0 none] d ∧ position ∈ d.positions ∧
      position.status ≠ .closed ∧ CandleMatches position crashEvent ∧
      ∀ update, position.processPosition d.portfolio crashEvent.candle crashEvent.context
        crashEvent.futuresContext crashEvent.availableAt ≠ .ok update := by
  have h : (thinLong.evaluate.toOption.bind fun decision =>
      (materializeManagedPosition thinLong decision 0 none).toOption.map fun opened =>
        (decision.tradeIntent.isSome, opened.status, opened.openedAt, opened.market,
          (opened.processPosition decision.portfolioAfter crashEvent.candle crashEvent.context
            crashEvent.futuresContext crashEvent.availableAt).toOption.isSome)) =
      some (true, .open, 0, .usdMFutures, false) := by
    decide +kernel
  simp only [Option.bind_eq_some_iff, Option.map_eq_some_iff, toOption_eq_some,
    Prod.mk.injEq] at h
  obtain ⟨decision, hok, opened, hopened, hready, hstatus, htime, hm, hrefused⟩ := h
  refine ⟨_, opened, run_enter hok hready hopened, List.mem_singleton_self _, ?_, ?_, ?_⟩
  · simp [hstatus]
  · refine ⟨by rw [htime]; decide, fun hspot => ?_, fun _ => ⟨_, rfl, rfl⟩⟩
    rw [hm] at hspot
    cases hspot
  · intro update hupdate
    simp [hupdate, Except.toOption] at hrefused

end Ai4Binance
