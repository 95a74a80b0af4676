/-
Realized PnL against equity over runs of a Spot wallet.

A wallet is filled by evaluations and emptied by sells or by the exits of its
managed positions.  An exit books its share of the entry fee into the realized
PnL; a sell never books the fee of the buy it closes.  So between two empty
wallets the realized PnL and the equity change by the same amount exactly when
no managed position with a paid entry fee is left open (`reconciles_iff`), in
every run whose unmanaged buys are free of fees and whose managed exits release
what the cost basis holds for them.

* `Desk`, `DeskStep`: a wallet with its managed positions, and its steps;
* `ledgerGap`: realized PnL less cash and cost basis, which fills and exits move
  by fees only;
* `unbookedFees`: the entry fees that the open managed positions still have to
  book;
* `DeskInv`: the invariant that ties the two together.
-/
import Ai4Binance.Lib.Run
import Ai4Binance.Virtual.ProcessPosition
import Ai4Binance.Virtual.SpotFill

open Check

namespace Ai4Binance

/-- A wallet and the positions managed on it. -/
structure Desk where
  portfolio : VirtualPortfolioState
  positions : List VirtualManagedPosition

/-- What happens at a desk: a fill, a buy that opens a managed position, and a
candle for a managed position. -/
inductive DeskEvent where
  | fill (request : VirtualRuntimeRequest)
  | openPosition (request : VirtualRuntimeRequest) (openedAt : ℤ) (positionId : Option String)
  | candle (index : ℕ) (candle : OHLCVCandle) (context : VirtualExitContext)

/-- The event is an evaluated sell. -/
def DeskEvent.IsSell : DeskEvent → Prop
  | .fill request => request.action = .sell
  | _ => False

/-- The accepted steps of a Spot desk. -/
inductive DeskStep : Desk → DeskEvent → Desk → Prop
  | fill {d : Desk} {request : VirtualRuntimeRequest} {q : VirtualPortfolioState} :
      SpotStep d.portfolio request q → DeskStep d (.fill request) ⟨q, d.positions⟩
  | openPosition {d : Desk} {request : VirtualRuntimeRequest} {openedAt : ℤ}
      {positionId : Option String} {decision : VirtualRuntimeDecision}
      {position : VirtualManagedPosition} :
      request.portfolio = d.portfolio → d.portfolio.market = .spot → request.action = .buy →
      request.evaluate = .ok decision → decision.tradeIntent.isSome →
      materializeManagedPosition request decision openedAt positionId = .ok position →
      DeskStep d (.openPosition request openedAt positionId)
        ⟨decision.portfolioAfter, d.positions ++ [position]⟩
  | candle {d : Desk} {index : ℕ} {candle : OHLCVCandle} {context : VirtualExitContext}
      {position : VirtualManagedPosition} {decision : VirtualPositionUpdateDecision} :
      d.positions[index]? = some position → d.portfolio.market = .spot →
      position.processPosition d.portfolio candle context none none = .ok decision →
      DeskStep d (.candle index candle context)
        ⟨decision.portfolioAfter, d.positions.set index decision.positionAfter⟩

/-! ### The books of a wallet -/

/-- Realized PnL less what the wallet holds at cost. -/
def ledgerGap (p : VirtualPortfolioState) : ℚ :=
  p.realizedPnlUsdt - p.cashUsdt - p.inventoryCostBasisUsdt

/-- A sum over the managed positions. -/
def Desk.total (f : VirtualManagedPosition → ℚ) (d : Desk) : ℚ := (d.positions.map f).sum

/-- The part of its entry fee that a position has still to book. -/
def VirtualManagedPosition.unbookedFee (p : VirtualManagedPosition) : ℚ :=
  p.entryFeeUsdt * p.remainingQuantity / p.initialQuantity

/-- The entry fees that the open managed positions have still to book. -/
def Desk.unbookedFees (d : Desk) : ℚ := d.total (·.unbookedFee)

/-- Replacing one element moves a sum by the difference. -/
lemma sum_map_set {α : Type} (f : α → ℚ) {l : List α} {i : ℕ} {a b : α} (h : l[i]? = some a) :
    ((l.set i b).map f).sum = (l.map f).sum - f a + f b := by
  induction l generalizing i with
  | nil => simp at h
  | cons x l ih =>
      cases i with
      | zero =>
          obtain rfl : x = a := by simpa using h
          simp only [List.set_cons_zero, List.map_cons, List.sum_cons]
          ring
      | succ i =>
          have ih' := ih (by simpa using h : l[i]? = some a)
          simp only [List.set_cons_succ, List.map_cons, List.sum_cons, ih']
          ring

/-- A buy raises the gap by its fee. -/
lemma ledgerGap_buy {p q : VirtualPortfolioState} {request : VirtualRuntimeRequest}
    {preview : VirtualFillPreview} (h : FillEffect p request preview q)
    (hp : request.portfolio = p) (hbuy : request.action = .buy) :
    ledgerGap q = ledgerGap p + preview.feeUsdt := by
  obtain ⟨hcash, -, hbasis, hrealized, -⟩ := h.buy hp hbuy
  rw [ledgerGap, ledgerGap, hcash, hbasis, hrealized]
  ring

/-- A sell leaves the gap as it is. -/
lemma ledgerGap_sell {p q : VirtualPortfolioState} {request : VirtualRuntimeRequest}
    {preview : VirtualFillPreview} (h : FillEffect p request preview q)
    (hp : request.portfolio = p) (hsell : request.action = .sell) :
    ledgerGap q = ledgerGap p := by
  obtain ⟨hcash, hinv, hbasis, hrealized, -⟩ := h.sell hp hsell
  have hfilled := h.filled.quantity_pos
  have hq := q.balances_nonneg.2.1
  have hinvp : p.inventoryQuantity ≠ 0 := by linarith
  rw [ledgerGap, ledgerGap, hcash, hbasis, hrealized]
  by_cases h0 : q.inventoryQuantity = 0
  · -- the whole inventory is sold, and its whole cost released
    have hall : preview.filledQuantity = p.inventoryQuantity := by linarith
    rw [if_pos h0, hall, div_mul_cancel₀ _ hinvp]
    ring
  · rw [if_neg h0]
    ring

/-! ### One candle -/

/-- The net PnL of the new exits: their proceeds, less the cost at entry and
less their share of the entry fee. -/
lemma sum_netPnl {entryPrice feePerUnit : ℚ} {exits : List VirtualPositionExit}
    (h : ∀ e ∈ exits, e.netPnlUsdt =
      (e.price - entryPrice) * e.quantity - e.feeUsdt - feePerUnit * e.quantity) :
    (exits.map (·.netPnlUsdt)).sum = (exits.map fun e => e.price * e.quantity - e.feeUsdt).sum -
      entryPrice * (exits.map (·.quantity)).sum - feePerUnit * (exits.map (·.quantity)).sum := by
  induction exits with
  | nil => simp
  | cons e exits ih =>
      have ih' := ih fun e' he' => h e' (List.mem_cons_of_mem _ he')
      simp only [List.map_cons, List.sum_cons, ih', h e List.mem_cons_self]
      ring

/-- What a processed candle does to the wallet and to its position. -/
structure CandleEffect (p : VirtualPortfolioState) (position : VirtualManagedPosition)
    (q : VirtualPortfolioState) (after : VirtualManagedPosition) (quantity : ℚ) : Prop where
  market_eq : q.market = .spot
  entryPrice_eq : after.entryPrice = position.entryPrice
  remaining_eq : after.remainingQuantity = position.remainingQuantity - quantity
  unbookedFee_eq : after.unbookedFee =
    position.unbookedFee - position.entryFeeUsdt / position.initialQuantity * quantity
  inventory_eq : q.inventoryQuantity = p.inventoryQuantity - quantity
  costBasis_eq : q.inventoryCostBasisUsdt = max (if q.inventoryQuantity = 0 then 0
    else p.inventoryCostBasisUsdt - position.entryPrice * quantity) 0
  cash_eq : q.realizedPnlUsdt - q.cashUsdt = p.realizedPnlUsdt - p.cashUsdt -
    position.entryPrice * quantity - position.entryFeeUsdt / position.initialQuantity * quantity
  settled : q.inventoryQuantity = 0 → q.equityUsdt = q.cashUsdt

theorem processPosition_effect {p : VirtualPortfolioState} {position : VirtualManagedPosition}
    {candle : OHLCVCandle} {context : VirtualExitContext}
    {decision : VirtualPositionUpdateDecision} (hspot : p.market = .spot)
    (h : position.processPosition p candle context none none = .ok decision) :
    ∃ quantity,
      CandleEffect p position decision.portfolioAfter decision.positionAfter quantity := by
  simp only [VirtualManagedPosition.processPosition, bind_eq_ok, raiseIf_eq_ok, not_not] at h
  obtain ⟨_, hmarket, h⟩ := h
  simp only [hmarket, hspot] at h
  obtain ⟨hbooks, -, hportfolio⟩ := VirtualManagedPosition.processSpotPosition_books h
  rw [VirtualManagedPosition.spotPortfolioAfterPositionUpdate,
    VirtualPortfolioState.create_eq_ok] at hportfolio
  set newExits := decision.positionAfter.exits.drop position.exits.length with hnew
  have hnet := @sum_netPnl position.entryPrice (position.entryFeeUsdt / position.initialQuantity)
    newExits fun e he => by rw [hbooks.netPnl e he]; ring
  have hcost : (newExits.map fun e => position.entryPrice * e.quantity).sum =
      position.entryPrice * (newExits.map (·.quantity)).sum := by
    rw [List.sum_map_mul_left]
  refine ⟨(newExits.map (·.quantity)).sum, ?_, hbooks.entryPrice_eq, hbooks.remaining_eq, ?_, ?_,
    ?_, ?_, ?_⟩
  · rw [hportfolio]
    exact hspot
  · rw [VirtualManagedPosition.unbookedFee, VirtualManagedPosition.unbookedFee,
      hbooks.remaining_eq, hbooks.entryFee_eq, hbooks.initialQuantity_eq]
    ring
  · rw [hportfolio]
  · rw [hportfolio, ← hcost]
  · rw [hportfolio]
    dsimp only
    rw [hnet]
    ring
  · intro h0
    rw [hportfolio] at h0 ⊢
    dsimp only at h0 ⊢
    rw [h0]
    ring

/-- A candle whose exits release what the cost basis holds for them lowers the
gap by the entry fees they book. -/
lemma CandleEffect.ledgerGap_eq {p q : VirtualPortfolioState}
    {position after : VirtualManagedPosition} {quantity : ℚ}
    (h : CandleEffect p position q after quantity)
    (hnonneg : 0 ≤ p.inventoryCostBasisUsdt - position.entryPrice * quantity)
    (hzero : q.inventoryQuantity = 0 →
      p.inventoryCostBasisUsdt - position.entryPrice * quantity = 0) :
    q.inventoryCostBasisUsdt = p.inventoryCostBasisUsdt - position.entryPrice * quantity ∧
      ledgerGap q = ledgerGap p - position.entryFeeUsdt / position.initialQuantity * quantity := by
  have hbasis : q.inventoryCostBasisUsdt =
      p.inventoryCostBasisUsdt - position.entryPrice * quantity := by
    rw [h.costBasis_eq]
    split_ifs with h0
    · rw [max_self, hzero h0]
    · exact max_eq_left hnonneg
  refine ⟨hbasis, ?_⟩
  rw [ledgerGap, ledgerGap, hbasis]
  linarith [h.cash_eq]

/-! ### Opening a position -/

/-- The position that a buy opens has the amounts of the fill. -/
lemma materialize_books {request : VirtualRuntimeRequest} {decision : VirtualRuntimeDecision}
    {preview : VirtualFillPreview} {openedAt : ℤ} {positionId : Option String}
    {position : VirtualManagedPosition} (hex : request.Executes preview decision)
    (hspot : request.portfolio.market = .spot)
    (h : materializeManagedPosition request decision openedAt positionId = .ok position) :
    position.remainingQuantity = preview.filledQuantity ∧
      position.entryPrice * position.remainingQuantity = preview.grossNotionalUsdt ∧
      position.unbookedFee = preview.feeUsdt := by
  have heff := hex.fillEffect hspot
  simp only [materializeManagedPosition, hex.intent_eq, bind_eq_ok, orRaise_eq_ok,
    Option.some.injEq] at h
  obtain ⟨_, rfl, h⟩ := h
  obtain ⟨hprice, hfee, hinitial, -, hremaining, -⟩ := VirtualManagedPosition.create_books h
  have hr : position.remainingQuantity = preview.filledQuantity := hremaining
  have hi : position.initialQuantity = preview.filledQuantity := hinitial
  have hp : position.entryPrice = preview.executionPrice := hprice
  have hf : position.entryFeeUsdt = preview.feeUsdt := by
    rw [hfee, heff.fees_eq]
    ring
  refine ⟨hr, ?_, ?_⟩
  · rw [hp, hr, heff.filled.gross_eq]
  · rw [VirtualManagedPosition.unbookedFee, hf, hr, hi,
      mul_div_assoc, div_self heff.filled.quantity_pos.ne', mul_one]

/-! ### Runs of a desk -/

/-- The condition on a step, after the events `past`: an unmanaged buy is free
of fees, and a candle comes before any sell or for a position that was entered
at the average cost of the inventory. -/
def Accounted (past : List DeskEvent) (d : Desk) : DeskEvent → Prop
  | .fill request => request.action = .buy → request.feeRatio = 0
  | .openPosition .. => True
  | .candle index _ _ => (∀ e ∈ past, ¬ e.IsSell) ∨ ∀ position ∈ d.positions[index]?,
      position.entryPrice * d.portfolio.inventoryQuantity = d.portfolio.inventoryCostBasisUsdt

/-- An inventory and its cost are those of the managed positions, and of what
else was bought. -/
def Pool (d : Desk) (inventory costBasis : ℚ) : Prop :=
  ∃ u v, 0 ≤ u ∧ 0 ≤ v ∧ (u = 0 → v = 0) ∧ inventory = d.total (·.remainingQuantity) + u ∧
    costBasis = d.total (fun p => p.entryPrice * p.remainingQuantity) + v

/-- The invariant of a run with the events `past` from a wallet with gap `g`. -/
structure DeskInv (g : ℚ) (past : List DeskEvent) (d : Desk) : Prop where
  market_eq : d.portfolio.market = .spot
  gap_eq : ledgerGap d.portfolio = g + d.unbookedFees
  settled : d.portfolio.inventoryQuantity = 0 → d.portfolio.equityUsdt = d.portfolio.cashUsdt
  pooled : (∀ e ∈ past, ¬ e.IsSell) →
    Pool d d.portfolio.inventoryQuantity d.portfolio.inventoryCostBasisUsdt

/-- An amount of every managed position that is not negative adds up to one
that is not negative, and to zero only if it is zero for each. -/
lemma Desk.total_nonneg {f : VirtualManagedPosition → ℚ} (hf : ∀ p, 0 ≤ f p) (d : Desk) :
    0 ≤ d.total f :=
  List.sum_nonneg (by simpa using fun p _ => hf p)

lemma Desk.total_eq_zero_iff {f : VirtualManagedPosition → ℚ} (hf : ∀ p, 0 ≤ f p) (d : Desk) :
    d.total f = 0 ↔ ∀ p ∈ d.positions, f p = 0 := by
  obtain ⟨portfolio, positions⟩ := d
  rw [Desk.total]
  induction positions with
  | nil => simp
  | cons p positions ih =>
      have hrest : 0 ≤ (positions.map f).sum := List.sum_nonneg (by simpa using fun p _ => hf p)
      simp only [List.map_cons, List.sum_cons, List.forall_mem_cons, ← ih]
      constructor
      · intro h
        exact ⟨by linarith [hf p], by linarith [hf p]⟩
      · rintro ⟨h1, h2⟩
        rw [h1, h2, add_zero]

lemma VirtualManagedPosition.cost_nonneg (p : VirtualManagedPosition) :
    0 ≤ p.entryPrice * p.remainingQuantity :=
  mul_nonneg p.values_pos.1.le p.remaining_bounds.1

/-- A pool holds no negative cost, and none at all when it is empty. -/
lemma Pool.costBasis {d : Desk} {inventory costBasis : ℚ} (h : Pool d inventory costBasis) :
    0 ≤ costBasis ∧ (inventory = 0 → costBasis = 0) := by
  obtain ⟨u, v, hu, hv, huv, hinv, hbasis⟩ := h
  have hrem := d.total_nonneg (f := (·.remainingQuantity)) fun p => p.remaining_bounds.1
  have hcost := d.total_nonneg VirtualManagedPosition.cost_nonneg
  refine ⟨by linarith, fun h0 => ?_⟩
  have hrem0 : d.total (·.remainingQuantity) = 0 := by linarith
  have hcost0 : d.total (fun p => p.entryPrice * p.remainingQuantity) = 0 := by
    rw [Desk.total_eq_zero_iff VirtualManagedPosition.cost_nonneg]
    intro p hp
    rw [(Desk.total_eq_zero_iff (fun p => p.remaining_bounds.1) d).mp hrem0 p hp, mul_zero]
  rw [hbasis, hcost0, huv (by linarith), add_zero]

/-! ### The steps keep the invariant -/

lemma past_of_snoc {past : List DeskEvent} {e : DeskEvent}
    (h : ∀ e' ∈ past ++ [e], ¬ e'.IsSell) : ∀ e' ∈ past, ¬ e'.IsSell := fun e' he' =>
  h e' (List.mem_append_left _ he')

variable {g : ℚ} {past : List DeskEvent} {d d' : Desk}

lemma DeskInv.fill {request : VirtualRuntimeRequest} {q : VirtualPortfolioState}
    (hinv : DeskInv g past d) (h : SpotStep d.portfolio request q)
    (hacc : request.action = .buy → request.feeRatio = 0) :
    DeskInv g (past ++ [.fill request]) ⟨q, d.positions⟩ := by
  obtain ⟨preview, heff⟩ := spotStep_effect h
  refine ⟨heff.market_eq, ?_, fun h0 => ?_, fun hpast => ?_⟩
  · show ledgerGap q = g + d.unbookedFees
    rw [← hinv.gap_eq]
    rcases heff.action_eq with hbuy | hsell
    · rw [ledgerGap_buy heff h.1 hbuy, heff.filled.fee_eq, hacc hbuy, mul_zero, add_zero]
    · exact ledgerGap_sell heff h.1 hsell
  · have h0' : q.inventoryQuantity = 0 := h0
    show q.equityUsdt = q.cashUsdt
    rw [heff.equity_eq, h0', zero_mul, add_zero]
  · have hbuy : request.action = .buy :=
      heff.action_eq.resolve_right fun hsell => hpast (.fill request) (by simp) hsell
    obtain ⟨u, v, hu, hv, -, hi, hb⟩ := hinv.pooled (past_of_snoc hpast)
    obtain ⟨-, hiq, hbq, -, -⟩ := heff.buy h.1 hbuy
    have hpos := heff.filled.quantity_pos
    have hgross := heff.filled.gross_nonneg
    refine ⟨u + preview.filledQuantity, v + preview.grossNotionalUsdt, by linarith, by linarith,
      fun h0 => absurd h0 (by linarith), ?_, ?_⟩
    · show q.inventoryQuantity = d.total (·.remainingQuantity) + (u + preview.filledQuantity)
      linarith
    · show q.inventoryCostBasisUsdt = d.total (fun p => p.entryPrice * p.remainingQuantity) +
        (v + preview.grossNotionalUsdt)
      linarith

lemma Desk.total_append (f : VirtualManagedPosition → ℚ) (q : VirtualPortfolioState)
    (position : VirtualManagedPosition) :
    Desk.total f ⟨q, d.positions ++ [position]⟩ = d.total f + f position := by
  simp [Desk.total]

lemma DeskInv.openPosition {request : VirtualRuntimeRequest} {openedAt : ℤ}
    {positionId : Option String} {decision : VirtualRuntimeDecision}
    {position : VirtualManagedPosition} (hinv : DeskInv g past d)
    (hp : request.portfolio = d.portfolio) (hbuy : request.action = .buy)
    (hok : request.evaluate = .ok decision) (hready : decision.tradeIntent.isSome)
    (hposition : materializeManagedPosition request decision openedAt positionId = .ok position) :
    DeskInv g (past ++ [.openPosition request openedAt positionId])
      ⟨decision.portfolioAfter, d.positions ++ [position]⟩ := by
  obtain ⟨preview, hex⟩ := request.evaluate_orderReady hok hready
  have hspot : request.portfolio.market = .spot := by rw [hp, hinv.market_eq]
  have heff := hex.fillEffect hspot
  obtain ⟨hrem, hcost, hfee⟩ := materialize_books hex hspot hposition
  refine ⟨heff.market_eq, ?_, fun h0 => ?_, fun hpast => ?_⟩
  · rw [Desk.unbookedFees, Desk.total_append, hfee, ← add_assoc, ← Desk.unbookedFees,
      ← hinv.gap_eq, ← hp]
    exact ledgerGap_buy heff rfl hbuy
  · have h0' : decision.portfolioAfter.inventoryQuantity = 0 := h0
    show decision.portfolioAfter.equityUsdt = decision.portfolioAfter.cashUsdt
    rw [heff.equity_eq, h0', zero_mul, add_zero]
  · obtain ⟨u, v, hu, hv, huv, hi, hb⟩ := hinv.pooled (past_of_snoc hpast)
    obtain ⟨-, hiq, hbq, -, -⟩ := heff.buy rfl hbuy
    rw [hp] at hiq hbq
    refine ⟨u, v, hu, hv, huv, ?_, ?_⟩
    · rw [Desk.total_append, hrem]
      show decision.portfolioAfter.inventoryQuantity = _
      linarith
    · rw [Desk.total_append, hcost]
      show decision.portfolioAfter.inventoryCostBasisUsdt = _
      linarith

lemma Desk.total_set (f : VirtualManagedPosition → ℚ) (q : VirtualPortfolioState) {index : ℕ}
    {position after : VirtualManagedPosition} (h : d.positions[index]? = some position) :
    Desk.total f ⟨q, d.positions.set index after⟩ = d.total f - f position + f after :=
  sum_map_set f h

/-- The exits of a candle come out of the inventory and out of the cost of their
own position. -/
lemma Pool.candle {q : VirtualPortfolioState} {index : ℕ} {inventory costBasis quantity : ℚ}
    {position after : VirtualManagedPosition} (hpool : Pool d inventory costBasis)
    (hindex : d.positions[index]? = some position)
    (heff : CandleEffect d.portfolio position q after quantity) :
    Pool ⟨q, d.positions.set index after⟩ (inventory - quantity)
      (costBasis - position.entryPrice * quantity) := by
  obtain ⟨u, v, hu, hv, huv, hi, hb⟩ := hpool
  refine ⟨u, v, hu, hv, huv, ?_, ?_⟩
  · rw [Desk.total_set _ _ hindex, heff.remaining_eq, hi]
    ring
  · rw [Desk.total_set _ _ hindex, heff.entryPrice_eq, heff.remaining_eq, hb]
    ring

lemma DeskInv.candle {index : ℕ} {candle : OHLCVCandle} {context : VirtualExitContext}
    {position : VirtualManagedPosition} {decision : VirtualPositionUpdateDecision}
    (hinv : DeskInv g past d) (hindex : d.positions[index]? = some position)
    (hok : position.processPosition d.portfolio candle context none none = .ok decision)
    (hacc : Accounted past d (.candle index candle context)) :
    DeskInv g (past ++ [.candle index candle context])
      ⟨decision.portfolioAfter, d.positions.set index decision.positionAfter⟩ := by
  obtain ⟨quantity, heff⟩ := processPosition_effect hinv.market_eq hok
  -- the exits release what the cost basis holds for them
  have hrelease : 0 ≤ d.portfolio.inventoryCostBasisUsdt - position.entryPrice * quantity ∧
      (decision.portfolioAfter.inventoryQuantity = 0 →
        d.portfolio.inventoryCostBasisUsdt - position.entryPrice * quantity = 0) := by
    rw [heff.inventory_eq]
    rcases hacc with hpast | haverage
    · exact ((hinv.pooled hpast).candle hindex heff).costBasis
    · have hinventory := decision.portfolioAfter.balances_nonneg.2.1
      rw [heff.inventory_eq] at hinventory
      have hfactor : d.portfolio.inventoryCostBasisUsdt - position.entryPrice * quantity =
          position.entryPrice * (d.portfolio.inventoryQuantity - quantity) := by
        rw [← haverage position (by rw [hindex]; rfl)]
        ring
      rw [hfactor]
      exact ⟨mul_nonneg position.values_pos.1.le hinventory, fun h0 => by rw [h0, mul_zero]⟩
  obtain ⟨hbasis, hgap⟩ := heff.ledgerGap_eq hrelease.1 hrelease.2
  refine ⟨heff.market_eq, ?_, heff.settled, fun hpast => ?_⟩
  · rw [Desk.unbookedFees, Desk.total_set _ _ hindex, heff.unbookedFee_eq]
    show ledgerGap decision.portfolioAfter = _
    rw [hgap, hinv.gap_eq, Desk.unbookedFees]
    ring
  · show Pool _ decision.portfolioAfter.inventoryQuantity
      decision.portfolioAfter.inventoryCostBasisUsdt
    rw [heff.inventory_eq, hbasis]
    exact (hinv.pooled (past_of_snoc hpast)).candle hindex heff

/-- One accounted step keeps the invariant. -/
theorem DeskInv.step {e : DeskEvent} (hinv : DeskInv g past d) (h : DeskStep d e d')
    (hacc : Accounted past d e) : DeskInv g (past ++ [e]) d' := by
  cases h with
  | fill hstep => exact hinv.fill hstep hacc
  | openPosition hp _ hbuy hok hready hposition =>
      exact hinv.openPosition hp hbuy hok hready hposition
  | candle hindex _ hok => exact hinv.candle hindex hok hacc

/-- Every accounted run keeps the invariant. -/
theorem deskInv_of_run {p : VirtualPortfolioState} {l : List DeskEvent}
    (hinit : DeskInv (ledgerGap p) [] ⟨p, []⟩) (hrun : Run DeskStep ⟨p, []⟩ l d)
    (hacc : ∀ l₁ e l₂ s, l = l₁ ++ e :: l₂ → Run DeskStep ⟨p, []⟩ l₁ s → Accounted l₁ s e) :
    DeskInv (ledgerGap p) l d := by
  induction l using List.reverseRecOn generalizing d with
  | nil => rwa [← run_nil_iff.mp hrun]
  | append_singleton l e ih =>
      obtain ⟨s, hs, hstep⟩ := run_snoc_iff.mp hrun
      have hpre := ih hs fun l₁ e' l₂ s' hl hs' =>
        hacc l₁ e' (l₂ ++ [e]) s' (by rw [hl, List.append_assoc, List.cons_append]) hs'
      exact hpre.step hstep (hacc l e [] s rfl hs)

lemma VirtualManagedPosition.unbookedFee_nonneg (p : VirtualManagedPosition) :
    0 ≤ p.unbookedFee := by
  have hfee : 0 ≤ p.entryFeeUsdt := p.entryFee_nonneg
  exact div_nonneg (mul_nonneg hfee p.remaining_bounds.1) p.values_pos.2.1.le

lemma VirtualManagedPosition.unbookedFee_eq_zero_iff (p : VirtualManagedPosition) :
    p.unbookedFee = 0 ↔ p.entryFeeUsdt = 0 ∨ p.remainingQuantity = 0 := by
  rw [VirtualManagedPosition.unbookedFee, div_eq_zero_iff, mul_eq_zero,
    or_iff_left p.values_pos.2.1.ne']

/-- **When the ledger balances**: over every accounted run between two empty
wallets, the realized PnL and the equity change by the same amount if and only
if no managed position with a paid entry fee is left open. -/
theorem reconciles_iff {p : VirtualPortfolioState} {l : List DeskEvent} {d : Desk}
    (hspot : p.market = .spot) (hempty : p.inventoryQuantity = 0)
    (hequity : p.equityUsdt = p.cashUsdt) (hrun : Run DeskStep ⟨p, []⟩ l d)
    (hacc : ∀ l₁ e l₂ s, l = l₁ ++ e :: l₂ → Run DeskStep ⟨p, []⟩ l₁ s → Accounted l₁ s e)
    (hend : d.portfolio.inventoryQuantity = 0) :
    d.portfolio.realizedPnlUsdt - p.realizedPnlUsdt = d.portfolio.equityUsdt - p.equityUsdt ↔
      ∀ position ∈ d.positions, position.entryFeeUsdt = 0 ∨ position.remainingQuantity = 0 := by
  have hbasis : p.inventoryCostBasisUsdt = 0 := p.costBasis_eq_zero hspot hempty
  have hinit : DeskInv (ledgerGap p) [] ⟨p, []⟩ := by
    refine ⟨hspot, by simp [Desk.unbookedFees, Desk.total], fun _ => hequity, fun _ => ?_⟩
    exact ⟨0, 0, le_rfl, le_rfl, fun _ => rfl, by simp [Desk.total, hempty],
      by simp [Desk.total, hbasis]⟩
  have hinv := deskInv_of_run hinit hrun hacc
  have hgap := hinv.gap_eq
  rw [ledgerGap, ledgerGap, hbasis, ← hequity,
    d.portfolio.costBasis_eq_zero hinv.market_eq hend, ← hinv.settled hend] at hgap
  have hfees : d.portfolio.realizedPnlUsdt - p.realizedPnlUsdt =
      d.portfolio.equityUsdt - p.equityUsdt ↔ d.unbookedFees = 0 := by
    constructor
    · intro h
      linarith
    · intro h
      linarith
  rw [hfees, Desk.unbookedFees,
    Desk.total_eq_zero_iff VirtualManagedPosition.unbookedFee_nonneg]
  exact forall₂_congr fun position _ => position.unbookedFee_eq_zero_iff

/-! ### Two ways out of one buy

A unit is bought at 100 for a fee of 1.  It leaves through its managed position
when a candle reaches the target of 130, or through a sell at 110. -/

/-- The buy. -/
def feeBuy : VirtualRuntimeRequest :=
  ⟨unitRequest freshWallet .buy 100 90 (1 / 100), by decide +kernel⟩

/-- The wallet after it. -/
def feeWallet : VirtualPortfolioState where
  portfolioId := "virtual-spot"
  market := .spot
  cashUsdt := 899
  equityUsdt := 999
  highWatermarkUsdt := 1000
  maxDrawdownRatio := 1 / 1000
  inventoryQuantity := 1
  inventoryCostBasisUsdt := 100
  feesPaidUsdt := 1
  currentOpenRiskUsdt := 10
  openPositionCount := 1
  passes := by decide +kernel

/-- The sell, free of fees. -/
def freeSell : VirtualRuntimeRequest :=
  ⟨unitRequest feeWallet .sell 110 90 0, by decide +kernel⟩

/-- The wallet after the sell. -/
def soldFeeWallet : VirtualPortfolioState where
  portfolioId := "virtual-spot"
  market := .spot
  cashUsdt := 1009
  equityUsdt := 1009
  maxDrawdownRatio := 1 / 1000
  realizedPnlUsdt := 10
  feesPaidUsdt := 1
  currentOpenRiskUsdt := 20
  passes := by decide +kernel

/-- Sold through an evaluation, the wallet reports a profit of 10 and has gained
9: the fee of the buy is in no realized PnL. -/
theorem freeSell_forgets_entry_fee :
    freshWallet.inventoryQuantity = 0 ∧ freshWallet.equityUsdt = freshWallet.cashUsdt ∧
      Run DeskStep ⟨freshWallet, []⟩ [.fill feeBuy, .fill freeSell] ⟨soldFeeWallet, []⟩ ∧
      soldFeeWallet.inventoryQuantity = 0 ∧
      soldFeeWallet.realizedPnlUsdt - freshWallet.realizedPnlUsdt = 10 ∧
      soldFeeWallet.equityUsdt - freshWallet.equityUsdt = 9 := by
  refine ⟨rfl, rfl, ?_, rfl, by decide +kernel, by decide +kernel⟩
  have hbuy : SpotStep freshWallet feeBuy feeWallet := spotStep_of_evaluate rfl (by decide +kernel)
  have hsell : SpotStep feeWallet freeSell soldFeeWallet :=
    spotStep_of_evaluate rfl (by decide +kernel)
  exact .cons (.fill hbuy) (.single (.fill hsell))

/-- A candle that reaches the target. -/
def targetCandle : OHLCVCandle where
  timestamp := 60000000
  «open» := 120
  high := 130
  low := 119
  close := 125
  volume := 10
  nonneg := by norm_num
  low_le_high := by norm_num
  max_le_high := by norm_num
  low_le_min := by norm_num

/-- The buy opens a position, and the candle closes it and empties the wallet. -/
lemma managed_exit_runs : ∃ decision position update,
    feeBuy.evaluate = .ok decision ∧ decision.tradeIntent.isSome ∧
      materializeManagedPosition feeBuy decision 0 none = .ok position ∧
      position.processPosition decision.portfolioAfter targetCandle {} none none = .ok update ∧
      update.portfolioAfter.inventoryQuantity = 0 ∧
      update.positionAfter.remainingQuantity = 0 := by
  have h : (feeBuy.evaluate.toOption.bind fun decision =>
      (materializeManagedPosition feeBuy decision 0 none).toOption.bind fun position =>
        (position.processPosition decision.portfolioAfter targetCandle {} none none).toOption.map
          fun u => (decision.tradeIntent.isSome, u.portfolioAfter.inventoryQuantity,
            u.positionAfter.remainingQuantity)) = some (true, 0, 0) := by decide +kernel
  obtain ⟨decision, hd, h⟩ := Option.bind_eq_some_iff.mp h
  obtain ⟨position, hp, h⟩ := Option.bind_eq_some_iff.mp h
  obtain ⟨update, hu, h⟩ := Option.map_eq_some_iff.mp h
  obtain ⟨hready, hinventory, hremaining⟩ :
      decision.tradeIntent.isSome = true ∧ update.portfolioAfter.inventoryQuantity = 0 ∧
        update.positionAfter.remainingQuantity = 0 := by
    simpa using h
  exact ⟨decision, position, update, toOption_eq_some.mp hd, hready, toOption_eq_some.mp hp,
    toOption_eq_some.mp hu, hinventory, hremaining⟩

/-- Managed, the wallet gains exactly what it realizes. -/
theorem managed_exit_reconciles :
    ∃ d, Run DeskStep ⟨freshWallet, []⟩
        [.openPosition feeBuy 0 none, .candle 0 targetCandle {}] d ∧
      d.portfolio.realizedPnlUsdt - freshWallet.realizedPnlUsdt =
        d.portfolio.equityUsdt - freshWallet.equityUsdt := by
  obtain ⟨decision, position, update, hd, hready, hp, hu, hinventory, hremaining⟩ :=
    managed_exit_runs
  have hspot : decision.portfolioAfter.market = .spot := by
    obtain ⟨preview, hex⟩ := feeBuy.evaluate_orderReady hd hready
    exact (hex.fillEffect rfl).market_eq
  have hrun : Run DeskStep ⟨freshWallet, []⟩
      [.openPosition feeBuy 0 none, .candle 0 targetCandle {}]
      ⟨update.portfolioAfter, [update.positionAfter]⟩ :=
    .cons (.openPosition rfl rfl rfl hd hready hp) (.single (.candle rfl hspot hu))
  refine ⟨_, hrun, (reconciles_iff rfl rfl rfl hrun (fun l₁ e l₂ s hl _ => ?_) hinventory).mpr
    fun position' hmem => ?_⟩
  · -- no event of the run is a sell
    have hsells : ∀ e' ∈ l₁ ++ e :: l₂, ¬ e'.IsSell := by
      rw [← hl]
      simp [DeskEvent.IsSell]
    cases e with
    | fill request =>
        have hmem : DeskEvent.fill request ∈ l₁ ++ .fill request :: l₂ := by simp
        rw [← hl] at hmem
        simp at hmem
    | openPosition request openedAt positionId => trivial
    | candle index candle context =>
        exact .inl fun e' he' => hsells e' (List.mem_append_left _ he')
  · rw [List.mem_singleton.mp hmem]
    exact .inr hremaining

end Ai4Binance
