/-
The books of a paper position (`domain/research/paper_lifecycle.py`) over its whole life.

The engine works in the decimal context, which rounds every result (`Arithmetic`).  Which
exits a position has does not depend on the rounding; that the amounts add up does.

* `PaperOrder`, `openPosition`: the position that a filled order opens;
* `Arithmetic.processCandle`: one candle, with every operation rounded;
* `Exits`, `processCandle_induction`: a candle is a sequence of exits, each of the next
  target or of the stop, and a move of the trailing stop;
* `Held`: the positions reached from an opened one;
* `TakesTargets`: the targets are taken in order, each once, under any rounding;
* `Balanced`: quantities and PnL add up, in exact arithmetic;
* `paper_position_conserves`: **the books of a paper position**;
* `decimal_position_unbalanced`: what the rounding of the decimal context breaks.
-/
import Ai4Binance.Backtesting.SpotConservation
import Ai4Binance.Virtual.SpotProgress

open Text Check

namespace Ai4Binance

/-! ### Opening a position -/

/-- `PaperOrderStatus`. -/
inductive PaperOrderStatus where
  | filled
  | rejected
  deriving DecidableEq, Repr

/-- `PaperOrder`, with the checks of its constructor as fields. -/
structure PaperOrder where
  candidateId : String
  timestamp : ℤ
  symbol : String
  action : Action
  status : PaperOrderStatus
  quantity : ℚ
  requestedPrice : ℚ
  fillPrice : ℚ
  feeUsdt : ℚ
  blockers : List String := []
  nonneg : 0 ≤ quantity ∧ 0 ≤ requestedPrice ∧ 0 ≤ fillPrice ∧ 0 ≤ feeUsdt
  unblocked : status = .filled → blockers = []

/-- `open_position`. -/
def openPosition (order : PaperOrder) (stopLoss atr : ℚ) (plan : StagedExitPlan) :
    Except PyError LifecyclePosition := do
  raiseIf (order.status ≠ .filled) (.value "only filled paper orders can open positions")
  raiseIf (order.action ≠ .buy) (.value "paper lifecycle currently supports Spot BUY positions")
  raiseIf (order.fillPrice ≤ stopLoss) (.value "long stop loss must remain below entry")
  raiseIf (plan.targets.any (· ≤ order.fillPrice))
    (.value "long staged targets must remain above entry")
  LifecyclePosition.create
    { positionId := "paper:" ++ order.candidateId
      candidateId := order.candidateId
      symbol := order.symbol
      openedAt := order.timestamp
      entryPrice := order.fillPrice
      entryFeeUsdt := order.feeUsdt
      initialQuantity := order.quantity
      remainingQuantity := order.quantity
      stopLoss
      trailingStop := stopLoss
      atr
      plan }

/-! ### The engine in rounded arithmetic -/

namespace Arithmetic

variable (a : Arithmetic) (engine : PaperLifecycleEngine)

/-- `update_long_trailing_stop(…).new_stop`. -/
def updateLongTrailingStop (previousStop currentPrice currentAtr multiplier tickSize : ℚ) :
    Except PyError ℚ := do
  raiseIf ([previousStop, currentPrice, currentAtr, multiplier, tickSize].any (· ≤ 0))
    (.value "trailing-stop inputs must be positive")
  raiseIf (currentPrice ≤ previousStop)
    (.value "previous_stop must remain below current_price")
  let candidate := a.sub currentPrice (a.mul multiplier currentAtr)
  return max previousStop (a.mul (Rounding.down.toInt (a.div candidate tickSize)) tickSize)

/-- `_apply_exit`. -/
def applyExit (position : LifecyclePosition) (timestamp : ℤ) (reason : ExitReason)
    (price quantity : ℚ) (context : ClosureContext) (nextTargetIndex : ℕ) :
    Except PyError LifecyclePosition := do
  let fee := a.mul (a.mul price quantity) engine.feeRatio
  let allocatedEntryFee := a.div (a.mul position.entryFeeUsdt quantity) position.initialQuantity
  let pnl := a.sub (a.sub (a.mul (a.sub price position.entryPrice) quantity) fee) allocatedEntryFee
  let remaining := a.sub position.remainingQuantity quantity
  let exitEvent ← LifecycleExit.create timestamp reason price quantity fee pnl
  LifecyclePosition.create
    { position.toLifecycleFields with
      remainingQuantity := remaining
      status := if remaining = 0 then .closed else .partiallyClosed
      nextTargetIndex
      realizedPnlUsdt := a.add position.realizedPnlUsdt pnl
      exits := position.exits ++ [exitEvent]
      closureReview :=
        if remaining = 0 then
          some (PaperLifecycleEngine.review reason context
            (position.exits ≠ [] || reason = .takeProfitExit))
        else none }

/-- `_close_remaining`. -/
def closeRemaining (position : LifecyclePosition) (timestamp : ℤ) (reason : ExitReason)
    (price : ℚ) (context : ClosureContext) : Except PyError LifecyclePosition :=
  a.applyExit engine position timestamp reason price position.remainingQuantity context
    position.nextTargetIndex

/-- The loop over the targets from the next one on. -/
def takeTargets (candle : OHLCVCandle) (context : ClosureContext) :
    List (ℚ × ℚ) → LifecyclePosition → Except PyError LifecyclePosition
  | [], position => .ok position
  | (target, ratio) :: rest, position =>
      if candle.high < target then .ok position
      else do
        let updated ← a.applyExit engine position candle.timestamp .takeProfitExit
          (a.mul target (a.sub 1 engine.slippageRatio))
          (min (a.mul position.initialQuantity ratio) position.remainingQuantity) context
          (position.nextTargetIndex + 1)
        if updated.status = .closed then .ok updated
        else takeTargets candle context rest updated

/-- The trailing stop moved by the close of a candle. -/
def trail (position : LifecyclePosition) (candle : OHLCVCandle) :
    Except PyError LifecyclePosition := do
  let trailing ← a.updateLongTrailingStop position.trailingStop candle.close position.atr
    engine.trailingMultiplier engine.tickSize
  LifecyclePosition.create { position.toLifecycleFields with trailingStop := trailing }

/-- `process_candle`. -/
def processCandle (position : LifecyclePosition) (candle : OHLCVCandle)
    (context : ClosureContext) : Except PyError LifecyclePosition := do
  raiseIf (position.status = .closed) (.value "closed paper position cannot process candles")
  raiseIf (candle.timestamp < position.openedAt)
    (.value "paper candle cannot precede position open time")
  let effectiveStop := max position.stopLoss position.trailingStop
  if candle.low ≤ effectiveStop then
    a.closeRemaining engine position candle.timestamp
      (if position.stopLoss < position.trailingStop then .trailingStopExit else .stopLossExit)
      (a.mul (min candle.open effectiveStop) (a.sub 1 engine.slippageRatio)) context
  else
    let updated ← a.takeTargets engine candle context
      (PaperLifecycleEngine.openTargets position) position
    if updated.status = .closed then return updated
    else a.trail engine updated candle

/-! Without rounding this is the engine of the virtual positions. -/

lemma exact_applyExit : exact.applyExit engine = engine.applyExit := rfl

lemma exact_takeTargets (candle : OHLCVCandle) (context : ClosureContext) :
    exact.takeTargets engine candle context = engine.takeTargets candle context := by
  funext targets
  induction targets with
  | nil => rfl
  | cons t rest ih =>
      funext position
      simp only [takeTargets, PaperLifecycleEngine.takeTargets, ih]
      rfl

lemma exact_processCandle : exact.processCandle engine = engine.processCandle := by
  funext position candle context
  rw [processCandle, exact_takeTargets]
  rfl

/-! ### What a candle does -/

/-- An exit of a candle: the next target with its share, or the stop with all that
remains. -/
inductive Exits (p : LifecyclePosition) : ExitReason → ℚ → ℚ → ℕ → Prop
  | target {target ratio : ℚ}
      (next : (p.plan.targets.zip p.plan.quantityRatios)[p.nextTargetIndex]? =
        some (target, ratio)) :
      Exits p .takeProfitExit (a.mul target (a.sub 1 engine.slippageRatio))
        (min (a.mul p.initialQuantity ratio) p.remainingQuantity) (p.nextTargetIndex + 1)
  | stop {reason : ExitReason} {price : ℚ} (stopped : reason ≠ .takeProfitExit) :
      Exits p reason price p.remainingQuantity p.nextTargetIndex

variable {a engine} {p q : LifecyclePosition} {candle : OHLCVCandle} {context : ClosureContext}

/-- The fields that an exit writes. -/
lemma applyExit_fields {timestamp : ℤ} {reason : ExitReason} {price quantity : ℚ} {index : ℕ}
    (h : a.applyExit engine p timestamp reason price quantity context index = .ok q) :
    ∃ e : LifecycleExit, e.reason = reason ∧ e.price = price ∧ e.quantity = quantity ∧
      e.netPnlUsdt = a.sub (a.sub (a.mul (a.sub price p.entryPrice) quantity) e.feeUsdt)
        (a.div (a.mul p.entryFeeUsdt quantity) p.initialQuantity) ∧
      ∃ review, q.toLifecycleFields =
        { p.toLifecycleFields with
          remainingQuantity := a.sub p.remainingQuantity quantity
          status := if a.sub p.remainingQuantity quantity = 0 then .closed else .partiallyClosed
          nextTargetIndex := index
          realizedPnlUsdt := a.add p.realizedPnlUsdt e.netPnlUsdt
          exits := p.exits ++ [e]
          closureReview := review } := by
  simp only [applyExit, bind_eq_ok] at h
  obtain ⟨e, he, hq⟩ := h
  rw [LifecyclePosition.create_eq_ok] at hq
  rw [LifecycleExit.create] at he
  split_ifs at he
  obtain rfl := Except.ok.inj he
  exact ⟨⟨timestamp, reason, price, quantity, _, _, by assumption⟩, rfl, rfl, rfl, rfl, _, hq⟩

lemma openTargets_cons {target ratio : ℚ} {rest : List (ℚ × ℚ)}
    (h : PaperLifecycleEngine.openTargets p = (target, ratio) :: rest) :
    (p.plan.targets.zip p.plan.quantityRatios)[p.nextTargetIndex]? = some (target, ratio) ∧
      (p.plan.targets.zip p.plan.quantityRatios).drop (p.nextTargetIndex + 1) = rest := by
  rw [PaperLifecycleEngine.openTargets] at h
  constructor
  · rw [← List.head?_drop, h, List.head?_cons]
  · rw [← List.tail_drop, h, List.tail_cons]

lemma takeTargets_induction {I : LifecyclePosition → Prop}
    (hexit : ∀ {p q : LifecyclePosition} {timestamp : ℤ} {reason : ExitReason} {price quantity : ℚ}
      {context : ClosureContext} {index : ℕ}, I p → Exits a engine p reason price quantity index →
      a.applyExit engine p timestamp reason price quantity context index = .ok q → I q)
    {targets : List (ℚ × ℚ)} (htargets : PaperLifecycleEngine.openTargets p = targets) (hp : I p)
    (h : a.takeTargets engine candle context targets p = .ok q) : I q := by
  induction targets generalizing p with
  | nil =>
      obtain rfl := Except.ok.inj h
      exact hp
  | cons t rest ih =>
      obtain ⟨target, ratio⟩ := t
      rw [takeTargets] at h
      split_ifs at h
      · obtain rfl := Except.ok.inj h
        exact hp
      · obtain ⟨updated, hu, h⟩ := bind_eq_ok.mp h
        obtain ⟨hnext, hrest⟩ := openTargets_cons htargets
        have hupdated : I updated := hexit hp (.target hnext) hu
        split_ifs at h
        · obtain rfl := Except.ok.inj h
          exact hupdated
        · obtain ⟨e, -, -, -, -, review, hfields⟩ := applyExit_fields hu
          refine ih ?_ hupdated h
          rw [PaperLifecycleEngine.openTargets, hfields]
          exact hrest

/-- **One candle.**  What the exits and the moves of the trailing stop preserve, a candle
preserves. -/
theorem processCandle_induction {I : LifecyclePosition → Prop}
    (hexit : ∀ {p q : LifecyclePosition} {timestamp : ℤ} {reason : ExitReason} {price quantity : ℚ}
      {context : ClosureContext} {index : ℕ}, I p → Exits a engine p reason price quantity index →
      a.applyExit engine p timestamp reason price quantity context index = .ok q → I q)
    (htrail : ∀ {p q : LifecyclePosition} {trailing : ℚ}, I p →
      q.toLifecycleFields = { p.toLifecycleFields with trailingStop := trailing } → I q)
    (hp : I p) (h : a.processCandle engine p candle context = .ok q) : I q := by
  simp only [processCandle, bind_eq_ok, raiseIf_eq_ok] at h
  obtain ⟨_, -, _, -, h⟩ := h
  by_cases hstop : candle.low ≤ max p.stopLoss p.trailingStop
  · rw [if_pos hstop] at h
    refine hexit hp (.stop ?_) h
    split_ifs
    · rintro ⟨⟩
    · rintro ⟨⟩
  · rw [if_neg hstop] at h
    obtain ⟨updated, hu, h⟩ := bind_eq_ok.mp h
    have hupdated : I updated := takeTargets_induction hexit rfl hp hu
    split_ifs at h
    · obtain rfl := pure_eq_ok.mp h
      exact hupdated
    · simp only [trail, bind_eq_ok] at h
      obtain ⟨trailing, -, hq⟩ := h
      exact htrail hupdated (LifecyclePosition.create_eq_ok.mp hq)

end Arithmetic

/-! ### The life of a position -/

/-- The positions that candles carry an opened position to.  A candle before the opening,
or after the closing, is refused. -/
inductive Held (a : Arithmetic) (engine : PaperLifecycleEngine) (opened : LifecyclePosition) :
    LifecyclePosition → Prop
  | opened : Held a engine opened opened
  | candle {p q : LifecyclePosition} (candle : OHLCVCandle) (context : ClosureContext)
      (held : Held a engine opened p) (processed : a.processCandle engine p candle context = .ok q) :
      Held a engine opened q

/-- The targets taken: one exit for each of the first ones, in their order. -/
structure TakesTargets (a : Arithmetic) (engine : PaperLifecycleEngine)
    (opened p : LifecyclePosition) : Prop where
  plan_eq : p.plan = opened.plan
  index_le : p.nextTargetIndex ≤ opened.plan.targets.length
  taken : (p.exits.filter (·.reason = .takeProfitExit)).map (·.price) =
    (opened.plan.targets.take p.nextTargetIndex).map fun target =>
      a.mul target (a.sub 1 engine.slippageRatio)

/-- The books of a position: its quantities, its realized PnL, and the cash of a closed
position. -/
structure Balanced (opened p : LifecyclePosition) : Prop where
  quantity : p.remainingQuantity + (p.exits.map (·.quantity)).sum = opened.initialQuantity
  realized : p.realizedPnlUsdt = (p.exits.map (·.netPnlUsdt)).sum
  closed : p.status = .closed → p.realizedPnlUsdt =
    (p.exits.map fun e => e.price * e.quantity - e.feeUsdt).sum -
      opened.entryPrice * opened.initialQuantity - opened.entryFeeUsdt

section Life

variable {a : Arithmetic} {engine : PaperLifecycleEngine} {order : PaperOrder} {stopLoss atr : ℚ}
  {plan : StagedExitPlan} {opened p : LifecyclePosition}

/-- What candles preserve of an opened position, they have preserved of every held one. -/
lemma Held.induction {I : LifecyclePosition → Prop} (hopened : I opened)
    (hstep : ∀ {p q : LifecyclePosition} {candle : OHLCVCandle} {context : ClosureContext}, I p →
      a.processCandle engine p candle context = .ok q → I q)
    (h : Held a engine opened p) : I p := by
  induction h with
  | opened => exact hopened
  | candle candle context _ hprocessed ih => exact hstep ih hprocessed

lemma openPosition_fields (h : openPosition order stopLoss atr plan = .ok opened) :
    opened.remainingQuantity = opened.initialQuantity ∧ opened.exits = [] ∧
      opened.realizedPnlUsdt = 0 ∧ opened.nextTargetIndex = 0 ∧ opened.status = .open := by
  simp only [openPosition, bind_eq_ok, LifecyclePosition.create_eq_ok] at h
  obtain ⟨_, -, _, -, _, -, _, -, hq⟩ := h
  rw [hq]
  exact ⟨rfl, rfl, rfl, rfl, rfl⟩

/-! ### Targets in their order -/

/-- An exit takes the next target, or none at the stop. -/
lemma TakesTargets.exit {q : LifecyclePosition} {timestamp : ℤ} {reason : ExitReason}
    {price quantity : ℚ} {context : ClosureContext} {index : ℕ} (hp : TakesTargets a engine opened p)
    (hexits : a.Exits engine p reason price quantity index)
    (h : a.applyExit engine p timestamp reason price quantity context index = .ok q) :
    TakesTargets a engine opened q := by
  obtain ⟨e, hreason, hprice, -, -, review, hfields⟩ := Arithmetic.applyExit_fields h
  cases hexits with
  | @target target ratio hnext =>
      obtain ⟨hhead, -⟩ := List.getElem?_zip_eq_some.mp hnext
      rw [hp.plan_eq] at hhead
      have hlt : p.nextTargetIndex < opened.plan.targets.length :=
        (List.getElem?_eq_some_iff.mp hhead).1
      refine ⟨?_, ?_, ?_⟩
      · rw [hfields]
        exact hp.plan_eq
      · rw [hfields]
        exact hlt
      · rw [hfields]
        change ((p.exits ++ [e]).filter _).map _ = (opened.plan.targets.take (p.nextTargetIndex + 1)).map _
        rw [List.take_add_one, hhead, List.filter_append, List.map_append, List.map_append, hp.taken]
        simp [hreason, hprice]
  | stop hstopped =>
      refine ⟨?_, ?_, ?_⟩
      · rw [hfields]
        exact hp.plan_eq
      · rw [hfields]
        exact hp.index_le
      · rw [hfields]
        change ((p.exits ++ [e]).filter _).map _ = _
        rw [List.filter_append, List.map_append, hp.taken]
        simp [hreason, hstopped]

/-- A held position has taken its first targets, each once and in their order. -/
lemma Held.takesTargets (hopened : openPosition order stopLoss atr plan = .ok opened)
    (h : Held a engine opened p) : TakesTargets a engine opened p := by
  obtain ⟨-, hexits, -, hindex, -⟩ := openPosition_fields hopened
  refine h.induction ⟨rfl, ?_, ?_⟩ fun hp hq =>
    Arithmetic.processCandle_induction TakesTargets.exit ?_ hp hq
  · rw [hindex]
    exact Nat.zero_le _
  · rw [hexits, hindex]
    rfl
  · intro p q trailing hp hfields
    refine ⟨?_, ?_, ?_⟩
    · rw [hfields]
      exact hp.plan_eq
    · rw [hfields]
      exact hp.index_le
    · rw [hfields]
      exact hp.taken

/-! ### Books that add up -/

/-- The books of a held position in exact arithmetic: the terms of the opening stay, and every
exit has its net PnL. -/
structure KeepsBooks (opened p : LifecyclePosition) : Prop where
  entryPrice_eq : p.entryPrice = opened.entryPrice
  entryFee_eq : p.entryFeeUsdt = opened.entryFeeUsdt
  initialQuantity_eq : p.initialQuantity = opened.initialQuantity
  openedAt_eq : p.openedAt = opened.openedAt
  quantity : p.remainingQuantity + (p.exits.map (·.quantity)).sum = opened.initialQuantity
  realized : p.realizedPnlUsdt = (p.exits.map (·.netPnlUsdt)).sum
  netPnl : ∀ e ∈ p.exits, opened.NetPnl e

lemma KeepsBooks.exit {q : LifecyclePosition} {timestamp : ℤ} {reason : ExitReason}
    {price quantity : ℚ} {context : ClosureContext} {index : ℕ} (hp : KeepsBooks opened p)
    (h : Arithmetic.exact.applyExit engine p timestamp reason price quantity context index =
      .ok q) : KeepsBooks opened q := by
  obtain ⟨e, -, hprice, hquantity, hnet, review, hfields⟩ := Arithmetic.applyExit_fields h
  simp only [Arithmetic.exact_sub, Arithmetic.exact_mul, Arithmetic.exact_div,
    Arithmetic.exact_add] at hnet hfields
  have hexits : q.exits = p.exits ++ [e] := by rw [hfields]
  refine ⟨?_, ?_, ?_, ?_, ?_, ?_, fun e' he' => ?_⟩
  · rw [hfields]
    exact hp.entryPrice_eq
  · rw [hfields]
    exact hp.entryFee_eq
  · rw [hfields]
    exact hp.initialQuantity_eq
  · rw [hfields]
    exact hp.openedAt_eq
  · rw [hexits, hfields, ← hp.quantity]
    simp only [List.map_append, List.sum_append, List.map_cons, List.map_nil, List.sum_singleton,
      hquantity]
    ring
  · rw [hexits, hfields]
    simp only [List.map_append, List.sum_append, List.map_cons, List.map_nil, List.sum_singleton,
      hp.realized]
  · rw [hexits] at he'
    rcases List.mem_append.mp he' with he' | he'
    · exact hp.netPnl e' he'
    · rw [List.mem_singleton.mp he', LifecyclePosition.NetPnl, hnet, hprice, hquantity,
        hp.entryPrice_eq, hp.entryFee_eq, hp.initialQuantity_eq]

lemma Held.keepsBooks (hopened : openPosition order stopLoss atr plan = .ok opened)
    (h : Held .exact engine opened p) : KeepsBooks opened p := by
  obtain ⟨hremaining, hexits, hrealized, -, -⟩ := openPosition_fields hopened
  refine h.induction ⟨rfl, rfl, rfl, rfl, ?_, ?_, ?_⟩ fun hp hq =>
    Arithmetic.processCandle_induction (fun hp _ hq => hp.exit hq) ?_ hp hq
  · simp [hremaining, hexits]
  · simp [hrealized, hexits]
  · simp [hexits]
  · intro p q trailing hp hfields
    constructor <;> rw [hfields]
    exacts [hp.entryPrice_eq, hp.entryFee_eq, hp.initialQuantity_eq, hp.openedAt_eq, hp.quantity,
      hp.realized, hp.netPnl]

/-- The net PnL of exits: their cash, less the entry of their quantity. -/
lemma sum_exit_netPnl {exits : List LifecycleExit} (h : ∀ e ∈ exits, opened.NetPnl e) :
    (exits.map (·.netPnlUsdt)).sum = (exits.map fun e => e.price * e.quantity - e.feeUsdt).sum -
      (opened.entryPrice + opened.entryFeeUsdt / opened.initialQuantity) *
        (exits.map (·.quantity)).sum := by
  induction exits with
  | nil => simp
  | cons e exits ih =>
      have hnet := h e List.mem_cons_self
      rw [LifecyclePosition.NetPnl] at hnet
      simp only [List.map_cons, List.sum_cons, ih fun e' he' => h e' (List.mem_cons_of_mem _ he'),
        hnet]
      ring

lemma KeepsBooks.balanced (h : KeepsBooks opened p) : Balanced opened p := by
  refine ⟨h.quantity, h.realized, fun hclosed => ?_⟩
  have hp := p.passes
  simp only [LifecycleFields.checks, passes_cons, decide_eq_false_iff_not, not_or, not_lt,
    not_and, not_not] at hp
  have hall : (p.exits.map (·.quantity)).sum = opened.initialQuantity := by
    rw [← h.quantity, hp.2.2.2.2.1 hclosed, zero_add]
  have hinitial : opened.initialQuantity ≠ 0 := by
    have hopened := opened.passes
    simp only [LifecycleFields.checks, passes_cons, decide_eq_false_iff_not, not_or, List.any_cons,
      Bool.or_eq_true, decide_eq_true_eq, not_le] at hopened
    exact hopened.2.2.1.2.2.1.ne'
  rw [h.realized, sum_exit_netPnl h.netPnl, hall, add_mul, div_mul_cancel₀ _ hinitial]
  ring

end Life

/-! ### No candle is refused -/

namespace PaperLifecycleEngine

variable {engine : PaperLifecycleEngine} {p : LifecyclePosition} {candle : OHLCVCandle}

/-- An exit of at most what remains is accepted. -/
lemma applyExit_ok {price quantity : ℚ} (hfee : 0 ≤ engine.feeRatio) (hprice : 0 ≤ price)
    (hquantity : 0 ≤ quantity) (hle : quantity ≤ p.remainingQuantity) (timestamp : ℤ)
    (reason : ExitReason) (context : ClosureContext) (index : ℕ) :
    ∃ q, engine.applyExit p timestamp reason price quantity context index = .ok q := by
  have hnonneg : 0 ≤ price ∧ 0 ≤ quantity ∧ 0 ≤ price * quantity * engine.feeRatio :=
    ⟨hprice, hquantity, by positivity⟩
  have hp := p.passes
  simp only [LifecycleFields.checks, passes_cons, decide_eq_false_iff_not, not_or, not_lt] at hp
  obtain ⟨hid, hsymbol, hvalues, ⟨-, hinitial⟩, -⟩ := hp
  simp only [applyExit, LifecycleExit.create, dif_pos hnonneg, ok_bind]
  rw [LifecyclePosition.create, dif_pos]
  · exact ⟨_, rfl⟩
  · simp only [LifecycleFields.checks, passes_cons, passes_nil, decide_eq_false_iff_not, not_or,
      not_lt, not_and, not_not]
    refine ⟨hid, hsymbol, hvalues, ⟨sub_nonneg.mpr hle, by linarith⟩, ?_, ?_, trivial⟩
    · intro hclosed
      by_contra hne
      rw [if_neg hne] at hclosed
      exact absurd hclosed nofun
    · intro hopen hzero
      exact hopen (if_pos hzero)

/-- The targets that a candle reaches are taken, and leave the trailing stop. -/
lemma takeTargets_ok (hengine : Passes engine.checks) (context : ClosureContext)
    {targets : List (ℚ × ℚ)} (hpos : ∀ t ∈ targets, 0 < t.1 ∧ 0 < t.2) :
    ∃ q, engine.takeTargets candle context targets p = .ok q ∧ q.trailingStop = p.trailingStop := by
  have hchecks := hengine
  simp only [PaperLifecycleEngine.checks, passes_cons, decide_eq_false_iff_not, not_or,
    not_lt] at hchecks
  obtain ⟨⟨hfee, -⟩, ⟨-, hslip⟩, -⟩ := hchecks
  induction targets generalizing p with
  | nil => exact ⟨p, rfl, rfl⟩
  | cons t rest ih =>
      obtain ⟨target, ratio⟩ := t
      obtain ⟨htarget, hratio⟩ := hpos _ List.mem_cons_self
      rw [takeTargets]
      split_ifs
      · exact ⟨p, rfl, rfl⟩
      · have hp := p.passes
        simp only [LifecycleFields.checks, passes_cons, decide_eq_false_iff_not, not_or, not_lt] at hp
        have hremaining := hp.2.2.2.1
        have hquantity : 0 ≤ min (p.initialQuantity * ratio) p.remainingQuantity :=
          le_min (mul_nonneg (hremaining.1.trans hremaining.2) hratio.le) hremaining.1
        have hprice : 0 ≤ target * (1 - engine.slippageRatio) :=
          mul_nonneg htarget.le (by linarith)
        obtain ⟨updated, hupdated⟩ := applyExit_ok hfee hprice hquantity (min_le_right _ _)
          candle.timestamp .takeProfitExit context (p.nextTargetIndex + 1)
        rw [hupdated, ok_bind]
        have htrailing : updated.trailingStop = p.trailingStop := by
          rw [← Arithmetic.exact_applyExit] at hupdated
          obtain ⟨e, -, -, -, -, review, hfields⟩ := Arithmetic.applyExit_fields hupdated
          rw [hfields]
        split_ifs
        · exact ⟨updated, rfl, htrailing⟩
        · obtain ⟨q, hq, hstop⟩ := ih (p := updated) fun t ht => hpos t (List.mem_cons_of_mem _ ht)
          exact ⟨q, hq, hstop.trans htrailing⟩

lemma openTargets_pos {t : ℚ × ℚ} (ht : t ∈ openTargets p) : 0 < t.1 ∧ 0 < t.2 := by
  have hplan := p.plan.passes
  simp only [stagedExitChecks, passes_cons, decide_eq_false_iff_not, List.any_eq_false,
    List.mem_append, decide_eq_true_eq, not_le] at hplan
  obtain ⟨htarget, hratio⟩ := List.of_mem_zip (List.mem_of_mem_drop ht)
  exact ⟨hplan.2.1 _ (.inl htarget), hplan.2.1 _ (.inr hratio)⟩

/-- An open position takes every candle at or after its opening. -/
theorem processCandle_ok (hengine : Passes engine.checks) (hopen : p.status ≠ .closed)
    (htime : p.openedAt ≤ candle.timestamp) (context : ClosureContext) :
    ∃ q, engine.processCandle p candle context = .ok q := by
  have hchecks := hengine
  simp only [PaperLifecycleEngine.checks, passes_cons, decide_eq_false_iff_not, not_or,
    not_lt] at hchecks
  obtain ⟨⟨hfee, -⟩, ⟨-, hslip⟩, -⟩ := hchecks
  simp only [processCandle, raiseIf_of_not hopen, raiseIf_of_not (not_lt.mpr htime), ok_bind]
  by_cases hstop : candle.low ≤ max p.stopLoss p.trailingStop
  · simp only [if_pos hstop]
    have hprice : 0 ≤ min candle.open (max p.stopLoss p.trailingStop) :=
      le_min candle.nonneg.1 (candle.nonneg.2.2.1.trans hstop)
    have hp := p.passes
    simp only [LifecycleFields.checks, passes_cons, decide_eq_false_iff_not, not_or, not_lt] at hp
    exact applyExit_ok hfee (mul_nonneg hprice (by linarith)) hp.2.2.2.1.1 le_rfl _ _ _ _
  · simp only [if_neg hstop]
    obtain ⟨updated, hupdated, htrailing⟩ :
        ∃ q, engine.takeTargets candle context (openTargets p) p = .ok q ∧
          q.trailingStop = p.trailingStop :=
      takeTargets_ok hengine context fun t ht => openTargets_pos ht
    rw [hupdated, ok_bind]
    split_ifs
    · exact ⟨updated, rfl⟩
    · obtain ⟨q, hq, -⟩ := trail_held hengine
        (htrailing ▸ (le_max_right _ _).trans_lt (not_le.mp hstop))
      exact ⟨q, hq⟩

end PaperLifecycleEngine

/-- **The books of a paper position.**  Over every run from an opened position the targets are
taken in their order, each at most once, whatever the rounding.  In exact arithmetic no candle at
or after the opening is refused while the position is open, and its quantities, its realized PnL
and, once it is closed, its cash add up. -/
theorem paper_position_conserves {engine : PaperLifecycleEngine} (hengine : Passes engine.checks)
    {order : PaperOrder} {stopLoss atr : ℚ} {plan : StagedExitPlan} {opened : LifecyclePosition}
    (hopened : openPosition order stopLoss atr plan = .ok opened) :
    (∀ a p, Held a engine opened p → TakesTargets a engine opened p) ∧
      ∀ p, Held .exact engine opened p → Balanced opened p ∧
        (p.status ≠ .closed → ∀ (candle : OHLCVCandle) (context : ClosureContext),
          opened.openedAt ≤ candle.timestamp →
          ∃ q, Arithmetic.exact.processCandle engine p candle context = .ok q) := by
  refine ⟨fun a p h => h.takesTargets hopened, fun p h => ?_⟩
  have hbooks := h.keepsBooks hopened
  refine ⟨hbooks.balanced, fun hopen candle context htime => ?_⟩
  rw [Arithmetic.exact_processCandle]
  exact PaperLifecycleEngine.processCandle_ok hengine hopen (hbooks.openedAt_eq ▸ htime) context

/-! ### Two thirds at two targets, the rest at the stop -/

/-- The engine with the defaults of the source. -/
def defaultEngine : PaperLifecycleEngine := ⟨1 / 1000, 5 / 10000, 15 / 10, 1 / 100000000⟩

/-- A third, as the decimal context has it. -/
def decimalThird : ℚ := 3333333333333333333333333333 / 10 ^ 28

/-- Two targets for a third each. -/
def thirdsPlan : StagedExitPlan := ⟨[4, 5], [decimalThird, decimalThird], by decide +kernel⟩

/-- Twenty coins bought at three, with a fee of 0.06. -/
def twentyOrder : PaperOrder where
  candidateId := "thirds"
  timestamp := 0
  symbol := "BTCUSDT"
  action := .buy
  status := .filled
  quantity := 20
  requestedPrice := 3
  fillPrice := 3
  feeUsdt := 6 / 100
  nonneg := by norm_num
  unblocked _ := rfl

/-- A candle that reaches both targets. -/
def targetsCandle : OHLCVCandle where
  timestamp := 60
  «open» := 3
  high := 5
  low := 5 / 2
  close := 9 / 2
  volume := 1
  nonneg := by norm_num
  low_le_high := by norm_num
  max_le_high := by norm_num
  low_le_min := by norm_num

/-- A candle that reaches the stop. -/
def stopCandle : OHLCVCandle where
  timestamp := 120
  «open» := 5 / 2
  high := 3
  low := 3 / 2
  close := 2
  volume := 1
  nonneg := by norm_num
  low_le_high := by norm_num
  max_le_high := by norm_num
  low_le_min := by norm_num

/-- In exact arithmetic the two candles close the position, and its books add up. -/
theorem thirds_position_balanced : ∃ opened p,
    openPosition twentyOrder 2 2 thirdsPlan = .ok opened ∧
      Held .exact defaultEngine opened p ∧ p.status = .closed ∧ p.exits.length = 3 ∧
      TakesTargets .exact defaultEngine opened p ∧ Balanced opened p := by
  have hrun : (openPosition twentyOrder 2 2 thirdsPlan).toOption.any fun opened =>
      (Arithmetic.exact.processCandle defaultEngine opened targetsCandle {}).toOption.any fun p =>
        (Arithmetic.exact.processCandle defaultEngine p stopCandle {}).toOption.any fun q =>
          decide (q.status = .closed ∧ q.exits.length = 3) := by
    decide +kernel
  obtain ⟨opened, hopened, hrun⟩ := exists_ok_of_any hrun
  obtain ⟨p, hp, hrun⟩ := exists_ok_of_any hrun
  obtain ⟨q, hq, hend⟩ := exists_ok_of_any hrun
  obtain ⟨hclosed, hexits⟩ := of_decide_eq_true hend
  have hheld : Held .exact defaultEngine opened q :=
    .candle stopCandle {} (.candle targetsCandle {} .opened hp) hq
  obtain ⟨htargets, hbooks⟩ := paper_position_conserves
    (show Passes defaultEngine.checks by decide +kernel) hopened
  exact ⟨opened, q, hopened, hheld, hclosed, hexits, htargets _ q hheld, (hbooks q hheld).1⟩

/-- A quantity of 29 digits, and a plan that takes next to nothing of it. -/
def longOrder : PaperOrder :=
  { twentyOrder with
    quantity := 10000000000000000000000000006 / 10 ^ 28
    nonneg := by norm_num [twentyOrder] }

def dustPlan : StagedExitPlan := ⟨[4], [1 / 10 ^ 40], by decide +kernel⟩

/-- Under the decimal context the same two candles leave books that do not add up: the exit
quantities are not the quantity, the realized PnL is not that of the exits, nor the cash.  And a
candle is refused when the quantity is rounded above the initial one. -/
theorem decimal_position_unbalanced :
    (∃ opened p, openPosition twentyOrder 2 2 thirdsPlan = .ok opened ∧
      Held .decimal defaultEngine opened p ∧ p.status = .closed ∧
      p.remainingQuantity + (p.exits.map (·.quantity)).sum ≠ opened.initialQuantity ∧
      p.realizedPnlUsdt ≠ (p.exits.map (·.netPnlUsdt)).sum ∧
      p.realizedPnlUsdt ≠ (p.exits.map fun e => e.price * e.quantity - e.feeUsdt).sum -
        opened.entryPrice * opened.initialQuantity - opened.entryFeeUsdt) ∧
    ∃ opened, openPosition longOrder 2 2 dustPlan = .ok opened ∧ opened.status ≠ .closed ∧
      opened.openedAt ≤ targetsCandle.timestamp ∧
      Arithmetic.decimal.processCandle defaultEngine opened targetsCandle {} =
        .error (.value "remaining quantity is invalid") := by
  constructor
  · have hrun : (openPosition twentyOrder 2 2 thirdsPlan).toOption.any fun opened =>
        (Arithmetic.decimal.processCandle defaultEngine opened targetsCandle {}).toOption.any
          fun p => (Arithmetic.decimal.processCandle defaultEngine p stopCandle {}).toOption.any
            fun q => decide (q.status = .closed ∧
              q.remainingQuantity + (q.exits.map (·.quantity)).sum ≠ opened.initialQuantity ∧
              q.realizedPnlUsdt ≠ (q.exits.map (·.netPnlUsdt)).sum ∧
              q.realizedPnlUsdt ≠ (q.exits.map fun e => e.price * e.quantity - e.feeUsdt).sum -
                opened.entryPrice * opened.initialQuantity - opened.entryFeeUsdt) := by
      decide +kernel
    obtain ⟨opened, hopened, hrun⟩ := exists_ok_of_any hrun
    obtain ⟨p, hp, hrun⟩ := exists_ok_of_any hrun
    obtain ⟨q, hq, hend⟩ := exists_ok_of_any hrun
    exact ⟨opened, q, hopened, .candle stopCandle {} (.candle targetsCandle {} .opened hp) hq,
      of_decide_eq_true hend⟩
  · have hrun : (openPosition longOrder 2 2 dustPlan).toOption.any fun opened =>
        decide (opened.status ≠ .closed ∧ opened.openedAt ≤ targetsCandle.timestamp) &&
          match Arithmetic.decimal.processCandle defaultEngine opened targetsCandle {} with
          | .ok _ => false
          | .error e => decide (e = .value "remaining quantity is invalid") := by
      decide +kernel
    obtain ⟨opened, hopened, hrun⟩ := exists_ok_of_any hrun
    obtain ⟨hstate, hrefused⟩ := Bool.and_eq_true_iff.mp hrun
    obtain ⟨hopen, htime⟩ := of_decide_eq_true hstate
    refine ⟨opened, hopened, hopen, htime, ?_⟩
    cases hprocessed : Arithmetic.decimal.processCandle defaultEngine opened targetsCandle {} with
    | ok q => simp [hprocessed] at hrefused
    | error e => simpa [hprocessed] using hrefused

end Ai4Binance
