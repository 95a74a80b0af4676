/-
Runs of an inventory rotation (`portfolio/inventory_rotation.py`).

A run answers calls of `review`, `confirm_sell` and `confirm_rebuy` with the state they leave,
where a call that raises leaves the state as it is.  The calls that moved the cycle are kept in
a log, from which its accounts are read.

* `RotationMove`, `result_cases`: what a call can do;
* `RotationAccounts`: the log of a cycle and its amounts;
* `rotation_is_accounted`: **the accounts hold in every run**;
* `decimal_rebuy_is_lost`: a subtraction that rounds loses a part of what was spent.
-/
import Ai4Binance.Lib.Run
import Ai4Binance.Backtesting.SpotConservation
import Ai4Binance.Portfolio.InventoryRotation

open Check

namespace Ai4Binance

/-- The calls of a rotation. -/
inductive RotationStep where
  | review (buckets : InventoryBuckets) (context : InventoryRotationContext)
  | confirmSell (filledUnits realizedProceedsQuote : ℚ) (confirmedAt : Datetime)
  | confirmRebuy (quoteSpent : ℚ) (confirmedAt : Datetime)

namespace RotationStep

/-- The state that a call leaves, and whether it moved the cycle. -/
def result (a : Arithmetic) (policy : InventoryRotationPolicy) (s : InventoryRotationState) :
    RotationStep → Except PyError (InventoryRotationState × Bool)
  | .review buckets context => do
      let proposal ← InventoryRotationProposalEngine.review a s buckets context policy
      return (proposal.nextState, proposal.action = .sell ∨ proposal.action = .rebuy)
  | .confirmSell filled realized confirmedAt => do
      return (← InventoryRotationProposalEngine.confirmSell a s policy filled realized confirmedAt,
        true)
  | .confirmRebuy spent confirmedAt => do
      return (← InventoryRotationProposalEngine.confirmRebuy a s spent confirmedAt, true)

/-- The quote that a call spent. -/
def spent : RotationStep → ℚ
  | .confirmRebuy quoteSpent _ => quoteSpent
  | _ => 0

end RotationStep

/-- The quote spent by the confirmed rebuys of a log. -/
def quoteSpent (log : List RotationStep) : ℚ := (log.map (·.spent)).sum

/-! ### One call -/

/-- What a call that moves the cycle does. -/
inductive RotationMove (a : Arithmetic) (policy : InventoryRotationPolicy)
    (s t : InventoryRotationState) : RotationStep → Prop
  | proposeSell {buckets : InventoryBuckets} {context : InventoryRotationContext}
      (phase_eq : s.phase = .idle)
      (next_eq : t.toRotationFields = { s.toRotationFields with
        phase := .sellProposed
        pendingUnits := a.mul (buckets.rotationUnits a) policy.maximumSellRatioOfRotation
        pendingNotionalQuote :=
          a.mul (a.mul (buckets.rotationUnits a) policy.maximumSellRatioOfRotation)
            context.priceQuote
        referenceSellPrice := some context.priceQuote
        averageRotationCostQuote := context.averageRotationCostQuote
        revision := s.revision + 1 }) :
      RotationMove a policy s t (.review buckets context)
  | confirmSell {filled realized : ℚ} {confirmedAt : Datetime}
      (phase_eq : s.phase = .sellProposed)
      (filled_bounds : 0 < filled ∧ filled ≤ s.pendingUnits)
      (realized_pos : 0 < realized)
      (next_eq : t.toRotationFields = { s.toRotationFields with
        phase := .awaitingRebuy
        updatedAt := confirmedAt
        soldUnits := filled
        proceedsQuote := realized
        remainingRebuyQuote := realized
        referenceSellPrice := some (a.div realized filled)
        rebuyBandLowerQuote :=
          some (a.mul (a.div realized filled) (a.sub 1 policy.maximumRebuyDiscountRatio))
        rebuyBandUpperQuote :=
          some (a.mul (a.div realized filled) (a.sub 1 policy.minimumRebuyDiscountRatio))
        pendingUnits := 0
        pendingNotionalQuote := 0
        stage := 1
        revision := s.revision + 1 }) :
      RotationMove a policy s t (.confirmSell filled realized confirmedAt)
  | proposeRebuy {buckets : InventoryBuckets} {context : InventoryRotationContext}
      {lower upper : ℚ} (phase_eq : s.phase = .awaitingRebuy)
      (lower_eq : s.rebuyBandLowerQuote = some lower)
      (upper_eq : s.rebuyBandUpperQuote = some upper)
      (price_bounds : lower ≤ context.priceQuote ∧ context.priceQuote ≤ upper)
      (notional_ge : policy.minimumNotionalQuote ≤
        a.mul (min s.remainingRebuyQuote (buckets.availableCashQuote a))
          policy.maximumRebuyRatioPerStage)
      (next_eq : t.toRotationFields = { s.toRotationFields with
        phase := .rebuyProposed
        pendingUnits := a.div (a.mul (min s.remainingRebuyQuote (buckets.availableCashQuote a))
          policy.maximumRebuyRatioPerStage) context.priceQuote
        pendingNotionalQuote := a.mul (min s.remainingRebuyQuote (buckets.availableCashQuote a))
          policy.maximumRebuyRatioPerStage
        referenceRebuyPrice := some context.priceQuote
        revision := s.revision + 1 }) :
      RotationMove a policy s t (.review buckets context)
  | confirmRebuy {spent : ℚ} {confirmedAt : Datetime} (phase_eq : s.phase = .rebuyProposed)
      (spent_bounds : 0 < spent ∧ spent ≤ min s.pendingNotionalQuote s.remainingRebuyQuote)
      (next_eq : t.toRotationFields = { s.toRotationFields with
        phase := if a.sub s.remainingRebuyQuote spent = 0 then .closed else .awaitingRebuy
        updatedAt := confirmedAt
        remainingRebuyQuote := a.sub s.remainingRebuyQuote spent
        pendingUnits := 0
        pendingNotionalQuote := 0
        stage := s.stage + 1
        revision := s.revision + 1 }) :
      RotationMove a policy s t (.confirmRebuy spent confirmedAt)

section Calls

open InventoryRotationProposalEngine

variable {a : Arithmetic} {policy : InventoryRotationPolicy} {s t : InventoryRotationState}
  {buckets : InventoryBuckets} {context : InventoryRotationContext}
  {proposal : InventoryRotationProposal} {step : RotationStep} {moved : Bool}

/-- A proposal that is held or blocked leaves the state, and another moves the cycle. -/
def ProposalOutcome (a : Arithmetic) (policy : InventoryRotationPolicy)
    (s : InventoryRotationState) (buckets : InventoryBuckets) (context : InventoryRotationContext)
    (proposal : InventoryRotationProposal) : Prop :=
  (proposal.action = .hold ∨ proposal.action = .blocked) ∧ proposal.nextState = s ∨
    (proposal.action = .sell ∨ proposal.action = .rebuy) ∧
      RotationMove a policy s proposal.nextState (.review buckets context)

lemma sellReview_outcome (hphase : s.phase = .idle)
    (h : sellReview a s buckets context policy = .ok proposal) :
    ProposalOutcome a policy s buckets context proposal := by
  simp only [sellReview] at h
  split_ifs at h with hblocked hnotional
  · obtain rfl := pure_eq_ok.mp h
    exact Or.inl ⟨Or.inl rfl, rfl⟩
  · obtain rfl := pure_eq_ok.mp h
    exact Or.inl ⟨Or.inr rfl, rfl⟩
  · simp only [bind_eq_ok, InventoryRotationState.create_eq_ok, pure_eq_ok] at h
    obtain ⟨next, hnext, rfl⟩ := h
    exact Or.inr ⟨Or.inl rfl, .proposeSell hphase hnext⟩

/-- A rebuy without blockers is priced inside the band. -/
lemma band_of_rebuyBlockers (h : rebuyBlockers a s buckets context policy = []) :
    ∃ lower upper, s.rebuyBandLowerQuote = some lower ∧ s.rebuyBandUpperQuote = some upper ∧
      lower ≤ context.priceQuote ∧ context.priceQuote ≤ upper := by
  simp only [rebuyBlockers, List.append_eq_nil_iff] at h
  obtain ⟨⟨-, hband⟩, -⟩ := h
  split at hband
  · rename_i lower upper hlower hupper
    split_ifs at hband with hbelow
    rw [blockerWhen] at hband
    split_ifs at hband with habove
    exact ⟨lower, upper, hlower, hupper, not_lt.mp hbelow, not_lt.mp habove⟩
  · cases hband

lemma rebuyReview_outcome (hphase : s.phase = .awaitingRebuy)
    (h : rebuyReview a s buckets context policy = .ok proposal) :
    ProposalOutcome a policy s buckets context proposal := by
  simp only [rebuyReview] at h
  split_ifs at h with hblocked hnotional
  · obtain rfl := pure_eq_ok.mp h
    exact Or.inl ⟨Or.inl rfl, rfl⟩
  · obtain rfl := pure_eq_ok.mp h
    exact Or.inl ⟨Or.inr rfl, rfl⟩
  · simp only [bind_eq_ok, InventoryRotationState.create_eq_ok, pure_eq_ok] at h
    obtain ⟨next, hnext, rfl⟩ := h
    obtain ⟨lower, upper, hlower, hupper, hprice⟩ := band_of_rebuyBlockers (not_not.mp hblocked)
    exact Or.inr ⟨Or.inr rfl,
      .proposeRebuy hphase hlower hupper hprice (not_lt.mp hnotional) hnext⟩

/-- What a review can do. -/
lemma review_outcome (h : review a s buckets context policy = .ok proposal) :
    ProposalOutcome a policy s buckets context proposal := by
  rw [review] at h
  split_ifs at h with hrisk
  · obtain rfl := Except.ok.inj h
    exact Or.inl ⟨Or.inr rfl, rfl⟩
  · split at h
    · obtain rfl := Except.ok.inj h
      exact Or.inl ⟨Or.inl rfl, rfl⟩
    · obtain rfl := Except.ok.inj h
      exact Or.inl ⟨Or.inl rfl, rfl⟩
    · obtain rfl := Except.ok.inj h
      exact Or.inl ⟨Or.inl rfl, rfl⟩
    · rename_i hphase
      exact sellReview_outcome hphase h
    · rename_i hphase
      exact rebuyReview_outcome hphase h

/-- **What a call can do**: it moves the cycle, or leaves the state. -/
lemma result_cases (h : step.result a policy s = .ok (t, moved)) :
    if moved then RotationMove a policy s t step else t = s := by
  cases step with
  | review buckets context =>
    simp only [RotationStep.result, bind_eq_ok, pure_eq_ok, Prod.mk.injEq] at h
    obtain ⟨proposal, hproposal, rfl, rfl⟩ := h
    rcases review_outcome hproposal with ⟨haction, hnext⟩ | ⟨haction, hmove⟩
    · rw [if_neg]
      · exact hnext
      · rcases haction with haction | haction <;> simp [haction]
    · rw [if_pos (by simpa using haction)]
      exact hmove
  | confirmSell filled realized confirmedAt =>
    simp only [RotationStep.result, confirmSell, bind_eq_ok, raiseIf_eq_ok, pure_eq_ok,
      not_not, InventoryRotationState.create_eq_ok, Prod.mk.injEq] at h
    obtain ⟨next, ⟨_, hphase, _, hfilled, _, hrealized, hnext⟩, rfl, rfl⟩ := h
    exact .confirmSell hphase hfilled hrealized.1 hnext
  | confirmRebuy spent confirmedAt =>
    simp only [RotationStep.result, confirmRebuy, bind_eq_ok, raiseIf_eq_ok, pure_eq_ok,
      not_not, InventoryRotationState.create_eq_ok, Prod.mk.injEq] at h
    obtain ⟨next, ⟨_, hphase, _, hspent, hnext⟩, rfl, rfl⟩ := h
    exact .confirmRebuy hphase hspent hnext

/-- Two holdings with the same rotation units and cash. -/
def InventoryBuckets.SameRotation (left right : InventoryBuckets) : Prop :=
  left.strategicUnits = right.strategicUnits ∧ left.tacticalUnits = right.tacticalUnits ∧
    left.cashQuote = right.cashQuote ∧ left.reservedCashQuote = right.reservedCashQuote

/-- The core units are no part of a review. -/
lemma review_congr {other : InventoryBuckets} (h : buckets.SameRotation other) :
    review a s buckets context policy = review a s other context policy := by
  obtain ⟨hstrategic, htactical, hcash, hreserved⟩ := h
  have hunits : buckets.rotationUnits a = other.rotationUnits a := by
    rw [InventoryBuckets.rotationUnits, InventoryBuckets.rotationUnits, hstrategic, htactical]
  have havailable : buckets.availableCashQuote a = other.availableCashQuote a := by
    rw [InventoryBuckets.availableCashQuote, InventoryBuckets.availableCashQuote, hcash, hreserved]
  have hsell : sellReview a s buckets context policy = sellReview a s other context policy := by
    simp only [sellReview, sellBlockers, hunits]
  have hrebuy : rebuyReview a s buckets context policy = rebuyReview a s other context policy := by
    simp only [rebuyReview, rebuyBlockers, havailable]
  rw [review, review, hsell, hrebuy]

end Calls

/-! ### Runs -/

/-- The transitions of the phases. -/
inductive PhaseMoves : InventoryRotationPhase → InventoryRotationPhase → Prop
  | sellProposed : PhaseMoves .idle .sellProposed
  | sold : PhaseMoves .sellProposed .awaitingRebuy
  | rebuyProposed : PhaseMoves .awaitingRebuy .rebuyProposed
  | rebought : PhaseMoves .rebuyProposed .awaitingRebuy
  | closed : PhaseMoves .rebuyProposed .closed

/-- The state of a cycle, and the calls that moved it. -/
structure RotationRun where
  state : InventoryRotationState
  log : List RotationStep

namespace RotationRun

variable (a : Arithmetic) (policy : InventoryRotationPolicy)

/-- The run after a call: one that raises changes nothing. -/
def after (r : RotationRun) (step : RotationStep) : RotationRun :=
  match step.result a policy r.state with
  | .error _ => r
  | .ok (next, moved) => ⟨next, if moved then r.log ++ [step] else r.log⟩

/-- The run of a sequence of calls. -/
def run (start : InventoryRotationState) (steps : List RotationStep) : RotationRun :=
  steps.foldl (after a policy) ⟨start, []⟩

variable {a policy} {r : RotationRun} {step : RotationStep}

/-- A call leaves the run, or moves it. -/
lemma after_cases (a : Arithmetic) (policy : InventoryRotationPolicy) (r : RotationRun)
    (step : RotationStep) : r.after a policy step = r ∨
    RotationMove a policy r.state (r.after a policy step).state step ∧
      (r.after a policy step).log = r.log ++ [step] := by
  rw [after]
  split
  · exact Or.inl rfl
  · rename_i next moved hresult
    have hcases := result_cases hresult
    cases moved with
    | false =>
      rw [if_neg Bool.false_ne_true] at hcases
      subst hcases
      exact Or.inl rfl
    | true =>
      rw [if_pos rfl] at hcases
      exact Or.inr ⟨hcases, rfl⟩

/-- A call that raises, or proposes nothing, leaves the run. -/
lemma after_eq_self (h : (step.result a policy r.state).toOption.any (·.2) = false) :
    r.after a policy step = r := by
  rw [after]
  split
  · rfl
  · rename_i next moved hresult
    have hcases := result_cases hresult
    rw [hresult] at h
    obtain rfl : moved = false := h
    rw [if_neg Bool.false_ne_true] at hcases
    subst hcases
    rfl

end RotationRun

section Accounts

variable {a : Arithmetic} {policy : InventoryRotationPolicy} {s t : InventoryRotationState}
  {r : RotationRun} {step : RotationStep}

lemma RotationMove.phaseMoves (h : RotationMove a policy s t step) :
    PhaseMoves s.phase t.phase := by
  cases h with
  | proposeSell hphase hnext =>
    rw [hphase, hnext]
    exact .sellProposed
  | confirmSell hphase hfilled hrealized hnext =>
    rw [hphase, hnext]
    exact .sold
  | proposeRebuy hphase hlower hupper hprice hnotional hnext =>
    rw [hphase, hnext]
    exact .rebuyProposed
  | confirmRebuy hphase hspent hnext =>
    rw [hphase, hnext]
    dsimp only
    split_ifs
    · exact .closed
    · exact .rebought

/-- The accounts of a cycle that has sold: `rest` are the calls after the sale. -/
structure Sold (a : Arithmetic) (policy : InventoryRotationPolicy) (r : RotationRun)
    (buckets : InventoryBuckets) (filled realized lower upper : ℚ) (rest : List RotationStep) :
    Prop where
  log_eq : ∃ context confirmedAt,
    r.log = .review buckets context :: .confirmSell filled realized confirmedAt :: rest
  sold_eq : r.state.soldUnits = filled
  sold_le : filled ≤ a.mul (buckets.rotationUnits a) policy.maximumSellRatioOfRotation
  proceeds_eq : r.state.proceedsQuote = realized
  lower_eq : lower = a.mul (a.div realized filled) (a.sub 1 policy.maximumRebuyDiscountRatio)
  upper_eq : upper = a.mul (a.div realized filled) (a.sub 1 policy.minimumRebuyDiscountRatio)
  band_eq : r.state.rebuyBandLowerQuote = some lower ∧ r.state.rebuyBandUpperQuote = some upper
  rebuys : ∀ buckets context, .review buckets context ∈ rest →
    lower ≤ context.priceQuote ∧ context.priceQuote ≤ upper
  spent_eq : a = .exact → quoteSpent r.log + r.state.remainingRebuyQuote = r.state.proceedsQuote

/-- The accounts of a cycle, by its phase. -/
structure RotationAccounts (a : Arithmetic) (policy : InventoryRotationPolicy) (r : RotationRun) :
    Prop where
  idle : r.state.phase = .idle → r.log = []
  proposed : r.state.phase = .sellProposed → ∃ buckets context,
    r.log = [.review buckets context] ∧
      r.state.pendingUnits = a.mul (buckets.rotationUnits a) policy.maximumSellRatioOfRotation
  sold : r.state.phase ≠ .idle → r.state.phase ≠ .sellProposed →
    ∃ buckets filled realized lower upper rest,
      Sold a policy r buckets filled realized lower upper rest

lemma quoteSpent_append (log : List RotationStep) (step : RotationStep) :
    quoteSpent (log ++ [step]) = quoteSpent log + step.spent := by
  simp [quoteSpent]

/-- A call after the sale keeps the sale. -/
lemma Sold.snoc {buckets : InventoryBuckets} {filled realized lower upper : ℚ}
    {rest : List RotationStep} (h : Sold a policy r buckets filled realized lower upper rest)
    {r' : RotationRun} (hlog : r'.log = r.log ++ [step])
    (hsold : r'.state.soldUnits = r.state.soldUnits)
    (hproceeds : r'.state.proceedsQuote = r.state.proceedsQuote)
    (hlower : r'.state.rebuyBandLowerQuote = r.state.rebuyBandLowerQuote)
    (hupper : r'.state.rebuyBandUpperQuote = r.state.rebuyBandUpperQuote)
    (hspent : a = .exact →
      r'.state.remainingRebuyQuote = r.state.remainingRebuyQuote - step.spent)
    (hrebuy : ∀ buckets context, step = .review buckets context →
      lower ≤ context.priceQuote ∧ context.priceQuote ≤ upper) :
    Sold a policy r' buckets filled realized lower upper (rest ++ [step]) where
  log_eq := by
    obtain ⟨context, confirmedAt, heq⟩ := h.log_eq
    exact ⟨context, confirmedAt, by rw [hlog, heq]; rfl⟩
  sold_eq := hsold.trans h.sold_eq
  sold_le := h.sold_le
  proceeds_eq := hproceeds.trans h.proceeds_eq
  lower_eq := h.lower_eq
  upper_eq := h.upper_eq
  band_eq := ⟨hlower.trans h.band_eq.1, hupper.trans h.band_eq.2⟩
  rebuys := by
    intro buckets context hmem
    rcases List.mem_append.mp hmem with hmem | hmem
    · exact h.rebuys buckets context hmem
    · exact hrebuy buckets context (List.mem_singleton.mp hmem).symm
  spent_eq := by
    intro hexact
    rw [hlog, quoteSpent_append, hspent hexact, hproceeds, ← h.spent_eq hexact]
    ring

/-- Every call that moves a cycle keeps its accounts. -/
lemma RotationAccounts.move {r' : RotationRun} (h : RotationAccounts a policy r)
    (hmove : RotationMove a policy r.state r'.state step) (hlog : r'.log = r.log ++ [step]) :
    RotationAccounts a policy r' := by
  cases hmove with
  | @proposeSell buckets context hphase hnext =>
    have hphase' : r'.state.phase = .sellProposed := by rw [hnext]
    refine ⟨by simp [hphase'], fun _ => ?_, by simp [hphase']⟩
    refine ⟨buckets, context, ?_, by rw [hnext]⟩
    rw [hlog, h.idle hphase, List.nil_append]
  | @confirmSell filled realized confirmedAt hphase hfilled hrealized hnext =>
    have hphase' : r'.state.phase = .awaitingRebuy := by rw [hnext]
    refine ⟨by simp [hphase'], by simp [hphase'], fun _ _ => ?_⟩
    obtain ⟨buckets, context, heq, hunits⟩ := h.proposed hphase
    refine ⟨buckets, filled, realized,
      a.mul (a.div realized filled) (a.sub 1 policy.maximumRebuyDiscountRatio),
      a.mul (a.div realized filled) (a.sub 1 policy.minimumRebuyDiscountRatio), [], ?_⟩
    exact {
      log_eq := ⟨context, confirmedAt, by rw [hlog, heq]; rfl⟩
      sold_eq := by rw [hnext]
      sold_le := hunits ▸ hfilled.2
      proceeds_eq := by rw [hnext]
      lower_eq := rfl
      upper_eq := rfl
      band_eq := by rw [hnext]; exact ⟨rfl, rfl⟩
      rebuys := by simp
      spent_eq := by
        intro _
        rw [hlog, heq, hnext]
        simp [quoteSpent, RotationStep.spent] }
  | @proposeRebuy _ context lower' upper' hphase hlower hupper hprice hnotional hnext =>
    have hphase' : r'.state.phase = .rebuyProposed := by rw [hnext]
    refine ⟨by simp [hphase'], by simp [hphase'], fun _ _ => ?_⟩
    obtain ⟨buckets, filled, realized, lower, upper, rest, hsold⟩ :=
      h.sold (by simp [hphase]) (by simp [hphase])
    refine ⟨buckets, filled, realized, lower, upper, rest ++ [_], hsold.snoc hlog (by rw [hnext])
      (by rw [hnext]) (by rw [hnext]) (by rw [hnext]) ?_ ?_⟩
    · intro _
      rw [hnext]
      simp [RotationStep.spent]
    · intro _ context' heq
      obtain ⟨rfl, rfl⟩ := RotationStep.review.inj heq
      rw [hsold.band_eq.1, Option.some.injEq] at hlower
      rw [hsold.band_eq.2, Option.some.injEq] at hupper
      rw [hlower, hupper]
      exact hprice
  | @confirmRebuy spent confirmedAt hphase hspent hnext =>
    have hphase' : r'.state.phase = .closed ∨ r'.state.phase = .awaitingRebuy := by
      rw [hnext]
      dsimp only
      split_ifs
      · exact Or.inl rfl
      · exact Or.inr rfl
    have hidle : r'.state.phase ≠ .idle := by
      rcases hphase' with heq | heq <;> simp [heq]
    have hproposed : r'.state.phase ≠ .sellProposed := by
      rcases hphase' with heq | heq <;> simp [heq]
    refine ⟨fun heq => absurd heq hidle, fun heq => absurd heq hproposed, fun _ _ => ?_⟩
    obtain ⟨buckets, filled, realized, lower, upper, rest, hsold⟩ :=
      h.sold (by simp [hphase]) (by simp [hphase])
    refine ⟨buckets, filled, realized, lower, upper, rest ++ [_], hsold.snoc hlog (by rw [hnext])
      (by rw [hnext]) (by rw [hnext]) (by rw [hnext]) ?_ ?_⟩
    · rintro rfl
      rw [hnext]
      rfl
    · intro _ _ heq
      cases heq

/-- The accounts hold in every run. -/
lemma run_accounts (a : Arithmetic) (policy : InventoryRotationPolicy) {cycleId : String} {timestamp : Datetime} {start : InventoryRotationState}
    (hstart : InventoryRotationState.new cycleId timestamp = .ok start)
    (steps : List RotationStep) :
    RotationAccounts a policy (RotationRun.run a policy start steps) := by
  refine (Run.foldl (RotationRun.after a policy) ⟨start, []⟩ steps).invariant
    (P := RotationAccounts a policy) ?_ ?_
  · rintro r step _ rfl hr
    rcases RotationRun.after_cases a policy r step with
      heq | ⟨hmove, hlog⟩
    · rw [heq]
      exact hr
    · exact hr.move hmove hlog
  · rw [InventoryRotationState.new, InventoryRotationState.create_eq_ok] at hstart
    have hphase : start.phase = .idle := by rw [hstart]
    exact ⟨fun _ => rfl, by simp [hphase], by simp [hphase]⟩

end Accounts

/-- **A rotation is accounted** in every run from a new cycle, for any rounding, and without one
what was spent and what remains are the proceeds: a call moves the phase as the cycle goes or
leaves the run, one that raises or is held or blocked leaves it, and the core units are no part
of a review. -/
theorem rotation_is_accounted (a : Arithmetic) (policy : InventoryRotationPolicy)
    (cycleId : String) (timestamp : Datetime) (start : InventoryRotationState)
    (hstart : InventoryRotationState.new cycleId timestamp = .ok start)
    (steps : List RotationStep) (step : RotationStep) :
    let r := RotationRun.run a policy start steps
    RotationAccounts a policy r ∧
      (r.after a policy step = r ∨ PhaseMoves r.state.phase (r.after a policy step).state.phase ∧
        (r.after a policy step).log = r.log ++ [step]) ∧
      ((step.result a policy r.state).toOption.any (·.2) = false → r.after a policy step = r) ∧
      ∀ (buckets other : InventoryBuckets) (context : InventoryRotationContext),
        buckets.SameRotation other →
        InventoryRotationProposalEngine.review a r.state buckets context policy =
          InventoryRotationProposalEngine.review a r.state other context policy := by
  intro r
  refine ⟨run_accounts a policy hstart steps, ?_, RotationRun.after_eq_self, fun _ _ _ => review_congr⟩
  rcases RotationRun.after_cases a policy r step with
    heq | ⟨hmove, hlog⟩
  · exact Or.inl heq
  · exact Or.inr ⟨hmove.phaseMoves, hlog⟩

/-! ### A cycle -/

/-- The default policy. -/
def defaultRotation : InventoryRotationPolicy where
  ratios_nonneg := InventoryRotationPolicy.default_ratios
  sellRatio_bounds := InventoryRotationPolicy.default_sellRatio
  rebuyRatio_bounds := by norm_num
  notional_pos := InventoryRotationPolicy.default_notional
  discount_bounds := InventoryRotationPolicy.default_discount

/-- A hundred rotation units and as much cash. -/
def hundredUnits : InventoryBuckets where
  coreUnits := 60
  strategicUnits := 80
  tacticalUnits := 20
  cashQuote := 100
  units_nonneg := by norm_num
  cash_nonneg := by norm_num
  reserved_le := by norm_num

/-- The price at which a rotation sells. -/
def resistanceReached : InventoryRotationContext where
  priceQuote := 12 / 10
  resistanceQuote := 12 / 10
  supportQuote := 9 / 10
  sellTriggerConfirmed := true
  supportReclaimed := false
  averageRotationCostQuote := some 1
  prices_pos := by norm_num
  support_lt := by norm_num
  cost_pos := by simp

/-- The price at which it buys back. -/
def supportReclaimedAt : InventoryRotationContext where
  priceQuote := 9 / 10
  resistanceQuote := 12 / 10
  supportQuote := 9 / 10
  sellTriggerConfirmed := false
  supportReclaimed := true
  prices_pos := by norm_num
  support_lt := by norm_num
  cost_pos := InventoryRotationContext.default_cost

/-- The state of a new cycle. -/
def newCycle : InventoryRotationState where
  cycleId := "rotation-1"
  phase := .idle
  updatedAt := .aware 0
  passes := by decide +kernel

/-- A sale of thirty, and a rebuy of which a given amount was spent. -/
def saleAndRebuy (spent : ℚ) : List RotationStep :=
  [.review hundredUnits resistanceReached, .confirmSell 25 30 (.aware 1),
    .review hundredUnits supportReclaimedAt, .confirmRebuy spent (.aware 2)]

/-- After a sale of thirty and a rebuy of ten the accounts hold. -/
theorem rebuy_of_ten_is_accounted :
    quoteSpent (RotationRun.run .exact defaultRotation newCycle (saleAndRebuy 10)).log = 10 ∧
      RotationAccounts .exact defaultRotation
        (RotationRun.run .exact defaultRotation newCycle (saleAndRebuy 10)) := by
  refine ⟨by decide +kernel, ?_⟩
  exact (rotation_is_accounted .exact defaultRotation "rotation-1" (.aware 0) newCycle
    (by rw [InventoryRotationState.new, InventoryRotationState.create_eq_ok]; rfl)
    (saleAndRebuy 10) (.confirmRebuy 1 (.aware 3))).1

/-- In the decimal context a rebuy with more digits than the context keeps is not subtracted as it
was spent: spent and remaining are more than the proceeds. -/
theorem decimal_rebuy_is_lost :
    let r := RotationRun.run .decimal defaultRotation newCycle (saleAndRebuy (1 + 1 / 10 ^ 30))
    r.state.phase = .awaitingRebuy ∧ r.state.proceedsQuote = 30 ∧
      quoteSpent r.log + r.state.remainingRebuyQuote = 30 + 1 / 10 ^ 30 := by
  decide +kernel

end Ai4Binance
