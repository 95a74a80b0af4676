/-
When an inventory rotation can be closed (`portfolio/inventory_rotation.py`).

A stage of a rebuy spends at most a share of what remains, a share below the minimum notional
is refused, and a cycle closes when nothing remains.  So a share below one never closes a cycle,
and neither does a remainder below the minimum notional.

* `Reachable`, `Closes`: the states of a cycle, and the calls that close it;
* `not_closes_of_ratio_lt`, `not_closes_of_remaining_lt`: what keeps a cycle open;
* `closes_of_whole_rebuy`: one stage for the whole remainder closes it;
* `rotation_closes_iff`: **exactly when a cycle can be closed**, when no operation rounds.
-/
import Ai4Binance.Portfolio.RotationRuns

open Check

namespace Ai4Binance

section Closing

open InventoryRotationProposalEngine

variable {policy : InventoryRotationPolicy} {s t : InventoryRotationState} {step : RotationStep}
  {steps : List RotationStep}

/-- A state of a cycle under a policy. -/
def Reachable (policy : InventoryRotationPolicy) (s : InventoryRotationState) : Prop :=
  ∃ cycleId timestamp start steps, InventoryRotationState.new cycleId timestamp = .ok start ∧
    (RotationRun.run .exact policy start steps).state = s

/-- Calls that close a cycle: its reviews have cash for the whole remainder, at prices inside
the band. -/
structure Closes (policy : InventoryRotationPolicy) (s : InventoryRotationState)
    (steps : List RotationStep) : Prop where
  in_band : ∀ buckets context, .review buckets context ∈ steps →
    s.remainingRebuyQuote ≤ buckets.availableCashQuote .exact ∧
      (∀ lower ∈ s.rebuyBandLowerQuote, lower ≤ context.priceQuote) ∧
      ∀ upper ∈ s.rebuyBandUpperQuote, context.priceQuote ≤ upper
  closed : (RotationRun.run .exact policy s steps).state.phase = .closed

/-! ### What keeps a cycle open -/

/-- A property of the open states that every call keeps keeps a cycle from closing. -/
lemma not_closed_of_invariant {P : InventoryRotationState → Prop}
    (hopen : ∀ s, P s → s.phase ≠ .closed)
    (hmove : ∀ {s t step}, RotationMove .exact policy s t step → P s → P t) (hs : P s)
    (steps : List RotationStep) :
    (RotationRun.run .exact policy s steps).state.phase ≠ .closed := by
  refine hopen _ ((Run.foldl (RotationRun.after .exact policy) ⟨s, []⟩ steps).invariant
    (P := fun r => P r.state) ?_ hs)
  rintro r step _ rfl hr
  rcases RotationRun.after_cases .exact policy r step with
    heq | ⟨hstep, -⟩
  · rw [heq]
    exact hr
  · exact hmove hstep hr

/-- A stage spends a share of what remains. -/
lemma stage_le {remaining cash : ℚ}
    (h : policy.minimumNotionalQuote ≤ min remaining cash * policy.maximumRebuyRatioPerStage) :
    0 < min remaining cash ∧
      min remaining cash * policy.maximumRebuyRatioPerStage ≤
        remaining * policy.maximumRebuyRatioPerStage := by
  have hratio := policy.rebuyRatio_bounds.1
  have hnotional := policy.notional_pos.trans_le h
  refine ⟨(pos_iff_pos_of_mul_pos hnotional).mpr hratio, ?_⟩
  exact mul_le_mul_of_nonneg_right (min_le_left _ _) hratio.le

/-- A share below one leaves a remainder. -/
lemma not_closes_of_ratio_lt (hphase : s.phase = .awaitingRebuy)
    (hratio : policy.maximumRebuyRatioPerStage < 1) (steps : List RotationStep) :
    (RotationRun.run .exact policy s steps).state.phase ≠ .closed := by
  refine not_closed_of_invariant (P := fun s => s.phase = .awaitingRebuy ∨
    s.phase = .rebuyProposed ∧ s.pendingNotionalQuote < s.remainingRebuyQuote) ?_ ?_
    (Or.inl hphase) steps
  · rintro s (hs | ⟨hs, -⟩) <;> simp [hs]
  · intro s t step hmove hs
    cases hmove with
    | proposeSell hidle => simp [hidle] at hs
    | confirmSell hproposed => simp [hproposed] at hs
    | @proposeRebuy buckets context lower upper hawaiting _ _ _ hnotional hnext =>
      refine Or.inr ⟨by rw [hnext], ?_⟩
      rw [hnext]
      dsimp only
      rw [Arithmetic.exact_mul] at hnotional ⊢
      obtain ⟨hpos, hstage⟩ := stage_le hnotional
      have hremaining : 0 < s.remainingRebuyQuote := hpos.trans_le (min_le_left _ _)
      calc min s.remainingRebuyQuote (buckets.availableCashQuote .exact) *
            policy.maximumRebuyRatioPerStage
          ≤ s.remainingRebuyQuote * policy.maximumRebuyRatioPerStage := hstage
        _ < s.remainingRebuyQuote := mul_lt_of_lt_one_right hremaining hratio
    | @confirmRebuy spent confirmedAt hproposed hspent hnext =>
      rcases hs with hs | ⟨-, hpending⟩
      · simp [hproposed] at hs
      · left
        have hleft : Arithmetic.exact.sub s.remainingRebuyQuote spent ≠ 0 := by
          have hle := (le_min_iff.mp hspent.2).1
          rw [Arithmetic.exact_sub]
          linarith
        rw [hnext]
        dsimp only
        rw [if_neg hleft]

/-- A remainder below the minimum notional is never spent. -/
lemma not_closes_of_remaining_lt (hphase : s.phase = .awaitingRebuy)
    (hremaining : s.remainingRebuyQuote < policy.minimumNotionalQuote)
    (steps : List RotationStep) :
    (RotationRun.run .exact policy s steps).state.phase ≠ .closed := by
  refine not_closed_of_invariant (P := fun s => s.phase = .awaitingRebuy ∧
    s.remainingRebuyQuote < policy.minimumNotionalQuote) ?_ ?_ ⟨hphase, hremaining⟩ steps
  · rintro s ⟨hs, -⟩
    simp [hs]
  · rintro s t step hmove ⟨hs, hlt⟩
    cases hmove with
    | proposeSell hidle => simp [hidle] at hs
    | confirmSell hproposed => simp [hproposed] at hs
    | confirmRebuy hproposed => simp [hproposed] at hs
    | @proposeRebuy buckets context lower upper hawaiting _ _ _ hnotional hnext =>
      exfalso
      rw [Arithmetic.exact_mul] at hnotional
      obtain ⟨hpos, hstage⟩ := stage_le hnotional
      have hnonneg : 0 ≤ s.remainingRebuyQuote := (hpos.trans_le (min_le_left _ _)).le
      have hshare := mul_le_of_le_one_right hnonneg policy.rebuyRatio_bounds.2
      linarith

/-! ### One stage for the whole remainder -/

/-- A call that moves the cycle leads to its state. -/
lemma after_state {r : RotationRun} (h : step.result .exact policy r.state = .ok (t, true)) :
    (r.after .exact policy step).state = t := by
  rw [RotationRun.after, h]

/-- A rebuy without blockers for at least the minimum notional is proposed. -/
lemma rebuyReview_eq_ok {a : Arithmetic} {buckets : InventoryBuckets}
    {context : InventoryRotationContext} {notional : ℚ}
    (hnotional : notional = a.mul (min s.remainingRebuyQuote (buckets.availableCashQuote a))
      policy.maximumRebuyRatioPerStage)
    (hblockers : rebuyBlockers a s buckets context policy = [])
    (hminimum : policy.minimumNotionalQuote ≤ notional)
    (ht : t.toRotationFields = { s.toRotationFields with
      phase := .rebuyProposed
      pendingUnits := a.div notional context.priceQuote
      pendingNotionalQuote := notional
      referenceRebuyPrice := some context.priceQuote
      revision := s.revision + 1 }) :
    rebuyReview a s buckets context policy = .ok ⟨.rebuy, a.div notional context.priceQuote,
      notional, a.mul notional policy.feeRatio, s, t, []⟩ := by
  rw [rebuyReview]
  dsimp only
  rw [if_neg (not_not.mpr hblockers), ← hnotional, if_neg (not_lt.mpr hminimum),
    InventoryRotationState.create_eq_ok.mpr ht]
  rfl

/-- The cash for a remainder. -/
def cashFor (remaining : ℚ) (h : 0 ≤ remaining) : InventoryBuckets where
  coreUnits := 0
  strategicUnits := 0
  tacticalUnits := 0
  cashQuote := remaining
  units_nonneg := by norm_num
  cash_nonneg := ⟨h, le_rfl⟩
  reserved_le := h

/-- A support that was reclaimed at a price. -/
def reclaimedAt (price : ℚ) (h : 0 < price) : InventoryRotationContext where
  priceQuote := price
  resistanceQuote := price + 1
  supportQuote := price
  sellTriggerConfirmed := false
  supportReclaimed := true
  prices_pos := ⟨h, by linarith, h⟩
  support_lt := by linarith
  cost_pos := InventoryRotationContext.default_cost

lemma exists_state {fields : RotationFields} (h : fields.Valid) :
    ∃ t : InventoryRotationState, t.toRotationFields = fields :=
  ⟨⟨fields, RotationFields.passes_iff.mpr h⟩, rfl⟩

/-- The state after a proposal to spend the whole remainder at a price. -/
lemma exists_proposed {price : ℚ} (hprice : 0 < price) :
    ∃ t : InventoryRotationState, t.toRotationFields = { s.toRotationFields with
      phase := .rebuyProposed
      pendingUnits := Arithmetic.exact.div s.remainingRebuyQuote price
      pendingNotionalQuote := s.remainingRebuyQuote
      referenceRebuyPrice := some price
      revision := s.revision + 1 } := by
  have hvalid := RotationFields.passes_iff.mp s.passes
  have hamounts := hvalid.amounts_nonneg
  have hprices := hvalid.prices_pos
  have hrevision := hvalid.counters_nonneg.2
  refine exists_state ⟨hvalid.identified, hvalid.aware, ?_, ⟨hvalid.counters_nonneg.1, ?_⟩,
    hvalid.remaining_le, ?_, hvalid.band_lt⟩
  · simp only [List.mem_cons, List.not_mem_nil, or_false, forall_eq_or_imp, forall_eq,
      Arithmetic.exact_div] at hamounts ⊢
    obtain ⟨hsold, hproceeds, hremaining, -, -⟩ := hamounts
    exact ⟨hsold, hproceeds, hremaining, div_nonneg hremaining hprice.le, hremaining⟩
  · dsimp only
    omega
  · simp only [List.mem_cons, List.not_mem_nil, or_false, forall_eq_or_imp, forall_eq,
      Option.mem_def, Option.some.injEq, forall_eq'] at hprices ⊢
    exact ⟨hprices.1, hprice, hprices.2.2.1, hprices.2.2.2.1, hprices.2.2.2.2⟩

/-- The state after the whole remainder was spent. -/
lemma exists_closed (s : InventoryRotationState) :
    ∃ t : InventoryRotationState, t.toRotationFields = { s.toRotationFields with
      phase := .closed
      updatedAt := .aware 0
      remainingRebuyQuote := 0
      pendingUnits := 0
      pendingNotionalQuote := 0
      stage := s.stage + 1
      revision := s.revision + 1 } := by
  have hvalid := RotationFields.passes_iff.mp s.passes
  have hamounts := hvalid.amounts_nonneg
  obtain ⟨hstage, hrevision⟩ := hvalid.counters_nonneg
  simp only [List.mem_cons, List.not_mem_nil, or_false, forall_eq_or_imp, forall_eq] at hamounts
  obtain ⟨hsold, hproceeds, -⟩ := hamounts
  refine exists_state ⟨hvalid.identified, ⟨0, rfl⟩, ?_, ⟨?_, ?_⟩, hproceeds, hvalid.prices_pos,
    hvalid.band_lt⟩
  · simp only [List.mem_cons, List.not_mem_nil, or_false, forall_eq_or_imp, forall_eq, le_refl,
      and_true]
    exact ⟨hsold, hproceeds⟩
  · dsimp only
    omega
  · dsimp only
    omega

/-- One stage for the whole remainder closes a cycle. -/
lemma closes_of_whole_rebuy {lower upper : ℚ} (hphase : s.phase = .awaitingRebuy)
    (hlower : s.rebuyBandLowerQuote = some lower) (hupper : s.rebuyBandUpperQuote = some upper)
    (hratio : policy.maximumRebuyRatioPerStage = 1)
    (hremaining : policy.minimumNotionalQuote ≤ s.remainingRebuyQuote) :
    ∃ steps, Closes policy s steps := by
  have hvalid := RotationFields.passes_iff.mp s.passes
  have hpos : 0 < s.remainingRebuyQuote := policy.notional_pos.trans_le hremaining
  have hprice : 0 < lower := hvalid.prices_pos s.rebuyBandLowerQuote (by simp) lower hlower
  have hband : lower < upper := hvalid.band_lt lower hlower upper hupper
  -- the proposal spends the whole remainder at the lower end of the band
  obtain ⟨proposed, hproposed⟩ := exists_proposed (s := s) hprice
  obtain ⟨closed, hclosed⟩ := exists_closed proposed
  have hreview : (RotationStep.review (cashFor s.remainingRebuyQuote hpos.le)
      (reclaimedAt lower hprice)).result .exact policy s = .ok (proposed, true) := by
    have hblockers : rebuyBlockers .exact s (cashFor s.remainingRebuyQuote hpos.le)
        (reclaimedAt lower hprice) policy = [] := by
      have htolerance := mul_nonneg hprice.le policy.ratios_nonneg.2.2.1
      have hsupport : ¬ lower * (1 + policy.supportToleranceRatio) < lower := by
        linarith
      simp [rebuyBlockers, blockerWhen, hlower, hupper, cashFor, reclaimedAt,
        InventoryBuckets.availableCashQuote, hsupport, not_le.mpr hpos, not_lt.mpr hband.le]
    have hnotional : s.remainingRebuyQuote = Arithmetic.exact.mul
        (min s.remainingRebuyQuote
          ((cashFor s.remainingRebuyQuote hpos.le).availableCashQuote .exact))
        policy.maximumRebuyRatioPerStage := by
      simp [InventoryBuckets.availableCashQuote, cashFor, hratio]
    have hproposal := rebuyReview_eq_ok (t := proposed) hnotional hblockers hremaining hproposed
    have hrisk : ¬ (reclaimedAt lower hprice).riskBlockers ≠ [] := not_not.mpr rfl
    rw [RotationStep.result, InventoryRotationProposalEngine.review, if_neg hrisk, hphase]
    dsimp only
    rw [hproposal]
    rfl
  have hconfirm : (RotationStep.confirmRebuy s.remainingRebuyQuote (.aware 0)).result .exact policy
      proposed = .ok (closed, true) := by
    have hremaining' : proposed.remainingRebuyQuote = s.remainingRebuyQuote := by rw [hproposed]
    have hphase' : proposed.phase = .rebuyProposed := by rw [hproposed]
    have hspent : 0 < s.remainingRebuyQuote ∧
        s.remainingRebuyQuote ≤ min proposed.pendingNotionalQuote proposed.remainingRebuyQuote := by
      rw [hproposed]
      exact ⟨hpos, le_min le_rfl le_rfl⟩
    have hzero : Arithmetic.exact.sub proposed.remainingRebuyQuote s.remainingRebuyQuote = 0 := by
      rw [hremaining', Arithmetic.exact_sub, sub_self]
    rw [RotationStep.result, InventoryRotationProposalEngine.confirmRebuy,
      raiseIf_of_not (not_not.mpr hphase'), ok_bind, raiseIf_of_not (not_not.mpr hspent), ok_bind]
    dsimp only
    rw [hzero, if_pos rfl, InventoryRotationState.create_eq_ok.mpr hclosed]
    rfl
  refine ⟨[.review (cashFor s.remainingRebuyQuote hpos.le) (reclaimedAt lower hprice),
    .confirmRebuy s.remainingRebuyQuote (.aware 0)], ?_, ?_⟩
  · intro buckets context hmem
    simp only [List.mem_cons, RotationStep.review.injEq, List.not_mem_nil, or_false,
      reduceCtorEq] at hmem
    obtain ⟨rfl, rfl⟩ := hmem
    refine ⟨by simp [InventoryBuckets.availableCashQuote, cashFor], ?_, ?_⟩
    · intro lower' hlower'
      obtain rfl : lower = lower' := Option.some.inj (hlower.symm.trans hlower')
      exact le_rfl
    · intro upper' hupper'
      obtain rfl : upper = upper' := Option.some.inj (hupper.symm.trans hupper')
      exact hband.le
  · have hfirst := after_state (r := ⟨s, []⟩) hreview
    rw [RotationRun.run, List.foldl_cons, List.foldl_cons, List.foldl_nil,
      after_state (t := closed) (by rw [hfirst]; exact hconfirm), hclosed]

/-- **Exactly when a cycle can be closed**: a cycle that awaits its rebuy under a policy can be
closed if and only if a stage may spend the whole remainder, and the remainder is not below the
minimum notional. -/
theorem rotation_closes_iff (policy : InventoryRotationPolicy) (s : InventoryRotationState)
    (hreach : Reachable policy s) (hphase : s.phase = .awaitingRebuy)
    (hproceeds : policy.minimumNotionalQuote ≤ s.proceedsQuote) :
    (∃ steps, Closes policy s steps) ↔
      policy.maximumRebuyRatioPerStage = 1 ∧
        policy.minimumNotionalQuote ≤ s.remainingRebuyQuote := by
  constructor
  · rintro ⟨steps, hcloses⟩
    by_contra hne
    rcases not_and_or.mp hne with hratio | hremaining
    · have hlt := lt_of_le_of_ne policy.rebuyRatio_bounds.2 hratio
      exact not_closes_of_ratio_lt hphase hlt steps hcloses.closed
    · exact not_closes_of_remaining_lt hphase (not_le.mp hremaining) steps hcloses.closed
  · rintro ⟨hratio, hremaining⟩
    obtain ⟨cycleId, timestamp, start, before, hstart, rfl⟩ := hreach
    obtain ⟨_, _, _, lower, upper, _, hsold⟩ :=
      (run_accounts .exact policy hstart before).sold (by simp [hphase])
        (by simp [hphase])
    exact closes_of_whole_rebuy hphase hsold.band_eq.1 hsold.band_eq.2 hratio hremaining

end Closing

lemma wholeRebuy_bounds : (0 : ℚ) < 1 ∧ (1 : ℚ) ≤ 1 := ⟨one_pos, le_rfl⟩

/-- A policy whose stages may spend the whole remainder. -/
def wholeRebuy : InventoryRotationPolicy where
  maximumRebuyRatioPerStage := 1
  ratios_nonneg := InventoryRotationPolicy.default_ratios
  sellRatio_bounds := InventoryRotationPolicy.default_sellRatio
  rebuyRatio_bounds := wholeRebuy_bounds
  notional_pos := InventoryRotationPolicy.default_notional
  discount_bounds := InventoryRotationPolicy.default_discount

/-- A cycle after a sale of thirty. -/
def afterSale (policy : InventoryRotationPolicy) : InventoryRotationState :=
  (RotationRun.run .exact policy newCycle ((saleAndRebuy 0).take 2)).state

lemma afterSale_reachable (policy : InventoryRotationPolicy) :
    Reachable policy (afterSale policy) := by
  refine ⟨"rotation-1", .aware 0, newCycle, (saleAndRebuy 0).take 2, ?_, rfl⟩
  rw [InventoryRotationState.new, InventoryRotationState.create_eq_ok]
  rfl

/-- With stages for the whole remainder a cycle after a sale of thirty can be closed. -/
theorem whole_rebuy_closes : ∃ steps, Closes wholeRebuy (afterSale wholeRebuy) steps := by
  refine (rotation_closes_iff wholeRebuy (afterSale wholeRebuy) (afterSale_reachable wholeRebuy)
    ?_ ?_).mpr ⟨rfl, ?_⟩
  · decide +kernel
  · decide +kernel
  · decide +kernel

/-- Under the default policy the same cycle cannot be closed. -/
theorem default_rotation_stays_open :
    Reachable defaultRotation (afterSale defaultRotation) ∧
      (afterSale defaultRotation).phase = .awaitingRebuy ∧
      defaultRotation.minimumNotionalQuote ≤ (afterSale defaultRotation).proceedsQuote ∧
      ∀ steps, (RotationRun.run .exact defaultRotation (afterSale defaultRotation)
        steps).state.phase ≠ .closed := by
  have hphase : (afterSale defaultRotation).phase = .awaitingRebuy := by decide +kernel
  refine ⟨afterSale_reachable defaultRotation, hphase, by decide +kernel, ?_⟩
  exact not_closes_of_ratio_lt hphase (by norm_num [defaultRotation])

end Ai4Binance
