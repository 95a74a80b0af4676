/-
The structural leverage governor and the liquidation solver (`virtual_runtime_risk.py`).

The governor looks at one price, the stressed stop: the margin of the lowest feasible leverage
must exceed the loss and the maintenance there.  The solver looks for the price at which the
margin is the maintenance.

* `Permits`: what the governor has checked of a leverage it permits;
* `liquidation_beyond_stop`: the solver finds the liquidation beyond the stressed stop;
* `Arithmetic.assessStructuralLeverage`: the governor in rounded arithmetic;
* `governor_and_solver_agree`: **both together**, when no operation rounds;
* `permitted_margin_unavailable`: with rounding the permitted margin can be unavailable.
-/
import Ai4Binance.Virtual.Liquidation
import Ai4Binance.Backtesting.FuturesTrade
import Ai4Binance.Backtesting.SpotConservation

open Check

namespace Ai4Binance

namespace VirtualPortfolioRiskGovernor

variable {governor : VirtualPortfolioRiskGovernor}
  {entry stop quantity markPrice availableMargin riskBudget roundTripCostRatio : ℚ}
  {evidence : StructuralEvidence} {approved : Bool} {leverage : ℤ}

/-- The tiers in the order of their floors. -/
def orderedBrackets (evidence : StructuralEvidence) : List FuturesRiskBracket :=
  evidence.brackets.insertionSort (·.notionalFloor ≤ ·.notionalFloor)

/-- What the governor has checked of a leverage that it permits: `stressedStop` is the stop
under stress and `tiers` are those of the entry, the mark and the stressed stop. -/
structure Permits (governor : VirtualPortfolioRiskGovernor)
    (entry stop quantity markPrice availableMargin roundTripCostRatio : ℚ)
    (evidence : StructuralEvidence) (leverage : ℤ) (stressedStop lossPerUnit : ℚ)
    (entryTier markTier stopTier : FuturesRiskBracket) : Prop where
  entry_pos : 0 < entry
  quantity_pos : 0 < quantity
  margin_pos : 0 < availableMargin
  stop_ne : entry ≠ stop
  valid : validateFuturesBrackets (orderedBrackets evidence) = .ok ()
  loss_eq : ∃ funding stress, 0 ≤ roundTripCostRatio + funding ∧ 0 ≤ stress ∧
    (stressedStop, lossPerUnit) = structuralMarginLossPerUnit entry stop markPrice
      (roundTripCostRatio + funding) stress
  stressed_pos : 0 < stressedStop
  tiers_eq : stressTiers (orderedBrackets evidence) [entry, markPrice, stressedStop] quantity =
    some [entryTier, markTier, stopTier]
  leverage_eq : leverage = max 1 ⌈entry * quantity / availableMargin⌉
  leverage_le : leverage ≤ min governor.maximumFuturesLeverage
    (min entryTier.initialLeverage (min markTier.initialLeverage stopTier.initialLeverage))
  surplus_pos : 0 < entry * quantity / leverage - lossPerUnit * quantity -
    max 0 (stressedStop * quantity * stopTier.maintenanceRatio - stopTier.cumulativeMaintenance)

/-- What the vetoes on the inputs leave. -/
lemma structuralInputBlockers_eq_nil {positive : List ℚ} {ratios : List (Option ℚ)}
    (h : structuralInputBlockers positive entry stop ratios = []) :
    (∀ x ∈ positive, 0 < x) ∧ entry ≠ stop ∧ ∀ ratio, some ratio ∈ ratios → 0 ≤ ratio := by
  rw [structuralInputBlockers] at h
  split_ifs at h with hfinite hinvalid
  simp only [List.any_eq_true, decide_eq_true_eq, not_or, not_exists, not_and, not_le,
    Option.any_eq_true_iff_get, not_lt] at hinvalid
  obtain ⟨hpositive, hne, hratios⟩ := hinvalid
  refine ⟨hpositive, hne, fun ratio hratio => ?_⟩
  simpa using (hratios _ hratio rfl).1

/-- Inversion of an assessment that permits a leverage. -/
lemma assess_permits
    (h : (governor.assessStructuralLeverage entry stop quantity markPrice availableMargin riskBudget
      roundTripCostRatio evidence approved).permittedLeverage = some leverage) :
    ∃ stressedStop lossPerUnit entryTier markTier stopTier,
      governor.Permits entry stop quantity markPrice availableMargin roundTripCostRatio evidence
        leverage stressedStop lossPerUnit entryTier markTier stopTier ∧
      (governor.assessStructuralLeverage entry stop quantity markPrice availableMargin riskBudget
        roundTripCostRatio evidence approved).initialMargin = some (entry * quantity / leverage) ∧
      (governor.assessStructuralLeverage entry stop quantity markPrice availableMargin riskBudget
        roundTripCostRatio evidence approved).stressedStopMark = some stressedStop := by
  unfold assessStructuralLeverage at h ⊢
  dsimp only at h ⊢
  split at h
  · rename_i funding stress hblockers hfunding hstress
    generalize hloss : structuralMarginLossPerUnit entry stop markPrice
      (roundTripCostRatio + funding) stress = pair at h ⊢
    obtain ⟨stressedStop, lossPerUnit⟩ := pair
    dsimp only at h ⊢
    obtain ⟨hinput, hcodes⟩ := List.append_eq_nil_iff.mp hblockers
    obtain ⟨hpositive, hne, hratios⟩ := structuralInputBlockers_eq_nil hinput
    have hvalid : validateFuturesBrackets (orderedBrackets evidence) = .ok () := by
      by_contra hinvalid
      rw [orderedBrackets] at hinvalid
      simp [failedCodes, hinvalid] at hcodes
    have hcost : 0 ≤ roundTripCostRatio := hratios _ (by simp)
    have hfunding_nonneg : 0 ≤ funding := hratios _ (by simp [hfunding])
    have hstress_nonneg : 0 ≤ stress := hratios _ (by simp [hstress])
    split_ifs at h ⊢ with hstressed hbudget
    split at h
    · rename_i entryTier markTier stopTier htiers
      split_ifs at h ⊢ with hfeasible hsurplus
      obtain rfl := Option.some.inj h
      refine ⟨stressedStop, lossPerUnit, entryTier, markTier, stopTier, ?_, rfl, rfl⟩
      exact
        { entry_pos := hpositive _ (by simp)
          quantity_pos := hpositive _ (by simp)
          margin_pos := hpositive _ (by simp)
          stop_ne := hne
          valid := hvalid
          loss_eq := ⟨funding, stress, add_nonneg hcost hfunding_nonneg, hstress_nonneg, hloss.symm⟩
          stressed_pos := not_le.mp hstressed
          tiers_eq := htiers
          leverage_eq := rfl
          leverage_le := not_lt.mp hfeasible
          surplus_pos := not_le.mp hsurplus }
    · exact absurd h (by simp)
  · exact absurd h (by simp)

/-! ### The tiers -/

/-- Every stressed price has a tier that covers its notional. -/
lemma forall₂_of_stressTiers {brackets tiers : List FuturesRiskBracket} {prices : List ℚ}
    (h : stressTiers brackets prices quantity = some tiers) :
    List.Forall₂ (fun price b => b ∈ brackets ∧ b.tier.Covers (price * quantity)) prices tiers := by
  induction prices generalizing tiers with
  | nil =>
    obtain rfl : tiers = [] := by simpa [stressTiers, eq_comm] using h
    exact List.Forall₂.nil
  | cons price rest ih =>
    simp only [stressTiers, List.mapM_cons, Option.bind_eq_bind, Option.bind_eq_some_iff,
      Option.pure_def, Option.some.injEq] at h
    obtain ⟨b, hfind, bs, hrest, rfl⟩ := h
    have hcovers := List.find?_some hfind
    rw [decide_eq_true_eq] at hcovers
    exact List.Forall₂.cons ⟨List.mem_of_find?_eq_some hfind, hcovers⟩ (ih hrest)

lemma mem_orderedBrackets {b : FuturesRiskBracket} :
    b ∈ orderedBrackets evidence ↔ b ∈ evidence.brackets :=
  (List.perm_insertionSort _ _).mem_iff

/-- A table that passes the validation is in the order of its floors. -/
lemma orderedBrackets_eq (h : validateFuturesBrackets evidence.brackets = .ok ()) :
    orderedBrackets evidence = evidence.brackets := by
  refine List.Pairwise.insertionSort_eq ?_
  obtain ⟨hchain, -, -, -⟩ := tiers_chain h
  rw [List.isChain_map] at hchain
  have hfloors : evidence.brackets.IsChain (·.notionalFloor ≤ ·.notionalFloor) := by
    refine hchain.imp fun left right hcontinues => ?_
    have hcap : left.notionalCap = right.notionalFloor := hcontinues.1
    exact hcap ▸ left.floor_lt_cap.le
  have htrans : IsTrans FuturesRiskBracket (·.notionalFloor ≤ ·.notionalFloor) :=
    ⟨fun _ _ _ => le_trans⟩
  exact hfloors.pairwise

namespace Permits

variable {stressedStop lossPerUnit : ℚ} {entryTier markTier stopTier : FuturesRiskBracket}
  (h : governor.Permits entry stop quantity markPrice availableMargin roundTripCostRatio evidence
    leverage stressedStop lossPerUnit entryTier markTier stopTier)

include h

/-- The tiers of the three prices are tiers of the table. -/
lemma tiers_cover : (entryTier ∈ orderedBrackets evidence ∧ entryTier.tier.Covers (entry * quantity)) ∧
    (markTier ∈ orderedBrackets evidence ∧ markTier.tier.Covers (markPrice * quantity)) ∧
    (stopTier ∈ orderedBrackets evidence ∧ stopTier.tier.Covers (stressedStop * quantity)) := by
  have htiers := forall₂_of_stressTiers h.tiers_eq
  simpa [List.forall₂_cons, List.forall₂_nil_left_iff] using htiers

lemma one_le_leverage : 1 ≤ leverage := by
  rw [h.leverage_eq]
  exact le_max_left _ _

/-- The margin is available. -/
lemma margin_le : entry * quantity / leverage ≤ availableMargin := by
  have hleverage : (0 : ℚ) < leverage := by
    exact_mod_cast h.one_le_leverage
  have hceil : entry * quantity / availableMargin ≤ leverage := by
    rw [h.leverage_eq]
    refine (Int.le_ceil _).trans ?_
    exact_mod_cast le_max_right 1 _
  rw [div_le_iff₀ h.margin_pos] at hceil
  rw [div_le_iff₀ hleverage]
  linarith

/-- No smaller leverage has its margin available. -/
lemma leverage_minimal {n : ℤ} (hn : 1 ≤ n) (hmargin : entry * quantity / n ≤ availableMargin) :
    leverage ≤ n := by
  have hn_pos : (0 : ℚ) < n := by
    exact_mod_cast hn
  rw [h.leverage_eq]
  refine max_le hn (Int.ceil_le.mpr ?_)
  rw [div_le_iff₀ hn_pos] at hmargin
  rw [div_le_iff₀ h.margin_pos]
  linarith

/-- The loss of a unit down to the stressed stop is part of the loss assessed. -/
lemma stressed_loss_le : |entry - stressedStop| ≤ lossPerUnit := by
  obtain ⟨funding, stress, hratio, -, hloss⟩ := h.loss_eq
  simp only [structuralMarginLossPerUnit, Prod.mk.injEq] at hloss
  obtain ⟨hstop, hloss⟩ := hloss
  rw [← hstop] at hloss
  have hcosts := mul_nonneg h.entry_pos.le hratio
  linarith

/-- The stressed stop lies on the losing side of the entry. -/
lemma stressed_side : if stop < entry then stressedStop < entry else entry < stressedStop := by
  obtain ⟨funding, stress, -, hstress, hloss⟩ := h.loss_eq
  simp only [structuralMarginLossPerUnit, Prod.mk.injEq] at hloss
  have habs := abs_nonneg (markPrice - entry)
  have hstressed := mul_nonneg h.entry_pos.le hstress
  split_ifs with hlong
  · rw [if_pos hlong] at hloss
    linarith [hloss.1]
  · rw [if_neg hlong] at hloss
    have hshort := lt_of_le_of_ne (not_lt.mp hlong) h.stop_ne
    linarith [hloss.1]

/-- The position is solvent at the stressed stop with every margin from the permitted one. -/
lemma solvent {walletMargin : ℚ} (hwallet : entry * quantity / leverage ≤ walletMargin) :
    stopTier.tier.charge (stressedStop * quantity) + |entry - stressedStop| * quantity <
      walletMargin := by
  have hsurplus := h.surplus_pos
  have hloss := mul_le_mul_of_nonneg_right h.stressed_loss_le h.quantity_pos.le
  have hmaintenance := le_max_right 0
    (stressedStop * quantity * stopTier.maintenanceRatio - stopTier.cumulativeMaintenance)
  have hcharge : stopTier.tier.charge (stressedStop * quantity) =
      stressedStop * quantity * stopTier.maintenanceRatio - stopTier.cumulativeMaintenance := by
    rw [Tier.charge, FuturesRiskBracket.tier]
    ring
  linarith

/-- The solver finds the liquidation beyond the stressed stop. -/
lemma liquidation_beyond_stop {walletMargin price : ℚ}
    (hwallet : entry * quantity / leverage ≤ walletMargin)
    (hprice : isolatedLiquidationPrice (decide (stop < entry)) entry quantity walletMargin
      evidence.brackets = .ok price) :
    if stop < entry then price < stressedStop else stressedStop < price := by
  obtain ⟨hvalid, -, -, hsolved⟩ := isolatedLiquidationPrice_eq_ok hprice
  obtain ⟨-, -, hmem, hcovers⟩ := h.tiers_cover
  rw [orderedBrackets_eq hvalid] at hmem
  have hside := h.stressed_side
  have hsolvent := h.solvent hwallet
  by_cases hlong : stop < entry
  · rw [if_pos hlong] at hside ⊢
    rw [abs_of_pos (by linarith)] at hsolvent
    rcases hsolved with ⟨-, rfl⟩ | ⟨b, hb, hliquidates⟩
    · exact h.stressed_pos
    · rw [decide_eq_true hlong] at hliquidates
      exact lt_of_solvent_long hvalid h.quantity_pos hb hmem hcovers hliquidates (by linarith)
  · rw [if_neg hlong] at hside ⊢
    rw [abs_of_neg (by linarith)] at hsolvent
    rcases hsolved with ⟨htrue, -⟩ | ⟨b, hb, hliquidates⟩
    · exact absurd (of_decide_eq_true htrue) hlong
    · rw [decide_eq_false hlong] at hliquidates
      exact lt_of_solvent_short hvalid h.quantity_pos hb hmem hcovers hliquidates (by linarith)

end Permits

end VirtualPortfolioRiskGovernor

/-! ### Rounded arithmetic -/

namespace Arithmetic

variable (a : Arithmetic)

/-- `structural_margin_loss_per_unit`, every operation rounded. -/
def structuralMarginLossPerUnit (entry stop markPrice costAndFundingRatio markStressRatio : ℚ) :
    ℚ × ℚ :=
  let sign : ℚ := if stop < entry then 1 else -1
  let stressedStop := a.sub stop
    (a.mul sign (a.add |a.sub markPrice entry| (a.mul entry markStressRatio)))
  (stressedStop, a.add |a.sub entry stressedStop| (a.mul entry costAndFundingRatio))

/-- `_stress_tiers`, of tiers that are compared with the rounded notional. -/
def stressTiers (brackets : List FuturesRiskBracket) (prices : List ℚ) (quantity : ℚ) :
    Option (List FuturesRiskBracket) :=
  prices.mapM fun price => brackets.find? fun b =>
    b.notionalFloor ≤ a.mul price quantity ∧ a.mul price quantity < b.notionalCap

/-- `assess_structural_leverage`, every operation rounded. -/
def assessStructuralLeverage (governor : VirtualPortfolioRiskGovernor) (entry stop quantity
    markPrice availableMargin riskBudget roundTripCostRatio : ℚ) (evidence : StructuralEvidence)
    (strategyOosApproved : Bool) : StructuralLeverageAssessment :=
  let ordered := evidence.brackets.insertionSort (·.notionalFloor ≤ ·.notionalFloor)
  let blockers :=
    VirtualPortfolioRiskGovernor.structuralInputBlockers
      [entry, stop, quantity, markPrice, availableMargin, riskBudget] entry stop
      [some roundTripCostRatio, evidence.adverseFundingRatio, evidence.markStressRatio] ++
    failedCodes
      [(!strategyOosApproved, "SIMULATED_LEVERAGE_OOS_APPROVAL_MISSING"),
        (validateFuturesBrackets ordered ≠ .ok (),
          "FUTURES_RISK_BRACKETS_UNAVAILABLE_OR_INCONSISTENT")]
  match blockers, evidence.adverseFundingRatio, evidence.markStressRatio with
  | [], some funding, some stress =>
      let (stressedStop, lossPerUnit) := a.structuralMarginLossPerUnit entry stop markPrice
        (a.add roundTripCostRatio funding) stress
      if stressedStop ≤ 0 then ⟨none, none, none, none, ["FUTURES_STRESSED_STOP_INVALID"]⟩
      else
        let notional := a.mul entry quantity
        let loss := a.mul lossPerUnit quantity
        if riskBudget < loss then
          ⟨none, none, some stressedStop, none, ["FUTURES_STRESSED_RISK_BUDGET_EXCEEDED"]⟩
        else
          match a.stressTiers ordered [entry, markPrice, stressedStop] quantity with
          | some [tier₁, tier₂, tier] =>
              let maximum := min governor.maximumFuturesLeverage
                (min tier₁.initialLeverage (min tier₂.initialLeverage tier.initialLeverage))
              let required := max 1 ⌈a.div notional availableMargin⌉
              if maximum < required then
                ⟨none, none, some stressedStop, none, ["SIMULATED_LEVERAGE_FEASIBILITY_EXCEEDED"]⟩
              else
                let margin := a.div notional required
                let maintenance := max 0
                  (a.sub (a.mul (a.mul stressedStop quantity) tier.maintenanceRatio)
                    tier.cumulativeMaintenance)
                let surplus := a.sub (a.sub margin loss) maintenance
                if surplus ≤ 0 then
                  ⟨none, none, some stressedStop, some surplus,
                    ["FUTURES_LIQUIDATION_BEFORE_STRESSED_STOP"]⟩
                else ⟨some required, some margin, some stressedStop, some surplus, []⟩
          | _ => ⟨none, none, some stressedStop, none, ["FUTURES_NOTIONAL_OUTSIDE_BRACKETS"]⟩
  | blockers, _, _ => ⟨none, none, none, none, blockers.eraseDups⟩

/-- Without rounding it is the assessment above. -/
lemma exact_assessStructuralLeverage (governor : VirtualPortfolioRiskGovernor) (entry stop quantity
    markPrice availableMargin riskBudget roundTripCostRatio : ℚ) (evidence : StructuralEvidence)
    (approved : Bool) :
    exact.assessStructuralLeverage governor entry stop quantity markPrice availableMargin riskBudget
        roundTripCostRatio evidence approved =
      governor.assessStructuralLeverage entry stop quantity markPrice availableMargin riskBudget
        roundTripCostRatio evidence approved := by
  rw [assessStructuralLeverage, VirtualPortfolioRiskGovernor.assessStructuralLeverage]
  rfl

lemma exact_solveTiers (long : Bool) (entry quantity walletMargin : ℚ)
    (brackets : List FuturesRiskBracket) :
    exact.solveTiers long entry quantity walletMargin brackets =
      Ai4Binance.solveTiers long entry quantity walletMargin brackets := by
  induction brackets with
  | nil => rfl
  | cons tier rest ih =>
    rw [solveTiers, Ai4Binance.solveTiers, ih]
    rfl

lemma exact_isolatedLiquidationPrice (long : Bool) (entry quantity walletMargin : ℚ)
    (brackets : List FuturesRiskBracket) :
    exact.isolatedLiquidationPrice long entry quantity walletMargin brackets =
      Ai4Binance.isolatedLiquidationPrice long entry quantity walletMargin brackets := by
  rw [isolatedLiquidationPrice, Ai4Binance.isolatedLiquidationPrice, exact_solveTiers]

end Arithmetic

/-! ### Agreement -/

/-- **The governor and the solver agree** when no operation rounds: a leverage that the governor
permits is the lowest whose margin is available, within its cap and those of the tiers of the
entry, the mark and the stressed stop, and with its margin or more the solver finds the
liquidation beyond the stressed stop. -/
theorem governor_and_solver_agree (governor : VirtualPortfolioRiskGovernor)
    (entry stop quantity markPrice availableMargin riskBudget roundTripCostRatio : ℚ)
    (evidence : StructuralEvidence) (approved : Bool) (leverage : ℤ)
    (h : (Arithmetic.exact.assessStructuralLeverage governor entry stop quantity markPrice
      availableMargin riskBudget roundTripCostRatio evidence approved).permittedLeverage =
        some leverage) :
    ∃ margin stressedStop,
      (Arithmetic.exact.assessStructuralLeverage governor entry stop quantity markPrice
        availableMargin riskBudget roundTripCostRatio evidence approved).initialMargin =
          some margin ∧
      (Arithmetic.exact.assessStructuralLeverage governor entry stop quantity markPrice
        availableMargin riskBudget roundTripCostRatio evidence approved).stressedStopMark =
          some stressedStop ∧
      margin = entry * quantity / leverage ∧ margin ≤ availableMargin ∧
      (1 ≤ leverage ∧ ∀ n : ℤ, 1 ≤ n → entry * quantity / n ≤ availableMargin → leverage ≤ n) ∧
      leverage ≤ governor.maximumFuturesLeverage ∧
      (∀ price ∈ [entry, markPrice, stressedStop], ∃ b ∈ evidence.brackets,
        (b.notionalFloor ≤ price * quantity ∧ price * quantity < b.notionalCap) ∧
        leverage ≤ b.initialLeverage) ∧
      ∀ walletMargin price, margin ≤ walletMargin →
        Arithmetic.exact.isolatedLiquidationPrice (decide (stop < entry)) entry quantity
          walletMargin evidence.brackets = .ok price →
        if stop < entry then price < stressedStop else stressedStop < price := by
  rw [Arithmetic.exact_assessStructuralLeverage] at h ⊢
  obtain ⟨stressedStop, lossPerUnit, entryTier, markTier, stopTier, hpermits, hmargin, hstressed⟩ :=
    VirtualPortfolioRiskGovernor.assess_permits h
  obtain ⟨hcap, htiers⟩ := le_min_iff.mp hpermits.leverage_le
  obtain ⟨hentry, htiers⟩ := le_min_iff.mp htiers
  obtain ⟨hmark, hstop⟩ := le_min_iff.mp htiers
  obtain ⟨⟨hentry_mem, hentry_covers⟩, ⟨hmark_mem, hmark_covers⟩, hstop_mem, hstop_covers⟩ :=
    hpermits.tiers_cover
  rw [VirtualPortfolioRiskGovernor.mem_orderedBrackets] at hentry_mem hmark_mem hstop_mem
  refine ⟨_, stressedStop, hmargin, hstressed, rfl, hpermits.margin_le,
    ⟨hpermits.one_le_leverage, fun n => hpermits.leverage_minimal⟩, hcap, ?_, ?_⟩
  · intro price hprice
    simp only [List.mem_cons, List.not_mem_nil, or_false] at hprice
    rcases hprice with rfl | rfl | rfl
    · exact ⟨entryTier, hentry_mem, hentry_covers, hentry⟩
    · exact ⟨markTier, hmark_mem, hmark_covers, hmark⟩
    · exact ⟨stopTier, hstop_mem, hstop_covers, hstop⟩
  · intro walletMargin price hwallet hprice
    rw [Arithmetic.exact_isolatedLiquidationPrice] at hprice
    exact hpermits.liquidation_beyond_stop hwallet hprice

lemma singleTier_floor : (0 : ℚ) ≤ 0 := le_rfl

lemma singleTier_cap : (0 : ℚ) < 1000 := by norm_num

lemma singleTier_leverage : (1 : ℤ) ≤ 125 := by norm_num

/-- One tier for every notional below a thousand. -/
def singleTier : FuturesRiskBracket where
  notionalFloor := 0
  notionalCap := 1000
  initialLeverage := 125
  maintenanceRatio := 1 / 1000
  cumulativeMaintenance := 0
  floor_nonneg := singleTier_floor
  floor_lt_cap := singleTier_cap
  ratio_pos := by norm_num
  ratio_lt_one := by norm_num
  cumulative_nonneg := singleTier_floor
  cumulative_le := by norm_num
  leverage_pos := singleTier_leverage

/-- A long position of three with half of its notional available: the permitted leverage is two,
and the solver has its price below the stressed stop. -/
theorem half_margin_agrees : ∃ margin stressedStop price,
    margin ≤ (3 / 2 : ℚ) ∧
    Arithmetic.exact.isolatedLiquidationPrice true 3 1 margin [singleTier] = .ok price ∧
    price < stressedStop := by
  obtain ⟨margin, stressedStop, hmargin, -, -, hle, -, -, -, hsolver⟩ :=
    governor_and_solver_agree .default 3 (29 / 10) 1 3 (3 / 2) 1 0
      ⟨[singleTier], some 0, some 0⟩ true 2 (by decide +kernel)
  have hrun : (Arithmetic.exact.isolatedLiquidationPrice true 3 1 (3 / 2) [singleTier]) =
      .ok (500 / 333) := by
    decide +kernel
  have hmargin' : margin = 3 / 2 := by
    refine Option.some.inj (hmargin.symm.trans ?_)
    decide +kernel
  subst hmargin'
  have hlt := hsolver (3 / 2) (500 / 333) le_rfl (by
    rw [decide_eq_true (by norm_num : (29 / 10 : ℚ) < 3)]
    exact hrun)
  rw [if_pos (by norm_num)] at hlt
  exact ⟨3 / 2, stressedStop, 500 / 333, hle, hrun, hlt⟩

/-- In the decimal context the quotient of the notional and the available margin can round down
to an integer, and then the margin of the permitted leverage is more than is available. -/
theorem permitted_margin_unavailable : ∃ availableMargin margin : ℚ,
    (Arithmetic.decimal.assessStructuralLeverage .default 3 (29 / 10) 1 3 availableMargin 1 0
      ⟨[singleTier], some 0, some 0⟩ true).permittedLeverage = some 3 ∧
    (Arithmetic.decimal.assessStructuralLeverage .default 3 (29 / 10) 1 3 availableMargin 1 0
      ⟨[singleTier], some 0, some 0⟩ true).initialMargin = some margin ∧
    availableMargin < margin := by
  refine ⟨1 - 1 / 10 ^ 28, 1, ?_, ?_, by norm_num⟩
  · decide +kernel
  · decide +kernel

end Ai4Binance
