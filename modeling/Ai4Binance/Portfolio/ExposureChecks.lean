/-
Exposure limits (`domain/portfolio_risk.py`).

A list of exposures is checked as a whole, or a proposal is checked against the list it would
join.  The first looks at every symbol, correlation group and strategy, the second only at those
of the proposal.  Totals are decimal sums, which round.

* `PositionExposure`, `PortfolioRiskPolicy`, `PortfolioRiskAssessment`: the data, with the checks
  of their constructors as fields;
* `assessProposedExposure`, `assessCurrentExposure`: the two checks;
* `approved_append`: the two checks agree on a list that is approved;
* `assessCurrentExposure_ofExact`: the checks in exact arithmetic (`Virtual/Risk.lean`) are those of
  sums that are not rounded;
* `exposure_checks_agree`: **what a run of accepted proposals keeps, and when the order of a list
  does not matter**;
* `rounded_order_matters`: two orders of a list whose sums are rounded.
-/
import Ai4Binance.Lib.Python
import Ai4Binance.Lib.ExactSums
import Ai4Binance.Virtual.Risk

open Check Text

namespace Ai4Binance.DecimalExposure

/-! ### Exposures, limits and assessments -/

/-- An amount that is not `NaN`: finite, or infinite. -/
abbrev Amount : Type := WithTop ℚ

/-- `PositionExposure`. -/
structure PositionExposure where
  symbol : String
  strategyId : String
  correlationGroup : String
  notionalUsdt : Amount
  symbol_not_blank : isBlank symbol = false
  strategyId_not_blank : isBlank strategyId = false
  correlationGroup_not_blank : isBlank correlationGroup = false
  notional_nonneg : 0 ≤ notionalUsdt

/-- `PortfolioRiskPolicy`. -/
structure PortfolioRiskPolicy where
  maximumGrossUsdt : Amount := (500 : ℚ)
  maximumSymbolUsdt : Amount := (250 : ℚ)
  maximumCorrelationGroupUsdt : Amount := (300 : ℚ)
  maximumStrategyUsdt : Amount := (250 : ℚ)
  gross_pos : 0 < maximumGrossUsdt
  symbol_pos : 0 < maximumSymbolUsdt
  group_pos : 0 < maximumCorrelationGroupUsdt
  strategy_pos : 0 < maximumStrategyUsdt

/-- `PortfolioRiskAssessment`. -/
structure PortfolioRiskAssessment where
  proposedSymbol : String
  grossAfterUsdt : Amount
  approvedForProposal : Bool
  blockers : List String
  deriving DecidableEq

/-- `PortfolioRiskAssessment(symbol, gross, not blockers, blockers)`. -/
def newAssessment (symbol : String) (gross : Amount) (blockers : List String) :
    Except PyError PortfolioRiskAssessment :=
  if isBlank symbol = true ∨ gross < 0 then .error (.value "portfolio assessment is invalid")
  else .ok ⟨symbol, gross, blockers.isEmpty, blockers⟩

/-! ### Totals -/

/-- `x + y`. -/
def addAmount : Amount → Amount → Option Amount
  | some x, some y => (Context.default.add x y).map WithTop.some
  | _, _ => some ⊤

/-- `sum(…, ZERO)` of the amounts of exposures. -/
def exposureTotal (exposures : List PositionExposure) : Option Amount :=
  exposures.foldlM (fun total item => addAmount total item.notionalUsdt) 0

/-- The exposures under a key. -/
def underKey (key : PositionExposure → String) (k : String) (exposures : List PositionExposure) :
    List PositionExposure :=
  exposures.filter (key · = k)

/-- A total, where it does not trap. -/
def requireTotal (exposures : List PositionExposure) : Except PyError Amount :=
  orRaise (exposureTotal exposures) .decimal

/-- The totals under the keys of a list. -/
def keyTotals (key : PositionExposure → String) (exposures : List PositionExposure) :
    Except PyError (List Amount) :=
  (exposures.map key).dedup.mapM fun k => requireTotal (underKey key k exposures)

/-- The codes of the checks that failed. -/
def exposureBlockers (gross symbol group strategy : Bool) : List String :=
  failedCodes [(gross, "PORTFOLIO_GROSS_LIMIT_EXCEEDED"),
    (symbol, "SYMBOL_EXPOSURE_LIMIT_EXCEEDED"), (group, "CORRELATION_GROUP_LIMIT_EXCEEDED"),
    (strategy, "STRATEGY_EXPOSURE_LIMIT_EXCEEDED")]

/-! ### The two checks -/

/-- `assess_proposed_exposure`. -/
def assessProposedExposure (current : List PositionExposure) (proposed : PositionExposure)
    (policy : PortfolioRiskPolicy) : Except PyError PortfolioRiskAssessment := do
  let combined := current ++ [proposed]
  let gross ← requireTotal combined
  let symbolTotal ← requireTotal (underKey (·.symbol) proposed.symbol combined)
  let groupTotal ← requireTotal (underKey (·.correlationGroup) proposed.correlationGroup combined)
  let strategyTotal ← requireTotal (underKey (·.strategyId) proposed.strategyId combined)
  newAssessment proposed.symbol gross
    (exposureBlockers (policy.maximumGrossUsdt < gross) (policy.maximumSymbolUsdt < symbolTotal)
      (policy.maximumCorrelationGroupUsdt < groupTotal)
      (policy.maximumStrategyUsdt < strategyTotal))

/-- `assess_current_exposure`. -/
def assessCurrentExposure (current : List PositionExposure) (policy : PortfolioRiskPolicy) :
    Except PyError PortfolioRiskAssessment := do
  let gross ← requireTotal current
  let symbolTotals ← keyTotals (·.symbol) current
  let groupTotals ← keyTotals (·.correlationGroup) current
  let strategyTotals ← keyTotals (·.strategyId) current
  newAssessment "CURRENT_PORTFOLIO" gross
    (exposureBlockers (policy.maximumGrossUsdt < gross)
      (symbolTotals.any (policy.maximumSymbolUsdt < ·))
      (groupTotals.any (policy.maximumCorrelationGroupUsdt < ·))
      (strategyTotals.any (policy.maximumStrategyUsdt < ·)))

/-- `approved_for_proposal`, of a check that returns. -/
def Approved (assessment : Except PyError PortfolioRiskAssessment) : Prop :=
  ∃ a, assessment = .ok a ∧ a.approvedForProposal = true

instance (assessment : Except PyError PortfolioRiskAssessment) : Decidable (Approved assessment) :=
  match assessment with
  | .ok a => decidable_of_iff (a.approvedForProposal = true)
      ⟨fun h => ⟨a, rfl, h⟩, fun ⟨_, ha, h⟩ => Except.ok.inj ha ▸ h⟩
  | .error _ => isFalse nofun

/-- Proposals in turn, of which the approved ones join the list. -/
def acceptApproved (policy : PortfolioRiskPolicy) :
    List PositionExposure → List PositionExposure → List PositionExposure
  | current, [] => current
  | current, proposed :: proposals =>
      if Approved (assessProposedExposure current proposed policy) then
        acceptApproved policy (current ++ [proposed]) proposals
      else acceptApproved policy current proposals

/-! ### What an approved list keeps -/

section Within

variable {key : PositionExposure → String} {k : String} {limit : Amount}
  {current exposures exposures' : List PositionExposure} {proposed : PositionExposure}
  {policy : PortfolioRiskPolicy}

/-- A total within a limit. -/
def Within (limit : Amount) (exposures : List PositionExposure) : Prop :=
  ∃ total, exposureTotal exposures = some total ∧ total ≤ limit

/-- The totals under every key of a list are within a limit. -/
def AllWithin (key : PositionExposure → String) (limit : Amount)
    (exposures : List PositionExposure) : Prop :=
  ∀ k ∈ exposures.map key, Within limit (underKey key k exposures)

lemma addAmount_nonneg {x y total : Amount} (hx : 0 ≤ x) (hy : 0 ≤ y)
    (h : addAmount x y = some total) : 0 ≤ total := by
  cases x with
  | none =>
      obtain rfl : ⊤ = total := Option.some.inj h
      exact le_top
  | some x =>
      cases y with
      | none =>
          obtain rfl : ⊤ = total := Option.some.inj h
          exact le_top
      | some y =>
          obtain ⟨r, hr, rfl⟩ := Option.map_eq_some_iff.mp h
          exact WithTop.coe_nonneg.mpr (Context.round_nonneg
            (add_nonneg (WithTop.coe_nonneg.mp hx) (WithTop.coe_nonneg.mp hy)) hr)

lemma foldlM_nonneg {start total : Amount} (hstart : 0 ≤ start)
    (h : exposures.foldlM (fun total item => addAmount total item.notionalUsdt) start =
      some total) : 0 ≤ total := by
  induction exposures generalizing start with
  | nil => exact Option.some.inj h ▸ hstart
  | cons item exposures ih =>
      rw [List.foldlM_cons] at h
      obtain ⟨next, hnext, h⟩ := Option.bind_eq_some_iff.mp h
      exact ih (addAmount_nonneg hstart item.notional_nonneg hnext) h

/-- A total is an amount that an assessment holds. -/
lemma exposureTotal_nonneg {total : Amount} (h : exposureTotal exposures = some total) :
    0 ≤ total :=
  foldlM_nonneg le_rfl h

lemma requireTotal_eq_ok {total : Amount} :
    requireTotal exposures = .ok total ↔ exposureTotal exposures = some total :=
  orRaise_eq_ok

/-- The codes are empty when no check fails. -/
lemma exposureBlockers_isEmpty {gross symbol group strategy : Bool} :
    (exposureBlockers gross symbol group strategy).isEmpty = true ↔
      gross = false ∧ symbol = false ∧ group = false ∧ strategy = false := by
  cases gross <;> cases symbol <;> cases group <;> cases strategy <;>
    simp [exposureBlockers, failedCodes]

/-- An assessment with codes. -/
lemma approved_newAssessment {symbol : String} {gross : Amount} {blockers : List String}
    (hsymbol : isBlank symbol = false) (hgross : 0 ≤ gross) :
    Approved (newAssessment symbol gross blockers) ↔ blockers.isEmpty = true := by
  have hok : ¬ (isBlank symbol = true ∨ gross < 0) :=
    not_or.mpr ⟨by simp [hsymbol], not_lt.mpr hgross⟩
  rw [Approved, newAssessment, if_neg hok]
  constructor
  · rintro ⟨a, ha, h⟩
    obtain rfl := Except.ok.inj ha
    exact h
  · exact fun h => ⟨_, rfl, h⟩

/-- The check of a proposal. -/
lemma approved_proposed :
    Approved (assessProposedExposure current proposed policy) ↔
      Within policy.maximumGrossUsdt (current ++ [proposed]) ∧
      Within policy.maximumSymbolUsdt
        (underKey (·.symbol) proposed.symbol (current ++ [proposed])) ∧
      Within policy.maximumCorrelationGroupUsdt
        (underKey (·.correlationGroup) proposed.correlationGroup (current ++ [proposed])) ∧
      Within policy.maximumStrategyUsdt
        (underKey (·.strategyId) proposed.strategyId (current ++ [proposed])) := by
  constructor
  · rintro ⟨a, ha, hok⟩
    rw [assessProposedExposure] at ha
    simp only [bind_eq_ok, requireTotal_eq_ok] at ha
    obtain ⟨gross, hgross, symbol, hsymbol, group, hgroup, strategy, hstrategy, ha⟩ := ha
    have happroved : Approved (newAssessment proposed.symbol gross (exposureBlockers
        (policy.maximumGrossUsdt < gross) (policy.maximumSymbolUsdt < symbol)
        (policy.maximumCorrelationGroupUsdt < group) (policy.maximumStrategyUsdt < strategy))) :=
      ⟨a, ha, hok⟩
    rw [approved_newAssessment proposed.symbol_not_blank (exposureTotal_nonneg hgross),
      exposureBlockers_isEmpty] at happroved
    simp only [decide_eq_false_iff_not, not_lt] at happroved
    obtain ⟨h1, h2, h3, h4⟩ := happroved
    exact ⟨⟨gross, hgross, h1⟩, ⟨symbol, hsymbol, h2⟩, ⟨group, hgroup, h3⟩,
      ⟨strategy, hstrategy, h4⟩⟩
  · rintro ⟨⟨gross, hgross, h1⟩, ⟨symbol, hsymbol, h2⟩, ⟨group, hgroup, h3⟩,
      ⟨strategy, hstrategy, h4⟩⟩
    rw [assessProposedExposure]
    simp only [requireTotal_eq_ok.mpr hgross, requireTotal_eq_ok.mpr hsymbol,
      requireTotal_eq_ok.mpr hgroup, requireTotal_eq_ok.mpr hstrategy, ok_bind]
    rw [approved_newAssessment proposed.symbol_not_blank (exposureTotal_nonneg hgross),
      exposureBlockers_isEmpty]
    simp only [decide_eq_false_iff_not, not_lt]
    exact ⟨h1, h2, h3, h4⟩

/-- The totals under the keys of a list, all within a limit. -/
lemma allWithin_iff : AllWithin key limit exposures ↔
    ∃ totals, keyTotals key exposures = .ok totals ∧ totals.any (limit < ·) = false := by
  constructor
  · intro h
    have htotals : ∀ k ∈ (exposures.map key).dedup,
        ∃ total, requireTotal (underKey key k exposures) = .ok total := by
      intro k hk
      obtain ⟨total, htotal, -⟩ := h k (List.mem_dedup.mp hk)
      exact ⟨total, requireTotal_eq_ok.mpr htotal⟩
    obtain ⟨totals, htotals⟩ := exists_mapM_eq_ok htotals
    refine ⟨totals, htotals, List.any_eq_false.mpr fun total hmem => ?_⟩
    obtain ⟨k, hk, htotal⟩ := mem_of_mapM_eq_ok htotals hmem
    obtain ⟨total', htotal', hle⟩ := h k (List.mem_dedup.mp hk)
    obtain rfl := Option.some.inj (htotal'.symm.trans (requireTotal_eq_ok.mp htotal))
    simpa using hle
  · rintro ⟨totals, htotals, hnone⟩ k hk
    obtain ⟨total, hmem, htotal⟩ := exists_mem_of_mapM_eq_ok htotals (List.mem_dedup.mpr hk)
    have hle : ¬ limit < total := by simpa using List.any_eq_false.mp hnone total hmem
    exact ⟨total, requireTotal_eq_ok.mp htotal, not_lt.mp hle⟩

/-- The check of a list. -/
lemma approved_current :
    Approved (assessCurrentExposure current policy) ↔
      Within policy.maximumGrossUsdt current ∧
      AllWithin (·.symbol) policy.maximumSymbolUsdt current ∧
      AllWithin (·.correlationGroup) policy.maximumCorrelationGroupUsdt current ∧
      AllWithin (·.strategyId) policy.maximumStrategyUsdt current := by
  have hname : isBlank "CURRENT_PORTFOLIO" = false := by decide
  rw [allWithin_iff, allWithin_iff, allWithin_iff]
  constructor
  · rintro ⟨a, ha, hok⟩
    rw [assessCurrentExposure] at ha
    simp only [bind_eq_ok, requireTotal_eq_ok] at ha
    obtain ⟨gross, hgross, symbols, hsymbols, groups, hgroups, strategies, hstrategies, ha⟩ := ha
    have happroved : Approved (newAssessment "CURRENT_PORTFOLIO" gross _) := ⟨a, ha, hok⟩
    rw [approved_newAssessment hname (exposureTotal_nonneg hgross),
      exposureBlockers_isEmpty] at happroved
    obtain ⟨h1, h2, h3, h4⟩ := happroved
    exact ⟨⟨gross, hgross, not_lt.mp (of_decide_eq_false h1)⟩, ⟨symbols, hsymbols, h2⟩,
      ⟨groups, hgroups, h3⟩, ⟨strategies, hstrategies, h4⟩⟩
  · rintro ⟨⟨gross, hgross, h1⟩, ⟨symbols, hsymbols, h2⟩, ⟨groups, hgroups, h3⟩,
      ⟨strategies, hstrategies, h4⟩⟩
    rw [assessCurrentExposure]
    simp only [requireTotal_eq_ok.mpr hgross, hsymbols, hgroups, hstrategies, ok_bind]
    rw [approved_newAssessment hname (exposureTotal_nonneg hgross), exposureBlockers_isEmpty]
    exact ⟨decide_eq_false (not_lt.mpr h1), h2, h3, h4⟩

/-- **One key is enough**: a list joined by a proposal keeps within a limit under every key when it
does under the proposal's own. -/
lemma allWithin_append (h : AllWithin key limit current) :
    AllWithin key limit (current ++ [proposed]) ↔
      Within limit (underKey key (key proposed) (current ++ [proposed])) := by
  have hmem : ∀ k, k ∈ (current ++ [proposed]).map key ↔ k ∈ current.map key ∨ k = key proposed :=
    fun k => by rw [List.map_append, List.mem_append, List.map_singleton, List.mem_singleton]
  constructor
  · intro hall
    exact hall _ ((hmem _).mpr (Or.inr rfl))
  · intro hown k hk
    by_cases hkey : k = key proposed
    · rw [hkey]
      exact hown
    · have hother : underKey key k (current ++ [proposed]) = underKey key k current := by
        rw [underKey, underKey, List.filter_append,
          List.filter_cons_of_neg (by simpa using Ne.symm hkey), List.filter_nil, List.append_nil]
      rw [hother]
      exact h k (((hmem k).mp hk).resolve_right hkey)

/-- **The two checks agree on a list that is approved.** -/
lemma approved_append (h : Approved (assessCurrentExposure current policy)) :
    Approved (assessProposedExposure current proposed policy) ↔
      Approved (assessCurrentExposure (current ++ [proposed]) policy) := by
  obtain ⟨-, hsymbol, hgroup, hstrategy⟩ := approved_current.mp h
  rw [approved_proposed, approved_current, allWithin_append hsymbol, allWithin_append hgroup,
    allWithin_append hstrategy]

/-- The empty list is approved. -/
lemma approved_nil (policy : PortfolioRiskPolicy) : Approved (assessCurrentExposure [] policy) := by
  have hnone : ∀ (key : PositionExposure → String) (limit : Amount), AllWithin key limit [] :=
    fun _ _ _ hk => absurd hk List.not_mem_nil
  exact approved_current.mpr ⟨⟨0, rfl, policy.gross_pos.le⟩, hnone _ _, hnone _ _, hnone _ _⟩

/-- **A run of proposals** keeps an approved list approved. -/
lemma approved_acceptApproved (proposals : List PositionExposure)
    (h : Approved (assessCurrentExposure current policy)) :
    Approved (assessCurrentExposure (acceptApproved policy current proposals) policy) := by
  induction proposals generalizing current with
  | nil => exact h
  | cons proposed proposals ih =>
      rw [acceptApproved]
      split_ifs with happroved
      · exact ih ((approved_append h).mp happroved)
      · exact ih h

end Within

/-! ### Sums that are not rounded -/

section Exact

variable {key : PositionExposure → String} {limit : Amount}
  {current current' exposures exposures' : List PositionExposure} {proposed : PositionExposure}
  {policy : PortfolioRiskPolicy}

/-- The sum of the amounts of exposures. -/
def notionalSum (exposures : List PositionExposure) : Amount :=
  (exposures.map (·.notionalUsdt)).sum

/-- The finite amounts of exposures. -/
def finiteNotionals (exposures : List PositionExposure) : List ℚ :=
  exposures.filterMap fun item => match item.notionalUsdt with
    | some x => some x
    | none => none

/-- The finite amounts of exposures are summed without rounding. -/
def ExactExposures (exposures : List PositionExposure) : Prop :=
  Context.default.ExactSums (finiteNotionals exposures)

lemma ExactExposures.of_subperm (h : ExactExposures exposures)
    (hpart : exposures'.Subperm exposures) : ExactExposures exposures' := by
  obtain ⟨part, hperm, hsub⟩ := hpart
  refine Context.ExactSums.subperm h ?_
  exact ⟨finiteNotionals part, hperm.filterMap _, hsub.filterMap _⟩

/-- A finite sum is that of the finite amounts. -/
lemma finiteNotionals_sum {x : ℚ} (h : notionalSum exposures = x) :
    (finiteNotionals exposures).sum = x := by
  induction exposures generalizing x with
  | nil => exact WithTop.coe_injective h
  | cons item exposures ih =>
      rw [notionalSum, List.map_cons, List.sum_cons] at h
      obtain ⟨y, z, hy, hz, rfl⟩ := WithTop.add_eq_coe.mp h
      have hitem : finiteNotionals (item :: exposures) = y :: finiteNotionals exposures := by
        rw [finiteNotionals, List.filterMap_cons, ← hy]
        rfl
      rw [hitem, List.sum_cons, ih hz.symm]

/-- **A sum that is not rounded** is the sum. -/
lemma exposureTotal_eq (h : ExactExposures exposures) :
    exposureTotal exposures = some (notionalSum exposures) := by
  induction exposures using List.reverseRecOn with
  | nil => rfl
  | append_singleton exposures item ih =>
      have hprefix := ih (h.of_subperm (List.sublist_append_left _ _).subperm)
      have hsum : notionalSum (exposures ++ [item]) =
          notionalSum exposures + item.notionalUsdt := by
        rw [notionalSum, List.map_append, List.sum_append, List.map_singleton,
          List.sum_singleton]
        rfl
      rw [exposureTotal] at hprefix ⊢
      rw [List.foldlM_append, hprefix, hsum]
      refine (Option.bind_fun_some _).trans ?_
      change addAmount (notionalSum exposures) item.notionalUsdt = _
      cases hx : notionalSum exposures with
      | none => rfl
      | some x =>
          cases hy : item.notionalUsdt with
          | none => rfl
          | some y =>
              have hfinite : (finiteNotionals (exposures ++ [item])).sum = x + y := by
                refine finiteNotionals_sum ?_
                rw [hsum, hx, hy]
                rfl
              have hround := Context.ExactSums.round_sum h
              rw [hfinite] at hround
              change (Context.default.add x y).map WithTop.some = _
              rw [Context.add, hround]
              rfl

/-- The order of a list does not change its sum. -/
lemma exposureTotal_perm (h : ExactExposures exposures) (hperm : exposures.Perm exposures') :
    exposureTotal exposures = exposureTotal exposures' := by
  rw [exposureTotal_eq h, exposureTotal_eq (h.of_subperm hperm.symm.subperm), notionalSum,
    notionalSum, (hperm.map _).sum_eq]

lemma exposureTotal_underKey_perm (h : ExactExposures exposures)
    (hperm : exposures.Perm exposures') (k : String) :
    exposureTotal (underKey key k exposures) = exposureTotal (underKey key k exposures') :=
  exposureTotal_perm (h.of_subperm List.filter_sublist.subperm) (hperm.filter _)

/-- The totals under the keys of a list, in any order of the list. -/
lemma keyTotals_perm (key : PositionExposure → String) (limit : Amount)
    (h : ExactExposures exposures) (hperm : exposures.Perm exposures') :
    ∃ totals totals', keyTotals key exposures = .ok totals ∧
      keyTotals key exposures' = .ok totals' ∧
      totals.any (limit < ·) = totals'.any (limit < ·) := by
  have hexists : ∀ exposures, ExactExposures exposures →
      ∃ totals, keyTotals key exposures = .ok totals := fun exposures h =>
    exists_mapM_eq_ok fun k _ => ⟨_, requireTotal_eq_ok.mpr
      (exposureTotal_eq (h.of_subperm List.filter_sublist.subperm))⟩
  have hbound : AllWithin key limit exposures ↔ AllWithin key limit exposures' :=
    forall_congr' fun k => imp_congr (hperm.map key).mem_iff (by
      rw [Within, Within, exposureTotal_underKey_perm h hperm])
  obtain ⟨totals, htotals⟩ := hexists exposures h
  obtain ⟨totals', htotals'⟩ := hexists exposures' (h.of_subperm hperm.symm.subperm)
  rw [allWithin_iff, allWithin_iff, htotals, htotals'] at hbound
  simp only [Except.ok.injEq, exists_eq_left'] at hbound
  exact ⟨totals, totals', htotals, htotals', Bool.eq_iff_iff.mpr (by
    rw [← Bool.not_eq_false, ← Bool.not_eq_false, hbound])⟩

/-- **The order of a list does not change its check.** -/
lemma assessCurrentExposure_perm (h : ExactExposures current) (hperm : current.Perm current') :
    assessCurrentExposure current policy = assessCurrentExposure current' policy := by
  obtain ⟨symbols, symbols', hsymbols, hsymbols', hs⟩ := keyTotals_perm (·.symbol)
    policy.maximumSymbolUsdt h hperm
  obtain ⟨groups, groups', hgroups, hgroups', hg⟩ := keyTotals_perm (·.correlationGroup)
    policy.maximumCorrelationGroupUsdt h hperm
  obtain ⟨strategies, strategies', hstrategies, hstrategies', ht⟩ :=
    keyTotals_perm (·.strategyId) policy.maximumStrategyUsdt h hperm
  rw [assessCurrentExposure, assessCurrentExposure, requireTotal, requireTotal,
    exposureTotal_perm h hperm, hsymbols, hsymbols', hgroups, hgroups', hstrategies, hstrategies']
  simp only [ok_bind, hs, hg, ht]

/-- The order of a list does not change the check of a proposal. -/
lemma assessProposedExposure_perm (h : ExactExposures (current ++ [proposed]))
    (hperm : current.Perm current') :
    assessProposedExposure current proposed policy =
      assessProposedExposure current' proposed policy := by
  have hcombined : (current ++ [proposed]).Perm (current' ++ [proposed]) := hperm.append_right _
  simp only [assessProposedExposure, requireTotal, exposureTotal_perm h hcombined,
    exposureTotal_underKey_perm h hcombined]

/-- Gross, symbol, correlation-group and strategy totals within their limits. -/
structure KeepsLimits (policy : PortfolioRiskPolicy)
    (within : Amount → List PositionExposure → Prop) (exposures : List PositionExposure) :
    Prop where
  gross : within policy.maximumGrossUsdt exposures
  symbol : ∀ k, within policy.maximumSymbolUsdt (underKey (·.symbol) k exposures)
  group : ∀ k, within policy.maximumCorrelationGroupUsdt
    (underKey (·.correlationGroup) k exposures)
  strategy : ∀ k, within policy.maximumStrategyUsdt (underKey (·.strategyId) k exposures)

/-- A limit holds of every key, also of one that no exposure has. -/
lemma AllWithin.of_pos (h : AllWithin key limit exposures) (hpos : 0 < limit) (k : String) :
    Within limit (underKey key k exposures) := by
  by_cases hk : k ∈ exposures.map key
  · exact h k hk
  · have hnone : underKey key k exposures = [] := by
      rw [underKey, List.filter_eq_nil_iff]
      exact fun item hitem heq =>
        hk (List.mem_map.mpr ⟨item, hitem, of_decide_eq_true heq⟩)
    rw [hnone]
    exact ⟨0, rfl, hpos.le⟩

/-- An approved list keeps the limits. -/
lemma keepsLimits_of_approved (h : Approved (assessCurrentExposure exposures policy)) :
    KeepsLimits policy Within exposures := by
  obtain ⟨hgross, hsymbol, hgroup, hstrategy⟩ := approved_current.mp h
  exact ⟨hgross, hsymbol.of_pos policy.symbol_pos, hgroup.of_pos policy.group_pos,
    hstrategy.of_pos policy.strategy_pos⟩

/-- Sums that are not rounded keep the limits when the totals do. -/
lemma KeepsLimits.sums (h : KeepsLimits policy Within exposures) (hexact : ExactExposures exposures) :
    KeepsLimits policy (fun limit part => notionalSum part ≤ limit) exposures := by
  have hsum : ∀ limit part, part.Sublist exposures → Within limit part →
      notionalSum part ≤ limit := by
    rintro limit part hpart ⟨total, htotal, hle⟩
    rw [exposureTotal_eq (hexact.of_subperm hpart.subperm)] at htotal
    exact Option.some.inj htotal ▸ hle
  exact ⟨hsum _ _ (List.Sublist.refl _) h.gross,
    fun k => hsum _ _ List.filter_sublist (h.symbol k),
    fun k => hsum _ _ List.filter_sublist (h.group k),
    fun k => hsum _ _ List.filter_sublist (h.strategy k)⟩

end Exact

/-! ### The checks in exact arithmetic -/

section OfExact

variable {exposures : List Ai4Binance.PositionExposure} {policy : Ai4Binance.PortfolioRiskPolicy}
  {key : PositionExposure → String} {key' : Ai4Binance.PositionExposure → String} {limit : ℚ}

/-- An exposure of a finite amount. -/
def ofExact (item : Ai4Binance.PositionExposure) : PositionExposure where
  symbol := item.symbol
  strategyId := item.strategyId
  correlationGroup := item.correlationGroup
  notionalUsdt := item.notionalUsdt
  symbol_not_blank := by simpa using List.all_eq_true.mp item.identified item.symbol (by simp)
  strategyId_not_blank := by
    simpa using List.all_eq_true.mp item.identified item.strategyId (by simp)
  correlationGroup_not_blank := by
    simpa using List.all_eq_true.mp item.identified item.correlationGroup (by simp)
  notional_nonneg := WithTop.coe_nonneg.mpr item.notional_nonneg

/-- Finite limits. -/
def policyOfExact (policy : Ai4Binance.PortfolioRiskPolicy) : PortfolioRiskPolicy where
  maximumGrossUsdt := policy.maximumGrossUsdt
  maximumSymbolUsdt := policy.maximumSymbolUsdt
  maximumCorrelationGroupUsdt := policy.maximumCorrelationGroupUsdt
  maximumStrategyUsdt := policy.maximumStrategyUsdt
  gross_pos := WithTop.coe_pos.mpr policy.limits_pos.1
  symbol_pos := WithTop.coe_pos.mpr policy.limits_pos.2.1
  group_pos := WithTop.coe_pos.mpr policy.limits_pos.2.2.1
  strategy_pos := WithTop.coe_pos.mpr policy.limits_pos.2.2.2

lemma notionalSum_ofExact :
    notionalSum (exposures.map ofExact) = (totalNotional exposures fun _ => true : ℚ) := by
  rw [totalNotional, List.filter_true]
  induction exposures with
  | nil => rfl
  | cons item exposures ih =>
      rw [notionalSum] at ih ⊢
      rw [List.map_cons, List.map_cons, List.sum_cons, ih, List.map_cons, List.sum_cons]
      rfl

/-- A total of amounts that are summed without rounding. -/
lemma requireTotal_ofExact (h : ExactExposures (exposures.map ofExact))
    (hkey : ∀ item, key (ofExact item) = key' item) (k : String) :
    requireTotal (underKey key k (exposures.map ofExact)) =
      .ok (totalNotional exposures (key' · = k) : ℚ) := by
  have hunder : underKey key k (exposures.map ofExact) =
      (exposures.filter (key' · = k)).map ofExact := by
    rw [underKey, List.filter_map]
    congr 1
    exact List.filter_congr fun item _ => by simp only [Function.comp_apply, hkey]
  have hpart : ExactExposures (underKey key k (exposures.map ofExact)) :=
    h.of_subperm List.filter_sublist.subperm
  rw [requireTotal_eq_ok, exposureTotal_eq hpart, hunder, notionalSum_ofExact, totalNotional,
    List.filter_true]
  rfl

/-- The totals under the keys of such amounts, against a limit. -/
lemma keyTotals_ofExact (key : PositionExposure → String)
    (key' : Ai4Binance.PositionExposure → String) (limit : ℚ)
    (h : ExactExposures (exposures.map ofExact)) (hkey : ∀ item, key (ofExact item) = key' item) :
    ∃ totals, keyTotals key (exposures.map ofExact) = .ok totals ∧
      totals.any ((limit : Amount) < ·) = anyTotalExceeds exposures key' limit := by
  obtain ⟨totals, htotals⟩ := exists_mapM_eq_ok (l := ((exposures.map ofExact).map key).dedup)
    (f := fun k => requireTotal (underKey key k (exposures.map ofExact)))
    fun k _ => ⟨_, requireTotal_ofExact h hkey k⟩
  refine ⟨totals, htotals, Bool.eq_iff_iff.mpr ?_⟩
  rw [anyTotalExceeds, List.any_eq_true, List.any_eq_true]
  constructor
  · rintro ⟨total, hmem, hlt⟩
    obtain ⟨k, hk, htotal⟩ := mem_of_mapM_eq_ok htotals hmem
    obtain ⟨item, hitem, rfl⟩ := List.mem_map.mp (List.mem_dedup.mp hk)
    obtain ⟨item, hitem', rfl⟩ := List.mem_map.mp hitem
    rw [requireTotal_ofExact h hkey, hkey] at htotal
    obtain rfl := Except.ok.inj htotal
    exact ⟨item, hitem', decide_eq_true (WithTop.coe_lt_coe.mp (of_decide_eq_true hlt))⟩
  · rintro ⟨item, hitem, hlt⟩
    have hk : key' item ∈ ((exposures.map ofExact).map key).dedup :=
      List.mem_dedup.mpr (List.mem_map.mpr ⟨_, List.mem_map_of_mem hitem, hkey item⟩)
    obtain ⟨total, hmem, htotal⟩ := exists_mem_of_mapM_eq_ok htotals hk
    rw [requireTotal_ofExact h hkey] at htotal
    obtain rfl := Except.ok.inj htotal
    exact ⟨_, hmem, decide_eq_true (WithTop.coe_lt_coe.mpr (of_decide_eq_true hlt))⟩

/-- **The exact check** is the check of amounts that are summed without rounding. -/
theorem assessCurrentExposure_ofExact (h : ExactExposures (exposures.map ofExact)) :
    assessCurrentExposure (exposures.map ofExact) (policyOfExact policy) =
      newAssessment "CURRENT_PORTFOLIO" (totalNotional exposures fun _ => true : ℚ)
        (Ai4Binance.assessCurrentExposure exposures policy) := by
  have hgross : requireTotal (exposures.map ofExact) =
      .ok (totalNotional exposures fun _ => true : ℚ) := by
    rw [requireTotal_eq_ok, exposureTotal_eq h, notionalSum_ofExact]
  obtain ⟨symbols, hsymbols, hs⟩ := keyTotals_ofExact (·.symbol) (·.symbol)
    policy.maximumSymbolUsdt h fun _ => rfl
  obtain ⟨groups, hgroups, hg⟩ := keyTotals_ofExact (·.correlationGroup)
    (·.correlationGroup) policy.maximumCorrelationGroupUsdt h fun _ => rfl
  obtain ⟨strategies, hstrategies, ht⟩ := keyTotals_ofExact (·.strategyId)
    (·.strategyId) policy.maximumStrategyUsdt h fun _ => rfl
  have hlimit : decide (((policy.maximumGrossUsdt : ℚ) : Amount) <
      (totalNotional exposures fun _ => true : ℚ)) =
        decide (policy.maximumGrossUsdt < totalNotional exposures fun _ => true) :=
    decide_eq_decide.mpr WithTop.coe_lt_coe
  rw [assessCurrentExposure, hgross, hsymbols, hgroups, hstrategies,
    Ai4Binance.assessCurrentExposure, ← hs, ← hg, ← ht, ← hlimit]
  rfl

end OfExact

/-- **The two checks agree**, a run of accepted proposals keeps every limit, and the order of a list
matters to neither check where its sums are not rounded. -/
theorem exposure_checks_agree (policy : PortfolioRiskPolicy) :
    (∀ current proposed, Approved (assessCurrentExposure current policy) →
      (Approved (assessProposedExposure current proposed policy) ↔
        Approved (assessCurrentExposure (current ++ [proposed]) policy))) ∧
    (∀ proposals, KeepsLimits policy Within (acceptApproved policy [] proposals) ∧
      (ExactExposures (acceptApproved policy [] proposals) →
        KeepsLimits policy (fun limit part => notionalSum part ≤ limit)
          (acceptApproved policy [] proposals))) ∧
    ∀ current current', current.Perm current' →
      (ExactExposures current →
        assessCurrentExposure current policy = assessCurrentExposure current' policy) ∧
      ∀ proposed, ExactExposures (current ++ [proposed]) →
        assessProposedExposure current proposed policy =
          assessProposedExposure current' proposed policy := by
  refine ⟨fun current proposed h => approved_append h, fun proposals => ?_,
    fun current current' hperm => ⟨fun h => assessCurrentExposure_perm h hperm,
      fun proposed h => assessProposedExposure_perm h hperm⟩⟩
  have hkeeps := keepsLimits_of_approved
    (approved_acceptApproved proposals (approved_nil policy))
  exact ⟨hkeeps, hkeeps.sums⟩

/-! ### Sums that are rounded -/

/-- An exposure of one symbol. -/
def oneSymbol (notional : ℚ) (h : 0 ≤ notional) : PositionExposure where
  symbol := "BTCUSDT"
  strategyId := "trend"
  correlationGroup := "majors"
  notionalUsdt := notional
  symbol_not_blank := by decide
  strategyId_not_blank := by decide
  correlationGroup_not_blank := by decide
  notional_nonneg := WithTop.coe_nonneg.mpr h

/-- Limits of 500 each. -/
def evenLimits : PortfolioRiskPolicy where
  maximumSymbolUsdt := (500 : ℚ)
  maximumCorrelationGroupUsdt := (500 : ℚ)
  maximumStrategyUsdt := (500 : ℚ)
  gross_pos := WithTop.coe_pos.mpr (by norm_num : (0 : ℚ) < 500)
  symbol_pos := WithTop.coe_pos.mpr (by norm_num)
  group_pos := WithTop.coe_pos.mpr (by norm_num)
  strategy_pos := WithTop.coe_pos.mpr (by norm_num)

/-- **The order of a list** matters where its sums are rounded: two amounts below the last digit of
the limit vanish after it, and together exceed it. -/
theorem rounded_order_matters :
    ∃ current current' : List PositionExposure, current.Perm current' ∧
      Approved (assessCurrentExposure current evenLimits) ∧
      ¬ Approved (assessCurrentExposure current' evenLimits) := by
  refine ⟨[oneSymbol 500 (by norm_num), oneSymbol (4 / 10 ^ 26) (by norm_num),
      oneSymbol (4 / 10 ^ 26) (by norm_num)],
    [oneSymbol (4 / 10 ^ 26) (by norm_num), oneSymbol (4 / 10 ^ 26) (by norm_num),
      oneSymbol 500 (by norm_num)], ?_, by decide +kernel, by decide +kernel⟩
  exact (List.Perm.swap _ _ _).trans ((List.Perm.swap _ _ _).cons _)

end Ai4Binance.DecimalExposure
