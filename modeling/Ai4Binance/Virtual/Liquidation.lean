/-
The liquidation solver (`isolated_liquidation_price` of `virtual_runtime_risk.py`).

A table of maintenance tiers is a graduated tariff on the notional of a position
(`Lib.Tariff`).  A price that the solver returns is the one at which the margin of the
position is its maintenance, and there is only one: the margin less the maintenance rises
with the price for a long position and falls for a short one.

* `FuturesRiskBracket.tier`, `tiers_chain`: maintenance tiers as a tariff;
* `Liquidates`: the margin at a price is the maintenance of a tier that covers it;
* `isolatedLiquidationPrice_eq_ok`: what the solver returns;
* `lt_of_solvent_long`, `lt_of_solvent_short`: on which side of a price it lies at which
  the position is solvent.
-/
import Ai4Binance.Lib.Tariff
import Ai4Binance.Virtual.Risk

open Check

namespace Ai4Binance

/-- A maintenance tier as a tier of a tariff on the notional. -/
def FuturesRiskBracket.tier (b : FuturesRiskBracket) : Tier ℚ where
  floor := b.notionalFloor
  cap := b.notionalCap
  rate := b.maintenanceRatio
  offset := b.cumulativeMaintenance

/-- The sign of a direction, as the solver writes it. -/
def liquidationSign (long : Bool) : ℚ := if long then 1 else -1

variable {long : Bool} {entry quantity walletMargin price : ℚ} {b : FuturesRiskBracket}
  {brackets : List FuturesRiskBracket}

/-- A table that passes the validation is a tariff from zero on. -/
lemma tiers_chain (h : validateFuturesBrackets brackets = .ok ()) :
    (brackets.map (·.tier)).IsChain Tier.Continues ∧
      (∀ t ∈ brackets.map (·.tier), t.floor ≤ t.cap) ∧
      (∀ t ∈ brackets.map (·.tier), 0 ≤ t.rate ∧ t.rate < 1) ∧
      ∃ first ∈ brackets.head?, first.notionalFloor = 0 := by
  simp only [validateFuturesBrackets, bind_eq_ok, raiseIf_eq_ok, not_not] at h
  obtain ⟨_, hhead, hchain⟩ := h
  refine ⟨?_, ?_, ?_, ?_⟩
  · rw [List.isChain_map]
    refine hchain.imp fun left right hcontinues => ?_
    exact ⟨hcontinues.1, hcontinues.2.1, hcontinues.2.2.2⟩
  · intro t ht
    obtain ⟨b, -, rfl⟩ := List.mem_map.mp ht
    exact b.floor_lt_cap.le
  · intro t ht
    obtain ⟨b, -, rfl⟩ := List.mem_map.mp ht
    exact ⟨b.ratio_pos.le, b.ratio_lt_one⟩
  · cases hfirst : brackets.head? with
    | none => simp [hfirst] at hhead
    | some first => exact ⟨first, rfl, by simpa [hfirst] using hhead⟩

/-- At a price the margin of a position is the maintenance of a tier that covers it. -/
def Liquidates (long : Bool) (entry quantity walletMargin : ℚ) (b : FuturesRiskBracket)
    (price : ℚ) : Prop :=
  b.tier.Covers (price * quantity) ∧
    walletMargin + liquidationSign long * (price - entry) * quantity =
      b.tier.charge (price * quantity)

/-- The price that the solver tries on a tier is the one of its maintenance. -/
lemma tierPrice_spec (hquantity : 0 < quantity)
    (hprice : price = (liquidationSign long * entry * quantity - walletMargin -
      b.cumulativeMaintenance) / (quantity * (liquidationSign long - b.maintenanceRatio))) :
    walletMargin + liquidationSign long * (price - entry) * quantity =
      b.tier.charge (price * quantity) := by
  have hratio := b.ratio_pos
  have hratio' := b.ratio_lt_one
  have hne : quantity * (liquidationSign long - b.maintenanceRatio) ≠ 0 := by
    refine mul_ne_zero hquantity.ne' ?_
    rw [liquidationSign]
    split_ifs
    · linarith
    · intro hzero
      linarith
  rw [eq_div_iff hne] at hprice
  rw [Tier.charge, FuturesRiskBracket.tier]
  linear_combination hprice

/-- What the loop over the tiers returns. -/
lemma solveTiers_eq_ok (hquantity : 0 < quantity)
    (h : solveTiers long entry quantity walletMargin brackets = .ok price) :
    (long = true ∧ price = 0) ∨
      ∃ b ∈ brackets, Liquidates long entry quantity walletMargin b price := by
  induction brackets with
  | nil => simp [solveTiers] at h
  | cons b rest ih =>
    obtain ⟨tried, htried⟩ : ∃ tried, tried = (liquidationSign long * entry * quantity -
        walletMargin - b.cumulativeMaintenance) /
          (quantity * (liquidationSign long - b.maintenanceRatio)) := ⟨_, rfl⟩
    have hunfold : solveTiers long entry quantity walletMargin (b :: rest) =
        if long = true ∧ tried ≤ 0 then .ok 0
        else if b.notionalFloor ≤ tried * quantity ∧ tried * quantity < b.notionalCap then .ok tried
        else solveTiers long entry quantity walletMargin rest := by
      rw [htried]
      rfl
    rw [hunfold] at h
    split_ifs at h with hzero hcovers
    · exact Or.inl ⟨hzero.1, (Except.ok.inj h).symm⟩
    · obtain rfl := Except.ok.inj h
      exact Or.inr ⟨b, List.mem_cons_self, hcovers, tierPrice_spec hquantity htried⟩
    · rcases ih h with hlong | ⟨c, hc, hliquidates⟩
      · exact Or.inl hlong
      · exact Or.inr ⟨c, List.mem_cons_of_mem _ hc, hliquidates⟩

/-- **What the solver returns**: zero for a long position, or the price at which the margin
is the maintenance. -/
lemma isolatedLiquidationPrice_eq_ok
    (h : isolatedLiquidationPrice long entry quantity walletMargin brackets = .ok price) :
    validateFuturesBrackets brackets = .ok () ∧ 0 < entry ∧ 0 < quantity ∧
      ((long = true ∧ price = 0) ∨
        ∃ b ∈ brackets, Liquidates long entry quantity walletMargin b price) := by
  simp only [isolatedLiquidationPrice, bind_eq_ok, raiseIf_eq_ok, not_le, lt_min_iff] at h
  obtain ⟨_, hvalid, _, ⟨hentry, hquantity⟩, hsolve⟩ := h
  exact ⟨hvalid, hentry, hquantity, solveTiers_eq_ok hquantity hsolve⟩

/-! ### Uniqueness -/

section Solvent

variable {c : FuturesRiskBracket} {solvent : ℚ}
  (hvalid : validateFuturesBrackets brackets = .ok ()) (hquantity : 0 < quantity)
  (hb : b ∈ brackets) (hc : c ∈ brackets) (hcovers : c.tier.Covers (solvent * quantity))

include hvalid hquantity hb hc hcovers

/-- A long position is liquidated below every price at which it is solvent. -/
lemma lt_of_solvent_long (hliquidates : Liquidates true entry quantity walletMargin b price)
    (hsolvent : c.tier.charge (solvent * quantity) < walletMargin + (solvent - entry) * quantity) :
    price < solvent := by
  obtain ⟨hchain, hwf, hrates, -⟩ := tiers_chain hvalid
  obtain ⟨hprice, hmargin⟩ := hliquidates
  rw [liquidationSign, if_pos rfl, one_mul] at hmargin
  have hnet : price * quantity - b.tier.charge (price * quantity) <
      solvent * quantity - c.tier.charge (solvent * quantity) := by
    linarith
  rw [Tier.net_lt_iff hchain hwf (List.mem_map_of_mem hb) (List.mem_map_of_mem hc) hprice hcovers
    fun t ht => (hrates t ht).2] at hnet
  exact lt_of_mul_lt_mul_right hnet hquantity.le

/-- A short position is liquidated above every price at which it is solvent. -/
lemma lt_of_solvent_short (hliquidates : Liquidates false entry quantity walletMargin b price)
    (hsolvent : c.tier.charge (solvent * quantity) < walletMargin + (entry - solvent) * quantity) :
    solvent < price := by
  obtain ⟨hchain, hwf, hrates, -⟩ := tiers_chain hvalid
  obtain ⟨hprice, hmargin⟩ := hliquidates
  rw [liquidationSign, if_neg Bool.false_ne_true] at hmargin
  have hgross : solvent * quantity + c.tier.charge (solvent * quantity) <
      price * quantity + b.tier.charge (price * quantity) := by
    linarith
  rw [Tier.gross_lt_iff hchain hwf (List.mem_map_of_mem hc) (List.mem_map_of_mem hb) hcovers hprice
    fun t ht => (hrates t ht).1] at hgross
  exact lt_of_mul_lt_mul_right hgross hquantity.le

end Solvent

end Ai4Binance
