/-
What the liquidation solver finds (`isolated_liquidation_price` of `virtual_runtime_risk.py`).

The margin of a position and the maintenance of its notional are equal at one price at most.
The solver tries the tiers in order; the price that a tier gives lies beyond its cap while the
solution lies in a later tier, so the first price that falls into its own tier is the solution.

* `SolvesAt`, `IsLiquidationPrice`: the equation, and its only solution, or zero for a long
  position whose margin is its notional or more;
* `solveTiers_of_liquidates`: the loop finds a solution;
* `solveTiers_long`: a long position with less margin gets zero for no other reason;
* `solver_is_correct`: **the solver returns the liquidation price, raises exactly when there is
  none, and the price is monotone in the margin**, when no operation rounds;
* `solver_rounds`: in the decimal context the price is a rounded one.
-/
import Ai4Binance.Virtual.Leverage

open Check

namespace Ai4Binance

variable {long : Bool} {entry quantity walletMargin price : ℚ} {b : FuturesRiskBracket}
  {brackets : List FuturesRiskBracket}

/-- A mark price, not negative, at which the margin of a position is its maintenance. -/
def SolvesAt (long : Bool) (entry quantity walletMargin : ℚ) (brackets : List FuturesRiskBracket)
    (price : ℚ) : Prop :=
  0 ≤ price ∧ ∃ b ∈ brackets, Liquidates long entry quantity walletMargin b price

/-- The liquidation price: zero for a long position whose margin is at least its entry notional,
else the only price that solves the equation. -/
def IsLiquidationPrice (long : Bool) (entry quantity walletMargin : ℚ)
    (brackets : List FuturesRiskBracket) (price : ℚ) : Prop :=
  if long = true ∧ entry * quantity ≤ walletMargin then price = 0
  else SolvesAt long entry quantity walletMargin brackets price ∧
    ∀ other, SolvesAt long entry quantity walletMargin brackets other → other = price

/-! ### The equation -/

/-- A tier from zero on deducts nothing. -/
lemma offset_eq_zero (h : b.notionalFloor = 0) : b.cumulativeMaintenance = 0 := by
  have hle := b.cumulative_le
  rw [h, zero_mul] at hle
  exact le_antisymm hle b.cumulative_nonneg

/-- For a long position: the notional less its maintenance is the debt. -/
lemma liquidates_long_iff : Liquidates true entry quantity walletMargin b price ↔
    b.tier.Covers (price * quantity) ∧
      price * quantity - b.tier.charge (price * quantity) = entry * quantity - walletMargin := by
  rw [Liquidates, liquidationSign, if_pos rfl]
  refine and_congr_right fun _ => ⟨fun h => ?_, fun h => ?_⟩ <;> linarith

/-- For a short position: the notional and its maintenance are the proceeds and the margin. -/
lemma liquidates_short_iff : Liquidates false entry quantity walletMargin b price ↔
    b.tier.Covers (price * quantity) ∧
      price * quantity + b.tier.charge (price * quantity) = entry * quantity + walletMargin := by
  rw [Liquidates, liquidationSign, if_neg Bool.false_ne_true]
  refine and_congr_right fun _ => ⟨fun h => ?_, fun h => ?_⟩ <;> linarith

/-- A solution is not negative. -/
lemma Liquidates.nonneg (h : Liquidates long entry quantity walletMargin b price)
    (hquantity : 0 < quantity) : 0 ≤ price :=
  nonneg_of_mul_nonneg_left (b.floor_nonneg.trans h.1.1) hquantity

/-- A long position with less margin than notional is liquidated above zero. -/
lemma Liquidates.pos (h : Liquidates true entry quantity walletMargin b price)
    (hquantity : 0 < quantity) (hdebt : walletMargin < entry * quantity) : 0 < price := by
  refine lt_of_le_of_ne (h.nonneg hquantity) fun hzero => ?_
  obtain ⟨hcovers, hnet⟩ := liquidates_long_iff.mp h
  rw [← hzero, zero_mul] at hcovers hnet
  have hoffset := offset_eq_zero (le_antisymm hcovers.1 b.floor_nonneg)
  simp only [Tier.charge, FuturesRiskBracket.tier, hoffset, mul_zero, sub_zero] at hnet
  linarith

section Table

variable (hchain : (brackets.map (·.tier)).IsChain Tier.Continues)
  (hwf : ∀ t ∈ brackets.map (·.tier), t.floor ≤ t.cap)
  (hrates : ∀ t ∈ brackets.map (·.tier), 0 ≤ t.rate ∧ t.rate < 1)

include hchain hwf hrates

/-- **Two solutions are one.** -/
lemma Liquidates.unique {c : FuturesRiskBracket} {price' : ℚ} (hquantity : 0 < quantity)
    (hb : b ∈ brackets) (hc : c ∈ brackets)
    (h : Liquidates long entry quantity walletMargin b price)
    (h' : Liquidates long entry quantity walletMargin c price') : price = price' := by
  refine mul_right_cancel₀ hquantity.ne' ?_
  cases long with
  | true =>
    obtain ⟨hcovers, hnet⟩ := liquidates_long_iff.mp h
    obtain ⟨hcovers', hnet'⟩ := liquidates_long_iff.mp h'
    exact Tier.eq_of_net_eq hchain hwf (List.mem_map_of_mem hb) (List.mem_map_of_mem hc) hcovers
      hcovers' (fun t ht => (hrates t ht).2) (hnet.trans hnet'.symm)
  | false =>
    obtain ⟨hcovers, hgross⟩ := liquidates_short_iff.mp h
    obtain ⟨hcovers', hgross'⟩ := liquidates_short_iff.mp h'
    exact Tier.eq_of_gross_eq hchain hwf (List.mem_map_of_mem hb) (List.mem_map_of_mem hc) hcovers
      hcovers' (fun t ht => (hrates t ht).1) (hgross.trans hgross'.symm)

end Table

/-! ### The loop over the tiers -/

/-- The price that the solver tries on a tier. -/
def triedPrice (long : Bool) (entry quantity walletMargin : ℚ) (tier : FuturesRiskBracket) : ℚ :=
  (liquidationSign long * entry * quantity - walletMargin - tier.cumulativeMaintenance) /
    (quantity * (liquidationSign long - tier.maintenanceRatio))

lemma solveTiers_cons (tier : FuturesRiskBracket) (rest : List FuturesRiskBracket) :
    solveTiers long entry quantity walletMargin (tier :: rest) =
      if long = true ∧ triedPrice long entry quantity walletMargin tier ≤ 0 then .ok 0
      else if tier.notionalFloor ≤ triedPrice long entry quantity walletMargin tier * quantity ∧
          triedPrice long entry quantity walletMargin tier * quantity < tier.notionalCap then
        .ok (triedPrice long entry quantity walletMargin tier)
      else solveTiers long entry quantity walletMargin rest := rfl

/-- The tried price of a long position solves the equation of its tier, wherever it lies. -/
lemma tried_long (hquantity : 0 < quantity) :
    triedPrice true entry quantity walletMargin b * quantity -
      b.tier.charge (triedPrice true entry quantity walletMargin b * quantity) =
        entry * quantity - walletMargin := by
  have h : walletMargin + liquidationSign true *
      (triedPrice true entry quantity walletMargin b - entry) * quantity =
        b.tier.charge (triedPrice true entry quantity walletMargin b * quantity) :=
    tierPrice_spec hquantity rfl
  rw [liquidationSign, if_pos rfl] at h
  linarith

/-- The tried price of a short position solves the equation of its tier, wherever it lies. -/
lemma tried_short (hquantity : 0 < quantity) :
    triedPrice false entry quantity walletMargin b * quantity +
      b.tier.charge (triedPrice false entry quantity walletMargin b * quantity) =
        entry * quantity + walletMargin := by
  have h : walletMargin + liquidationSign false *
      (triedPrice false entry quantity walletMargin b - entry) * quantity =
        b.tier.charge (triedPrice false entry quantity walletMargin b * quantity) :=
    tierPrice_spec hquantity rfl
  rw [liquidationSign, if_neg Bool.false_ne_true] at h
  linarith

/-- On one tier an amount less its charge determines the order. -/
lemma le_of_net_le {m n : ℚ} (h : m - b.tier.charge m ≤ n - b.tier.charge n) : m ≤ n := by
  have hrate := b.ratio_lt_one
  have hsub := b.tier.charge_sub m n
  have hle : 0 ≤ (1 - b.tier.rate) * (n - m) := by linarith
  have hpos : 0 < 1 - b.tier.rate := by
    simp only [FuturesRiskBracket.tier]
    linarith
  linarith [nonneg_of_mul_nonneg_right hle hpos]

/-- On one tier an amount with its charge determines the order. -/
lemma le_of_gross_le {m n : ℚ} (h : m + b.tier.charge m ≤ n + b.tier.charge n) : m ≤ n := by
  have hrate := b.ratio_pos
  have hsub := b.tier.charge_sub m n
  have hle : 0 ≤ (1 + b.tier.rate) * (n - m) := by linarith
  have hpos : 0 < 1 + b.tier.rate := by
    simp only [FuturesRiskBracket.tier]
    linarith
  linarith [nonneg_of_mul_nonneg_right hle hpos]

/-- On one tier an amount less its charge rises with the amount. -/
lemma net_le_of_le {m n : ℚ} (h : m ≤ n) : m - b.tier.charge m ≤ n - b.tier.charge n := by
  have hrate : b.tier.rate * (n - m) ≤ 1 * (n - m) :=
    mul_le_mul_of_nonneg_right b.ratio_lt_one.le (by linarith)
  have hsub := b.tier.charge_sub m n
  linarith

section Loop

variable {tier : FuturesRiskBracket} {rest : List FuturesRiskBracket}

/-- While the solution lies in a later tier, the tried price lies beyond the cap of its own. -/
lemma cap_le_tried (hchain : ((tier :: rest).map (·.tier)).IsChain Tier.Continues)
    (hquantity : 0 < quantity) (hb : b ∈ rest)
    (h : Liquidates long entry quantity walletMargin b price) :
    tier.notionalCap ≤ triedPrice long entry quantity walletMargin tier * quantity := by
  have hwf : ∀ t ∈ tier.tier :: rest.map (·.tier), t.floor ≤ t.cap := by
    intro t ht
    obtain ⟨c, -, rfl⟩ := List.mem_map.mp (List.map_cons ▸ ht)
    exact c.floor_lt_cap.le
  have hmem := List.mem_map_of_mem hb (f := FuturesRiskBracket.tier)
  cases long with
  | true =>
    obtain ⟨hcovers, hnet⟩ := liquidates_long_iff.mp h
    refine le_of_net_le (b := tier) ?_
    rw [tried_long hquantity, ← hnet]
    exact Tier.net_cap_le hchain hwf hmem hcovers.1 b.ratio_lt_one
  | false =>
    obtain ⟨hcovers, hgross⟩ := liquidates_short_iff.mp h
    refine le_of_gross_le (b := tier) ?_
    rw [tried_short hquantity, ← hgross]
    exact Tier.gross_cap_le hchain hwf hmem hcovers.1 tier.ratio_pos.le

/-- On its own tier the solution is the tried price. -/
lemma tried_eq (hquantity : 0 < quantity)
    (h : Liquidates long entry quantity walletMargin b price) :
    triedPrice long entry quantity walletMargin b = price := by
  refine mul_right_cancel₀ hquantity.ne' ?_
  cases long with
  | true =>
    have heq := (tried_long (b := b) hquantity).trans (liquidates_long_iff.mp h).2.symm
    exact le_antisymm (le_of_net_le heq.le) (le_of_net_le heq.ge)
  | false =>
    have heq := (tried_short (b := b) hquantity).trans (liquidates_short_iff.mp h).2.symm
    exact le_antisymm (le_of_gross_le heq.le) (le_of_gross_le heq.ge)

/-- **The loop finds a solution.** -/
lemma solveTiers_of_liquidates (hchain : (brackets.map (·.tier)).IsChain Tier.Continues)
    (hquantity : 0 < quantity) (hdebt : long = true → walletMargin < entry * quantity)
    (hb : b ∈ brackets) (h : Liquidates long entry quantity walletMargin b price) :
    solveTiers long entry quantity walletMargin brackets = .ok price := by
  induction brackets with
  | nil => cases hb
  | cons tier rest ih =>
    rw [solveTiers_cons]
    rcases List.mem_cons.mp hb with rfl | hlater
    · have hcovers : b.notionalFloor ≤ price * quantity ∧ price * quantity < b.notionalCap := h.1
      rw [tried_eq hquantity h, if_neg, if_pos hcovers]
      rintro ⟨rfl, hzero⟩
      exact absurd (h.pos hquantity (hdebt rfl)) (not_lt.mpr hzero)
    · have hcap := cap_le_tried hchain hquantity hlater h
      have hpos : 0 < triedPrice long entry quantity walletMargin tier :=
        (mul_pos_iff_of_pos_right hquantity).mp
          ((tier.floor_nonneg.trans_lt tier.floor_lt_cap).trans_le hcap)
      rw [if_neg fun hzero => absurd hpos (not_lt.mpr hzero.2),
        if_neg fun hcovers => absurd hcovers.2 (not_lt.mpr hcap)]
      exact ih hchain.tail hlater

/-- From a tier on which the notional starts: its tried price is positive and not below it. -/
lemma tried_of_floor (hquantity : 0 < quantity) (hdebt : walletMargin < entry * quantity)
    (hfloor : tier.notionalFloor - tier.tier.charge tier.notionalFloor ≤
      entry * quantity - walletMargin) :
    0 < triedPrice true entry quantity walletMargin tier ∧
      tier.notionalFloor ≤ triedPrice true entry quantity walletMargin tier * quantity := by
  have hnet : triedPrice true entry quantity walletMargin tier * quantity -
      tier.tier.charge (triedPrice true entry quantity walletMargin tier * quantity) =
        entry * quantity - walletMargin := tried_long hquantity
  have hreach : tier.notionalFloor ≤ triedPrice true entry quantity walletMargin tier * quantity :=
    le_of_net_le (b := tier) (by rwa [hnet])
  refine ⟨?_, hreach⟩
  by_contra hneg
  have hle := mul_nonpos_of_nonpos_of_nonneg (not_lt.mp hneg) hquantity.le
  have hoffset := offset_eq_zero (le_antisymm (hreach.trans hle) tier.floor_nonneg)
  rw [le_antisymm hle (tier.floor_nonneg.trans hreach)] at hnet
  simp only [Tier.charge, FuturesRiskBracket.tier, hoffset, mul_zero, sub_zero] at hnet
  linarith

/-- **A long position with a debt gets the solution**, from the tier on which its notional
starts. -/
lemma solveTiers_long (hchain : ((tier :: rest).map (·.tier)).IsChain Tier.Continues)
    (hquantity : 0 < quantity) (hdebt : walletMargin < entry * quantity)
    (hfloor : tier.notionalFloor - tier.tier.charge tier.notionalFloor ≤
      entry * quantity - walletMargin)
    (h : solveTiers true entry quantity walletMargin (tier :: rest) = .ok price) :
    ∃ b ∈ tier :: rest, Liquidates true entry quantity walletMargin b price := by
  induction rest generalizing tier with
  | nil =>
    rw [solveTiers_cons] at h
    obtain ⟨hpos, hreach⟩ := tried_of_floor hquantity hdebt hfloor
    rw [if_neg fun hzero => absurd hpos (not_lt.mpr hzero.2)] at h
    split_ifs at h with hcovers
    · obtain rfl := Except.ok.inj h
      exact ⟨tier, List.mem_singleton_self _, liquidates_long_iff.mpr ⟨hcovers, tried_long hquantity⟩⟩
    · cases h
  | cons next rest ih =>
    rw [solveTiers_cons] at h
    obtain ⟨hpos, hreach⟩ := tried_of_floor hquantity hdebt hfloor
    rw [if_neg fun hzero => absurd hpos (not_lt.mpr hzero.2)] at h
    split_ifs at h with hcovers
    · obtain rfl := Except.ok.inj h
      exact ⟨tier, List.mem_cons_self, liquidates_long_iff.mpr ⟨hcovers, tried_long hquantity⟩⟩
    · -- the tried price lies beyond the cap, where the next tier goes on
      have hcap : tier.notionalCap ≤ triedPrice true entry quantity walletMargin tier * quantity :=
        not_lt.mp fun hlt => hcovers ⟨hreach, hlt⟩
      obtain ⟨hcontinues, hrest⟩ := List.isChain_cons_cons.mp hchain
      have hnext : next.notionalFloor - next.tier.charge next.notionalFloor ≤
          entry * quantity - walletMargin := by
        have hcharge : next.tier.charge next.notionalFloor = tier.tier.charge tier.notionalCap :=
          hcontinues.charge_eq
        rw [hcharge, show next.notionalFloor = tier.notionalCap from hcontinues.1.symm,
          ← tried_long (b := tier) hquantity]
        exact net_le_of_le hcap
      obtain ⟨b, hb, hliquidates⟩ := ih hrest hnext h
      exact ⟨b, List.mem_cons_of_mem _ hb, hliquidates⟩

end Loop

/-! ### The solver -/

section Solver

variable (hvalid : validateFuturesBrackets brackets = .ok ()) (hentry : 0 < entry)
  (hquantity : 0 < quantity)

include hvalid

/-- A long position whose margin is its notional or more gets zero from the first tier. -/
lemma solveTiers_eq_zero (hquantity : 0 < quantity) (hdebt : entry * quantity ≤ walletMargin) :
    solveTiers true entry quantity walletMargin brackets = .ok 0 := by
  obtain ⟨-, -, -, first, hfirst, hfloor⟩ := tiers_chain hvalid
  obtain ⟨rest, rfl⟩ := List.head?_eq_some_iff.mp hfirst
  have hnet : triedPrice true entry quantity walletMargin first * quantity -
      first.tier.charge (triedPrice true entry quantity walletMargin first * quantity) =
        entry * quantity - walletMargin := tried_long hquantity
  have hoffset := offset_eq_zero hfloor
  have hle : triedPrice true entry quantity walletMargin first * quantity ≤ 0 := by
    refine le_of_net_le (b := first) ?_
    rw [hnet]
    simp only [Tier.charge, FuturesRiskBracket.tier, hoffset, mul_zero, sub_zero]
    linarith
  have hzero : triedPrice true entry quantity walletMargin first ≤ 0 :=
    nonpos_of_mul_nonpos_left hle hquantity
  rw [solveTiers_cons, if_pos ⟨rfl, hzero⟩]

include hentry hquantity

lemma isolatedLiquidationPrice_eq :
    isolatedLiquidationPrice long entry quantity walletMargin brackets =
      solveTiers long entry quantity walletMargin brackets := by
  have hpos : ¬ min entry quantity ≤ 0 := not_le.mpr (lt_min hentry hquantity)
  simp only [isolatedLiquidationPrice, hvalid, raiseIf_of_not hpos, ok_bind]

/-- What the solver returns solves the equation, unless a long position has no debt. -/
lemma exists_liquidates (hdebt : ¬ (long = true ∧ entry * quantity ≤ walletMargin))
    (h : isolatedLiquidationPrice long entry quantity walletMargin brackets = .ok price) :
    ∃ b ∈ brackets, Liquidates long entry quantity walletMargin b price := by
  cases long with
  | false =>
    obtain ⟨-, -, -, hzero | hsolved⟩ := isolatedLiquidationPrice_eq_ok h
    · cases hzero.1
    · exact hsolved
  | true =>
    have hdebt' : walletMargin < entry * quantity := not_le.mp fun hle => hdebt ⟨rfl, hle⟩
    rw [isolatedLiquidationPrice_eq hvalid hentry hquantity] at h
    obtain ⟨hchain, -, -, first, hfirst, hfloor⟩ := tiers_chain hvalid
    obtain ⟨rest, rfl⟩ := List.head?_eq_some_iff.mp hfirst
    refine solveTiers_long hchain hquantity hdebt' ?_ h
    have hoffset := offset_eq_zero hfloor
    simp only [Tier.charge, FuturesRiskBracket.tier, hfloor, hoffset, mul_zero, sub_zero]
    linarith

/-- **What the solver returns is the liquidation price.** -/
lemma solver_eq_ok_iff :
    isolatedLiquidationPrice long entry quantity walletMargin brackets = .ok price ↔
      IsLiquidationPrice long entry quantity walletMargin brackets price := by
  obtain ⟨hchain, hwf, hrates, -⟩ := tiers_chain hvalid
  rw [IsLiquidationPrice]
  split_ifs with hdebt
  · obtain ⟨rfl, hdebt⟩ := hdebt
    rw [isolatedLiquidationPrice_eq hvalid hentry hquantity,
      solveTiers_eq_zero hvalid hquantity hdebt, Except.ok.injEq, eq_comm]
  · constructor
    · intro h
      obtain ⟨b, hb, hliquidates⟩ := exists_liquidates hvalid hentry hquantity hdebt h
      refine ⟨⟨hliquidates.nonneg hquantity, b, hb, hliquidates⟩, ?_⟩
      rintro other ⟨-, c, hc, hother⟩
      exact hother.unique hchain hwf hrates hquantity hc hb hliquidates
    · rintro ⟨⟨-, b, hb, hliquidates⟩, -⟩
      rw [isolatedLiquidationPrice_eq hvalid hentry hquantity]
      refine solveTiers_of_liquidates hchain hquantity (fun hlong => ?_) hb hliquidates
      exact not_le.mp fun hle => hdebt ⟨hlong, hle⟩

/-- **More margin moves the price away** from a long position downwards and from a short one
upwards. -/
lemma solver_monotone {more price' : ℚ} (hmore : walletMargin ≤ more)
    (h : isolatedLiquidationPrice long entry quantity walletMargin brackets = .ok price)
    (h' : isolatedLiquidationPrice long entry quantity more brackets = .ok price') :
    if long then price' ≤ price else price ≤ price' := by
  obtain ⟨hchain, hwf, hrates, -⟩ := tiers_chain hvalid
  cases long with
  | false =>
    have hnot {margin : ℚ} : ¬ (false = true ∧ entry * quantity ≤ margin) := by simp
    obtain ⟨b, hb, hliquidates⟩ := exists_liquidates hvalid hentry hquantity hnot h
    obtain ⟨c, hc, hliquidates'⟩ := exists_liquidates hvalid hentry hquantity hnot h'
    obtain ⟨hcovers, hgross⟩ := liquidates_short_iff.mp hliquidates
    obtain ⟨hcovers', hgross'⟩ := liquidates_short_iff.mp hliquidates'
    refine not_lt.mp fun hlt => ?_
    have hless := (Tier.gross_lt_iff hchain hwf (List.mem_map_of_mem hc) (List.mem_map_of_mem hb)
      hcovers' hcovers fun t ht => (hrates t ht).1).mpr (mul_lt_mul_of_pos_right hlt hquantity)
    linarith
  | true =>
    have hzero : entry * quantity ≤ more → price' = 0 := fun hdebt => by
      have hprice := (solver_eq_ok_iff hvalid hentry hquantity).mp h'
      rwa [IsLiquidationPrice, if_pos ⟨rfl, hdebt⟩] at hprice
    by_cases hdebt : true = true ∧ entry * quantity ≤ walletMargin
    · have hprice := (solver_eq_ok_iff hvalid hentry hquantity).mp h
      rw [IsLiquidationPrice, if_pos hdebt] at hprice
      rw [if_pos rfl, hprice, hzero (hdebt.2.trans hmore)]
    · obtain ⟨b, hb, hliquidates⟩ := exists_liquidates hvalid hentry hquantity hdebt h
      by_cases hdebt' : true = true ∧ entry * quantity ≤ more
      · rw [if_pos rfl, hzero hdebt'.2]
        exact hliquidates.nonneg hquantity
      · obtain ⟨c, hc, hliquidates'⟩ := exists_liquidates hvalid hentry hquantity hdebt' h'
        obtain ⟨hcovers, hnet⟩ := liquidates_long_iff.mp hliquidates
        obtain ⟨hcovers', hnet'⟩ := liquidates_long_iff.mp hliquidates'
        refine not_lt.mp fun hlt => ?_
        have hless := (Tier.net_lt_iff hchain hwf (List.mem_map_of_mem hb) (List.mem_map_of_mem hc)
          hcovers hcovers' fun t ht => (hrates t ht).2).mpr (mul_lt_mul_of_pos_right hlt hquantity)
        linarith

/-- **Liquidation solver correctness**, when no operation rounds: the solver returns exactly the
liquidation price, raises exactly when there is none, and the price is monotone in the
margin. -/
theorem solver_is_correct (long : Bool) (walletMargin : ℚ) :
    (∀ price, Arithmetic.exact.isolatedLiquidationPrice long entry quantity walletMargin brackets =
        .ok price ↔ IsLiquidationPrice long entry quantity walletMargin brackets price) ∧
      ((∃ error, Arithmetic.exact.isolatedLiquidationPrice long entry quantity walletMargin
          brackets = .error error) ↔
        ¬ ∃ price, IsLiquidationPrice long entry quantity walletMargin brackets price) ∧
      ∀ more price price', walletMargin ≤ more →
        Arithmetic.exact.isolatedLiquidationPrice long entry quantity walletMargin brackets =
          .ok price →
        Arithmetic.exact.isolatedLiquidationPrice long entry quantity more brackets = .ok price' →
        if long then price' ≤ price else price ≤ price' := by
  simp only [Arithmetic.exact_isolatedLiquidationPrice]
  refine ⟨fun price => solver_eq_ok_iff hvalid hentry hquantity, ?_,
    fun more price price' hmore => solver_monotone hvalid hentry hquantity hmore⟩
  simp only [← solver_eq_ok_iff hvalid hentry hquantity]
  cases isolatedLiquidationPrice long entry quantity walletMargin brackets with
  | error error => simp
  | ok price => simp

end Solver

/-- A long position of three with a margin of one, on one tier. -/
theorem solver_on_single_tier :
    Arithmetic.exact.isolatedLiquidationPrice true 3 1 1 [singleTier] = .ok (2000 / 999) ∧
      IsLiquidationPrice true 3 1 1 [singleTier] (2000 / 999) := by
  have hrun : Arithmetic.exact.isolatedLiquidationPrice true 3 1 1 [singleTier] =
      .ok (2000 / 999) := by
    decide +kernel
  exact ⟨hrun, ((solver_is_correct (by decide +kernel) (by norm_num) (by norm_num) true 1).1 _).mp
    hrun⟩

/-- **The decimal context rounds the quotient**: at the price that is returned for that position
the margin is not the maintenance. -/
theorem solver_rounds :
    ¬ ∀ (long : Bool) (entry quantity walletMargin : ℚ) (brackets : List FuturesRiskBracket),
      validateFuturesBrackets brackets = .ok () → 0 < entry → 0 < quantity →
      ∀ price, Arithmetic.decimal.isolatedLiquidationPrice long entry quantity walletMargin
        brackets = .ok price ↔ IsLiquidationPrice long entry quantity walletMargin brackets price := by
  intro hclaim
  have hrun : Arithmetic.decimal.isolatedLiquidationPrice true 3 1 1 [singleTier] =
      .ok (2002002002002002002002002002 / 10 ^ 27) := by
    decide +kernel
  have hprice := (hclaim true 3 1 1 [singleTier] (by decide +kernel) (by norm_num) (by norm_num)
    _).mp hrun
  rw [IsLiquidationPrice, if_neg (by norm_num)] at hprice
  obtain ⟨-, b, hb, -, hmargin⟩ := hprice.1
  obtain rfl := List.mem_singleton.mp hb
  revert hmargin
  decide +kernel

end Ai4Binance
