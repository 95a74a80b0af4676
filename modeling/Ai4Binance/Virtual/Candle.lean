/-
Market candles (`domain/market_data.py`), the checks of the constructor as
fields.
-/
import Mathlib.Tactic

namespace Ai4Binance

/-- `OHLCVCandle`.  The timestamp is aware, hence an instant, in microseconds. -/
structure OHLCVCandle where
  timestamp : ℤ
  «open» : ℚ
  high : ℚ
  low : ℚ
  close : ℚ
  volume : ℚ
  nonneg : 0 ≤ «open» ∧ 0 ≤ high ∧ 0 ≤ low ∧ 0 ≤ close ∧ 0 ≤ volume
  low_le_high : low ≤ high
  max_le_high : max «open» close ≤ high
  low_le_min : low ≤ min «open» close
  deriving DecidableEq

namespace OHLCVCandle

variable (candle : OHLCVCandle)

lemma low_le_open : candle.low ≤ candle.open := (le_min_iff.mp candle.low_le_min).1

lemma open_le_high : candle.open ≤ candle.high := (max_le_iff.mp candle.max_le_high).1

/-! The checks of a candle at the price of one. -/

lemma unit_nonneg : (0 : ℚ) ≤ 1 ∧ (0 : ℚ) ≤ 1 ∧ (0 : ℚ) ≤ 1 ∧ (0 : ℚ) ≤ 1 ∧ (0 : ℚ) ≤ 1 := by norm_num

lemma unit_low_le_high : (1 : ℚ) ≤ 1 := le_rfl

lemma unit_max_le_high : max (1 : ℚ) 1 ≤ 1 := by norm_num

lemma unit_low_le_min : (1 : ℚ) ≤ min 1 1 := by norm_num

end OHLCVCandle

end Ai4Binance
