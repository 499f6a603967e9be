import DynamicDns.Validation

/-! # Periods in their bounds

The update period is moved to the nearest number of seconds within its bounds.
It is kept in words of 64 bits, with a sign before it is moved and without one
after that, and goes from the one to the other more than once. As both bounds are
numbers of either kind of words, no number is changed on the way.
-/

namespace DynamicDns

/-- The least and the greatest period bound all others. -/
theorem clampPeriod_eq (period : Int) : (clampPeriod period : Int) = max 120 (min period 864000) := by
  unfold clampPeriod Limits.shortestPeriod Limits.longestPeriod
  split
  · omega
  · split <;> omega

theorem clampPeriod_eq_toNat (period : Int) :
    clampPeriod period = (max 120 (min period 864000)).toNat := by
  have number := clampPeriod_eq period
  omega

theorem clampPeriod_mono {period later : Int} (ordered : period ≤ later) :
    clampPeriod period ≤ clampPeriod later := by
  have first := clampPeriod_eq period
  have second := clampPeriod_eq later
  omega

theorem clampPeriod_clampPeriod (period : Int) :
    clampPeriod (clampPeriod period) = clampPeriod period := by
  have once := clampPeriod_eq period
  have twice := clampPeriod_eq (clampPeriod period)
  omega

namespace PeriodWord

/-- The bounds as words without a sign. -/
def shortest : UInt64 := .ofNat Limits.shortestPeriod

def longest : UInt64 := .ofNat Limits.longestPeriod

/-- A period with a sign, moved into its bounds. Where the one kind of words is taken for the other,
    the bits stay as they are. -/
def clamp (period : Int64) : UInt64 :=
  if period < shortest.toInt64 then shortest
  else if longest.toInt64 < period then longest
  else period.toUInt64

theorem toInt_toInt64 {word : UInt64} (small : word.toNat ≤ 864000) :
    word.toInt64.toInt = word.toNat := by
  rw [Int64.toInt, UInt64.toBitVec_toInt64, BitVec.toInt_eq_toNat_of_lt]
  · rfl
  · change 2 * word.toNat < _
    omega

theorem toNat_toUInt64 (period : Int64) (positive : 0 ≤ period.toInt) :
    (period.toUInt64.toNat : Int) = period.toInt := by
  have ordered : 0 ≤ period := by rwa [Int64.le_iff_toInt_le]
  rw [Int64.toNat_toUInt64_of_le ordered, Int64.toInt_eq_toNatClampNeg ordered]

theorem toInt_shortest : shortest.toInt64.toInt = 120 := rfl

theorem toInt_longest : longest.toInt64.toInt = 864000 := rfl

/-- Worked out in words, the period is the same number. -/
theorem toNat_clamp (period : Int64) : (clamp period).toNat = clampPeriod period.toInt := by
  have number := clampPeriod_eq period.toInt
  have least : shortest.toNat = 120 := rfl
  have greatest : longest.toNat = 864000 := rfl
  unfold clamp
  simp only [Int64.lt_iff_toInt_lt, toInt_shortest, toInt_longest]
  split
  · omega
  · split
    · omega
    · have same := toNat_toUInt64 period (by omega)
      omega

theorem toInt_clamp (period : Int64) :
    (clamp period).toInt64.toInt = (clamp period).toNat := by
  apply toInt_toInt64
  rw [toNat_clamp]
  have number := clampPeriod_eq period.toInt
  omega

/-- Wherever a word of one kind is taken for one of the other, the number stays the same. -/
structure NoWrap (period : Int64) : Prop where
  least : shortest.toInt64.toInt = shortest.toNat
  greatest : longest.toInt64.toInt = longest.toNat
  within : shortest.toInt64 ≤ period → period ≤ longest.toInt64 →
    (period.toUInt64.toNat : Int) = period.toInt
  kept : (clamp period).toInt64.toInt = (clamp period).toNat
  extracted : ((clamp period).toInt64.toUInt64.toNat : Int) = (clamp period).toInt64.toInt

theorem noWrap (period : Int64) : NoWrap period where
  least := rfl
  greatest := rfl
  within := by
    intro notShort _
    rw [Int64.le_iff_toInt_le, toInt_shortest] at notShort
    exact toNat_toUInt64 period (by omega)
  kept := toInt_clamp period
  extracted := by
    rw [UInt64.toUInt64_toInt64, toInt_clamp]

end PeriodWord

end DynamicDns
