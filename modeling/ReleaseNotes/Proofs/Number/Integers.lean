import Mathlib.Tactic.Ring
import ReleaseNotes.Number

namespace ReleaseNotes.Double

/-!
Integers as floating-point numbers. One that is not zero has all 53 bits of its significand, so that
a positive one stays positive; it is too large exactly from halfway between the greatest finite
number and the next power of two.
-/

/-- More than zero: neither a zero nor what compares with nothing. -/
def IsPositive : Double → Prop
  | .nan => False
  | .infinite negative => negative = false
  | .finite negative significand _ => negative = false ∧ 0 < significand

/-- The least size of an integer that is too large: the greatest finite number and half a unit of its
last place. -/
def overflowBound : Nat := (2 ^ 54 - 1) * 2 ^ 970

theorem isPositive_iff {value : Double} :
    value.IsPositive ↔ value.isAtMostZero = false ∧ value ≠ .nan := by
  cases value with
  | nan => simp [IsPositive]
  | infinite negative => simp [IsPositive, isAtMostZero]
  | finite negative significand exponent =>
      simp [IsPositive, isAtMostZero, Nat.pos_iff_ne_zero]

/-! Rounding a quotient. -/

theorem le_roundQuotient {low num den : Nat} (hden : 0 < den) (h : low * den ≤ num) :
    low ≤ roundQuotient num den := by
  have hquotient : low ≤ num / den := (Nat.le_div_iff_mul_le hden).mpr h
  unfold roundQuotient
  dsimp only
  split <;> omega

theorem roundQuotient_le {high num den : Nat} (h : num < high * den) :
    roundQuotient num den ≤ high := by
  have hquotient : num / den < high := Nat.div_lt_of_lt_mul (Nat.mul_comm high den ▸ h)
  unfold roundQuotient
  dsimp only
  split <;> omega

/-- Below an even integer a quotient rounds up to it from halfway to it. -/
theorem roundQuotient_eq_iff {high half num : Nat} (heven : high % 2 = 0)
    (hbelow : num < high * (2 * half)) :
    roundQuotient num (2 * half) = high ↔ high * (2 * half) ≤ num + half := by
  have hhigh : 0 < high := Nat.pos_of_ne_zero fun h => by simp [h] at hbelow
  have hhalf : 0 < 2 * half := Nat.pos_of_ne_zero fun h => by simp [h] at hbelow
  have hquotient : num / (2 * half) < high := (Nat.div_lt_iff_lt_mul hhalf).mpr hbelow
  have hnum := Nat.div_add_mod num (2 * half)
  have hrest := Nat.mod_lt num hhalf
  have hnext : high * (2 * half) = 2 * half * (high - 1) + 2 * half := by
    obtain ⟨low, rfl⟩ : ∃ low, high = low + 1 := ⟨high - 1, by omega⟩
    rw [Nat.add_sub_cancel]
    ring
  unfold roundQuotient
  dsimp only
  generalize num % (2 * half) = rest at *
  constructor
  · intro hround
    split at hround
    · rename_i hup
      have hlast : num / (2 * half) = high - 1 := by omega
      rw [hlast] at hnum
      omega
    · omega
  · intro hnear
    have hreached : high - 1 ≤ num / (2 * half) :=
      (Nat.le_div_iff_mul_le hhalf).mpr (by rw [Nat.mul_comm]; omega)
    have hlast : num / (2 * half) = high - 1 := by omega
    rw [hlast] at hnum ⊢
    rw [if_pos (by omega)]
    omega

/-! The significand of an integer. -/

theorem power_natCast (base n : Nat) : power base (n : Int) = base ^ n := rfl

theorem power_neg_natCast (base n : Nat) : power base (-(n : Int)) = 1 := by
  rw [power, Int.toNat_eq_zero.mpr (by omega)]
  rfl

theorem exponentFor_one {n : Nat} (h : n ≠ 0) : exponentFor n 1 = (n.log2 : Int) - 52 := by
  have hone : Nat.log2 1 = 0 := Nat.log2_two_pow (n := 0)
  have hlog : ((n.log2 : Int) - ((1 : Nat).log2 : Int)) = n.log2 := by simp [hone]
  have hreached : ¬ n * power 2 (-(n.log2 : Int)) < 1 * power 2 (n.log2 : Int) := by
    rw [power_neg_natCast, power_natCast, Nat.mul_one, Nat.one_mul, Nat.not_lt]
    exact Nat.log2_self_le h
  unfold exponentFor leastExponent
  dsimp only
  rw [hlog, if_neg hreached, if_neg (by omega)]

/-- An integer moved until its leading bit is the first of a significand. -/
theorem scaled_bounds {n : Nat} (h : n ≠ 0) :
    let exponent : Int := (n.log2 : Int) - 52
    0 < power 2 exponent ∧ 2 ^ 52 * power 2 exponent ≤ n * power 2 (-exponent) ∧
      n * power 2 (-exponent) < 2 ^ 53 * power 2 exponent := by
  intro exponent
  have hlow := Nat.log2_self_le h
  have hhigh := Nat.lt_log2_self (n := n)
  by_cases hlarge : 52 ≤ n.log2
  · obtain ⟨places, hplaces⟩ := Nat.exists_eq_add_of_le hlarge
    have hexponent : exponent = (places : Int) := by omega
    rw [hexponent, power_natCast, power_neg_natCast, Nat.mul_one, ← Nat.pow_add, ← Nat.pow_add]
    rw [hplaces] at hlow hhigh
    exact ⟨Nat.two_pow_pos places, hlow, by rwa [show 53 + places = 52 + places + 1 by omega]⟩
  · obtain ⟨places, hplaces⟩ := Nat.exists_eq_add_of_le (Nat.le_of_not_le hlarge)
    have hexponent : exponent = -(places : Int) := by omega
    rw [hexponent, Int.neg_neg, power_natCast, power_neg_natCast, Nat.mul_one, Nat.mul_one,
      show 53 = n.log2 + 1 + places by omega, hplaces, Nat.pow_add, Nat.pow_add]
    exact ⟨Nat.one_pos, Nat.mul_le_mul_right _ hlow,
      Nat.mul_lt_mul_of_pos_right hhigh (Nat.two_pow_pos places)⟩

def significandOf (n : Nat) : Nat :=
  let exponent : Int := (n.log2 : Int) - 52
  roundQuotient (n * power 2 (-exponent)) (power 2 exponent)

theorem significandOf_bounds {n : Nat} (h : n ≠ 0) :
    2 ^ 52 ≤ significandOf n ∧ significandOf n ≤ 2 ^ 53 := by
  obtain ⟨hpos, hlow, hhigh⟩ := scaled_bounds h
  exact ⟨le_roundQuotient hpos hlow, roundQuotient_le hhigh⟩

/-- The exponent once the significand is rounded, which may carry it to the next power of two. -/
def exponentOf (n : Nat) : Int :=
  if significandOf n = 2 ^ 53 then (n.log2 : Int) - 51 else (n.log2 : Int) - 52

theorem ofQuotient_one (negative : Bool) {n : Nat} (h : n ≠ 0) :
    ∃ significand, 2 ^ 52 ≤ significand ∧
      ofQuotient negative n 1 =
        if greatestExponent < exponentOf n then .infinite negative
        else .finite negative significand (exponentOf n) := by
  have hraw : roundQuotient (n * power 2 (-((n.log2 : Int) - 52))) (power 2 ((n.log2 : Int) - 52)) =
      significandOf n := rfl
  have hcarried : (n.log2 : Int) - 52 + 1 = n.log2 - 51 := by omega
  have hlimit : power 2 53 = 2 ^ 53 := rfl
  have hhalf : power 2 52 = 2 ^ 52 := rfl
  unfold ofQuotient exponentOf
  rw [if_neg h]
  dsimp only
  rw [exponentFor_one h, Nat.one_mul, hraw, hlimit, hhalf]
  by_cases hcarry : significandOf n = 2 ^ 53
  · refine ⟨2 ^ 52, Nat.le_refl _, ?_⟩
    simp only [hcarry, if_true, hcarried]
  · refine ⟨significandOf n, (significandOf_bounds h).1, ?_⟩
    simp only [hcarry, if_false]

/-- A positive integer that is not too large stays positive. -/
theorem isPositive_of_ofInt? {i : Int} {value : Double} (hpos : 0 < i)
    (h : ofInt? i = some value) : value.IsPositive := by
  obtain ⟨significand, hsignificand, heq⟩ :=
    ofQuotient_one (decide (i < 0)) (n := i.natAbs) (by omega)
  rw [ofInt?, heq] at h
  by_cases hlarge : greatestExponent < exponentOf i.natAbs
  · rw [if_pos hlarge] at h
    cases h
  · rw [if_neg hlarge] at h
    cases h
    exact ⟨decide_eq_false (by omega), by omega⟩

/-! Too large an integer, for any greatest exponent. -/

section Overflow

variable {n : Nat} (top : Nat)

theorem lt_of_log2_lt (h : n.log2 < top + 53) : n < (2 ^ 54 - 1) * 2 ^ top := by
  have hhigh : n < 2 ^ (n.log2 + 1) := Nat.lt_log2_self
  have hnext : 2 ^ (n.log2 + 1) ≤ 2 ^ (top + 53) := Nat.pow_le_pow_right Nat.two_pos h
  have htop : 2 ^ (top + 53) = 2 ^ 53 * 2 ^ top := by ring
  omega

theorem le_of_lt_log2 (hn : n ≠ 0) (h : top + 53 < n.log2) : (2 ^ 54 - 1) * 2 ^ top ≤ n := by
  have hlow : 2 ^ n.log2 ≤ n := Nat.log2_self_le hn
  have hreached : 2 ^ (top + 54) ≤ 2 ^ n.log2 := Nat.pow_le_pow_right Nat.two_pos h
  have htop : 2 ^ (top + 54) = 2 ^ 54 * 2 ^ top := by ring
  omega

theorem significandOf_eq_iff (h : n.log2 = top + 53) :
    significandOf n = 2 ^ 53 ↔ (2 ^ 54 - 1) * 2 ^ top ≤ n := by
  have hexponent : (n.log2 : Int) - 52 = ((top + 1 : Nat) : Int) := by omega
  have hden : 2 ^ (top + 1) = 2 * 2 ^ top := by ring
  have hbelow : n < 2 ^ 53 * (2 * 2 ^ top) := by
    have hhigh : n < 2 ^ (n.log2 + 1) := Nat.lt_log2_self
    have htop : 2 ^ (top + 53 + 1) = 2 ^ 53 * (2 * 2 ^ top) := by ring
    rwa [h, htop] at hhigh
  unfold significandOf
  dsimp only
  rw [hexponent, power_natCast, power_neg_natCast, Nat.mul_one, hden,
    roundQuotient_eq_iff (by decide) hbelow]
  omega

end Overflow

theorem exponentOf_gt_iff {n : Nat} (h : n ≠ 0) :
    greatestExponent < exponentOf n ↔ overflowBound ≤ n := by
  unfold greatestExponent exponentOf overflowBound
  obtain hsmall | hequal | hlarge :
      n.log2 < 970 + 53 ∨ n.log2 = 970 + 53 ∨ 970 + 53 < n.log2 := by omega
  · refine iff_of_false ?_ (Nat.not_le.mpr (lt_of_log2_lt 970 hsmall))
    split <;> omega
  · refine Iff.trans ?_ (significandOf_eq_iff 970 hequal)
    split
    · rename_i hcarry
      exact iff_of_true (by omega) hcarry
    · rename_i hcarry
      exact iff_of_false (by omega) hcarry
  · refine iff_of_true ?_ (le_of_lt_log2 970 h hlarge)
    split <;> omega

/-- An integer is too large exactly from halfway between the greatest finite number, which has a
significand of 53 ones, and the next power of two. -/
theorem ofInt?_eq_none_iff {i : Int} : ofInt? i = none ↔ overflowBound ≤ i.natAbs := by
  by_cases hzero : i.natAbs = 0
  · have hi : i = 0 := Int.natAbs_eq_zero.mp hzero
    subst hi
    have hpos : 0 < overflowBound := lt_of_log2_lt 970 (by decide)
    exact iff_of_false (by decide) (Nat.not_le.mpr hpos)
  · obtain ⟨significand, -, heq⟩ := ofQuotient_one (decide (i < 0)) hzero
    rw [← exponentOf_gt_iff hzero, ofInt?, heq]
    by_cases hlarge : greatestExponent < exponentOf i.natAbs
    · simp only [hlarge, if_true]
    · simp only [hlarge, if_false, reduceCtorEq]

end ReleaseNotes.Double
