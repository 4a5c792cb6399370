import BrowserSuite.Number.Reading
import Mathlib.Algebra.Order.Field.Basic
import Mathlib.Algebra.Order.Field.Power
import Mathlib.Algebra.Order.Field.Rat
import Mathlib.Tactic.FieldSimp
import Mathlib.Tactic.Linarith
import Mathlib.Tactic.NormNum
import Mathlib.Tactic.Positivity
import Mathlib.Tactic.Ring

/-!
# How far rounding goes

A double is found in two steps: an exponent is chosen at which the mantissa has no more than
53 bits, and the mantissa is rounded there.  `nearest_eq` says which exponent that is.  From
it follows what is used of rounding: a double is above the fraction that it was made of by no
more than half a unit in its last place (`exists_nearest`), a fraction that is not below
a power of two is not rounded below it (`le_modulus_of_nearest`), and the mantissa is never
larger than it may be (`mantissa_lt_of_nearest`).
-/

namespace BrowserSuite.Number

/-! ## Rounded quotients -/

theorem le_roundDiv {k num den : Nat} (hden : 0 < den) (h : (k : ℚ) ≤ num / den) :
    k ≤ roundDiv num den := by
  have hmul : k * den ≤ num := by
    rw [le_div_iff₀ (by exact_mod_cast hden)] at h
    exact_mod_cast h
  have hquotient : k ≤ num / den := (Nat.le_div_iff_mul_le hden).mpr hmul
  unfold roundDiv
  dsimp only
  split <;> omega

/-- A rounded quotient is above the exact one by no more than a half. -/
theorem roundDiv_le (num : Nat) {den : Nat} (hden : 0 < den) :
    (roundDiv num den : ℚ) ≤ num / den + 1 / 2 := by
  have hsplit : num / den * den + num % den = num := Nat.div_add_mod' num den
  have hround : 2 * (roundDiv num den * den) ≤ 2 * num + den := by
    unfold roundDiv
    dsimp only
    split
    · next hup =>
        have hhalf : den ≤ 2 * (num % den) := by
          simp only [Bool.or_eq_true, Bool.and_eq_true, decide_eq_true_eq, beq_iff_eq] at hup
          omega
        rw [Nat.add_mul]
        omega
    · omega
  have hden' : (0 : ℚ) < den := by exact_mod_cast hden
  have hcast : 2 * ((roundDiv num den : ℚ) * den) ≤ 2 * num + den := by exact_mod_cast hround
  rw [div_add_div _ _ hden'.ne' two_ne_zero, le_div_iff₀ (by positivity)]
  linarith

namespace Binary64

variable {num den k : Nat} {e : Int} {negative : Bool} {x : Binary64}

/-! ## The mantissa at an exponent -/

/-- What a double stands for, without its sign. -/
def modulus (x : Binary64) : ℚ := x.mantissa * 2 ^ x.exponent

theorem two_zpow_of_nonneg (h : 0 ≤ e) : (2 : ℚ) ^ e = 2 ^ e.toNat := by
  conv_lhs => rw [← Int.toNat_of_nonneg h]
  exact zpow_natCast 2 _

theorem two_zpow_of_neg (h : e < 0) : (2 : ℚ) ^ e = (2 ^ (-e).toNat)⁻¹ := by
  rw [← two_zpow_of_nonneg (Int.le_of_lt (Int.neg_pos_of_neg h)), zpow_neg, inv_inv]

theorem magnitude_eq (x : Binary64) :
    0 < x.magnitude.2 ∧ (x.magnitude.1 : ℚ) / x.magnitude.2 = x.modulus := by
  unfold magnitude modulus
  split
  · next h =>
      rw [two_zpow_of_nonneg h]
      simp
  · next h =>
      rw [two_zpow_of_neg (Int.lt_of_not_ge h)]
      simp [div_eq_mul_inv]

/-- The mantissa is the fraction in units of the power of two, rounded. -/
theorem mantissaAt_eq (num : Nat) (hden : 0 < den) (e : Int) :
    ∃ a b : Nat, 0 < b ∧ mantissaAt num den e = roundDiv a b ∧
      (a : ℚ) / b = num / den / 2 ^ e := by
  unfold mantissaAt
  split
  · next he =>
      refine ⟨num, den * Nat.pow 2 e.toNat, Nat.mul_pos hden (Nat.two_pow_pos _), rfl, ?_⟩
      rw [two_zpow_of_nonneg he, Nat.pow_eq, div_div]
      push_cast
      rfl
  · next he =>
      refine ⟨num * Nat.pow 2 (-e).toNat, den, hden, rfl, ?_⟩
      rw [two_zpow_of_neg (Int.lt_of_not_ge he), Nat.pow_eq, div_inv_eq_mul, div_mul_eq_mul_div]
      push_cast
      rfl

theorem le_mantissaAt (hden : 0 < den) (h : (k : ℚ) * 2 ^ e ≤ num / den) :
    k ≤ mantissaAt num den e := by
  obtain ⟨a, b, hb, hround, hquotient⟩ := mantissaAt_eq num hden e
  rw [hround]
  refine le_roundDiv hb ?_
  rw [hquotient, le_div_iff₀ (by positivity)]
  exact h

theorem mantissaAt_mul_le (num : Nat) (hden : 0 < den) (e : Int) :
    (mantissaAt num den e : ℚ) * 2 ^ e ≤ num / den + 2 ^ e / 2 := by
  obtain ⟨a, b, hb, hround, hquotient⟩ := mantissaAt_eq num hden e
  have hunit : (0 : ℚ) < 2 ^ e := by positivity
  have hle := mul_le_mul_of_nonneg_right (roundDiv_le a hb) hunit.le
  rw [hround]
  calc (roundDiv a b : ℚ) * 2 ^ e ≤ (a / b + 1 / 2) * 2 ^ e := hle
    _ = num / den + 2 ^ e / 2 := by
      rw [hquotient]
      field_simp

/-! ## The exponent -/

/-- The smallest exponent that is tried. -/
def lowest (num den : Nat) : Int := max ((num.log2 : Int) - (den.log2 : Int) - 53) (-1074)

/-- The lowest exponent is right up to two, as it goes by the lengths of the two numbers. -/
theorem lt_two_zpow_lowest (num : Nat) (hden : 0 < den) :
    (num : ℚ) / den < 2 ^ (lowest num den + 54) := by
  have hden' : (0 : ℚ) < den := by exact_mod_cast hden
  have hnum : (num : ℚ) < 2 ^ ((num.log2 : Int) + 1) := by
    have hlog : num < 2 ^ (num.log2 + 1) := Nat.lt_log2_self
    exact_mod_cast hlog
  have hlog : (2 : ℚ) ^ (den.log2 : Int) ≤ den := by
    have hlog : 2 ^ den.log2 ≤ den := Nat.log2_self_le hden.ne'
    exact_mod_cast hlog
  rw [div_lt_iff₀ hden']
  calc (num : ℚ) < 2 ^ ((num.log2 : Int) + 1) := hnum
    _ ≤ 2 ^ (lowest num den + 54 + den.log2) := by
      refine zpow_le_zpow_right₀ one_le_two ?_
      unfold lowest
      omega
    _ = 2 ^ (lowest num den + 54) * 2 ^ (den.log2 : Int) := zpow_add₀ two_ne_zero _ _
    _ ≤ 2 ^ (lowest num den + 54) * den := mul_le_mul_of_nonneg_left hlog (by positivity)

theorem two_zpow_lowest_le (hnum : num ≠ 0) (hden : 0 < den) (h : -1074 < lowest num den) :
    2 ^ (lowest num den + 52) ≤ (num : ℚ) / den := by
  have hden' : (0 : ℚ) < den := by exact_mod_cast hden
  have hlog : (2 : ℚ) ^ (num.log2 : Int) ≤ num := by
    have hlog : 2 ^ num.log2 ≤ num := Nat.log2_self_le hnum
    exact_mod_cast hlog
  have hbound : (den : ℚ) ≤ 2 ^ ((den.log2 : Int) + 1) := by
    have hlog : den < 2 ^ (den.log2 + 1) := Nat.lt_log2_self
    exact_mod_cast hlog.le
  rw [le_div_iff₀ hden']
  calc (2 : ℚ) ^ (lowest num den + 52) * den
      ≤ 2 ^ (lowest num den + 52) * 2 ^ ((den.log2 : Int) + 1) :=
        mul_le_mul_of_nonneg_left hbound (by positivity)
    _ = 2 ^ (lowest num den + 52 + ((den.log2 : Int) + 1)) := (zpow_add₀ two_ne_zero _ _).symm
    _ ≤ 2 ^ (num.log2 : Int) := by
      refine zpow_le_zpow_right₀ one_le_two ?_
      unfold lowest at h ⊢
      omega
    _ ≤ num := hlog

/-- Whether a mantissa at some exponent is not too long. -/
def Fits (num den : Nat) (e : Int) : Prop := mantissaAt num den e < Nat.pow 2 53

instance (num den : Nat) (e : Int) : Decidable (Fits num den e) :=
  inferInstanceAs (Decidable (mantissaAt num den e < Nat.pow 2 53))

theorem fits_add_two (num : Nat) (hden : 0 < den) : Fits num den (lowest num den + 2) := by
  have hround := mantissaAt_mul_le num hden (lowest num den + 2)
  have hfraction := lt_two_zpow_lowest num hden
  have hunit : (0 : ℚ) < 2 ^ (lowest num den + 2) := by positivity
  have hsplit : (2 : ℚ) ^ (lowest num den + 54) = 2 ^ 52 * 2 ^ (lowest num den + 2) := by
    rw [← zpow_natCast, ← zpow_add₀ two_ne_zero]
    congr 1
    push_cast
    ring
  generalize (2 : ℚ) ^ (lowest num den + 2) = unit at hround hunit hsplit
  have hbound : (mantissaAt num den (lowest num den + 2) : ℚ) < 2 ^ 53 := by
    by_contra hlong
    have hmul := mul_le_mul_of_nonneg_right (not_lt.mp hlong) hunit.le
    linarith
  unfold Fits
  exact_mod_cast hbound

/-- The exponent of the nearest double is the first one from the lowest up at which the
mantissa fits. -/
theorem nearest_eq (negative : Bool) (hnum : num ≠ 0) (hden : 0 < den) :
    ∃ e, lowest num den ≤ e ∧ e ≤ lowest num den + 2 ∧ Fits num den e ∧
      (∀ k, lowest num den ≤ k → Fits num den k → e ≤ k) ∧
      nearest negative num den =
        if 971 < e then none else some ⟨negative, mantissaAt num den e, e⟩ := by
  let low := lowest num den
  let step (e : Int) : Int := if Fits num den e then e else e + 1
  have hnearest : nearest negative num den = if 971 < step (step low) then none
      else some ⟨negative, mantissaAt num den (step (step low)), step (step low)⟩ := if_neg hnum
  -- two steps are made, and where both of them go up the mantissa fits after the second one
  by_cases hfirst : Fits num den low
  · have hstep : step low = low := if_pos hfirst
    rw [hstep, hstep] at hnearest
    exact ⟨low, le_rfl, by omega, hfirst, fun k hk _ => hk, hnearest⟩
  · have hstep : step low = low + 1 := if_neg hfirst
    rw [hstep] at hnearest
    by_cases hsecond : Fits num den (low + 1)
    · have hstep : step (low + 1) = low + 1 := if_pos hsecond
      rw [hstep] at hnearest
      refine ⟨low + 1, by omega, by omega, hsecond, fun k hk hfits => ?_, hnearest⟩
      have hne : k ≠ low := by
        rintro rfl
        exact hfirst hfits
      omega
    · have hstep : step (low + 1) = low + 1 + 1 := if_neg hsecond
      rw [hstep, add_assoc] at hnearest
      refine ⟨low + 2, by omega, le_rfl, fits_add_two num hden, fun k hk hfits => ?_, hnearest⟩
      have hne : k ≠ low := by
        rintro rfl
        exact hfirst hfits
      have hne' : k ≠ low + 1 := by
        rintro rfl
        exact hsecond hfits
      omega

/-! ## The nearest double -/

theorem modulus_zero (negative : Bool) : (zero negative).modulus = 0 := by
  simp [zero, modulus]

/-- No mantissa is longer than it may be. -/
theorem mantissa_lt_of_nearest (hden : 0 < den) (h : nearest negative num den = some x) :
    x.mantissa < 2 ^ 53 := by
  by_cases hnum : num = 0
  · unfold nearest at h
    rw [if_pos hnum] at h
    cases h
    exact Nat.two_pow_pos 53
  · obtain ⟨e, -, -, hfits, -, hnearest⟩ := nearest_eq negative hnum hden
    rw [hnearest] at h
    split at h
    · cases h
    · cases h
      exact hfits

/-- A fraction whose mantissa fits at some exponent even half a unit further up is above by no
more than that half unit where it is rounded up. -/
theorem exists_nearest (negative : Bool) (hden : 0 < den)
    (h : (num : ℚ) / den + 2 ^ e / 2 < 2 ^ (e + 53)) (hlow : -1074 ≤ e) (hhigh : e ≤ 971) :
    ∃ x, nearest negative num den = some x ∧ x.modulus ≤ num / den + 2 ^ e / 2 := by
  have hunit : (0 : ℚ) < 2 ^ e := by positivity
  by_cases hnum : num = 0
  · refine ⟨zero negative, if_pos hnum, ?_⟩
    rw [modulus_zero]
    positivity
  · have hlowest : lowest num den ≤ e := by
      by_contra habove
      have hlarge := two_zpow_lowest_le hnum hden (by omega)
      have hpow : (2 : ℚ) ^ (e + 53) ≤ 2 ^ (lowest num den + 52) :=
        zpow_le_zpow_right₀ one_le_two (by omega)
      linarith
    have hfits : Fits num den e := by
      have hround := mantissaAt_mul_le num hden e
      rw [zpow_add₀ two_ne_zero, mul_comm] at h
      have hbound : (mantissaAt num den e : ℚ) < 2 ^ (53 : Int) :=
        lt_of_mul_lt_mul_right (by linarith) hunit.le
      exact_mod_cast hbound
    obtain ⟨exponent, -, -, -, hfirst, hnearest⟩ := nearest_eq negative hnum hden
    have hle : exponent ≤ e := hfirst e hlowest hfits
    have hsmaller : (2 : ℚ) ^ exponent ≤ 2 ^ e := zpow_le_zpow_right₀ one_le_two hle
    rw [if_neg (by omega)] at hnearest
    refine ⟨_, hnearest, ?_⟩
    have hround := mantissaAt_mul_le num hden exponent
    show (mantissaAt num den exponent : ℚ) * 2 ^ exponent ≤ _
    linarith

/-- A fraction that is not below a power of two is not rounded below it. -/
theorem le_modulus_of_nearest {n : Nat} (hden : 0 < den) (h : 2 ^ n ≤ (num : ℚ) / den)
    (hnearest : nearest negative num den = some x) : 2 ^ n ≤ x.modulus := by
  have hnum : num ≠ 0 := by
    rintro rfl
    have hpow : (0 : ℚ) < 2 ^ n := by positivity
    rw [Nat.cast_zero, zero_div] at h
    linarith
  obtain ⟨e, -, hle, -, -, heq⟩ := nearest_eq negative hnum hden
  rw [heq] at hnearest
  split at hnearest
  · cases hnearest
  · cases hnearest
    show (2 : ℚ) ^ n ≤ mantissaAt num den e * 2 ^ e
    by_cases hsmall : e ≤ n
    · -- the power of two is a multiple of the unit
      obtain ⟨k, hk⟩ := Int.eq_ofNat_of_zero_le (Int.sub_nonneg_of_le hsmall)
      have hpower : ((2 ^ k : Nat) : ℚ) * 2 ^ e = 2 ^ n := by
        push_cast
        rw [← zpow_natCast, ← zpow_add₀ two_ne_zero, ← zpow_natCast]
        congr 1
        omega
      have hmantissa : 2 ^ k ≤ mantissaAt num den e := le_mantissaAt hden (hpower ▸ h)
      rw [← hpower]
      exact mul_le_mul_of_nonneg_right (by exact_mod_cast hmantissa) (by positivity)
    · -- the unit itself is larger, and the mantissa is not zero
      have hlarge := two_zpow_lowest_le hnum hden (by omega)
      have hunit : (2 : ℚ) ^ e ≤ num / den :=
        (zpow_le_zpow_right₀ one_le_two (by omega)).trans hlarge
      have hmantissa : 1 ≤ mantissaAt num den e := le_mantissaAt hden (by simpa using hunit)
      calc (2 : ℚ) ^ n = 2 ^ (n : Int) := (zpow_natCast 2 n).symm
        _ ≤ 2 ^ e := zpow_le_zpow_right₀ one_le_two (by omega)
        _ ≤ mantissaAt num den e * 2 ^ e :=
          le_mul_of_one_le_left (by positivity) (by exact_mod_cast hmantissa)

/-! ## Doubles that are read -/

theorem mantissa_lt_of_ofDecimal {digits : Nat} (h : ofDecimal negative digits e = some x) :
    x.mantissa < 2 ^ 53 := by
  have hten : ∀ n, 0 < Nat.pow 10 n := fun n => Nat.pow_pos (by decide)
  unfold ofDecimal at h
  split at h
  · cases h
    exact Nat.two_pow_pos 53
  · dsimp only at h
    split at h
    · cases h
    · split at h
      · cases h
        exact Nat.two_pow_pos 53
      · split at h
        · exact mantissa_lt_of_nearest Nat.one_pos h
        · exact mantissa_lt_of_nearest (hten _) h

end Binary64

/-- A decimal that is read as a finite number is read as a double of its precision. -/
theorem mantissa_lt_of_finite {negative : Bool} {digits : Nat} {e : Int} {x : Binary64}
    (h : (match Binary64.ofDecimal negative digits e with
      | some x => some (DoubleText.finite x)
      | none => some (.infinite negative)) = some (.finite x)) : x.mantissa < 2 ^ 53 := by
  split at h
  · next hdecimal =>
      cases h
      exact Binary64.mantissa_lt_of_ofDecimal hdecimal
  · cases h

theorem mantissa_lt_of_decimalText? {negative : Bool} {s : List Char} {x : Binary64}
    (h : decimalText? negative s = some (.finite x)) : x.mantissa < 2 ^ 53 := by
  unfold decimalText? at h
  dsimp only at h
  obtain ⟨digits, -, h⟩ := Option.bind_eq_some_iff.mp h
  split at h
  · exact mantissa_lt_of_finite h
  · obtain ⟨exponent, -, h⟩ := Option.bind_eq_some_iff.mp h
    exact mantissa_lt_of_finite h
  · obtain ⟨exponent, -, h⟩ := Option.bind_eq_some_iff.mp h
    exact mantissa_lt_of_finite h
  · cases h

theorem mantissa_lt_of_double? {text : String} {x : Binary64}
    (h : double? text = some (.finite x)) : x.mantissa < 2 ^ 53 := by
  unfold double? at h
  dsimp only at h
  split_ifs at h
  · simp at h
  · simp at h
  · exact mantissa_lt_of_decimalText? h

end BrowserSuite.Number
