import BrowserSuite.Proofs.Number.Rounding
import BrowserSuite.Proofs.Page.Parts

/-!
# Pauses that are too long

The pause of a delay is given in milliseconds, as a double.  It is divided by a thousand and
rounded to a double again, and that is rounded to nanoseconds, which are counted up to
`2 ^ 64` seconds.  A pause is too long exactly if it is `2 ^ 64` seconds or more as it was
given (`Clock.pauseOf_eq_none_iff`): what is shorter is not rounded up to so much.

Just below `2 ^ 64` seconds, doubles of milliseconds are `2 ^ 21` apart and doubles of seconds
`2 ^ 11`.  A thousandth of the first distance is more than half the second one, and so the
rounding of the quotient cannot bridge it.
-/

namespace BrowserSuite

open Number

variable {ms : Binary64}

/-- Milliseconds below `2 ^ 64` seconds are below them by a distance of doubles. -/
theorem Number.Binary64.modulus_le_of_lt (hms : ms.mantissa < 2 ^ 53)
    (h : ms.modulus < 2 ^ 64 * 1000) : ms.modulus ≤ 2 ^ 64 * 1000 - 2 ^ 21 := by
  have hmantissa : (ms.mantissa : ℚ) ≤ 2 ^ 53 := by exact_mod_cast hms.le
  unfold modulus at h ⊢
  by_cases hsmall : ms.exponent ≤ 20
  · have hpow : (2 : ℚ) ^ ms.exponent ≤ 2 ^ 20 := by
      exact_mod_cast zpow_le_zpow_right₀ (one_le_two : (1 : ℚ) ≤ 2) hsmall
    calc (ms.mantissa : ℚ) * 2 ^ ms.exponent ≤ 2 ^ 53 * 2 ^ 20 := by gcongr
      _ ≤ 2 ^ 64 * 1000 - 2 ^ 21 := by norm_num
  · -- both sides are multiples of `2 ^ 21`
    obtain ⟨j, hj⟩ := Int.eq_ofNat_of_zero_le (show 0 ≤ ms.exponent - 21 by omega)
    have hpow : (2 : ℚ) ^ ms.exponent = 2 ^ j * 2 ^ 21 := by
      rw [show ms.exponent = j + 21 by omega, zpow_add₀ two_ne_zero]
      rfl
    rw [hpow, ← mul_assoc] at h ⊢
    have hlt : ms.mantissa * 2 ^ j < 125 * 2 ^ 46 := by
      have hcast : (ms.mantissa : ℚ) * 2 ^ j < 125 * 2 ^ 46 := by linarith
      exact_mod_cast hcast
    have hle : (ms.mantissa : ℚ) * 2 ^ j ≤ 125 * 2 ^ 46 - 1 := by
      have hnat : ms.mantissa * 2 ^ j + 1 ≤ 125 * 2 ^ 46 := hlt
      have hcast : (ms.mantissa : ℚ) * 2 ^ j + 1 ≤ 125 * 2 ^ 46 := by exact_mod_cast hnat
      linarith
    linarith

/-- Seconds from `2 ^ 64` on cannot be counted in nanoseconds, and those that are at least one
second less can. -/
theorem Clock.pauseOf_of_divNat {seconds : Binary64} (h : ms.divNat 1000 = some seconds) :
    (2 ^ 64 ≤ seconds.modulus → Clock.pauseOf ms = none) ∧
      (seconds.modulus ≤ 2 ^ 64 - 1 → Clock.pauseOf ms ≠ none) := by
  obtain ⟨hden, hvalue⟩ := seconds.magnitude_eq
  obtain ⟨limit, hlimit⟩ : ∃ limit, limit = Nat.pow 2 64 * Nat.pow 10 9 := ⟨_, rfl⟩
  have hcast : (limit : ℚ) = 2 ^ 64 * 10 ^ 9 := by
    rw [hlimit, Nat.pow_eq, Nat.pow_eq]
    norm_num
  have hpause : Clock.pauseOf ms =
      if roundDiv (seconds.magnitude.1 * Nat.pow 10 9) seconds.magnitude.2 < limit then
        some ((roundDiv (seconds.magnitude.1 * Nat.pow 10 9) seconds.magnitude.2 + 999999) /
          1000000)
      else none := by
    unfold Clock.pauseOf
    rw [h, hlimit, Option.bind_eq_bind, Option.bind_some]
  generalize seconds.magnitude = fraction at hden hvalue hpause
  obtain ⟨num, den⟩ := fraction
  dsimp only at hden hvalue hpause
  have hnanoseconds : ((num * Nat.pow 10 9 : Nat) : ℚ) / den = seconds.modulus * 10 ^ 9 := by
    rw [← hvalue, Nat.pow_eq, div_mul_eq_mul_div]
    norm_num
  constructor
  · intro hlong
    have hcount : limit ≤ roundDiv (num * Nat.pow 10 9) den := by
      refine le_roundDiv hden ?_
      rw [hnanoseconds, hcast]
      linarith
    rw [hpause]
    exact if_neg (Nat.not_lt.mpr hcount)
  · intro hshort
    have hround := roundDiv_le (num * Nat.pow 10 9) hden
    rw [hnanoseconds] at hround
    have hcount : roundDiv (num * Nat.pow 10 9) den < limit := by
      have hbelow : (roundDiv (num * Nat.pow 10 9) den : ℚ) < limit := by linarith
      exact_mod_cast hbelow
    rw [hpause, if_pos hcount]
    exact Option.some_ne_none _

/-- A pause cannot be counted exactly if it is `2 ^ 64` seconds or more. -/
theorem Clock.pauseOf_eq_none_iff (hms : ms.mantissa < 2 ^ 53) :
    Clock.pauseOf ms = none ↔ 2 ^ 64 * 1000 ≤ ms.modulus := by
  obtain ⟨hden, hvalue⟩ := ms.magnitude_eq
  have hden' : 0 < ms.magnitude.2 * 1000 := Nat.mul_pos hden (by decide)
  have hseconds : (ms.magnitude.1 : ℚ) / (ms.magnitude.2 * 1000 : Nat) = ms.modulus / 1000 := by
    rw [← hvalue, div_div]
    push_cast
    rfl
  have hdivide : ms.divNat 1000 =
      Binary64.nearest ms.negative ms.magnitude.1 (ms.magnitude.2 * 1000) := rfl
  constructor
  · contrapose!
    intro hshort
    have hbelow := Binary64.modulus_le_of_lt hms hshort
    have hroom : (ms.magnitude.1 : ℚ) / (ms.magnitude.2 * 1000 : Nat) + 2 ^ (11 : Int) / 2 <
        2 ^ ((11 : Int) + 53) := by
      rw [hseconds]
      norm_num
      linarith
    obtain ⟨seconds, hnearest, hround⟩ :=
      Binary64.exists_nearest ms.negative hden' hroom (by decide) (by decide)
    rw [hseconds] at hround
    refine (Clock.pauseOf_of_divNat (hdivide.trans hnearest)).2 ?_
    norm_num at hround ⊢
    linarith
  · intro hlong
    cases hresult : ms.divNat 1000 with
    | none =>
        unfold Clock.pauseOf
        rw [hresult]
        rfl
    | some seconds =>
        have hfraction : 2 ^ 64 ≤ (ms.magnitude.1 : ℚ) / (ms.magnitude.2 * 1000 : Nat) := by
          rw [hseconds]
          linarith
        have hlarge := Binary64.le_modulus_of_nearest hden' hfraction (hdivide ▸ hresult)
        exact (Clock.pauseOf_of_divNat hresult).1 hlarge

namespace PageRun

/-- A delay that stands for `2 ^ 64` seconds or more. -/
def Overlong (text : String) : Prop :=
  ∃ ms, double? text = some (.finite ms) ∧ ms.negative = false ∧ 2 ^ 64 * 1000 ≤ ms.modulus

/-- The parameter of a delay is a number that is finite and not negative. -/
theorem pause_eq_ok_iff {text : String} :
    pause text = .ok ms ↔
      double? text = some (.finite ms) ∧ (ms.negative = true → ms.mantissa = 0) := by
  unfold pause
  constructor
  · intro h
    split at h
    · next x hread =>
        split at h
        · cases h
        · next hsign =>
            cases h
            refine ⟨hread, fun hnegative => ?_⟩
            simpa [hnegative, Binary64.isZero] using hsign
    · cases h
  · rintro ⟨hread, hsign⟩
    rw [hread]
    refine if_neg fun hnegative => ?_
    simp only [Bool.and_eq_true, Bool.not_eq_true', Binary64.isZero, beq_eq_false_iff_ne]
      at hnegative
    exact hnegative.2 (hsign hnegative.1)

/-- A delay that is overlong is accepted and cannot be counted, and it alone. -/
theorem overlong_iff {text : String} :
    Overlong text ↔ ∃ ms, pause text = .ok ms ∧ Clock.pauseOf ms = none := by
  constructor
  · rintro ⟨ms, hread, hsign, hlong⟩
    have hms := mantissa_lt_of_double? hread
    exact ⟨ms, pause_eq_ok_iff.mpr ⟨hread, by simp [hsign]⟩,
      (Clock.pauseOf_eq_none_iff hms).mpr hlong⟩
  · rintro ⟨ms, hpause, hnone⟩
    obtain ⟨hread, hsign⟩ := pause_eq_ok_iff.mp hpause
    have hlong := (Clock.pauseOf_eq_none_iff (mantissa_lt_of_double? hread)).mp hnone
    refine ⟨ms, hread, ?_, hlong⟩
    -- a number with a minus is a zero, and that is not long
    by_contra hnegative
    have hzero : ms.modulus = 0 := by
      unfold Binary64.modulus
      rw [hsign (by simpa using hnegative)]
      simp
    rw [hzero] at hlong
    norm_num at hlong

end PageRun

end BrowserSuite
