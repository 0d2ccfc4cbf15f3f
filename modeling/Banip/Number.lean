import Banip.Lib.Numeral
import Banip.Parse

/-!
# Number — which texts `parse_ulong` takes for a number

`parse_ulong` is meant for positive decimal numerals that an `unsigned long` can hold:
`PositiveNumeral`.  `ulongReturns_iff` says what it accepts instead.  Two of its steps make the
difference:

* it hands the text to `strtoul` with its sign, which negates modulo `2 ^ w`, so a `-` numeral of
  non-zero magnitude comes back as a large positive number;
* it does not clear `errno` first, so an `ERANGE` left by an earlier call makes a numeral of value
  `ULONG_MAX` look like an overflow.
-/

namespace Banip

open Lib

/-- White space, an optional `+` and digits, of a value from 1 to `ULONG_MAX`. -/
def PositiveNumeral (h : Host) (s : Bytes) (v : Nat) : Prop :=
  Numeral false s v ∧ 1 ≤ v ∧ v ≤ h.ulongMax

instance (h : Host) (s : Bytes) (v : Nat) : Decidable (PositiveNumeral h s v) :=
  inferInstanceAs (Decidable (_ ∧ _))

variable {h : Host} {errno : Nat} {s : Bytes}

/-- The checks of `parse_ulong` in one condition on what `strtoul` returned. -/
lemma ulongReturns_iff_strtoul {v : Nat} :
    UlongReturns h errno s v ↔ v = (strtoul h errno s).value ∧
      ¬ ((strtoul h errno s).errno = ERANGE ∧ (strtoul h errno s).value = h.ulongMax) ∧
      (strtoul h errno s).endptr ≠ 0 ∧ s.drop (strtoul h errno s).endptr = [] ∧
      (strtoul h errno s).value ≠ 0 := by
  generalize hr : strtoul h errno s = r
  unfold UlongReturns parseUlong
  simp only [hr]
  -- the four checks in the order of the source; a check that fails reports and returns false
  by_cases hrange : (r.errno = ERANGE ∧ r.value = h.ulongMax) ∨ (r.errno ≠ 0 ∧ r.value = 0)
  · rw [if_pos hrange]
    constructor
    · intro hv
      simp [errorSet, ok_bind, pure_eq_ok] at hv
    · rintro ⟨-, hnot, -, -, hpos⟩
      rcases hrange with hmax | hzero
      · exact absurd hmax hnot
      · exact absurd hzero.2 hpos
  · rw [if_neg hrange]
    by_cases hend : r.endptr = 0
    · simp [hend, errorSet, ok_bind, pure_eq_ok]
    · rw [if_neg hend]
      cases hdrop : s.drop r.endptr with
      | cons c rest => simp [errorSet, ok_bind, pure_eq_ok]
      | nil =>
        by_cases hzero : r.value = 0
        · simp [hzero, errorSet, ok_bind, pure_eq_ok]
        · have hmax : ¬ (r.errno = ERANGE ∧ r.value = h.ulongMax) := fun hm => hrange (Or.inl hm)
          rw [if_neg hzero, pure_eq_ok]
          constructor
          · intro hv
            cases hv
            exact ⟨rfl, hmax, hend, rfl, hzero⟩
          · rintro ⟨rfl, -⟩
            rfl

lemma two_pow_longBits (h : Host) : 2 ^ h.longBits = h.ulongMax + 1 := by
  have hpos : 0 < 2 ^ h.longBits := Nat.two_pow_pos _
  rw [Host.ulongMax]
  omega

lemma ulongMax_pos (h : Host) : 1 < h.ulongMax := by
  rcases h.longBits_ok with hw | hw
  · rw [Host.ulongMax, hw]
    decide
  · rw [Host.ulongMax, hw]
    decide

/-- The number `parse_ulong` stores for a numeral of magnitude `m`. -/
def storedValue (h : Host) (minus : Bool) (m : Nat) : Nat :=
  if minus then h.ulongMax + 1 - m else m

/-- The value `strtoul` returns for it, as long as it is not a negated zero. -/
lemma strtoul_value_eq {minus : Bool} {m : Nat} (hpos : 1 ≤ m) :
    (if minus then (2 ^ h.longBits - m) % 2 ^ h.longBits else m) = storedValue h minus m := by
  cases minus with
  | false => rfl
  | true =>
    have hlt : h.ulongMax + 1 - m < h.ulongMax + 1 := by omega
    simp [storedValue, two_pow_longBits, Nat.mod_eq_of_lt hlt]

/-- What `parse_ulong` accepts: a numeral of either sign whose magnitude is from 1 to `ULONG_MAX`,
unless the number it stores is `ULONG_MAX` itself while `errno` is still `ERANGE`. -/
lemma ulongReturns_iff {v : Nat} :
    UlongReturns h errno s v ↔ ∃ minus m, Numeral minus s m ∧ 1 ≤ m ∧ m ≤ h.ulongMax ∧
      v = storedValue h minus m ∧ ¬ (errno = ERANGE ∧ v = h.ulongMax) := by
  rw [ulongReturns_iff_strtoul]
  constructor
  · rintro ⟨rfl, hrange, hend, hdrop, hpos⟩
    rcases numeral_of_strtoul hend hdrop with ⟨minus, m, hs⟩
    rw [strtoul_numeral hs] at hrange hpos ⊢
    by_cases hm : h.ulongMax < m
    · rw [if_pos hm] at hrange
      exact absurd ⟨rfl, rfl⟩ hrange
    · rw [if_neg hm] at hrange hpos ⊢
      -- zero is zero under either sign
      have hne : m ≠ 0 := by
        rintro rfl
        cases minus <;> simp at hpos
      have hvalue : (if minus then (2 ^ h.longBits - m) % 2 ^ h.longBits else m) =
          storedValue h minus m := strtoul_value_eq (Nat.one_le_iff_ne_zero.2 hne)
      exact ⟨minus, m, hs, by omega, by omega, hvalue, hrange⟩
  · rintro ⟨minus, m, hs, hpos, hmax, rfl, hrange⟩
    have hstored : storedValue h minus m ≠ 0 := by
      cases minus with
      | false => exact Nat.one_le_iff_ne_zero.1 hpos
      | true =>
        simp only [storedValue, if_true]
        omega
    rw [strtoul_numeral hs, if_neg (Nat.not_lt.2 hmax), strtoul_value_eq hpos]
    exact ⟨rfl, hrange, hs.ne_nil, List.drop_length, hstored⟩

/-- The two ways out of the contract: a `-` numeral that is negated into range, and a numeral of
value `ULONG_MAX` read with a stale `ERANGE`.  The first way is closed for `-1` by the second. -/
def Misread (h : Host) (errno : Nat) (s : Bytes) : Prop :=
  (∃ m, Numeral true s m ∧ 1 ≤ m ∧ m ≤ h.ulongMax ∧ ¬ (errno = ERANGE ∧ m = 1)) ∨
    (errno = ERANGE ∧ Numeral false s h.ulongMax)

/-- A text with a minus sign is not read as intended as soon as it is accepted. -/
lemma ulongReturns_minus {m : Nat} (hs : Numeral true s m) (hpos : 1 ≤ m) (hmax : m ≤ h.ulongMax) :
    UlongReturns h errno s (storedValue h true m) ↔ ¬ (errno = ERANGE ∧ m = 1) := by
  have hlast : storedValue h true m = h.ulongMax ↔ m = 1 := by
    simp only [storedValue, if_true]
    omega
  rw [ulongReturns_iff]
  constructor
  · rintro ⟨minus, m', -, -, -, -, hrange⟩
    rwa [hlast] at hrange
  · intro hrange
    refine ⟨true, m, hs, hpos, hmax, rfl, ?_⟩
    rwa [hlast]

/-- `parse_ulong` accepts exactly the positive numerals in range, each with its value, if and only
if the text is not misread. -/
theorem parseUlong_exact_iff (h : Host) (errno : Nat) (s : Bytes) :
    (∀ v, UlongReturns h errno s v ↔ PositiveNumeral h s v) ↔ ¬ Misread h errno s := by
  constructor
  · rintro hexact (⟨m, hs, hpos, hmax, hrange⟩ | ⟨hstale, hs⟩)
    · -- accepted with a minus sign, although no text has both signs
      have hret := (ulongReturns_minus hs hpos hmax).2 hrange
      have hplus := ((hexact _).1 hret).1
      cases (hs.unique hplus).1
    · -- rejected although it denotes `ULONG_MAX`
      have hret : UlongReturns h errno s h.ulongMax :=
        (hexact _).2 ⟨hs, Nat.le_of_lt (ulongMax_pos h), Nat.le_refl _⟩
      rcases ulongReturns_iff.1 hret with ⟨minus, m, -, -, -, -, hrange⟩
      exact hrange ⟨hstale, rfl⟩
  · intro hread v
    rw [ulongReturns_iff]
    constructor
    · rintro ⟨minus, m, hs, hpos, hmax, rfl, hrange⟩
      cases minus with
      | false => exact ⟨hs, hpos, hmax⟩
      | true =>
        have hret : UlongReturns h errno s (storedValue h true m) :=
          ulongReturns_iff.2 ⟨true, m, hs, hpos, hmax, rfl, hrange⟩
        exact absurd (Or.inl ⟨m, hs, hpos, hmax, (ulongReturns_minus hs hpos hmax).1 hret⟩) hread
    · rintro ⟨hs, hpos, hmax⟩
      refine ⟨false, v, hs, hpos, hmax, rfl, ?_⟩
      rintro ⟨hstale, rfl⟩
      exact hread (Or.inr ⟨hstale, hs⟩)

/-- `-5` is accepted as a number near `2 ^ 64`; the largest number is rejected when an earlier call
left `ERANGE`, and accepted otherwise. -/
theorem parseUlong_misreads :
    UlongReturns Host.lp64 0 (str "-5") 18446744073709551611 ∧
      ¬ PositiveNumeral Host.lp64 (str "-5") 18446744073709551611 ∧
      PositiveNumeral Host.lp64 (str "18446744073709551615") 18446744073709551615 ∧
      UlongReturns Host.lp64 0 (str "18446744073709551615") 18446744073709551615 ∧
      ¬ UlongReturns Host.lp64 ERANGE (str "18446744073709551615") 18446744073709551615 := by
  decide

end Banip
