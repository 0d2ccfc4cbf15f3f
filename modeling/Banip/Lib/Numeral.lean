import Banip.Lib.CString

/-!
# Numeral — the decimal numerals `strtoul` reads

A numeral is white space, an optional sign and at least one digit, with nothing behind the last
digit.  `Numeral` states this without a scanner; `numeral_iff` reads the parts off the text, so the
sign and the magnitude of a numeral are unique and the predicate is decidable.

`strtoul_numeral` says what `strtoul` returns on a numeral, and `numeral_of_strtoul` that a text
which `strtoul` consumes to its end is one.
-/

namespace Banip
namespace Lib

/-- The texts of a sign, and whether it is a minus. -/
inductive SignText : Bool → Bytes → Prop where
  | minus : SignText true [chr '-']
  | plus : SignText false [chr '+']
  | none : SignText false []

/-- `s` is a decimal numeral of magnitude `m`, with a minus sign or without. -/
def Numeral (minus : Bool) (s : Bytes) (m : Nat) : Prop :=
  ∃ blanks sgn digits, s = blanks ++ sgn ++ digits ∧ (∀ c ∈ blanks, isSpace c) ∧
    SignText minus sgn ∧ digits ≠ [] ∧ (∀ c ∈ digits, isDigit c) ∧ digitsValue digits = m

/-- What follows the white space and the sign. -/
def unsignedPart (s : Bytes) : Bytes :=
  (s.dropWhile isSpace).drop (sign (s.dropWhile isSpace)).2

/-! ## The parts of a text -/

lemma isSpace_of_isDigit {c : Byte} (hc : isDigit c) : isSpace c = false := by
  have hrange : 48 ≤ c.toNat := by
    by_contra hlt
    have hnone : digit? c = none := if_neg (fun h => hlt h.1)
    simp [isDigit, hnone] at hc
  simp only [isSpace, decide_eq_false_iff_not]
  omega

lemma not_isDigit_minus : isDigit (chr '-') = false := by decide

lemma not_isDigit_plus : isDigit (chr '+') = false := by decide

/-- A text of digits carries no sign. -/
lemma sign_of_digits {digits : Bytes} (hall : ∀ c ∈ digits, isDigit c) :
    sign digits = (false, 0) := by
  cases digits with
  | nil => rfl
  | cons c rest =>
    have hc : isDigit c = true := hall c List.mem_cons_self
    have hminus : c ≠ chr '-' := by
      rintro rfl
      rw [not_isDigit_minus] at hc
      cases hc
    have hplus : c ≠ chr '+' := by
      rintro rfl
      rw [not_isDigit_plus] at hc
      cases hc
    simp only [sign, if_neg hminus, if_neg hplus]

/-- In front of digits a sign text is read as that sign, whole. -/
lemma sign_append {minus : Bool} {sgn digits : Bytes} (hsgn : SignText minus sgn)
    (hall : ∀ c ∈ digits, isDigit c) : sign (sgn ++ digits) = (minus, sgn.length) := by
  cases hsgn with
  | minus => rfl
  | plus => rfl
  | none => exact sign_of_digits hall

/-- The bytes `sign` counts are a text of the sign it reports. -/
lemma signText_take (s : Bytes) : SignText (sign s).1 (s.take (sign s).2) := by
  cases s with
  | nil => exact SignText.none
  | cons c rest =>
    by_cases hminus : c = chr '-'
    · subst hminus
      exact SignText.minus
    · by_cases hplus : c = chr '+'
      · subst hplus
        exact SignText.plus
      · simp only [sign, if_neg hminus, if_neg hplus]
        exact SignText.none

/-- Neither a sign nor a digit is white space. -/
lemma not_isSpace_head {minus : Bool} {sgn digits : Bytes} (hsgn : SignText minus sgn)
    (hne : digits ≠ []) (hall : ∀ c ∈ digits, isDigit c) :
    (sgn ++ digits).dropWhile isSpace = sgn ++ digits := by
  have hdigits : digits.dropWhile isSpace = digits := by
    cases digits with
    | nil => exact absurd rfl hne
    | cons c rest =>
      have hc := isSpace_of_isDigit (hall c List.mem_cons_self)
      rw [List.dropWhile_cons_of_neg (by simp [hc])]
  cases hsgn with
  | minus => rfl
  | plus => rfl
  | none => exact hdigits

/-- The declarative notion of numeral against the parts a scanner cuts the text into. -/
lemma numeral_iff {minus : Bool} {s : Bytes} {m : Nat} :
    Numeral minus s m ↔ (sign (s.dropWhile isSpace)).1 = minus ∧ unsignedPart s ≠ [] ∧
      (∀ c ∈ unsignedPart s, isDigit c) ∧ digitsValue (unsignedPart s) = m := by
  constructor
  · rintro ⟨blanks, sgn, digits, rfl, hblanks, hsgn, hne, hall, hm⟩
    -- a scanner stops where the parts stop: a sign is no white space and a digit is neither
    have hdrop : (blanks ++ sgn ++ digits).dropWhile isSpace = sgn ++ digits := by
      rw [List.append_assoc, List.dropWhile_append_of_pos hblanks, not_isSpace_head hsgn hne hall]
    have hpart : unsignedPart (blanks ++ sgn ++ digits) = digits := by
      rw [unsignedPart, hdrop, sign_append hsgn hall, List.drop_left]
    rw [hpart, hdrop, sign_append hsgn hall]
    exact ⟨rfl, hne, hall, hm⟩
  · rintro ⟨rfl, hne, hall, hm⟩
    refine ⟨s.takeWhile isSpace, _, unsignedPart s, ?_, ?_, signText_take _, hne, hall, hm⟩
    · rw [unsignedPart, List.append_assoc, List.take_append_drop, List.takeWhile_append_dropWhile]
    · intro c hc
      exact List.mem_takeWhile_imp hc

instance (minus : Bool) (s : Bytes) (m : Nat) : Decidable (Numeral minus s m) :=
  decidable_of_iff
    ((sign (s.dropWhile isSpace)).1 = minus ∧ (unsignedPart s).isEmpty = false ∧
      (unsignedPart s).all isDigit = true ∧ digitsValue (unsignedPart s) = m)
    (by rw [numeral_iff, List.all_eq_true, List.isEmpty_eq_false_iff])

/-- A text is a numeral in one way only. -/
lemma Numeral.unique {minus minus' : Bool} {s : Bytes} {m m' : Nat} (h : Numeral minus s m)
    (h' : Numeral minus' s m') : minus = minus' ∧ m = m' := by
  rcases numeral_iff.1 h with ⟨hsgn, -, -, hm⟩
  rcases numeral_iff.1 h' with ⟨hsgn', -, -, hm'⟩
  exact ⟨hsgn.symm.trans hsgn', hm.symm.trans hm'⟩

/-! ## What `strtoul` does with them -/

lemma drop_takeWhile_length {α : Type} (p : α → Bool) (l : List α) :
    l.drop (l.takeWhile p).length = l.dropWhile p := by
  have hsplit := List.takeWhile_append_dropWhile (p := p) (l := l)
  calc l.drop (l.takeWhile p).length
      = (l.takeWhile p ++ l.dropWhile p).drop (l.takeWhile p).length := by rw [hsplit]
    _ = l.dropWhile p := List.drop_left

/-- The bytes before `unsignedPart`. -/
lemma drop_blanks_sign (s : Bytes) :
    s.drop ((s.takeWhile isSpace).length + (sign (s.dropWhile isSpace)).2) = unsignedPart s := by
  rw [← List.drop_drop, drop_takeWhile_length, unsignedPart]

/-- `strtoul` leaves `endptr` at the first byte behind the digits. -/
lemma drop_endptr {h : Host} {errno : Nat} {s : Bytes} (hne : (strtoul h errno s).endptr ≠ 0) :
    (unsignedPart s).takeWhile isDigit ≠ [] ∧
      s.drop (strtoul h errno s).endptr = (unsignedPart s).dropWhile isDigit := by
  have hend : ∀ n, s.drop ((s.takeWhile isSpace).length + (sign (s.dropWhile isSpace)).2 + n) =
      (unsignedPart s).drop n := by
    intro n
    rw [← List.drop_drop, drop_blanks_sign]
  unfold strtoul at hne ⊢
  simp only [drop_takeWhile_length, drop_blanks_sign] at hne ⊢
  by_cases hdigits : (unsignedPart s).takeWhile isDigit = []
  · simp [hdigits] at hne
  · refine ⟨hdigits, ?_⟩
    rw [if_neg hdigits]
    -- the three values that `strtoul` may return come with the same `endptr`
    split
    · rw [hend, drop_takeWhile_length]
    · split <;> rw [hend, drop_takeWhile_length]

/-- A text that `strtoul` converts and consumes to its end is a numeral. -/
lemma numeral_of_strtoul {h : Host} {errno : Nat} {s : Bytes}
    (hne : (strtoul h errno s).endptr ≠ 0) (hend : s.drop (strtoul h errno s).endptr = []) :
    ∃ minus m, Numeral minus s m := by
  rcases drop_endptr hne with ⟨hdigits, hdrop⟩
  rw [hend] at hdrop
  refine ⟨_, _, numeral_iff.2 ⟨rfl, ?_, List.dropWhile_eq_nil_iff.1 hdrop.symm, rfl⟩⟩
  intro hnil
  rw [hnil] at hdigits
  exact hdigits rfl

/-- What `strtoul` returns on a numeral. -/
lemma strtoul_numeral {minus : Bool} {s : Bytes} {m : Nat} (hs : Numeral minus s m) (h : Host)
    (errno : Nat) :
    strtoul h errno s =
      if h.ulongMax < m then ⟨h.ulongMax, s.length, ERANGE⟩
      else ⟨if minus then (2 ^ h.longBits - m) % 2 ^ h.longBits else m, s.length, errno⟩ := by
  rcases numeral_iff.1 hs with ⟨rfl, hne, hall, rfl⟩
  have hwhole : (unsignedPart s).takeWhile isDigit = unsignedPart s :=
    List.takeWhile_eq_self_iff.2 hall
  -- nothing follows the digits, so `endptr` is the end of the text
  have hlen : (s.takeWhile isSpace).length + (sign (s.dropWhile isSpace)).2 +
      (unsignedPart s).length = s.length := by
    have hfits : (s.takeWhile isSpace).length + (sign (s.dropWhile isSpace)).2 ≤ s.length := by
      by_contra hlong
      refine hne ?_
      rw [← drop_blanks_sign, List.drop_eq_nil_of_le (by omega)]
    rw [← drop_blanks_sign, List.length_drop]
    omega
  unfold strtoul
  simp only [drop_takeWhile_length, drop_blanks_sign, hwhole, if_neg hne, hlen]
  split
  · rfl
  · cases (sign (s.dropWhile isSpace)).1 <;> rfl

lemma Numeral.ne_nil {minus : Bool} {s : Bytes} {m : Nat} (hs : Numeral minus s m) :
    s.length ≠ 0 := by
  rcases hs with ⟨blanks, sgn, digits, rfl, -, -, hne, -⟩
  have hpos := List.length_pos_iff.2 hne
  simp only [List.length_append]
  omega

end Lib
end Banip
