import Mathlib.Algebra.Ring.Int.Defs
import Mathlib.Algebra.Ring.Nat
import Mathlib.Data.List.TakeWhile

/-!
# CString — C strings and C memory over lists of bytes

A C string is the list of its bytes before the terminating NUL, and a block of memory is the list
of its bytes.  Library calls that can leave the block they were given return `Except Fault`, so an
access outside a block is an outcome of the model and not a convention of its reader.

The numeric conversion `strtoul` follows the C standard: white space, an optional sign, decimal
digits, negation modulo `2 ^ w`, and `ULONG_MAX` with `ERANGE` when the digits do not fit.
-/

namespace Banip
namespace Lib

/-- One `unsigned char`. -/
abbrev Byte : Type := BitVec 8

abbrev Bytes : Type := List Byte

/-- What undefined behaviour the model distinguishes. -/
inductive Fault where
  /-- `free` of an address that no allocation returned. -/
  | invalidFree
  /-- A load or a store outside the block it addresses. -/
  | outOfBounds
  /-- A load or a store through a null pointer. -/
  | nullDeref
deriving DecidableEq, Repr

section

universe u v

variable {ε : Type u} {α β : Type v}

lemma ok_bind (a : α) (f : α → Except ε β) : (Except.ok a >>= f) = f a := rfl

/-- A computation that succeeds succeeds in its first part. -/
lemma bind_eq_ok {x : Except ε α} {f : α → Except ε β} {b : β} :
    (x >>= f) = .ok b ↔ ∃ a, x = .ok a ∧ f a = .ok b := by
  cases x with
  | error e => simp [bind, Except.bind]
  | ok a => simp [ok_bind]

/-- A computation that faults faults in its first part, or after it. -/
lemma bind_eq_error {x : Except ε α} {f : α → Except ε β} {e : ε} :
    (x >>= f) = .error e ↔ x = .error e ∨ ∃ a, x = .ok a ∧ f a = .error e := by
  cases x with
  | error e' => simp [bind, Except.bind]
  | ok a => simp [ok_bind]

lemma map_eq_ok {x : Except ε α} {f : α → β} {b : β} :
    x.map f = .ok b ↔ ∃ a, x = .ok a ∧ f a = b := by
  cases x with
  | error e => simp [Except.map]
  | ok a => simp [Except.map]

lemma pure_eq_ok (a : α) : (pure a : Except ε α) = .ok a := rfl

end

/-- The parts of a platform's C ABI that the code depends on. -/
structure Host where
  bigEndian : Bool
  /-- Width of `unsigned long`. -/
  longBits : Nat
  /-- `sizeof (char *)`. -/
  ptrBytes : Nat
  longBits_ok : longBits = 32 ∨ longBits = 64
  ptrBytes_ok : ptrBytes = 4 ∨ ptrBytes = 8

namespace Host

def ulongMax (h : Host) : Nat := 2 ^ h.longBits - 1

/-- A 64-bit little-endian host (x86-64). -/
def lp64 : Host :=
  { bigEndian := false, longBits := 64, ptrBytes := 8
    longBits_ok := Or.inr rfl, ptrBytes_ok := Or.inr rfl }

end Host

/-- `sizeof (long)`. -/
def Host.longBytes (h : Host) : Nat := h.longBits / 8

/-! ## Integer conversions -/

/-- Conversion to a 32-bit `int`. -/
def toInt (i : Int) : Int := (BitVec.ofInt 32 i).toInt

/-- Conversion to `size_t`. -/
def Host.toSize (h : Host) (i : Int) : Nat := (i % 2 ^ (8 * h.ptrBytes)).toNat

lemma toInt_of_lt {n : Nat} (hn : n < 2 ^ 31) : toInt n = n := by
  rw [toInt, BitVec.toInt_ofInt, Int.bmod_eq_of_le (by omega) (by omega)]

lemma Host.toSize_of_lt (h : Host) {n : Nat} (hn : n < 2 ^ 31) : h.toSize n = n := by
  have hlt : (n : Int) < 2 ^ (8 * h.ptrBytes) := by
    rcases h.ptrBytes_ok with hp | hp
    · rw [hp]
      omega
    · rw [hp]
      omega
  simp [toSize, Int.emod_eq_of_lt (Int.natCast_nonneg n) hlt]

/-! ## Literals and searches -/

/-- An ASCII character literal. -/
def chr (c : Char) : Byte := BitVec.ofNat 8 c.toNat

/-- An ASCII string literal, without its NUL. -/
def str (s : String) : Bytes := s.toList.map chr

/-- `strchr`, as the offset of the first occurrence. -/
def strchr (s : Bytes) (c : Byte) : Option Nat := s.findIdx? (· = c)

/-- `strcmp`: the difference of the first bytes that differ, a NUL at the end of each string. -/
def strcmp : Bytes → Bytes → Int
  | [], [] => 0
  | [], b :: _ => -(b.toNat : Int)
  | a :: _, [] => a.toNat
  | a :: s, b :: t => if a = b then strcmp s t else (a.toNat : Int) - b.toNat

/-- The decimal text `printf` gives for a natural number. -/
def decimal (n : Nat) : Bytes := str (Nat.repr n)

/-- A C string: bytes among which there is no NUL. -/
abbrev CText : Type := {s : Bytes // (0 : Byte) ∉ s}

/-- The decimal text of a signed number. -/
def decimalInt (i : Int) : Bytes := if i < 0 then chr '-' :: decimal i.natAbs else decimal i.natAbs

/-! ## Blocks of memory -/

/-- An uninitialised block of `n` bytes, with whatever it holds. -/
def block (garbage : Nat → Byte) (n : Nat) : Bytes := (List.range n).map garbage

@[simp] lemma block_length (garbage : Nat → Byte) (n : Nat) : (block garbage n).length = n := by
  simp [block]

lemma block_drop {garbage : Nat → Byte} {n i : Nat} (hi : i < n) :
    (block garbage n).drop i = garbage i :: (block garbage n).drop (i + 1) := by
  have hlen : i < (block garbage n).length := by simpa using hi
  rw [List.drop_eq_getElem_cons hlen]
  simp [block]

/-- The string a NUL-terminated reader finds at the start of the block `m`. -/
def cstr (m : Bytes) : Bytes := m.takeWhile (· ≠ 0)

/-- Copy `src` over the first bytes of the block `dst`. -/
def memcpy (dst src : Bytes) : Except Fault Bytes :=
  if src.length ≤ dst.length then .ok (src ++ dst.drop src.length) else .error .outOfBounds

/-- `m[i] = b` for a C array `m`. -/
def setByte (m : Bytes) (i : Int) (b : Byte) : Except Fault Bytes :=
  if 0 ≤ i ∧ i.toNat < m.length then .ok (m.set i.toNat b) else .error .outOfBounds

/-- Read the string that starts the block `m`; a block without a NUL is read past its end. -/
def strread (m : Bytes) : Except Fault Bytes :=
  if (0 : Byte) ∈ m then .ok (cstr m) else .error .outOfBounds

/-- `strcpy` of the string `s` (and its NUL) to the start of the block `dst`. -/
def strcpy (dst s : Bytes) : Except Fault Bytes := memcpy dst (s ++ [0])

/-- `strlcpy`: the copied text and the returned length of the source. -/
def strlcpy (src : Bytes) (siz : Nat) : Bytes × Nat := (src.take (siz - 1), src.length)

lemma memcpy_fault {dst src : Bytes} {f : Fault} (h : memcpy dst src = .error f) :
    f = .outOfBounds := by
  unfold memcpy at h
  split at h <;> cases h
  rfl

lemma setByte_fault {m : Bytes} {i : Int} {b : Byte} {f : Fault} (h : setByte m i b = .error f) :
    f = .outOfBounds := by
  unfold setByte at h
  split at h <;> cases h
  rfl

lemma strread_fault {m : Bytes} {f : Fault} (h : strread m = .error f) : f = .outOfBounds := by
  unfold strread at h
  split at h <;> cases h
  rfl

/-- A store at the end of the first part of a block. -/
lemma setByte_append (m tail : Bytes) (b c : Byte) :
    setByte (m ++ c :: tail) m.length b = .ok (m ++ b :: tail) := by
  simp [setByte]

lemma strread_of_mem {m : Bytes} (h : (0 : Byte) ∈ m) : strread m = .ok (cstr m) := if_pos h

lemma strread_of_not_mem {m : Bytes} (h : (0 : Byte) ∉ m) : strread m = .error .outOfBounds :=
  if_neg h

/-- `strcpy` into a block with room for the NUL. -/
lemma strcpy_of_le {dst s : Bytes} (h : s.length + 1 ≤ dst.length) :
    strcpy dst s = .ok (s ++ 0 :: dst.drop (s.length + 1)) := by
  simp [strcpy, memcpy, h]

lemma strcpy_of_lt {dst s : Bytes} (h : dst.length < s.length + 1) :
    strcpy dst s = .error .outOfBounds := by
  have hnot : ¬ (s ++ [0]).length ≤ dst.length := by
    rw [List.length_append, List.length_singleton]
    exact Nat.not_le.2 h
  exact if_neg hnot

lemma cstr_cons (b : Byte) (m : Bytes) : cstr (b :: m) = if b = 0 then [] else b :: cstr m := by
  by_cases hb : b = 0
  · simp [cstr, hb]
  · simp [cstr, List.takeWhile_cons]

/-- The string of a block goes on behind bytes without a NUL. -/
lemma cstr_append_of_not_mem {s m : Bytes} (hs : (0 : Byte) ∉ s) : cstr (s ++ m) = s ++ cstr m := by
  induction s with
  | nil => rfl
  | cons b s ih =>
    have hb : b ≠ 0 := fun h => hs (by simp [h])
    have hs' : (0 : Byte) ∉ s := fun h => hs (List.mem_cons_of_mem _ h)
    simp only [List.cons_append, cstr_cons, if_neg hb, ih hs']

/-- A string that is copied in front of anything is read back. -/
lemma cstr_append_nul {s rest : Bytes} (hs : (0 : Byte) ∉ s) : cstr (s ++ 0 :: rest) = s := by
  rw [cstr_append_of_not_mem hs, cstr_cons, if_pos rfl, List.append_nil]

/-- The string of a block depends on the part before its first NUL only. -/
lemma cstr_append_of_mem {m rest : Bytes} (hm : (0 : Byte) ∈ m) : cstr (m ++ rest) = cstr m := by
  induction m with
  | nil => cases hm
  | cons b m ih =>
    by_cases hb : b = 0
    · simp [cstr_cons, hb]
    · have hm' : (0 : Byte) ∈ m := by
        rcases List.mem_cons.1 hm with h | h
        · exact absurd h.symm hb
        · exact h
      simp only [List.cons_append, cstr_cons, if_neg hb, ih hm']

/-- The string of a block with a NUL is shorter than the block. -/
lemma cstr_length_lt {m : Bytes} (hm : (0 : Byte) ∈ m) : (cstr m).length < m.length := by
  have hle : (cstr m).length ≤ m.length := (List.takeWhile_sublist _).length_le
  refine Nat.lt_of_le_of_ne hle ?_
  intro heq
  have hall : cstr m = m := (List.takeWhile_sublist _).eq_of_length heq
  have : (0 : Byte) ∈ cstr m := by rw [hall]; exact hm
  have := List.mem_takeWhile_imp this
  simp at this

/-- A NUL among the first `n` bytes ends a string shorter than `n`. -/
lemma mem_take_iff_cstr_length_lt {m : Bytes} {n : Nat} :
    (0 : Byte) ∈ m.take n ↔ (0 : Byte) ∈ m ∧ (cstr m).length < n := by
  induction m generalizing n with
  | nil => simp
  | cons b m ih =>
    cases n with
    | zero => simp
    | succ n =>
      by_cases hb : b = 0
      · simp [cstr_cons, hb]
      · have hb' : (0 : Byte) ≠ b := fun h => hb h.symm
        simp only [List.take_succ_cons, List.mem_cons, hb', false_or, cstr_cons, if_neg hb, ih,
          List.length_cons, Nat.add_lt_add_iff_right]

lemma cstr_nul_free (m : Bytes) : (0 : Byte) ∉ cstr m := by
  intro h
  have := List.mem_takeWhile_imp h
  simp at this

/-- `strcmp` finds no difference exactly when the other string ends where the first one does. -/
lemma strcmp_eq_zero_iff {s t : Bytes} (hs : (0 : Byte) ∉ s) : strcmp s t = 0 ↔ cstr t = s := by
  induction s generalizing t with
  | nil =>
    cases t with
    | nil => simp [strcmp, cstr]
    | cons b t =>
      by_cases hb : b = 0
      · simp [strcmp, cstr_cons, hb]
      · have hnat : b.toNat ≠ 0 := fun h => hb (BitVec.eq_of_toNat_eq (by simpa using h))
        rw [strcmp, cstr_cons, if_neg hb]
        exact iff_of_false (by omega) (by simp)
  | cons a s ih =>
    have ha : a ≠ 0 := fun h => hs (by simp [h])
    have hs' : (0 : Byte) ∉ s := fun h => hs (List.mem_cons_of_mem _ h)
    cases t with
    | nil =>
      have hnat : a.toNat ≠ 0 := fun h => ha (BitVec.eq_of_toNat_eq (by simpa using h))
      simp [strcmp, cstr, hnat]
    | cons b t =>
      by_cases hab : a = b
      · subst hab
        rw [strcmp, if_pos rfl, ih hs', cstr_cons, if_neg ha, List.cons.injEq]
        simp
      · have hnat : (a.toNat : Int) - b.toNat ≠ 0 := by
          intro h
          exact hab (BitVec.eq_of_toNat_eq (by omega))
        rw [strcmp, if_neg hab, cstr_cons]
        refine iff_of_false hnat ?_
        split
        · simp
        · rw [List.cons.injEq]
          exact fun h => hab h.1.symm

/-! ## Numerals -/

/-- The value of a decimal digit. -/
def digit? (c : Byte) : Option Nat :=
  if 48 ≤ c.toNat ∧ c.toNat ≤ 57 then some (c.toNat - 48) else none

def isDigit (c : Byte) : Bool := (digit? c).isSome

/-- `isspace` in the C locale. -/
def isSpace (c : Byte) : Bool := c.toNat = 32 ∨ 9 ≤ c.toNat ∧ c.toNat ≤ 13

/-- The number a text of decimal digits denotes. -/
def digitsValue (s : Bytes) : Nat := s.foldl (fun v c => 10 * v + (digit? c).getD 0) 0

/-- `ERANGE`. -/
def ERANGE : Nat := 34

/-- What `strtoul` returns: the value, the offset of `*endptr` and `errno`. -/
structure Strtoul where
  value : Nat
  endptr : Nat
  errno : Nat
deriving DecidableEq, Repr

/-- The sign of the subject sequence: whether it is a minus, and how many bytes it takes. -/
def sign (s : Bytes) : Bool × Nat :=
  match s with
  | [] => (false, 0)
  | c :: _ => if c = chr '-' then (true, 1) else if c = chr '+' then (false, 1) else (false, 0)

/-- `strtoul(s, &endptr, 10)` entered with `errno`. -/
def strtoul (h : Host) (errno : Nat) (s : Bytes) : Strtoul :=
  let blanks := (s.takeWhile isSpace).length
  let sgn := sign (s.drop blanks)
  let digits := (s.drop (blanks + sgn.2)).takeWhile isDigit
  let v := digitsValue digits
  if digits = [] then
    -- no conversion: `endptr` is the start of the string
    ⟨0, 0, errno⟩
  else if h.ulongMax < v then
    ⟨h.ulongMax, blanks + sgn.2 + digits.length, ERANGE⟩
  else if sgn.1 then
    ⟨(2 ^ h.longBits - v) % 2 ^ h.longBits, blanks + sgn.2 + digits.length, errno⟩
  else
    ⟨v, blanks + sgn.2 + digits.length, errno⟩

example : strtoul Host.lp64 0 (str " +24") = ⟨24, 4, 0⟩ := by decide

example : strtoul Host.lp64 0 (str "8x") = ⟨8, 1, 0⟩ := by decide

end Lib
end Banip
