import Mathlib.Logic.Function.Basic

/-!
# Registry — objects that are found by a key

A kernel's table of named objects: a key leads to the number of an object, and the object bears that
key.  Numbers are never used twice.  An object may outlive its key, which is how a descriptor keeps
an object whose name was removed.
-/

namespace Banip
namespace Lib

universe u v

/-- Objects of type `V`, each with the key `key v`, and the keys under which they are found. -/
structure Registry (K : Type u) (V : Type v) (key : V → K) where
  names : K → Option Nat
  objects : Nat → Option V
  next : Nat
  named : ∀ k i, names k = some i → ∃ v, objects i = some v ∧ key v = k
  fresh : ∀ i, next ≤ i → objects i = none

namespace Registry

variable {K : Type u} {V : Type v} {key : V → K}

def empty : Registry K V key where
  names := fun _ => none
  objects := fun _ => none
  next := 0
  named := by simp
  fresh := by simp

/-- An object in the table is older than the next number. -/
lemma ne_next {r : Registry K V key} {i : Nat} {v : V} (h : r.objects i = some v) : i ≠ r.next := by
  rintro rfl
  simp [r.fresh r.next (Nat.le_refl _)] at h

lemma lt_next {r : Registry K V key} {i : Nat} {v : V} (h : r.objects i = some v) : i < r.next := by
  by_contra hle
  rw [r.fresh i (Nat.le_of_not_lt hle)] at h
  cases h

/-- Replace the object `i` by one with the same key. -/
def modify (r : Registry K V key) (i : Nat) (f : V → V) (hf : ∀ v, key (f v) = key v) :
    Registry K V key where
  names := r.names
  objects := Function.update r.objects i ((r.objects i).map f)
  next := r.next
  named := by
    intro k j hk
    rcases r.named k j hk with ⟨v, hv, hkey⟩
    by_cases hij : j = i
    · subst hij
      exact ⟨f v, by simp [hv], by rw [hf, hkey]⟩
    · exact ⟨v, by simpa [Function.update_of_ne hij] using hv, hkey⟩
  fresh := by
    intro j hj
    by_cases hij : j = i
    · subst hij
      simp [r.fresh j hj]
    · simpa [Function.update_of_ne hij] using r.fresh j hj

variable [DecidableEq K]

/-- Add an object under its key. -/
def create (r : Registry K V key) (v : V) : Registry K V key where
  names := Function.update r.names (key v) (some r.next)
  objects := Function.update r.objects r.next (some v)
  next := r.next + 1
  named := by
    intro k i hk
    by_cases hkv : k = key v
    · subst hkv
      have hi : r.next = i := by simpa using hk
      subst hi
      exact ⟨v, by simp, rfl⟩
    · have hold : r.names k = some i := by simpa [Function.update_of_ne hkv] using hk
      rcases r.named k i hold with ⟨v', hv', hkey⟩
      exact ⟨v', by simpa [Function.update_of_ne (ne_next hv')] using hv', hkey⟩
  fresh := by
    intro i hi
    have hne : i ≠ r.next := by omega
    simpa [Function.update_of_ne hne] using r.fresh i (by omega)

/-- Remove a key; the object stays. -/
def unname (r : Registry K V key) (k : K) : Registry K V key where
  names := Function.update r.names k none
  objects := r.objects
  next := r.next
  named := by
    intro k' i hk'
    by_cases hkk : k' = k
    · simp [hkk] at hk'
    · exact r.named k' i (by simpa [Function.update_of_ne hkk] using hk')
  fresh := r.fresh

omit [DecidableEq K] in
/-- Remove the object `i` and the keys that lead to it. -/
def remove (r : Registry K V key) (i : Nat) : Registry K V key where
  names := fun k => if r.names k = some i then none else r.names k
  objects := Function.update r.objects i none
  next := r.next
  named := by
    intro k j hk
    by_cases hi : r.names k = some i
    · simp [hi] at hk
    · have hj : r.names k = some j := by simpa [hi] using hk
      rcases r.named k j hj with ⟨v, hv, hkey⟩
      have hne : j ≠ i := by
        rintro rfl
        exact hi hj
      exact ⟨v, by simpa [Function.update_of_ne hne] using hv, hkey⟩
  fresh := by
    intro j hj
    by_cases hij : j = i
    · simp [hij]
    · simpa [Function.update_of_ne hij] using r.fresh j hj

/-! ## Lookups after an update -/

omit [DecidableEq K] in
/-- An update of the object `i` leaves the others as they are. -/
lemma modify_objects {r : Registry K V key} {i j : Nat} {f : V → V}
    {hf : ∀ v, key (f v) = key v} {v : V} (hv : r.objects j = some v) :
    (r.modify i f hf).objects j = some (if j = i then f v else v) := by
  by_cases hji : j = i
  · subst hji
    simp [modify, hv]
  · simp [modify, hv, hji]

@[simp] lemma create_names_self (r : Registry K V key) (v : V) :
    (r.create v).names (key v) = some r.next := by
  simp [create]

@[simp] lemma create_objects_self (r : Registry K V key) (v : V) :
    (r.create v).objects r.next = some v := by
  simp [create]

lemma create_names_of_ne {r : Registry K V key} {v : V} {k : K} (hne : k ≠ key v) :
    (r.create v).names k = r.names k := by
  simp [create, Function.update_of_ne hne]

/-- The objects after an addition are the new one and the old ones. -/
lemma create_objects_eq_some {r : Registry K V key} {v w : V} {i : Nat} :
    (r.create v).objects i = some w ↔ i = r.next ∧ w = v ∨ r.objects i = some w := by
  by_cases hi : i = r.next
  · subst hi
    simp [create, r.fresh r.next (Nat.le_refl _), eq_comm]
  · simp [create, hi]

/-- A new object that is removed again leaves the table as it was. -/
lemma remove_create {r : Registry K V key} {v : V} (hfree : r.names (key v) = none) :
    ((r.create v).remove r.next).names = r.names ∧
      ((r.create v).remove r.next).objects = r.objects := by
  constructor
  · funext k
    by_cases hk : k = key v
    · subst hk
      simp [remove, hfree]
    · -- a number that is in use is not the next one
      have hold : r.names k ≠ some r.next := by
        intro hname
        rcases r.named k r.next hname with ⟨w, hw, -⟩
        exact ne_next hw rfl
      simp [remove, create_names_of_ne hk, hold]
  · funext i
    by_cases hi : i = r.next
    · subst hi
      simp [remove, r.fresh r.next (Nat.le_refl _)]
    · simp [remove, create, hi]

lemma unname_names_of_ne {r : Registry K V key} {k k' : K} (hne : k ≠ k') :
    (r.unname k').names k = r.names k := by
  simp [unname, Function.update_of_ne hne]

/-- The object a key leads to. -/
def lookup (r : Registry K V key) (k : K) : Option V := (r.names k).bind r.objects

omit [DecidableEq K] in
lemma lookup_eq_some {r : Registry K V key} {k : K} {v : V} :
    r.lookup k = some v ↔ ∃ i, r.names k = some i ∧ r.objects i = some v := by
  simp [lookup, Option.bind_eq_some_iff]

@[simp] lemma lookup_create_self (r : Registry K V key) (v : V) :
    (r.create v).lookup (key v) = some v :=
  lookup_eq_some.2 ⟨r.next, create_names_self r v, create_objects_eq_some.2 (Or.inl ⟨rfl, rfl⟩)⟩

/-- A new object leaves the other keys alone. -/
lemma lookup_create_of_ne {r : Registry K V key} {v v' : V} {k : K} (hne : k ≠ key v)
    (h : r.lookup k = some v') : (r.create v).lookup k = some v' := by
  rcases lookup_eq_some.1 h with ⟨i, hi, hv'⟩
  refine lookup_eq_some.2 ⟨i, ?_, create_objects_eq_some.2 (Or.inr hv')⟩
  simpa [create_names_of_ne hne] using hi

lemma lookup_unname_of_ne {r : Registry K V key} {k k' : K} (hne : k ≠ k') :
    (r.unname k').lookup k = r.lookup k := by
  simp [lookup, unname, Function.update_of_ne hne]

end Registry

end Lib
end Banip
