import Banip.Lib.CString
import Mathlib.Logic.Function.Basic

/-!
# Heap — allocated blocks, by address

A heap maps the address of each live block to what the block holds.  `free` of an address that is
not the address of a live block is a fault, and so is an access to a block that is not live; a run
without a fault has therefore neither freed a block twice nor used one after it was freed.
-/

namespace Banip
namespace Lib

universe u

/-- The lowest address an allocation may return. -/
def heapStart : Nat := 16

/-- The live blocks.  Nothing is live below `heapStart`, nor from `brk` on, where the next allocation
goes. -/
structure Heap (B : Type u) where
  cells : Nat → Option B
  brk : Nat
  start_le : heapStart ≤ brk
  unmapped : ∀ a, a < heapStart → cells a = none
  unused : ∀ a, brk ≤ a → cells a = none

namespace Heap

variable {B : Type u}

def empty : Heap B := ⟨fun _ => none, heapStart, Nat.le_refl _, fun _ _ => rfl, fun _ _ => rfl⟩

lemma lt_brk {h : Heap B} {a : Nat} {b : B} (ha : h.cells a = some b) : a < h.brk := by
  by_contra hlt
  rw [h.unused a (Nat.le_of_not_lt hlt)] at ha
  cases ha

/-- Change the cell of `a` by a function that makes no block live. -/
def modify (h : Heap B) (a : Nat) (f : Option B → Option B) (hf : f none = none) : Heap B where
  cells := Function.update h.cells a (f (h.cells a))
  brk := h.brk
  start_le := h.start_le
  unmapped := by
    intro a' ha'
    by_cases heq : a' = a
    · subst heq
      simp [h.unmapped a' ha', hf]
    · rw [Function.update_of_ne heq, h.unmapped a' ha']
  unused := by
    intro a' ha'
    by_cases heq : a' = a
    · subst heq
      simp [h.unused a' ha', hf]
    · rw [Function.update_of_ne heq, h.unused a' ha']

/-- Replace what the live block at `a` holds; if there is none, nothing happens. -/
def put (h : Heap B) (a : Nat) (b : B) : Heap B := h.modify a (Option.map fun _ => b) rfl

/-- The heap without the block at `a`. -/
def drop (h : Heap B) (a : Nat) : Heap B := h.modify a (fun _ => none) rfl

/-- `malloc`, with what is then written to the block. -/
def alloc (h : Heap B) (b : B) : Nat × Heap B :=
  (h.brk,
    { cells := Function.update h.cells h.brk (some b)
      brk := h.brk + 1
      start_le := Nat.le_succ_of_le h.start_le
      unmapped := by
        intro a ha
        rw [Function.update_of_ne (Nat.ne_of_lt (Nat.lt_of_lt_of_le ha h.start_le)),
          h.unmapped a ha]
      unused := by
        intro a ha
        rw [Function.update_of_ne (Nat.ne_of_gt ha), h.unused a (Nat.le_of_succ_le ha)] })

/-- Read a block. -/
def load (h : Heap B) (a : Nat) : Except Fault B :=
  match h.cells a with
  | none => .error .outOfBounds
  | some b => .ok b

/-- Write to a block. -/
def store (h : Heap B) (a : Nat) (b : B) : Except Fault (Heap B) :=
  match h.cells a with
  | none => .error .outOfBounds
  | some _ => .ok (h.put a b)

/-- `free` of an address that is not null. -/
def free (h : Heap B) (a : Nat) : Except Fault (Heap B) :=
  match h.cells a with
  | none => .error .invalidFree
  | some _ => .ok (h.drop a)

/-! ## What a call can do -/

variable {h h' : Heap B} {a a' : Nat} {b b' : B}

lemma load_of_live (ha : h.cells a = some b) : h.load a = .ok b := by simp [load, ha]

lemma store_of_live (ha : h.cells a = some b) : h.store a b' = .ok (h.put a b') := by
  simp [store, ha]

lemma free_of_live (ha : h.cells a = some b) : h.free a = .ok (h.drop a) := by simp [free, ha]

lemma load_ok (hload : h.load a = .ok b) : h.cells a = some b := by
  unfold load at hload
  cases hcell : h.cells a with
  | none => simp [hcell] at hload
  | some b' =>
    simp only [hcell, Except.ok.injEq] at hload
    rw [hload]

lemma store_ok (hstore : h.store a b = .ok h') : h' = h.put a b := by
  unfold store at hstore
  cases hcell : h.cells a with
  | none => simp [hcell] at hstore
  | some b' =>
    simp only [hcell, Except.ok.injEq] at hstore
    exact hstore.symm

lemma free_ok (hfree : h.free a = .ok h') : (∃ b, h.cells a = some b) ∧ h' = h.drop a := by
  unfold free at hfree
  cases hcell : h.cells a with
  | none => simp [hcell] at hfree
  | some b =>
    simp only [hcell, Except.ok.injEq] at hfree
    exact ⟨⟨b, rfl⟩, hfree.symm⟩

/-! ## Lookups after an update -/

@[simp] lemma cells_drop_self (h : Heap B) (a : Nat) : (h.drop a).cells a = none := by
  simp [drop, modify]

lemma cells_drop_of_ne (hne : a' ≠ a) : (h.drop a).cells a' = h.cells a' := by
  simp [drop, modify, Function.update_of_ne hne]

lemma cells_put_self (ha : h.cells a = some b) : (h.put a b').cells a = some b' := by
  simp [put, modify, ha]

lemma cells_put_of_ne (hne : a' ≠ a) : (h.put a b).cells a' = h.cells a' := by
  simp [put, modify, Function.update_of_ne hne]

lemma cells_alloc_self (h : Heap B) (b : B) : (h.alloc b).2.cells (h.alloc b).1 = some b := by
  simp [alloc]

lemma cells_alloc_of_ne (hne : a ≠ (h.alloc b).1) : (h.alloc b).2.cells a = h.cells a :=
  Function.update_of_ne hne _ _

/-- An allocation leaves the live blocks alone. -/
lemma cells_alloc_of_live (ha : h.cells a = some b') : (h.alloc b).2.cells a = some b' :=
  (cells_alloc_of_ne (Nat.ne_of_lt (lt_brk ha))).trans ha

end Heap

end Lib
end Banip
