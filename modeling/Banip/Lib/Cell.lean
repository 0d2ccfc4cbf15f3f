import Banip.Lib.Runs
import Mathlib.Data.List.Chain

/-!
# Cell — a place for one value

A cell is empty or holds a value.  `put` fills an empty cell and faults on a full one; `take` empties
the cell and hands out what it finds, which may be nothing.

A sequence of uses of an empty cell survives if and only if no two of its puts are adjacent, and then
each `take` finds the value of the use just before it, if that is a put.
-/

namespace Banip
namespace Lib

universe u w

/-- A use of a cell. -/
inductive Use (α : Type u) where
  | put (a : α)
  | take
deriving DecidableEq, Repr

namespace Cell

variable {α : Type u} {F : Type w} (full : F)

/-- One use of a cell, with the list of what was taken so far. -/
def step (s : Option α × List (Option α)) : Use α → Except F (Option α × List (Option α))
  | .put a =>
    match s.1 with
    | none => .ok (some a, s.2)
    | some _ => .error full
  | .take => .ok (none, s.2 ++ [s.1])

/-- The two uses may follow one another. -/
def Apart : Use α → Use α → Prop
  | .put _, .put _ => False
  | _, _ => True

@[simp] lemma apart_take_left (u : Use α) : Apart .take u := by
  cases u <;> trivial

variable {full} in
/-- A cell has one fault. -/
lemma exec_fault {s : Option α × List (Option α)} {uses : List (Use α)} {f : F}
    (h : exec (step full) s uses = .error f) : f = full := by
  induction uses generalizing s with
  | nil => cases h
  | cons u uses ih =>
    rcases s with ⟨slot, out⟩
    cases u with
    | take => exact ih h
    | put a =>
      cases slot with
      | none => exact ih h
      | some b =>
        cases h
        rfl

end Cell
end Lib
end Banip
