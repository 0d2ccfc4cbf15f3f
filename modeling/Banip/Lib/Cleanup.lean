import Mathlib.Data.List.Nodup
import Mathlib.Data.List.Count

/-!
# Cleanup — releasing resources in order, with retries

A clean-up holds a list of resources.  It attempts to release the first one; a failed attempt leaves
the list as it is, a successful one drops the resource.  `Attempts todo log rest` says that the log is
a history of such attempts, over one call or over many, that starts from `todo` and ends at `rest`.
The rules below turn it into facts about the log: nothing is attempted after it was released, and
nothing is attempted before what stands in front of it.
-/

namespace Banip
namespace Lib

universe u

variable {R : Type u}

/-- The log takes the clean-up from `todo` to `rest`; an entry is a resource and the outcome. -/
inductive Attempts : List R → List (R × Bool) → List R → Prop
  | nil (todo : List R) : Attempts todo [] todo
  | failed {r : R} {todo rest : List R} {log : List (R × Bool)} :
      Attempts (r :: todo) log rest → Attempts (r :: todo) ((r, false) :: log) rest
  | released {r : R} {todo rest : List R} {log : List (R × Bool)} :
      Attempts todo log rest → Attempts (r :: todo) ((r, true) :: log) rest

namespace Attempts

variable {todo mid rest : List R} {log log' : List (R × Bool)} {r : R} {ok : Bool}

/-- A retry goes on where the call before it stopped. -/
lemma trans (h : Attempts todo log mid) (h' : Attempts mid log' rest) :
    Attempts todo (log ++ log') rest := by
  induction h with
  | nil => exact h'
  | failed _ ih => exact .failed (ih h')
  | released _ ih => exact .released (ih h')

/-- A history can be cut anywhere. -/
lemma split (h : Attempts todo (log ++ log') rest) :
    ∃ mid, Attempts todo log mid ∧ Attempts mid log' rest := by
  induction log generalizing todo with
  | nil => exact ⟨todo, .nil todo, h⟩
  | cons e log ih =>
    cases h with
    | failed h =>
      rcases ih h with ⟨mid, hlog, hrest⟩
      exact ⟨mid, .failed hlog, hrest⟩
    | released h =>
      rcases ih h with ⟨mid, hlog, hrest⟩
      exact ⟨mid, .released hlog, hrest⟩

/-- Only what is held is attempted. -/
lemma mem_todo (h : Attempts todo log rest) (hmem : (r, ok) ∈ log) : r ∈ todo := by
  induction h with
  | nil => cases hmem
  | failed _ ih =>
    rcases List.mem_cons.1 hmem with heq | hmem
    · cases heq
      exact List.mem_cons_self
    · exact ih hmem
  | released _ ih =>
    rcases List.mem_cons.1 hmem with heq | hmem
    · cases heq
      exact List.mem_cons_self
    · exact List.mem_cons_of_mem _ (ih hmem)

/-- What is held is what the log released, in its order, and what is left. -/
lemma eq_released_append (h : Attempts todo log rest) :
    todo = (log.filter Prod.snd).map Prod.fst ++ rest := by
  induction h with
  | nil => rfl
  | failed _ ih => simpa using ih
  | released _ ih => simpa using ih

/-- Nothing is attempted after its release. -/
theorem once (h : Attempts todo log rest) (hnodup : todo.Nodup) {before after : List (R × Bool)}
    (hlog : log = before ++ (r, true) :: after) : (r, ok) ∉ after := by
  subst hlog
  rcases h.split with ⟨mid, hbefore, hafter⟩
  rw [hbefore.eq_released_append] at hnodup
  cases hafter with
  | released hafter =>
    have hr := (List.nodup_cons.1 (List.nodup_append.1 hnodup).2.1).1
    intro hmem
    exact hr (hafter.mem_todo hmem)

/-- What stands in front of a resource is released before the resource is attempted. -/
theorem released_before (h : Attempts todo log rest) (hnodup : todo.Nodup) {front back : List R}
    (htodo : todo = front ++ r :: back) {before after : List (R × Bool)}
    (hlog : log = before ++ (r, ok) :: after) {d : R} (hd : d ∈ front) : (d, true) ∈ before := by
  subst hlog
  rcases h.split with ⟨mid, hbefore, hafter⟩
  have hmid : ∃ back', mid = r :: back' := by
    cases hafter with
    | failed _ => exact ⟨_, rfl⟩
    | released _ => exact ⟨_, rfl⟩
  rcases hmid with ⟨back', rfl⟩
  have heq : front ++ r :: back = (before.filter Prod.snd).map Prod.fst ++ r :: back' := by
    rw [← htodo, ← hbefore.eq_released_append]
  rw [htodo] at hnodup
  -- `r` occurs once, so the two lists are cut at the same place
  have hfront : front = (before.filter Prod.snd).map Prod.fst := by
    rcases List.nodup_middle.1 hnodup with _ | ⟨hr, -⟩
    have hr' : r ∉ front ++ back := fun hmem => hr r hmem rfl
    rw [List.mem_append, not_or] at hr'
    exact ((List.append_cons_inj_of_notMem hr'.1 hr'.2).1 heq).1
  rw [hfront] at hd
  simpa using hd

lemma count_add [DecidableEq R] (h : Attempts todo log rest) (r : R) :
    log.count (r, true) + rest.count r = todo.count r := by
  induction h with
  | nil => simp
  | failed _ ih => simpa [List.count_cons] using ih
  | released _ ih =>
    simp only [List.count_cons, ← ih, Prod.mk.injEq, beq_iff_eq, and_true]
    omega

/-- A clean-up that has come to its end released everything it held, once. -/
theorem count_released [DecidableEq R] (h : Attempts todo log []) (hnodup : todo.Nodup) (r : R) :
    log.count (r, true) = if r ∈ todo then 1 else 0 := by
  have hcount := h.count_add r
  rw [List.count_nil, Nat.add_zero] at hcount
  rw [hcount]
  split
  · exact List.count_eq_one_of_mem hnodup ‹_›
  · exact List.count_eq_zero_of_not_mem ‹_›

end Attempts

end Lib
end Banip
