import Mathlib.Data.List.Basic

/-!
# Fifo — the abstract queue

What a message queue is for, apart from any implementation: messages leave it in the order in which
they were put in.  `Fifo q es p` says that the events `es` are a history of such a queue that starts
with the contents `q` and ends with the contents `p`.
-/

namespace Banip
namespace Lib

universe u

/-- An observable step of a queue. -/
inductive Event (M : Type u) where
  | send (m : M)
  | receive (m : M)
deriving DecidableEq, Repr

variable {M : Type u}

/-- The messages put in, in order. -/
def accepted (es : List (Event M)) : List M :=
  es.filterMap fun
    | .send m => some m
    | .receive _ => none

/-- The messages taken out, in order. -/
def delivered (es : List (Event M)) : List M :=
  es.filterMap fun
    | .send _ => none
    | .receive m => some m

/-- Histories of a first-in first-out queue. -/
inductive Fifo : List M → List (Event M) → List M → Prop where
  | nil (q : List M) : Fifo q [] q
  | send {q p : List M} {es : List (Event M)} (m : M) :
      Fifo (q ++ [m]) es p → Fifo q (.send m :: es) p
  | receive {q p : List M} {es : List (Event M)} (m : M) :
      Fifo q es p → Fifo (m :: q) (.receive m :: es) p

namespace Fifo

/-- A history can be extended by a message at the back. -/
lemma snoc_send {q p : List M} {es : List (Event M)} (h : Fifo q es p) (m : M) :
    Fifo q (es ++ [.send m]) (p ++ [m]) := by
  induction h with
  | nil q => exact .send m (.nil _)
  | send m' _ ih => exact .send m' ih
  | receive m' _ ih => exact .receive m' ih

/-- A history can be extended by taking out the message at the front. -/
lemma snoc_receive {q p : List M} {es : List (Event M)} {m : M} (h : Fifo q es (m :: p)) :
    Fifo q (es ++ [.receive m]) p := by
  generalize hmp : m :: p = mp at h
  induction h with
  | nil q =>
    subst hmp
    exact .receive m (.nil _)
  | send m' _ ih => exact .send m' (ih hmp)
  | receive m' _ ih => exact .receive m' (ih hmp)

/-- Nothing is lost, duplicated or reordered. -/
theorem conservation {q p : List M} {es : List (Event M)} (h : Fifo q es p) :
    q ++ accepted es = delivered es ++ p := by
  induction h with
  | nil q => simp [accepted, delivered]
  | @send q p es m _ ih =>
    calc
      q ++ accepted (.send m :: es)
          = (q ++ [m]) ++ accepted es := by simp [accepted]
      _ = delivered es ++ p := ih
      _ = delivered (.send m :: es) ++ p := by simp [delivered]
  | @receive q p es m _ ih =>
    calc
      (m :: q) ++ accepted (.receive m :: es)
          = m :: (q ++ accepted es) := by simp [accepted]
      _ = m :: (delivered es ++ p) := by simp [ih]
      _ = delivered (.receive m :: es) ++ p := by simp [delivered]

/-- From an empty queue, the `k`-th message out is the `k`-th message in. -/
theorem delivered_getElem? {p : List M} {es : List (Event M)} (h : Fifo [] es p) {k : Nat} {m : M}
    (hk : (delivered es)[k]? = some m) : (accepted es)[k]? = some m := by
  have hlt : k < (delivered es).length := (List.getElem?_eq_some_iff.1 hk).1
  have hall : accepted es = delivered es ++ p := by simpa using h.conservation
  simpa [hall, List.getElem?_append_left hlt] using hk

end Fifo

end Lib
end Banip
