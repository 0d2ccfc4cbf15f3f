import Banip.Lib.CString
import Mathlib.Logic.Function.Basic

/-!
# Stdio — buffered streams on files that others may rename

A program that writes through `FILE` pointers does not decide when its bytes reach the file: they wait
in the buffer of the stream until the library writes some of them.  Nor does it decide whether they
do: a write may fail, and a program that ignores this loses some of its bytes.  And the file is the
one that was opened, whatever its name has become since.

A `Tally` is what has become of the text that was printed to a sink: `data` is in the file, `pending`
waits and `lost` counts what is gone.  `Carries` says that nothing else has happened to the text, in
particular that nothing was doubled or moved, and it is kept by every operation, whenever the library
writes, whatever fails and whoever renames.
-/

namespace Banip
namespace Lib

/-! ## What is left of a text -/

/-- The text without the bytes that are marked as lost; bytes behind the last mark are kept. -/
def survive : List Bool → Bytes → Bytes
  | [], text => text
  | _ :: _, [] => []
  | true :: fails, _ :: text => survive fails text
  | false :: fails, c :: text => c :: survive fails text

lemma survive_sublist (fails : List Bool) (text : Bytes) : (survive fails text).Sublist text := by
  fun_induction survive fails text with
  | case1 text => exact List.Sublist.refl text
  | case2 => exact List.Sublist.refl []
  | case3 fails c text ih => exact ih.cons c
  | case4 fails c text ih => exact ih.cons_cons c

@[simp] lemma survive_nil_right (fails : List Bool) : survive fails [] = [] := by
  cases fails <;> rfl

/-- What has become of the text that was printed to a sink. -/
structure Tally where
  data : Bytes
  pending : Bytes
  lost : Nat
deriving DecidableEq, Repr

namespace Tally

/-- The text is printed, and waits. -/
def print (t : Tally) (text : Bytes) : Tally := { t with pending := t.pending ++ text }

/-- Of what waits, some bytes are lost and the first `n` of the others arrive. -/
def drain (t : Tally) (fails : List Bool) (n : Nat) : Tally :=
  let kept := survive fails t.pending
  ⟨t.data ++ kept.take n, kept.drop n, t.lost + (t.pending.length - kept.length)⟩

/-- Behind `base` the sink has the text `said`, in its order, but for the bytes that wait, which are
the last ones, and those that are lost. -/
def Carries (base said : Bytes) (t : Tally) : Prop :=
  ∃ kept, t.data = base ++ kept ∧ (kept ++ t.pending).Sublist said ∧
    (kept ++ t.pending).length + t.lost = said.length

variable {base said : Bytes} {t : Tally}

@[simp] lemma lost_drain_nil (n : Nat) : (t.drain [] n).lost = t.lost := by
  simp [drain, survive]

namespace Carries

lemma start (base : Bytes) : Carries base [] ⟨base, [], 0⟩ := ⟨[], by simp, by simp, rfl⟩

lemma print (h : Carries base said t) (text : Bytes) : Carries base (said ++ text) (t.print text) := by
  rcases h with ⟨kept, hdata, hsub, hlength⟩
  refine ⟨kept, hdata, ?_, ?_⟩
  · rw [Tally.print, ← List.append_assoc]
    exact hsub.append (List.Sublist.refl text)
  · simp only [Tally.print, List.length_append] at hlength ⊢
    omega

lemma drain (h : Carries base said t) (fails : List Bool) (n : Nat) :
    Carries base said (t.drain fails n) := by
  rcases h with ⟨kept, hdata, hsub, hlength⟩
  have hkept : (survive fails t.pending).Sublist t.pending := survive_sublist fails t.pending
  -- where the buffer is cut does not matter, only what is left of it
  have heq : kept ++ (survive fails t.pending).take n ++ (survive fails t.pending).drop n =
      kept ++ survive fails t.pending := by
    rw [List.append_assoc, List.take_append_drop]
  refine ⟨kept ++ (survive fails t.pending).take n, ?_, ?_, ?_⟩
  · simp [Tally.drain, hdata]
  · simp only [Tally.drain, heq]
    exact ((List.Sublist.refl kept).append hkept).trans hsub
  · have hle := hkept.length_le
    simp only [Tally.drain, heq, List.length_append] at hlength ⊢
    omega

/-- If nothing is lost, the text is all there. -/
lemma exact (h : Carries base said t) (hlost : t.lost = 0) : t.data ++ t.pending = base ++ said := by
  rcases h with ⟨kept, hdata, hsub, hlength⟩
  rw [hlost, Nat.add_zero] at hlength
  rw [hdata, List.append_assoc, hsub.eq_of_length hlength]

end Carries
end Tally

/-! ## Files -/

/-- Where a descriptor leads. -/
inductive Sink where
  | file (ino : Nat)
  | console
  | null
deriving DecidableEq, Repr

/-- Names of files, what each sink holds, how many bytes for it were lost, and the next inode.  Of what
other programs write nothing is recorded. -/
structure Disk where
  names : Bytes → Option Nat
  data : Sink → Bytes
  lost : Sink → Nat
  next : Nat
  bounded : ∀ path ino, names path = some ino → ino < next

/-- What other programs do to the names. -/
inductive FileOp where
  | rename (src dst : Bytes)
  | unlink (path : Bytes)
  | create (path : Bytes)
deriving DecidableEq, Repr

namespace Disk

lemma bounded_update {names : Bytes → Option Nat} {next : Nat}
    (h : ∀ path ino, names path = some ino → ino < next) (path : Bytes) {found : Option Nat}
    (hfound : ∀ ino, found = some ino → ino < next) :
    ∀ path' ino, Function.update names path found path' = some ino → ino < next := by
  intro path' ino hino
  by_cases hpath : path' = path
  · subst hpath
    exact hfound ino (by simpa using hino)
  · exact h path' ino (by simpa [Function.update_of_ne hpath] using hino)

/-- `write` of a text, with `lost` more bytes that did not come so far; what goes to `/dev/null` is
gone. -/
def write (d : Disk) (s : Sink) (text : Bytes) (lost : Nat) : Disk :=
  if s = .null then d
  else
    { d with
      data := Function.update d.data s (d.data s ++ text)
      lost := Function.update d.lost s (d.lost s + lost) }

/-- Print a text without a buffer. -/
def print (d : Disk) (s : Sink) (text : Bytes) (fails : List Bool) : Disk :=
  d.write s (survive fails text) (text.length - (survive fails text).length)

/-- Give a name to a new file. -/
def create (d : Disk) (path : Bytes) : Disk where
  names := Function.update d.names path (some d.next)
  data := d.data
  lost := d.lost
  next := d.next + 1
  bounded := by
    refine bounded_update (fun path ino h => Nat.lt_succ_of_lt (d.bounded path ino h)) path ?_
    rintro ino ⟨⟩
    exact Nat.lt_succ_self _

/-- Let the name lead to the file, or to none. -/
def link (d : Disk) (path : Bytes) (found : Option Nat) (hfound : ∀ ino, found = some ino → ino < d.next) :
    Disk :=
  { d with
    names := Function.update d.names path found
    bounded := bounded_update d.bounded path hfound }

/-- Open a file for appending, and create it if there is none. -/
def openAppend (d : Disk) (path : Bytes) : Sink × Disk :=
  match d.names path with
  | some ino => (.file ino, d)
  | none => (.file d.next, d.create path)

def apply (d : Disk) : FileOp → Disk
  | .rename src dst =>
    match hsrc : d.names src with
    | none => d
    | some ino =>
      (d.link src none (fun _ h => nomatch h)).link dst (some ino)
        (fun _ h => d.bounded src _ (hsrc.trans h))
  | .unlink path => d.link path none (fun _ h => nomatch h)
  | .create path => (d.openAppend path).2

variable (d : Disk) (s : Sink) (text : Bytes) (lost : Nat)

@[simp] lemma names_write : (d.write s text lost).names = d.names := by
  unfold write
  split <;> rfl

@[simp] lemma next_write : (d.write s text lost).next = d.next := by
  unfold write
  split <;> rfl

lemma data_write {s' : Sink} (hs : s' ≠ .null) :
    (d.write s text lost).data s' = if s = s' then d.data s' ++ text else d.data s' := by
  unfold write
  by_cases hnull : s = .null
  · simp [hnull, Ne.symm hs]
  · by_cases heq : s = s'
    · subst heq
      simp [hnull]
    · simp [hnull, heq, Function.update_of_ne (Ne.symm heq)]

lemma lost_write {s' : Sink} (hs : s' ≠ .null) :
    (d.write s text lost).lost s' = if s = s' then d.lost s' + lost else d.lost s' := by
  unfold write
  by_cases hnull : s = .null
  · simp [hnull, Ne.symm hs]
  · by_cases heq : s = s'
    · subst heq
      simp [hnull]
    · simp [hnull, heq, Function.update_of_ne (Ne.symm heq)]

lemma data_write_ne {s' : Sink} (hne : s ≠ s') : (d.write s text lost).data s' = d.data s' := by
  unfold write
  split
  · rfl
  · exact Function.update_of_ne (Ne.symm hne) _ _

lemma lost_write_ne {s' : Sink} (hne : s ≠ s') : (d.write s text lost).lost s' = d.lost s' := by
  unfold write
  split
  · rfl
  · exact Function.update_of_ne (Ne.symm hne) _ _

variable {d s text lost} (path : Bytes)

@[simp] lemma data_openAppend : (d.openAppend path).2.data = d.data := by
  unfold openAppend
  split <;> rfl

@[simp] lemma lost_openAppend : (d.openAppend path).2.lost = d.lost := by
  unfold openAppend
  split <;> rfl

@[simp] lemma data_apply (op : FileOp) : (d.apply op).data = d.data := by
  cases op with
  | rename src dst =>
    simp only [apply]
    split <;> rfl
  | unlink path => rfl
  | create path => exact data_openAppend path

@[simp] lemma lost_apply (op : FileOp) : (d.apply op).lost = d.lost := by
  cases op with
  | rename src dst =>
    simp only [apply]
    split <;> rfl
  | unlink path => rfl
  | create path => exact lost_openAppend path

/-- The name leads to the file that was opened. -/
lemma names_openAppend (d : Disk) (path : Bytes) :
    ∃ ino, (d.openAppend path).1 = .file ino ∧ (d.openAppend path).2.names path = some ino := by
  unfold openAppend
  cases hfind : d.names path with
  | some ino => exact ⟨ino, rfl, hfind⟩
  | none => exact ⟨d.next, rfl, by simp [create]⟩

/-- A file that is there is found again only under its name. -/
lemma openAppend_ne {path : Bytes} {ino : Nat} (hino : ino < d.next)
    (hname : d.names path ≠ some ino) : (d.openAppend path).1 ≠ .file ino := by
  unfold openAppend
  cases hfind : d.names path with
  | some found =>
    rintro ⟨⟩
    exact hname hfind
  | none =>
    -- the file is a new one
    rintro ⟨⟩
    exact Nat.lt_irrefl _ hino

lemma next_openAppend (d : Disk) (path : Bytes) : d.next ≤ (d.openAppend path).2.next := by
  unfold openAppend
  split
  · exact Nat.le_refl _
  · exact Nat.le_succ _

lemma lt_openAppend {path : Bytes} {ino : Nat} (h : (d.openAppend path).1 = .file ino) :
    ino < (d.openAppend path).2.next := by
  rcases names_openAppend d path with ⟨found, hfound, hname⟩
  cases hfound.symm.trans h
  exact (d.openAppend path).2.bounded path ino hname

lemma next_apply (d : Disk) (op : FileOp) : d.next ≤ (d.apply op).next := by
  cases op with
  | rename src dst =>
    simp only [apply]
    split <;> exact Nat.le_refl _
  | unlink path => exact Nat.le_refl _
  | create path => exact next_openAppend d path

end Disk

/-! ## Streams -/

/-- A `FILE`: its descriptor, where that leads, and the bytes in its buffer. -/
structure Stream where
  fd : Nat
  sink : Sink
  pending : Bytes
deriving DecidableEq, Repr

namespace Stream

/-- `fputs`: the text goes to the buffer, from which some bytes are lost, and the library writes the
first `n` of the others. -/
def put (f : Stream) (text : Bytes) (n : Nat) (fails : List Bool) (d : Disk) : Stream × Disk :=
  let buffer := f.pending ++ text
  let kept := survive fails buffer
  ({ f with pending := kept.drop n },
    d.write f.sink (kept.take n) (buffer.length - kept.length))

/-- All of the buffer, as what is lost. -/
def all (f : Stream) : List Bool := f.pending.map fun _ => true

/-- `fflush`, or the end of a stream. -/
def flush (f : Stream) (fails : List Bool) (d : Disk) : Disk := d.print f.sink f.pending fails

end Stream

end Lib
end Banip
