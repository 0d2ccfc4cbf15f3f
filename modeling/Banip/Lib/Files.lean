import Banip.Lib.MessageQueue

/-!
# Files — a directory of small files

The file system as far as a daemon uses it for files it creates, reads back and removes: a path
leads to a file with an inode number, an owner and its bytes.  As in `MessageQueue`, a `fails`
argument is an `errno` for which the kernel refuses a call for a reason outside this model.
-/

namespace Banip
namespace Lib

structure File where
  ino : Nat
  uid : Nat
  data : Bytes
deriving DecidableEq, Repr

structure Files where
  find : Bytes → Option File
  nextIno : Nat

namespace Files

def empty : Files := ⟨fun _ => none, 1⟩

/-- Add an empty file. -/
def create (fs : Files) (path : Bytes) (uid : Nat) : Files :=
  ⟨Function.update fs.find path (some ⟨fs.nextIno, uid, []⟩), fs.nextIno + 1⟩

/-- Replace the bytes of the file at `path`. -/
def write (fs : Files) (path data : Bytes) : Files :=
  { fs with find := Function.update fs.find path ((fs.find path).map fun f => { f with data := data }) }

/-- What reaches a file of the text that is written to it: all of it, or so many bytes if the writes
fail then. -/
def written (fails : Option Nat) (text : Bytes) : Bytes :=
  match fails with
  | none => text
  | some n => text.take n

def remove (fs : Files) (path : Bytes) : Files :=
  { fs with find := Function.update fs.find path none }

/-- `fopen(path, "wx")`. -/
def fopenExcl (fs : Files) (path : Bytes) (uid : Nat) (fails : Option Nat) : Except Nat Files :=
  match fails with
  | some errno => .error errno
  | none =>
    match fs.find path with
    | some _ => .error EEXIST
    | none => .ok (fs.create path uid)

/-- `fopen(path, "w")`: the file is created, or emptied. -/
def fopenWrite (fs : Files) (path : Bytes) (uid : Nat) (fails : Option Nat) : Except Nat Files :=
  match fails with
  | some errno => .error errno
  | none =>
    match fs.find path with
    | some _ => .ok (fs.write path [])
    | none => .ok (fs.create path uid)

/-- `fopen(path, "r")`, with the file's bytes. -/
def fopenRead (fs : Files) (path : Bytes) (fails : Option Nat) : Except Nat Bytes :=
  match fails with
  | some errno => .error errno
  | none =>
    match fs.find path with
    | some f => .ok f.data
    | none => .error ENOENT

/-- `unlink` by a process of `uid`: in a directory that root owns, root or the file's owner may
remove it. -/
def unlink (fs : Files) (path : Bytes) (uid : Nat) (fails : Option Nat) : Except Nat Files :=
  match fails with
  | some errno => .error errno
  | none =>
    match fs.find path with
    | none => .error ENOENT
    | some f => if uid = 0 ∨ uid = f.uid then .ok (fs.remove path) else .error EACCES

/-! ## What a successful call did -/

lemma fopenExcl_ok {fs fs' : Files} {path : Bytes} {uid : Nat} {fails : Option Nat}
    (h : fs.fopenExcl path uid fails = .ok fs') :
    fs.find path = none ∧ fs' = fs.create path uid := by
  cases fails with
  | some errno => cases h
  | none =>
    cases hfind : fs.find path with
    | some f => simp [fopenExcl, hfind] at h
    | none =>
      have : fs.create path uid = fs' := by simpa [fopenExcl, hfind] using h
      exact ⟨rfl, this.symm⟩

lemma fopenRead_ok {fs : Files} {path data : Bytes} {fails : Option Nat}
    (h : fs.fopenRead path fails = .ok data) : ∃ f, fs.find path = some f ∧ f.data = data := by
  cases fails with
  | some errno => cases h
  | none =>
    cases hfind : fs.find path with
    | none => simp [fopenRead, hfind] at h
    | some f => exact ⟨f, rfl, by simpa [fopenRead, hfind] using h⟩

/-! ## Lookups after an update -/

lemma find_write_self {fs : Files} {path data : Bytes} {f : File} (hf : fs.find path = some f) :
    (fs.write path data).find path = some { f with data := data } := by
  simp [write, hf]

lemma find_write_of_ne {fs : Files} {path path' data : Bytes} (hne : path' ≠ path) :
    (fs.write path data).find path' = fs.find path' := by
  simp [write, Function.update_of_ne hne]

@[simp] lemma find_create_self (fs : Files) (path : Bytes) (uid : Nat) :
    (fs.create path uid).find path = some ⟨fs.nextIno, uid, []⟩ := by
  simp [create]

lemma find_create_of_ne {fs : Files} {path path' : Bytes} {uid : Nat} (hne : path' ≠ path) :
    (fs.create path uid).find path' = fs.find path' := by
  simp [create, Function.update_of_ne hne]

lemma fopenWrite_find_of_ne {fs fs' : Files} {path path' : Bytes} {uid : Nat} {fails : Option Nat}
    (h : fs.fopenWrite path uid fails = .ok fs') (hne : path' ≠ path) :
    fs'.find path' = fs.find path' := by
  cases fails with
  | some errno => cases h
  | none =>
    cases hfind : fs.find path with
    | some f =>
      have : fs.write path [] = fs' := by simpa [fopenWrite, hfind] using h
      rw [← this, find_write_of_ne hne]
    | none =>
      have : fs.create path uid = fs' := by simpa [fopenWrite, hfind] using h
      rw [← this, find_create_of_ne hne]

@[simp] lemma find_remove_self (fs : Files) (path : Bytes) : (fs.remove path).find path = none := by
  simp [remove]

lemma find_remove_of_ne {fs : Files} {path path' : Bytes} (hne : path' ≠ path) :
    (fs.remove path).find path' = fs.find path' := by
  simp [remove, Function.update_of_ne hne]

end Files

end Lib
end Banip
