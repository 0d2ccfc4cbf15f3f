import Banip.Queue.KeyName
import Banip.Lib.Runs

/-!
# Rendezvous — an owner's and a sender's `queue_open`, call by call

`queueOpen` runs from its beginning to its end.  Here an owner and a sender run it side by side, and
the kernel may let the other go on after every call:

* `advance` is one call of `queue_open`, and `flush` one `write` that `fflush` or `fclose` makes;
* `queueOpen_sender` and `queueOpen_owner` say that a process that is left alone does what
  `queueOpen` does;
* `Safe` is what the key file is for: whoever is past the reading of the id has read the id that the
  owner wrote, and whoever has found a queue has found the owner's.

The key file is created empty and filled later, so a sender may see any part of the id.  The test
`1 != fread(..) < sizeof(id)` is meant to catch that and cannot fail.
-/

namespace Banip
namespace SystemV
namespace Rendezvous

open Lib

/-! ## One call of `queue_open` -/

/-- The next call that a `queue_open` makes.  `flush` has the bytes that are still in the buffer of the
stream. -/
inductive Point where
  | fopen
  | fwrite
  | flush (rest : Bytes)
  | fread
  | ftok
  | msgget (key : Nat)
  | buffer (i : Nat)
  | returned (ok : Bool) (error : Option Bytes)
  | crashed (fault : Fault)
deriving DecidableEq, Repr

/-- What a `queue_open` is given: whether `QUEUE_FL_OWNER` is set, the name, its process and what the
environment decides. -/
structure Call where
  owner : Bool
  name : Bytes
  uid : Nat
  umask : Nat
  out : OpenOutcome

/-- A `queue_open` under way: its handle, its variables `filename` and `id`, and the bytes its `fread`
has got so far. -/
structure Party where
  point : Point
  queue : SystemvQueue
  filename : Bytes
  id : Int
  read : Bytes

namespace Party

def start (q : SystemvQueue) : Party := ⟨.fopen, q, [], 0, []⟩

/-- Report an error and return `false`. -/
def fail (p : Party) (text : Bytes) : Party := { p with point := .returned false (some text) }

end Party

/-- The bytes of a file. -/
def contents (files : Files) (path : Bytes) : Bytes := ((files.find path).map File.data).getD []

section

variable (h : Host) (os : Os) (c : Call) (k : Kernel) (p : Party)

/-- The owner's split of the name and `fopen(filename, "wx")`. -/
def ownerFopen : Kernel × Party :=
  match ownerName os c.out.stack c.name with
  | .error fault => (k, { p with point := .crashed fault })
  | .ok (.error text) => (k, p.fail text)
  | .ok (.ok (filename, id)) =>
    match k.files.fopenExcl filename c.uid c.out.fopen with
    | .error errno =>
        (k, p.fail
          (systemError (str "fopen(\"" ++ filename ++ str "\", \"wx\") failed") (os.strerror errno)))
    | .ok files =>
        ({ k with files := files }, { p with point := .fwrite, filename := filename, id := id })

/-- The owner's `fwrite`, into the buffer of the stream. -/
def ownerFwrite : Party :=
  match c.out.fwrite with
  | some errno =>
      p.fail (systemError (str "fwrite to '" ++ p.filename ++ str "' failed") (os.strerror errno))
  | none => { p with point := .flush (store h (BitVec.ofInt 32 p.id)) }

/-- The sender's copy of the name and `fopen(filename, "r")`. -/
def senderFopen : Party :=
  let (filename, len) := strlcpy c.name os.maxPathLen
  if os.maxPathLen ≤ len then p.fail (nameOverflow os c.name)
  else
    match k.files.fopenRead filename c.out.fopen with
    | .error errno =>
        p.fail (systemError (str "fopen(\"" ++ filename ++ str "\", \"r\") failed")
          (os.strerror errno))
    | .ok _ => { p with point := .fread, filename := filename }

/-- The check of what `fread` returned. -/
def senderCheck (got : Bytes) : Party :=
  let items := if 4 ≤ got.length then 1 else 0
  let p := { p with read := got, id := loadInt h (got ++ c.out.idStack.drop got.length) }
  -- `1 != fread(..) < sizeof(id)` compares 1 with the outcome of the `<`
  if 1 ≠ (if items < 4 then 1 else 0) then
    p.fail (systemError (str "fread from '" ++ p.filename ++ str "' failed") (os.strerror 0))
  else { p with point := .ftok }

/-- One `read` of the sender's `fread`, which goes on until it has the four bytes or gets no more. -/
def senderFread : Party :=
  let got := (p.read ++ (contents k.files p.filename).drop p.read.length).take 4
  if got.length < 4 ∧ p.read.length < got.length then { p with read := got }
  else senderCheck h os c p got

def callFtok : Party :=
  match (if c.out.ftok then k.files.find p.filename else none) with
  | none =>
      p.fail (str "ftok(\"" ++ p.filename ++ str "\", " ++ decimalInt p.id ++ str ") failed")
  | some f => { p with point := .msgget (os.ftok f.ino (BitVec.ofInt 8 p.id)) }

/-- `strdup`, for the owner, and `msgget`. -/
def callMsgget (key : Nat) : Kernel × Party :=
  if c.owner && !c.out.strdup then
    (k, { p with queue := { p.queue with filename := none } }.fail
      (str "strdup failed to copy \"" ++ p.filename ++ str "\""))
  else
    let q := if c.owner then { p.queue with filename := some p.filename } else p.queue
    match k.ipc.msgget key c.owner c.uid k.msgmnb c.out.msgget with
    | .error errno =>
        (k, { p with queue := { q with qid := none } }.fail
          (systemError (str "msgget failed") (os.strerror errno)))
    | .ok (i, ipc) =>
        ({ k with ipc := ipc }, { p with queue := { q with qid := some i }, point := .buffer i })

/-- The end: `msgctl` and the buffer. -/
def callBuffer (i : Nat) : Party :=
  match openBuffer h os c.out k c.umask p.queue i with
  | .error fault => { p with point := .crashed fault }
  | .ok r => { p with queue := r.queue, point := .returned r.ok r.error }

/-- The next call. -/
def advance : Kernel × Party :=
  match p.point with
  | .fopen => if c.owner then ownerFopen os c k p else (k, senderFopen os c k p)
  | .fwrite => (k, ownerFwrite h os c p)
  -- `fclose`: what `write` did not take by now is lost, and nobody is told
  | .flush _ => (k, { p with point := .ftok })
  | .fread => (k, senderFread h os c k p)
  | .ftok => (k, callFtok os c k p)
  | .msgget key => callMsgget os c k p key
  | .buffer i => (k, callBuffer h os c k p i)
  | .returned _ _ | .crashed _ => (k, p)

/-- A `write` of `fflush` or `fclose`, of which the kernel takes `n` bytes. -/
def flush (n : Nat) : Kernel × Party :=
  match p.point with
  | .flush rest =>
      ({ k with files := k.files.write p.filename (contents k.files p.filename ++ rest.take n) },
        { p with point := .flush (rest.drop n) })
  | _ => (k, p)

end

/-! ## Alone -/

/-- The next `n` calls of a process while no other runs. -/
def solo (h : Host) (os : Os) (c : Call) (n : Nat) : Kernel × Party → Kernel × Party :=
  (Function.uncurry (advance h os c))^[n]

/-- The process has returned what `r` says. -/
structure Returned (r : Opened SystemvQueue Kernel) (s : Kernel × Party) : Prop where
  kernel : s.1 = r.kernel
  queue : s.2.queue = r.queue
  point : s.2.point = .returned r.ok r.error

section

variable {h : Host} {os : Os} {c : Call} {k : Kernel} {p : Party} {flags : Flags}
variable {r : Opened SystemvQueue Kernel}

lemma solo_succ (n : Nat) : solo h os c (n + 1) (k, p) = solo h os c n (advance h os c k p) := rfl

lemma solo_returned {ok : Bool} {error : Option Bytes} (hpoint : p.point = .returned ok error)
    (n : Nat) : solo h os c n (k, p) = (k, p) := by
  refine Function.iterate_fixed ?_ n
  simp [advance, hpoint]

lemma returned_fail {text : Bytes} (n : Nat)
    (hr : r = ⟨false, p.queue, k, c.umask, some text⟩) :
    Returned r (solo h os c n (k, p.fail text)) := by
  rw [solo_returned rfl, hr]
  exact ⟨rfl, rfl, rfl⟩

/-- From `ftok` on. -/
lemma openKey_solo (n : Nat) (hflags : flags.owner = c.owner) (hpoint : p.point = .ftok)
    (hrun : openKey h os c.out c.uid k c.umask p.queue p.filename p.id flags = .ok r) :
    Returned r (solo h os c (n + 3) (k, p)) := by
  unfold openKey at hrun
  rw [solo_succ]
  simp only [advance, hpoint, callFtok]
  cases hfile : (if c.out.ftok then k.files.find p.filename else none) with
  | none =>
    simp only [hfile] at hrun ⊢
    exact returned_fail _ (Except.ok.inj hrun).symm
  | some f =>
    simp only [hfile] at hrun ⊢
    rw [solo_succ]
    simp only [advance, callMsgget, ← hflags]
    by_cases hstrdup : (flags.owner && !c.out.strdup) = true
    · rw [if_pos hstrdup] at hrun ⊢
      exact returned_fail _ (Except.ok.inj hrun).symm
    · rw [if_neg hstrdup] at hrun ⊢
      cases hget : k.ipc.msgget (os.ftok f.ino (BitVec.ofInt 8 p.id)) flags.owner c.uid k.msgmnb
          c.out.msgget with
      | error errno =>
        simp only [hget] at hrun ⊢
        exact returned_fail _ (Except.ok.inj hrun).symm
      | ok found =>
        -- the last call is `openBuffer` on both sides
        simp only [hget] at hrun ⊢
        rw [solo_succ]
        simp only [advance, callBuffer, hrun]
        rw [solo_returned rfl]
        exact ⟨(openBuffer_keeps hrun).1.symm, rfl, rfl⟩

/-- The check passes whatever was read. -/
lemma senderCheck_eq (got : Bytes) :
    senderCheck h os c p got =
      { p with
        point := .ftok, read := got,
        id := loadInt h (got ++ c.out.idStack.drop got.length) } := by
  simp only [senderCheck, if_neg (fread_check got.length)]

/-- A sender that is alone reads the file as it is. -/
lemma fread_solo (n : Nat) (hflags : flags.owner = c.owner) (hpoint : p.point = .fread)
    (hread : p.read = []) {data : Bytes} (hdata : contents k.files p.filename = data)
    (hrun : openKey h os c.out c.uid k c.umask p.queue p.filename
      (loadInt h (data.take 4 ++ c.out.idStack.drop (data.take 4).length)) flags = .ok r) :
    Returned r (solo h os c (n + 5) (k, p)) := by
  rw [solo_succ]
  simp only [advance, hpoint, senderFread, hread, hdata, List.nil_append, List.length_nil,
    List.drop_zero]
  split
  · -- the first `read` got a part of the id, and the second one finds no more
    rename_i hpart
    have hall : data.take 4 = data := by
      have hlt := hpart.1
      rw [List.length_take] at hlt
      exact List.take_of_length_le (by omega)
    rw [hall] at hrun hpart ⊢
    rw [solo_succ]
    simp only [advance, senderFread, hdata, List.drop_length, List.append_nil, hall,
      lt_self_iff_false, and_false, if_false, senderCheck_eq]
    exact openKey_solo _ hflags rfl hrun
  · rw [senderCheck_eq]
    exact openKey_solo _ hflags rfl hrun

lemma contents_of_fopenRead {files : Files} {path data : Bytes} {fails : Option Nat}
    (hread : files.fopenRead path fails = .ok data) : contents files path = data := by
  rcases Files.fopenRead_ok hread with ⟨f, hf, hdata⟩
  simpa [contents, hf] using hdata

/-- A sender that is left alone does what `queueOpen` does. -/
theorem queueOpen_sender {q : SystemvQueue} (howner : c.owner = false)
    (hflags : flags.owner = false)
    (hrun : queueOpen h os c.out c.uid k c.umask q c.name flags = .ok r) :
    Returned r (solo h os c 6 (k, .start q)) := by
  have hboth : flags.owner = c.owner := hflags.trans howner.symm
  simp only [queueOpen, hflags, Bool.false_eq_true, if_false, senderFile] at hrun
  rw [solo_succ]
  simp only [advance, Party.start, howner, Bool.false_eq_true, if_false, senderFopen]
  by_cases hlong : os.maxPathLen ≤ (strlcpy c.name os.maxPathLen).2
  · simp only [hlong, if_true] at hrun ⊢
    exact returned_fail _ (Except.ok.inj hrun).symm
  · simp only [hlong, if_false] at hrun ⊢
    cases hopen : k.files.fopenRead (strlcpy c.name os.maxPathLen).1 c.out.fopen with
    | error errno =>
      simp only [hopen] at hrun ⊢
      exact returned_fail _ (Except.ok.inj hrun).symm
    | ok data =>
      simp only [hopen, if_neg (fread_check data.length)] at hrun ⊢
      exact fread_solo 0 hboth rfl rfl (contents_of_fopenRead hopen) hrun

/-- An owner that is left alone, and whose `fflush` writes at once what it writes of the id, does what
`queueOpen` does. -/
theorem queueOpen_owner {q : SystemvQueue} (howner : c.owner = true) (hflags : flags.owner = true)
    (hrun : queueOpen h os c.out c.uid k c.umask q c.name flags = .ok r) :
    Returned r (solo h os c 4 (Function.uncurry flush (solo h os c 2 (k, .start q))
      (c.out.fflush.getD 4))) := by
  have hboth : flags.owner = c.owner := hflags.trans howner.symm
  have hfailed : ∀ {k : Kernel} {p : Party} {text : Bytes},
      r = ⟨false, p.queue, k, c.umask, some text⟩ →
      Returned r (solo h os c 4 (Function.uncurry flush (k, p.fail text) (c.out.fflush.getD 4))) :=
    fun hr => returned_fail 4 hr
  have hstart : solo h os c 2 (k, .start q) = solo h os c 1 (ownerFopen os c k (.start q)) := by
    simp only [solo_succ, advance, Party.start, howner, if_true]
  simp only [queueOpen, hflags, if_true] at hrun
  rcases bind_eq_ok.1 hrun with ⟨⟨files, found⟩, hfile, hrun⟩
  rcases bind_eq_ok.1 hfile with ⟨text | ⟨filename, id⟩, hname, hfile⟩
  · cases hfile
    simp only [hstart, ownerFopen, hname]
    exact hfailed (Except.ok.inj hrun).symm
  · cases hopen : k.files.fopenExcl filename c.uid c.out.fopen with
    | error errno =>
      simp only [hopen] at hfile
      cases hfile
      simp only [hstart, ownerFopen, hname, hopen]
      exact hfailed (Except.ok.inj hrun).symm
    | ok created =>
      rcases Files.fopenExcl_ok hopen with ⟨-, rfl⟩
      simp only [hstart, ownerFopen, hname, hopen, solo_succ, advance, ownerFwrite]
      -- after the second call the id is in the buffer of the stream and the file is empty
      cases hwrite : c.out.fwrite with
      | some errno =>
        simp only [hopen, hwrite] at hfile
        cases hfile
        exact hfailed (Except.ok.inj hrun).symm
      | none =>
        simp only [hopen, hwrite] at hfile
        cases hfile
        have hempty : contents (k.files.create filename c.uid) filename = [] := by
          simp [contents]
        have hpart : (store h (BitVec.ofInt 32 id)).take (c.out.fflush.getD 4) =
            Files.written c.out.fflush (store h (BitVec.ofInt 32 id)) := by
          cases c.out.fflush with
          | none => exact List.take_of_length_le (store_length h _).le
          | some n => rfl
        simp only [solo, Function.iterate_zero, id_eq, Function.uncurry_apply_pair, flush, hempty, hpart,
          List.nil_append]
        exact openKey_solo 0 hboth rfl hrun

end

/-! ## Side by side -/

/-- An owner's and a sender's call on one system. -/
structure Meeting where
  host : Host
  os : Os
  owner : Call
  sender : Call
  owns : owner.owner = true
  sends : sender.owner = false

structure World where
  kernel : Kernel
  owner : Party
  sender : Party

inductive Action where
  | owner
  | flush (n : Nat)
  | sender
deriving DecidableEq, Repr

def World.start (k : Kernel) (q₁ q₂ : SystemvQueue) : World := ⟨k, .start q₁, .start q₂⟩

namespace Meeting

variable (m : Meeting)

/-- One step of one of the two. -/
def step (w : World) : Action → World
  | .owner =>
      let (k, p) := advance m.host m.os m.owner w.kernel w.owner
      ⟨k, p, w.sender⟩
  | .flush n =>
      let (k, p) := Rendezvous.flush w.kernel w.owner n
      ⟨k, p, w.sender⟩
  | .sender =>
      let (k, p) := advance m.host m.os m.sender w.kernel w.sender
      ⟨k, w.owner, p⟩

/-- The owner's name stands for the file `path` and the id `id`. -/
def Split (path : Bytes) (id : Int) : Prop :=
  ownerName m.os m.owner.out.stack m.owner.name = .ok (.ok (path, id))

/-- The file the sender opens. -/
def path : Bytes := (strlcpy m.sender.name m.os.maxPathLen).1

end Meeting

/-! ## The property -/

/-- The process has read the id and gone on. -/
def Point.Passed : Point → Prop
  | .ftok | .msgget _ | .buffer _ | .returned true _ | .crashed _ => True
  | .fopen | .fwrite | .flush _ | .fread | .returned false _ => False

/-- The process has a queue. -/
def Point.Attached : Point → Prop
  | .buffer _ | .returned true _ | .crashed _ => True
  | .fopen | .fwrite | .flush _ | .fread | .ftok | .msgget _ | .returned false _ => False

lemma Point.Attached.passed : ∀ {point : Point}, point.Attached → point.Passed
  | .buffer _, _ | .returned true _, _ | .crashed _, _ => trivial

/-- The process is through. -/
def Point.Ended : Point → Prop
  | .returned _ _ | .crashed _ => True
  | .fopen | .fwrite | .flush _ | .fread | .ftok | .msgget _ | .buffer _ => False

/-- A sender goes on only with the id that the owner writes, read as a whole, and has no queue but the
owner's. -/
structure Safe (m : Meeting) (w : World) : Prop where
  complete : w.sender.point.Passed → ∃ id, m.Split m.path id ∧
    w.sender.read = store m.host (BitVec.ofInt 32 id) ∧ w.sender.id = id
  attached : w.sender.point.Attached →
    ∃ i, w.sender.queue.qid = some i ∧ w.owner.queue.qid = some i

/-- The run is safe at every moment, and the sender is through after nine calls. -/
structure Kept (m : Meeting) (w : World) (as : List Action) : Prop where
  safe : ∀ bs, bs <+: as → Safe m (bs.foldl m.step w)
  ends : 9 ≤ as.count .sender → (as.foldl m.step w).sender.point.Ended

/-- The key file is not there yet, and no queue has the key that it is going to get. -/
structure Fresh (m : Meeting) (k : Kernel) : Prop where
  file : k.files.find m.path = none
  key : ∀ path id, m.Split path id → k.ipc.names (newKey m.os k.files id) = none

/-- A `read` of the sender finds at least one byte that it has not got yet. -/
def ReadsOn (w : World) (a : Action) : Prop :=
  a = .sender → w.sender.point = .fread →
    w.sender.read.length < (contents w.kernel.files w.sender.filename).length

instance (w : World) (a : Action) : Decidable (ReadsOn w a) :=
  inferInstanceAs (Decidable (_ → _ → _))

/-! ## What the owner publishes -/

/-- The process has asked for its queue. -/
def Point.Asked : Point → Prop
  | .buffer _ | .returned _ _ | .crashed _ => True
  | .fopen | .fwrite | .flush _ | .fread | .ftok | .msgget _ => False

/-- The owner's key file, with `data` in it. -/
def HasFile (m : Meeting) (k₀ k : Kernel) (p : Party) (data : Bytes) : Prop :=
  m.Split p.filename p.id ∧
    ∃ f, k.files.find p.filename = some f ∧ f.ino = k₀.files.nextIno ∧ f.data = data

/-- Where the owner is and what it has done. -/
def OwnerAt (m : Meeting) (k₀ k : Kernel) (p : Party) : Prop :=
  match p.point with
  | .fopen => k.files.nextIno = k₀.files.nextIno
  | .fwrite => HasFile m k₀ k p []
  | .flush rest => ∃ data, HasFile m k₀ k p data ∧
      data ++ rest = store m.host (BitVec.ofInt 32 p.id)
  | .ftok => ∃ data, HasFile m k₀ k p data
  | .msgget key => m.Split p.filename p.id ∧ key = newKey m.os k₀.files p.id
  | .fread => False
  | .buffer _ | .returned _ _ | .crashed _ => True

/-- A file at the sender's path is the owner's and has a part of the id in it; a queue under the key is
the owner's. -/
structure OwnerInv (m : Meeting) (k₀ k : Kernel) (p : Party) : Prop where
  file : ∀ f, k.files.find m.path = some f → ∃ id, m.Split m.path id ∧
    f.ino = k₀.files.nextIno ∧ f.data <+: store m.host (BitVec.ofInt 32 id)
  queue : ∀ path id i, m.Split path id → k.ipc.names (newKey m.os k₀.files id) = some i →
    p.queue.qid = some i ∧ p.point.Asked
  at_point : OwnerAt m k₀ k p

/-- Files get longer and queues are added. -/
structure Grows (k k' : Kernel) : Prop where
  files : ∀ path f, k.files.find path = some f →
    ∃ f', k'.files.find path = some f' ∧ f'.ino = f.ino ∧ f.data <+: f'.data
  names : ∀ key i, k.ipc.names key = some i → k'.ipc.names key = some i

lemma Grows.refl (k : Kernel) : Grows k k :=
  ⟨fun _ f hf => ⟨f, hf, rfl, List.prefix_refl _⟩, fun _ _ hi => hi⟩

section

variable {m : Meeting} {k₀ k k' : Kernel} {p p' : Party}

lemma split_unique {path path' : Bytes} {id id' : Int} (h : m.Split path id)
    (h' : m.Split path' id') : path = path' ∧ id = id' := by
  have := h.symm.trans h'
  simpa using this

/-- A step that leaves the queues alone. -/
lemma OwnerInv.move (hinv : OwnerInv m k₀ k p)
    (hipc : k'.ipc = k.ipc) (hqid : p.point.Asked → p'.queue.qid = p.queue.qid ∧ p'.point.Asked)
    (hfile : ∀ f, k'.files.find m.path = some f → ∃ id, m.Split m.path id ∧
      f.ino = k₀.files.nextIno ∧ f.data <+: store m.host (BitVec.ofInt 32 id))
    (hat : OwnerAt m k₀ k' p') : OwnerInv m k₀ k' p' := by
  refine ⟨hfile, ?_, hat⟩
  intro path id i hsplit hname
  rw [hipc] at hname
  rcases hinv.queue path id i hsplit hname with ⟨hi, hasked⟩
  rcases hqid hasked with ⟨hsame, hasked'⟩
  exact ⟨hsame.trans hi, hasked'⟩

/-- A step that changes neither the files nor the queues. -/
lemma OwnerInv.stay (hinv : OwnerInv m k₀ k p)
    (hqid : p.point.Asked → p'.queue.qid = p.queue.qid ∧ p'.point.Asked)
    (hat : OwnerAt m k₀ k p') : OwnerInv m k₀ k p' :=
  hinv.move rfl hqid hinv.file hat

/-- Before `msgget` there is no queue under the key, and the handle does not matter. -/
lemma OwnerInv.before (hinv : OwnerInv m k₀ k p) (hbefore : ¬ p.point.Asked)
    (hat : OwnerAt m k₀ k p') : OwnerInv m k₀ k p' :=
  hinv.stay (fun hasked => absurd hasked hbefore) hat

lemma ownerFopen_inv (hinv : OwnerInv m k₀ k p) (hpoint : p.point = .fopen) :
    OwnerInv m k₀ (ownerFopen m.os m.owner k p).1 (ownerFopen m.os m.owner k p).2 ∧
      Grows k (ownerFopen m.os m.owner k p).1 := by
  have hbefore : ¬ p.point.Asked := by simp [hpoint, Point.Asked]
  have hino : k.files.nextIno = k₀.files.nextIno := by simpa [OwnerAt, hpoint] using hinv.at_point
  unfold ownerFopen
  split
  · exact ⟨hinv.before hbefore trivial, .refl k⟩
  · exact ⟨hinv.before hbefore trivial, .refl k⟩
  · rename_i filename id hsplit
    split
    · exact ⟨hinv.before hbefore trivial, .refl k⟩
    · rename_i files hopen
      -- the new file gets the inode that the key is made of
      rcases Files.fopenExcl_ok hopen with ⟨hfree, rfl⟩
      have hnew := Files.find_create_self k.files filename m.owner.uid
      refine ⟨hinv.move rfl (fun h => absurd h hbefore) ?_ ⟨hsplit, _, hnew, hino, rfl⟩, ?_, ?_⟩
      · intro f hf
        by_cases hpath : m.path = filename
        · rw [hpath, hnew] at hf
          cases hf
          exact ⟨id, hpath ▸ hsplit, hino, List.nil_prefix⟩
        · rw [Files.find_create_of_ne hpath] at hf
          exact hinv.file f hf
      · intro path f hf
        have hne : path ≠ filename := by
          rintro rfl
          rw [hfree] at hf
          cases hf
        exact ⟨f, (Files.find_create_of_ne hne).trans hf, rfl, List.prefix_refl _⟩
      · exact fun _ _ hi => hi

/-- While the owner flushes, the file and the buffer of the stream make up the id. -/
lemma OwnerInv.at_flush {rest : Bytes} (hinv : OwnerInv m k₀ k p) (hpoint : p.point = .flush rest) :
    ∃ data, HasFile m k₀ k p data ∧ data ++ rest = store m.host (BitVec.ofInt 32 p.id) := by
  simpa [OwnerAt, hpoint] using hinv.at_point

/-- A `write` leaves a longer part of the id in the file. -/
lemma flush_inv (hinv : OwnerInv m k₀ k p) (n : Nat) :
    OwnerInv m k₀ (flush k p n).1 (flush k p n).2 ∧ Grows k (flush k p n).1 := by
  unfold flush
  split
  · rename_i rest hpoint
    have hbefore : ¬ p.point.Asked := by simp [hpoint, Point.Asked]
    rcases hinv.at_flush hpoint with ⟨data, ⟨hsplit, f, hf, hino, rfl⟩, hrest⟩
    have hdata : contents k.files p.filename = f.data := by simp [contents, hf]
    have hwhole : (f.data ++ rest.take n) ++ rest.drop n =
        store m.host (BitVec.ofInt 32 p.id) := by
      rw [List.append_assoc, List.take_append_drop, hrest]
    have hnew : (k.files.write p.filename (f.data ++ rest.take n)).find p.filename =
        some { f with data := f.data ++ rest.take n } := Files.find_write_self hf
    rw [hdata]
    refine ⟨hinv.move rfl (fun h => absurd h hbefore) ?_
      ⟨_, ⟨hsplit, _, hnew, hino, rfl⟩, hwhole⟩, ?_, ?_⟩
    · intro g hg
      by_cases hpath : m.path = p.filename
      · rw [hpath, hnew] at hg
        cases hg
        exact ⟨p.id, hpath ▸ hsplit, hino, _, hwhole⟩
      · rw [Files.find_write_of_ne hpath] at hg
        exact hinv.file g hg
    · intro path g hg
      by_cases hpath : path = p.filename
      · rw [hpath, hf] at hg
        cases hg
        rw [hpath]
        exact ⟨_, hnew, rfl, List.prefix_append _ _⟩
      · exact ⟨g, (Files.find_write_of_ne hpath).trans hg, rfl, List.prefix_refl _⟩
    · exact fun _ _ hi => hi
  · exact ⟨hinv, .refl k⟩

/-- The owner's `msgget` makes a queue that nobody had under the key. -/
lemma ownerMsgget_inv {key : Nat} (hinv : OwnerInv m k₀ k p) (hpoint : p.point = .msgget key) :
    OwnerInv m k₀ (callMsgget m.os m.owner k p key).1 (callMsgget m.os m.owner k p key).2 ∧
      Grows k (callMsgget m.os m.owner k p key).1 := by
  have hbefore : ¬ p.point.Asked := by simp [hpoint, Point.Asked]
  have hat : m.Split p.filename p.id ∧ key = newKey m.os k₀.files p.id := by
    simpa [OwnerAt, hpoint] using hinv.at_point
  rcases hat with ⟨hsplit, rfl⟩
  unfold callMsgget
  split
  · exact ⟨hinv.before hbefore trivial, .refl k⟩
  · simp only [m.owns, if_true]
    split
    · exact ⟨hinv.before hbefore trivial, .refl k⟩
    · rename_i i ipc hget
      rcases Ipc.msgget_excl_ok hget with ⟨hfree, rfl, rfl⟩
      -- the key leads to the new queue, and no other key has changed
      refine ⟨⟨hinv.file, ?_, trivial⟩, (Grows.refl k).files, ?_⟩
      · intro path id i hsplit' hname
        rcases split_unique hsplit hsplit' with ⟨-, rfl⟩
        exact ⟨(Registry.create_names_self k.ipc _).symm.trans hname, trivial⟩
      · intro key i hi
        refine (Registry.create_names_of_ne ?_).trans hi
        rintro rfl
        cases hfree.symm.trans hi

lemma ownerFwrite_inv (hinv : OwnerInv m k₀ k p) (hpoint : p.point = .fwrite) :
    OwnerInv m k₀ k (ownerFwrite m.host m.os m.owner p) := by
  have hbefore : ¬ p.point.Asked := by simp [hpoint, Point.Asked]
  have hat : HasFile m k₀ k p [] := by simpa [OwnerAt, hpoint] using hinv.at_point
  unfold ownerFwrite
  split
  · exact hinv.before hbefore trivial
  · exact hinv.before hbefore ⟨[], hat, rfl⟩

lemma ownerFclose_inv {rest : Bytes} (hinv : OwnerInv m k₀ k p) (hpoint : p.point = .flush rest) :
    OwnerInv m k₀ k { p with point := .ftok } := by
  have hbefore : ¬ p.point.Asked := by simp [hpoint, Point.Asked]
  rcases hinv.at_flush hpoint with ⟨data, hfile, -⟩
  exact hinv.before hbefore ⟨data, hfile⟩

lemma ownerFtok_inv (hinv : OwnerInv m k₀ k p) (hpoint : p.point = .ftok) :
    OwnerInv m k₀ k (callFtok m.os m.owner k p) := by
  have hbefore : ¬ p.point.Asked := by simp [hpoint, Point.Asked]
  have hat : ∃ data, HasFile m k₀ k p data := by simpa [OwnerAt, hpoint] using hinv.at_point
  rcases hat with ⟨data, hsplit, f, hf, hino, -⟩
  unfold callFtok
  split
  · exact hinv.before hbefore trivial
  · rename_i g hg
    have hgf : g = f := by
      split at hg
      · exact Option.some.inj (hg.symm.trans hf)
      · cases hg
    refine hinv.before hbefore ⟨hsplit, ?_⟩
    rw [hgf, hino]
    rfl

lemma ownerBuffer_inv {i : Nat} (hinv : OwnerInv m k₀ k p) :
    OwnerInv m k₀ k (callBuffer m.host m.os m.owner k p i) := by
  unfold callBuffer
  split
  · exact hinv.stay (fun _ => ⟨rfl, trivial⟩) trivial
  · rename_i r hrun
    exact hinv.stay (fun _ => ⟨(openBuffer_keeps hrun).2.2.1, trivial⟩) trivial

/-- What one call of the owner does. -/
lemma owner_inv (hinv : OwnerInv m k₀ k p) :
    OwnerInv m k₀ (advance m.host m.os m.owner k p).1 (advance m.host m.os m.owner k p).2 ∧
      Grows k (advance m.host m.os m.owner k p).1 := by
  unfold advance
  cases hpoint : p.point with
  | fopen =>
    simp only [m.owns, if_true]
    exact ownerFopen_inv hinv hpoint
  | fwrite => exact ⟨ownerFwrite_inv hinv hpoint, .refl k⟩
  | flush rest => exact ⟨ownerFclose_inv hinv hpoint, .refl k⟩
  | fread =>
    -- only a sender reads
    have hat := hinv.at_point
    simp only [OwnerAt, hpoint] at hat
  | ftok => exact ⟨ownerFtok_inv hinv hpoint, .refl k⟩
  | msgget key => exact ownerMsgget_inv hinv hpoint
  | buffer i => exact ⟨ownerBuffer_inv hinv, .refl k⟩
  | returned ok error => exact ⟨hinv, .refl k⟩
  | crashed fault => exact ⟨hinv, .refl k⟩

end

/-! ## What the sender makes of it -/

/-- The sender has read the owner's id. -/
def HasRead (m : Meeting) (p : Party) : Prop :=
  m.Split m.path p.id ∧ p.read = store m.host (BitVec.ofInt 32 p.id)

/-- Where the sender is. -/
def SenderAt (m : Meeting) (k₀ k : Kernel) (p : Party) : Prop :=
  match p.point with
  | .fread => p.filename = m.path ∧ p.read.length < 4 ∧
      ∃ f, k.files.find m.path = some f ∧ p.read <+: f.data
  | .fopen => p.read = []
  | .ftok => p.filename = m.path
  | .msgget key => key = newKey m.os k₀.files p.id
  | .fwrite | .flush _ => False
  | .buffer _ | .returned _ _ | .crashed _ => True

/-- What the sender has read and found. -/
structure SenderInv (m : Meeting) (k₀ k : Kernel) (p : Party) : Prop where
  passed : p.point.Passed → HasRead m p
  attached : p.point.Attached →
    ∃ i, p.queue.qid = some i ∧ k.ipc.names (newKey m.os k₀.files p.id) = some i
  at_point : SenderAt m k₀ k p

section

variable {m : Meeting} {k₀ k k' : Kernel} {p₁ p : Party}

/-- What the sender has found stays true while the owner goes on. -/
lemma SenderInv.mono (hinv : SenderInv m k₀ k p) (hgrows : Grows k k') : SenderInv m k₀ k' p := by
  have hat : SenderAt m k₀ k p → SenderAt m k₀ k' p := by
    unfold SenderAt
    split
    · rintro ⟨hpath, hlen, f, hf, hread⟩
      rcases hgrows.files _ f hf with ⟨f', hf', -, hdata⟩
      exact ⟨hpath, hlen, f', hf', hread.trans hdata⟩
    all_goals exact id
  refine ⟨hinv.passed, ?_, hat hinv.at_point⟩
  intro hattached
  rcases hinv.attached hattached with ⟨i, hqid, hname⟩
  exact ⟨i, hqid, hgrows.names _ _ hname⟩

lemma SenderInv.fail (p : Party) (text : Bytes) : SenderInv m k₀ k (p.fail text) :=
  ⟨False.elim, False.elim, trivial⟩

lemma senderFopen_inv (hread : p.read = []) :
    SenderInv m k₀ k (senderFopen m.os m.sender k p) := by
  unfold senderFopen
  dsimp only
  split
  · exact .fail _ _
  · split
    · exact .fail _ _
    · rename_i data hopen
      rcases Files.fopenRead_ok hopen with ⟨f, hf, -⟩
      refine ⟨False.elim, False.elim, rfl, ?_, f, hf, ?_⟩
      · simp [hread]
      · simp [hread]

/-- The owner's id survives the way through the file. -/
lemma intOf_split {path : Bytes} {id : Int} (hsplit : m.Split path id) :
    (BitVec.ofInt 32 id).toInt = id := by
  rcases ownerName_id hsplit with ⟨c, rfl⟩
  exact toInt_intOfChar m.os c

/-- What a `read` gets is what the file has. -/
lemma senderFread_eq (hinv : OwnerInv m k₀ k p₁) (hpath : p.filename = m.path)
    {f : File} (hf : k.files.find m.path = some f) (hread : p.read <+: f.data) :
    senderFread m.host m.os m.sender k p =
      if f.data.length < 4 ∧ p.read.length < f.data.length then { p with read := f.data }
      else senderCheck m.host m.os m.sender p f.data := by
  have hdata : contents k.files p.filename = f.data := by simp [contents, hpath, hf]
  rcases hinv.file f hf with ⟨id, -, -, hpart⟩
  have hshort : f.data.length ≤ 4 := by simpa [store_length] using hpart.length_le
  have hgot : (p.read ++ f.data.drop p.read.length).take 4 = f.data := by
    rw [List.prefix_iff_eq_append.1 hread]
    exact List.take_of_length_le hshort
  simp only [senderFread, hdata, hgot]

/-- A `read` that finds something new leads to the whole id, or to another `read`. -/
lemma senderFread_inv (hinv : OwnerInv m k₀ k p₁) (hpoint : p.point = .fread)
    (hpath : p.filename = m.path) {f : File} (hf : k.files.find m.path = some f)
    (hread : p.read <+: f.data) (hmore : p.read.length < f.data.length) :
    SenderInv m k₀ k (senderFread m.host m.os m.sender k p) := by
  rw [senderFread_eq hinv hpath hf hread]
  split
  · rename_i hpart
    have hat : SenderAt m k₀ k { p with read := f.data } := by
      simp only [SenderAt, hpoint]
      exact ⟨hpath, hpart.1, f, hf, List.prefix_refl _⟩
    exact ⟨by simp [hpoint, Point.Passed], by simp [hpoint, Point.Attached], hat⟩
  · rename_i hwhole
    rcases hinv.file f hf with ⟨id, hsplit, -, hpart⟩
    -- four bytes at least, of the four that the owner writes
    have hdata : f.data = store m.host (BitVec.ofInt 32 id) := by
      refine hpart.eq_of_length_le ?_
      rw [store_length]
      omega
    have hid : loadInt m.host (f.data ++ m.sender.out.idStack.drop f.data.length) = id := by
      rw [hdata, loadInt_store, intOf_split hsplit]
    rw [senderCheck_eq, hid]
    exact ⟨fun _ => ⟨hsplit, hdata⟩, False.elim, hpath⟩

lemma senderFtok_inv (hinv : OwnerInv m k₀ k p₁) (hpath : p.filename = m.path)
    (hread : HasRead m p) : SenderInv m k₀ k (callFtok m.os m.sender k p) := by
  unfold callFtok
  split
  · exact .fail _ _
  · rename_i f hf
    have hfile : k.files.find m.path = some f := by
      split at hf
      · rwa [hpath] at hf
      · cases hf
    rcases hinv.file f hfile with ⟨-, -, hino, -⟩
    refine ⟨fun _ => hread, False.elim, ?_⟩
    rw [hino]
    rfl

/-- The sender's `msgget` finds a queue or fails. -/
lemma senderMsgget_inv (hread : HasRead m p) :
    (callMsgget m.os m.sender k p (newKey m.os k₀.files p.id)).1 = k ∧
      SenderInv m k₀ k (callMsgget m.os m.sender k p (newKey m.os k₀.files p.id)).2 := by
  simp only [callMsgget, m.sends, Bool.false_and, Bool.false_eq_true, if_false]
  split
  · exact ⟨rfl, .fail _ _⟩
  · rename_i i ipc hget
    rcases Ipc.msgget_plain_ok hget with ⟨hname, rfl⟩
    exact ⟨rfl, fun _ => hread, fun _ => ⟨i, rfl, hname⟩, trivial⟩

lemma senderBuffer_inv {i : Nat} (hread : HasRead m p)
    (hqueue : ∃ i, p.queue.qid = some i ∧ k.ipc.names (newKey m.os k₀.files p.id) = some i) :
    SenderInv m k₀ k (callBuffer m.host m.os m.sender k p i) := by
  unfold callBuffer
  split
  · exact ⟨fun _ => hread, fun _ => hqueue, trivial⟩
  · rename_i r hrun
    rcases hqueue with ⟨j, hqid, hname⟩
    exact ⟨fun _ => hread, fun _ => ⟨j, (openBuffer_keeps hrun).2.2.1.trans hqid, hname⟩, trivial⟩

/-- What one call of the sender does, if it is not a `read` at the end of the file. -/
lemma sender_inv {w : World} (howner : OwnerInv m k₀ w.kernel w.owner)
    (hinv : SenderInv m k₀ w.kernel w.sender) (hreads : ReadsOn w .sender) :
    (advance m.host m.os m.sender w.kernel w.sender).1 = w.kernel ∧
      SenderInv m k₀ w.kernel (advance m.host m.os m.sender w.kernel w.sender).2 := by
  rcases w with ⟨k, p₁, p⟩
  dsimp only at howner hinv ⊢
  have hat := hinv.at_point
  have hpassed := hinv.passed
  unfold SenderAt at hat
  unfold advance
  cases hpoint : p.point with
  | fopen =>
    simp only [hpoint] at hat
    simp only [m.sends, Bool.false_eq_true, if_false, true_and]
    exact senderFopen_inv hat
  -- only an owner writes
  | fwrite => simp only [hpoint] at hat
  | flush rest => simp only [hpoint] at hat
  | fread =>
    simp only [hpoint] at hat
    rcases hat with ⟨hpath, -, f, hf, hread⟩
    have hmore : p.read.length < f.data.length := by
      simpa [contents, hpath, hf] using hreads rfl hpoint
    exact ⟨rfl, senderFread_inv howner hpoint hpath hf hread hmore⟩
  | ftok =>
    simp only [hpoint] at hat hpassed
    exact ⟨rfl, senderFtok_inv howner hat (hpassed trivial)⟩
  | msgget key =>
    simp only [hpoint] at hat hpassed
    subst hat
    exact senderMsgget_inv (hpassed trivial)
  | buffer i =>
    have hattached := hinv.attached
    rw [hpoint] at hpassed hattached
    exact ⟨rfl, senderBuffer_inv (hpassed trivial) (hattached trivial)⟩
  | returned ok error => exact ⟨rfl, hinv⟩
  | crashed fault => exact ⟨rfl, hinv⟩

end

/-! ## Runs -/

/-- The invariant of the two. -/
structure Inv (m : Meeting) (k₀ : Kernel) (w : World) : Prop where
  owner : OwnerInv m k₀ w.kernel w.owner
  sender : SenderInv m k₀ w.kernel w.sender

section

variable {m : Meeting} {k₀ : Kernel} {w : World} {a : Action}

lemma Inv.start (hfresh : Fresh m k₀) (q₁ q₂ : SystemvQueue) : Inv m k₀ (.start k₀ q₁ q₂) := by
  refine ⟨⟨?_, ?_, rfl⟩, False.elim, False.elim, rfl⟩
  · intro f hf
    cases hfresh.file.symm.trans hf
  · intro path id i hsplit hname
    cases (hfresh.key path id hsplit).symm.trans hname

lemma Inv.step (hinv : Inv m k₀ w) (hreads : ReadsOn w a) : Inv m k₀ (m.step w a) := by
  cases a with
  | owner =>
    rcases owner_inv hinv.owner with ⟨howner, hgrows⟩
    exact ⟨howner, hinv.sender.mono hgrows⟩
  | flush n =>
    rcases flush_inv hinv.owner n with ⟨howner, hgrows⟩
    exact ⟨howner, hinv.sender.mono hgrows⟩
  | sender =>
    rcases sender_inv hinv.owner hinv.sender hreads with ⟨hkernel, hsender⟩
    simp only [Meeting.step]
    refine ⟨?_, ?_⟩
    · simpa only [hkernel] using hinv.owner
    · simpa only [hkernel] using hsender

lemma Inv.safe (hinv : Inv m k₀ w) : Safe m w := by
  constructor
  · intro hpassed
    rcases hinv.sender.passed hpassed with ⟨hsplit, hread⟩
    exact ⟨_, hsplit, hread, rfl⟩
  · intro hattached
    rcases hinv.sender.passed hattached.passed with ⟨hsplit, -⟩
    rcases hinv.sender.attached hattached with ⟨i, hqid, hname⟩
    exact ⟨i, hqid, (hinv.owner.queue _ _ i hsplit hname).1⟩

/-- A `read` at the end of the file is taken for the id. -/
lemma Inv.not_safe (hinv : Inv m k₀ w) (hpoint : w.sender.point = .fread)
    (hshort : (contents w.kernel.files w.sender.filename).length ≤ w.sender.read.length) :
    ¬ Safe m (m.step w .sender) := by
  have hat := hinv.sender.at_point
  simp only [SenderAt, hpoint] at hat
  rcases hat with ⟨hpath, hlen, f, hf, hread⟩
  have hend : f.data.length ≤ w.sender.read.length := by
    simpa [contents, hpath, hf] using hshort
  -- the `read` returns nothing, and `fread` ends with what it had
  have hdata : f.data = w.sender.read := (hread.eq_of_length_le hend).symm
  have hstep : (m.step w .sender).sender =
      senderCheck m.host m.os m.sender w.sender w.sender.read := by
    simp only [Meeting.step, advance, hpoint, senderFread_eq hinv.owner hpath hf hread, hdata,
      lt_self_iff_false, and_false, if_false]
  rw [senderCheck_eq] at hstep
  intro hsafe
  have hpassed : (m.step w .sender).sender.point.Passed := by
    rw [hstep]
    trivial
  rcases hsafe.complete hpassed with ⟨id, -, hwhole, -⟩
  have hfour : w.sender.read.length = 4 := by
    rw [hstep] at hwhole
    have hlength := congrArg List.length hwhole
    rwa [store_length] at hlength
  omega

/-- The moments of a run are safe as long as every `read` finds something. -/
lemma safe_iff (hinv : Inv m k₀ w) (as : List Action) :
    (∀ bs, bs <+: as → Safe m (bs.foldl m.step w)) ↔ Along (total m.step) ReadsOn w as := by
  induction as generalizing w with
  | nil =>
    refine iff_of_true ?_ trivial
    intro bs hbs
    rw [List.prefix_nil.1 hbs]
    exact hinv.safe
  | cons a as ih =>
    rw [along_total_cons]
    constructor
    · intro hsafe
      -- a short read is unsafe at once, so the state after the first step is enough
      have hreads : ReadsOn w a := by
        rintro rfl hpoint
        by_contra hshort
        exact hinv.not_safe hpoint (Nat.le_of_not_lt hshort) (hsafe [.sender] (by simp))
      refine ⟨hreads, (ih (hinv.step hreads)).1 ?_⟩
      intro bs hbs
      exact hsafe (a :: bs) ((List.prefix_cons_inj a).2 hbs)
    · rintro ⟨hreads, hrest⟩ bs hbs
      rcases List.prefix_cons_iff.1 hbs with rfl | ⟨cs, rfl, hcs⟩
      · exact hinv.safe
      · exact (ih (hinv.step hreads)).2 hrest cs hcs

end

/-! ## The sender returns -/

/-- The calls a process still makes, at most. -/
def Party.rank (p : Party) : Nat :=
  match p.point with
  | .fopen => 9
  | .fread => 4 + (4 - p.read.length)
  | .fwrite => 5
  | .flush _ => 4
  | .ftok => 3
  | .msgget _ => 2
  | .buffer _ => 1
  | .returned _ _ | .crashed _ => 0

lemma Party.ended_of_rank {p : Party} (hrank : p.rank = 0) : p.point.Ended := by
  cases hpoint : p.point with
  | returned ok error => trivial
  | crashed fault => trivial
  | _ => simp [Party.rank, hpoint] at hrank

section

variable (h : Host) (os : Os) (c : Call) (k : Kernel) (p : Party)

lemma ownerFopen_rank : (ownerFopen os c k p).2.rank ≤ 8 := by
  unfold ownerFopen
  split
  · exact Nat.zero_le _
  · exact Nat.zero_le _
  · split
    · exact Nat.zero_le _
    · simp [Party.rank]

lemma senderFopen_rank : (senderFopen os c k p).rank ≤ 8 := by
  unfold senderFopen
  dsimp only
  split
  · exact Nat.zero_le _
  · split
    · exact Nat.zero_le _
    · simp only [Party.rank]
      omega

/-- Each `read` but the last gets a byte. -/
lemma senderFread_rank (hpoint : p.point = .fread) :
    (senderFread h os c k p).rank ≤ 3 + (4 - p.read.length) := by
  unfold senderFread
  dsimp only
  split
  · rename_i hpart
    simp only [Party.rank, hpoint]
    omega
  · rw [senderCheck_eq]
    simp only [Party.rank]
    omega

lemma callFtok_rank : (callFtok os c k p).rank ≤ 2 := by
  unfold callFtok
  split
  · exact Nat.zero_le _
  · exact le_rfl

lemma callMsgget_rank (key : Nat) : (callMsgget os c k p key).2.rank ≤ 1 := by
  unfold callMsgget
  split
  · exact Nat.zero_le _
  · dsimp only
    split
    · exact Nat.zero_le _
    · exact le_rfl

lemma callBuffer_rank (i : Nat) : (callBuffer h os c k p i).rank = 0 := by
  unfold callBuffer
  split
  · rfl
  · rfl

/-- Every call brings a process nearer to its end. -/
lemma advance_rank : (advance h os c k p).2.rank ≤ p.rank - 1 := by
  unfold advance
  cases hpoint : p.point with
  | fopen =>
    have hp : p.rank = 9 := by simp [Party.rank, hpoint]
    rw [hp]
    dsimp only
    split
    · exact ownerFopen_rank os c k p
    · exact senderFopen_rank os c k p
  | fwrite =>
    simp only [ownerFwrite]
    split
    · exact Nat.zero_le _
    · simp [Party.rank, hpoint]
  | flush rest => simp [Party.rank, hpoint]
  | fread =>
    -- a `read` that gets nothing is the last one, any other one shortens what is missing
    have hp : p.rank = 4 + (4 - p.read.length) := by simp [Party.rank, hpoint]
    have hrank := senderFread_rank h os c k p hpoint
    dsimp only
    omega
  | ftok =>
    have hp : p.rank = 3 := by simp [Party.rank, hpoint]
    rw [hp]
    exact callFtok_rank os c k p
  | msgget key =>
    have hp : p.rank = 2 := by simp [Party.rank, hpoint]
    rw [hp]
    exact callMsgget_rank os c k p key
  | buffer i => simp [callBuffer_rank]
  | returned ok error => simp [Party.rank, hpoint]
  | crashed fault => simp [Party.rank, hpoint]

end

/-- The steps of a run bring the sender nearer to its end as often as it has its turn. -/
lemma sender_rank (m : Meeting) (w : World) (as : List Action) :
    (as.foldl m.step w).sender.rank ≤ w.sender.rank - as.count .sender := by
  induction as generalizing w with
  | nil => simp
  | cons a as ih =>
    have hrest := ih (m.step w a)
    rw [List.foldl_cons]
    cases a with
    | owner =>
      rw [List.count_cons_of_ne (by decide)]
      exact hrest
    | flush n =>
      rw [List.count_cons_of_ne (by simp)]
      exact hrest
    | sender =>
      have hstep : (m.step w .sender).sender.rank ≤ w.sender.rank - 1 :=
        advance_rank m.host m.os m.sender w.kernel w.sender
      rw [List.count_cons_self]
      omega

/-- From a fresh start, a run keeps what the key file is for exactly when no `read` of the sender finds
the file at its end. -/
theorem kept_iff {m : Meeting} {k₀ : Kernel} (hfresh : Fresh m k₀) (q₁ q₂ : SystemvQueue)
    (as : List Action) :
    Kept m (.start k₀ q₁ q₂) as ↔ Along (total m.step) ReadsOn (.start k₀ q₁ q₂) as := by
  have hsafe := safe_iff (Inv.start hfresh q₁ q₂) as
  constructor
  · intro hkept
    exact hsafe.1 hkept.safe
  · intro hreads
    refine ⟨hsafe.2 hreads, ?_⟩
    intro hcount
    have hrank := sender_rank m (.start k₀ q₁ q₂) as
    have hstart : (World.start k₀ q₁ q₂).sender.rank = 9 := rfl
    exact Party.ended_of_rank (by omega)

/-- `banipd -q /tmp/banip` and a client of the same file; the stack of the client is all zeros. -/
def exampleMeeting : Meeting where
  host := Host.lp64
  os := Os.linux
  owner := ⟨true, str "/tmp/banip", 0, 0o22, calmOutcome fun _ => 0⟩
  sender := ⟨false, str "/tmp/banip", 1000, 0o22,
    { calmOutcome (fun _ => 0) with idStack := [0, 0, 0, 0] }⟩
  owns := rfl
  sends := rfl

/-- A handle of `queue_init`. -/
def newHandle : SystemvQueue := ⟨none, none, none, 0⟩

/-- The sender reads a part of the id, and the rest once it is there. -/
def lateRun : List Action :=
  [.owner, .owner, .flush 1, .sender, .sender, .flush 3, .sender, .owner, .owner, .owner, .sender,
    .sender, .sender, .owner]

theorem kept_iff_late :
    ((lateRun.foldl exampleMeeting.step
      (.start blankKernel newHandle newHandle)).sender.point = .returned true none) ∧
    Kept exampleMeeting (.start blankKernel newHandle newHandle) lateRun :=
  ⟨by decide, (kept_iff ⟨rfl, fun _ _ _ => rfl⟩ _ _ _).2 (by decide)⟩

/-- A system with a queue of another program, under the key of the first new file and the id 0. -/
def sharedKernel : Kernel :=
  ⟨Files.empty, Registry.empty.create ⟨newKey Os.linux Files.empty 0, 16384, [], 1001⟩, 16384⟩

/-- The sender comes between the owner's `fopen` and its `fwrite`. -/
def earlyRun : List Action :=
  [.owner, .sender, .sender, .sender, .sender, .sender, .owner, .flush 4, .owner, .owner, .owner,
    .owner]

def earlyEnd : World :=
  earlyRun.foldl exampleMeeting.step (.start sharedKernel newHandle newHandle)

/-- It reads nothing, takes the zeros of its stack for the id and returns `true` with the other
program's queue; the owner makes its own queue afterwards. -/
theorem empty_file_accepted :
    Fresh exampleMeeting sharedKernel ∧ earlyEnd.sender.point = .returned true none ∧
      earlyEnd.sender.read = [] ∧ earlyEnd.sender.queue.qid = some 0 ∧
      earlyEnd.owner.queue.qid = some 1 ∧
      ¬ Kept exampleMeeting (.start sharedKernel newHandle newHandle) earlyRun := by
  have hname : exampleMeeting.Split (str "/tmp/banip") (chr 'b').toInt :=
    ownerName_plain (by decide) (by decide)
  have hend : earlyEnd.sender.point = .returned true none := by decide
  have hsender : earlyEnd.sender.queue.qid = some 0 := by decide
  have howner : earlyEnd.owner.queue.qid = some 1 := by decide
  refine ⟨⟨rfl, ?_⟩, hend, by decide, hsender, howner, ?_⟩
  · intro path id hsplit
    rcases split_unique hsplit hname with ⟨-, rfl⟩
    decide
  · intro hkept
    have hattached : earlyEnd.sender.point.Attached := by
      rw [hend]
      trivial
    rcases (hkept.safe earlyRun (List.prefix_refl _)).attached hattached with ⟨i, hi, hi'⟩
    cases (hi.symm.trans hsender).symm.trans (hi'.symm.trans howner)

end Rendezvous
end SystemV
end Banip
