import Banip.Lib.CString
import Banip.Lib.Registry

/-!
# MessageQueue — POSIX message queues

The kernel's side of `mq_open`, `mq_unlink`, `mq_send`, `mq_receive` and `mq_getattr`.  A name leads
to a queue; a descriptor keeps its queue after the name is gone.  Each call takes a `fails`
argument: an `errno` with which the kernel may refuse it for a reason outside this model (limits,
memory, permissions, a signal), and `none` when it has no such reason.

Messages of one priority leave a queue in the order of their arrival.  A blocking call that cannot
proceed returns only when a signal interrupts it.
-/

namespace Banip
namespace Lib

/-! ## Error numbers -/

def ENOENT : Nat := 2

def EINTR : Nat := 4

def EBADF : Nat := 9

def EACCES : Nat := 13

def EEXIST : Nat := 17

/-- FreeBSD's number: the code asks for it there only. -/
def ENOSYS : Nat := 78

/-- Linux's number. -/
def EMSGSIZE : Nat := 90

/-! ## State -/

/-- `struct mq_attr`.  The `long` fields are kept as the `unsigned long` of the same bits. -/
structure MqAttr where
  maxmsg : Nat
  msgsize : Nat
deriving DecidableEq, Repr

/-- A queue: its name and attributes, its messages, the uid and the handle that created it. -/
structure Mq where
  name : Bytes
  attr : MqAttr
  msgs : List Bytes
  uid : Nat
  creator : Nat
deriving DecidableEq, Repr

/-- The queues of the system and the names that lead to them. -/
abbrev MqKernel : Type := Registry Bytes Mq Mq.name

/-- An open descriptor. -/
structure Mqd where
  qid : Nat
  writable : Bool
deriving DecidableEq, Repr

namespace MqKernel

/-- Replace the messages of the queue `i`. -/
def setMsgs (k : MqKernel) (i : Nat) (msgs : List Bytes) : MqKernel :=
  k.modify i (fun q => { q with msgs := msgs }) (fun _ => rfl)

/-- The handle that created the queue a name leads to. -/
def creatorOf (k : MqKernel) (name : Bytes) : Option Nat :=
  (k.lookup name).map Mq.creator

/-! ## Calls -/

/-- `mq_open`; `excl` stands for `O_CREAT | O_EXCL`. -/
def mqOpen (k : MqKernel) (name : Bytes) (write excl : Bool) (uid creator : Nat) (attr : MqAttr)
    (fails : Option Nat) : Except Nat (Mqd × MqKernel) :=
  match fails with
  | some errno => .error errno
  | none =>
    match k.names name with
    | some i => if excl then .error EEXIST else .ok (⟨i, write⟩, k)
    | none =>
      if excl then .ok (⟨k.next, write⟩, k.create ⟨name, attr, [], uid, creator⟩)
      else .error ENOENT

/-- `mq_unlink` by a process of `uid`: root or the creator may remove a name. -/
def mqUnlink (k : MqKernel) (name : Bytes) (uid : Nat) (fails : Option Nat) :
    Except Nat MqKernel :=
  match fails with
  | some errno => .error errno
  | none =>
    match k.names name with
    | none => .error ENOENT
    | some i =>
      match k.objects i with
      | none => .error ENOENT
      | some q =>
        if uid = 0 ∨ uid = q.uid then .ok (k.unname name) else .error EACCES

/-- `mq_send` of the first `len` bytes of `mem`, at one priority. -/
def mqSend (k : MqKernel) (d : Mqd) (mem : Bytes) (len : Nat) (fails : Option Nat) :
    Except Nat MqKernel :=
  match fails with
  | some errno => .error errno
  | none =>
    match k.objects d.qid with
    | none => .error EBADF
    | some q =>
      if !d.writable then .error EBADF
      else if q.attr.msgsize < len then .error EMSGSIZE
      -- a full queue blocks the caller until a signal
      else if q.attr.maxmsg ≤ q.msgs.length then .error EINTR
      else .ok (k.setMsgs d.qid (q.msgs ++ [mem.take len]))

/-- `mq_receive` into a buffer of `size` bytes. -/
def mqReceive (k : MqKernel) (d : Mqd) (size : Nat) (fails : Option Nat) :
    Except Nat (Bytes × MqKernel) :=
  match fails with
  | some errno => .error errno
  | none =>
    match k.objects d.qid with
    | none => .error EBADF
    | some q =>
      if d.writable then .error EBADF
      else if size < q.attr.msgsize then .error EMSGSIZE
      else
        match q.msgs with
        -- an empty queue blocks the caller until a signal
        | [] => .error EINTR
        | m :: msgs => .ok (m, k.setMsgs d.qid msgs)

/-- `mq_getattr`. -/
def mqGetattr (k : MqKernel) (d : Mqd) (fails : Option Nat) : Except Nat MqAttr :=
  match fails with
  | some errno => .error errno
  | none =>
    match k.objects d.qid with
    | none => .error EBADF
    | some q => .ok q.attr

/-! ## What a successful call did -/

lemma mqGetattr_ok {k : MqKernel} {d : Mqd} {fails : Option Nat} {attr : MqAttr}
    (h : mqGetattr k d fails = .ok attr) : ∃ q, k.objects d.qid = some q ∧ q.attr = attr := by
  unfold mqGetattr at h
  cases fails with
  | some errno => cases h
  | none =>
    cases hq : k.objects d.qid with
    | none => simp [hq] at h
    | some q => exact ⟨q, rfl, by simpa [hq] using h⟩

lemma mqOpen_ok {k k' : MqKernel} {name : Bytes} {write excl : Bool} {uid creator : Nat}
    {attr : MqAttr} {fails : Option Nat} {d : Mqd}
    (h : mqOpen k name write excl uid creator attr fails = .ok (d, k')) :
    (excl = false ∧ ∃ i, k.names name = some i ∧ d = ⟨i, write⟩ ∧ k' = k) ∨
      (excl = true ∧ k.names name = none ∧ d = ⟨k.next, write⟩ ∧
        k' = k.create ⟨name, attr, [], uid, creator⟩) := by
  cases fails with
  | some errno => cases h
  | none =>
    cases hname : k.names name with
    | some i =>
      cases excl with
      | true => simp [mqOpen, hname] at h
      | false =>
        have : (⟨i, write⟩, k) = (d, k') := by simpa [mqOpen, hname] using h
        cases this
        exact Or.inl ⟨rfl, i, rfl, rfl, rfl⟩
    | none =>
      cases excl with
      | false => simp [mqOpen, hname] at h
      | true =>
        have : (⟨k.next, write⟩, k.create ⟨name, attr, [], uid, creator⟩) = (d, k') := by
          simpa [mqOpen, hname] using h
        cases this
        exact Or.inr ⟨rfl, rfl, rfl, rfl⟩

lemma mqUnlink_ok {k k' : MqKernel} {name : Bytes} {uid : Nat} {fails : Option Nat}
    (h : mqUnlink k name uid fails = .ok k') :
    ∃ i q, k.names name = some i ∧ k.objects i = some q ∧ (uid = 0 ∨ uid = q.uid) ∧
      k' = k.unname name := by
  cases fails with
  | some errno => cases h
  | none =>
    cases hname : k.names name with
    | none => simp [mqUnlink, hname] at h
    | some i =>
      cases hq : k.objects i with
      | none => simp [mqUnlink, hname, hq] at h
      | some q =>
        by_cases huid : uid = 0 ∨ uid = q.uid
        · have : k.unname name = k' := by
            simpa [mqUnlink, hname, hq, huid] using h
          exact ⟨i, q, rfl, hq, huid, this.symm⟩
        · simp [mqUnlink, hname, hq, huid] at h

lemma mqSend_ok {k k' : MqKernel} {d : Mqd} {mem : Bytes} {len : Nat} {fails : Option Nat}
    (h : mqSend k d mem len fails = .ok k') :
    ∃ q, k.objects d.qid = some q ∧ len ≤ q.attr.msgsize ∧
      k' = k.setMsgs d.qid (q.msgs ++ [mem.take len]) := by
  cases fails with
  | some errno => cases h
  | none =>
    cases hq : k.objects d.qid with
    | none => simp [mqSend, hq] at h
    | some q =>
      refine ⟨q, rfl, ?_⟩
      unfold mqSend at h
      simp only [hq] at h
      split at h
      · cases h
      · split at h
        · cases h
        · rename_i hsize
          split at h
          · cases h
          · cases h
            exact ⟨Nat.le_of_not_lt hsize, rfl⟩

lemma mqReceive_ok {k k' : MqKernel} {d : Mqd} {size : Nat} {fails : Option Nat} {m : Bytes}
    (h : mqReceive k d size fails = .ok (m, k')) :
    ∃ q msgs, k.objects d.qid = some q ∧ q.attr.msgsize ≤ size ∧ q.msgs = m :: msgs ∧
      k' = k.setMsgs d.qid msgs := by
  cases fails with
  | some errno => cases h
  | none =>
    cases hq : k.objects d.qid with
    | none => simp [mqReceive, hq] at h
    | some q =>
      unfold mqReceive at h
      simp only [hq] at h
      split at h
      · cases h
      · split at h
        · cases h
        · rename_i hsize
          cases hmsgs : q.msgs with
          | nil => simp [hmsgs] at h
          | cons m' msgs =>
            have : (m', k.setMsgs d.qid msgs) = (m, k') := by simpa [hmsgs] using h
            cases this
            exact ⟨q, msgs, rfl, Nat.le_of_not_lt hsize, hmsgs, rfl⟩

lemma objects_setMsgs {k : MqKernel} {i : Nat} {q : Mq} {msgs : List Bytes}
    (hq : k.objects i = some q) : (k.setMsgs i msgs).objects i = some { q with msgs := msgs } := by
  simp [setMsgs, Registry.modify, hq]

end MqKernel

end Lib
end Banip
