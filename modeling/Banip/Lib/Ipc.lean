import Banip.Lib.MessageQueue

/-!
# Ipc — System V message queues

The kernel's side of `msgget`, `msgsnd`, `msgrcv` and `msgctl`.  A key leads to a queue until the
queue is removed.  A payload is the bytes after the `long` of a `struct msgbuf`; with the message
type 0, `msgrcv` takes the oldest message whatever its type.
-/

namespace Banip
namespace Lib

def EPERM : Nat := 1

def E2BIG : Nat := 7

def EINVAL : Nat := 22

/-- A queue: its key, its capacity `msg_qbytes`, its payloads and the uid that created it. -/
structure MsgQueue where
  key : Nat
  qbytes : Nat
  msgs : List Bytes
  uid : Nat
deriving DecidableEq, Repr

/-- The queues of the system and the keys that lead to them. -/
abbrev Ipc : Type := Registry Nat MsgQueue MsgQueue.key

namespace Ipc

/-- Replace the payloads of the queue `i`. -/
def setMsgs (k : Ipc) (i : Nat) (msgs : List Bytes) : Ipc :=
  k.modify i (fun q => { q with msgs := msgs }) (fun _ => rfl)

/-! ## Calls -/

/-- `msgget`; `excl` stands for `IPC_CREAT | IPC_EXCL`, and `qbytes` is the capacity the system gives
to a new queue. -/
def msgget (k : Ipc) (key : Nat) (excl : Bool) (uid qbytes : Nat) (fails : Option Nat) :
    Except Nat (Nat × Ipc) :=
  match fails with
  | some errno => .error errno
  | none =>
    match k.names key with
    | some i => if excl then .error EEXIST else .ok (i, k)
    | none => if excl then .ok (k.next, k.create ⟨key, qbytes, [], uid⟩) else .error ENOENT

/-- `msgctl(IPC_STAT)`, for `msg_qbytes`. -/
def stat (k : Ipc) (i : Nat) (fails : Option Nat) : Except Nat Nat :=
  match fails with
  | some errno => .error errno
  | none =>
    match k.objects i with
    | none => .error EINVAL
    | some q => .ok q.qbytes

/-- `msgctl(IPC_RMID)` by a process of `uid`: root or the creator may remove a queue. -/
def rmid (k : Ipc) (i uid : Nat) (fails : Option Nat) : Except Nat Ipc :=
  match fails with
  | some errno => .error errno
  | none =>
    match k.objects i with
    | none => .error EINVAL
    | some q => if uid = 0 ∨ uid = q.uid then .ok (k.remove i) else .error EPERM

/-- The bytes a queue holds. -/
def held (q : MsgQueue) : Nat := (q.msgs.map List.length).sum

/-- `msgsnd` of a payload. -/
def msgsnd (k : Ipc) (i : Nat) (payload : Bytes) (fails : Option Nat) : Except Nat Ipc :=
  match fails with
  | some errno => .error errno
  | none =>
    match k.objects i with
    | none => .error EINVAL
    | some q =>
      if q.qbytes < payload.length then .error EINVAL
      -- a queue without room blocks the caller until a signal
      else if q.qbytes < held q + payload.length then .error EINTR
      else .ok (k.setMsgs i (q.msgs ++ [payload]))

/-- `msgsnd` for a caller that asks only whether it succeeded. -/
def offer (k : Ipc) (i : Nat) (payload : Bytes) (fails : Option Nat) : Bool × Ipc :=
  match k.msgsnd i payload fails with
  | .error _ => (false, k)
  | .ok k' => (true, k')

/-- `msgrcv` of at most `size` bytes, message type 0, no flags. -/
def msgrcv (k : Ipc) (i size : Nat) (fails : Option Nat) : Except Nat (Bytes × Ipc) :=
  match fails with
  | some errno => .error errno
  | none =>
    match k.objects i with
    | none => .error EINVAL
    | some q =>
      match q.msgs with
      | [] => .error EINTR
      -- without `MSG_NOERROR` a message that is too long stays in the queue
      | m :: msgs => if size < m.length then .error E2BIG else .ok (m, k.setMsgs i msgs)

/-! ## What a successful call did -/

/-- An exclusive `msgget` that succeeds has created the queue. -/
lemma msgget_excl_ok {k k' : Ipc} {key uid qbytes i : Nat} {fails : Option Nat}
    (h : k.msgget key true uid qbytes fails = .ok (i, k')) :
    k.names key = none ∧ i = k.next ∧ k' = k.create ⟨key, qbytes, [], uid⟩ := by
  cases fails with
  | some errno => cases h
  | none =>
    cases hname : k.names key with
    | some j => simp [msgget, hname] at h
    | none =>
      have : (k.next, k.create ⟨key, qbytes, [], uid⟩) = (i, k') := by
        simpa [msgget, hname] using h
      cases this
      exact ⟨rfl, rfl, rfl⟩

/-- A plain `msgget` that succeeds has found the queue. -/
lemma msgget_plain_ok {k k' : Ipc} {key uid qbytes i : Nat} {fails : Option Nat}
    (h : k.msgget key false uid qbytes fails = .ok (i, k')) : k.names key = some i ∧ k' = k := by
  cases fails with
  | some errno => cases h
  | none =>
    cases hname : k.names key with
    | none => simp [msgget, hname] at h
    | some j =>
      have : (j, k) = (i, k') := by simpa [msgget, hname] using h
      cases this
      exact ⟨rfl, rfl⟩

lemma msgsnd_ok {k k' : Ipc} {i : Nat} {payload : Bytes} {fails : Option Nat}
    (h : k.msgsnd i payload fails = .ok k') :
    ∃ q, k.objects i = some q ∧ payload.length ≤ q.qbytes ∧
      k' = k.setMsgs i (q.msgs ++ [payload]) := by
  cases fails with
  | some errno => cases h
  | none =>
    cases hq : k.objects i with
    | none => simp [msgsnd, hq] at h
    | some q =>
      unfold msgsnd at h
      simp only [hq] at h
      split at h
      · cases h
      · rename_i hsize
        split at h
        · cases h
        · cases h
          exact ⟨q, rfl, Nat.le_of_not_lt hsize, rfl⟩

lemma objects_setMsgs {k : Ipc} {i : Nat} {q : MsgQueue} {msgs : List Bytes}
    (hq : k.objects i = some q) : (k.setMsgs i msgs).objects i = some { q with msgs := msgs } := by
  simp [setMsgs, Registry.modify, hq]

/-- An empty queue takes any payload within its capacity. -/
lemma msgsnd_empty {k : Ipc} {i : Nat} {q : MsgQueue} {payload : Bytes} (hq : k.objects i = some q)
    (hempty : q.msgs = []) (hle : payload.length ≤ q.qbytes) :
    k.msgsnd i payload none = .ok (k.setMsgs i (q.msgs ++ [payload])) := by
  simp [msgsnd, hq, held, hempty, Nat.not_lt.2 hle]

/-- An offer is refused and changes nothing, or it appends the payload; an empty queue does not
refuse a payload within its capacity. -/
lemma offer_cases {k : Ipc} {i : Nat} {q : MsgQueue} (payload : Bytes) (fails : Option Nat)
    (hq : k.objects i = some q) :
    k.offer i payload fails = (false, k) ∧
        (fails = none → payload.length ≤ q.qbytes → q.msgs ≠ []) ∨
      k.offer i payload fails = (true, k.setMsgs i (q.msgs ++ [payload])) ∧
        payload.length ≤ q.qbytes := by
  cases hsnd : k.msgsnd i payload fails with
  | error errno =>
    refine Or.inl ⟨by simp [offer, hsnd], ?_⟩
    rintro rfl hle hempty
    simp [msgsnd_empty hq hempty hle] at hsnd
  | ok k' =>
    rcases msgsnd_ok hsnd with ⟨q', hq', hle, rfl⟩
    cases hq.symm.trans hq'
    exact Or.inr ⟨by simp [offer, hsnd], hle⟩

lemma msgrcv_ok {k k' : Ipc} {i size : Nat} {m : Bytes} {fails : Option Nat}
    (h : k.msgrcv i size fails = .ok (m, k')) :
    ∃ q msgs, k.objects i = some q ∧ q.msgs = m :: msgs ∧ m.length ≤ size ∧
      k' = k.setMsgs i msgs := by
  cases fails with
  | some errno => cases h
  | none =>
    cases hq : k.objects i with
    | none => simp [msgrcv, hq] at h
    | some q =>
      cases hmsgs : q.msgs with
      | nil => simp [msgrcv, hq, hmsgs] at h
      | cons m' msgs =>
        by_cases hsize : size < m'.length
        · simp [msgrcv, hq, hmsgs, hsize] at h
        · have : (m', k.setMsgs i msgs) = (m, k') := by
            simpa [msgrcv, hq, hmsgs, hsize] using h
          cases this
          exact ⟨q, msgs, rfl, hmsgs, Nat.le_of_not_lt hsize, rfl⟩

end Ipc

end Lib
end Banip
