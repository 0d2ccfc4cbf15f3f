import Banip.Queue.Posix
import Banip.Queue.SystemV
import Banip.Lib.Cleanup

/-!
# Resume — `queue_close` called until it succeeds

`queue_close` releases what the handle holds, one thing after the other, and gives up at the first
system call that fails; what it has released it forgets in the handle.  A caller may therefore call it
again, as `cleanup` does when it runs from the signal handler and again at exit.  Both backends are
clean-ups of the resources below, in the order the source releases them.
-/

namespace Banip

open Lib

universe u v w

/-- What a handle holds: the descriptor or IPC object, the name in the system, and the blocks. -/
inductive Resource where
  | object
  | name
  | filename
  | buffer
  | handle
deriving DecidableEq, Repr

/-- What a handle holds besides itself; the owner of a queue holds its name and a copy of it. -/
structure Stock where
  object : Bool
  owner : Bool
  buffer : Bool

namespace Stock

def holds (s : Stock) : Resource → Bool
  | .object => s.object
  | .name => s.owner
  | .filename => s.owner
  | .buffer => s.buffer
  | .handle => true

/-- The order in which both backends release it. -/
def inOrder (s : Stock) : List Resource :=
  (if s.object then [.object] else []) ++ (if s.owner then [.name, .filename] else []) ++
    (if s.buffer then [.buffer] else []) ++ [.handle]

lemma inOrder_nodup (s : Stock) : s.inOrder.Nodup := by
  rcases s with ⟨object, owner, buffer⟩
  revert object owner buffer
  decide

lemma mem_inOrder (s : Stock) (r : Resource) : r ∈ s.inOrder ↔ s.holds r = true := by
  cases r <;> simp [inOrder, holds]

end Stock

/-- One call of `queue_close`: who makes it, what its two system calls are made to answer, and the
kernel it finds, which others may have changed since the call before it. -/
structure CloseCall (K : Type u) where
  uid : Nat
  first : Option Nat
  second : Option Nat
  kernel : K

section

variable {Q : Type u} {K : Type v} {C : Type w} (close : Option Q → CloseCall K → Closed Q K C)

/-- `*p` after the calls. -/
def pointerAfter : Option Q → List (CloseCall K) → Option Q
  | p, [] => p
  | p, c :: cs => pointerAfter (close p c).queue cs

/-- The releases the calls attempt. -/
def releasesOf : Option Q → List (CloseCall K) → List C
  | _, [] => []
  | p, c :: cs => (close p c).calls ++ releasesOf (close p c).queue cs

/-- What `*p` holds. -/
def holds (stock : Q → Stock) : Option Q → Resource → Bool
  | none, _ => false
  | some q, r => (stock q).holds r

/-- The releases that are left to make. -/
def todo (plan : Q → Stock) : Option Q → List Resource
  | none => []
  | some q => (plan q).inOrder

/-- Calls of `queue_close` on one pointer, as many as there may be.  `event` says what a release is
about and whether it succeeded, `stock` what a handle holds. -/
structure Resumable (event : C → Resource × Bool) (stock : Q → Stock) : Prop where
  /-- What was released is not attempted again. -/
  once : ∀ p cs r ok before after,
    (releasesOf close p cs).map event = before ++ (r, true) :: after → (r, ok) ∉ after
  /-- The name is not removed before the descriptor or the IPC object. -/
  order : ∀ p cs ok before after,
    (releasesOf close p cs).map event = before ++ (Resource.name, ok) :: after →
    holds stock p .object = true → (Resource.object, true) ∈ before
  /-- A call that returns true leaves NULL, and every block has been freed once. -/
  freed : ∀ p cs c, (close (pointerAfter close p cs) c).ok = true →
    (close (pointerAfter close p cs) c).queue = none ∧
      ∀ r ∈ [Resource.filename, .buffer, .handle],
        ((releasesOf close p (cs ++ [c])).map event).count (r, true) =
          if holds stock p r = true then 1 else 0
  /-- Every later call does nothing and returns true. -/
  noop : ∀ p cs c cs' c', (close (pointerAfter close p cs) c).ok = true →
    close (pointerAfter close p (cs ++ c :: cs')) c' = ⟨true, none, c'.kernel, [], none⟩

variable {close}

lemma pointerAfter_append (p : Option Q) (cs cs' : List (CloseCall K)) :
    pointerAfter close p (cs ++ cs') = pointerAfter close (pointerAfter close p cs) cs' := by
  induction cs generalizing p with
  | nil => rfl
  | cons c cs ih => exact ih _

/-- A call that works through what `p` holds, and returns true only when it has come to the end. -/
def Advances (event : C → Resource × Bool) (plan : Q → Stock) (p : Option Q) (calls : List C)
    (r : Closed Q K C) : Prop :=
  Attempts (todo plan p) (calls.map event) (todo plan r.queue) ∧ (r.ok = true → r.queue = none)

/-- What one call does with its resources carries over to any number of calls. -/
lemma attempts_releasesOf {event : C → Resource × Bool} {plan : Q → Stock}
    (hcall : ∀ p c, Advances event plan p (close p c).calls (close p c)) (p : Option Q)
    (cs : List (CloseCall K)) :
    Attempts (todo plan p) ((releasesOf close p cs).map event)
      (todo plan (pointerAfter close p cs)) := by
  induction cs generalizing p with
  | nil => exact .nil _
  | cons c cs ih =>
    rw [releasesOf, List.map_append]
    exact (hcall p c).1.trans (ih _)

lemma pointerAfter_null (hnull : ∀ c, close none c = ⟨true, none, c.kernel, [], none⟩)
    (cs : List (CloseCall K)) : pointerAfter close none cs = none := by
  induction cs with
  | nil => rfl
  | cons c cs ih =>
    rw [pointerAfter, hnull]
    exact ih

/-- A close whose calls all advance is resumable, if it plans to release every block the handle holds
and an owner's object. -/
theorem resumable_of_advances {event : C → Resource × Bool} {stock plan : Q → Stock}
    (hcall : ∀ p c, Advances event plan p (close p c).calls (close p c))
    (hnull : ∀ c, close none c = ⟨true, none, c.kernel, [], none⟩)
    (howner : ∀ q, (plan q).owner = (stock q).owner)
    (hbuffer : ∀ q, (plan q).buffer = (stock q).buffer)
    (hobject : ∀ q, (stock q).owner = true → (stock q).object = true → (plan q).object = true) :
    Resumable close event stock := by
  have hnodup : ∀ p, (todo plan p).Nodup := by
    rintro (_ | q)
    · exact List.nodup_nil
    · exact (plan q).inOrder_nodup
  refine ⟨?_, ?_, ?_, ?_⟩
  · intro p cs r ok before after hlog
    exact (attempts_releasesOf hcall p cs).once (hnodup p) hlog
  · intro p cs ok before after hlog hholds
    have hrun := attempts_releasesOf hcall p cs
    have hattempt : (Resource.name, ok) ∈ (releasesOf close p cs).map event := by
      simp [hlog]
    have hname : .name ∈ todo plan p := hrun.mem_todo hattempt
    cases p with
    | none => cases hname
    | some q =>
      -- the name is attempted, so the handle is an owner's and its plan starts with the object
      have how : (plan q).owner = true := ((plan q).mem_inOrder .name).1 hname
      have hob : (plan q).object = true := hobject q ((howner q).symm.trans how) hholds
      have hcut : todo plan (some q) =
          [.object] ++ .name :: ([.filename] ++ (if (plan q).buffer then [.buffer] else []) ++
            [.handle]) := by
        simp [todo, Stock.inOrder, how, hob]
      exact hrun.released_before (hnodup _) hcut hlog List.mem_cons_self
  · intro p cs c htrue
    have hqueue := (hcall _ _).2 htrue
    refine ⟨hqueue, ?_⟩
    have hrun := attempts_releasesOf hcall p (cs ++ [c])
    rw [pointerAfter_append, pointerAfter, pointerAfter, hqueue] at hrun
    intro r hr
    have hheld : r ∈ todo plan p ↔ holds stock p r = true := by
      cases p with
      | none => simp [todo, holds]
      | some q =>
        rw [todo, Stock.mem_inOrder]
        simp only [List.mem_cons, List.not_mem_nil, or_false] at hr
        rcases hr with rfl | rfl | rfl
        · simp [holds, Stock.holds, howner]
        · simp [holds, Stock.holds, hbuffer]
        · simp [holds, Stock.holds]
    rw [hrun.count_released (hnodup p)]
    simp only [hheld]
  · intro p cs c cs' c' htrue
    rw [pointerAfter_append, pointerAfter, (hcall _ _).2 htrue, pointerAfter_null hnull, hnull]

end

/-! ## The POSIX backend -/

namespace Posix

/-- What a release is about. -/
def Release.event : Release → Resource × Bool
  | .mqClose ok => (.object, ok)
  | .mqUnlink _ ok => (.name, ok)
  | .freeFilename => (.filename, true)
  | .freeHandle => (.handle, true)

def close (os : Os) (p : Option PosixQueue) (c : CloseCall MqKernel) :
    Closed PosixQueue MqKernel Release :=
  queueClose os c.uid c.first c.second c.kernel p

def stock (q : PosixQueue) : Stock := ⟨q.mq.isSome, q.filename.isSome, false⟩

variable (os : Os)

lemma closeName_advances (uid : Nat) (fails : Option Nat) (k : MqKernel) {q : PosixQueue}
    (hmq : q.mq = none) (done : List Release) :
    ∃ calls, (closeName os uid fails k q done).calls = done ++ calls ∧
      Advances Release.event stock (some q) calls (closeName os uid fails k q done) := by
  unfold closeName Advances
  cases hname : q.filename with
  | none =>
    have htodo : todo stock (some q) = [.handle] := by
      simp [todo, stock, hmq, hname, Stock.inOrder]
    rw [htodo]
    exact ⟨[.freeHandle], rfl, .released (.nil _), fun _ => rfl⟩
  | some name =>
    have htodo : todo stock (some q) = [.name, .filename, .handle] := by
      simp [todo, stock, hmq, hname, Stock.inOrder]
    dsimp only
    cases k.mqUnlink name uid fails with
    | error errno =>
      dsimp only
      rw [htodo]
      exact ⟨[.mqUnlink name false], rfl, .failed (.nil _), by simp⟩
    | ok k' =>
      rw [htodo]
      exact ⟨[.mqUnlink name true, .freeFilename, .freeHandle], rfl,
        .released (.released (.released (.nil _))), fun _ => rfl⟩

lemma close_advances (p : Option PosixQueue) (c : CloseCall MqKernel) :
    Advances Release.event stock p (close os p c).calls (close os p c) := by
  unfold close queueClose
  cases p with
  | none => exact ⟨.nil _, fun _ => rfl⟩
  | some q =>
    rcases q with ⟨mq, filename, attr⟩
    -- with the descriptor closed, what is left is the name's part
    have hname := closeName_advances os c.uid c.second c.kernel (q := ⟨none, filename, attr⟩) rfl
    cases mq with
    | none =>
      rcases hname [] with ⟨calls, hcalls, hrun⟩
      dsimp only
      rw [hcalls]
      exact hrun
    | some d =>
      dsimp only
      cases c.first with
      | some errno => exact ⟨.failed (.nil _), by simp⟩
      | none =>
        rcases hname [.mqClose true] with ⟨calls, hcalls, hrun, hok⟩
        dsimp only
        rw [hcalls]
        exact ⟨.released hrun, hok⟩

lemma close_resumable : Resumable (close os) Release.event stock :=
  resumable_of_advances (close_advances os) (fun _ => rfl) (fun _ => rfl) (fun _ => rfl)
    (fun _ _ hobject => hobject)

/-- A call whose `mq_close` and `mq_unlink` succeed returns true, whatever the calls before it left. -/
theorem close_succeeds {p : Option PosixQueue} {c : CloseCall MqKernel} (hclose : c.first = none)
    (hunlink : ∀ q name, p = some q → q.filename = some name →
      ∃ k, c.kernel.mqUnlink name c.uid c.second = .ok k) :
    (close os p c).ok = true := by
  cases p with
  | none => rfl
  | some q =>
    rcases q with ⟨mq, filename, attr⟩
    have hname : ∀ done, (closeName os c.uid c.second c.kernel ⟨none, filename, attr⟩ done).ok =
        true := by
      intro done
      cases filename with
      | none => rfl
      | some name =>
        rcases hunlink _ name rfl rfl with ⟨k, hk⟩
        simp only [closeName, hk]
    cases mq with
    | none => exact hname []
    | some d =>
      simp only [close, queueClose, hclose]
      exact hname _

end Posix

/-! ## The System V backend -/

namespace SystemV

/-- What a release is about. -/
def Release.event : Release → Resource × Bool
  | .rmid _ ok => (.object, ok)
  | .unlink _ ok => (.name, ok)
  | .freeFilename => (.filename, true)
  | .freeBuffer => (.buffer, true)
  | .freeHandle => (.handle, true)

def close (os : Os) (p : Option SystemvQueue) (c : CloseCall Kernel) :
    Closed SystemvQueue Kernel Release :=
  queueClose os c.uid c.first c.second c.kernel p

def stock (q : SystemvQueue) : Stock := ⟨q.qid.isSome, q.filename.isSome, q.buffer.isSome⟩

/-- A handle that is not the owner's leaves the IPC object alone. -/
def plan (q : SystemvQueue) : Stock :=
  { stock q with object := q.filename.isSome && q.qid.isSome }

variable (os : Os)

lemma closeBuffer_advances (k : Kernel) {q : SystemvQueue} (hname : q.filename = none)
    (done : List Release) :
    ∃ calls, (closeBuffer k q done).calls = done ++ calls ∧
      Advances Release.event plan (some q) calls (closeBuffer k q done) := by
  unfold closeBuffer Advances
  cases hbuffer : q.buffer with
  | none =>
    have htodo : todo plan (some q) = [.handle] := by
      simp [todo, plan, stock, hname, hbuffer, Stock.inOrder]
    rw [htodo]
    exact ⟨[.freeHandle], rfl, .released (.nil _), fun _ => rfl⟩
  | some area =>
    have htodo : todo plan (some q) = [.buffer, .handle] := by
      simp [todo, plan, stock, hname, hbuffer, Stock.inOrder]
    rw [htodo]
    exact ⟨[.freeBuffer, .freeHandle], rfl, .released (.released (.nil _)), fun _ => rfl⟩

lemma closeFile_advances (uid : Nat) (fails : Option Nat) (k : Kernel) {q : SystemvQueue}
    {filename : Bytes} (hqid : q.qid = none) (hname : q.filename = some filename)
    (done : List Release) :
    ∃ calls, (closeFile os uid fails k q filename done).calls = done ++ calls ∧
      Advances Release.event plan (some q) calls (closeFile os uid fails k q filename done) := by
  have htodo : todo plan (some q) =
      .name :: .filename :: todo plan (some { q with filename := none }) := by
    simp [todo, plan, stock, hqid, hname, Stock.inOrder]
  unfold closeFile
  cases k.files.unlink filename uid fails with
  | error errno =>
    refine ⟨[.unlink filename false], rfl, ?_, by simp⟩
    dsimp only
    rw [htodo]
    exact .failed (.nil _)
  | ok files =>
    have hbuffer := closeBuffer_advances { k with files := files }
      (q := { q with filename := none }) rfl
      (done ++ [.unlink filename true, .freeFilename])
    rcases hbuffer with ⟨calls, hcalls, hrun, hok⟩
    refine ⟨.unlink filename true :: .freeFilename :: calls, ?_, ?_, hok⟩
    · rw [hcalls, List.append_assoc]
      rfl
    · rw [htodo]
      exact .released (.released hrun)

lemma close_advances (p : Option SystemvQueue) (c : CloseCall Kernel) :
    Advances Release.event plan p (close os p c).calls (close os p c) := by
  unfold close queueClose
  cases p with
  | none => exact ⟨.nil _, fun _ => rfl⟩
  | some q =>
    rcases q with ⟨qid, buffer, filename, bufferSize⟩
    cases filename with
    -- a sender's queue id is not released: only an owner removes the queue
    | none =>
      rcases closeBuffer_advances c.kernel (q := ⟨qid, buffer, none, bufferSize⟩) rfl [] with
        ⟨calls, hcalls, hrun⟩
      dsimp only
      rw [hcalls]
      exact hrun
    | some filename =>
      have hfile := fun k => closeFile_advances os c.uid c.second k
        (q := ⟨none, buffer, some filename, bufferSize⟩) rfl rfl
      cases qid with
      | none =>
        rcases hfile c.kernel [] with ⟨calls, hcalls, hrun⟩
        dsimp only
        rw [hcalls]
        exact hrun
      | some i =>
        dsimp only
        cases c.kernel.ipc.rmid i c.uid c.first with
        | error errno => exact ⟨.failed (.nil _), by simp⟩
        | ok ipc =>
          rcases hfile { c.kernel with ipc := ipc } [.rmid i true] with ⟨calls, hcalls, hrun, hok⟩
          dsimp only
          rw [hcalls]
          exact ⟨.released hrun, hok⟩

lemma close_resumable : Resumable (close os) Release.event stock := by
  refine resumable_of_advances (close_advances os) (fun _ => rfl) (fun _ => rfl) (fun _ => rfl) ?_
  intro q howner hobject
  exact Bool.and_eq_true_iff.2 ⟨howner, hobject⟩

/-- A call whose `msgctl` and `unlink` succeed returns true, whatever the calls before it left. -/
theorem close_succeeds {p : Option SystemvQueue} {c : CloseCall Kernel}
    (hrmid : ∀ q i, p = some q → q.qid = some i →
      ∃ ipc, c.kernel.ipc.rmid i c.uid c.first = .ok ipc)
    (hunlink : ∀ q filename, p = some q → q.filename = some filename →
      ∃ files, c.kernel.files.unlink filename c.uid c.second = .ok files) :
    (close os p c).ok = true := by
  have hbuffer : ∀ k q calls, (closeBuffer k q calls).ok = true := by
    intro k q calls
    unfold closeBuffer
    split <;> rfl
  cases p with
  | none => rfl
  | some q =>
    simp only [close, queueClose]
    cases hname : q.filename with
    | none => exact hbuffer _ _ _
    | some filename =>
      rcases hunlink q filename rfl hname with ⟨files, hfiles⟩
      cases hqid : q.qid with
      | none =>
        simp only [closeFile, hfiles]
        exact hbuffer _ _ _
      | some i =>
        rcases hrmid q i rfl hqid with ⟨ipc, hipc⟩
        simp only [hipc, closeFile, hfiles]
        exact hbuffer _ _ _

end SystemV

/-- Calls of `queue_close` on one pointer, of either backend and whatever the handle holds, are
resumable. -/
theorem queueClose_resumable (os : Os) :
    Resumable (Posix.close os) Posix.Release.event Posix.stock ∧
      Resumable (SystemV.close os) SystemV.Release.event SystemV.stock :=
  ⟨Posix.close_resumable os, SystemV.close_resumable os⟩

end Banip
