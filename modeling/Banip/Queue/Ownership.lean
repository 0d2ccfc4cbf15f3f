import Banip.Queue.Posix
import Banip.Lib.Runs

/-!
# Ownership — who removes a POSIX queue's name

Any number of handles, of any number of processes, use the queues of one kernel.  A run is any
interleaving of their `queue_init`, `queue_open` and `queue_close` calls, with any outcome of the
system calls.  The state logs every removal of a name, with the handle that made it and the handle
that had created the queue.

Only a creator should remove a name, and then a queue stays reachable for as long as the handle that
created it lives.  An owner's `queue_open` that the kernel refuses breaks this: the name stays in
the handle, and the `queue_close` that must follow unlinks the queue of somebody else.
-/

namespace Banip
namespace Posix

open Lib

/-! ## The system -/

/-- A name removed by `mq_unlink`: who removed it, and who had created the queue. -/
structure Removal where
  name : Bytes
  closer : Nat
  creator : Option Nat
deriving DecidableEq, Repr

/-- The kernel, the live handles and the log of removals.  Handles are numbered as they are made. -/
structure System where
  kernel : MqKernel
  handles : Nat → Option PosixQueue
  nextHandle : Nat
  removed : List Removal

/-- A call of `queue.h` in some process, and what the environment decides in it. -/
inductive Action where
  | init (malloc : Bool)
  | openQueue (h uid umask : Nat) (name : Bytes) (flags : Flags) (out : OpenOutcome)
  | close (h uid : Nat) (closeFails unlinkFails : Option Nat)

namespace System

/-- No handle is live; those to come are numbered from `n` on. -/
def start (k : MqKernel) (n : Nat) : System := ⟨k, fun _ => none, n, []⟩

/-- The state after handle `h` became `p` and the kernel `k`. -/
def put (s : System) (h : Nat) (p : Option PosixQueue) (k : MqKernel) : System :=
  { s with kernel := k, handles := Function.update s.handles h p }

variable {s : System} {h h' : Nat} {p : Option PosixQueue} {k : MqKernel}

@[simp] lemma put_handles_self : (s.put h p k).handles h = p := by
  simp [put]

lemma put_handles_of_ne (hh : h' ≠ h) : (s.put h p k).handles h' = s.handles h' := by
  simp [put, Function.update_of_ne hh]

/-- A handle that is live after the update of a live one was live before. -/
lemma live_of_put (hlive : s.handles h ≠ none) (hne : (s.put h p k).handles h' ≠ none) :
    s.handles h' ≠ none := by
  by_cases hh : h' = h
  · exact hh ▸ hlive
  · rwa [put_handles_of_ne hh] at hne

end System

variable (os : Os)

/-- One call. -/
def step (s : System) : Action → Except Fault System
  | .init malloc =>
      match queueInit os malloc with
      | .error _ => .ok s
      | .ok q => .ok { s.put s.nextHandle (some q) s.kernel with nextHandle := s.nextHandle + 1 }
  | .openQueue h uid umask name flags out =>
      match s.handles h with
      | none => .error .nullDeref
      | some q =>
        let r := queueOpen os out uid h s.kernel umask q name flags
        .ok (s.put h (some r.queue) r.kernel)
  | .close h uid closeFails unlinkFails =>
      let r := queueClose os uid closeFails unlinkFails s.kernel (s.handles h)
      let log := (removals r.calls).map fun name => ⟨name, h, s.kernel.creatorOf name⟩
      .ok { s.put h r.queue r.kernel with removed := s.removed ++ log }

/-! ## Safety of ownership -/

/-- Names are removed by their creators only, and the queue of a live creator is reachable. -/
structure Owned (s : System) : Prop where
  removed_by_creator : ∀ r ∈ s.removed, r.creator = some r.closer
  reachable : ∀ i q, s.kernel.objects i = some q → s.handles q.creator ≠ none →
    s.kernel.names q.name = some i

/-- The kernel does not refuse the step if it is an owner's open: the name is free and `mq_open` has
no other reason to fail (or is not reached, for want of memory). -/
def NotRefused (s : System) : Action → Prop
  | .openQueue _ _ _ name flags out =>
      flags.owner = true → out.strdup = true → out.mqOpen = none ∧ s.kernel.names name = none
  | _ => True

/-- What a run without refused opens maintains: the name a handle remembers is that of a queue the
handle created. -/
structure Inv (s : System) : Prop where
  owned : Owned s
  remembered : ∀ h q n, s.handles h = some q → q.filename = some n →
    s.kernel.creatorOf n = some h
  handles_lt : ∀ h, s.handles h ≠ none → h < s.nextHandle
  creators_lt : ∀ i q, s.kernel.objects i = some q → q.creator < s.nextHandle

variable {os} {s s' : System}

lemma inv_start {k : MqKernel} {n : Nat} (hk : ∀ i q, k.objects i = some q → q.creator < n) :
    Inv (System.start k n) where
  owned := ⟨by simp [System.start], by simp [System.start]⟩
  remembered := by simp [System.start]
  handles_lt := by simp [System.start]
  creators_lt := hk

/-- A handle that was live may be replaced by one that remembers the same name or none, or freed,
when the kernel does not change. -/
lemma Inv.put_same (hinv : Inv s) {h : Nat} {q : PosixQueue} {p : Option PosixQueue}
    (hq : s.handles h = some q)
    (hp : ∀ q' n, p = some q' → q'.filename = some n → q.filename = some n) :
    Inv (s.put h p s.kernel) := by
  have hlive : ∀ h', (s.put h p s.kernel).handles h' ≠ none → s.handles h' ≠ none :=
    fun _ => System.live_of_put (by simp [hq])
  refine ⟨⟨hinv.owned.removed_by_creator, ?_⟩, ?_, ?_, hinv.creators_lt⟩
  · intro i kq hkq hcreator
    exact hinv.owned.reachable i kq hkq (hlive _ hcreator)
  · intro h' q' n hq' hn
    by_cases hh : h' = h
    · subst hh
      rw [System.put_handles_self] at hq'
      exact hinv.remembered h' q n hq (hp q' n hq' hn)
    · rw [System.put_handles_of_ne hh] at hq'
      exact hinv.remembered h' q' n hq' hn
  · intro h' hne
    exact hinv.handles_lt h' (hlive h' hne)

/-- A new handle remembers nothing. -/
lemma Inv.init (hinv : Inv s) :
    Inv { s.put s.nextHandle (some ⟨none, none, defaultAttr⟩) s.kernel with
      nextHandle := s.nextHandle + 1 } := by
  refine ⟨⟨hinv.owned.removed_by_creator, ?_⟩, ?_, ?_, ?_⟩
  · intro i kq hkq hcreator
    have hne : kq.creator ≠ s.nextHandle := Nat.ne_of_lt (hinv.creators_lt i kq hkq)
    exact hinv.owned.reachable i kq hkq
      (by simpa [System.put_handles_of_ne hne] using hcreator)
  · intro h q n hq hn
    by_cases hh : h = s.nextHandle
    · subst hh
      have : (⟨none, none, defaultAttr⟩ : PosixQueue) = q := by simpa using hq
      subst this
      cases hn
    · exact hinv.remembered h q n (by simpa [System.put_handles_of_ne hh] using hq) hn
  · intro h hne
    by_cases hh : h = s.nextHandle
    · simp [hh]
    · exact Nat.lt_succ_of_lt (hinv.handles_lt h
        (by simpa [System.put_handles_of_ne hh] using hne))
  · intro i kq hkq
    exact Nat.lt_succ_of_lt (hinv.creators_lt i kq hkq)

/-- An owner's open that creates the name. -/
lemma Inv.created (hinv : Inv s) {h uid : Nat} {q : PosixQueue} {mq : Option Mqd} {attr : MqAttr}
    {name : Bytes} (hq : s.handles h = some q) (hfree : s.kernel.names name = none) :
    Inv (s.put h (some ⟨mq, some name, attr⟩)
      (s.kernel.create ⟨name, attr, [], uid, h⟩)) := by
  have hlive : ∀ h', (s.put h (some ⟨mq, some name, attr⟩)
      (s.kernel.create ⟨name, attr, [], uid, h⟩)).handles h' ≠ none → s.handles h' ≠ none :=
    fun _ => System.live_of_put (by simp [hq])
  refine ⟨⟨hinv.owned.removed_by_creator, ?_⟩, ?_, ?_, ?_⟩
  · intro i kq hkq hcreator
    rcases Registry.create_objects_eq_some.1 hkq with ⟨rfl, rfl⟩ | hold
    · exact Registry.create_names_self s.kernel _
    · -- an older queue has another name, because this one was free
      have hnamed := hinv.owned.reachable i kq hold (hlive _ hcreator)
      have hne : kq.name ≠ name := by
        rintro rfl
        simp [hfree] at hnamed
      exact (Registry.create_names_of_ne hne).trans hnamed
  · intro h' q' n hq' hn
    by_cases hh : h' = h
    · subst hh
      have : (⟨mq, some name, attr⟩ : PosixQueue) = q' := by simpa using hq'
      subst this
      have hname : name = n := by simpa using hn
      subst hname
      exact congrArg (Option.map Mq.creator) (Registry.lookup_create_self s.kernel _)
    · have hold := hinv.remembered h' q' n
        (by simpa [System.put_handles_of_ne hh] using hq') hn
      rcases Option.map_eq_some_iff.1 hold with ⟨kn, hlookup, hcreator⟩
      have hne : n ≠ name := by
        rintro rfl
        simp [Registry.lookup, hfree] at hlookup
      exact Option.map_eq_some_iff.2
        ⟨kn, Registry.lookup_create_of_ne hne hlookup, hcreator⟩
  · intro h' hne
    exact hinv.handles_lt h' (hlive h' hne)
  · intro i kq hkq
    rcases Registry.create_objects_eq_some.1 hkq with ⟨-, rfl⟩ | hold
    · exact hinv.handles_lt h (by simp [hq])
    · exact hinv.creators_lt i kq hold

/-- A close that removes the name the handle remembers: it is the name of its own queue. -/
lemma Inv.removed (hinv : Inv s) {h : Nat} {q : PosixQueue} {name : Bytes}
    (hq : s.handles h = some q) (hname : q.filename = some name) :
    Inv { s.put h none (s.kernel.unname name) with
      removed := s.removed ++ [⟨name, h, s.kernel.creatorOf name⟩] } := by
  have hcreator := hinv.remembered h q name hq hname
  rcases Option.map_eq_some_iff.1 hcreator with ⟨kj, hlookup, hkjc⟩
  rcases Registry.lookup_eq_some.1 hlookup with ⟨j, hj, hkj⟩
  have hother : ∀ h', Function.update s.handles h none h' ≠ none → h' ≠ h ∧ s.handles h' ≠ none := by
    intro h' hne
    by_cases hh : h' = h
    · simp [hh] at hne
    · exact ⟨hh, by simpa [Function.update_of_ne hh] using hne⟩
  refine ⟨⟨?_, ?_⟩, ?_, ?_, hinv.creators_lt⟩
  · exact List.forall_mem_append.2
      ⟨hinv.owned.removed_by_creator, List.forall_mem_singleton.2 hcreator⟩
  · intro i kq hkq hlive
    rcases hother _ hlive with ⟨hne, hold⟩
    have hnamed := hinv.owned.reachable i kq hkq hold
    have hnne : kq.name ≠ name := by
      -- otherwise the name leads to two queues, with different creators
      intro heq
      rw [heq, hj] at hnamed
      cases hnamed
      have hkq' : s.kernel.objects j = some kq := hkq
      have hsame : kq = kj := by simpa [hkj] using hkq'.symm
      exact hne (hsame ▸ hkjc)
    exact (Registry.unname_names_of_ne hnne).trans hnamed
  · intro h' q' n hq' hn
    have hlive : Function.update s.handles h none h' = some q' := hq'
    rcases hother h' (by simp [hlive]) with ⟨hne, -⟩
    have hold := hinv.remembered h' q' n
      (by simpa [System.put_handles_of_ne hne] using hq') hn
    have hnne : n ≠ name := by
      rintro rfl
      exact hne (by simpa [hcreator] using hold.symm)
    simpa [System.put, MqKernel.creatorOf, Registry.lookup_unname_of_ne hnne] using hold
  · intro h' hne
    exact hinv.handles_lt h' (hother h' hne).2

/-! ## Runs -/

/-- One call that is not refused keeps the invariant. -/
lemma step_inv (a : Action) (hinv : Inv s) (hallowed : NotRefused s a)
    (hstep : step os s a = .ok s') : Inv s' := by
  cases a with
  | init malloc =>
    cases malloc with
    | false =>
      cases hstep
      exact hinv
    | true =>
      cases hstep
      exact hinv.init
  | openQueue h uid umask name flags out =>
    cases hq : s.handles h with
    | none => simp [step, hq] at hstep
    | some q =>
      have hs' : s.put h (some (queueOpen os out uid h s.kernel umask q name flags).queue)
          (queueOpen os out uid h s.kernel umask q name flags).kernel = s' := by
        simpa [step, hq] using hstep
      cases howner : flags.owner with
      | false =>
        -- a sender creates nothing and records no name
        rw [(queueOpen_sender out name howner).1] at hs'
        refine hs' ▸ hinv.put_same hq ?_
        rintro q' n ⟨rfl⟩ hn
        simpa [(queueOpen_sender out name howner).2.1] using hn
      | true =>
        cases hstrdup : out.strdup with
        | false =>
          rw [(queueOpen_strdup name howner hstrdup).2.1] at hs'
          refine hs' ▸ hinv.put_same hq ?_
          rintro q' n ⟨rfl⟩ hn
          simp [(queueOpen_strdup name howner hstrdup).2.2] at hn
        | true =>
          -- the name is recorded before `mq_open`, which is allowed to succeed here
          rcases hallowed howner hstrdup with ⟨hopen, hfree⟩
          rw [queueOpen_created howner hstrdup hopen hfree] at hs'
          exact hs' ▸ hinv.created hq hfree
  | close h uid closeFails unlinkFails =>
    cases hq : s.handles h with
    | none =>
      have hs' : s.put h none s.kernel = s' := by
        simpa [step, hq, queueClose, removals, System.put] using hstep
      have hsame : s.put h none s.kernel = s := by
        simp [System.put, ← hq]
      rw [← hs', hsame]
      exact hinv
    | some q =>
      have heffect : CloseEffect s.kernel uid unlinkFails q
          (queueClose os uid closeFails unlinkFails s.kernel (some q)) := queueClose_effect _ _
      rcases heffect with ⟨hkernel, hcalls, hp⟩ | ⟨name, hname, hunlink, hcalls, hp⟩
      -- the close got no further than the descriptor, or it removed the name
      · have hs' : s.put h (queueClose os uid closeFails unlinkFails s.kernel (some q)).queue
            s.kernel = s' := by
          simpa [step, hq, hkernel, hcalls, System.put] using hstep
        refine hs' ▸ hinv.put_same hq ?_
        rcases hp with hp | ⟨mq, -, hp⟩
        · simp [hp]
        · intro q' n hq' hn
          have : ({ q with mq := mq } : PosixQueue) = q' := by simpa [hp] using hq'
          subst this
          exact hn
      · rcases MqKernel.mqUnlink_ok hunlink with ⟨-, -, -, -, -, hk'⟩
        have hs' : { s.put h none (s.kernel.unname name) with
            removed := s.removed ++ [⟨name, h, s.kernel.creatorOf name⟩] } = s' := by
          simpa [step, hq, hcalls, hp, hk'] using hstep
        exact hs' ▸ hinv.removed hq hname

/-- In every run in which the kernel refuses no owner's open, names are removed by their creators
only, and the queue of a live creator is reachable by its name. -/
theorem run_owned (os : Os) {k : MqKernel} {n : Nat}
    (hk : ∀ i q, k.objects i = some q → q.creator < n) (as : List Action) (s : System)
    (hallowed : Along (step os) NotRefused (System.start k n) as)
    (hrun : exec (step os) (System.start k n) as = .ok s) : Owned s :=
  (exec_preserves_along (fun _ a _ hinv hP hstep => step_inv a hinv hP hstep)
    (inv_start hk) hallowed hrun).owned

/-- Root opens `/banip` as an owner, on the handle `h`. -/
def openOwner (h : Nat) : Action := .openQueue h 0 18 (str "/banip") ⟨false, true⟩ noFailure

/-- A daemon starts and stops, and a second one is started after it. -/
theorem run_owned_restart :
    Along (step Os.linux) NotRefused (System.start .empty 0)
        [.init true, openOwner 0, .close 0 0 none none, .init true, openOwner 1] ∧
      ∃ s, exec (step Os.linux) (System.start .empty 0)
        [.init true, openOwner 0, .close 0 0 none none, .init true, openOwner 1] = .ok s ∧
          Owned s := by
  have hallowed : Along (step Os.linux) NotRefused (System.start .empty 0)
      [.init true, openOwner 0, .close 0 0 none none, .init true, openOwner 1] := by
    refine ⟨trivial, ?_⟩
    rintro s₁ ⟨rfl⟩
    refine ⟨fun _ _ => ⟨rfl, rfl⟩, ?_⟩
    rintro s₂ ⟨rfl⟩
    refine ⟨trivial, ?_⟩
    rintro s₃ ⟨rfl⟩
    refine ⟨trivial, ?_⟩
    rintro s₄ ⟨rfl⟩
    exact ⟨fun _ _ => ⟨rfl, rfl⟩, fun _ _ => trivial⟩
  refine ⟨hallowed, _, rfl, ?_⟩
  exact run_owned Os.linux (by simp [Registry.empty]) _ _ hallowed rfl

/-- In general: the close that must follow a refused open of a taken name removes that name, for any
process that may remove it at all. -/
theorem queueClose_of_refused {uid uid' self umask i : Nat} {k : MqKernel} {q : PosixQueue} {kq : Mq}
    {out : OpenOutcome} {name : Bytes} {flags : Flags} (closeFails : Option Nat)
    (howner : flags.owner = true) (hstrdup : out.strdup = true) (hname : k.names name = some i)
    (hkq : k.objects i = some kq) (huid : uid' = 0 ∨ uid' = kq.uid) :
    queueClose os uid' closeFails none k
        (some (queueOpen os out uid self k umask q name flags).queue) =
      ⟨true, none, k.unname name, [.mqUnlink name true, .freeFilename, .freeHandle], none⟩ := by
  have hrefused : out.mqOpen = none → k.names name ≠ none := by
    intro _
    simp [hname]
  rw [(queueOpen_refused howner hstrdup hrefused).2.2]
  simp [queueClose, closeName, MqKernel.mqUnlink, hname, hkq, huid]

/-- A second daemon on the same name fails to open it, closes as it must, and so removes the name of
the first one's queue while the first one is still running. -/
theorem second_daemon_removes :
    ∃ s, exec (step Os.linux) (System.start .empty 0)
        [.init true, openOwner 0, .init true, openOwner 1, .close 1 0 none none] = .ok s ∧
      s.handles 0 ≠ none ∧ s.kernel.names (str "/banip") = none ∧ ¬ Owned s := by
  refine ⟨_, rfl, by decide, by decide, ?_⟩
  intro howned
  have hremoved := howned.removed_by_creator ⟨str "/banip", 1, some 0⟩ (by decide)
  cases hremoved

end Posix
end Banip
