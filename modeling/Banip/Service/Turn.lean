import Banip.Daemon.Main
import Banip.Daemon.Survival

/-!
# Turn — a daemon among others on POSIX queues

What one step of a `banipd` can do to the queues of the system, and what the daemon knows at each
point of `main`: before `queue_open` its handle is as `queue_init` left it, whatever the options say;
from then on it is on a queue of its own, of which it has taken the first messages, and its buffer
has a byte more than any of them.

`Turn` says it once for all the points of `main`: a step does nothing to a queue, opens a new one, or
takes messages from the daemon's own.
-/

namespace Banip
namespace Service

open Lib Daemon

/-! ## What was sent -/

/-- A message for which the `queue_send` of a client has returned true, and the queue it went to. -/
structure Posted where
  client : Nat
  qid : Nat
  text : Bytes
deriving DecidableEq, Repr

/-- The messages that went to the queue `i`. -/
def postedTo (i : Nat) (posted : List Posted) : List Bytes :=
  (posted.filter fun m => m.qid = i).map Posted.text

/-- The message a round received, as the string that is parsed. -/
def received (x : Arrival) : Option Bytes :=
  match x.recv with
  | .ok buffer => some (cstr buffer)
  | .error _ => none

/-! ## What a daemon knows -/

/-- What a step that faults has done to the system: a round of the loop has made its
`queue_receive`. -/
def wreckage (cfg : Config) (env : Env) (sys : System) (p : Proc) : System :=
  match p.phase, p.queue, p.buffer with
  | .receive _, some q, some buffer =>
    match q.queueReceive cfg.os sys buffer p.maxMessageSize env.receive env.errno with
    | .ok r => r.kernel
    | .error _ => sys
  | _, _, _ => sys

/-- The daemon's handle is on the queue `i`. -/
def On (p : Proc) (i : Nat) : Prop := ∃ q, p.queue = some q ∧ q.qid = some i

/-- The daemon's handle, if it has one, is on POSIX queues. -/
def OnPosix (p : Proc) : Prop := ∀ q, p.queue = some q → ∃ pq, q = .posix pq

/-- The daemon has opened the queue `i`, which is `kq` now; it has taken `taken` from it, and that and
the rest is what clients have put in. -/
structure Attached (k : MqKernel) (posted : List Posted) (p : Proc) (i : Nat) (kq : Mq)
    (taken : List Bytes) : Prop where
  queue : ∃ pq : Posix.PosixQueue, p.queue = some (.posix pq) ∧ pq.mq = some ⟨i, false⟩ ∧
    pq.attr = kq.attr
  object : k.objects i = some kq
  size : kq.attr.msgsize = 1024
  fits : ∀ m ∈ kq.msgs, m.length ≤ 1024
  text : ∀ m ∈ kq.msgs, (0 : Byte) ∉ m
  history : postedTo i posted = taken ++ kq.msgs

/-- The buffer of the loop has a byte more than the longest message. -/
def Buffered (p : Proc) : Prop :=
  p.maxMessageSize = 1025 ∧ ∃ buffer, p.buffer = some buffer ∧ buffer.length = 1025

/-- The handle as `queue_init` leaves it. -/
def freshHandle : Handle := .posix ⟨none, none, Posix.defaultAttr⟩

/-- What is known of a daemon at each point of `main`. -/
def DaemonOk (cfg : Config) (k : MqKernel) (posted : List Posted) (p : Proc) : Prop :=
  match p.phase with
  | .options _ | .daemonize | .writePid | .setGroup | .openQueue => p.queue = some freshHandle
  | .allocate => ∃ i kq, Attached k posted p i kq []
  | .dropPrivileges => Buffered p ∧ ∃ i kq, Attached k posted p i kq []
  | .receive loop => Buffered p ∧ ∃ i kq xs, Attached k posted p i kq (xs.filterMap received) ∧
      exec (Daemon.round (setup cfg p)) .start xs = .ok loop
  | .exiting _ | .done => OnPosix p

/-- What a step of a daemon can do: nothing to a queue, open one of its own, or take messages from the
one it has. -/
inductive Turn (cfg : Config) (posted : List Posted) (k : MqKernel) (p : Proc) :
    MqKernel → Proc → Prop where
  | quiet {k' : MqKernel} {p' : Proc} (hobjects : k'.objects = k.objects) (hnext : k'.next = k.next)
      (hon : ∀ i, On p' i → On p i) (hok : DaemonOk cfg k' posted p') : Turn cfg posted k p k' p'
  | opened {kq : Mq} {p' : Proc} (hon : ∀ i, On p' i → i = k.next)
      (hok : DaemonOk cfg (k.create kq) posted p') : Turn cfg posted k p (k.create kq) p'
  | took {i : Nat} {msgs : List Bytes} {p' : Proc} (hi : On p i) (hon : ∀ i', On p' i' → On p i')
      (hok : DaemonOk cfg (k.setMsgs i msgs) posted p') :
      Turn cfg posted k p (k.setMsgs i msgs) p'

section

variable {cfg : Config} {env : Env} {sys : System} {k k' : MqKernel} {posted : List Posted}
  {p p' : Proc}

lemma On.of_queue {i : Nat} (hqueue : p'.queue = p.queue) (hon : On p' i) : On p i := by
  rcases hon with ⟨q, hq, hi⟩
  exact ⟨q, hqueue ▸ hq, hi⟩

lemma Attached.on {i : Nat} {kq : Mq} {taken : List Bytes} (h : Attached k posted p i kq taken) :
    On p i := by
  rcases h.queue with ⟨pq, hq, hmq, -⟩
  exact ⟨_, hq, by simp [Handle.qid, hmq]⟩

lemma onPosix_of_queue {pq : Posix.PosixQueue} (hqueue : p.queue = some (.posix pq)) : OnPosix p := by
  intro q hq
  cases hqueue.symm.trans hq
  exact ⟨pq, rfl⟩

lemma DaemonOk.onPosix (h : DaemonOk cfg k posted p) : OnPosix p := by
  unfold DaemonOk at h
  cases hphase : p.phase with
  | options _ | daemonize | writePid | setGroup | openQueue =>
    simp only [hphase] at h
    exact onPosix_of_queue h
  | allocate =>
    simp only [hphase] at h
    rcases h with ⟨i, kq, hatt⟩
    rcases hatt.queue with ⟨pq, hq, -⟩
    exact onPosix_of_queue hq
  | dropPrivileges =>
    simp only [hphase] at h
    rcases h with ⟨-, i, kq, hatt⟩
    rcases hatt.queue with ⟨pq, hq, -⟩
    exact onPosix_of_queue hq
  | receive loop =>
    simp only [hphase] at h
    rcases h with ⟨-, i, kq, xs, hatt, -⟩
    rcases hatt.queue with ⟨pq, hq, -⟩
    exact onPosix_of_queue hq
  | exiting _ | done =>
    simp only [hphase] at h
    exact h

/-- What a daemon knows depends on its own queue and on what was sent to it only. -/
lemma DaemonOk.change {posted' : List Posted} (h : DaemonOk cfg k posted p)
    (hchange : ∀ i kq taken, Attached k posted p i kq taken →
      ∃ kq', Attached k' posted' p i kq' taken) : DaemonOk cfg k' posted' p := by
  unfold DaemonOk at h ⊢
  cases hphase : p.phase with
  | options _ | daemonize | writePid | setGroup | openQueue | exiting _ | done =>
    simp only [hphase] at h
    exact h
  | allocate =>
    simp only [hphase] at h
    rcases h with ⟨i, kq, hatt⟩
    exact ⟨i, hchange i kq [] hatt⟩
  | dropPrivileges =>
    simp only [hphase] at h
    rcases h with ⟨hbuf, i, kq, hatt⟩
    exact ⟨hbuf, i, hchange i kq [] hatt⟩
  | receive loop =>
    simp only [hphase] at h
    rcases h with ⟨hbuf, i, kq, xs, hatt, hrun⟩
    rcases hchange i kq _ hatt with ⟨kq', hatt'⟩
    exact ⟨hbuf, i, kq', xs, hatt', hrun⟩

/-- Steps of others that leave the daemon's queue alone. -/
lemma DaemonOk.frame (h : DaemonOk cfg k posted p)
    (hobjects : ∀ i, On p i → k'.objects i = k.objects i) : DaemonOk cfg k' posted p := by
  refine h.change fun i kq taken hatt => ⟨kq, ?_⟩
  exact ⟨hatt.queue, (hobjects i hatt.on).trans hatt.object, hatt.size, hatt.fits, hatt.text,
    hatt.history⟩

/-! ### The points of `main` -/

/-- A step that leaves the handle alone and comes to a point before `queue_open`, or to the end. -/
lemma Turn.idle (hqueue : p.queue = some freshHandle) (hqueue' : p'.queue = p.queue)
    (hphase : (∃ todo, p'.phase = .options todo) ∨
      p'.phase ∈ [.daemonize, .writePid, .setGroup, .openQueue] ∨ ∃ how, p'.phase = .exiting how) :
    Turn cfg posted k p k p' := by
  refine .quiet rfl rfl (fun i => On.of_queue hqueue') ?_
  have hfresh : p'.queue = some freshHandle := hqueue'.trans hqueue
  unfold DaemonOk
  rcases hphase with ⟨todo, ho⟩ | hmem | ⟨how, he⟩
  · rw [ho]
    exact hfresh
  · simp only [List.mem_cons, List.not_mem_nil, or_false] at hmem
    rcases hmem with hp | hp | hp | hp
    all_goals
      rw [hp]
      exact hfresh
  · rw [he]
    exact onPosix_of_queue hfresh

/-- A step to the end that leaves the handle alone. -/
lemma Turn.leave (hok : DaemonOk cfg k posted p) (hqueue' : p'.queue = p.queue)
    (hphase : ∃ how, p'.phase = .exiting how) : Turn cfg posted k p k p' := by
  refine .quiet rfl rfl (fun i => On.of_queue hqueue') ?_
  rcases hphase with ⟨how, he⟩
  unfold DaemonOk
  rw [he]
  intro q hq
  exact hok.onPosix q (hqueue' ▸ hq)

/-- Before `queue_open` the options `-b` and `-s` have no effect on the handle. -/
lemma setAttribute_idle (attr : QueueAttr) (opt optarg : Bytes)
    (hqueue : p.queue = some freshHandle) :
    ∃ p', setAttribute cfg env p attr opt optarg = .ok p' ∧ p'.queue = p.queue := by
  unfold setAttribute
  rcases parseUlong_slot cfg.host env.errno optarg with ⟨ok, v, text, hul⟩
  rw [hul, report_of_null]
  cases ok with
  | false => exact ⟨_, rfl, rfl⟩
  | true =>
    refine ⟨_, rfl, ?_⟩
    rw [hqueue]
    rfl

lemma option_idle (o : Opt) (hqueue : p.queue = some freshHandle) :
    ∃ p', option cfg env p o = .ok p' ∧ p'.queue = p.queue := by
  cases o with
  | b optarg => exact setAttribute_idle _ _ optarg hqueue
  | s optarg => exact setAttribute_idle _ _ optarg hqueue
  | e optarg =>
    simp only [option]
    cases getEngineByName cfg optarg with
    | none => exact ⟨_, rfl, rfl⟩
    | some kind => exact ⟨_, rfl, rfl⟩
  | g group =>
    simp only [option]
    cases env.getgrnam with
    | error errno => exact ⟨_, rfl, rfl⟩
    | ok gid => exact ⟨_, rfl, rfl⟩
  | d | l _ | p _ | q _ | t _ | v | unknown => exact ⟨_, rfl, rfl⟩

lemma checkOptions_turn (hqueue : p.queue = some freshHandle) :
    Turn cfg posted k p k (checkOptions p) := by
  refine .idle hqueue ?_ ?_
  · unfold checkOptions
    split <;> rfl
  · unfold checkOptions
    split
    · exact Or.inr (Or.inr ⟨_, rfl⟩)
    · exact Or.inr (Or.inl (by simp [Proc.goto]))

lemma daemonize_turn (hqueue : p.queue = some freshHandle) :
    Turn cfg posted k p k (daemonize cfg env p) := by
  refine .idle hqueue ?_ ?_
  · unfold daemonize
    split
    · split <;> rfl
    · rfl
  · unfold daemonize
    split
    · split
      · exact Or.inr (Or.inr ⟨_, rfl⟩)
      · exact Or.inr (Or.inl (by simp))
    · exact Or.inr (Or.inl (by simp [Proc.goto]))

lemma setGroup_turn (hqueue : p.queue = some freshHandle) :
    Turn cfg posted k p k (setGroup cfg env p) := by
  refine .idle hqueue ?_ ?_
  · unfold setGroup
    split
    · rfl
    · split
      · rfl
      · split <;> rfl
  · unfold setGroup
    split
    · exact Or.inr (Or.inl (by simp [Proc.goto]))
    · split
      · exact Or.inr (Or.inr ⟨_, rfl⟩)
      · split
        · exact Or.inr (Or.inr ⟨_, rfl⟩)
        · exact Or.inr (Or.inl (by simp [Proc.goto]))

/-- Nothing was sent to a queue that does not exist yet. -/
lemma postedTo_eq_nil {i : Nat} (hposted : ∀ m ∈ posted, m.qid < i) : postedTo i posted = [] := by
  rw [postedTo, List.map_eq_nil_iff, List.filter_eq_nil_iff]
  intro m hm
  have := hposted m hm
  simp
  omega

/-- The owner's open on the handle that `queue_init` returned: it creates the name, or it fails and
leaves no descriptor. -/
lemma openFresh_cases (os : Os) (out : Posix.OpenOutcome) (uid self umask : Nat) (k : MqKernel)
    (name : Bytes) {r : Opened Posix.PosixQueue MqKernel}
    (hr : Posix.queueOpen os out uid self k umask ⟨none, none, Posix.defaultAttr⟩ name
      ⟨false, true⟩ = r) :
    r = ⟨true, ⟨some ⟨k.next, false⟩, some name, Posix.defaultAttr⟩,
        k.create ⟨name, Posix.defaultAttr, [], uid, self⟩, umask, none⟩ ∨
      (r.ok = false ∧ r.kernel = k ∧ r.queue.mq = none) := by
  have hcases : (k.names name = none ∧
      r = ⟨true, ⟨some ⟨k.next, false⟩, some name, Posix.defaultAttr⟩,
        k.create ⟨name, Posix.defaultAttr, [], uid, self⟩, umask, none⟩) ∨
      (r.ok = false ∧ r.kernel = k) := by
    rw [← hr]
    exact Posix.queueOpen_owner_cases out name rfl
  have hmq : r.ok = false → r.queue.mq = none := by
    rw [← hr]
    exact Posix.queueOpen_failed_mq out name rfl rfl
  rcases hcases with ⟨-, hcreated⟩ | ⟨hfailed, hkernel⟩
  · exact Or.inl hcreated
  · exact Or.inr ⟨hfailed, hkernel, hmq hfailed⟩

/-- `queue_open` gives the daemon a queue of its own that is empty, or the daemon ends. -/
lemma openQueue_turn (hqueue : p.queue = some freshHandle)
    (hposted : ∀ m ∈ posted, m.qid < sys.mqs.next) :
    ∃ sys' p', openQueue cfg env sys p = .ok (sys', p') ∧
      Turn cfg posted sys.mqs p sys'.mqs p' := by
  unfold openQueue
  rw [hqueue]
  simp only [freshHandle, Handle.queueOpen, ok_bind]
  generalize hr : Posix.queueOpen cfg.os env.queueOpen.posix p.uid p.pid sys.mqs p.umask
    ⟨none, none, Posix.defaultAttr⟩ (p.opts.queuename.getD []) ⟨false, true⟩ = r
  rcases openFresh_cases cfg.os env.queueOpen.posix p.uid p.pid p.umask sys.mqs _ hr with
    rfl | ⟨hfailed, hkernel, hmq⟩
  · refine ⟨_, _, rfl, .opened ?_ ?_⟩
    · rintro i ⟨q, hq, hi⟩
      cases hq
      simpa [Handle.qid] using hi.symm
    · refine ⟨sys.mqs.next, _, ⟨_, rfl, rfl, rfl⟩, Registry.create_objects_self sys.mqs _, rfl, ?_,
        ?_, ?_⟩
      · simp
      · simp
      · simpa using postedTo_eq_nil hposted
  · simp only [hfailed, hkernel]
    refine ⟨_, _, rfl, .quiet rfl rfl ?_ (onPosix_of_queue rfl)⟩
    rintro i ⟨q, hq, hi⟩
    cases hq
    simp [Handle.qid, hmq] at hi

/-- The buffer is allocated for the size of the queue and one byte more. -/
lemma allocate_turn (hphase : p.phase = .allocate) (hok : DaemonOk cfg sys.mqs posted p) :
    ∃ p', allocate cfg env sys p = .ok p' ∧ Turn cfg posted sys.mqs p sys.mqs p' := by
  have hatt := hok
  simp only [DaemonOk, hphase] at hatt
  rcases hatt with ⟨i, kq, hatt⟩
  rcases hatt.queue with ⟨pq, hqueue, hmq, hattr⟩
  have hsize : pq.attr.msgsize = 1024 := by rw [hattr, hatt.size]
  -- `++max_message_size` does not wrap
  have hlong : (1024 + 1) % 2 ^ cfg.host.longBits = 1025 := by
    rcases cfg.host.longBits_ok with hb | hb
    · simp [hb]
    · simp [hb]
  simp only [allocate, hqueue, Handle.queueGetAttribute, Posix.queueGetAttribute, hsize, hlong]
  split
  · exact ⟨_, rfl, .leave hok rfl ⟨_, rfl⟩⟩
  · cases env.engineOpen with
    | some text => exact ⟨_, rfl, .leave hok hqueue.symm ⟨_, rfl⟩⟩
    | none =>
      refine ⟨_, rfl, .quiet rfl rfl (fun i => On.of_queue hqueue.symm) ?_⟩
      refine ⟨⟨rfl, _, rfl, List.length_replicate⟩, i, kq, ⟨pq, rfl, hmq, hattr⟩, hatt.object, hatt.size,
        hatt.fits, hatt.text, hatt.history⟩

/-- The loop begins with nothing received. -/
lemma dropPrivileges_turn (hphase : p.phase = .dropPrivileges) (hok : DaemonOk cfg k posted p) :
    Turn cfg posted k p k (dropPrivileges cfg env p) := by
  have hatt := hok
  simp only [DaemonOk, hphase] at hatt
  have henter : ∀ uid, Turn cfg posted k p k { p with uid := uid, phase := .receive .start } := by
    intro uid
    rcases hatt with ⟨hbuf, i, kq, hatt⟩
    refine .quiet rfl rfl (fun i => On.of_queue rfl) ⟨hbuf, i, kq, [], ?_, rfl⟩
    exact ⟨hatt.queue, hatt.object, hatt.size, hatt.fits, hatt.text, hatt.history⟩
  unfold dropPrivileges
  split
  · split
    · exact .leave hok rfl ⟨_, rfl⟩
    · split
      · exact .leave hok rfl ⟨_, rfl⟩
      · exact henter _
  · exact henter p.uid

/-- A clean-up removes names at most. -/
lemma cleanup_turn (hposix : OnPosix p) :
    Turn cfg posted sys.mqs p (cleanup cfg env sys p).1.mqs (cleanup cfg env sys p).2 := by
  unfold cleanup
  cases hqueue : p.queue with
  | none =>
    refine .quiet rfl rfl ?_ ?_
    · rintro i ⟨q, hq, -⟩
      cases hq
    · intro q hq
      cases hq
  | some q =>
    rcases hposix q hqueue with ⟨pq, rfl⟩
    have heffect : Posix.CloseEffect sys.mqs p.uid env.closeSecond pq
        (Posix.queueClose cfg.os p.uid env.closeFirst env.closeSecond sys.mqs (some pq)) :=
      Posix.queueClose_effect _ _
    simp only [Handle.queueClose]
    generalize Posix.queueClose cfg.os p.uid env.closeFirst env.closeSecond sys.mqs (some pq) = r
      at heffect
    rcases heffect with ⟨hkernel, -, hkept⟩ | ⟨name, -, hunlink, -, hgone⟩
    · refine .quiet (by rw [hkernel]) (by rw [hkernel]) ?_ ?_
      · rintro i ⟨q, hq, hi⟩
        rcases hkept with hnone | ⟨mq, hmq, hsome⟩
        · simp [hnone] at hq
        · simp only [hsome, Option.map_some, Option.some.injEq] at hq
          subst hq
          rcases hmq with rfl | rfl
          · cases hi
          · exact ⟨_, hqueue, hi⟩
      · intro q hq
        rcases Option.map_eq_some_iff.1 hq with ⟨pq', -, rfl⟩
        exact ⟨pq', rfl⟩
    · rcases MqKernel.mqUnlink_ok hunlink with ⟨i, kq, -, -, -, hkernel⟩
      refine .quiet (by rw [hkernel]; rfl) (by rw [hkernel]; rfl) ?_ ?_
      · rintro i ⟨q, hq, -⟩
        simp [hgone] at hq
      · intro q hq
        simp [hgone] at hq

/-- The only fault of a round is that of `_error_set`. -/
lemma round_fault {cfg : Setup} {st : LoopState} {x : Arrival} {f : Fault}
    (h : Daemon.round cfg st x = .error f) : f = .invalidFree := by
  have hview : (Daemon.round cfg st x).map LoopState.view = _ := round_view st x
  rw [h] at hview
  exact Cell.exec_fault hview.symm

/-- What the `queue_receive` of a round comes to: the rest of the round is a round of the loop on `x`,
and the message of `x`, if it has one, has left the daemon's queue. -/
structure Taking (cfg : Config) (env : Env) (sys : System) (posted : List Posted) (p : Proc)
    (i : Nat) (taken : List Bytes) (q : Handle) (buffer : Bytes) (r : Received Handle System)
    (x : Arrival) : Prop where
  queue : p.queue = some q
  held : p.buffer = some buffer
  run : q.queueReceive cfg.os sys buffer p.maxMessageSize env.receive env.errno = .ok r
  same : r.queue = q
  room : r.buffer.length = 1025
  kernel : r.kernel.mqs = sys.mqs ∨ ∃ msgs, r.kernel.mqs = sys.mqs.setMsgs i msgs
  after : ∀ loop, afterReceive cfg env p loop r = Daemon.round (setup cfg p) loop x
  attached : ∃ kq, Attached r.kernel.mqs posted p i kq (taken ++ (received x).toList)

lemma taking (hstr : cfg.libc.strerror = cfg.os.strerror) (hposix : cfg.backend = .posix) {i : Nat}
    {kq : Mq} {taken : List Bytes} (hbuf : Buffered p)
    (hatt : Attached sys.mqs posted p i kq taken) (env : Env) :
    ∃ q buffer r x, Taking cfg env sys posted p i taken q buffer r x := by
  rcases hbuf with ⟨hmax, buffer, hbuffer, hlen⟩
  rcases hatt.queue with ⟨pq, hqueue, hmq, hattr⟩
  have hroom : ∀ m ∈ kq.msgs, m.length < buffer.length := by
    intro m hm
    have := hatt.fits m hm
    omega
  have hrecv : ∃ r, Posix.queueReceive cfg.os sys.mqs pq buffer buffer.length env.receive env.errno =
      .ok r ∧ _ :=
    Posix.queueReceive_string env.receive env.errno hmq hatt.object hroom (by omega)
  rcases hrecv with ⟨r, hr, hrq, hcases⟩
  have hrun : Handle.queueReceive cfg.os sys buffer p.maxMessageSize env.receive env.errno
      (.posix pq) = .ok ⟨r.read, r.buffer, .posix pq, { sys with mqs := r.kernel }, r.error⟩ := by
    rw [hmax, ← hlen]
    simp only [Handle.queueReceive, hr, ok_bind, pure_eq_ok, hrq]
  rcases hcases with ⟨hread, hkernel, hsame⟩ | ⟨m, rest, hfront, hread, hkernel, hroom', hmsg⟩
  · -- nothing was received
    rcases (Posix.queueReceive_effect hr).2.2 hread with ⟨e, herror⟩
    refine ⟨.posix pq, buffer, ⟨r.read, r.buffer, .posix pq, { sys with mqs := r.kernel }, r.error⟩,
      arrival env (.error e), hqueue, hbuffer, hrun, rfl, ?_, Or.inl hkernel, ?_, kq, ?_⟩
    · simp only [hsame, hlen]
    · intro loop
      simp only [afterReceive, hread, if_true, herror, report_some, Daemon.round, arrival, setup,
        hposix, receiveFailed, hstr]
    · simpa [received, arrival, hkernel] using hatt
  · -- the message is a string of the buffer, and the rest of the queue is what it was
    have hnul : (0 : Byte) ∉ m := hatt.text m (by simp [hfront])
    have hstring : cstr r.buffer = m := by
      rw [← List.take_append_drop (m.length + 1) r.buffer, hmsg, List.append_assoc]
      exact cstr_append_nul hnul
    have hnot : ¬ r.read = -1 := by omega
    refine ⟨.posix pq, buffer, ⟨r.read, r.buffer, .posix pq, { sys with mqs := r.kernel }, r.error⟩,
      arrival env (.ok r.buffer), hqueue, hbuffer, hrun, rfl, hroom'.trans hlen,
      Or.inr ⟨rest, hkernel⟩, ?_, { kq with msgs := rest }, ?_⟩
    · intro loop
      simp only [afterReceive, if_neg hnot, Daemon.round, arrival]
    · refine ⟨⟨pq, hqueue, hmq, hattr⟩, ?_, hatt.size, ?_, ?_, ?_⟩
      · simp only [hkernel]
        exact MqKernel.objects_setMsgs hatt.object
      · intro m' hm'
        exact hatt.fits m' (by simp [hfront, hm'])
      · intro m' hm'
        exact hatt.text m' (by simp [hfront, hm'])
      · rw [hatt.history, hfront]
        simp [received, arrival, hstring]

/-- A round takes the front message from the daemon's queue and treats it as the loop does, or it
takes none and complains. -/
lemma receiveRound_turn {loop : LoopState} (hstr : cfg.libc.strerror = cfg.os.strerror)
    (hposix : cfg.backend = .posix) (hphase : p.phase = .receive loop)
    (hok : DaemonOk cfg sys.mqs posted p) (env : Env) :
    (∃ sys' p', receiveRound cfg env sys p loop = .ok (sys', p') ∧
        Turn cfg posted sys.mqs p sys'.mqs p') ∨
      (receiveRound cfg env sys p loop = .error .invalidFree ∧
        Turn cfg posted sys.mqs p (wreckage cfg env sys p).mqs (p.goto .done)) := by
  have hatt := hok
  simp only [DaemonOk, hphase] at hatt
  rcases hatt with ⟨hbuf, i, kq, xs, hatt, hrun⟩
  rcases taking hstr hposix hbuf hatt env with ⟨q, buffer, r, x, ht⟩
  have hon : ∀ {p' : Proc}, p'.queue = some r.queue → ∀ i, On p' i → On p i := by
    intro p' hqueue' i hi
    refine On.of_queue ?_ hi
    rw [hqueue', ht.same, ht.queue]
  -- the kernel after the receive, for whatever the process has become
  have hturn : ∀ {p' : Proc}, p'.queue = some r.queue → DaemonOk cfg r.kernel.mqs posted p' →
      Turn cfg posted sys.mqs p r.kernel.mqs p' := by
    intro p' hqueue' hok'
    rcases ht.kernel with hsame | ⟨msgs, hset⟩
    · exact .quiet (by rw [hsame]) (by rw [hsame]) (hon hqueue') hok'
    · rw [hset] at hok' ⊢
      exact .took hatt.on (hon hqueue') hok'
  simp only [receiveRound, wreckage, hphase, ht.queue, ht.held, ht.run, ok_bind, ht.after]
  cases hround : Daemon.round (setup cfg p) loop x with
  | error f =>
    refine Or.inr ⟨by rw [round_fault hround]; rfl, hturn ?_ ?_⟩
    · exact ht.same ▸ ht.queue
    · intro q' hq'
      exact hok.onPosix q' hq'
  | ok loop' =>
    refine Or.inl ⟨_, _, rfl, hturn rfl ⟨⟨hbuf.1, r.buffer, rfl, ht.room⟩, i, ?_⟩⟩
    rcases ht.attached with ⟨kq', hatt'⟩
    refine ⟨kq', xs ++ [x], ⟨?_, hatt'.object, hatt'.size, hatt'.fits, hatt'.text, ?_⟩, ?_⟩
    · rcases hatt'.queue with ⟨pq, hpq, hfacts⟩
      exact ⟨pq, by rw [ht.same, ← ht.queue]; exact hpq, hfacts⟩
    · rw [hatt'.history, List.filterMap_append]
      cases hx : received x <;> simp [hx]
    · exact exec_append_ok.2 ⟨loop, hrun, exec_cons_ok.2 ⟨loop', hround, rfl⟩⟩

lemma Turn.ok (h : Turn cfg posted k p k' p') : DaemonOk cfg k' posted p' := by
  cases h with
  | quiet _ _ _ hok | opened _ hok | took _ _ hok => exact hok

lemma Turn.next_le (h : Turn cfg posted k p k' p') : k.next ≤ k'.next := by
  cases h with
  | quiet _ hnext _ _ => exact Nat.le_of_eq hnext.symm
  | opened _ _ => exact Nat.le_succ _
  | took _ _ _ => exact Nat.le_refl _

/-- The queue a daemon is on after a turn is the one it was on, or a new one. -/
lemma Turn.on {i : Nat} (h : Turn cfg posted k p k' p') (hi : On p' i) :
    On p i ∨ (i = k.next ∧ i < k'.next) := by
  cases h with
  | quiet _ _ hon _ | took _ hon _ => exact Or.inl (hon i hi)
  | opened hon _ =>
    have hnext := hon i hi
    exact Or.inr ⟨hnext, hnext ▸ Nat.lt_succ_self _⟩

/-- A turn leaves the queues of others alone. -/
lemma Turn.objects {i : Nat} (h : Turn cfg posted k p k' p') (hold : i < k.next)
    (hother : ¬ On p i) : k'.objects i = k.objects i := by
  cases h with
  | quiet hobjects _ _ _ => rw [hobjects]
  | opened _ _ => exact Function.update_of_ne (Nat.ne_of_lt hold) _ _
  | @took i' msgs p' hi _ _ =>
    refine Function.update_of_ne ?_ _ _
    rintro rfl
    exact hother hi

/-- Every step of a daemon is a turn; the only fault is that of `_error_set`, in the loop. -/
lemma run_turn (hstr : cfg.libc.strerror = cfg.os.strerror) (hposix : cfg.backend = .posix)
    (hok : DaemonOk cfg sys.mqs posted p) (hposted : ∀ m ∈ posted, m.qid < sys.mqs.next)
    (env : Env) :
    (∃ sys' p', run cfg env sys p = .ok (sys', p') ∧ Turn cfg posted sys.mqs p sys'.mqs p') ∨
      (run cfg env sys p = .error .invalidFree ∧
        Turn cfg posted sys.mqs p (wreckage cfg env sys p).mqs (p.goto .done)) := by
  have hatt := hok
  unfold DaemonOk at hatt
  unfold run
  cases hphase : p.phase with
  | options todo =>
    simp only [hphase] at hatt
    left
    cases todo with
    | nil => exact ⟨sys, checkOptions p, rfl, checkOptions_turn hatt⟩
    | cons o todo =>
      have hoption : ∃ p', option cfg env (p.goto (.options todo)) o = .ok p' ∧
          p'.queue = p.queue := option_idle o hatt
      rcases hoption with ⟨p', hopt, hqueue⟩
      refine ⟨sys, p', by simp only [hopt, ok_bind, pure_eq_ok], .idle hatt hqueue ?_⟩
      rcases (option_effect hopt).phase with hp | hp
      · exact Or.inl ⟨todo, hp⟩
      · exact Or.inr (Or.inr hp)
  | daemonize =>
    simp only [hphase] at hatt
    exact Or.inl ⟨sys, daemonize cfg env p, rfl, daemonize_turn hatt⟩
  | writePid =>
    simp only [hphase] at hatt
    exact Or.inl ⟨_, _, rfl, .idle hatt rfl (Or.inr (Or.inl (by simp [Proc.goto])))⟩
  | setGroup =>
    simp only [hphase] at hatt
    exact Or.inl ⟨sys, setGroup cfg env p, rfl, setGroup_turn hatt⟩
  | openQueue =>
    simp only [hphase] at hatt
    exact Or.inl (openQueue_turn hatt hposted)
  | allocate =>
    have hturn : ∃ p', allocate cfg env sys p = .ok p' ∧ Turn cfg posted sys.mqs p sys.mqs p' :=
      allocate_turn hphase hok
    rcases hturn with ⟨p', halloc, hturn⟩
    exact Or.inl ⟨sys, p', by simp only [halloc, ok_bind, pure_eq_ok], hturn⟩
  | dropPrivileges =>
    exact Or.inl ⟨sys, dropPrivileges cfg env p, rfl, dropPrivileges_turn hphase hok⟩
  | receive loop => exact receiveRound_turn hstr hposix hphase hok env
  | exiting how => exact Or.inl ⟨_, _, rfl, cleanup_turn hok.onPosix⟩
  | done =>
    refine Or.inl ⟨_, _, rfl, .quiet rfl rfl (fun _ hi => hi) hok⟩

end

end Service
end Banip
