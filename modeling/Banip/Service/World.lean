import Banip.Client.Vmod
import Banip.Daemon.Context
import Banip.Service.Turn

/-!
# World — `banipd`, `banip-cli` and the Varnish module on one machine

Any number of daemons and of clients run on one system with POSIX queues, in any interleaving, with
any outcomes of their system calls and signals at any time.  The daemons are the processes of
`Daemon.Main`, with the contexts of their engines; a client is a `banip-cli` or an object of the
Varnish module.  A process that faults is gone, and the others go on.

The results say what the parts come to together.  A daemon in its loop has received exactly the
messages that clients were told they had sent to its queue, in their order, up to those that are
still in the queue, and has handled each of them as the loop of `Daemon.Loop` does.  A `banip-cli`
prints `OK` if and only if one of its steps has put its message into the queue it was given, and no
other step of it touches a queue.  No process accesses memory out of bounds; what ends a process
before its time is two reports without a complaint between them, the context of the ipset engine,
or, in Varnish, an assertion or a null pointer.
-/

namespace Banip
namespace Service

open Lib Daemon

/-! ## The processes -/

/-- A client: a process, an object of the Varnish module (under the uid of Varnish, and `none` once it
is finished), or one that is gone. -/
inductive Member where
  | cli (c : Client.Cli)
  | vmod (uid : Nat) (obj : Option Client.Mqueue)
  | dead

/-- Who is ended: a daemon in `main`, a daemon in its clean-up, a client. -/
inductive Agent where
  | daemon
  | cleanup (kind : EngineKind)
  | cli
  | vmod
deriving DecidableEq, Repr

/-- The system, its processes by numbers of our own, the contexts of the daemons, the messages sent so
far, and the processes that did not come to an end of their own. -/
structure World where
  sys : System
  daemons : Nat → Option Proc
  ctxts : Nat → Ctxt
  clients : Nat → Option Member
  posted : List Posted
  stops : List (Agent × Client.Stop)

inductive Action where
  | startDaemon (j uid pid umask argc : Nat) (argv : List Opt) (malloc : Bool)
  | runDaemon (j : Nat) (env : Env)
  | signal (j : Nat) (sig : Signal) (env : Env)
  | startCli (j uid pid umask : Nat) (argv : List CText)
  | runCli (j : Nat) (env : Client.Env)
  | vmodInit (j uid pid umask : Nat) (alloc : Bool) (vsl : Client.Vsl) (name : Bytes)
      (env : Client.Env)
  | vmodSendmsg (j : Nat) (vsl : Client.Vsl) (message : Option CText) (env : Client.Env)
  | vmodFini (j : Nat) (env : Client.Env)

namespace World

def start (sys : System) : World := ⟨sys, fun _ => none, fun _ => .null, fun _ => none, [], []⟩

def setDaemon (w : World) (j : Nat) (p : Proc) (c : Ctxt) : World :=
  { w with
    daemons := Function.update w.daemons j (some p)
    ctxts := Function.update w.ctxts j c }

def setClient (w : World) (j : Nat) (c : Member) : World :=
  { w with clients := Function.update w.clients j (some c) }

/-- A process is gone before its time. -/
def stop (w : World) (a : Agent) (s : Client.Stop) : World := { w with stops := w.stops ++ [(a, s)] }

/-- What the client `j` has done to the system. -/
def after (w : World) (j : Nat) (sys : System) (sent : Option (Nat × Bytes)) : World :=
  { w with
    sys := sys
    posted := w.posted ++ sent.toList.map fun m => ⟨j, m.1, m.2⟩ }

/-- Where a daemon faults. -/
def faulty (p : Proc) : Agent :=
  match p.phase with
  | .exiting _ => .cleanup p.opts.engine
  | _ => .daemon

/-- One step of one process.  A number is used once. -/
def step (cfg : Config) (w : World) : Action → World
  | .startDaemon j uid pid umask argc argv malloc =>
    match w.daemons j with
    | some _ => w
    | none => w.setDaemon j (Daemon.start cfg uid pid umask argc argv malloc) .null
  | .runDaemon j env =>
    match w.daemons j with
    | none => w
    | some p =>
      match (w.ctxts j).run cfg env w.sys p with
      | .ok (sys, p') => { w.setDaemon j p' ((w.ctxts j).after p p') with sys := sys }
      | .error f =>
          { (w.setDaemon j (p.goto .done) (w.ctxts j)).stop (faulty p) (.fault f) with
            sys := wreckage cfg env w.sys p }
  | .signal j sig env =>
    match w.daemons j with
    | none => w
    | some p =>
      match (w.ctxts j).onSignal cfg env w.sys p sig with
      | .ok (sys, p') => { w.setDaemon j p' (w.ctxts j) with sys := sys }
      | .error f =>
          (w.setDaemon j (p.goto .done) (w.ctxts j)).stop (.cleanup p.opts.engine) (.fault f)
  | .startCli j uid pid umask argv =>
    match w.clients j with
    | some _ => w
    | none => w.setClient j (.cli (.launch uid pid umask argv))
  | .runCli j env =>
    match w.clients j with
    | some (.cli c) =>
      match c.step cfg env w.sys with
      | .ok out => (w.setClient j (.cli out.client)).after j out.kernel out.sent
      | .error f => (w.setClient j .dead).stop .cli (.fault f)
    | _ => w
  | .vmodInit j uid pid umask alloc vsl name env =>
    match w.clients j with
    | some _ => w
    | none =>
      match Client.vmodInit cfg env alloc uid pid umask w.sys vsl name with
      | .ok (sys, _, obj) => (w.setClient j (.vmod uid (some obj))).after j sys none
      | .error s => (w.setClient j .dead).stop .vmod s
  | .vmodSendmsg j vsl message env =>
    match w.clients j with
    | some (.vmod uid (some obj)) =>
      match Client.vmodSendmsg cfg env w.sys vsl obj message with
      | .ok (_, out) => (w.setClient j (.vmod uid (some out.client))).after j out.kernel out.sent
      | .error s => (w.setClient j .dead).stop .vmod s
    | _ => w
  | .vmodFini j env =>
    match w.clients j with
    | some (.vmod uid (some obj)) =>
        (w.setClient j (.vmod uid none)).after j (Client.vmodFini cfg env uid w.sys obj) none
    | _ => w

end World

/-! ## The invariant -/

/-- The messages are shorter than `2 ^ 31` bytes. -/
def Action.Short : Action → Prop
  | .startCli _ _ _ _ argv => ∀ s ∈ argv, s.val.length < 2 ^ 31
  | .vmodSendmsg _ _ message _ => ∀ msg ∈ message, msg.val.length < 2 ^ 31
  | _ => True

instance (a : Action) : Decidable a.Short :=
  match a with
  | .startCli _ _ _ _ argv => inferInstanceAs (Decidable (∀ s ∈ argv, s.val.length < 2 ^ 31))
  | .vmodSendmsg _ _ message _ =>
      inferInstanceAs (Decidable (∀ msg ∈ message, msg.val.length < 2 ^ 31))
  | .startDaemon _ _ _ _ _ _ _ | .runDaemon _ _ | .signal _ _ _ | .runCli _ _
  | .vmodInit _ _ _ _ _ _ _ _ | .vmodFini _ _ => isTrue trivial

/-- The ways in which a process may end before its time: the invalid free of `_error_set`, that of the
context of ipset, and in Varnish an assertion or a null pointer. -/
def Explained : Agent × Client.Stop → Prop
  | (.daemon, s) | (.cli, s) => s = .fault .invalidFree
  | (.cleanup kind, s) => kind = .ipset ∧ s = .fault .invalidFree
  | (.vmod, s) => s.Plain

/-- The context is the address 1 from `engine->open` on, and with the ipset engine only. -/
structure CtxtOk (c : Ctxt) (p : Proc) : Prop where
  engine : c = .one → p.opts.engine = .ipset
  past : c = .one → ¬ Teardown.Early p.phase
  late : Teardown.Late p.phase → p.opts.engine = .ipset → c = .one

/-- What is known of a client. -/
def ClientOk : Member → Prop
  | .cli c => (∃ ts, c.Ok ts) ∧ c.message.length < 2 ^ 31
  | .vmod _ obj => ∀ o ∈ obj, Client.Sender o.queue
  | .dead => True

/-- The invariant: no two daemons are on one queue, and the log names queues that exist. -/
structure Inv (cfg : Config) (w : World) : Prop where
  daemons : ∀ j p, w.daemons j = some p → DaemonOk cfg w.sys.mqs w.posted p
  ctxts : ∀ j p, w.daemons j = some p → CtxtOk (w.ctxts j) p
  owned : ∀ j p i, w.daemons j = some p → On p i → i < w.sys.mqs.next
  apart : ∀ j j' p p' i, w.daemons j = some p → w.daemons j' = some p' → On p i → On p' i → j = j'
  clients : ∀ j c, w.clients j = some c → ClientOk c
  numbered : ∀ m ∈ w.posted, m.qid < w.sys.mqs.next
  stops : ∀ s ∈ w.stops, Explained s

section

variable {cfg : Config} {w : World}

lemma Inv.start (cfg : Config) (sys : System) : Inv cfg (World.start sys) where
  daemons := by simp [World.start]
  ctxts := by simp [World.start]
  owned := by simp [World.start]
  apart := by simp [World.start]
  clients := by simp [World.start]
  numbered := by simp [World.start]
  stops := by simp [World.start]

/-- The daemons after a step of `j`. -/
lemma setDaemon_cases {j j' : Nat} {p p' : Proc}
    (h : Function.update w.daemons j (some p') j' = some p) :
    (j' = j ∧ p = p') ∨ (j' ≠ j ∧ w.daemons j' = some p) := by
  by_cases hj : j' = j
  · subst hj
    simp only [Function.update_self, Option.some.injEq] at h
    exact Or.inl ⟨rfl, h.symm⟩
  · simp only [Function.update_of_ne hj] at h
    exact Or.inr ⟨hj, h⟩

/-- Their contexts. -/
lemma ctxts_setDaemon {j j' : Nat} {p p' : Proc} {c : Ctxt}
    (hctxts : ∀ j p, w.daemons j = some p → CtxtOk (w.ctxts j) p) (hc : CtxtOk c p')
    (h : Function.update w.daemons j (some p') j' = some p) :
    CtxtOk (Function.update w.ctxts j c j') p := by
  rcases setDaemon_cases h with ⟨rfl, rfl⟩ | ⟨hne, hold⟩
  · rwa [Function.update_self]
  · rw [Function.update_of_ne hne]
    exact hctxts j' p hold

lemma setClient_cases {j j' : Nat} {c c' : Member} (h : (w.setClient j c').clients j' = some c) :
    (j' = j ∧ c = c') ∨ (j' ≠ j ∧ w.clients j' = some c) := by
  by_cases hj : j' = j
  · subst hj
    simp only [World.setClient, Function.update_self, Option.some.injEq] at h
    exact Or.inl ⟨rfl, h.symm⟩
  · simp only [World.setClient, Function.update_of_ne hj] at h
    exact Or.inr ⟨hj, h⟩

/-- A daemon that is started. -/
lemma Inv.launch (hinv : Inv cfg w) {j : Nat} {p : Proc} {c : Ctxt}
    (hok : DaemonOk cfg w.sys.mqs w.posted p) (hc : CtxtOk c p) (hoff : ∀ i, ¬ On p i) :
    Inv cfg (w.setDaemon j p c) := by
  refine ⟨fun j' p' hp' => ?_, fun j' p' hp' => ?_, fun j' p' i hp' hi => ?_,
    fun j₁ j₂ p₁ p₂ i h₁ h₂ hi₁ hi₂ => ?_, hinv.clients, hinv.numbered, hinv.stops⟩
  · rcases setDaemon_cases hp' with ⟨-, rfl⟩ | ⟨-, hold⟩
    · exact hok
    · exact hinv.daemons j' p' hold
  · exact ctxts_setDaemon hinv.ctxts hc hp'
  · rcases setDaemon_cases hp' with ⟨-, rfl⟩ | ⟨-, hold⟩
    · exact absurd hi (hoff i)
    · exact hinv.owned j' p' i hold hi
  · rcases setDaemon_cases h₁ with ⟨-, rfl⟩ | ⟨-, hold₁⟩
    · exact absurd hi₁ (hoff i)
    · rcases setDaemon_cases h₂ with ⟨-, rfl⟩ | ⟨-, hold₂⟩
      · exact absurd hi₂ (hoff i)
      · exact hinv.apart j₁ j₂ p₁ p₂ i hold₁ hold₂ hi₁ hi₂

/-- A turn of the daemon `j`. -/
lemma Inv.turn (hinv : Inv cfg w) {j : Nat} {p p' : Proc} {c : Ctxt} {sys' : System}
    (hp : w.daemons j = some p) (hturn : Turn cfg w.posted w.sys.mqs p sys'.mqs p')
    (hc : CtxtOk c p') : Inv cfg { w.setDaemon j p' c with sys := sys' } := by
  have hnext := hturn.next_le
  -- a queue of the daemon `j` is not that of another one
  have hfresh : ∀ j' p₂ i, j' ≠ j → w.daemons j' = some p₂ → On p₂ i → ¬ On p' i := by
    intro j' p₂ i hne hp₂ hi hi'
    rcases hturn.on hi' with hold | ⟨hi', -⟩
    · exact hne (hinv.apart j' j p₂ p i hp₂ hp hi hold)
    · exact Nat.ne_of_lt (hinv.owned j' p₂ i hp₂ hi) hi'
  refine ⟨fun j' p₂ hp₂ => ?_, fun j' p₂ hp₂ => ?_, fun j' p₂ i hp₂ hi => ?_,
    fun j₁ j₂ p₁ p₂ i h₁ h₂ hi₁ hi₂ => ?_, hinv.clients,
    fun m hm => Nat.lt_of_lt_of_le (hinv.numbered m hm) hnext, hinv.stops⟩
  · rcases setDaemon_cases hp₂ with ⟨-, rfl⟩ | ⟨hne, hold⟩
    · exact hturn.ok
    · refine (hinv.daemons j' p₂ hold).frame fun i hi => ?_
      refine hturn.objects (hinv.owned j' p₂ i hold hi) fun hpi => hne ?_
      exact hinv.apart j' j p₂ p i hold hp hi hpi
  · exact ctxts_setDaemon hinv.ctxts hc hp₂
  · rcases setDaemon_cases hp₂ with ⟨-, rfl⟩ | ⟨-, hold⟩
    · rcases hturn.on hi with hpi | ⟨-, hlt⟩
      · exact Nat.lt_of_lt_of_le (hinv.owned j p i hp hpi) hnext
      · exact hlt
    · exact Nat.lt_of_lt_of_le (hinv.owned j' p₂ i hold hi) hnext
  · rcases setDaemon_cases h₁ with ⟨rfl, rfl⟩ | ⟨hne₁, hold₁⟩
    · rcases setDaemon_cases h₂ with ⟨rfl, -⟩ | ⟨hne₂, hold₂⟩
      · rfl
      · exact absurd hi₁ (hfresh j₂ p₂ i hne₂ hold₂ hi₂)
    · rcases setDaemon_cases h₂ with ⟨rfl, rfl⟩ | ⟨-, hold₂⟩
      · exact absurd hi₂ (hfresh j₁ p₁ i hne₁ hold₁ hi₁)
      · exact hinv.apart j₁ j₂ p₁ p₂ i hold₁ hold₂ hi₁ hi₂

/-- A process that is gone. -/
lemma Inv.stop (hinv : Inv cfg w) {a : Agent} {s : Client.Stop} (hs : Explained (a, s)) :
    Inv cfg (w.stop a s) :=
  ⟨hinv.daemons, hinv.ctxts, hinv.owned, hinv.apart, hinv.clients, hinv.numbered,
    List.forall_mem_append.2 ⟨hinv.stops, List.forall_mem_singleton.2 hs⟩⟩

/-- A step of `main` that is no fault keeps the context in order. -/
lemma CtxtOk.run {c : Ctxt} {p p' : Proc} {env : Env} {sys sys' : System} (h : CtxtOk c p)
    (hrun : Daemon.run cfg env sys p = .ok (sys', p')) : CtxtOk (c.after p p') p' := by
  by_cases hend : (∃ how, p.phase = .exiting how) ∨ p.phase = .done
  · -- the process is gone, with the options it had
    have hdone : p'.opts = p.opts ∧ p'.phase = .done ∧ p.phase ≠ .allocate := by
      rcases hend with ⟨how, hphase⟩ | hphase
      · simp only [Daemon.run, hphase, Except.ok.injEq] at hrun
        have hp' : (cleanup cfg env sys p).2 = p' := congrArg Prod.snd hrun
        rw [← hp']
        exact ⟨rfl, rfl, by simp [hphase]⟩
      · simp only [Daemon.run, hphase, Except.ok.injEq, Prod.mk.injEq] at hrun
        rw [← hrun.2]
        exact ⟨rfl, hphase, by simp [hphase]⟩
    rcases hdone with ⟨hopts, hdone, hphase⟩
    rw [Ctxt.after_of_ne (Or.inl hphase)]
    exact ⟨fun hc => hopts ▸ h.engine hc, fun _ => by simp [hdone, Teardown.Early],
      fun hl => by simp [hdone, Teardown.Late] at hl⟩
  · have hexit : ∀ how, p.phase ≠ .exiting how := fun how hp => hend (Or.inl ⟨how, hp⟩)
    cases Teardown.run_stage hrun hexit fun hp => hend (Or.inr hp) with
    | early hearly hlate =>
      have hphase : p'.phase ≠ .dropPrivileges := fun hp => hlate (by simp [hp, Teardown.Late])
      rw [Ctxt.after_of_ne (Or.inr hphase)]
      exact ⟨fun hc => absurd hearly (h.past hc), fun hc => absurd hearly (h.past hc),
        fun hl => absurd hl hlate⟩
    | opens hphase hphase' _ =>
      rw [Ctxt.after, if_pos ⟨hphase, hphase'⟩]
      refine ⟨?_, fun _ => by simp [hphase', Teardown.Early], fun _ hengine => by rw [hengine]; rfl⟩
      intro hone
      cases hengine : p'.opts.engine with
      | ipset => rfl
      | pf | dummy =>
        rw [hengine] at hone
        cases hone
    | late hlate hearly hopts =>
      have hphase : p.phase ≠ .allocate := by
        intro hp
        simp [hp, Teardown.Late] at hlate
      rw [Ctxt.after_of_ne (Or.inl hphase)]
      exact ⟨fun hc => hopts ▸ h.engine hc, fun _ => hearly, fun _ hengine =>
        h.late hlate (hopts ▸ hengine)⟩

/-- A process that is gone has no context to keep in order. -/
lemma CtxtOk.done {c : Ctxt} {p p' : Proc} (h : CtxtOk c p) (hopts : p'.opts = p.opts)
    (hdone : p'.phase = .done) : CtxtOk c p' :=
  ⟨fun hc => hopts ▸ h.engine hc, fun _ => by simp [hdone, Teardown.Early],
    fun hl => by simp [hdone, Teardown.Late] at hl⟩

/-- A message to its queue is known to the daemon on it. -/
lemma DaemonOk.posted {k : MqKernel} {posted : List Posted} {p : Proc} {i j : Nat} {kq : Mq}
    {msg : Bytes} (h : DaemonOk cfg k posted p) (hkq : k.objects i = some kq)
    (hsize : msg.length ≤ kq.attr.msgsize) (htext : (0 : Byte) ∉ msg) :
    DaemonOk cfg (k.setMsgs i (kq.msgs ++ [msg])) (posted ++ [⟨j, i, msg⟩]) p := by
  refine h.change fun i' kq' taken hatt => ?_
  by_cases hi : i' = i
  · subst hi
    cases hkq.symm.trans hatt.object
    refine ⟨{ kq with msgs := kq.msgs ++ [msg] }, hatt.queue, MqKernel.objects_setMsgs hkq,
      hatt.size, ?_, ?_, ?_⟩
    · rw [hatt.size] at hsize
      exact List.forall_mem_append.2 ⟨hatt.fits, List.forall_mem_singleton.2 hsize⟩
    · exact List.forall_mem_append.2 ⟨hatt.text, List.forall_mem_singleton.2 htext⟩
    · have hhistory := hatt.history
      simp only [postedTo, List.filter_append, List.map_append] at hhistory ⊢
      rw [hhistory]
      simp
  · refine ⟨kq', hatt.queue, ?_, hatt.size, hatt.fits, hatt.text, ?_⟩
    · rw [← hatt.object]
      exact Function.update_of_ne hi _ _
    · rw [← hatt.history]
      simp [postedTo, Ne.symm hi]

/-- A step of the client `j`. -/
lemma Inv.effect (hinv : Inv cfg w) {j : Nat} {c : Member} {sys' : System}
    {sent : Option (Nat × Bytes)} (heffect : Client.Effect w.sys sys' sent) (hc : ClientOk c) :
    Inv cfg ((w.setClient j c).after j sys' sent) := by
  have hnext : sys'.mqs.next = w.sys.mqs.next := by
    cases heffect <;> rfl
  refine ⟨fun j' p hp => ?_, hinv.ctxts, fun j' p i hp hi => ?_, hinv.apart, fun j' c' hc' => ?_,
    fun m hm => ?_, hinv.stops⟩
  · cases heffect with
    | quiet => simpa [World.after, World.setClient] using hinv.daemons j' p hp
    | posted hkq hsize htext => exact (hinv.daemons j' p hp).posted hkq hsize htext
  · exact hnext ▸ hinv.owned j' p i hp hi
  · rcases setClient_cases hc' with ⟨rfl, rfl⟩ | ⟨-, hold⟩
    · exact hc
    · exact hinv.clients j' c' hold
  · refine hnext ▸ ?_
    rcases List.mem_append.1 hm with hold | hnew
    · exact hinv.numbered m hold
    · cases heffect with
      | quiet => cases hnew
      | posted hkq _ _ =>
        cases List.mem_singleton.1 hnew
        exact Registry.lt_next hkq

/-- A step of the client `j` that does nothing to the system. -/
lemma Inv.setClient (hinv : Inv cfg w) {j : Nat} {c : Member} (hc : ClientOk c) :
    Inv cfg (w.setClient j c) := by
  have heffect : Inv cfg ((w.setClient j c).after j w.sys none) := hinv.effect .quiet hc
  have hsame : (w.setClient j c).after j w.sys none = w.setClient j c := by
    simp [World.after, World.setClient]
  exact hsame ▸ heffect

/-- The daemon as `main` begins. -/
lemma start_ok (hposix : cfg.backend = .posix) (k : MqKernel) (posted : List Posted)
    (uid pid umask argc : Nat) (argv : List Opt) (malloc : Bool) :
    DaemonOk cfg k posted (Daemon.start cfg uid pid umask argc argv malloc) ∧
      ∀ i, ¬ On (Daemon.start cfg uid pid umask argc argv malloc) i := by
  unfold Daemon.start
  rw [hposix]
  cases malloc with
  | false =>
    refine ⟨?_, ?_⟩
    · intro q hq
      cases hq
    · rintro i ⟨q, hq, -⟩
      cases hq
  | true =>
    have hoff : ∀ {p : Proc} {i : Nat}, p.queue = some freshHandle → ¬ On p i := by
      rintro p i hqueue ⟨q, hq, hi⟩
      cases hqueue.symm.trans hq
      cases hi
    cases hkind : getDefaultEngine cfg with
    | none => exact ⟨onPosix_of_queue rfl, fun i => hoff rfl⟩
    | some kind => exact ⟨rfl, fun i => hoff rfl⟩

lemma not_late_start (cfg : Config) (uid pid umask argc : Nat) (argv : List Opt) (malloc : Bool) :
    ¬ Teardown.Late (Daemon.start cfg uid pid umask argc argv malloc).phase := by
  unfold Daemon.start
  split
  · exact id
  · split <;> exact id

/-- The message of a process is one of its arguments. -/
lemma launch_short {uid pid umask : Nat} {argv : List CText}
    (hshort : ∀ s ∈ argv, s.val.length < 2 ^ 31) :
    (Client.Cli.launch uid pid umask argv).message.length < 2 ^ 31 := by
  unfold Client.Cli.message
  rw [List.getD_eq_getElem?_getD]
  cases hs : (Client.Cli.launch uid pid umask argv).argv[1]? with
  | none => decide
  | some s => exact hshort s (List.mem_of_getElem? hs)

lemma Inv.startDaemon (hposix : cfg.backend = .posix) (hinv : Inv cfg w) (j uid pid umask argc : Nat)
    (argv : List Opt) (malloc : Bool) :
    Inv cfg (w.step cfg (.startDaemon j uid pid umask argc argv malloc)) := by
  cases hp : w.daemons j with
  | some p => simpa only [World.step, hp] using hinv
  | none =>
    simp only [World.step, hp]
    rcases start_ok hposix w.sys.mqs w.posted uid pid umask argc argv malloc with ⟨hok, hoff⟩
    refine hinv.launch hok ⟨by simp, by simp, fun hl => ?_⟩ hoff
    exact absurd hl (not_late_start cfg uid pid umask argc argv malloc)

lemma Inv.runDaemon (hstr : cfg.libc.strerror = cfg.os.strerror) (hposix : cfg.backend = .posix)
    (hinv : Inv cfg w) (j : Nat) (env : Env) : Inv cfg (w.step cfg (.runDaemon j env)) := by
  cases hp : w.daemons j with
  | none => simpa only [World.step, hp] using hinv
  | some p =>
    have hok := hinv.daemons j p hp
    have hctxt := hinv.ctxts j p hp
    simp only [World.step, hp]
    rcases Ctxt.run_cases cfg env w.sys p (w.ctxts j) with heq | ⟨⟨how, hphase⟩, hone, heq⟩
    · rw [heq]
      rcases run_turn hstr hposix hok hinv.numbered env with ⟨sys', p', hrun, hturn⟩ | ⟨hrun, hturn⟩
      · simp only [hrun]
        exact hinv.turn hp hturn (hctxt.run hrun)
      · -- a process that is exiting does not get into this fault
        have hfaulty : World.faulty p = .daemon := by
          unfold World.faulty
          split
          · rename_i how hphase
            simp [Daemon.run, hphase] at hrun
          · rfl
        simp only [hrun, hfaulty]
        exact (hinv.turn hp hturn (hctxt.done rfl rfl)).stop rfl
    · have hsys : wreckage cfg env w.sys p = w.sys := by simp only [wreckage, hphase]
      have hfaulty : World.faulty p = .cleanup p.opts.engine := by simp only [World.faulty, hphase]
      have hturn : Turn cfg w.posted w.sys.mqs p w.sys.mqs (p.goto .done) :=
        .quiet rfl rfl (fun _ hi => hi) hok.onPosix
      simp only [heq, hsys, hfaulty]
      exact (hinv.turn hp hturn (hctxt.done rfl rfl)).stop ⟨hctxt.engine hone, rfl⟩

lemma Inv.signal (hinv : Inv cfg w) (j : Nat) (sig : Signal) (env : Env) :
    Inv cfg (w.step cfg (.signal j sig env)) := by
  cases hp : w.daemons j with
  | none => simpa only [World.step, hp] using hinv
  | some p =>
    have hok := hinv.daemons j p hp
    have hctxt := hinv.ctxts j p hp
    simp only [World.step, hp]
    rcases Ctxt.onSignal_cases cfg env w.sys p (w.ctxts j) sig with heq | ⟨-, -, hone, heq⟩
    · simp only [heq]
      by_cases hstay : sig = .usr1 ∨ p.phase = .done
      · have hsame : onSignal cfg env w.sys p sig = (w.sys, p) := by
          rcases hstay with rfl | hdone
          · rfl
          · cases sig <;> simp [onSignal, hdone]
        rw [hsame]
        exact hinv.turn hp (.quiet rfl rfl (fun _ hi => hi) hok) hctxt
      · rw [not_or] at hstay
        rw [onSignal_eq hstay.1 hstay.2]
        exact hinv.turn hp (cleanup_turn hok.onPosix) (hctxt.done rfl rfl)
    · have hturn : Turn cfg w.posted w.sys.mqs p w.sys.mqs (p.goto .done) :=
        .quiet rfl rfl (fun _ hi => hi) hok.onPosix
      simp only [heq]
      exact (hinv.turn hp hturn (hctxt.done rfl rfl)).stop ⟨hctxt.engine hone, rfl⟩

lemma launch_ok (uid pid umask : Nat) (argv : List CText) {ts : Client.Touches}
    (hquiet : Client.Quiet ts) : (Client.Cli.launch uid pid umask argv).Ok ts :=
  ⟨rfl, rfl, hquiet⟩

lemma Inv.startCli (hinv : Inv cfg w) {j uid pid umask : Nat} {argv : List CText}
    (ha : (Action.startCli j uid pid umask argv).Short) :
    Inv cfg (w.step cfg (.startCli j uid pid umask argv)) := by
  cases hc : w.clients j with
  | some c => simpa only [World.step, hc] using hinv
  | none =>
    have hquiet : Client.Quiet [] := by simp [Client.Quiet]
    simp only [World.step, hc]
    exact hinv.setClient ⟨⟨[], launch_ok uid pid umask argv hquiet⟩, launch_short ha⟩

lemma Inv.runCli (hposix : cfg.backend = .posix) (hinv : Inv cfg w) (j : Nat) (env : Client.Env) :
    Inv cfg (w.step cfg (.runCli j env)) := by
  match hc : w.clients j with
  | none | some (.vmod _ _) | some .dead => simpa only [World.step, hc] using hinv
  | some (.cli c) =>
    have hok := hinv.clients j _ hc
    rcases hok with ⟨⟨ts, hts⟩, hshort⟩
    rcases Client.Cli.step_ok env w.sys hposix hts hshort with
      ⟨out, hstep, hargv, hok', heffect⟩ | hstep
    · simp only [World.step, hc, hstep]
      refine hinv.effect heffect ⟨⟨_, hok'⟩, ?_⟩
      rw [Client.Cli.message, hargv]
      exact hshort
    · simp only [World.step, hc, hstep]
      exact (hinv.setClient (c := .dead) trivial).stop rfl

lemma Inv.vmodInit (hposix : cfg.backend = .posix) (hinv : Inv cfg w) (j uid pid umask : Nat)
    (alloc : Bool) (vsl : Client.Vsl) (name : Bytes) (env : Client.Env) :
    Inv cfg (w.step cfg (.vmodInit j uid pid umask alloc vsl name env)) := by
  cases hc : w.clients j with
  | some c => simpa only [World.step, hc] using hinv
  | none =>
    rcases Client.vmodInit_ok cfg env w.sys vsl hposix alloc uid pid umask name with
      ⟨vsl', obj, hinit, hobj⟩ | ⟨s, hinit, hplain⟩
    · simp only [World.step, hc, hinit]
      refine hinv.effect .quiet ?_
      rintro o ⟨rfl⟩
      exact hobj
    · simp only [World.step, hc, hinit]
      exact (hinv.setClient (c := .dead) trivial).stop hplain

lemma Inv.vmodSendmsg (hinv : Inv cfg w) {j : Nat} {vsl : Client.Vsl} {message : Option CText}
    {env : Client.Env} (ha : (Action.vmodSendmsg j vsl message env).Short) :
    Inv cfg (w.step cfg (.vmodSendmsg j vsl message env)) := by
  match hc : w.clients j with
  | none | some (.cli _) | some (.vmod _ none) | some .dead =>
    simpa only [World.step, hc] using hinv
  | some (.vmod uid (some obj)) =>
    have hobj : Client.Sender obj.queue := hinv.clients j _ hc obj rfl
    rcases Client.vmodSendmsg_ok cfg env w.sys vsl hobj ha with
      ⟨vsl', out, hsend, hobj', heffect⟩ | ⟨s, hsend, hplain⟩
    · simp only [World.step, hc, hsend]
      refine hinv.effect heffect ?_
      rintro o ⟨rfl⟩
      exact hobj'
    · simp only [World.step, hc, hsend]
      exact (hinv.setClient (c := .dead) trivial).stop hplain

lemma Inv.vmodFini (hinv : Inv cfg w) (j : Nat) (env : Client.Env) :
    Inv cfg (w.step cfg (.vmodFini j env)) := by
  match hc : w.clients j with
  | none | some (.cli _) | some (.vmod _ none) | some .dead =>
    simpa only [World.step, hc] using hinv
  | some (.vmod uid (some obj)) =>
    have hobj : Client.Sender obj.queue := hinv.clients j _ hc obj rfl
    simp only [World.step, hc, Client.vmodFini_eq cfg env w.sys hobj uid]
    exact hinv.effect .quiet (fun o ho => nomatch ho)

/-- Every step of every process keeps the invariant. -/
lemma Inv.step (hstr : cfg.libc.strerror = cfg.os.strerror) (hposix : cfg.backend = .posix)
    (hinv : Inv cfg w) {a : Action} (ha : a.Short) : Inv cfg (w.step cfg a) := by
  cases a with
  | startDaemon j uid pid umask argc argv malloc =>
    exact hinv.startDaemon hposix j uid pid umask argc argv malloc
  | runDaemon j env => exact hinv.runDaemon hstr hposix j env
  | signal j sig env => exact hinv.signal j sig env
  | startCli j uid pid umask argv => exact hinv.startCli ha
  | runCli j env => exact hinv.runCli hposix j env
  | vmodInit j uid pid umask alloc vsl name env =>
    exact hinv.vmodInit hposix j uid pid umask alloc vsl name env
  | vmodSendmsg j vsl message env => exact hinv.vmodSendmsg ha
  | vmodFini j env => exact hinv.vmodFini j env

end

/-- The invariant holds in every state of every run. -/
lemma Inv.of_run {cfg : Config} (hstr : cfg.libc.strerror = cfg.os.strerror)
    (hposix : cfg.backend = .posix) (sys : System) {as : List Action}
    (hshort : ∀ a ∈ as, a.Short) : Inv cfg (as.foldl (World.step cfg) (World.start sys)) := by
  have hstep : ∀ w a w', Inv cfg w → a.Short → total (World.step cfg) w a = .ok w' →
      Inv cfg w' := by
    rintro w a w' hinv ha ⟨⟩
    exact hinv.step hstr hposix ha
  exact exec_preserves_along hstep (Inv.start cfg sys) (along_of_forall hshort)
    (exec_total_eq (World.step cfg) _ as)

/-! ## The steps of one client -/

/-- The client that makes the step. -/
def Action.client : Action → Option Nat
  | .startCli j _ _ _ _ | .runCli j _ | .vmodInit j _ _ _ _ _ _ _ | .vmodSendmsg j _ _ _
  | .vmodFini j _ => some j
  | .startDaemon _ _ _ _ _ _ _ | .runDaemon _ _ | .signal _ _ _ => none

/-- The queues before and after each step of the client `j` in a run. -/
def touches (cfg : Config) (j : Nat) : World → List Action → Client.Touches
  | _, [] => []
  | w, a :: as =>
      (if a.client = some j then [(w.sys.mqs, (w.step cfg a).sys.mqs)] else []) ++
        touches cfg j (w.step cfg a) as

section

variable {cfg : Config} {j : Nat} {w : World} {ts : Client.Touches}

lemma touches_concat (w : World) (as : List Action) (a : Action) :
    touches cfg j w (as ++ [a]) = touches cfg j w as ++
      if a.client = some j then
        [((as.foldl (World.step cfg) w).sys.mqs,
          ((as.foldl (World.step cfg) w).step cfg a).sys.mqs)]
      else [] := by
  induction as generalizing w with
  | nil => simp [touches]
  | cons b as ih => simp [touches, ih]

/-- The client `j` has made the steps `ts`. -/
structure Traced (j : Nat) (w : World) (ts : Client.Touches) : Prop where
  free : w.clients j = none → Client.Quiet ts
  cli : ∀ c, w.clients j = some (.cli c) → c.Ok ts

lemma Traced.idle (h : Traced j w ts) (k : MqKernel) : Traced j w (ts ++ [(k, k)]) :=
  ⟨fun hfree => (h.free hfree).concat k, fun c hc => (h.cli c hc).concat k⟩

/-- Nothing is said of a client that is no `banip-cli`. -/
lemma traced_of_other {c : Member} (hc : w.clients j = some c) (hother : ∀ c', c ≠ .cli c') :
    Traced j w ts :=
  ⟨fun hfree => (by cases hfree.symm.trans hc),
    fun c' hc' => absurd (Option.some.inj (hc.symm.trans hc')) (hother c')⟩

lemma clients_of_other {a : Action} (ha : a.client ≠ some j) :
    (w.step cfg a).clients j = w.clients j := by
  have hset : ∀ {j' : Nat} {c : Member}, some j' ≠ some j → (w.setClient j' c).clients j =
      w.clients j := fun hne => Function.update_of_ne (fun heq => hne (by rw [heq])) _ _
  cases a with
  | startDaemon j' uid pid umask argc argv malloc =>
    simp only [World.step]
    split <;> rfl
  | runDaemon j' env =>
    simp only [World.step]
    split
    · rfl
    · split <;> rfl
  | signal j' sig env =>
    simp only [World.step]
    split
    · rfl
    · split <;> rfl
  | startCli j' uid pid umask argv =>
    simp only [World.step]
    split
    · rfl
    · exact hset ha
  | runCli j' env =>
    simp only [World.step]
    split
    · split <;> exact hset ha
    · rfl
  | vmodInit j' uid pid umask alloc vsl name env =>
    simp only [World.step]
    split
    · rfl
    · split <;> exact hset ha
  | vmodSendmsg j' vsl message env =>
    simp only [World.step]
    split
    · split <;> exact hset ha
    · rfl
  | vmodFini j' env =>
    simp only [World.step]
    split
    · exact hset ha
    · rfl

/-- A step of the client `j` itself. -/
lemma Traced.own (hposix : cfg.backend = .posix) (hinv : Inv cfg w) (h : Traced j w ts) {a : Action}
    (ha : a.client = some j) :
    Traced j (w.step cfg a) (ts ++ [(w.sys.mqs, (w.step cfg a).sys.mqs)]) := by
  have hself : ∀ {c : Member}, (w.setClient j c).clients j = some c := Function.update_self _ _ _
  cases a with
  | startDaemon _ _ _ _ _ _ _ | runDaemon _ _ | signal _ _ _ => cases ha
  | startCli j' uid pid umask argv =>
    cases ha
    cases hc : w.clients j with
    | some c =>
      simp only [World.step, hc]
      exact h.idle w.sys.mqs
    | none =>
      simp only [World.step, hc]
      refine ⟨fun hfree => (by cases hfree.symm.trans hself), fun c hlaunch => ?_⟩
      cases hlaunch.symm.trans hself
      exact launch_ok uid pid umask argv ((h.free hc).concat w.sys.mqs)
  | runCli j' env =>
    cases ha
    match hc : w.clients j with
    | none | some (.vmod _ _) | some .dead =>
      simp only [World.step, hc]
      exact h.idle w.sys.mqs
    | some (.cli c) =>
      have hshort := (hinv.clients j _ hc).2
      rcases Client.Cli.step_ok env w.sys hposix (h.cli c hc) hshort with
        ⟨out, hstep, -, hok, -⟩ | hstep
      -- `queue_close` has freed the wrong address in the second case
      · simp only [World.step, hc, hstep]
        refine ⟨fun hfree => (by cases hfree.symm.trans hself), fun c' hc' => ?_⟩
        cases hc'.symm.trans hself
        exact hok
      · simp only [World.step, hc, hstep]
        exact traced_of_other hself (fun _ => Member.noConfusion)
  | vmodInit j' uid pid umask alloc vsl name env =>
    cases ha
    cases hc : w.clients j with
    | some c =>
      simp only [World.step, hc]
      exact h.idle w.sys.mqs
    | none =>
      simp only [World.step, hc]
      split <;> exact traced_of_other hself (fun _ => Member.noConfusion)
  | vmodSendmsg j' vsl message env =>
    cases ha
    match hc : w.clients j with
    | none | some (.cli _) | some (.vmod _ none) | some .dead =>
      simp only [World.step, hc]
      exact h.idle w.sys.mqs
    | some (.vmod uid (some obj)) =>
      simp only [World.step, hc]
      split <;> exact traced_of_other hself (fun _ => Member.noConfusion)
  | vmodFini j' env =>
    cases ha
    match hc : w.clients j with
    | none | some (.cli _) | some (.vmod _ none) | some .dead =>
      simp only [World.step, hc]
      exact h.idle w.sys.mqs
    | some (.vmod uid (some obj)) =>
      simp only [World.step, hc]
      exact traced_of_other hself (fun _ => Member.noConfusion)

/-- In every run the steps of a client are those it knows of. -/
lemma traced_of_run (hstr : cfg.libc.strerror = cfg.os.strerror) (hposix : cfg.backend = .posix)
    (sys : System) {as : List Action} (hshort : ∀ a ∈ as, a.Short) (j : Nat) :
    Traced j (as.foldl (World.step cfg) (World.start sys))
      (touches cfg j (World.start sys) as) := by
  induction as using List.reverseRecOn with
  | nil => exact ⟨fun _ => by simp [Client.Quiet, touches], fun c hc => by cases hc⟩
  | append_singleton as a ih =>
    rw [List.forall_mem_append] at hshort
    have hinv := Inv.of_run hstr hposix sys hshort.1
    rw [touches_concat, List.foldl_append, List.foldl_cons, List.foldl_nil]
    by_cases ha : a.client = some j
    · rw [if_pos ha]
      exact (ih hshort.1).own hposix hinv ha
    · rw [if_neg ha, List.append_nil]
      refine ⟨fun hfree => (ih hshort.1).free ?_, fun c hc => (ih hshort.1).cli c ?_⟩
      · rwa [clients_of_other ha] at hfree
      · rwa [clients_of_other ha] at hc

end

/-! ## Results -/

/-- A build with the dummy engine, with one C library for the daemon and its queues. -/
def plainConfig : Config :=
  ⟨Host.lp64, LibC.numeric, { Os.linux with strerror := LibC.numeric.strerror }, .posix, []⟩

/-- Every call of a client succeeds. -/
def clientEnv : Client.Env := ⟨true, (Env.smooth 65534).queueOpen, none, none, none⟩

/-- A daemon comes to its loop, a `banip-cli` and an object of the Varnish module send a message each,
and the daemon takes the first. -/
def session : List Action :=
  .startDaemon 0 0 100 18 0 banipOptions true :: List.replicate 10 (.runDaemon 0 (Env.smooth 65534)) ++
    .startCli 1 1000 101 18 [⟨str "/banip", by decide⟩, ⟨str "192.0.2.7/24", by decide⟩] ::
      List.replicate 5 (.runCli 1 clientEnv) ++
    [.vmodInit 2 80 102 18 true (some []) (str "/banip") clientEnv,
      .vmodSendmsg 2 (some []) (some ⟨str "2001:db8::7", by decide⟩) clientEnv,
      .runDaemon 0 (Env.smooth 65534)]

lemma session_short : ∀ a ∈ session, a.Short := by
  decide +kernel

/-- The addresses a daemon in its loop has handled. -/
def handledTexts (p : Proc) : Option (List Bytes) :=
  match p.phase with
  | .receive loop => some (loop.handled.map Addr.humanrepr)
  | _ => none

lemma handledTexts_eq {p : Proc} {texts : List Bytes} (h : handledTexts p = some texts) :
    ∃ loop, p.phase = .receive loop ∧ loop.handled.map Addr.humanrepr = texts := by
  unfold handledTexts at h
  split at h
  · rename_i loop hphase
    exact ⟨loop, hphase, Option.some.inj h⟩
  · cases h

/-- In every run of daemons and clients, a daemon that is in its loop has received the messages its
clients were told they had sent, in order, but for those still in the queue, and has handed the
accepted ones to its engine. -/
theorem daemon_exact (cfg : Config) (hstr : cfg.libc.strerror = cfg.os.strerror)
    (hposix : cfg.backend = .posix) (sys : System) (as : List Action) (hshort : ∀ a ∈ as, a.Short)
    {w : World} (hw : as.foldl (World.step cfg) (World.start sys) = w) {j : Nat} {p : Proc}
    {loop : LoopState} (hp : w.daemons j = some p) (hphase : p.phase = .receive loop) :
    ∃ i kq xs, On p i ∧ w.sys.mqs.objects i = some kq ∧
      postedTo i w.posted = xs.filterMap received ++ kq.msgs ∧
      exec (Daemon.round (setup cfg p)) .start xs = .ok loop ∧
      loop.handled = xs.filterMap (parsed (setup cfg p)) := by
  have hinv : Inv cfg w := hw ▸ Inv.of_run hstr hposix sys hshort
  have hok := hinv.daemons j p hp
  simp only [DaemonOk, hphase] at hok
  rcases hok with ⟨-, i, kq, xs, hatt, hrun⟩
  exact ⟨i, kq, xs, hatt.on, hatt.object, hatt.history, hrun, exec_round_handled hrun⟩

theorem daemon_exact_session : ∃ p loop i kq xs,
    (session.foldl (World.step plainConfig) (World.start System.fresh)).daemons 0 = some p ∧
    p.phase = .receive loop ∧ loop.handled.map Addr.humanrepr = [str "192.0.2.7"] ∧
    postedTo i (session.foldl (World.step plainConfig) (World.start System.fresh)).posted =
      List.filterMap received xs ++ Mq.msgs kq ∧
    exec (Daemon.round (setup plainConfig p)) .start xs = .ok loop := by
  have hloop : ((session.foldl (World.step plainConfig) (World.start System.fresh)).daemons 0).bind
      handledTexts = some [str "192.0.2.7"] := by
    decide +kernel
  rcases Option.bind_eq_some_iff.1 hloop with ⟨p, hp, htexts⟩
  rcases handledTexts_eq htexts with ⟨loop, hphase, hhandled⟩
  rcases daemon_exact plainConfig rfl rfl System.fresh session session_short rfl hp hphase with
    ⟨i, kq, xs, -, -, hposted, hrun, -⟩
  exact ⟨p, loop, i, kq, xs, hp, hphase, hhandled, hposted, hrun⟩

/-- In every run, a `banip-cli` that has exited has printed `OK` and put its message into the queue it
was given, once, or it has done nothing to a queue and printed an error; its status may be that of
success either way. -/
theorem cli_truthful (cfg : Config) (hstr : cfg.libc.strerror = cfg.os.strerror)
    (hposix : cfg.backend = .posix) (sys : System) (as : List Action) (hshort : ∀ a ∈ as, a.Short)
    {w : World} (hw : as.foldl (World.step cfg) (World.start sys) = w) {j : Nat} {c : Client.Cli}
    (hc : w.clients j = some (.cli c)) (hexited : c.point = .exited) :
    (c.stdout = str "OK\n" ∧
        Client.Once c.queuename c.message (touches cfg j (World.start sys) as)) ∨
      (c.stdout = [] ∧ c.stderr ≠ [] ∧ Client.Quiet (touches cfg j (World.start sys) as)) := by
  have htraced := traced_of_run hstr hposix sys hshort j
  rw [hw] at htraced
  have hok := htraced.cli c hc
  simp only [Client.Cli.Ok, hexited] at hok
  rcases hok with htold | ⟨hstderr, hout, hquiet⟩
  · exact Or.inl htold
  · exact Or.inr ⟨hout, hstderr, hquiet⟩

/-- What a client has printed, if it is a `banip-cli` that has exited. -/
def exitedWith : Member → Option Bytes
  | .cli c => if c.point = .exited then some c.stdout else none
  | _ => none

lemma exitedWith_eq {c : Member} {text : Bytes} (h : exitedWith c = some text) :
    ∃ c', c = .cli c' ∧ c'.point = .exited ∧ c'.stdout = text := by
  unfold exitedWith at h
  split at h
  · rename_i c'
    split at h
    · rename_i hpoint
      exact ⟨c', rfl, hpoint, Option.some.inj h⟩
    · cases h
  · cases h

theorem cli_truthful_session : ∃ c,
    (session.foldl (World.step plainConfig) (World.start System.fresh)).clients 1 =
      some (.cli c) ∧ c.stdout = str "OK\n" ∧
    Client.Once c.queuename c.message (touches plainConfig 1 (World.start System.fresh) session) := by
  have hexited : ((session.foldl (World.step plainConfig) (World.start System.fresh)).clients 1).bind
      exitedWith = some (str "OK\n") := by
    decide +kernel
  rcases Option.bind_eq_some_iff.1 hexited with ⟨c, hc, htext⟩
  rcases exitedWith_eq htext with ⟨c, rfl, hpoint, hout⟩
  rcases cli_truthful plainConfig rfl rfl System.fresh session session_short rfl hc hpoint with
    ⟨-, honce⟩ | ⟨hnone, -⟩
  · exact ⟨c, hc, hout, honce⟩
  · cases hout.symm.trans hnone

end Service
end Banip
