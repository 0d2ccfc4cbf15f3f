import Banip.Daemon.Lifetime

/-!
# Context — the context of the engine, and the clean-ups that come to their end

`Daemon.cleanup` leaves out the `free` of the buffer and what `cleanup` does to `ctxt`.  Of these the
context matters to the rest of the system: with the address that `ipset_open` returns, `cleanup`
faults before it comes to the queue and to the pid file.  Here a process of `Main` has its context
next to it, and `finish` is the clean-up of both.

`finish_refines` is the bridge to `Teardown`: at any point of any run of `main` the context is the one
in memory, and the statements of `cleanup` come to what `finish` says, or to its fault.  Clean-ups
that are interrupted are left to `Lifetime`.
-/

namespace Banip
namespace Daemon

open Lib

/-! ## A process and its context -/

/-- What `ctxt` is: null, a block that `engine->open` has allocated, or the address 1. -/
inductive Ctxt where
  | null
  | block
  | one
deriving DecidableEq, Repr

namespace Ctxt

/-- What `engine->open` returns when it succeeds. -/
def opened : EngineKind → Ctxt
  | .pf => .block
  -- `return (void *) !ok;`
  | .ipset => .one
  -- there is no `open`
  | .dummy => .null

/-- The context after a step of `main` from `p` to `p'`. -/
def after (p p' : Proc) (c : Ctxt) : Ctxt :=
  if p.phase = .allocate ∧ p'.phase = .dropPrivileges then opened p'.opts.engine else c

variable (cfg : Config) (env : Env) (sys : System) (p : Proc) (c : Ctxt)

/-- `cleanup`: the context is freed before the queue is closed. -/
def finish : Except Fault (System × Proc) :=
  if c = .one then .error .invalidFree else .ok (cleanup cfg env sys p)

/-- `Daemon.run` of a process with its context. -/
def run : Except Fault (System × Proc) :=
  match p.phase with
  | .exiting _ => c.finish cfg env sys p
  | _ => Daemon.run cfg env sys p

/-- `Daemon.onSignal` of a process with its context. -/
def onSignal (sig : Signal) : Except Fault (System × Proc) :=
  match sig with
  | .usr1 => .ok (sys, p)
  | .int | .term =>
    match p.phase with
    | .done => .ok (sys, p)
    | _ => c.finish cfg env sys p

variable {cfg env sys p c}

lemma finish_of_ne (hc : c ≠ .one) : c.finish cfg env sys p = .ok (cleanup cfg env sys p) :=
  if_neg hc

/-- A step of `main` is that of `Main`, or the fault of a clean-up. -/
lemma run_cases (cfg : Config) (env : Env) (sys : System) (p : Proc) (c : Ctxt) :
    c.run cfg env sys p = Daemon.run cfg env sys p ∨
      (∃ how, p.phase = .exiting how) ∧ c = .one ∧ c.run cfg env sys p = .error .invalidFree := by
  unfold run
  split
  · rename_i how hphase
    by_cases hc : c = .one
    · exact Or.inr ⟨⟨how, hphase⟩, hc, if_pos hc⟩
    · refine Or.inl ?_
      rw [finish_of_ne hc]
      simp only [Daemon.run, hphase]
  · exact Or.inl rfl

lemma run_ok {r : System × Proc} (h : c.run cfg env sys p = .ok r) :
    Daemon.run cfg env sys p = .ok r := by
  rcases run_cases cfg env sys p c with heq | ⟨-, -, hfault⟩
  · exact heq.symm.trans h
  · cases hfault.symm.trans h

lemma finish_phase {sys' : System} {p' : Proc} (h : c.finish cfg env sys p = .ok (sys', p')) :
    p'.phase = .done := by
  unfold finish at h
  split at h
  · cases h
  · cases h
    rfl

/-- `SIGINT` and `SIGTERM` are a clean-up at any point of `main`. -/
lemma onSignal_eq {sig : Signal} (hsig : sig ≠ .usr1) (hdone : p.phase ≠ .done) :
    c.onSignal cfg env sys p sig = c.finish cfg env sys p := by
  cases sig with
  | usr1 => exact absurd rfl hsig
  | int | term => simp only [onSignal]

lemma onSignal_cases (cfg : Config) (env : Env) (sys : System) (p : Proc) (c : Ctxt) (sig : Signal) :
    c.onSignal cfg env sys p sig = .ok (Daemon.onSignal cfg env sys p sig) ∨
      sig ≠ .usr1 ∧ p.phase ≠ .done ∧ c = .one ∧
        c.onSignal cfg env sys p sig = .error .invalidFree := by
  by_cases hstay : sig = .usr1 ∨ p.phase = .done
  · refine Or.inl ?_
    rcases hstay with rfl | hdone
    · rfl
    · cases sig <;> simp [onSignal, Daemon.onSignal, hdone]
  · rw [not_or] at hstay
    rcases hstay with ⟨hsig, hdone⟩
    have heq : c.onSignal cfg env sys p sig = c.finish cfg env sys p := onSignal_eq hsig hdone
    by_cases hc : c = .one
    · exact Or.inr ⟨hsig, hdone, hc, heq.trans (if_pos hc)⟩
    · exact Or.inl (by rw [heq, finish_of_ne hc, Daemon.onSignal_eq hsig hdone])

lemma after_of_ne {p' : Proc} (h : p.phase ≠ .allocate ∨ p'.phase ≠ .dropPrivileges) :
    c.after p p' = c := by
  refine if_neg fun hboth => ?_
  rcases h with hne | hne
  · exact hne hboth.1
  · exact hne hboth.2

end Ctxt

/-! ## The context in memory -/

namespace Teardown

/-- What `ctxt` points to. -/
def Memory.context (m : Memory) : Ctxt :=
  match m.ctxt with
  | none => .null
  | some a => if a = 1 then .one else .block

variable {cfg : Config} {p p' : Proc} {m m' : Memory}

lemma context_congr (h : m'.ctxt = m.ctxt) : m'.context = m.context := by
  rw [Memory.context, h, Memory.context]

lemma context_null (h : m.ctxt = none) : m.context = .null := by
  rw [Memory.context, h]

/-- No block is at the address 1. -/
lemma context_eq_one : m.context = .one ↔ m.ctxt = some 1 := by
  unfold Memory.context
  cases m.ctxt with
  | none => simp
  | some a => by_cases ha : a = 1 <;> simp [ha]

lemma openCtxt_context (kind : EngineKind) (fd : Nat) (hnull : m.ctxt = none) :
    (openCtxt kind fd m).context = .opened kind := by
  cases kind with
  | pf =>
    have hblock : (m.heap.alloc (.context (some fd))).1 ≠ 1 := by
      intro hone
      have hcell := Heap.cells_alloc_self m.heap (.context (some fd))
      rw [hone, Heap.unmapped _ 1 (by decide)] at hcell
      cases hcell
    simp [openCtxt, Memory.context, Ctxt.opened, hblock]
  | ipset => rfl
  | dummy => exact context_null hnull

lemma sync_ctxt (m : Memory) (q : Handle) : (m.sync q).ctxt = m.ctxt := by
  unfold Memory.sync
  split
  · rfl
  · dsimp only
    unfold Memory.setHandle
    split <;> rfl

/-- A step of `main` changes the context when it calls `engine->open`. -/
lemma Held.context_run {s : Image} {env : Env} {x : Grants} {sys : System} {q' : Handle} (h : Held s)
    (hexit : ∀ how, s.proc.phase ≠ .exiting how) (hdone : s.proc.phase ≠ .done)
    (hrun : Daemon.run cfg env s.mem.sys s.proc = .ok (sys, p')) :
    (acquire x s.proc p' (({ s.mem with sys := sys } : Memory).sync q')).context =
      s.mem.context.after s.proc p' := by
  have hctxt : (({ s.mem with sys := sys } : Memory).sync q').ctxt = s.mem.ctxt := sync_ctxt _ q'
  generalize ({ s.mem with sys := sys } : Memory).sync q' = m at hctxt
  cases run_stage hrun hexit hdone with
  | early hearly hlate =>
    have hnull : m.ctxt = none := hctxt.trans (h.early hearly)
    have hphase : p'.phase ≠ .dropPrivileges := fun hphase => hlate (by simp [hphase, Late])
    rw [Ctxt.after_of_ne (Or.inr hphase), context_null (h.early hearly)]
    refine context_null ?_
    unfold acquire
    split
    · unfold openLog
      split <;> exact hnull
    · split
      · exact hnull
      · simp only [hphase, if_false]
        exact hnull
    · exact hnull
  | opens hphase hphase' hbuffer =>
    rcases hbuffer with ⟨data, hdata⟩
    have hnull : m.ctxt = none := hctxt.trans (h.early (by simp [hphase, Early]))
    have heq : acquire x s.proc p' m = openCtxt p'.opts.engine x.device (allocBuffer data m) := by
      simp only [acquire, hphase, hdata, hphase', if_true]
    rw [heq, openCtxt_context (m := allocBuffer data m) _ _ hnull, Ctxt.after, if_pos ⟨hphase, hphase'⟩]
  | late hlate hearly hopts =>
    have hphase : s.proc.phase ≠ .allocate := by
      intro hphase
      simp [hphase, Late] at hlate
    rw [acquire_late x hlate, Ctxt.after_of_ne (Or.inl hphase)]
    exact context_congr hctxt

/-- The context of a process follows `Ctxt.after`, whatever happens to the process. -/
lemma Held.context_next {s s' : Image} {a : Stir} (h : Held s) (hnext : s.next cfg a = .ok s') :
    s'.mem.context = s.mem.context.after s.proc s'.proc := by
  have hsame : ∀ c : Ctxt, c.after s.proc s.proc = c := by
    intro c
    by_cases hphase : s.proc.phase = .allocate
    · exact Ctxt.after_of_ne (Or.inr (by simp [hphase]))
    · exact Ctxt.after_of_ne (Or.inl hphase)
  cases a with
  | run env x =>
    by_cases hend : (∃ how, s.proc.phase = .exiting how) ∨ s.proc.phase = .done
    · have heq : s.next cfg (.run env x) = .ok s := by
        rcases hend with ⟨how, hphase⟩ | hphase
        · simp only [Image.next, hphase]
        · simp only [Image.next, hphase]
      cases heq.symm.trans hnext
      exact (hsame _).symm
    · have hexit : ∀ how, s.proc.phase ≠ .exiting how := fun how hp => hend (Or.inl ⟨how, hp⟩)
      have hdone : s.proc.phase ≠ .done := fun hp => hend (Or.inr hp)
      rcases next_run hexit hdone (h.queue hdone) hnext with ⟨sys, p', q', hrun, -, rfl⟩
      exact h.context_run hexit hdone hrun
  | usr1 fd =>
    rcases reopenLog_gained fd (h.valid.live .log (by decide)) with ⟨m', hm', -, hctxt⟩
    simp only [Image.next, hm', ok_bind, pure_eq_ok, Except.ok.injEq] at hnext
    subst hnext
    rw [hsame]
    exact context_congr hctxt
  | mqTraffic i msgs =>
    cases hnext
    exact (hsame _).symm
  | ipcTraffic i msgs =>
    cases hnext
    exact (hsame _).symm

/-! ## The end of a clean-up -/

/-- With the context of ipset the clean-up ends at the `free` of the context. -/
lemma advance_one (e : Ending) (hengine : engineCloses p.opts.engine = false)
    (hone : m.ctxt = some 1) (hbuffer : Live m .buffer) :
    advance (step p) e (rank .freeBuffer) (.freeBuffer, m) = .error .invalidFree := by
  have hfree : ∀ {heap : Heap Block}, heap.free 1 = .error .invalidFree := by
    intro heap
    simp [Heap.free, Heap.unmapped heap 1 (by decide)]
  cases hptr : m.buffer with
  | none =>
    simp [rank, advance, step, hptr, hone, hengine, hfree, Bind.bind, Except.bind]
  | some a =>
    rcases hbuffer a hptr with ⟨b, hb, -⟩
    simp [rank, advance, step, hptr, Heap.free_of_live hb, hone, hengine, hfree, Bind.bind,
      Except.bind, pure_eq_ok]

/-- With the memory of a run of `main`, a clean-up that nothing interrupts comes to what `Ctxt.finish`
says: it ends with that system and that queue, or in that fault. -/
theorem finish_refines {s : Image} (h : Held s) (env : Env) (closeDevice : Option Nat) :
    match s.mem.context.finish cfg env s.mem.sys s.proc with
    | .ok (sys', p') => ∃ m', advance (step s.proc) (Ending.of env closeDevice) (rank .freeBuffer)
        (.freeBuffer, s.mem) = .ok (.finished, m') ∧ m'.sys = sys' ∧ m'.shown = p'.queue
    | .error f => advance (step s.proc) (Ending.of env closeDevice) (rank .freeBuffer)
        (.freeBuffer, s.mem) = .error f := by
  by_cases hc : s.mem.context = .one
  · have hone := context_eq_one.1 hc
    have hengine : s.proc.opts.engine = .ipset := by
      rcases h.context with hnull | ⟨-, hlive⟩ | ⟨heq, -⟩
      · cases hone.symm.trans hnull
      · rcases hlive 1 hone with ⟨b, hb, -⟩
        cases (s.mem.heap.unmapped 1 (by decide)).symm.trans hb
      · exact heq
    simp only [hc, Ctxt.finish, if_true]
    exact advance_one _ (by rw [hengine]; rfl) hone (h.valid.live .buffer (by decide))
  · have hctxt : s.proc.opts.engine = .ipset → s.mem.ctxt = none := by
      intro hengine
      rcases h.context with hnull | ⟨hne, -⟩ | ⟨-, hone⟩
      · exact hnull
      · exact absurd hengine hne
      · exact absurd (context_eq_one.2 hone) hc
    rw [Ctxt.finish_of_ne hc]
    rcases cleanup_refines cfg env closeDevice s.proc (h.all_live hctxt) h.valid.shown with
      ⟨m', hend, hsys, hshown, -⟩
    exact ⟨m', hend, hsys, hshown⟩

end Teardown
end Daemon
end Banip
