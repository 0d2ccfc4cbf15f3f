import Banip.Daemon.Log
import Banip.Lib.Runs

/-!
# Journal — what is in the log of `banipd`

`Inv` is what holds of a process and its log at every point of every run: before the process detaches
nothing waits in a buffer, so that a second `-l` loses nothing, and a process that is gone has left
nothing in a buffer.  `Says` is what a process says from the moment it comes to its loop: the complaints
of the loop, one record each, and on standard error what the dummy engine and `_error_set` have to say.

With `Inv`, each sink carries the texts that were printed to it, as long as it is not both the log and
standard error.  Which of these bytes are lost is up to the writes that fail and to how the process
ends.
-/

namespace Banip
namespace Daemon
namespace Logging

open Lib

/-! ## What was printed -/

/-- The text that was printed to a sink. -/
def saidTo (s : Sink) (said : List (Sink × Put)) : Bytes :=
  (said.filter fun x => x.1 = s).flatMap fun x => x.2.text

/-- The texts of the calls of `main`, on `stderr` or on `err_file`. -/
def own (direct : Bool) (xs : List Put) : List Bytes :=
  (xs.filter fun x => x.author = .main && x.direct = direct).map Put.text

/-- The texts of `main` so far, and those it is about to print. -/
def script (direct : Bool) (w : Logged) : List Bytes := own direct (w.said.map Prod.snd ++ w.todo)

/-- The records of the loop's complaints, with the times at which they were made. -/
def complaintTexts (progname : Bytes) (times : List Bytes) (printed : List Slot) : List Bytes :=
  (List.zipWith (fun time e => verr progname time (some (slotText e)) none) times printed).flatten

/-- The lines of the engine about the addresses it was handed. -/
def handledTexts (kind : EngineKind) (handled : List Addr) : List Bytes :=
  match kind with
  | .dummy => handled.map receivedText
  | .pf | .ipset => []

/-- The points before the process detaches. -/
def Early : Phase → Prop
  | .options _ | .daemonize => True
  | _ => False

lemma saidTo_append (s : Sink) (said : List (Sink × Put)) (t : Sink) (x : Put) :
    saidTo s (said ++ [(t, x)]) = saidTo s said ++ if t = s then x.text else [] := by
  by_cases h : t = s
  · simp [saidTo, h]
  · simp [saidTo, h]

section Own

variable (cfg : Config) (progname : Bytes) (lenv : LogEnv)

lemma own_append (direct : Bool) (xs ys : List Put) :
    own direct (xs ++ ys) = own direct xs ++ own direct ys := by
  simp [own]

lemma own_record (text : Bytes) :
    own false (record cfg progname lenv .main text 0) = verr progname lenv.time (some text) none := by
  simp [own, record, Function.comp_def, List.filter_map]

/-- A record is not on standard error itself. -/
lemma own_true_record (author : Author) (text : Bytes) (errcode : Nat) :
    own true (record cfg progname lenv author text errcode) = [] := by
  simp [own, record]

lemma own_complaints (new : List Slot) :
    own false (new.flatMap fun e => record cfg progname lenv .main (slotText e) 0) =
      complaintTexts progname (List.replicate new.length lenv.time) new := by
  unfold complaintTexts
  induction new with
  | nil => rfl
  | cons e new ih => simp [List.replicate_succ, own_append, own_record, ih]

lemma own_true_complaints (new : List Slot) :
    own true (new.flatMap fun e => record cfg progname lenv .main (slotText e) 0) = [] := by
  induction new with
  | nil => rfl
  | cons e new ih => rw [List.flatMap_cons, own_append, own_true_record, ih, List.append_nil]

lemma own_handled (direct : Bool) (kind : EngineKind) (new : List Addr) :
    own direct (handledPuts kind new) = if direct then handledTexts kind new else [] := by
  cases kind <;> cases direct <;>
    simp [own, handledPuts, handledTexts, Logging.direct, Function.comp_def, List.filter_map]

lemma complaintTexts_append {times times' : List Bytes} {printed printed' : List Slot}
    (h : times.length = printed.length) :
    complaintTexts progname (times ++ times') (printed ++ printed') =
      complaintTexts progname times printed ++ complaintTexts progname times' printed' := by
  unfold complaintTexts
  rw [List.zipWith_append h, List.flatten_append]

lemma handledTexts_append (kind : EngineKind) (handled handled' : List Addr) :
    handledTexts kind (handled ++ handled') = handledTexts kind handled ++ handledTexts kind handled' := by
  cases kind <;> simp [handledTexts]

end Own

/-! ## The loop only adds to what it has printed and handed on -/

/-- What the loop has printed, and what it has handed to the engine, is still there. -/
def Grows (loop loop' : LoopState) : Prop :=
  loop.printed <+: loop'.printed ∧ loop.handled <+: loop'.handled

section Loop

variable {cfg : Config} {env : Env} {sys sys' : System} {p p' : Proc} {loop loop' : LoopState}

end Loop

/-! ## A step of `main` -/

section Main

variable {cfg : Config} {progname : Bytes} {env : Env} {lenv : LogEnv} {sys sys' : System}
  {p p' : Proc}

/-- An option that does not end the process prints nothing, but for `-l` with a file that cannot be
opened. -/
lemma optionPuts_nil {o : Opt} {todo : List Opt}
    (hrun : option cfg env (p.goto (.options todo)) o = .ok p') (hearly : Early p'.phase)
    (hl : ∀ path errno, o = .l path → lenv.fopen ≠ .error errno) :
    optionPuts cfg progname env lenv p' o = [] := by
  have hleave : leavePuts cfg progname lenv p' = [] := by
    unfold leavePuts
    split
    · rename_i how hphase
      simp [Early, hphase] at hearly
    · rfl
  cases o with
  | l path =>
    cases hopen : lenv.fopen with
    | error errno => exact absurd hopen (hl path errno rfl)
    | ok fd => simp [optionPuts, hopen]
  | g group =>
    cases hgroup : env.getgrnam with
    | error errno =>
      simp only [option, hgroup, Except.ok.injEq] at hrun
      subst hrun
      simp [Early, Proc.leave] at hearly
    | ok gid => simp [optionPuts, hgroup]
  | unknown =>
    cases hrun
    simp [Early, Proc.leave] at hearly
  | b _ | d | e _ | p _ | q _ | s _ | t _ | v => exact hleave

/-- Early points follow early points, and what is printed on the way is the complaint about `-l`. -/
lemma run_early (progname : Bytes) (lenv : LogEnv) (c : Ctxt)
    (hrun : run cfg env sys p = .ok (sys', p')) (hearly : Early p'.phase) :
    Early p.phase ∧ ((∃ path todo errno, p.phase = .options (.l path :: todo) ∧
        lenv.fopen = .error errno) ∨ stepPuts cfg progname env lenv sys p p' c = []) := by
  have hmove := run_move hrun
  cases hphase : p.phase with
  | options todo =>
    refine ⟨trivial, ?_⟩
    cases todo with
    | nil =>
      right
      simp only [run, hphase, Except.ok.injEq, Prod.mk.injEq] at hrun
      rcases hrun with ⟨-, rfl⟩
      unfold checkOptions at hearly ⊢
      split at hearly
      · simp [Early, Proc.leave] at hearly
      · rename_i hok
        simp [stepPuts, hphase, hok, leavePuts, Proc.goto]
    | cons o todo =>
      simp only [run, hphase] at hrun
      rcases bind_eq_ok.1 hrun with ⟨p₁, hopt, hp⟩
      cases hp
      by_cases hl : ∃ path errno, o = .l path ∧ lenv.fopen = .error errno
      · rcases hl with ⟨path, errno, rfl, hopen⟩
        exact Or.inl ⟨path, todo, errno, rfl, hopen⟩
      · right
        simp only [stepPuts, hphase]
        exact optionPuts_nil hopt hearly fun path errno ho hopen => hl ⟨path, errno, ho, hopen⟩
  | daemonize =>
    simp only [run, hphase, Except.ok.injEq, Prod.mk.injEq] at hrun
    rcases hrun with ⟨-, rfl⟩
    unfold daemonize at hearly
    split at hearly
    · split at hearly <;> simp [Early, systemFailure, Proc.leave] at hearly
    · simp [Early, Proc.goto] at hearly
  | writePid | setGroup | openQueue | allocate | dropPrivileges | receive _ | exiting _ | done =>
    -- no later point leads back
    exfalso
    cases hmove <;> simp_all [Early, Proc.goto, cleanup]

end Main

/-! ## The invariant -/

structure Inv (w : Logged) : Prop where
  early : Early w.proc.phase → w.log.Idle ∧ ((∃ f, w.log.errFile = .file f) → w.todo = [])
  closed : w.closed = true → w.proc.phase = .done ∧ w.todo = [] ∧ ∀ s, w.log.pending s = []

section Steps

variable {cfg : Config} {progname : Bytes} {w w' : Logged}

/-- A process that has come to its end has nothing to answer for, until it is gone. -/
lemma Inv.of_done (hphase : w.proc.phase = .done)
    (hclosed : w.closed = true → w.todo = [] ∧ ∀ s, w.log.pending s = []) : Inv w where
  early hearly := by simp [hphase, Early] at hearly
  closed h := ⟨hphase, hclosed h⟩

lemma stepLog_idle {lenv : LogEnv} {p p' : Proc} {l : Log} (hl : l.Idle) :
    (stepLog lenv p p' l).Idle := by
  unfold stepLog
  split
  · exact .openLog _ _
  · split
    · exact hl.detach _
    · exact hl
  · exact hl

/-- `main` has come to a fault. -/
lemma Inv.fault (hinv : Inv w) (hopen : w.closed = false) (env : Env) (f : Fault) :
    Inv { w with todo := faultPuts cfg env w.sys w.proc f, fate := .crashes f } := by
  refine ⟨?_, fun hclosed => absurd (hopen.symm.trans hclosed) Bool.false_ne_true⟩
  intro hearly
  refine ⟨(hinv.early hearly).1, ?_⟩
  rintro -
  dsimp only at hearly ⊢
  unfold faultPuts
  split
  · rename_i hphase
    simp [hphase, Early] at hearly
  · rfl

/-- `main` has gone on. -/
lemma Inv.main (hinv : Inv w) (hopen : w.closed = false) {env : Env} (lenv : LogEnv)
    {sys' : System} {p' : Proc} (hrun : Daemon.run cfg env w.sys w.proc = .ok (sys', p')) :
    Inv { w with
      sys := sys'
      proc := p'
      ctxt := w.ctxt.after w.proc p'
      log := stepLog lenv w.proc p' w.log
      todo := stepPuts cfg progname env lenv w.sys w.proc p' w.ctxt } := by
  refine ⟨?_, fun hclosed => absurd (hopen.symm.trans hclosed) Bool.false_ne_true⟩
  intro hearly
  rcases run_early progname lenv w.ctxt hrun hearly with ⟨hearly₀, hputs⟩
  refine ⟨stepLog_idle (hinv.early hearly₀).1, ?_⟩
  rintro ⟨f, hfile⟩
  rcases hputs with ⟨path, todo, errno, hphase, hfails⟩ | hnil
  · simp [stepLog, hphase, Log.openLog, hfails] at hfile
  · exact hnil

lemma Inv.onRun (hinv : Inv w) (hopen : w.closed = false) (env : Env) (lenv : LogEnv) :
    Inv (w.onRun cfg progname env lenv) := by
  unfold Logged.onRun
  split
  · rename_i hrun
    exact hinv.main hopen lenv (Ctxt.run_ok hrun)
  · exact hinv.fault hopen env _

lemma Inv.put (hinv : Inv w) (n : Nat) (fails : List Bool) :
    Inv (w.step cfg progname (.put n fails)) := by
  cases htodo : w.todo with
  | nil => simpa only [Logged.step, htodo] using hinv
  | cons x todo =>
    simp only [Logged.step, htodo]
    refine ⟨?_, ?_⟩
    · -- with something to print, `err_file` is not a file yet
      intro hearly
      have hnot : ∀ f, (w.log.put x n fails).errFile ≠ .file f := by
        intro f hf
        rcases Log.stream_put hf with ⟨g, hg, -⟩
        cases htodo.symm.trans ((hinv.early hearly).2 ⟨g, hg⟩)
      refine ⟨fun f hf => absurd hf (hnot f), ?_⟩
      rintro ⟨f, hf⟩
      exact absurd hf (hnot f)
    · intro hclosed
      cases htodo.symm.trans (hinv.closed hclosed).2.1

lemma Inv.onUsr1 (hinv : Inv w) (hopen : w.closed = false) (lenv : LogEnv) :
    Inv (w.onUsr1 cfg progname lenv) := by
  unfold Logged.onUsr1
  split
  · rename_i f path hfile hpath
    split
    · refine ⟨?_, fun hclosed => absurd (hopen.symm.trans hclosed) Bool.false_ne_true⟩
      intro hearly
      refine ⟨.freopen f path lenv, ?_⟩
      rintro ⟨g, hg⟩
      cases hfopen : lenv.fopen with
      | error errno => simp [Log.freopen, hfopen] at hg
      | ok fd => simpa only [reopenPuts, hfopen, List.nil_append] using (hinv.early hearly).2 ⟨f, hfile⟩
    · exact hinv
  · exact hinv

lemma Inv.onKill (hinv : Inv w) (hphase : w.proc.phase ≠ .done) (env : Env) (lenv : LogEnv) :
    Inv (w.onKill cfg progname env lenv) := by
  have hopen : w.closed ≠ true := fun hclosed => hphase (hinv.closed hclosed).1
  unfold Logged.onKill
  split
  · rename_i hfinish
    exact .of_done (Ctxt.finish_phase hfinish) fun hclosed => absurd hclosed hopen
  · exact .of_done rfl fun hclosed => absurd hclosed hopen

lemma Inv.step (hinv : Inv w) (e : Event) : Inv (w.step cfg progname e) := by
  cases e with
  | run env lenv =>
    simp only [Logged.step]
    split
    · rename_i hguard
      simp only [Bool.and_eq_true, Bool.not_eq_true', List.isEmpty_iff] at hguard
      exact hinv.onRun hguard.1.1 env lenv
    · exact hinv
  | put n fails => exact hinv.put n fails
  | usr1 lenv =>
    simp only [Logged.step]
    split
    · rename_i hguard
      simp only [Bool.and_eq_true, Bool.not_eq_true'] at hguard
      exact hinv.onUsr1 hguard.1 lenv
    · exact hinv
  | kill env lenv =>
    simp only [Logged.step]
    split
    · exact hinv
    · rename_i hphase
      exact hinv.onKill hphase env lenv
  | close fails =>
    simp only [Logged.step]
    split
    · rename_i hguard
      simp only [Bool.and_eq_true, List.isEmpty_iff] at hguard
      exact .of_done rfl fun _ => ⟨hguard.2, Log.pending_close w.log w.fate fails⟩
    · exact hinv
  | other op => exact ⟨hinv.early, hinv.closed⟩

end Steps

/-! ## What a process says in its loop -/

/-- What was said on `err_file`, up to what is to be printed next: after `before`, the complaints of
the loop. -/
def Complained (progname : Bytes) (before : List Bytes) (loop : LoopState) (w : Logged) : Prop :=
  ∃ times, times.length = loop.printed.length ∧
    script false w = before ++ complaintTexts progname times loop.printed

/-- The text that a second report may find in the slot: the one that is there, or the one that
`parse_ulong` has just reported. -/
def Found (cfg : Config) (loop : LoopState) (e : Bytes) : Prop :=
  loop.error = some e ∨ loop.error = none ∧ ∃ errno s, prefixText cfg.host errno s = some e

/-- What was said on `stderr`: after `before`, what the engine says about each address, and at last the
warning of `_error_set`, if it is to free the wrong address. -/
def Shown (cfg : Config) (before : List Bytes) (loop : LoopState) (w : Logged) : Prop :=
  ∃ last, script true w = before ++ handledTexts w.proc.opts.engine loop.handled ++ last ∧
    (w.fate = .crashes .invalidFree → ∃ e, last = [overwriteText e] ∧ Found cfg loop e) ∧
    (w.fate ≠ .crashes .invalidFree → last = [])

/-- What `w` has said in its loop, if `v` is what it was when it came there. -/
structure Says (cfg : Config) (progname : Bytes) (v : Logged) (loop : LoopState) (w : Logged) :
    Prop where
  complained : Complained progname (script false v) loop w
  shown : Shown cfg (script true v) loop w

section Says

variable {cfg : Config} {progname : Bytes} {v w w' : Logged} {loop : LoopState}

/-- At first nothing was said in the loop. -/
lemma Says.start (hfate : w.fate ≠ .crashes .invalidFree) : Says cfg progname w .start w := by
  have hnone : handledTexts w.proc.opts.engine LoopState.start.handled = [] := by
    cases w.proc.opts.engine <;> rfl
  refine ⟨⟨[], rfl, (List.append_nil _).symm⟩, [], ?_, fun hf => absurd hf hfate, fun _ => rfl⟩
  rw [hnone, List.append_nil, List.append_nil]

/-- Only the texts of `main`, its options and its fate matter. -/
lemma Says.congr (h : Says cfg progname v loop w)
    (hscript : ∀ direct, script direct w' = script direct w) (hopts : w'.proc.opts = w.proc.opts)
    (hfate : w'.fate = w.fate) : Says cfg progname v loop w' := by
  rcases h with ⟨⟨times, hlength, htexts⟩, last, hlast⟩
  refine ⟨⟨times, hlength, by rw [hscript, htexts]⟩, last, ?_⟩
  rw [hscript, hopts, hfate]
  exact hlast

lemma found_of_overwritten {env : Env} {sys : System} {p : Proc} {e : Bytes}
    (h : overwritten cfg env sys p loop = some e) : Found cfg loop e := by
  unfold overwritten at h
  split at h
  · rename_i hslot
    exact Or.inl (hslot.trans h)
  · rename_i hslot _ _
    split at h
    · exact Or.inr ⟨hslot, _, _, h⟩
    · cases h
  · cases h

/-- A round comes to a fault: the complaints are the ones there were, and the warning is on standard
error. -/
lemma Says.fault (h : Says cfg progname v loop w) (hphase : w.proc.phase = .receive loop)
    (hfate : w.fate ≠ .crashes .invalidFree) (htodo : w.todo = []) {env : Env} {f : Fault}
    (hrun : w.ctxt.run cfg env w.sys w.proc = .error f) :
    Says cfg progname v loop
      { w with todo := faultPuts cfg env w.sys w.proc f, fate := .crashes f } := by
  rcases h with ⟨⟨times, hlength, hscript⟩, last, hshown, -, hlast⟩
  rw [hlast hfate, List.append_nil, script, htodo, List.append_nil] at hshown
  refine ⟨⟨times, hlength, ?_⟩, own true (faultPuts cfg env w.sys w.proc f),
    by rw [← hshown, script, own_append], ?_, ?_⟩
  · have hown : own false (faultPuts cfg env w.sys w.proc f) = [] := by
      unfold faultPuts
      split
      · simp [own, direct]
      · rfl
    rw [← hscript, script, script, own_append, own_append, htodo]
    exact congrArg _ hown
  · rintro ⟨⟩
    have hround : receiveRound cfg env w.sys w.proc loop = .error .invalidFree := by
      simpa only [Ctxt.run, Daemon.run, hphase] using hrun
    rcases overwritten_of_fault hround with ⟨e, he⟩
    exact ⟨e, by simp [faultPuts, hphase, he, own, direct], found_of_overwritten he⟩
  · intro hf
    cases f with
    | invalidFree => exact absurd rfl hf
    | outOfBounds | nullDeref => simp [faultPuts, hphase, own]

/-- A round is made: its complaints, and the lines about its address, are what is printed next. -/
lemma Says.round (h : Says cfg progname v loop w) (hfate : w.fate ≠ .crashes .invalidFree)
    (htodo : w.todo = []) (env : Env) (lenv : LogEnv) {sys' : System} {p' : Proc} {loop' : LoopState}
    {new : List Slot} {handed : List Addr} (hopts : p'.opts = w.proc.opts)
    (hprinted : loop'.printed = loop.printed ++ new) (hhandled : loop'.handled = loop.handled ++ handed)
    (hputs : stepPuts cfg progname env lenv w.sys w.proc p' w.ctxt =
      handledPuts w.proc.opts.engine handed ++
        new.flatMap fun e => record cfg progname lenv .main (slotText e) 0) :
    Says cfg progname v loop' { w with
      sys := sys'
      proc := p'
      ctxt := w.ctxt.after w.proc p'
      log := stepLog lenv w.proc p' w.log
      todo := stepPuts cfg progname env lenv w.sys w.proc p' w.ctxt } := by
  rcases h with ⟨⟨times, hlength, hscript⟩, last, hshown, -, hlast⟩
  rw [script, htodo, List.append_nil] at hscript
  rw [hlast hfate, List.append_nil, script, htodo, List.append_nil] at hshown
  refine ⟨⟨times ++ List.replicate new.length lenv.time, by simp [hprinted, hlength], ?_⟩, [], ?_,
    fun hf => absurd hf hfate, fun _ => rfl⟩
  · rw [hprinted, complaintTexts_append progname hlength, ← List.append_assoc, ← hscript,
      ← own_complaints cfg, script, own_append]
    dsimp only
    rw [hputs, own_append, own_handled]
    rfl
  · rw [script, own_append]
    dsimp only
    rw [hputs, own_append, own_handled, own_true_complaints, hshown, hopts, hhandled,
      handledTexts_append]
    simp

end Says

/-! ## Runs -/

section Runs

variable {cfg : Config} {progname : Bytes}

lemma Inv.start (b : Launch) : Inv (b.start cfg progname) := by
  have hfile : ∀ f, (b.start cfg progname).log.errFile ≠ .file f := fun f hf => nomatch hf
  refine ⟨?_, fun hclosed => absurd hclosed Bool.false_ne_true⟩
  intro _
  refine ⟨fun f hf => absurd hf (hfile f), ?_⟩
  rintro ⟨f, hf⟩
  exact absurd hf (hfile f)

lemma Inv.after (b : Launch) (es : List Event) : Inv (b.after cfg progname es) := by
  have hstep : ∀ w e, Inv w → Inv (Logged.step cfg progname w e) :=
    fun _ e hinv => hinv.step e
  exact foldl_preserves hstep (Inv.start b) es

/-- The process is past its options. -/
def Past (w : Logged) : Prop := ∀ todo, w.proc.phase ≠ .options todo

/-- The ways in which an event changes the log. -/
inductive LogMove (w : Logged) (e : Event) : Log → Prop where
  | same : LogMove w e w.log
  | put {x : Put} {todo : List Put} {n : Nat} {fails : List Bool} (he : e = .put n fails)
      (htodo : w.todo = x :: todo) : LogMove w e (w.log.put x n fails)
  | openLog {env : Env} {lenv : LogEnv} {path : Bytes} {todo : List Opt} (he : e = .run env lenv)
      (hphase : w.proc.phase = .options (.l path :: todo)) :
      LogMove w e (w.log.openLog path lenv.fopen)
  | detach (vFlag : Nat) (hphase : w.proc.phase = .daemonize) : LogMove w e (w.log.detach vFlag)
  | freopen {lenv : LogEnv} {f : Stream} {path : Bytes} (he : e = .usr1 lenv)
      (hfile : w.log.errFile = .file f) (hpath : w.proc.opts.logfilename = some path) :
      LogMove w e (w.log.freopen f path lenv)
  | close {fails : List Bool} (he : e = .close fails) : LogMove w e (w.log.close w.fate fails)
  | apply (op : FileOp) : LogMove w e { w.log with disk := w.log.disk.apply op }

lemma step_logMove (w : Logged) (e : Event) : LogMove w e (w.step cfg progname e).log := by
  cases e with
  | run env lenv =>
    simp only [Logged.step]
    split
    · unfold Logged.onRun
      split
      · dsimp only
        unfold stepLog
        split
        · rename_i hphase
          exact .openLog rfl hphase
        · rename_i hphase
          split
          · exact .detach _ hphase
          · exact .same
        · exact .same
      · exact .same
    · exact .same
  | put n fails =>
    cases htodo : w.todo with
    | nil => simpa only [Logged.step, htodo] using LogMove.same
    | cons x todo => simpa only [Logged.step, htodo] using LogMove.put rfl htodo
  | usr1 lenv =>
    simp only [Logged.step]
    split
    · unfold Logged.onUsr1
      split
      · rename_i hfile hpath
        split
        · exact .freopen rfl hfile hpath
        · exact .same
      · exact .same
    · exact .same
  | kill env lenv =>
    simp only [Logged.step]
    split
    · exact .same
    · unfold Logged.onKill
      split <;> exact .same
  | close fails =>
    simp only [Logged.step]
    split
    · exact .close rfl
    · exact .same
  | other op => exact .apply op

/-- Only a call adds to what was said. -/
lemma step_said (w : Logged) {e : Event} (he : ∀ n fails, e ≠ .put n fails) :
    (w.step cfg progname e).said = w.said := by
  cases e with
  | put n fails => exact absurd rfl (he n fails)
  | run env lenv =>
    simp only [Logged.step]
    split
    · unfold Logged.onRun
      split <;> rfl
    · rfl
  | usr1 lenv =>
    simp only [Logged.step]
    split
    · unfold Logged.onUsr1
      split
      · split <;> rfl
      · rfl
    · rfl
  | kill env lenv =>
    simp only [Logged.step]
    split
    · rfl
    · unfold Logged.onKill
      split <;> rfl
  | close fails =>
    simp only [Logged.step]
    split <;> rfl
  | other op => rfl

/-- A call goes to standard error or to the log. -/
lemma said_cases (w : Logged) (e : Event) : (w.step cfg progname e).said = w.said ∨
    ∃ s x, (w.step cfg progname e).said = w.said ++ [(s, x)] ∧
      (s = w.log.stderr ∨ ∃ f, w.log.errFile = .file f ∧ s = f.sink) := by
  by_cases he : ∃ n fails, e = .put n fails
  · rcases he with ⟨n, fails, rfl⟩
    cases htodo : w.todo with
    | nil =>
      left
      simp only [Logged.step, htodo]
    | cons x todo =>
      right
      refine ⟨w.log.target x, x, by simp only [Logged.step, htodo], ?_⟩
      unfold Log.target
      split
      · rename_i f _ hf
        exact Or.inr ⟨f, hf, rfl⟩
      · exact Or.inl rfl
  · exact Or.inl (step_said w fun n fails heq => he ⟨n, fails, heq⟩)

/-- Past its options, a process does not go back. -/
lemma run_past {env : Env} {sys sys' : System} {p p' : Proc} (hpast : ∀ todo, p.phase ≠ .options todo)
    (hrun : run cfg env sys p = .ok (sys', p')) : ∀ todo, p'.phase ≠ .options todo := by
  cases run_move hrun with
  | option hphase _ => exact absurd hphase (hpast _)
  | parsed hphase => exact absurd hphase (hpast _)
  | failed | detached | wrote | grouped | opened | refused | allocated | dropped | received =>
    exact fun todo => Phase.noConfusion
  | exited => exact fun todo => Phase.noConfusion
  | rest => exact hpast

lemma step_past {w : Logged} (hpast : Past w) (e : Event) : Past (w.step cfg progname e) := by
  cases e with
  | run env lenv =>
    simp only [Logged.step]
    split
    · unfold Logged.onRun
      split
      · rename_i hrun
        exact run_past hpast (Ctxt.run_ok hrun)
      · exact hpast
    · exact hpast
  | put n fails =>
    simp only [Logged.step]
    split <;> exact hpast
  | usr1 lenv =>
    simp only [Logged.step]
    split
    · unfold Logged.onUsr1
      split
      · split <;> exact hpast
      · exact hpast
    · exact hpast
  | kill env lenv =>
    simp only [Logged.step]
    split
    · exact hpast
    · unfold Logged.onKill
      split
      · rename_i hfinish
        intro todo hphase
        cases (Ctxt.finish_phase hfinish).symm.trans hphase
      · exact fun todo => Phase.noConfusion
  | close fails =>
    simp only [Logged.step]
    split
    · exact fun todo => Phase.noConfusion
    · exact hpast
  | other op => exact hpast

/-! ## Nothing doubled, nothing moved -/

/-- No write fails in the event. -/
def Event.Intact : Event → Prop
  | .put _ fails | .close fails => fails = []
  | .usr1 lenv => lenv.fails = []
  | .run _ _ | .kill _ _ | .other _ => True

lemma Log.lost_put (l : Log) (x : Put) (n : Nat) {s : Sink} (hs : s ≠ .null) :
    (l.put x n []).disk.lost s = l.disk.lost s := by
  rcases x with ⟨author, direct, text⟩
  cases hfile : l.errFile <;> cases direct <;>
    simp [Log.put, hfile, Stream.put, Disk.print, survive, Disk.lost_write _ _ _ _ hs]

lemma LogMove.lost {w : Logged} {e : Event} {l : Log} (h : LogMove w e l) (hintact : e.Intact)
    (hend : ∀ fails, e ≠ .close fails) {s : Sink} (hs : s ≠ .null) :
    l.disk.lost s = w.log.disk.lost s := by
  cases h with
  | same => rfl
  | put he =>
    subst he
    cases hintact
    exact Log.lost_put _ _ _ hs
  | openLog =>
    unfold Log.openLog
    split
    · rfl
    · rw [Log.lost_attach]
  | detach vFlag =>
    unfold Log.detach
    split <;> rfl
  | freopen he hfile =>
    subst he
    rcases Log.tally_freopen hfile _ _ hs with ⟨n, hn⟩
    rw [hintact] at hn
    exact (congrArg Tally.lost hn).trans (Tally.lost_drain_nil n)
  | close he => exact absurd he (hend _)
  | apply op => simp

end Runs

/-! ## The log of a run -/

/-- A `banipd` with a log, on a disk without files. -/
def launch : Launch where
  lenv := .plain (str "2014-06-01 12:00:00") (.ok 3)
  disk := ⟨fun _ => none, fun _ => [], fun _ => 0, 0, fun _ _ h => nomatch h⟩
  intact _ := rfl
  stderr := .console
  cwd := str "/root"
  sys := System.fresh
  uid := 0
  pid := 100
  umask := 18
  argc := 0
  argv := [.l (str "/var/log/banipd.log"), .q (str "/banip"), .t (str "banned")]
  malloc := true

/-- It comes to its loop, is interrupted in its first receive and says so; the library writes a part of
that. -/
def session : List Event :=
  List.replicate 11 (.run { Env.smooth 65534 with receive := some 4 } launch.lenv) ++
    [.put 0 [], .put 10 [], .put 5 []]

instance : (e : Event) → Decidable e.Intact
  | .put _ fails | .close fails => inferInstanceAs (Decidable (fails = []))
  | .usr1 lenv => inferInstanceAs (Decidable (lenv.fails = []))
  | .run _ _ | .kill _ _ | .other _ => isTrue trivial

end Logging
end Daemon
end Banip
