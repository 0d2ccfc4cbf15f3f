import Banip.Daemon.Main
import Banip.Lib.Runs

/-!
# PidFile — several `banipd` with one pid file

Any number of processes run `main` on one system, in any interleaving; all are started with the same
`-p` file.  The pid file should hold the pid of the instance that is in its receive loop, and no
other process should touch it.

Nothing in the program sees to that.  The pid file is written before `queue_open` finds out that
another instance has the queue, and `cleanup`, which runs at every exit once `queue_init` has
succeeded, removes the file that `-p` names without asking who wrote it.  The main result is that
the pid file is kept in every run in which no process writes it or cleans up while another is past
its own write.
-/

namespace Banip
namespace Daemon
namespace PidFile

open Lib

/-! ## Several processes -/

/-- The system and its processes, by numbers of our own: a process keeps its number when `daemon`
changes its pid. -/
structure World where
  sys : System
  procs : Nat → Option Proc

/-- What the calls of a step that faults have done before the fault: anything, except that no call
before a fault touches a file that was there. -/
structure Wreck where
  effect : System → System
  keeps : ∀ sys path f, sys.files.find path = some f → (effect sys).files.find path = some f

inductive Action where
  | start (i uid pid umask argc : Nat) (argv : List Opt) (malloc : Bool)
  | run (i : Nat) (env : Env) (wreck : Wreck)
  | signal (i : Nat) (sig : Signal) (env : Env)
  | mqTraffic (q : Nat) (msgs : List Bytes)
  | ipcTraffic (q : Nat) (msgs : List Bytes)

/-- The process that makes the step. -/
def Action.actor : Action → Option Nat
  | .start i _ _ _ _ _ _ | .run i _ _ | .signal i _ _ => some i
  | .mqTraffic _ _ | .ipcTraffic _ _ => none

namespace World

def update (w : World) (i : Nat) (s : System × Proc) : World :=
  ⟨s.1, Function.update w.procs i (some s.2)⟩

/-- The number is free: there is no such process, or it has ended. -/
def Free (w : World) (i : Nat) : Prop := ∀ p, w.procs i = some p → p.phase = .done

instance (w : World) (i : Nat) : Decidable (w.Free i) :=
  match h : w.procs i with
  | none => isTrue (by simp [Free, h])
  | some p => decidable_of_iff (p.phase = .done) (by simp [Free, h])

/-- One step.  A process that faults is gone, without a clean-up. -/
def step (cfg : Config) (w : World) : Action → World
  | .start i uid pid umask argc argv malloc =>
      if w.Free i then w.update i (w.sys, Daemon.start cfg uid pid umask argc argv malloc) else w
  | .run i env wreck =>
    match w.procs i with
    | none => w
    | some p =>
      match Daemon.run cfg env w.sys p with
      | .ok s => w.update i s
      -- a crash: `atexit` handlers do not run
      | .error _ => w.update i (wreck.effect w.sys, p.goto .done)
  | .signal i sig env =>
    match w.procs i with
    | none => w
    | some p => w.update i (onSignal cfg env w.sys p sig)
  | .mqTraffic q msgs => { w with sys := { w.sys with mqs := w.sys.mqs.setMsgs q msgs } }
  | .ipcTraffic q msgs => { w with sys := { w.sys with ipc := w.sys.ipc.setMsgs q msgs } }

end World

/-! ## The property -/

/-- The process is in its receive loop. -/
def Receiving (p : Proc) : Prop := ∃ loop, p.phase = .receive loop

/-- The file holds the pid of the process. -/
def Held (path : Bytes) (w : World) (p : Proc) : Prop :=
  ∃ f, w.sys.files.find path = some f ∧ f.data = pidText p.pid

/-- The pid file holds the pid of every process that is in its receive loop. -/
def Published (path : Bytes) (w : World) : Prop :=
  ∀ i p, w.procs i = some p → Receiving p → Held path w p

/-- A step of another process leaves the pid file of a process in its loop as it is. -/
def Undisturbed (cfg : Config) (path : Bytes) (w : World) (a : Action) : Prop :=
  ∀ i p, w.procs i = some p → Receiving p → a.actor ≠ some i →
    (w.step cfg a).sys.files.find path = w.sys.files.find path

/-! ## The condition -/

/-- The process has written its pid file and has not begun to exit. -/
def PastPid (p : Proc) : Prop :=
  match p.phase with
  | .setGroup | .openQueue | .allocate | .dropPrivileges | .receive _ => True
  | .options _ | .daemonize | .writePid | .exiting _ | .done => False

/-- No process other than `i` is past its own write of the pid file. -/
def Alone (w : World) (i : Nat) : Prop :=
  ∀ j p, j ≠ i → w.procs j = some p → ¬ PastPid p

/-- The calls that write the pid file succeed. -/
def PidWritten (env : Env) : Prop := env.fopenPid = none ∧ env.fprintfPid = none

/-- A process writes the pid file, or cleans up with a pid file, only when no other process is past
its own write; and its write does not fail. -/
def Careful (w : World) : Action → Prop
  | .run i env _ => ∀ p, w.procs i = some p →
      (p.phase = .writePid → PidWritten env ∧ Alone w i) ∧
        ∀ how, p.phase = .exiting how → p.opts.pidfilename ≠ none → Alone w i
  | .signal i sig _ => ∀ p, w.procs i = some p → sig ≠ .usr1 → p.phase ≠ .done →
      p.opts.pidfilename ≠ none → Alone w i
  | .start _ _ _ _ _ _ _ | .mqTraffic _ _ | .ipcTraffic _ _ => True

/-- Every process is started with the option `-p path` and no other `-p`. -/
def SameFile (path : Bytes) : Action → Prop
  | .start _ _ _ _ _ argv _ => ∀ path', .p path' ∈ argv ↔ path' = path
  | _ => True

/-! ## One process -/

section

variable {cfg : Config} {env : Env} {path : Bytes} {sys sys' : System} {p p' : Proc}

/-- The queue has no file name yet, so that closing it removes no file. -/
def NoFile (p : Proc) : Prop := ∀ q, p.queue = some q → q.filename = none

/-- Where the process knows its pid file, and that it has no queue before. -/
def Named (path : Bytes) (p : Proc) : Prop :=
  match p.phase with
  | .options todo =>
      NoFile p ∧ (∀ path', .p path' ∈ todo → path' = path) ∧
        (p.opts.pidfilename = some path ∨ p.opts.pidfilename = none ∧ .p path ∈ todo)
  | .exiting _ => p.opts.pidfilename = some path ∨ p.opts.pidfilename = none ∧ NoFile p
  | .done => True
  | .daemonize | .writePid | .setGroup | .openQueue | .allocate | .dropPrivileges | .receive _ =>
      p.opts.pidfilename = some path

lemma Named.start {uid pid umask argc : Nat} {argv : List Opt} {malloc : Bool}
    (hargv : ∀ path', .p path' ∈ argv ↔ path' = path) :
    Named path (start cfg uid pid umask argc argv malloc) := by
  unfold Daemon.start
  cases hinit : Handle.queueInit cfg.os malloc cfg.backend with
  | error text => trivial
  | ok q =>
    have hfile : q.filename = none := Handle.queueInit_filename hinit
    have hnoFile : ∀ q', some q = some q' → q'.filename = none := by
      rintro q' ⟨rfl⟩
      exact hfile
    cases hengine : getDefaultEngine cfg with
    | none => exact Or.inr ⟨rfl, hnoFile⟩
    | some kind => exact ⟨hnoFile, fun path' => (hargv path').1, Or.inr ⟨rfl, (hargv path).2 rfl⟩⟩

/-- Reading one more option. -/
lemma Named.option {o : Opt} {todo : List Opt} (hnamed : Named path p)
    (hphase : p.phase = .options (o :: todo)) (heffect : OptionEffect p o todo p') :
    Named path p' := by
  simp only [Named, hphase] at hnamed
  rcases hnamed with ⟨hnoFile, hall, hpid⟩
  have hnoFile' : NoFile p' := by
    intro q' hq'
    rcases heffect.queue q' hq' with ⟨q, hq, hsame⟩
    rw [hsame.filename]
    exact hnoFile q hq
  have hpid' : p'.opts.pidfilename = some path ∨
      p'.opts.pidfilename = none ∧ .p path ∈ todo := by
    rw [heffect.pidfilename]
    -- either this option is a `-p`, and then it names `path`, or the `-p` is still to come
    cases ho : o.pid? with
    | some path' =>
      have : o = .p path' := by
        cases o <;> simp_all [Opt.pid?]
      rw [hall path' (by simp [this])]
      exact Or.inl rfl
    | none =>
      refine hpid.imp_right (And.imp_right fun hmem => ?_)
      rcases List.mem_cons.1 hmem with rfl | hmem
      · cases ho
      · exact hmem
  unfold Named
  rcases heffect.phase with hopt | ⟨how, hexit⟩
  · simp only [hopt]
    exact ⟨hnoFile', fun path' hmem => hall path' (List.mem_cons_of_mem _ hmem), hpid'⟩
  · simp only [hexit]
    exact hpid'.imp_right fun h => ⟨h.1, hnoFile'⟩

lemma Named.move (hnamed : Named path p) (hmove : Move cfg env sys p sys' p') :
    Named path p' := by
  cases hmove with
  | option hphase heffect => exact hnamed.option hphase heffect
  | parsed hphase =>
    simp only [Named, hphase] at hnamed
    rcases hnamed.2.2 with hpid | ⟨-, hmem⟩
    · exact hpid
    · cases hmem
  | failed hphase =>
    simp only [List.mem_cons, List.not_mem_nil, or_false] at hphase
    rcases hphase with hphase | hphase | hphase | hphase | hphase <;>
      simp only [Named, hphase] at hnamed ⊢
    · -- after the last option the `-p` has been read
      rcases hnamed.2.2 with hpid | ⟨-, hmem⟩
      · exact Or.inl hpid
      · cases hmem
    all_goals exact Or.inl hnamed
  | refused hphase =>
    simp only [Named, hphase] at hnamed ⊢
    exact Or.inl hnamed
  | exited hphase => trivial
  | rest hphase => exact hnamed
  | detached hphase | wrote hphase | grouped hphase | opened hphase | allocated hphase
  | dropped hphase | received hphase =>
    simp only [Named, hphase] at hnamed
    exact hnamed

lemma not_pastPid_start (cfg : Config) (uid pid umask argc : Nat) (argv : List Opt)
    (malloc : Bool) : ¬ PastPid (start cfg uid pid umask argc argv malloc) := by
  unfold Daemon.start
  split
  · exact id
  · split <;> exact id

/-- A process that does not know a pid file has no queue yet. -/
lemma Named.noFile (hnamed : Named path p) (hdone : p.phase ≠ .done)
    (hpid : p.opts.pidfilename = none) : NoFile p := by
  unfold Named at hnamed
  cases hphase : p.phase with
  | options todo =>
    simp only [hphase] at hnamed
    exact hnamed.1
  | exiting how =>
    simp only [hphase, hpid] at hnamed
    simpa using hnamed
  | done => exact absurd hphase hdone
  | daemonize | writePid | setGroup | openQueue | allocate | dropPrivileges | receive _ =>
    simp [hphase, hpid] at hnamed

/-- A clean-up without a pid file and a key file leaves the files as they are. -/
lemma cleanup_files (hpid : p.opts.pidfilename = none) (hnoFile : NoFile p) :
    (cleanup cfg env sys p).1.files = sys.files := by
  have hclose : (Handle.queueClose cfg.os p.uid env.closeFirst env.closeSecond sys
      p.queue).2.files = sys.files := by
    cases hqueue : p.queue with
    | none => rfl
    | some q => exact Handle.queueClose_files p.uid _ _ (hnoFile q hqueue)
  unfold cleanup removePid
  rw [hpid]
  exact hclose

/-- A step that neither writes the pid file nor cleans up with one keeps every file there is. -/
lemma find_move {f : File} (hmove : Move cfg env sys p sys' p') (hwrite : p.phase ≠ .writePid)
    (hexit : ∀ how, p.phase = .exiting how → p.opts.pidfilename = none ∧ NoFile p)
    (hf : sys.files.find path = some f) : sys'.files.find path = some f := by
  cases hmove with
  | wrote hphase => exact absurd hphase hwrite
  | opened hphase hqueue hopen => exact Handle.queueOpen_find rfl hopen hf
  | refused hphase hqueue hopen => exact Handle.queueOpen_find rfl hopen hf
  | received hphase hqueue hquiet =>
    rw [hquiet.files]
    exact hf
  | @exited how hphase =>
    -- this clean-up closes a handle without a file name and has no pid file to remove
    rcases hexit how hphase with ⟨hpid, hnoFile⟩
    rw [cleanup_files hpid hnoFile]
    exact hf
  | option | parsed | failed | detached | grouped | allocated | dropped | rest => exact hf

/-- A process gets past its write by writing, and keeps its pid from then on. -/
lemma pastPid_move (hmove : Move cfg env sys p sys' p') (hpast : PastPid p') :
    p.phase = .writePid ∧ sys'.files = writePid env sys.files p ∧ p' = p.goto .setGroup ∨
      PastPid p ∧ p'.pid = p.pid := by
  cases hmove with
  | option hphase heffect =>
    unfold PastPid at hpast
    rcases heffect.phase with hopt | ⟨how, hexit⟩
    · simp only [hopt] at hpast
    · simp only [hexit] at hpast
  | wrote hphase => exact Or.inl ⟨hphase, rfl, rfl⟩
  | grouped hphase | opened hphase | allocated hphase | dropped hphase | received hphase =>
    exact Or.inr ⟨by simp [PastPid, hphase], rfl⟩
  | rest hphase => exact Or.inr ⟨hpast, rfl⟩
  | parsed | failed | detached | refused | exited => exact hpast.elim

/-- After a write that does not fail the file holds the pid. -/
lemma find_writePid {files : Files} (hpid : p.opts.pidfilename = some path)
    (henv : PidWritten env) :
    ∃ f, (writePid env files p).find path = some f ∧ f.data = pidText p.pid := by
  rcases henv with ⟨hfopen, hfprintf⟩
  cases hf : files.find path with
  | some f =>
    refine ⟨{ f with data := pidText p.pid }, ?_, rfl⟩
    simp only [writePid, hpid, Files.fopenWrite, hfopen, hf, hfprintf, Files.written]
    rw [Files.find_write_self (Files.find_write_self hf)]
  | none =>
    refine ⟨⟨files.nextIno, p.uid, pidText p.pid⟩, ?_, rfl⟩
    simp only [writePid, hpid, Files.fopenWrite, hfopen, hf, hfprintf, Files.written]
    exact Files.find_write_self (Files.find_create_self files path p.uid)

/-- A process that is past its write after a step of its own holds the pid file. -/
lemma held_move {w : World} (i : Nat) (hnamed : Named path p)
    (hheld : PastPid p → Held path w p) (hwrites : p.phase = .writePid → PidWritten env)
    (hmove : Move cfg env w.sys p sys' p') (hpast : PastPid p') :
    Held path (w.update i (sys', p')) p' := by
  rcases pastPid_move hmove hpast with ⟨hphase, hfiles, rfl⟩ | ⟨hp, hpid⟩
  · -- the step is the write itself
    simp only [Named, hphase] at hnamed
    rcases find_writePid hnamed (hwrites hphase) with ⟨f, hf, hdata⟩
    exact ⟨f, hfiles ▸ hf, hdata⟩
  · -- the process held the file before, and the step keeps it
    rcases hheld hp with ⟨f, hf, hdata⟩
    refine ⟨f, find_move hmove ?_ ?_ hf, by rw [hpid, hdata]⟩
    · intro hphase
      simp [PastPid, hphase] at hp
    · intro how hphase
      simp [PastPid, hphase] at hp

end

/-! ## All processes -/

/-- Every process knows its pid file, and those past their write hold it. -/
structure Inv (path : Bytes) (w : World) : Prop where
  named : ∀ i p, w.procs i = some p → Named path p
  held : ∀ i p, w.procs i = some p → PastPid p → Held path w p

section

variable {cfg : Config} {path : Bytes} {w : World}

/-- A step of the process `i` keeps the invariant when it keeps it for `i`, and the other processes
keep their file or are not past their write. -/
lemma Inv.update (hinv : Inv path w) (i : Nat) {sys' : System} {p' : Proc}
    (hnamed : Named path p') (hheld : PastPid p' → Held path (w.update i (sys', p')) p')
    (hothers : Alone w i ∨
      ∀ f, w.sys.files.find path = some f → sys'.files.find path = some f) :
    Inv path (w.update i (sys', p')) := by
  have hprocs : ∀ j p, (w.update i (sys', p')).procs j = some p →
      j = i ∧ p = p' ∨ j ≠ i ∧ w.procs j = some p := by
    intro j p hj
    by_cases hji : j = i
    · subst hji
      have : p' = p := by simpa [World.update] using hj
      exact Or.inl ⟨rfl, this.symm⟩
    · exact Or.inr ⟨hji, by simpa [World.update, Function.update_of_ne hji] using hj⟩
  constructor
  · intro j p hj
    rcases hprocs j p hj with ⟨-, rfl⟩ | ⟨-, hold⟩
    · exact hnamed
    · exact hinv.named j p hold
  · intro j p hj hpast
    rcases hprocs j p hj with ⟨-, rfl⟩ | ⟨hne, hold⟩
    · exact hheld hpast
    · -- another process: it is not past its write, or its file is still there
      rcases hothers with halone | hkeeps
      · exact absurd hpast (halone j p hne hold)
      · rcases hinv.held j p hold hpast with ⟨f, hf, hdata⟩
        exact ⟨f, hkeeps f hf, hdata⟩

/-- A step of a process in a careful run: no other process is past its write, or every file that was
there is kept. -/
lemma run_keeps {env : Env} {wreck : Wreck} {i : Nat} {p p' : Proc} {sys' : System}
    (hinv : Inv path w) (hcareful : Careful w (.run i env wreck)) (hp : w.procs i = some p)
    (hmove : Move cfg env w.sys p sys' p') :
    Alone w i ∨ ∀ f, w.sys.files.find path = some f → sys'.files.find path = some f := by
  rcases hcareful p hp with ⟨hwrite, hexit⟩
  -- the write and the clean-up are the steps that touch the file
  by_cases hphase : p.phase = .writePid
  · exact Or.inl (hwrite hphase).2
  · by_cases hout : ∃ how, p.phase = .exiting how ∧ p.opts.pidfilename ≠ none
    · rcases hout with ⟨how, hhow, hpid⟩
      exact Or.inl (hexit how hhow hpid)
    · refine Or.inr fun f hf => find_move hmove hphase (fun how hhow => ?_) hf
      have hnone : p.opts.pidfilename = none := by
        by_contra hpid
        exact hout ⟨how, hhow, hpid⟩
      exact ⟨hnone, (hinv.named i p hp).noFile (by simp [hhow]) hnone⟩

/-- What a signal comes to: nothing, or a clean-up. -/
lemma onSignal_cases (env : Env) (sys : System) (p : Proc) (sig : Signal) :
    onSignal cfg env sys p sig = (sys, p) ∨
      (sig ≠ .usr1 ∧ p.phase ≠ .done ∧ onSignal cfg env sys p sig = cleanup cfg env sys p) := by
  by_cases hsig : sig = .usr1
  · subst hsig
    exact Or.inl rfl
  · by_cases hdone : p.phase = .done
    · left
      cases sig <;> simp [onSignal, hdone]
    · exact Or.inr ⟨hsig, hdone, onSignal_eq hsig hdone⟩

/-- The same of a clean-up after a signal. -/
lemma signal_keeps {env : Env} {sig : Signal} {i : Nat} {p : Proc} (hinv : Inv path w)
    (hcareful : Careful w (.signal i sig env)) (hp : w.procs i = some p) (hsig : sig ≠ .usr1)
    (hdone : p.phase ≠ .done) :
    Alone w i ∨ ∀ f, w.sys.files.find path = some f →
      (cleanup cfg env w.sys p).1.files.find path = some f := by
  cases hpid : p.opts.pidfilename with
  | some path' => exact Or.inl (hcareful p hp hsig hdone (by simp [hpid]))
  | none =>
    refine Or.inr fun f hf => ?_
    rw [cleanup_files hpid ((hinv.named i p hp).noFile hdone hpid)]
    exact hf

/-- Every careful step keeps the invariant. -/
lemma Inv.step {a : Action} (hinv : Inv path w) (hsame : SameFile path a)
    (hcareful : Careful w a) : Inv path (w.step cfg a) := by
  cases a with
  | start i uid pid umask argc argv malloc =>
    simp only [World.step]
    split
    · refine hinv.update i (Named.start hsame) (fun hpast => ?_) (Or.inr fun f hf => hf)
      exact absurd hpast (not_pastPid_start cfg uid pid umask argc argv malloc)
    · exact hinv
  | run i env wreck =>
    simp only [World.step]
    cases hp : w.procs i with
    | none => exact hinv
    | some p =>
      have hnamed := hinv.named i p hp
      cases hrun : Daemon.run cfg env w.sys p with
      | error fault =>
        -- a crash runs no clean-up, and the calls before it spare the files
        simp only [hrun]
        exact hinv.update i trivial (fun hpast => hpast.elim)
          (Or.inr fun f hf => wreck.keeps w.sys path f hf)
      | ok s =>
        simp only [hrun]
        have hmove := run_move hrun
        exact hinv.update i (hnamed.move hmove)
          (held_move i hnamed (hinv.held i p hp) (fun hphase => ((hcareful p hp).1 hphase).1) hmove)
          (run_keeps hinv hcareful hp hmove)
  | signal i sig env =>
    simp only [World.step]
    cases hp : w.procs i with
    | none => exact hinv
    | some p =>
      dsimp only
      rcases onSignal_cases env w.sys p sig with hsignal | ⟨hsig, hdone, hsignal⟩
      · rw [hsignal]
        exact hinv.update i (hinv.named i p hp) (hinv.held i p hp) (Or.inr fun f hf => hf)
      · rw [hsignal]
        exact hinv.update i trivial (fun hpast => hpast.elim)
          (signal_keeps hinv hcareful hp hsig hdone)
  | mqTraffic q msgs => exact ⟨hinv.named, hinv.held⟩
  | ipcTraffic q msgs => exact ⟨hinv.named, hinv.held⟩

/-- A careful step leaves the pid file of another process in its loop as it is. -/
lemma Inv.undisturbed {a : Action} (hinv : Inv path w) (hcareful : Careful w a) :
    Undisturbed cfg path w a := by
  rintro i p hp ⟨loop, hloop⟩ hactor
  have hpast : PastPid p := by simp [PastPid, hloop]
  rcases hinv.held i p hp hpast with ⟨f, hf, -⟩
  -- the process in its loop is past its write, so the one that makes the step is not alone
  have hnotAlone : ∀ j, a.actor = some j → ¬ Alone w j := by
    intro j hj halone
    refine halone i p ?_ hp hpast
    rintro rfl
    exact hactor hj
  cases a with
  | start j uid pid umask argc argv malloc =>
    simp only [World.step]
    split <;> rfl
  | run j env wreck =>
    simp only [World.step]
    cases hj : w.procs j with
    | none => rfl
    | some pj =>
      cases hrun : Daemon.run cfg env w.sys pj with
      | error fault =>
        simp only [hrun]
        exact (wreck.keeps w.sys path f hf).trans hf.symm
      | ok s =>
        simp only [hrun]
        rcases run_keeps hinv hcareful hj (run_move hrun) with halone | hkeeps
        · exact absurd halone (hnotAlone j rfl)
        · exact (hkeeps f hf).trans hf.symm
  | signal j sig env =>
    simp only [World.step]
    cases hj : w.procs j with
    | none => rfl
    | some pj =>
      dsimp only
      rcases onSignal_cases env w.sys pj sig with hsignal | ⟨hsig, hdone, hsignal⟩
      · rw [hsignal]
        rfl
      · rw [hsignal]
        rcases signal_keeps hinv hcareful hj hsig hdone with halone | hkeeps
        · exact absurd halone (hnotAlone j rfl)
        · exact (hkeeps f hf).trans hf.symm
  | mqTraffic q msgs => rfl
  | ipcTraffic q msgs => rfl

end

/-- The system before any process has been started. -/
def World.initial (sys : System) : World := ⟨sys, fun _ => none⟩

/-- In every careful run of processes with one `-p` file, the pid file exists and holds the pid of the
process that is in its receive loop, and no step of another process touches it. -/
theorem pid_file_owned (cfg : Config) (path : Bytes) (sys : System) (as : List Action)
    (hsame : ∀ a ∈ as, SameFile path a)
    (hcareful : Along (total (World.step cfg)) Careful (.initial sys) as) :
    Published path (as.foldl (World.step cfg) (.initial sys)) ∧
      Along (total (World.step cfg)) (Undisturbed cfg path) (.initial sys) as := by
  have hstart : Inv path (.initial sys) := ⟨(fun _ _ h => nomatch h), (fun _ _ h => nomatch h)⟩
  have hboth := (along_of_forall hsame).and hcareful
  have hstep : ∀ w a w', Inv path w → SameFile path a ∧ Careful w a →
      total (World.step cfg) w a = .ok w' → Inv path w' := by
    rintro w a w' hinv ⟨hfile, hcare⟩ ⟨rfl⟩
    exact hinv.step hfile hcare
  have hend := exec_preserves_along hstep hstart hboth (exec_total_eq _ _ as)
  constructor
  · rintro i p hp ⟨loop, hloop⟩
    exact hend.held i p hp (by simp [PastPid, hloop])
  · exact Along.imp hstep (fun w a hinv h => hinv.undisturbed h.2) hstart hboth

/-! ## One instance at a time -/

/-- A step of the process `i`, whose pid file can be written. -/
def Action.Of (i : Nat) : Action → Prop
  | .start j _ _ _ _ _ _ | .signal j _ _ => j = i
  | .run j env _ => j = i ∧ PidWritten env
  | .mqTraffic _ _ | .ipcTraffic _ _ => True

lemma step_procs_of_ne {cfg : Config} {w : World} {i j : Nat} {a : Action} (ha : a.Of i)
    (hne : j ≠ i) : (w.step cfg a).procs j = w.procs j := by
  cases a with
  | start k =>
    cases ha
    simp only [World.step]
    split
    · exact Function.update_of_ne hne _ _
    · rfl
  | run k env wreck =>
    rcases ha with ⟨rfl, -⟩
    simp only [World.step]
    split
    · rfl
    · split <;> exact Function.update_of_ne hne _ _
  | signal k sig env =>
    cases ha
    simp only [World.step]
    split
    · rfl
    · exact Function.update_of_ne hne _ _
  | mqTraffic | ipcTraffic => rfl

/-- A run with one instance at a time is careful. -/
theorem careful_of_single {cfg : Config} {i : Nat} {w : World} {as : List Action}
    (hothers : ∀ j, j ≠ i → w.procs j = none) (has : ∀ a ∈ as, a.Of i) :
    Along (total (World.step cfg)) Careful w as := by
  have halone : ∀ w : World, (∀ j, j ≠ i → w.procs j = none) → Alone w i := by
    intro w hw j p hne hp
    rw [hw j hne] at hp
    cases hp
  have hstep : ∀ w a w', (∀ j, j ≠ i → w.procs j = none) → a.Of i →
      total (World.step cfg) w a = .ok w' → ∀ j, j ≠ i → w'.procs j = none := by
    rintro w a w' hw ha ⟨rfl⟩ j hne
    rw [step_procs_of_ne ha hne, hw j hne]
  refine Along.imp hstep (fun w a hw ha => ?_) hothers (along_of_forall has)
  cases a with
  | start k => trivial
  | run k env wreck =>
    rcases ha with ⟨rfl, hfopen⟩
    exact fun p _ => ⟨fun _ => ⟨hfopen, halone w hw⟩, fun _ _ _ => halone w hw⟩
  | signal k sig env =>
    cases ha
    exact fun p _ _ _ _ => halone w hw
  | mqTraffic | ipcTraffic => trivial

/-! ## Two instances -/

def noWreck : Wreck := ⟨id, fun _ _ _ h => h⟩

/-- Root starts `banipd` with the options `argv` as process `i`, which runs for `n` steps. -/
def launch (i pid : Nat) (argv : List Opt) (n : Nat) : List Action :=
  .start i 0 pid 0o22 0 argv true :: List.replicate n (.run i (Env.smooth 0) noWreck)

/-- The pid of process 0 if it is in its loop, and the contents of the pid file. -/
def observe (w : World) : Option Nat × Option Bytes :=
  ((w.procs 0).bind fun p =>
      match p.phase with
      | .receive _ => some p.pid
      | _ => none,
    (w.sys.files.find (str "/run/banipd.pid")).map File.data)

lemma launch_sameFile {path : Bytes} {argv : List Opt}
    (hargv : ∀ path', .p path' ∈ argv ↔ path' = path) (i pid n : Nat) :
    ∀ a ∈ launch i pid argv n, SameFile path a := by
  intro a ha
  rcases List.mem_cons.1 ha with rfl | ha
  · exact hargv
  · rw [List.eq_of_mem_replicate ha]
    trivial

lemma launch_of (i pid : Nat) (argv : List Opt) (n : Nat) : ∀ a ∈ launch i pid argv n, a.Of i := by
  intro a ha
  rcases List.mem_cons.1 ha with rfl | ha
  · rfl
  · rw [List.eq_of_mem_replicate ha]
    exact ⟨rfl, rfl, rfl⟩

lemma banipOptions_pid (path' : Bytes) :
    .p path' ∈ banipOptions ↔ path' = str "/run/banipd.pid" := by
  simp [banipOptions]

/-- An instance reaches its loop, is ended by `SIGTERM`, and the next one reaches its loop. -/
def successors : List Action :=
  launch 0 100 banipOptions 10 ++ .signal 0 .term (Env.smooth 0) :: launch 0 300 banipOptions 10

theorem pid_file_owned_successors :
    Published (str "/run/banipd.pid")
        (successors.foldl (World.step (dummyConfig .posix)) (.initial .fresh)) ∧
      observe (successors.foldl (World.step (dummyConfig .posix)) (.initial .fresh)) =
        (some 300, some (str "300\n")) := by
  have hsame : ∀ a ∈ successors, SameFile (str "/run/banipd.pid") a := by
    intro a ha
    rcases List.mem_append.1 ha with ha | ha
    · exact launch_sameFile banipOptions_pid 0 100 10 a ha
    · rcases List.mem_cons.1 ha with rfl | ha
      · trivial
      · exact launch_sameFile banipOptions_pid 0 300 10 a ha
  have hsingle : ∀ a ∈ successors, a.Of 0 := by
    intro a ha
    rcases List.mem_append.1 ha with ha | ha
    · exact launch_of 0 100 banipOptions 10 a ha
    · rcases List.mem_cons.1 ha with rfl | ha
      · rfl
      · exact launch_of 0 300 banipOptions 10 a ha
  have hcareful : Along (total (World.step (dummyConfig .posix))) Careful (.initial .fresh)
      successors := careful_of_single (fun _ _ => rfl) hsingle
  refine ⟨(pid_file_owned (dummyConfig .posix) _ .fresh successors hsame hcareful).1, ?_⟩
  decide +kernel

lemma not_published_of_observe {w : World} {pid : Nat} {data : Option Bytes}
    (hobserve : observe w = (some pid, data)) (hne : data ≠ some (pidText pid)) :
    ¬ Published (str "/run/banipd.pid") w := by
  intro hpub
  have hpid := congrArg Prod.fst hobserve
  have hdata := congrArg Prod.snd hobserve
  simp only [observe] at hpid hdata
  rcases Option.bind_eq_some_iff.1 hpid with ⟨p, hp, hphase⟩
  split at hphase
  · rename_i loop hloop
    cases hphase
    rcases hpub 0 p hp ⟨loop, hloop⟩ with ⟨f, hf, hheld⟩
    rw [hf, Option.map_some, hheld] at hdata
    exact hne hdata.symm
  · cases hphase

/-- Process 100 is in its loop.  A second `banipd` with the same options writes its own pid to the pid
file before it finds the queue taken, and removes the file when it exits; one that is started with
an option it does not know removes the file, too. -/
theorem second_instance_takes_pid_file :
    let first := (launch 0 100 banipOptions 10).foldl (World.step (dummyConfig .posix))
      (.initial .fresh)
    let twin (n : Nat) := (launch 1 200 banipOptions n).foldl (World.step (dummyConfig .posix)) first
    let typo := (launch 1 200 [.p (str "/run/banipd.pid"), .unknown] 3).foldl
      (World.step (dummyConfig .posix)) first
    observe first = (some 100, some (str "100\n")) ∧
      observe (twin 6) = (some 100, some (str "200\n")) ∧
      observe (twin 9) = (some 100, none) ∧
      observe typo = (some 100, none) ∧
      ¬ Published (str "/run/banipd.pid") (twin 6) ∧
      ¬ Published (str "/run/banipd.pid") (twin 9) ∧
      ¬ Published (str "/run/banipd.pid") typo := by
  intro first twin typo
  have hwritten : observe (twin 6) = (some 100, some (str "200\n")) := by decide +kernel
  have hremoved : observe (twin 9) = (some 100, none) := by decide +kernel
  have htypo : observe typo = (some 100, none) := by decide +kernel
  refine ⟨by decide +kernel, hwritten, hremoved, htypo,
    not_published_of_observe hwritten (by decide), not_published_of_observe hremoved (by simp),
    not_published_of_observe htypo (by simp)⟩

end PidFile
end Daemon
end Banip
