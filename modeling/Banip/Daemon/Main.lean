import Banip.Daemon.Handle

/-!
# Main — `main`, `cleanup` and `on_signal` of `banipd.c`

A process is at one of the points of `main` at which it depends on the rest of the system; `run`
executes the code from there to the next point.  What the environment decides on the way (the
outcomes of the system calls, `errno`, the answers of `getgrnam` and `getpwnam`) is the `Env` of the
step.

`cleanup` runs in two ways: `exit` calls it, because `atexit(cleanup)` comes before the options are
read, and `on_signal` calls it on `SIGINT` and `SIGTERM`.  It closes the queue and then removes the
pid file, whatever the process has done so far.  This is the coarse `cleanup`, without the `free` of
the buffer and the `close` and `free` of the engine's context: `Teardown` takes it statement by
statement, and `Context` says which clean-ups of this module come to their end.

The log and the working directory are left to `Log`.  The capability limits are not part of the
model.
-/

namespace Banip
namespace Daemon

open Lib

/-! ## The program -/

/-- What a `banipd` is built with: the engines other than the dummy engine, in the order of
`available_engines`, and the queue backend. -/
structure Config where
  host : Host
  libc : LibC
  os : Os
  backend : Backend
  built : List EngineKind

/-- `available_engines`. -/
def availableEngines (cfg : Config) : List EngineKind := cfg.built ++ [.dummy]

/-- `get_default_engine`. -/
def getDefaultEngine (cfg : Config) : Option EngineKind := (availableEngines cfg).head?

/-- `get_engine_by_name`. -/
def getEngineByName (cfg : Config) (name : Bytes) : Option EngineKind :=
  (availableEngines cfg).find? fun kind => (engine cfg.host cfg.libc kind).name = name

/-- The options `getopt_long` finds, by their letters; `unknown` stands for `-h` and for what it does
not know. -/
inductive Opt where
  | b (msgsize : Bytes)
  | d
  | e (name : Bytes)
  | g (group : Bytes)
  | l (logfilename : Bytes)
  | p (pidfilename : Bytes)
  | q (queuename : Bytes)
  | s (qsize : Bytes)
  | t (tablename : Bytes)
  | v
  | unknown
deriving DecidableEq, Repr

/-- The variables the options set. -/
structure Options where
  dFlag : Bool
  vFlag : Nat
  engine : EngineKind
  gid : Option Nat
  logfilename : Option Bytes
  pidfilename : Option Bytes
  queuename : Option Bytes
  tablename : Option Bytes
deriving DecidableEq, Repr

/-- How a process ends on its own: through `usage`, or after it has printed a text. -/
inductive Exit where
  | usage
  | failure (text : Bytes)
deriving DecidableEq, Repr

/-- The points of `main`, by what comes next. -/
inductive Phase where
  | options (todo : List Opt)
  | daemonize
  | writePid
  | setGroup
  | openQueue
  | allocate
  | dropPrivileges
  | receive (loop : LoopState)
  | exiting (how : Exit)
  | done
deriving DecidableEq, Repr

/-- A process; `argc` is the number of arguments that are not options. -/
structure Proc where
  uid : Nat
  pid : Nat
  umask : Nat
  argc : Nat
  opts : Options
  queue : Option Handle
  buffer : Option Bytes
  maxMessageSize : Nat
  phase : Phase
deriving DecidableEq, Repr

/-- What the environment decides in a step: `errno` on entry to `parse_ulong` and `parse_addr`, and the
outcomes of the calls, where an `Option Nat` is the `errno` of a call that fails; `fprintfPid` is the
number of bytes that reach the pid file if `fprintf` or `fclose` fails. -/
structure Env where
  errno : Nat
  getgrnam : Except Nat Nat
  daemon : Except Nat Nat
  fopenPid : Option Nat
  fprintfPid : Option Nat
  setgid : Option Nat
  setgroups : Option Nat
  queueOpen : OpenOutcome
  getAttribute : Option Nat
  calloc : Bool
  engineOpen : Option Bytes
  getpwnam : Option Nat
  setuid : Option Nat
  receive : Option Nat
  sys : SysCalls
  closeFirst : Option Nat
  closeSecond : Option Nat
  unlinkPid : Option Nat

namespace Proc

/-- Leave the `do` loop of `main` with an error, or leave through `usage` or `errx`. -/
def leave (p : Proc) (how : Exit) : Proc := { p with phase := .exiting how }

def goto (p : Proc) (phase : Phase) : Proc := { p with phase := phase }

end Proc

section Run

variable (cfg : Config) (env : Env)

/-! ## Start and options -/

/-- The process at the start of the option loop.  When `queue_init` fails, `errx` comes before
`atexit(cleanup)`: the process is gone. -/
def start (uid pid umask argc : Nat) (argv : List Opt) (malloc : Bool) : Proc :=
  let opts (kind : EngineKind) : Options := ⟨false, 0, kind, none, none, none, none, none⟩
  match Handle.queueInit cfg.os malloc cfg.backend with
  | .error _ => ⟨uid, pid, umask, argc, opts .dummy, none, none, 0, .done⟩
  | .ok q =>
    match getDefaultEngine cfg with
    | none =>
        ⟨uid, pid, umask, argc, opts .dummy, some q, none, 0,
          .exiting (.failure (str "no engine available for your system"))⟩
    | some kind => ⟨uid, pid, umask, argc, opts kind, some q, none, 0, .options argv⟩

/-- The options `-b` and `-s`: parse the value and set the attribute; the answer of
`queue_set_attribute` is not read. -/
def setAttribute (p : Proc) (attr : QueueAttr) (opt optarg : Bytes) : Except Fault Proc := do
  let r ← parseUlong cfg.host env.errno optarg none
  match r.ok with
  | true => return { p with queue := p.queue.map fun q => (q.queueSetAttribute attr r.val).2 }
  | false =>
      return p.leave (.failure (str "invalid value for option " ++ opt ++ str ": " ++
        r.error.getD []))

/-- What `_verr` prints of an error number behind its text. -/
def errcodeText (errcode : Nat) : Bytes :=
  if errcode = 0 then [] else str ": " ++ cfg.os.strerror errcode

/-- The body of the option loop. -/
def option (p : Proc) : Opt → Except Fault Proc
  | .b optarg => setAttribute cfg env p .maxMessageSize (str "-b/--msgsize") optarg
  | .d => .ok { p with opts := { p.opts with dFlag := true } }
  | .e optarg =>
      match getEngineByName cfg optarg with
      | none => .ok (p.leave (.failure (str "unknown engine '" ++ optarg ++ str "'")))
      | some kind => .ok { p with opts := { p.opts with engine := kind } }
  | .g _ =>
      match env.getgrnam with
      | .error errno =>
          .ok (p.leave (.failure (str "getgrnam failed" ++ errcodeText cfg errno)))
      -- `(gid_t) -1` stands for "no group"
      | .ok gid =>
          let gid := if gid = 2 ^ 32 - 1 then none else some gid
          .ok { p with opts := { p.opts with gid := gid } }
  | .l optarg => .ok { p with opts := { p.opts with logfilename := some optarg } }
  | .p optarg => .ok { p with opts := { p.opts with pidfilename := some optarg } }
  | .q optarg => .ok { p with opts := { p.opts with queuename := some optarg } }
  | .s optarg => setAttribute cfg env p .maxMessageInQueue (str "-s/--qsize") optarg
  | .t optarg => .ok { p with opts := { p.opts with tablename := some optarg } }
  | .v => .ok { p with opts := { p.opts with vFlag := p.opts.vFlag + 1 } }
  | .unknown => .ok (p.leave .usage)

/-- The check after the option loop. -/
def checkOptions (p : Proc) : Proc :=
  if p.argc ≠ 0 ∨ p.opts.queuename = none ∨ p.opts.tablename = none then p.leave .usage
  else p.goto .daemonize

/-! ## From `daemon` to the loop -/

/-- `set_system_error(&error, ..); break;` -/
def systemFailure (p : Proc) (text : Bytes) (errno : Nat) : Proc :=
  p.leave (.failure (systemError text (cfg.os.strerror errno)))

/-- `daemon(0, !vFlag)` if `-d` was given: the child goes on under a pid of its own. -/
def daemonize (p : Proc) : Proc :=
  if p.opts.dFlag then
    match env.daemon with
    | .error errno => systemFailure cfg p (str "daemon failed") errno
    | .ok pid => { p with pid := pid, phase := .writePid }
  else p.goto .writePid

/-- `"%ld\n"` of the pid. -/
def pidText (pid : Nat) : Bytes := decimal pid ++ [chr '\n']

/-- Write the pid file.  A failure of `fopen` is only warned about, and the others are not noticed. -/
def writePid (files : Files) (p : Proc) : Files :=
  match p.opts.pidfilename with
  | none => files
  | some path =>
    match files.fopenWrite path p.uid env.fopenPid with
    | .error _ => files
    | .ok files => files.write path (Files.written env.fprintfPid (pidText p.pid))

/-- `setgid` and `setgroups`, if `-g` was given. -/
def setGroup (p : Proc) : Proc :=
  match p.opts.gid with
  | none => p.goto .openQueue
  | some gid =>
    match env.setgid with
    | some errno =>
        systemFailure cfg p (str "setgid(" ++ decimalInt (toInt gid) ++ str ") failed") errno
    | none =>
      match env.setgroups with
      | some errno =>
          systemFailure cfg p
            (str "setgroups to \x7b" ++ decimalInt (toInt gid) ++ str "\x7d failed") errno
      | none => p.goto .openQueue

/-- `queue_open` with `QUEUE_FL_OWNER`. -/
def openQueue (sys : System) (p : Proc) : Except Fault (System × Proc) :=
  match p.queue with
  | none => .error .nullDeref
  | some q => do
    let r ← q.queueOpen cfg.host cfg.os env.queueOpen p.uid p.pid sys p.umask
      (p.opts.queuename.getD []) ⟨false, true⟩
    -- a failed open may have left its file name in the handle, and `cleanup` will close it
    let p := { p with queue := some r.queue, umask := r.umask }
    match r.ok with
    | false => return (r.kernel, p.leave (.failure (r.error.getD [])))
    | true => return (r.kernel, p.goto .allocate)

/-- `queue_get_attribute`, the `calloc` of the buffer and `engine->open`. -/
def allocate (sys : System) (p : Proc) : Except Fault Proc :=
  match p.queue with
  | none => .error .nullDeref
  | some q =>
    match q.queueGetAttribute sys .maxMessageSize env.getAttribute with
    | .error _ => .ok (p.leave (.failure (str "queue_get_attribute failed")))
    | .ok max =>
      -- `++max_message_size`, for the terminator
      let size := (max + 1) % 2 ^ cfg.host.longBits
      if !env.calloc then
        .ok (p.leave (.failure (str "malloc(3) failed to allocate " ++ decimal size ++ str " bytes")))
      else
        let p := { p with buffer := some (List.replicate size 0), maxMessageSize := size }
        match env.engineOpen with
        | some text => .ok (p.leave (.failure text))
        | none => .ok (p.goto .dropPrivileges)

/-- `setuid` to `nobody`, or to `daemon`, if the process is root's and the engine allows it. -/
def dropPrivileges (p : Proc) : Proc :=
  if p.uid = 0 && (engine cfg.host cfg.libc p.opts.engine).dropPrivileges then
    match env.getpwnam with
    | none => p.leave (.failure (str "no nobody or daemon user accounts found on this system"))
    | some uid =>
      match env.setuid with
      | some errno =>
          systemFailure cfg p (str "setuid(" ++ decimalInt (toInt uid) ++ str ") failed") errno
      -- whatever was created so far belongs to root
      | none => { p with uid := uid, phase := .receive .start }
  else p.goto (.receive .start)

/-! ## The loop -/

/-- What the receive loop is compiled and started with. -/
def setup (p : Proc) : Setup :=
  ⟨cfg.host, cfg.libc, cfg.backend, p.opts.engine, p.opts.tablename.getD []⟩

/-- What a round depends on, given the outcome of its receive. -/
def arrival (recv : Except Nat Bytes) : Arrival := ⟨recv, env.errno, env.sys⟩

/-- The rest of a round after `queue_receive`. -/
def afterReceive (p : Proc) (loop : LoopState) (r : Received Handle System) :
    Except Fault LoopState :=
  if r.read = -1 then do
    let error ← report loop.error r.error
    return (loop.log .queueReceive false error).complain
  else
    parseRound (setup cfg p) (arrival env (.ok r.buffer)) r.buffer
      (loop.log .queueReceive true loop.error)

/-- One round of `while (1)`. -/
def receiveRound (sys : System) (p : Proc) (loop : LoopState) : Except Fault (System × Proc) :=
  match p.queue, p.buffer with
  | some q, some buffer => do
      let r ← q.queueReceive cfg.os sys buffer p.maxMessageSize env.receive env.errno
      let loop ← afterReceive cfg env p loop r
      return (r.kernel,
        { p with queue := some r.queue, buffer := some r.buffer, phase := .receive loop })
  | _, _ => .error .nullDeref

/-! ## `cleanup` and `on_signal` -/

/-- Remove the pid file.  A failure is only warned about. -/
def removePid (fails : Option Nat) (files : Files) (p : Proc) : Files :=
  match p.opts.pidfilename with
  | none => files
  | some path =>
    match files.unlink path p.uid fails with
    | .error _ => files
    | .ok files => files

/-- `cleanup`, after which the process ends. -/
def cleanup (sys : System) (p : Proc) : System × Proc :=
  let (queue, sys) := Handle.queueClose cfg.os p.uid env.closeFirst env.closeSecond sys p.queue
  -- the pid file goes even if the queue could not be closed, and whoever wrote it
  ({ sys with files := removePid env.unlinkPid sys.files p },
    { p with buffer := none, queue := queue, phase := .done })

/-- The signals `main` installs `on_signal` for. -/
inductive Signal where
  | int
  | term
  | usr1
deriving DecidableEq, Repr

/-- `on_signal`: `SIGUSR1` reopens the log file, the others end the process. -/
def onSignal (sys : System) (p : Proc) : Signal → System × Proc
  | .usr1 => (sys, p)
  | .int | .term =>
    match p.phase with
    | .done => (sys, p)
    -- with the default action restored, `kill(getpid(), signo)` ends the process
    | _ => cleanup cfg env sys p

/-! ## `main` -/

/-- Run `main` from one point to the next. -/
def run (sys : System) (p : Proc) : Except Fault (System × Proc) :=
  match p.phase with
  | .options [] => .ok (sys, checkOptions p)
  | .options (o :: todo) => do
      let p ← option cfg env (p.goto (.options todo)) o
      return (sys, p)
  | .daemonize => .ok (sys, daemonize cfg env p)
  | .writePid => .ok ({ sys with files := writePid env sys.files p }, p.goto .setGroup)
  | .setGroup => .ok (sys, setGroup cfg env p)
  | .openQueue => openQueue cfg env sys p
  | .allocate => do
      let p ← allocate cfg env sys p
      return (sys, p)
  | .dropPrivileges => .ok (sys, dropPrivileges cfg env p)
  | .receive loop => receiveRound cfg env sys p loop
  -- `exit` calls what `atexit` has registered
  | .exiting _ => .ok (cleanup cfg env sys p)
  | .done => .ok (sys, p)

/-! ## What a step can do -/

/-- The pid file an option names. -/
def Opt.pid? : Opt → Option Bytes
  | .p path => some path
  | _ => none

/-- What one option can do to the process: it goes on with the rest or ends, and neither the uid nor
the file name of the queue is touched. -/
structure OptionEffect (p : Proc) (o : Opt) (todo : List Opt) (p' : Proc) : Prop where
  uid : p'.uid = p.uid
  queue : ∀ q', p'.queue = some q' → ∃ q, p.queue = some q ∧ q.Same q'
  pidfilename : p'.opts.pidfilename = o.pid?.or p.opts.pidfilename
  phase : p'.phase = .options todo ∨ ∃ how, p'.phase = .exiting how

/-- The transitions of `run`. -/
inductive Move (sys : System) (p : Proc) : System → Proc → Prop where
  | option {o : Opt} {todo : List Opt} {p' : Proc} (hphase : p.phase = .options (o :: todo))
      (heffect : OptionEffect p o todo p') : Move sys p sys p'
  | parsed (hphase : p.phase = .options []) : Move sys p sys (p.goto .daemonize)
  | failed {buffer : Option Bytes} {size : Nat} {how : Exit}
      (hphase : p.phase ∈ [.options [], .daemonize, .setGroup, .allocate, .dropPrivileges]) :
      Move sys p sys { p with buffer := buffer, maxMessageSize := size, phase := .exiting how }
  | detached {pid : Nat} (hphase : p.phase = .daemonize) :
      Move sys p sys { p with pid := pid, phase := .writePid }
  | wrote (hphase : p.phase = .writePid) :
      Move sys p { sys with files := writePid env sys.files p } (p.goto .setGroup)
  | grouped (hphase : p.phase = .setGroup) : Move sys p sys (p.goto .openQueue)
  | opened {q : Handle} {r : Opened Handle System} (hphase : p.phase = .openQueue)
      (hqueue : p.queue = some q)
      (hopen : q.queueOpen cfg.host cfg.os env.queueOpen p.uid p.pid sys p.umask
        (p.opts.queuename.getD []) ⟨false, true⟩ = .ok r) (hok : r.ok = true) :
      Move sys p r.kernel
        { p with queue := some r.queue, umask := r.umask, phase := .allocate }
  | refused {q : Handle} {r : Opened Handle System} {how : Exit} (hphase : p.phase = .openQueue)
      (hqueue : p.queue = some q)
      (hopen : q.queueOpen cfg.host cfg.os env.queueOpen p.uid p.pid sys p.umask
        (p.opts.queuename.getD []) ⟨false, true⟩ = .ok r) (hok : r.ok = false) :
      Move sys p r.kernel
        { p with queue := some r.queue, umask := r.umask, phase := .exiting how }
  | allocated {buffer : Option Bytes} {size : Nat} (hphase : p.phase = .allocate) :
      Move sys p sys
        { p with buffer := buffer, maxMessageSize := size, phase := .dropPrivileges }
  | dropped {uid : Nat} (hphase : p.phase = .dropPrivileges) :
      Move sys p sys { p with uid := uid, phase := .receive .start }
  | received {sys' : System} {q q' : Handle} {buffer : Option Bytes} {loop loop' : LoopState}
      (hphase : p.phase = .receive loop) (hqueue : p.queue = some q) (hquiet : sys.Quiet sys')
      (hsame : q.Same q')
      (hround : q.backend = cfg.backend → cfg.libc.strerror = cfg.os.strerror →
        ∃ recv, round (setup cfg p) loop (arrival env recv) = .ok loop') :
      Move sys p sys' { p with queue := some q', buffer := buffer, phase := .receive loop' }
  | exited {how : Exit} (hphase : p.phase = .exiting how) :
      Move sys p (cleanup cfg env sys p).1 (cleanup cfg env sys p).2
  | rest (hphase : p.phase = .done) : Move sys p sys p

variable {cfg env} {sys sys' : System} {p p' : Proc}

/-- `SIGINT` and `SIGTERM` are a clean-up at any point of `main`. -/
lemma onSignal_eq {sig : Signal} (hsig : sig ≠ .usr1) (hdone : p.phase ≠ .done) :
    onSignal cfg env sys p sig = cleanup cfg env sys p := by
  cases sig with
  | usr1 => exact absurd rfl hsig
  -- the equation for the other points of `main` applies, by `hdone`
  | int | term => simp only [onSignal]

lemma setAttribute_effect {attr : QueueAttr} {opt optarg : Bytes} {o : Opt} {todo : List Opt}
    (ho : o.pid? = none)
    (hrun : setAttribute cfg env (p.goto (.options todo)) attr opt optarg = .ok p') :
    OptionEffect p o todo p' := by
  rcases bind_eq_ok.1 hrun with ⟨r, -, hr⟩
  cases hok : r.ok with
  | false =>
    simp only [hok] at hr
    cases hr
    exact ⟨rfl, fun q hq => ⟨q, hq, Handle.Same.refl q⟩, by rw [ho]; rfl, Or.inr ⟨_, rfl⟩⟩
  | true =>
    simp only [hok] at hr
    cases hr
    refine ⟨rfl, fun q' hq' => ?_, by rw [ho]; rfl, Or.inl rfl⟩
    rcases Option.map_eq_some_iff.1 hq' with ⟨q, hq, rfl⟩
    exact ⟨q, hq, Handle.queueSetAttribute_same attr r.val⟩

/-- Every option has an `OptionEffect`. -/
lemma option_effect {o : Opt} {todo : List Opt}
    (hrun : option cfg env (p.goto (.options todo)) o = .ok p') : OptionEffect p o todo p' := by
  have hsame : ∀ q', p.queue = some q' → ∃ q, p.queue = some q ∧ q.Same q' :=
    fun q hq => ⟨q, hq, Handle.Same.refl q⟩
  cases o with
  | b optarg => exact setAttribute_effect rfl hrun
  | s optarg => exact setAttribute_effect rfl hrun
  | e optarg =>
    cases hengine : getEngineByName cfg optarg with
    | none =>
      simp only [option, hengine, Except.ok.injEq] at hrun
      subst hrun
      exact ⟨rfl, hsame, rfl, Or.inr ⟨_, rfl⟩⟩
    | some kind =>
      simp only [option, hengine, Except.ok.injEq] at hrun
      subst hrun
      exact ⟨rfl, hsame, rfl, Or.inl rfl⟩
  | g group =>
    cases hgroup : env.getgrnam with
    | error errno =>
      simp only [option, hgroup, Except.ok.injEq] at hrun
      subst hrun
      exact ⟨rfl, hsame, rfl, Or.inr ⟨_, rfl⟩⟩
    | ok gid =>
      simp only [option, hgroup, Except.ok.injEq] at hrun
      subst hrun
      exact ⟨rfl, hsame, rfl, Or.inl rfl⟩
  | unknown =>
    cases hrun
    exact ⟨rfl, hsame, rfl, Or.inr ⟨_, rfl⟩⟩
  -- the options that only set a variable
  | d | l _ | p _ | q _ | t _ | v =>
    cases hrun
    exact ⟨rfl, hsame, rfl, Or.inl rfl⟩

lemma openQueue_move (hphase : p.phase = .openQueue)
    (hrun : openQueue cfg env sys p = .ok (sys', p')) : Move cfg env sys p sys' p' := by
  unfold openQueue at hrun
  cases hqueue : p.queue with
  | none => simp [hqueue] at hrun
  | some q =>
    simp only [hqueue] at hrun
    rcases bind_eq_ok.1 hrun with ⟨r, hopen, hr⟩
    cases hok : r.ok with
    | false =>
      simp only [hok] at hr
      cases hr
      exact .refused hphase hqueue hopen hok
    | true =>
      simp only [hok] at hr
      cases hr
      exact .opened hphase hqueue hopen hok

lemma allocate_move (hphase : p.phase = .allocate) (hrun : allocate cfg env sys p = .ok p') :
    Move cfg env sys p sys p' := by
  have hfailed : ∀ {buffer size how}, Move cfg env sys p sys
      { p with buffer := buffer, maxMessageSize := size, phase := .exiting how } :=
    .failed (by simp [hphase])
  unfold allocate at hrun
  split at hrun
  · cases hrun
  · split at hrun
    · cases hrun
      exact hfailed
    · dsimp only at hrun
      split at hrun
      · cases hrun
        exact hfailed
      · split at hrun
        · cases hrun
          exact hfailed
        · cases hrun
          exact .allocated hphase

lemma dropPrivileges_move (hphase : p.phase = .dropPrivileges) :
    Move cfg env sys p sys (dropPrivileges cfg env p) := by
  have hfailed : ∀ {how}, Move cfg env sys p sys (p.leave how) := .failed (by simp [hphase])
  unfold dropPrivileges
  split
  · split
    · exact hfailed
    · split
      · exact hfailed
      · exact .dropped hphase
  · exact .dropped hphase

lemma setGroup_move (hphase : p.phase = .setGroup) :
    Move cfg env sys p sys (setGroup cfg env p) := by
  have hfailed : ∀ {how}, Move cfg env sys p sys (p.leave how) := .failed (by simp [hphase])
  unfold setGroup
  split
  · exact .grouped hphase
  · split
    · exact hfailed
    · split
      · exact hfailed
      · exact .grouped hphase

lemma daemonize_move (hphase : p.phase = .daemonize) :
    Move cfg env sys p sys (daemonize cfg env p) := by
  unfold daemonize
  split
  · split
    · exact .failed (by simp [hphase])
    · exact .detached hphase
  · exact .detached hphase

/-- A round of a process is a round of the loop: it depends on the rest of the system through the
outcome of its receive only. -/
lemma receiveRound_ok {loop : LoopState}
    (hrun : receiveRound cfg env sys p loop = .ok (sys', p')) :
    ∃ q q' buffer loop', p.queue = some q ∧ sys.Quiet sys' ∧ q.Same q' ∧
      p' = { p with queue := some q', buffer := some buffer, phase := .receive loop' } ∧
      (q.backend = cfg.backend → cfg.libc.strerror = cfg.os.strerror →
        ∃ recv, round (setup cfg p) loop (arrival env recv) = .ok loop') := by
  unfold receiveRound at hrun
  cases hqueue : p.queue with
  | none => simp [hqueue] at hrun
  | some q =>
    cases hbuffer : p.buffer with
    | none => simp [hqueue, hbuffer] at hrun
    | some buffer =>
      simp only [hqueue, hbuffer] at hrun
      rcases bind_eq_ok.1 hrun with ⟨r, hr, hrun⟩
      rcases bind_eq_ok.1 hrun with ⟨loop', hloop, hrun⟩
      cases hrun
      rcases Handle.queueReceive_effect hr with ⟨hquiet, hsame, herror⟩
      refine ⟨q, r.queue, r.buffer, loop', rfl, hquiet, hsame, rfl, fun hbackend hstr => ?_⟩
      unfold afterReceive at hloop
      split at hloop
      · -- the text the receive reports is the one the loop's model computes from `errno`
        rename_i hread
        rcases herror hread with ⟨e, he⟩
        refine ⟨.error e, ?_⟩
        rw [he, report_some, hbackend, ← hstr] at hloop
        exact hloop
      · exact ⟨.ok r.buffer, hloop⟩

/-- Every step of `main` is one of the transitions. -/
theorem run_move (hrun : run cfg env sys p = .ok (sys', p')) : Move cfg env sys p sys' p' := by
  unfold run at hrun
  cases hphase : p.phase with
  | options todo =>
    cases todo with
    | nil =>
      simp only [hphase, Except.ok.injEq, Prod.mk.injEq] at hrun
      rcases hrun with ⟨rfl, rfl⟩
      unfold checkOptions
      split
      · exact .failed (by simp [hphase])
      · exact .parsed hphase
    | cons o todo =>
      simp only [hphase] at hrun
      rcases bind_eq_ok.1 hrun with ⟨p₁, hopt, hr⟩
      cases hr
      exact .option hphase (option_effect hopt)
  | daemonize =>
    simp only [hphase] at hrun
    cases hrun
    exact daemonize_move hphase
  | writePid =>
    simp only [hphase] at hrun
    cases hrun
    exact .wrote hphase
  | setGroup =>
    simp only [hphase] at hrun
    cases hrun
    exact setGroup_move hphase
  | openQueue =>
    simp only [hphase] at hrun
    exact openQueue_move hphase hrun
  | allocate =>
    simp only [hphase] at hrun
    rcases bind_eq_ok.1 hrun with ⟨p₁, halloc, hr⟩
    cases hr
    exact allocate_move hphase halloc
  | dropPrivileges =>
    simp only [hphase] at hrun
    cases hrun
    exact dropPrivileges_move hphase
  | receive loop =>
    simp only [hphase] at hrun
    rcases receiveRound_ok hrun with ⟨q, q', buffer, loop', hqueue, hquiet, hsame, rfl, hround⟩
    exact .received hphase hqueue hquiet hsame hround
  | exiting how =>
    simp only [hphase] at hrun
    have heq : cleanup cfg env sys p = (sys', p') := by simpa using hrun
    have hmove : Move cfg env sys p (cleanup cfg env sys p).1 (cleanup cfg env sys p).2 :=
      .exited hphase
    rwa [heq] at hmove
  | done =>
    simp only [hphase] at hrun
    cases hrun
    exact .rest hphase

end Run

/-! ## A plain environment -/

/-- Every call of the environment succeeds, and the account `nobody` has the uid `nobody`. -/
def Env.smooth (nobody : Nat) : Env where
  errno := 0
  getgrnam := .ok 0
  daemon := .ok 0
  fopenPid := none
  fprintfPid := none
  setgid := none
  setgroups := none
  queueOpen := ⟨Posix.noFailure,
    ⟨fun _ => 0, [], fun _ => 0, none, none, none, true, true, none, none, true, str "0x1000"⟩⟩
  getAttribute := none
  calloc := true
  engineOpen := none
  getpwnam := some nobody
  setuid := none
  receive := none
  sys := ⟨fun _ => none, fun _ => 0⟩
  closeFirst := none
  closeSecond := none
  unlinkPid := none

/-- A build with the dummy engine only. -/
def dummyConfig (backend : Backend) : Config := ⟨Host.lp64, LibC.numeric, Os.linux, backend, []⟩

/-- A system without files and queues, where a new System V queue holds 72 bytes. -/
def System.fresh : System := ⟨⟨Files.empty, Registry.empty, 72⟩, Registry.empty⟩

/-- `-q /banip -t banned -p /run/banipd.pid`. -/
def banipOptions : List Opt :=
  [.q (str "/banip"), .t (str "banned"), .p (str "/run/banipd.pid")]

end Daemon
end Banip
