import Banip.Daemon.Context
import Banip.Daemon.Survival
import Banip.Lib.Stdio

/-!
# Log — `_verr`, the option `-l` and `SIGUSR1`

What `banipd` has to say goes through `_verr` to `err_file`: standard error, or the file of `-l`,
which `SIGUSR1` opens again so that others can rotate it.  A record is several `stdio` calls, and
signals come between any two of them; the buffer of the stream is written when the library likes, and
nobody looks whether that succeeds.  A few texts go to standard error itself: those of `usage` and
`getopt_long`, the addresses the dummy engine is handed and the warning of `_error_set`.

The machine of this module is the process of `Main`, with its context and its log.  In a step `main`
runs to the next point and queues what it has to print; each of these texts is then one call.  When
the process ends, `cleanup` closes the log, or `exit` writes the buffer, or the buffer is lost.

Not counted are the texts of other programs (the commands of the ipset engine inherit standard error)
and what the C library says when it aborts the process.  Signals inside `cleanup` are left to
`Reentry`.
-/

namespace Banip
namespace Daemon
namespace Logging

open Lib

/-! ## `err_file` -/

inductive ErrFile where
  | null
  | stderr
  | file (f : Stream)
deriving DecidableEq, Repr

/-- What the log of a process depends on: the disk, where descriptor 2 leads, the working directory
(empty for `/`) and `err_file`. -/
structure Log where
  disk : Disk
  stderr : Sink
  cwd : Bytes
  errFile : ErrFile

/-- What the environment decides about the log in a step: the time as `"%F %T"`, the descriptor or the
`errno` of `fopen` or `freopen`, which bytes of the buffer `freopen` loses, what `getopt_long` prints
about an option it does not know, the `errno` of `cap_enter` on a kernel without it, and that of a
`close` of `/dev/pf` that fails. -/
structure LogEnv where
  time : Bytes
  fopen : Except Nat Nat
  fails : List Bool
  getopt : Option Bytes
  capEnter : Option Nat
  closeDevice : Option Nat

/-- Nothing fails, but perhaps `fopen`. -/
def LogEnv.plain (time : Bytes) (fopen : Except Nat Nat) : LogEnv := ⟨time, fopen, [], none, none, none⟩

def resolve (cwd path : Bytes) : Bytes :=
  if path.head? = some (chr '/') then path else cwd ++ str "/" ++ path

/-- Who is printing: `main`, or the handler of `SIGUSR1`, which `main` waits for. -/
inductive Author where
  | main
  | handler
deriving DecidableEq, Repr

/-- A call of `stdio`; a direct one is on `stderr`, the others are on `err_file`. -/
structure Put where
  author : Author
  direct : Bool
  text : Bytes
deriving DecidableEq, Repr

/-- How a process ends: through `exit`, by a signal after its clean-up, or in a fault. -/
inductive Fate where
  | exits
  | killed
  | crashes (f : Fault)
deriving DecidableEq, Repr

namespace Log

/-- Where the bytes of a call will go. -/
def target (l : Log) (x : Put) : Sink :=
  match x.direct, l.errFile with
  | false, .file f => f.sink
  | _, _ => l.stderr

/-- One call; `fails` are the bytes that are lost in it, and `n` bytes of the buffer are written. -/
def put (l : Log) (x : Put) (n : Nat) (fails : List Bool) : Log :=
  match x.direct, l.errFile with
  -- standard error has no buffer
  | true, _ => { l with disk := l.disk.print l.stderr x.text fails }
  | false, .file f =>
      { l with
        disk := (f.put x.text n fails l.disk).2
        errFile := .file (f.put x.text n fails l.disk).1 }
  | false, _ => { l with disk := l.disk.print l.stderr x.text fails, errFile := .stderr }

/-- The log is on the file with this name; if it got descriptor 2, so is standard error. -/
def attach (l : Log) (path : Bytes) (fd : Nat) : Log :=
  let (sink, disk) := l.disk.openAppend (resolve l.cwd path)
  { l with
    disk := disk
    stderr := if fd = 2 then sink else l.stderr
    errFile := .file ⟨fd, sink, []⟩ }

/-- `-l`: the stream that `err_file` pointed to is not closed. -/
def openLog (l : Log) (path : Bytes) (fopen : Except Nat Nat) : Log :=
  match fopen with
  | .error _ => { l with errFile := .null }
  | .ok fd => l.attach path fd

/-- `freopen(logfilename, "a", err_file)`: what is pending is written and the old descriptor is closed,
whether or not the file can be opened. -/
def freopen (l : Log) (f : Stream) (path : Bytes) (lenv : LogEnv) : Log :=
  let l := { l with disk := f.flush lenv.fails l.disk }
  match lenv.fopen with
  | .error _ => { l with errFile := .stderr }
  | .ok fd => l.attach path fd

/-- `daemon(0, !vFlag)`: the working directory is `/`, and with `-v` the standard descriptors lead to
`/dev/null`. -/
def detach (l : Log) (vFlag : Nat) : Log :=
  if vFlag = 0 then { l with cwd := [] }
  else
    { l with
      cwd := []
      stderr := .null
      errFile :=
        match l.errFile with
        | .file f => .file (if f.fd ≤ 2 then { f with sink := .null } else f)
        | errFile => errFile }

/-- The end of a process: `cleanup` closes a log with a descriptor above 2, and of a stream that is
still open `exit` writes the buffer. -/
def close (l : Log) (fate : Fate) (fails : List Bool) : Log :=
  match l.errFile, fate with
  | .file f, .exits =>
    if 2 < f.fd then { l with disk := f.flush fails l.disk, errFile := .null }
    else { l with disk := f.flush fails l.disk, errFile := .file { f with pending := [] } }
  | .file f, .killed =>
    if 2 < f.fd then { l with disk := f.flush fails l.disk, errFile := .null }
    -- `kill(getpid(), signo)` does not come to `exit`
    else { l with disk := f.flush f.all l.disk, errFile := .file { f with pending := [] } }
  | .file f, .crashes _ =>
      { l with disk := f.flush f.all l.disk, errFile := .file { f with pending := [] } }
  | _, _ => l

/-- What waits in the buffer for a sink. -/
def pending (l : Log) (s : Sink) : Bytes :=
  match l.errFile with
  | .file f => if f.sink = s then f.pending else []
  | _ => []

def tally (l : Log) (s : Sink) : Tally := ⟨l.disk.data s, l.pending s, l.disk.lost s⟩

end Log

/-! ## What is printed -/

/-- `buf` in `_verr`, which has room for the time of a year of four digits. -/
def stamp (time : Bytes) : Bytes := if time.length < 20 then time else []

/-- The calls of `_verr`; `errcode` is the text of the error number, if it is not 0. -/
def verr (progname time : Bytes) (text errcode : Option Bytes) : List Bytes :=
  [str "[" ++ stamp time ++ str "] " ++ progname ++ str ": "] ++
    (match text with
      | none => []
      | some t => t :: if errcode.isSome then [str ": "] else []) ++
    errcode.toList ++ [str "\n"]

def optstr : Bytes := str "b:e:g:l:p:q:s:t:dhv"

/-- The text of `usage`: of the options, those behind the last colon. -/
def usageText (progname : Bytes) : Bytes :=
  str "usage: " ++ progname ++ str " [-" ++
    (optstr.reverse.takeWhile (· ≠ chr ':')).reverse ++
    str "] [ -q queue_name ] [ -t table_name ]\n"

/-- A null slot, as `%s` prints it. -/
def slotText (e : Slot) : Bytes := e.getD (str "(null)")

/-- What `dummy_handle` prints. -/
def receivedText (a : Addr) : Bytes := str "Received: '" ++ a.humanrepr ++ str "'\n"

/-- What `_error_set` prints when the slot holds a text. -/
def overwriteText (e : Bytes) : Bytes :=
  str "Warning: overwrite attempt of a previous error: " ++ e ++ str "\n"

/-- A call of `main` on `stderr`. -/
def direct (text : Bytes) : Put := ⟨.main, true, text⟩

section Texts

variable (cfg : Config) (progname : Bytes) (env : Env) (lenv : LogEnv)

/-- `_verr(_, errcode, text)`. -/
def record (author : Author) (text : Bytes) (errcode : Nat) : List Put :=
  (verr progname lenv.time (some text)
    (if errcode = 0 then none else some (cfg.os.strerror errcode))).map fun t => ⟨author, false, t⟩

/-- What a process prints when it leaves on its own. -/
def exitPuts : Exit → List Put
  | .usage => [direct (usageText progname)]
  | .failure text => record cfg progname lenv .main text 0

def leavePuts (p' : Proc) : List Put :=
  match p'.phase with
  | .exiting how => exitPuts cfg progname lenv how
  | _ => []

def optionPuts (p' : Proc) : Opt → List Put
  | .l path =>
    match lenv.fopen with
    | .error errno =>
        record cfg progname lenv .main
          (str "fopen '" ++ path ++ str "' failed, falling back to stderr") errno
    | .ok _ => []
  | .g _ =>
    match env.getgrnam with
    | .error errno => record cfg progname lenv .main (str "getgrnam failed") errno
    | .ok _ => []
  | .unknown => lenv.getopt.toList.map direct ++ leavePuts cfg progname lenv p'
  | _ => leavePuts cfg progname lenv p'

/-- The warning about a pid file that cannot be written. -/
def pidPuts (files : Files) (p : Proc) : List Put :=
  match p.opts.pidfilename with
  | none => []
  | some path =>
    match files.fopenWrite path p.uid env.fopenPid with
    | .error errno =>
        record cfg progname lenv .main (str "can't create pid file '" ++ path ++ str "'") errno
    | .ok _ => []

/-- The warning of `CAP_ENTER`, on the way to the loop. -/
def capPuts (p' : Proc) : List Put :=
  match p'.phase, lenv.capEnter with
  | .receive _, some errno =>
      record cfg progname lenv .main
        (str "kernel is compiled without \"options CAPABILITY_MODE\"") errno
  | _, _ => leavePuts cfg progname lenv p'

/-- The warning of `pf_close` about its device. -/
def devicePuts (c : Ctxt) : List Put :=
  match c, lenv.closeDevice with
  | .block, some errno => record cfg progname lenv .main (str "closing /dev/pf failed") errno
  | _, _ => []

/-- The warnings of `cleanup`, the second about a pid file that cannot be removed. -/
def cleanupPuts (sys : System) (p : Proc) (c : Ctxt) : List Put :=
  devicePuts cfg progname lenv c ++
    match p.opts.pidfilename with
    | none => []
    | some path =>
      let files :=
        (Handle.queueClose cfg.os p.uid env.closeFirst env.closeSecond sys p.queue).2.files
      match files.unlink path p.uid env.unlinkPid with
      | .error errno => record cfg progname lenv .main (str "unlink failed") errno
      | .ok _ => []

/-- What an engine prints about the addresses it is handed. -/
def handledPuts (kind : EngineKind) (new : List Addr) : List Put :=
  match kind with
  | .dummy => new.map fun a => direct (receivedText a)
  | .pf | .ipset => []

/-- What the loop prints in a round. -/
def roundPuts (p : Proc) (loop : LoopState) (p' : Proc) : List Put :=
  match p'.phase with
  | .receive loop' =>
      handledPuts p.opts.engine (loop'.handled.drop loop.handled.length) ++
        (loop'.printed.drop loop.printed.length).flatMap fun e =>
          record cfg progname lenv .main (slotText e) 0
  | _ => []

/-- What `main` prints on the way from `p` to `p'`. -/
def stepPuts (sys : System) (p p' : Proc) (c : Ctxt) : List Put :=
  match p.phase with
  | .options (o :: _) => optionPuts cfg progname env lenv p' o
  | .writePid => pidPuts cfg progname env lenv sys.files p
  | .dropPrivileges => capPuts cfg progname lenv p'
  | .receive loop => roundPuts cfg progname lenv p loop p'
  | .exiting _ => cleanupPuts cfg progname env lenv sys p c
  | .done => []
  | _ => leavePuts cfg progname lenv p'

/-- The text that a round finds in the slot when it reports a second one: what an earlier round has
left there, or what `parse_ulong` has just reported. -/
def overwritten (sys : System) (p : Proc) (loop : LoopState) : Slot :=
  match loop.error, p.queue, p.buffer with
  | some e, _, _ => some e
  | none, some q, some buffer =>
    match q.queueReceive cfg.os sys buffer p.maxMessageSize env.receive env.errno with
    | .ok r => prefixText cfg.host env.errno (cstr r.buffer)
    | .error _ => none
  | none, _, _ => none

/-- What is printed before the fault `f`: `_error_set` warns, and then frees the wrong address. -/
def faultPuts (sys : System) (p : Proc) (f : Fault) : List Put :=
  match p.phase, f with
  | .receive loop, .invalidFree =>
      (overwritten cfg env sys p loop).toList.map fun e => direct (overwriteText e)
  | _, _ => []

/-- The warning of the handler of `SIGUSR1`. -/
def reopenPuts : List Put :=
  match lenv.fopen with
  | .error _ => record cfg progname lenv .handler (str "freopen failed, falling back to stderr") 0
  | .ok _ => []

/-- What `main` does to the log itself on the way from `p` to `p'`. -/
def stepLog (p p' : Proc) (l : Log) : Log :=
  match p.phase with
  | .options (.l path :: _) => l.openLog path lenv.fopen
  | .daemonize => if p.opts.dFlag && p'.phase = .writePid then l.detach p.opts.vFlag else l
  | _ => l

end Texts

/-! ## The process and its log -/

/-- `todo` are the calls that are still to be made before `main` goes on, and `said` those that were
made, with the sink of each; `fate` is how the process ends, as far as that is known, and `closed` says
that it is gone. -/
structure Logged where
  sys : System
  proc : Proc
  ctxt : Ctxt
  log : Log
  todo : List Put
  said : List (Sink × Put)
  fate : Fate
  closed : Bool

/-- What happens: `main` goes on, the next call is made, a signal comes, the process ends, or someone
changes the names of the files. -/
inductive Event where
  | run (env : Env) (lenv : LogEnv)
  | put (n : Nat) (fails : List Bool)
  | usr1 (lenv : LogEnv)
  | kill (env : Env) (lenv : LogEnv)
  | close (fails : List Bool)
  | other (op : FileOp)

namespace Logged

/-- The handler of `SIGUSR1` is printing, and the signal is blocked. -/
def handling (w : Logged) : Bool := w.todo.any fun x => x.author = .handler

/-- `main` has come to a fault, or its clean-up is over. -/
def ended (w : Logged) : Bool :=
  match w.fate, w.proc.phase with
  | .crashes _, _ => true
  | _, .done => true
  | _, _ => false

section Step

variable (cfg : Config) (progname : Bytes)

/-- `main` goes on. -/
def onRun (w : Logged) (env : Env) (lenv : LogEnv) : Logged :=
  match w.ctxt.run cfg env w.sys w.proc with
  | .ok (sys, p') =>
      { w with
        sys := sys
        proc := p'
        ctxt := w.ctxt.after w.proc p'
        log := stepLog lenv w.proc p' w.log
        todo := stepPuts cfg progname env lenv w.sys w.proc p' w.ctxt }
  | .error f => { w with todo := faultPuts cfg env w.sys w.proc f, fate := .crashes f }

/-- `SIGUSR1`: the test on `err_file` and `logfilename`, and the warning in front of what `main` was
about to print. -/
def onUsr1 (w : Logged) (lenv : LogEnv) : Logged :=
  match w.log.errFile, w.proc.opts.logfilename with
  | .file f, some path =>
    if 2 < f.fd then
      { w with
        log := w.log.freopen f path lenv
        todo := reopenPuts cfg progname lenv ++ w.todo }
    else w
  | _, _ => w

/-- `SIGINT` or `SIGTERM`: the record that was being printed is not finished. -/
def onKill (w : Logged) (env : Env) (lenv : LogEnv) : Logged :=
  match w.ctxt.finish cfg env w.sys w.proc with
  | .ok (sys, p') =>
      { w with
        sys := sys
        proc := p'
        todo := cleanupPuts cfg progname env lenv w.sys w.proc w.ctxt
        fate := .killed }
  | .error f => { w with proc := w.proc.goto .done, todo := [], fate := .crashes f }

def step (w : Logged) : Event → Logged
  | .run env lenv =>
    if !w.closed && !w.ended && w.todo.isEmpty then w.onRun cfg progname env lenv else w
  | .put n fails =>
    match w.todo with
    | [] => w
    | x :: todo =>
        { w with
          log := w.log.put x n fails
          todo := todo
          said := w.said ++ [(w.log.target x, x)] }
  | .usr1 lenv => if !w.closed && !w.handling then w.onUsr1 cfg progname lenv else w
  | .kill env lenv => if w.proc.phase = .done then w else w.onKill cfg progname env lenv
  | .close fails =>
    if !w.closed && w.ended && w.todo.isEmpty then
      { w with proc := w.proc.goto .done, log := w.log.close w.fate fails, closed := true }
    else w
  | .other op => { w with log := { w.log with disk := w.log.disk.apply op } }

end Step

end Logged

/-- The start of a `banipd` and of its log; nothing has been printed yet. -/
structure Launch where
  lenv : LogEnv
  disk : Disk
  intact : ∀ s, disk.lost s = 0
  stderr : Sink
  cwd : Bytes
  sys : System
  uid : Nat
  pid : Nat
  umask : Nat
  argc : Nat
  argv : List Opt
  malloc : Bool

namespace Launch

variable (cfg : Config) (progname : Bytes) (b : Launch)

/-- A process that was started; if `queue_init` fails, that is all it has to say. -/
def start : Logged :=
  let p := Daemon.start cfg b.uid b.pid b.umask b.argc b.argv b.malloc
  { sys := b.sys
    proc := p
    ctxt := .null
    log := ⟨b.disk, b.stderr, b.cwd, .null⟩
    todo :=
      match p.phase with
      | .done => record cfg progname b.lenv .main (str "queue_init failed") 0
      | _ => leavePuts cfg progname b.lenv p
    said := []
    fate := .exits
    closed := false }

/-- A process after some events. -/
def after (es : List Event) : Logged := es.foldl (Logged.step cfg progname) (b.start cfg progname)

end Launch

/-! ## The end of a round -/

/-- With a null slot and no report on the prefix part, the rest of a round comes to its end. -/
lemma parseRound_total {setup : Setup} (x : Arrival) {buffer : Bytes} {st : LoopState}
    (hslot : st.error = none) (hstarts : prefixText setup.host x.errno (cstr buffer) = none) :
    ∃ st', parseRound setup x buffer st = .ok st' := by
  unfold parseRound
  rw [hslot]
  rcases parseAddr_slot setup.host setup.libc x.errno (cstr buffer) with ⟨a, ha⟩ | ⟨text, htext⟩
  · rw [ha none, hstarts]
    exact ⟨_, bind_eq_ok.2 ⟨(some a, none), rfl, bind_eq_ok.2 ⟨_, report_of_null _, rfl⟩⟩⟩
  · rw [htext none, hstarts]
    exact ⟨_, rfl⟩

/-- A round that ends in the invalid free has overwritten a text. -/
lemma overwritten_of_fault {cfg : Config} {env : Env} {sys : System} {p : Proc} {loop : LoopState}
    (hrun : receiveRound cfg env sys p loop = .error .invalidFree) :
    ∃ e, overwritten cfg env sys p loop = some e := by
  cases hslot : loop.error with
  | some e => exact ⟨e, by simp [overwritten, hslot]⟩
  | none =>
    unfold receiveRound at hrun
    cases hqueue : p.queue with
    | none => simp [hqueue] at hrun
    | some q =>
      cases hbuffer : p.buffer with
      | none => simp [hqueue, hbuffer] at hrun
      | some buffer =>
        simp only [hqueue, hbuffer] at hrun
        rcases bind_eq_error.1 hrun with hreceive | ⟨r, hr, hrest⟩
        · exact absurd rfl (Handle.queueReceive_fault hreceive)
        · have heq : overwritten cfg env sys p loop = prefixText cfg.host env.errno (cstr r.buffer) := by
            simp only [overwritten, hslot, hqueue, hbuffer, hr]
          rw [heq]
          cases hstarts : prefixText cfg.host env.errno (cstr r.buffer) with
          | some e => exact ⟨e, rfl⟩
          | none =>
            -- nothing is in the slot when the round comes to its report
            have hloop : ∃ loop', afterReceive cfg env p loop r = .ok loop' := by
              unfold afterReceive
              split
              · rw [hslot, report_of_null]
                exact ⟨_, rfl⟩
              · exact parseRound_total _ hslot hstarts
            rcases hloop with ⟨loop', hloop'⟩
            rw [hloop'] at hrest
            cases hrest

/-! ## What the operations do to a sink -/

namespace Log

variable {l : Log} {s : Sink}

/-- What waits for a sink is drained, and nothing waits any more. -/
lemma tally_flush (l' : Log) {f : Stream} (fails : List Bool) (hfile : l.errFile = .file f)
    (hdata : l'.disk.data = (f.flush fails l.disk).data)
    (hlost : l'.disk.lost = (f.flush fails l.disk).lost) (hpending : l'.pending s = [])
    (hs : s ≠ .null) : ∃ n, l'.tally s = (l.tally s).drain fails n := by
  refine ⟨(survive fails f.pending).length, ?_⟩
  unfold tally
  rw [hdata, hlost, hpending, Stream.flush, Disk.print, Disk.data_write _ _ _ _ hs,
    Disk.lost_write _ _ _ _ hs]
  by_cases hsink : f.sink = s
  · simp [Tally.drain, pending, hfile, hsink]
  · simp [Tally.drain, pending, hfile, hsink]

@[simp] lemma data_attach (path : Bytes) (fd : Nat) : (l.attach path fd).disk.data = l.disk.data :=
  Disk.data_openAppend _

@[simp] lemma lost_attach (path : Bytes) (fd : Nat) : (l.attach path fd).disk.lost = l.disk.lost :=
  Disk.lost_openAppend _

@[simp] lemma pending_attach (path : Bytes) (fd : Nat) : (l.attach path fd).pending s = [] := by
  simp [attach, pending]

lemma tally_freopen {f : Stream} (hfile : l.errFile = .file f) (path : Bytes) (lenv : LogEnv)
    (hs : s ≠ .null) : ∃ n, (l.freopen f path lenv).tally s = (l.tally s).drain lenv.fails n := by
  unfold freopen
  cases lenv.fopen with
  | error errno => exact tally_flush _ lenv.fails hfile rfl rfl rfl hs
  | ok fd =>
    exact tally_flush _ lenv.fails hfile (data_attach path fd) (lost_attach path fd)
      (pending_attach path fd) hs

lemma pending_close (l : Log) (fate : Fate) (fails : List Bool) (s : Sink) :
    (l.close fate fails).pending s = [] := by
  cases hfile : l.errFile with
  | file f =>
    cases fate with
    | exits | killed =>
      simp only [close, hfile]
      split <;> simp [pending]
    | crashes fault => simp [close, hfile, pending]
  | null | stderr => cases fate <;> simp [close, hfile, pending]

/-- Nothing waits in the buffer. -/
def Idle (l : Log) : Prop := ∀ f, l.errFile = .file f → f.pending = []

lemma Idle.pending (h : l.Idle) (s : Sink) : l.pending s = [] := by
  unfold Log.pending
  split
  · rename_i f hfile
    simp [h f hfile]
  · rfl

lemma Idle.attach (path : Bytes) (fd : Nat) : (l.attach path fd).Idle := by
  rintro f ⟨⟩
  rfl

lemma Idle.openLog (path : Bytes) (fopen : Except Nat Nat) : (l.openLog path fopen).Idle := by
  cases fopen with
  | error errno => exact fun f hf => nomatch hf
  | ok fd => exact .attach path fd

lemma Idle.freopen (f : Stream) (path : Bytes) (lenv : LogEnv) : (l.freopen f path lenv).Idle := by
  unfold Log.freopen
  cases lenv.fopen with
  | error errno => exact fun f hf => nomatch hf
  | ok fd => exact .attach path fd

lemma Idle.detach (h : l.Idle) (vFlag : Nat) : (l.detach vFlag).Idle := by
  intro f hf
  unfold Log.detach at hf
  split at hf
  · exact h f hf
  · cases hfile : l.errFile with
    | file g =>
      simp only [hfile, ErrFile.file.injEq] at hf
      subst hf
      split <;> exact h g hfile
    | null => simp [hfile] at hf
    | stderr => simp [hfile] at hf

/-- What keeps the data and leaves nothing in the buffer makes no difference to an idle log. -/
lemma Idle.tally {l' : Log} (h : l.Idle) (h' : l'.Idle) (hdata : l'.disk.data = l.disk.data)
    (hlost : l'.disk.lost = l.disk.lost) : l'.tally s = l.tally s := by
  unfold Log.tally
  rw [h.pending, h'.pending, hdata, hlost]

lemma stream_put {x : Put} {n : Nat} {fails : List Bool} {f : Stream}
    (hf : (l.put x n fails).errFile = .file f) : ∃ g, l.errFile = .file g ∧ f.sink = g.sink := by
  unfold put at hf
  split at hf
  · exact ⟨f, hf, rfl⟩
  · rename_i g _ hg
    cases hf
    exact ⟨g, hg, rfl⟩
  · cases hf

lemma stream_detach {vFlag : Nat} {f : Stream} (hf : (l.detach vFlag).errFile = .file f) :
    ∃ g, l.errFile = .file g ∧ (f.sink = g.sink ∨ f.sink = .null) := by
  unfold detach at hf
  split at hf
  · exact ⟨f, hf, Or.inl rfl⟩
  · cases hfile : l.errFile with
    | file g =>
      simp only [hfile, ErrFile.file.injEq] at hf
      subst hf
      split
      · exact ⟨g, rfl, Or.inr rfl⟩
      · exact ⟨g, rfl, Or.inl rfl⟩
    | null | stderr => simp [hfile] at hf

/-- At the end of a process the log is flushed, if it is a file, and standard error is left alone. -/
lemma close_cases (l : Log) (fate : Fate) (fails : List Bool) :
    l.close fate fails = l ∨ ∃ f fails', l.errFile = .file f ∧
      (l.close fate fails).disk = f.flush fails' l.disk ∧ (l.close fate fails).stderr = l.stderr ∧
      ((l.close fate fails).errFile = .null ∨
        (l.close fate fails).errFile = .file { f with pending := [] }) := by
  unfold close
  split
  · rename_i f hfile
    refine Or.inr ⟨f, fails, hfile, ?_⟩
    split
    · exact ⟨rfl, rfl, Or.inl rfl⟩
    · exact ⟨rfl, rfl, Or.inr rfl⟩
  · rename_i f hfile
    split
    · exact Or.inr ⟨f, fails, hfile, rfl, rfl, Or.inl rfl⟩
    · exact Or.inr ⟨f, f.all, hfile, rfl, rfl, Or.inr rfl⟩
  · rename_i f fault hfile
    exact Or.inr ⟨f, f.all, hfile, rfl, rfl, Or.inr rfl⟩
  · exact Or.inl rfl

end Log

end Logging
end Daemon
end Banip
