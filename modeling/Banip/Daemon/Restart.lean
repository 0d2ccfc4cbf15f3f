import Banip.Daemon.Main
import Banip.Lib.Runs

/-!
# Restart — what a `banipd` leaves behind when a signal ends it

A `banipd` started by root creates its pid file and its queue as root, and then gives up its uid if
the engine allows it.  On `SIGINT` and `SIGTERM` it calls `cleanup`, which removes the queue and the
pid file under the uid the process has by then.

A removal is permitted to root and to the uid that created the object.  The results say that a
signal leaves nothing behind, so that the next `banipd` can create the same objects, if and only if
the uid is still 0: with an engine that drops privileges the clean-up of a running daemon fails, and
it fails silently.
-/

namespace Banip
namespace Daemon

open Lib

/-! ## One daemon and its senders -/

/-- A step of the daemon, or messages coming and going in a queue. -/
inductive Event where
  | run (env : Env)
  | mqTraffic (i : Nat) (msgs : List Bytes)
  | ipcTraffic (i : Nat) (msgs : List Bytes)

def next (cfg : Config) (s : System × Proc) : Event → Except Fault (System × Proc)
  | .run env => run cfg env s.1 s.2
  | .mqTraffic i msgs => .ok ({ s.1 with mqs := s.1.mqs.setMsgs i msgs }, s.2)
  | .ipcTraffic i msgs => .ok ({ s.1 with ipc := s.1.ipc.setMsgs i msgs }, s.2)

/-! ## Restartability -/

/-- Every name, file and key that was free before is free again: what was created is gone. -/
structure Restored (before after : System) : Prop where
  mqs : ∀ name, before.mqs.names name = none → after.mqs.names name = none
  files : ∀ path, before.files.find path = none → after.files.find path = none
  keys : ∀ key, before.ipc.names key = none → after.ipc.names key = none

/-- No call of an owner's open fails for a reason of the environment. -/
structure OpenOutcome.Succeeds (out : OpenOutcome) : Prop where
  strdup : out.posix.strdup = true
  mqOpen : out.posix.mqOpen = none
  systemv : out.systemv.Succeeds

/-- Nothing that was there before the run is in the way of an owner's open after it. -/
def Unobstructed (cfg : Config) (before after : System) (out : OpenOutcome) (name : Bytes) : Prop :=
  match cfg.backend with
  | .posix => before.mqs.names name = none
  | .systemv =>
      ∃ filename id, SystemV.ownerName cfg.os out.systemv.stack name = .ok (.ok (filename, id)) ∧
        before.files.find filename = none ∧
        before.ipc.names (SystemV.newKey cfg.os after.files id) = none

/-- A new process can open the queue as its owner. -/
def Reopens (cfg : Config) (before after : System) (name : Bytes) : Prop :=
  ∀ out uid self umask q, Handle.queueInit cfg.os true cfg.backend = .ok q → out.Succeeds →
    Unobstructed cfg before after out name →
      ∃ r, q.queueOpen cfg.host cfg.os out uid self after umask name ⟨false, true⟩ = .ok r ∧
        r.ok = true

/-- The run has left nothing behind, and a later `banipd` can open the queue. -/
structure Restartable (cfg : Config) (before after : System) (name : Bytes) : Prop where
  restored : Restored before after
  reopens : Reopens cfg before after name

/-! ## What the daemon has created so far -/

/-- Every file that is new satisfies `P`. -/
def NewFiles (before after : Files) (P : Bytes → Prop) : Prop :=
  ∀ path, before.find path = none → after.find path ≠ none → P path

/-- No object is new but the files that satisfy `P`. -/
structure FilesOnly (before sys : System) (P : Bytes → Prop) : Prop where
  files : NewFiles before.files sys.files P
  mqs : sys.mqs.names = before.mqs.names
  keys : sys.ipc.names = before.ipc.names

/-- The handle is on a queue that this run has created as root; apart from it and from the files that
satisfy `P` nothing is new. -/
inductive Owning (cfg : Config) (before sys : System) (P : Bytes → Prop) : Handle → Prop where
  | posix {q : Posix.PosixQueue} {name : Bytes} {i : Nat} {kq : Mq}
      (hbackend : cfg.backend = .posix)
      (hfilename : q.filename = some name) (hfree : before.mqs.names name = none)
      (hname : sys.mqs.names name = some i) (hkq : sys.mqs.objects i = some kq)
      (huid : kq.uid = 0) (hmqs : ∀ n, n ≠ name → sys.mqs.names n = before.mqs.names n)
      (hkeys : sys.ipc.names = before.ipc.names)
      (hfiles : NewFiles before.files sys.files P) : Owning cfg before sys P (.posix q)
  | systemv {q : SystemV.SystemvQueue} {path : Bytes} {i key : Nat} {mq : MsgQueue} {f : File}
      (hbackend : cfg.backend = .systemv)
      (hfilename : q.filename = some path) (hqid : q.qid = some i)
      (hfree : before.ipc.names key = none) (hkey : sys.ipc.names key = some i)
      (hmq : sys.ipc.objects i = some mq) (huid : mq.uid = 0)
      (hkeys : ∀ k, k ≠ key → sys.ipc.names k = before.ipc.names k)
      (hmqs : sys.mqs.names = before.mqs.names) (hf : sys.files.find path = some f)
      (hfiles : NewFiles before.files sys.files fun path' => path' = path ∨ P path')
      (hfits : cfg.host.longBytes ≤ SystemV.allocSize cfg.host (sys.msgmnb / 8)) :
      Owning cfg before sys P (.systemv q)

section

variable {cfg : Config} {before sys sys' : System} {P : Bytes → Prop} {q q' : Handle}

lemma FilesOnly.quiet (hfiles : FilesOnly before sys P) (hquiet : sys.Quiet sys') :
    FilesOnly before sys' P := by
  refine ⟨?_, hquiet.mqNames.trans hfiles.mqs, hquiet.keys.trans hfiles.keys⟩
  rw [hquiet.files]
  exact hfiles.files

/-- Messages that come and go do not change what the daemon owns. -/
lemma Owning.quiet (hown : Owning cfg before sys P q) (hquiet : sys.Quiet sys')
    (hsame : q.Same q') : Owning cfg before sys' P q' := by
  rcases hsame with ⟨hback, hid, hfile⟩
  cases hown with
  | posix hbackend hfilename hfree hname hkq huid hmqs hkeys hfiles =>
    cases q' with
    | systemv q' => cases hback
    | posix q' =>
      rcases hquiet.mqs _ _ hkq with ⟨msgs, hkq'⟩
      refine .posix hbackend (hfile.trans hfilename) hfree ?_ hkq' huid ?_ ?_ ?_
      · rw [hquiet.mqNames, hname]
      · rwa [hquiet.mqNames]
      · rw [hquiet.keys, hkeys]
      · rwa [hquiet.files]
  | systemv hbackend hfilename hqid hfree hkey hmq huid hkeys hmqs hf hfiles hfits =>
    cases q' with
    | posix q' => cases hback
    | systemv q' =>
      rcases hquiet.ipc _ _ hmq with ⟨msgs, hmq'⟩
      rw [← hquiet.files] at hf hfiles
      refine .systemv hbackend (hfile.trans hfilename) (hid.trans hqid) hfree ?_ hmq' huid ?_ ?_ hf
        hfiles ?_
      · rw [hquiet.keys, hkey]
      · rwa [hquiet.keys]
      · rw [hquiet.mqNames, hmqs]
      · rwa [hquiet.msgmnb]

/-- An owner's open by root makes the handle own its queue. -/
lemma Owning.of_open {out : OpenOutcome} {self umask : Nat} {name : Bytes}
    {r : Opened Handle System} (hfiles : FilesOnly before sys P) (hbackend : q.backend = cfg.backend)
    (hopen : q.queueOpen cfg.host cfg.os out 0 self sys umask name ⟨false, true⟩ = .ok r)
    (hok : r.ok = true) : Owning cfg before r.kernel P r.queue := by
  cases q with
  | posix q =>
    cases hopen
    rcases Posix.queueOpen_owner_ok rfl hok with ⟨hfree, hcreated⟩
    rw [hcreated]
    refine .posix hbackend.symm rfl (hfiles.mqs ▸ hfree) (Registry.create_names_self sys.mqs _)
      (Registry.create_objects_self sys.mqs _) rfl (fun n hn => ?_) hfiles.keys hfiles.files
    rw [← hfiles.mqs]
    exact Registry.create_names_of_ne hn
  | systemv q =>
    rcases bind_eq_ok.1 hopen with ⟨s, hs, hr⟩
    cases hr
    rcases SystemV.queueOpen_made rfl hs hok with ⟨filename, id, -, hmade⟩
    rw [hmade.kernel]
    refine .systemv hbackend.symm hmade.filename hmade.qid (hfiles.keys ▸ hmade.key_free)
      (Registry.create_names_self sys.ipc _) (Registry.create_objects_self sys.ipc _) rfl
      (fun n hn => ?_) hfiles.mqs (SystemV.find_keyFile_self _ sys.files filename id) ?_ hmade.fits
    · rw [← hfiles.keys]
      exact Registry.create_names_of_ne hn
    · intro path hbefore hafter
      by_cases hpath : path = filename
      · exact Or.inl hpath
      · refine Or.inr (hfiles.files path hbefore ?_)
        rwa [SystemV.find_keyFile_of_ne _ sys.files id hpath] at hafter

/-! ## What `cleanup` removes -/

/-- The kernel has no other reason to refuse the calls of `cleanup` than missing permission. -/
structure Env.Permits (env : Env) : Prop where
  closeFirst : env.closeFirst = none
  closeSecond : env.closeSecond = none
  unlinkPid : env.unlinkPid = none

variable {env : Env} {p : Proc}

/-- Root removes the pid file. -/
lemma removePid_root {files : Files} {path : Bytes} (henv : env.unlinkPid = none)
    (huid : p.uid = 0) (hfind : (removePid env.unlinkPid files p).find path ≠ none) :
    files.find path ≠ none ∧ p.opts.pidfilename ≠ some path := by
  unfold removePid at hfind
  cases hpid : p.opts.pidfilename with
  | none =>
    simp only [hpid] at hfind
    exact ⟨hfind, by simp⟩
  | some pidfile =>
    cases hf : files.find pidfile with
    | none =>
      simp only [hpid, Files.unlink, henv, hf] at hfind
      refine ⟨hfind, ?_⟩
      rintro ⟨rfl⟩
      exact hfind hf
    | some f =>
      simp only [hpid, Files.unlink, henv, hf, huid, true_or, if_true] at hfind
      by_cases hpath : path = pidfile
      · subst hpath
        simp at hfind
      · rw [Files.find_remove_of_ne hpath] at hfind
        exact ⟨hfind, fun h => hpath (Option.some.inj h).symm⟩

/-- The clean-up of root removes what the run has created. -/
lemma cleanup_restored (hown : Owning cfg before sys (fun path => p.opts.pidfilename = some path) q)
    (hqueue : p.queue = some q) (huid : p.uid = 0) (henv : env.Permits) :
    Restored before (cleanup cfg env sys p).1 ∧
      (cleanup cfg env sys p).1.msgmnb = sys.msgmnb := by
  unfold cleanup
  rw [hqueue, huid, henv.closeFirst, henv.closeSecond]
  cases hown with
  | @posix q name i kq hbackend hfilename hfree hname hkq hkuid hmqs hkeys hfiles =>
    simp only [Handle.queueClose, Posix.queueClose_removes hfilename hname hkq (Or.inl rfl)]
    refine ⟨⟨fun n hn => ?_, fun path hpath => ?_, fun key hkey => ?_⟩, trivial⟩
    · -- `mq_unlink` has freed the only name that was new
      by_cases hnn : n = name
      · simp [hnn, Registry.unname]
      · rw [Registry.unname_names_of_ne hnn, hmqs n hnn, hn]
    · -- the only new file was the pid file
      by_contra hnew
      rcases removePid_root henv.unlinkPid huid hnew with ⟨hstill, hnotPid⟩
      exact hnotPid (hfiles path hpath hstill)
    · rw [hkeys, hkey]
  | @systemv q path i key mq f hbackend hfilename hqid hfree hkey hmq hkuid hkeys hmqs hf hfiles
      hfits =>
    simp only [Handle.queueClose,
      SystemV.queueClose_removes hfilename hqid hmq hf (Or.inl rfl) (Or.inl rfl)]
    refine ⟨⟨fun n hn => ?_, fun path' hpath => ?_, fun key' hkey' => ?_⟩, trivial⟩
    · rw [hmqs, hn]
    · -- the new files were the key file, which the close has removed, and the pid file
      by_contra hnew
      rcases removePid_root henv.unlinkPid huid hnew with ⟨hstill, hnotPid⟩
      by_cases hkeyFile : path' = path
      · subst hkeyFile
        simp at hstill
      · rw [Files.find_remove_of_ne hkeyFile] at hstill
        rcases hfiles path' hpath hstill with hsame | hpid
        · exact hkeyFile hsame
        · exact hnotPid hpid
    · by_cases hkk : key' = key
      · subst hkk
        simp [Registry.remove, hkey]
      · simp [Registry.remove, hkeys key' hkk, hkey']

/-- The clean-up of another uid leaves the queue. -/
lemma cleanup_not_restored (hown : Owning cfg before sys P q) (hqueue : p.queue = some q)
    (huid : p.uid ≠ 0) : ¬ Restored before (cleanup cfg env sys p).1 := by
  intro hrestored
  unfold cleanup at hrestored
  rw [hqueue] at hrestored
  cases hown with
  | posix hbackend hfilename hfree hname hkq hkuid hmqs hkeys hfiles =>
    -- `mq_unlink` is refused, and the name stays
    have hdenied : p.uid ≠ 0 ∧ p.uid ≠ _ := ⟨huid, hkuid ▸ huid⟩
    simp only [Handle.queueClose, Posix.queueClose_denied env.closeFirst env.closeSecond hfilename
      hname hkq hdenied] at hrestored
    have hgone := hrestored.mqs _ hfree
    rw [hname] at hgone
    cases hgone
  | systemv hbackend hfilename hqid hfree hkey hmq hkuid hkeys hmqs hf hfiles hfits =>
    -- `IPC_RMID` is refused, and `queue_close` stops there
    have hdenied : p.uid ≠ 0 ∧ p.uid ≠ _ := ⟨huid, hkuid ▸ huid⟩
    simp only [Handle.queueClose, SystemV.queueClose_denied env.closeFirst env.closeSecond hfilename
      hqid hmq hdenied] at hrestored
    have hgone := hrestored.keys _ hfree
    rw [hkey] at hgone
    cases hgone

/-- What is free again can be created again. -/
lemma Restored.reopens {after : System} (hrestored : Restored before after) (name : Bytes)
    (hfits : cfg.backend = .systemv →
      cfg.host.longBytes ≤ SystemV.allocSize cfg.host (after.msgmnb / 8)) :
    Reopens cfg before after name := by
  intro out uid self umask q hinit hout hclear
  unfold Unobstructed at hclear
  cases hbackend : cfg.backend with
  | posix =>
    rw [hbackend] at hinit
    simp only [hbackend] at hclear
    cases hinit
    refine ⟨_, rfl, ?_⟩
    rw [Posix.queueOpen_created rfl hout.strdup hout.mqOpen (hrestored.mqs name hclear)]
  | systemv =>
    rw [hbackend] at hinit
    simp only [hbackend] at hclear
    cases hinit
    rcases hclear with ⟨filename, id, howner, hfile, hkey⟩
    have hopen : ∃ r, SystemV.queueOpen cfg.host cfg.os out.systemv uid after.toKernel umask
        ⟨none, none, none, 0⟩ name ⟨false, true⟩ = .ok r ∧ r.ok = true :=
      SystemV.queueOpen_succeeds rfl hout.systemv howner (hrestored.files filename hfile)
        (hrestored.keys _ hkey) (hfits hbackend)
    rcases hopen with ⟨r, hr, hok⟩
    refine ⟨⟨r.ok, .systemv r.queue, { after with toKernel := r.kernel }, r.umask, r.error⟩, ?_, hok⟩
    simp only [Handle.queueOpen, hr]
    rfl

end

/-! ## The run up to the signal -/

/-- Before the queue is open the process is root's and only files that satisfy `P` are new. -/
structure Starting (cfg : Config) (before sys : System) (p : Proc) (P : Bytes → Prop) : Prop where
  uid : p.uid = 0
  backend : ∀ q, p.queue = some q → q.backend = cfg.backend
  files : FilesOnly before sys P

/-- The process owns a queue that it created as root. -/
def Owned (cfg : Config) (before sys : System) (p : Proc) : Prop :=
  ∃ q, p.queue = some q ∧ Owning cfg before sys (fun path => p.opts.pidfilename = some path) q

/-- What is known at each point of `main`. -/
def Inv (cfg : Config) (before : System) (s : System × Proc) : Prop :=
  match s.2.phase with
  | .options _ | .daemonize | .writePid => Starting cfg before s.1 s.2 fun _ => False
  | .setGroup | .openQueue =>
      Starting cfg before s.1 s.2 fun path => s.2.opts.pidfilename = some path
  | .allocate | .dropPrivileges => s.2.uid = 0 ∧ Owned cfg before s.1 s.2
  | .receive _ => Owned cfg before s.1 s.2
  | .exiting _ | .done => True

section

variable {cfg : Config} {env : Env} {before sys sys' : System} {p p' : Proc}

lemma writePid_find {files : Files} {path : Bytes} (hfind : (writePid env files p).find path ≠ none) :
    files.find path ≠ none ∨ p.opts.pidfilename = some path := by
  unfold writePid at hfind
  cases hpid : p.opts.pidfilename with
  | none =>
    simp only [hpid] at hfind
    exact Or.inl hfind
  | some pidfile =>
    by_cases hpath : path = pidfile
    · exact Or.inr (by rw [hpath])
    · left
      simp only [hpid] at hfind
      cases hopen : files.fopenWrite pidfile p.uid env.fopenPid with
      | error errno =>
        simp only [hopen] at hfind
        exact hfind
      | ok files' =>
        simp only [hopen] at hfind
        rw [Files.find_write_of_ne hpath, Files.fopenWrite_find_of_ne hopen hpath] at hfind
        exact hfind

lemma Inv.move (hinv : Inv cfg before (sys, p)) (hmove : Move cfg env sys p sys' p') :
    Inv cfg before (sys', p') := by
  unfold Inv at hinv ⊢
  cases hmove with
  | option hphase heffect =>
    simp only [hphase] at hinv
    rcases heffect.phase with hopt | ⟨how, hexit⟩
    · simp only [hopt]
      refine ⟨heffect.uid.trans hinv.uid, fun q' hq' => ?_, hinv.files⟩
      rcases heffect.queue q' hq' with ⟨q, hq, hsame⟩
      exact hsame.backend.trans (hinv.backend q hq)
    · simp only [hexit]
  | parsed hphase =>
    simp only [hphase] at hinv
    exact ⟨hinv.uid, hinv.backend, hinv.files⟩
  | failed hphase => trivial
  | detached hphase =>
    simp only [hphase] at hinv
    exact ⟨hinv.uid, hinv.backend, hinv.files⟩
  | wrote hphase =>
    -- from here on the pid file may be new
    simp only [hphase] at hinv
    refine ⟨hinv.uid, hinv.backend, fun path hbefore hafter => ?_, hinv.files.mqs, hinv.files.keys⟩
    rcases writePid_find hafter with hold | hpid
    · exact (hinv.files.files path hbefore hold).elim
    · exact hpid
  | grouped hphase =>
    simp only [hphase] at hinv
    exact ⟨hinv.uid, hinv.backend, hinv.files⟩
  | @opened q r hphase hqueue hopen hok =>
    simp only [hphase] at hinv
    -- root creates the queue
    rw [hinv.uid] at hopen
    exact ⟨hinv.uid, r.queue, rfl,
      Owning.of_open hinv.files (hinv.backend q hqueue) hopen hok⟩
  | refused hphase hqueue hopen hok => trivial
  | allocated hphase =>
    simp only [hphase] at hinv
    exact hinv
  | dropped hphase =>
    -- the uid is lost here; what the process owns is not
    simp only [hphase] at hinv
    exact hinv.2
  | @received sys' q q' buffer loop loop' hphase hqueue hquiet hsame hround =>
    simp only [hphase] at hinv
    rcases hinv with ⟨q₀, hq₀, hown⟩
    cases hqueue.symm.trans hq₀
    exact ⟨q', rfl, hown.quiet hquiet hsame⟩
  | exited hphase => trivial
  | rest hphase => simp only [hphase]

lemma Inv.quiet (hinv : Inv cfg before (sys, p)) (hquiet : sys.Quiet sys') :
    Inv cfg before (sys', p) := by
  have hstarting : ∀ {P}, Starting cfg before sys p P → Starting cfg before sys' p P := by
    intro P hstart
    exact ⟨hstart.uid, hstart.backend, hstart.files.quiet hquiet⟩
  have howned : Owned cfg before sys p → Owned cfg before sys' p := by
    rintro ⟨q, hq, hown⟩
    exact ⟨q, hq, hown.quiet hquiet (Handle.Same.refl q)⟩
  unfold Inv at hinv ⊢
  cases hphase : p.phase with
  | options _ | daemonize | writePid | setGroup | openQueue =>
    simp only [hphase] at hinv ⊢
    exact hstarting hinv
  | allocate | dropPrivileges =>
    simp only [hphase] at hinv ⊢
    exact ⟨hinv.1, howned hinv.2⟩
  | receive loop =>
    simp only [hphase] at hinv ⊢
    exact howned hinv
  | exiting _ | done => trivial

lemma Inv.next {s s' : System × Proc} (e : Event) (hinv : Inv cfg before s)
    (hstep : next cfg s e = .ok s') : Inv cfg before s' := by
  cases e with
  | run env => exact hinv.move (run_move hstep)
  | mqTraffic i msgs =>
    cases hstep
    exact hinv.quiet (.setMqs s.1 i msgs)
  | ipcTraffic i msgs =>
    cases hstep
    exact hinv.quiet (.setIpc s.1 i msgs)

lemma Inv.start (before : System) (pid umask argc : Nat) (argv : List Opt) (malloc : Bool) :
    Inv cfg before (before, start cfg 0 pid umask argc argv malloc) := by
  unfold Daemon.start
  cases hinit : Handle.queueInit cfg.os malloc cfg.backend with
  | error text => trivial
  | ok q =>
    have hbackend : q.backend = cfg.backend := Handle.queueInit_backend hinit
    cases hengine : getDefaultEngine cfg with
    | none => trivial
    | some kind =>
      refine ⟨rfl, ?_, fun _ hnone hsome => hsome hnone, rfl, rfl⟩
      rintro q' ⟨rfl⟩
      exact hbackend

/-! ## The loop inside the process -/

lemma Owning.backend {P : Bytes → Prop} {q : Handle} (hown : Owning cfg before sys P q) :
    q.backend = cfg.backend := by
  cases hown with
  | posix hbackend => exact hbackend.symm
  | systemv hbackend => exact hbackend.symm

/-- The state of the loop is one that rounds lead to. -/
def InRounds (cfg : Config) (p : Proc) : Prop :=
  ∀ loop, p.phase = .receive loop → ∃ xs, exec (round (setup cfg p)) .start xs = .ok loop

lemma InRounds.move (hstrerror : cfg.libc.strerror = cfg.os.strerror)
    (hinv : Inv cfg before (sys, p)) (hrounds : InRounds cfg p)
    (hmove : Move cfg env sys p sys' p') : InRounds cfg p' := by
  intro loop hloop
  cases hmove with
  | option hphase heffect =>
    rcases heffect.phase with hopt | ⟨how, hexit⟩
    · cases hopt.symm.trans hloop
    · cases hexit.symm.trans hloop
  | dropped hphase =>
    cases hloop
    exact ⟨[], rfl⟩
  | @received sys' q q' buffer loop₀ loop' hphase hqueue hquiet hsame hround =>
    cases hloop
    simp only [Inv, hphase] at hinv
    rcases hinv with ⟨q₀, hq₀, hown⟩
    cases hqueue.symm.trans hq₀
    -- one more arrival after those that led to `loop₀`
    rcases hrounds loop₀ hphase with ⟨xs, hxs⟩
    rcases hround hown.backend hstrerror with ⟨recv, hrecv⟩
    refine ⟨xs ++ [arrival env recv], exec_append_ok.2 ⟨loop₀, hxs, ?_⟩⟩
    exact exec_cons_ok.2 ⟨loop, hrecv, rfl⟩
  | rest hphase => cases hphase.symm.trans hloop
  | parsed | failed | detached | wrote | grouped | opened | refused | allocated | exited =>
    cases hloop

/-- Whatever the senders do, the loop of a daemon is a run of `round`: what holds of every such run
holds of the daemon. -/
theorem loop_is_rounds {pid umask argc : Nat} {argv : List Opt} {malloc : Bool}
    {events : List Event} (hstrerror : cfg.libc.strerror = cfg.os.strerror)
    (hrun : exec (next cfg) (before, start cfg 0 pid umask argc argv malloc) events =
      .ok (sys, p)) : InRounds cfg p := by
  have hstep : ∀ s e s', Inv cfg before s ∧ InRounds cfg s.2 → next cfg s e = .ok s' →
      Inv cfg before s' ∧ InRounds cfg s'.2 := by
    rintro s e s' ⟨hinv, hrounds⟩ hstep
    refine ⟨hinv.next e hstep, ?_⟩
    cases e with
    | run env => exact hrounds.move hstrerror hinv (run_move hstep)
    | mqTraffic i msgs =>
      cases hstep
      exact hrounds
    | ipcTraffic i msgs =>
      cases hstep
      exact hrounds
  have hstart : InRounds cfg (start cfg 0 pid umask argc argv malloc) := by
    intro loop hloop
    unfold Daemon.start at hloop
    split at hloop
    · cases hloop
    · split at hloop <;> cases hloop
  exact (exec_preserves hstep ⟨Inv.start before pid umask argc argv malloc, hstart⟩ hrun).2

/-! ## The signal -/

/-- The points of `main` at which the process has its queue. -/
def Phase.HasQueue : Phase → Prop
  | .allocate | .dropPrivileges | .receive _ => True
  | _ => False

instance : DecidablePred Phase.HasQueue
  | .allocate | .dropPrivileges | .receive _ => isTrue trivial
  | .options _ | .daemonize | .writePid | .setGroup | .openQueue | .exiting _ | .done =>
      isFalse id

/-- A `banipd` that root started and that has opened its queue leaves nothing behind when `SIGINT` or
`SIGTERM` ends it, and the queue can be opened again, if and only if it still runs as root. -/
theorem restartable_iff {pid umask argc : Nat} {argv : List Opt} {malloc : Bool}
    {events : List Event} {sig : Signal}
    (hrun : exec (next cfg) (before, start cfg 0 pid umask argc argv malloc) events =
      .ok (sys, p))
    (hqueue : p.phase.HasQueue) (hsig : sig ≠ .usr1) (henv : env.Permits) :
    Restartable cfg before (onSignal cfg env sys p sig).1 (p.opts.queuename.getD []) ↔
      p.uid = 0 := by
  have hinv : Inv cfg before (sys, p) :=
    exec_preserves (fun _ e _ hs hstep => hs.next e hstep)
      (Inv.start before pid umask argc argv malloc) hrun
  have howned : Owned cfg before sys p := by
    unfold Inv at hinv
    cases hphase : p.phase with
    | allocate | dropPrivileges =>
      simp only [hphase] at hinv
      exact hinv.2
    | receive loop =>
      simp only [hphase] at hinv
      exact hinv
    | options _ | daemonize | writePid | setGroup | openQueue | exiting _ | done =>
      rw [hphase] at hqueue
      exact hqueue.elim
  have hsignal : onSignal cfg env sys p sig = cleanup cfg env sys p := by
    apply onSignal_eq hsig
    intro hdone
    rw [hdone] at hqueue
    exact hqueue
  rcases howned with ⟨q, hq, hown⟩
  rw [hsignal]
  constructor
  · intro hrestart
    by_contra huid
    exact cleanup_not_restored hown hq huid hrestart.restored
  · intro huid
    rcases cleanup_restored hown hq huid henv with ⟨hrestored, hmsgmnb⟩
    refine ⟨hrestored, hrestored.reopens _ fun hbackend => ?_⟩
    rw [hmsgmnb]
    -- the size of the buffer did not wrap the first time
    cases hown with
    | posix hposix => simp [hposix] at hbackend
    | systemv _ _ _ _ _ _ _ _ _ _ _ hfits => exact hfits

end

/-! ## Two daemons -/

/-- The process 100 of root, started with these options. -/
def rootStart (backend : Backend) : System × Proc :=
  (.fresh, start (dummyConfig backend) 0 100 0o22 0 banipOptions true)

/-- The daemon starts, drops its privileges and handles one message. -/
def oneMessage (nobody : Nat) : List Event :=
  List.replicate 10 (.run (Env.smooth nobody)) ++
    [.mqTraffic 0 [str "1.2.3.4"], .ipcTraffic 0 [str "1.2.3.4" ++ [0, 0]],
      .run (Env.smooth nobody)]

/-- The uid of a daemon, the addresses it has handled, and what is left of its objects after a
`SIGTERM`. -/
structure Leftovers where
  uid : Nat
  handled : List Bytes
  queue : Option Nat
  keyFile : Option Bytes
  key : Option Nat
  pidFile : Option Bytes
deriving DecidableEq, Repr

def leftovers (cfg : Config) (env : Env) (s : System × Proc) : Leftovers :=
  let after := (onSignal cfg env s.1 s.2 .term).1
  { uid := s.2.uid
    handled := match s.2.phase with
      | .receive loop => loop.handled.map Addr.humanrepr
      | _ => []
    queue := after.mqs.names (str "/banip")
    keyFile := (after.files.find (str "/banip")).map File.data
    key := after.ipc.names (98 * 2 ^ 24 + 2)
    pidFile := (after.files.find (str "/run/banipd.pid")).map File.data }

/-- Where `nobody` is another name of root, the daemon can clean up. -/
theorem restartable_root_nobody :
    ∃ sys p, exec (next (dummyConfig .posix)) (rootStart .posix) (oneMessage 0) = .ok (sys, p) ∧
      Restartable (dummyConfig .posix) .fresh
        (onSignal (dummyConfig .posix) (Env.smooth 0) sys p .term).1
        (p.opts.queuename.getD []) := by
  have hobserved : (exec (next (dummyConfig .posix)) (rootStart .posix) (oneMessage 0)).map
      (fun s => (s.2.uid, decide s.2.phase.HasQueue)) = .ok (0, true) := by decide +kernel
  rcases map_eq_ok.1 hobserved with ⟨s, hrun, hpair⟩
  have hs : s.2.uid = 0 ∧ s.2.phase.HasQueue := by simpa using hpair
  exact ⟨s.1, s.2, hrun, (restartable_iff hrun hs.2 (by simp) ⟨rfl, rfl, rfl⟩).mpr hs.1⟩

/-- A run that leaves a queue behind is not restartable. -/
lemma not_restartable_of_leftovers {backend : Backend} {events : List Event} {l : Leftovers}
    {env : Env}
    (hrun : (exec (next (dummyConfig backend)) (rootStart backend) events).map
      (leftovers (dummyConfig backend) env) = .ok l)
    (hleft : l.queue ≠ none ∨ l.key ≠ none) :
    ∃ sys p, exec (next (dummyConfig backend)) (rootStart backend) events = .ok (sys, p) ∧
      leftovers (dummyConfig backend) env (sys, p) = l ∧
      ¬ Restartable (dummyConfig backend) .fresh
        (onSignal (dummyConfig backend) env sys p .term).1 (str "/banip") := by
  rcases map_eq_ok.1 hrun with ⟨s, hexec, rfl⟩
  refine ⟨s.1, s.2, hexec, rfl, fun hrestart => ?_⟩
  rcases hleft with hqueue | hkey
  · exact hqueue (hrestart.restored.mqs (str "/banip") rfl)
  · exact hkey (hrestart.restored.keys (98 * 2 ^ 24 + 2) rfl)

/-- A daemon of root with the dummy engine drops its privileges, handles `1.2.3.4` and is ended by
`SIGTERM`: with the POSIX backend its queue and its pid file stay, with the System V backend its
queue, its key file and its pid file. -/
theorem signal_leaves_queue :
    (engine Host.lp64 LibC.numeric .dummy).dropPrivileges = true ∧
      (∃ sys p, exec (next (dummyConfig .posix)) (rootStart .posix) (oneMessage 65534) =
          .ok (sys, p) ∧
        leftovers (dummyConfig .posix) (Env.smooth 65534) (sys, p) =
          ⟨65534, [str "1.2.3.4"], some 0, none, none, some (str "100\n")⟩ ∧
        ¬ Restartable (dummyConfig .posix) .fresh
          (onSignal (dummyConfig .posix) (Env.smooth 65534) sys p .term).1 (str "/banip")) ∧
      ∃ sys p, exec (next (dummyConfig .systemv)) (rootStart .systemv) (oneMessage 65534) =
          .ok (sys, p) ∧
        leftovers (dummyConfig .systemv) (Env.smooth 65534) (sys, p) =
          ⟨65534, [str "1.2.3.4"], none, some [98, 0, 0, 0], some 0, some (str "100\n")⟩ ∧
        ¬ Restartable (dummyConfig .systemv) .fresh
          (onSignal (dummyConfig .systemv) (Env.smooth 65534) sys p .term).1 (str "/banip") := by
  refine ⟨rfl, not_restartable_of_leftovers (by decide +kernel) (Or.inl (by simp)),
    not_restartable_of_leftovers (by decide +kernel) (Or.inr (by simp))⟩

end Daemon
end Banip
