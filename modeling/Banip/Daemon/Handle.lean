import Banip.Daemon.Loop
import Banip.Queue.Posix
import Banip.Queue.KeyFile

/-!
# Handle — the queue handle of a `banipd`

A `banipd` is linked with one of the two queue backends.  `System` is what the processes of one
machine share, `Handle` is what `static void *queue` points to, and the functions below are the
calls of `queue.h` as the linker resolves them.

`Quiet` relates two systems that differ in the messages of their queues only: that is all a receive
changes, and all the senders change.
-/

namespace Banip
namespace Daemon

open Lib

/-! ## The shared system and the handle -/

/-- The files, the queues of both kinds, and the capacity of a new System V queue. -/
structure System extends SystemV.Kernel where
  mqs : MqKernel

inductive Handle where
  | posix (q : Posix.PosixQueue)
  | systemv (q : SystemV.SystemvQueue)
deriving DecidableEq, Repr

/-- What the environment decides in a `queue_open` of either backend. -/
structure OpenOutcome where
  posix : Posix.OpenOutcome
  systemv : SystemV.OpenOutcome

namespace Handle

def backend : Handle → Backend
  | .posix _ => .posix
  | .systemv _ => .systemv

/-- The kernel's number of the queue. -/
def qid : Handle → Option Nat
  | .posix q => q.mq.map Mqd.qid
  | .systemv q => q.qid

/-- `q->filename`. -/
def filename : Handle → Option Bytes
  | .posix q => q.filename
  | .systemv q => q.filename

/-! ## The calls of `queue.h` -/

def queueInit (os : Os) (malloc : Bool) : Backend → Except Bytes Handle
  | .posix => (Posix.queueInit os malloc).map .posix
  | .systemv => (SystemV.queueInit os malloc).map .systemv

def queueSetAttribute (attr : QueueAttr) (value : Nat) : Handle → QueueErr × Handle
  | .posix q =>
      let (err, q) := Posix.queueSetAttribute q attr value
      (err, .posix q)
  | .systemv q => (SystemV.queueSetAttribute q attr value, .systemv q)

def queueGetAttribute (sys : System) (attr : QueueAttr) (fails : Option Nat) :
    Handle → Except QueueErr Nat
  | .posix q => Posix.queueGetAttribute q attr
  | .systemv q => SystemV.queueGetAttribute sys.ipc q attr fails

/-- `queue_open` in the process `self` of `uid`. -/
def queueOpen (h : Host) (os : Os) (out : OpenOutcome) (uid self : Nat) (sys : System)
    (umask : Nat) (name : Bytes) (flags : Flags) : Handle → Except Fault (Opened Handle System)
  | .posix q =>
      let r := Posix.queueOpen os out.posix uid self sys.mqs umask q name flags
      .ok ⟨r.ok, .posix r.queue, { sys with mqs := r.kernel }, r.umask, r.error⟩
  | .systemv q => do
      let r ← SystemV.queueOpen h os out.systemv uid sys.toKernel umask q name flags
      return ⟨r.ok, .systemv r.queue, { sys with toKernel := r.kernel }, r.umask, r.error⟩

def queueReceive (os : Os) (sys : System) (buffer : Bytes) (bufferSize : Nat)
    (fails : Option Nat) (errno : Nat) : Handle → Except Fault (Received Handle System)
  | .posix q => do
      let r ← Posix.queueReceive os sys.mqs q buffer bufferSize fails errno
      return ⟨r.read, r.buffer, .posix r.queue, { sys with mqs := r.kernel }, r.error⟩
  | .systemv q => do
      let r ← SystemV.queueReceive os sys.ipc q buffer bufferSize fails errno
      return ⟨r.read, r.buffer, .systemv r.queue, { sys with ipc := r.kernel }, r.error⟩

def queueSend (h : Host) (os : Os) (sys : System) (msg : Bytes) (msgLen : Int)
    (fails : Option Nat) : Handle → Except Fault (Sent Handle System)
  | .posix q => do
      let r ← Posix.queueSend h os sys.mqs q msg msgLen fails
      return ⟨r.ok, .posix r.queue, { sys with mqs := r.kernel }, r.error⟩
  | .systemv q => do
      let r ← SystemV.queueSend os sys.ipc q msg msgLen fails
      return ⟨r.ok, .systemv r.queue, { sys with ipc := r.kernel }, r.error⟩

/-- `queue_close(&queue, NULL)`, whose verdict the daemon does not read.  `first` and `second` are the
outcomes of its two system calls: `mq_close` and `mq_unlink`, or `IPC_RMID` and `unlink`. -/
def queueClose (os : Os) (uid : Nat) (first second : Option Nat) (sys : System) :
    Option Handle → Option Handle × System
  | none => (none, sys)
  | some (.posix q) =>
      let r := Posix.queueClose os uid first second sys.mqs (some q)
      (r.queue.map .posix, { sys with mqs := r.kernel })
  | some (.systemv q) =>
      let r := SystemV.queueClose os uid first second sys.toKernel (some q)
      (r.queue.map .systemv, { sys with toKernel := r.kernel })

/-- The error a `queue_close` reports to a caller that wants to know. -/
def closeError (os : Os) (uid : Nat) (first second : Option Nat) (sys : System) :
    Handle → Option Bytes
  | .posix q => (Posix.queueClose os uid first second sys.mqs (some q)).error
  | .systemv q => (SystemV.queueClose os uid first second sys.toKernel (some q)).error

end Handle

/-! ## Message traffic -/

/-- The two systems differ in the messages of their queues at most. -/
structure System.Quiet (sys sys' : System) : Prop where
  files : sys'.files = sys.files
  msgmnb : sys'.msgmnb = sys.msgmnb
  mqNames : sys'.mqs.names = sys.mqs.names
  mqs : ∀ i kq, sys.mqs.objects i = some kq →
    ∃ msgs, sys'.mqs.objects i = some { kq with msgs := msgs }
  keys : sys'.ipc.names = sys.ipc.names
  ipc : ∀ i mq, sys.ipc.objects i = some mq →
    ∃ msgs, sys'.ipc.objects i = some { mq with msgs := msgs }

namespace System.Quiet

lemma refl (sys : System) : sys.Quiet sys :=
  ⟨rfl, rfl, rfl, fun _ kq h => ⟨kq.msgs, h⟩, rfl, fun _ mq h => ⟨mq.msgs, h⟩⟩

lemma setMqs (sys : System) (i : Nat) (msgs : List Bytes) :
    sys.Quiet { sys with mqs := sys.mqs.setMsgs i msgs } := by
  refine ⟨rfl, rfl, rfl, fun j kq hj => ?_, rfl, fun _ mq h => ⟨mq.msgs, h⟩⟩
  refine ⟨if j = i then msgs else kq.msgs, ?_⟩
  dsimp only
  rw [MqKernel.setMsgs, Registry.modify_objects hj]
  split <;> rfl

lemma setIpc (sys : System) (i : Nat) (msgs : List Bytes) :
    sys.Quiet { sys with ipc := sys.ipc.setMsgs i msgs } := by
  refine ⟨rfl, rfl, rfl, fun _ kq h => ⟨kq.msgs, h⟩, rfl, fun j mq hj => ?_⟩
  refine ⟨if j = i then msgs else mq.msgs, ?_⟩
  dsimp only
  rw [Ipc.setMsgs, Registry.modify_objects hj]
  split <;> rfl

end System.Quiet

/-! ## What a call can do -/

namespace Handle

section

variable {os : Os} {sys : System} {q : Handle}

/-- The two handles are on the same queue and remember the same name. -/
structure Same (q q' : Handle) : Prop where
  backend : q'.backend = q.backend
  qid : q'.qid = q.qid
  filename : q'.filename = q.filename

lemma Same.refl (q : Handle) : q.Same q := ⟨rfl, rfl, rfl⟩

lemma queueInit_backend {malloc : Bool} {b : Backend} (hinit : queueInit os malloc b = .ok q) :
    q.backend = b := by
  cases malloc <;> cases b <;> cases hinit <;> rfl

lemma queueInit_filename {malloc : Bool} {b : Backend} (hinit : queueInit os malloc b = .ok q) :
    q.filename = none := by
  cases malloc <;> cases b <;> cases hinit <;> rfl

lemma queueSetAttribute_same (attr : QueueAttr) (value : Nat) :
    q.Same (q.queueSetAttribute attr value).2 := by
  cases q with
  | systemv q => exact Same.refl _
  | posix q =>
    rcases q with ⟨mq, filename, qattr⟩
    cases filename with
    | none => exact Same.refl _
    | some name => cases attr <;> exact ⟨rfl, rfl, rfl⟩

/-- A receive does not free anything. -/
lemma queueReceive_fault {buffer : Bytes} {size errno : Nat} {fails : Option Nat} {f : Fault}
    (hrun : q.queueReceive os sys buffer size fails errno = .error f) : f ≠ .invalidFree := by
  cases q with
  | posix q =>
    rcases bind_eq_error.1 hrun with hq | ⟨r, -, hr⟩
    · exact Posix.queueReceive_fault hq
    · cases hr
  | systemv q =>
    rcases bind_eq_error.1 hrun with hq | ⟨r, -, hr⟩
    · exact SystemV.queueReceive_fault hq
    · cases hr

/-- A receive changes messages only; when it returns `-1` it reports an error of its system call. -/
lemma queueReceive_effect {buffer : Bytes} {size errno : Nat} {fails : Option Nat}
    {r : Received Handle System} (hrun : q.queueReceive os sys buffer size fails errno = .ok r) :
    sys.Quiet r.kernel ∧ q.Same r.queue ∧
      (r.read = -1 →
        ∃ e, r.error = some (systemError (receiveFailed q.backend) (os.strerror e))) := by
  cases q with
  | posix q =>
    rcases bind_eq_ok.1 hrun with ⟨s, hs, hr⟩
    cases hr
    rcases Posix.queueReceive_effect hs with ⟨hq, hkernel, herror⟩
    refine ⟨?_, ?_, herror⟩
    · rcases hkernel with hk | ⟨i, msgs, hk⟩
      · rw [hk]
        exact System.Quiet.refl sys
      · rw [hk]
        exact System.Quiet.setMqs sys i msgs
    · rw [hq]
      exact ⟨rfl, rfl, rfl⟩
  | systemv q =>
    rcases bind_eq_ok.1 hrun with ⟨s, hs, hr⟩
    cases hr
    rcases SystemV.queueReceive_effect hs with ⟨hqid, hfilename, hkernel, herror⟩
    refine ⟨?_, ⟨rfl, hqid, hfilename⟩, herror⟩
    rcases hkernel with hk | ⟨i, msgs, hk⟩
    · rw [hk]
      exact System.Quiet.refl sys
    · rw [hk]
      exact System.Quiet.setIpc sys i msgs

/-- An owner's open leaves every file that was there as it was. -/
lemma queueOpen_find {h : Host} {out : OpenOutcome} {uid self umask : Nat} {name path : Bytes}
    {f : File} {flags : Flags} {r : Opened Handle System} (howner : flags.owner = true)
    (hrun : q.queueOpen h os out uid self sys umask name flags = .ok r)
    (hf : sys.files.find path = some f) : r.kernel.files.find path = some f := by
  cases q with
  | posix q =>
    cases hrun
    exact hf
  | systemv q =>
    rcases bind_eq_ok.1 hrun with ⟨s, hs, hr⟩
    cases hr
    exact SystemV.queueOpen_find howner hs hf

/-- A close removes no file unless the handle remembers one. -/
lemma queueClose_files (uid : Nat) (first second : Option Nat) (hfilename : q.filename = none) :
    (queueClose os uid first second sys (some q)).2.files = sys.files := by
  cases q with
  | posix q => rfl
  | systemv q =>
    have hkernel : (SystemV.queueClose os uid first second sys.toKernel (some q)).kernel =
        sys.toKernel := SystemV.queueClose_of_none first second hfilename
    simp only [queueClose, hkernel]

end

end Handle

end Daemon
end Banip
