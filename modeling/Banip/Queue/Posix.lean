import Banip.Queue.Interface
import Banip.Lib.MessageQueue

/-!
# Posix — the POSIX backend, `queues/posix.c`

A handle caches the descriptor, the attributes and, for an owner, the name to unlink.  The calls of
`queue.h` are functions of the handle and the kernel; what the environment decides (allocation
failures, an `errno` with which the kernel refuses a call) is an argument.

`queue_open` fills `filename` before it calls `mq_open`, and nothing clears it when `mq_open` fails.
`queue_close` and `queue_set_attribute` take a non-null `filename` as the mark of an owner.
-/

namespace Banip
namespace Posix

open Lib

/-- `posix_queue_t`; `none` is `NOT_MQD_T` and the null pointer. -/
structure PosixQueue where
  mq : Option Mqd
  filename : Option Bytes
  attr : MqAttr
deriving DecidableEq, Repr

/-! ## `queue_init` and the attributes -/

/-- The attributes `queue_init` fills in. -/
def defaultAttr : MqAttr := ⟨10, 1024⟩

/-- `queue_init`, given whether its `malloc` succeeds. -/
def queueInit (os : Os) (malloc : Bool) : Except Bytes PosixQueue :=
  if malloc then .ok ⟨none, none, defaultAttr⟩
  else .error (str "malloc(3) failed to allocate " ++ decimal os.sizeofQueue ++ str " bytes")

/-- `queue_set_attribute`. -/
def queueSetAttribute (q : PosixQueue) (attr : QueueAttr) (value : Nat) : QueueErr × PosixQueue :=
  match q.filename with
  | none => (.notOwner, q)
  | some _ =>
    match attr with
    | .maxMessageSize => (.ok, { q with attr := { q.attr with msgsize := value } })
    | .maxMessageInQueue => (.ok, { q with attr := { q.attr with maxmsg := value } })
    | .maxQueueSize => (.notSupported, q)

/-- `queue_get_attribute`. -/
def queueGetAttribute (q : PosixQueue) (attr : QueueAttr) : Except QueueErr Nat :=
  match attr with
  | .maxMessageSize => .ok q.attr.msgsize
  | .maxMessageInQueue => .ok q.attr.maxmsg
  | .maxQueueSize => .error .notSupported

/-! ## `queue_open` -/

/-- What the environment decides in `queue_open`; `attrAddr` is what `%p` prints for `&q->attr`. -/
structure OpenOutcome where
  strdup : Bool
  mqOpen : Option Nat
  mqGetattr : Option Nat
  attrAddr : Bytes
deriving DecidableEq, Repr

/-- Every call of the environment succeeds. -/
def noFailure : OpenOutcome := ⟨true, none, none, str "0x1000"⟩

/-- The mask passed to `mq_open`. -/
def omask (os : Os) (flags : Flags) : Nat :=
  (if flags.sender then 1 else 0) ||| (if flags.owner then os.oCreat ||| os.oExcl else 0)

/-- The error reported when `mq_open` fails. -/
def openFailed (os : Os) (flags : Flags) (filename attrAddr : Bytes) (errno : Nat) : Bytes :=
  if flags.owner && os.freebsd && errno = ENOSYS then
    str "please load mqueuefs kernel module by \"kldload mqueuefs\" or recompile your kernel to include \"options P1003_1B_MQUEUE\""
  else
    systemError
      (str "mq_open(\"" ++ filename ++ str "\", " ++ decimal (omask os flags) ++ str ", 0660, " ++
        attrAddr ++ str ") failed")
      (os.strerror errno)

/-- `queue_open` in a process of `uid` on the handle numbered `self`. -/
def queueOpen (os : Os) (out : OpenOutcome) (uid self : Nat) (k : MqKernel) (umask : Nat)
    (q : PosixQueue) (filename : Bytes) (flags : Flags) : Opened PosixQueue MqKernel :=
  if flags.owner && !out.strdup then
    -- this branch leaves with the mask of `umask(0)`
    ⟨false, { q with filename := none }, k, 0,
      some (str "strdup failed to copy \"" ++ filename ++ str "\"")⟩
  else
    let q := if flags.owner then { q with filename := some filename } else q
    match k.mqOpen filename flags.sender flags.owner uid self q.attr out.mqOpen with
    | .error errno =>
        ⟨false, { q with mq := none }, k, umask,
          some (openFailed os flags filename out.attrAddr errno)⟩
    | .ok (d, k') =>
      let q := { q with mq := some d }
      if flags.owner then ⟨true, q, k', umask, none⟩
      else
        match k'.mqGetattr d out.mqGetattr with
        | .error errno =>
            ⟨false, q, k', umask, some (systemError (str "mq_getattr failed") (os.strerror errno))⟩
        | .ok attr => ⟨true, { q with attr := attr }, k', umask, none⟩

/-! ## `queue_receive` and `queue_send` -/

/-- `queue_receive` into a buffer of which the caller passes `bufferSize` as the size. -/
def queueReceive (os : Os) (k : MqKernel) (q : PosixQueue) (buffer : Bytes) (bufferSize : Nat)
    (fails : Option Nat) (errno : Nat) : Except Fault (Received PosixQueue MqKernel) :=
  let failed (errno : Nat) := some (systemError (str "mq_receive failed") (os.strerror errno))
  match q.mq with
  | none => .ok ⟨-1, buffer, q, k, failed EBADF⟩
  | some d =>
    match k.mqReceive d bufferSize fails with
    | .error errno => .ok ⟨-1, buffer, q, k, failed errno⟩
    | .ok (m, k') => do
      let buffer ← memcpy buffer m
      -- the `ssize_t` of `mq_receive` is stored in an `int`
      let read := toInt m.length
      if read = -1 then return ⟨-1, buffer, q, k', failed errno⟩
      let buffer ← setByte buffer read 0
      return ⟨read, buffer, q, k', none⟩

/-- `queue_send` of the string `msg`. -/
def queueSend (h : Host) (os : Os) (k : MqKernel) (q : PosixQueue) (msg : Bytes) (msgLen : Int)
    (fails : Option Nat) : Except Fault (Sent PosixQueue MqKernel) :=
  let msgLen := if msgLen < 0 then toInt msg.length else msgLen
  -- a negative precision of `%.*s` is as if it were omitted
  let shown := if msgLen < 0 then msg else msg.take msgLen.toNat
  let failed (errno : Nat) : Sent PosixQueue MqKernel :=
    ⟨false, q, k, some (systemError (str "mq_send failed to send \"" ++ shown ++ str "\"")
      (os.strerror errno))⟩
  match q.mq with
  | none => .ok (failed EBADF)
  | some d =>
    match k.mqSend d (msg ++ [0]) (h.toSize msgLen) fails with
    | .error errno => .ok (failed errno)
    | .ok k' =>
      -- the kernel has read that many bytes at `msg`
      if h.toSize msgLen ≤ msg.length + 1 then .ok ⟨true, q, k', none⟩ else .error .outOfBounds

/-! ## `queue_close` -/

/-- The releases `queue_close` attempts, with their outcome. -/
inductive Release where
  | mqClose (ok : Bool)
  | mqUnlink (name : Bytes) (ok : Bool)
  | freeFilename
  | freeHandle
deriving DecidableEq, Repr

/-- The part of `queue_close` after the descriptor is closed. -/
def closeName (os : Os) (uid : Nat) (unlinkFails : Option Nat) (k : MqKernel) (q : PosixQueue)
    (calls : List Release) : Closed PosixQueue MqKernel Release :=
  match q.filename with
  | none => ⟨true, none, k, calls ++ [.freeHandle], none⟩
  | some name =>
    match k.mqUnlink name uid unlinkFails with
    | .error errno =>
        ⟨false, some q, k, calls ++ [.mqUnlink name false],
          some (systemError (str "mq_unlink failed") (os.strerror errno))⟩
    | .ok k' => ⟨true, none, k', calls ++ [.mqUnlink name true, .freeFilename, .freeHandle], none⟩

/-- `queue_close` on `*p`. -/
def queueClose (os : Os) (uid : Nat) (closeFails unlinkFails : Option Nat) (k : MqKernel)
    (p : Option PosixQueue) : Closed PosixQueue MqKernel Release :=
  match p with
  | none => ⟨true, none, k, [], none⟩
  | some q =>
    match q.mq with
    | none => closeName os uid unlinkFails k q []
    | some _ =>
      match closeFails with
      | some errno =>
          ⟨false, some q, k, [.mqClose false],
            some (systemError (str "mq_close failed") (os.strerror errno))⟩
      | none => closeName os uid unlinkFails k { q with mq := none } [.mqClose true]

/-- The names that were removed. -/
def removals (calls : List Release) : List Bytes :=
  calls.filterMap fun
    | .mqUnlink name true => some name
    | _ => none

/-! ## What a call can do -/

section

variable {os : Os} {uid self umask : Nat} {k : MqKernel} {q : PosixQueue}

/-- A sender's open changes neither the kernel nor the name the handle remembers, and the descriptor
it leaves, if any, is that of the named queue. -/
lemma queueOpen_sender (out : OpenOutcome) (filename : Bytes) {flags : Flags}
    (howner : flags.owner = false) :
    (queueOpen os out uid self k umask q filename flags).kernel = k ∧
      (queueOpen os out uid self k umask q filename flags).queue.filename = q.filename ∧
      ∀ d, (queueOpen os out uid self k umask q filename flags).queue.mq = some d →
        k.names filename = some d.qid := by
  unfold queueOpen
  simp only [howner, Bool.false_and, Bool.false_eq_true, if_false]
  cases hopen : k.mqOpen filename flags.sender false uid self q.attr out.mqOpen with
  | error errno => exact ⟨rfl, rfl, fun _ hd => nomatch hd⟩
  | ok r =>
    rcases r with ⟨d, k'⟩
    rcases MqKernel.mqOpen_ok hopen with ⟨-, i, hname, rfl, rfl⟩ | ⟨hexcl, -⟩
    · have hd : ∀ d, some (⟨i, flags.sender⟩ : Mqd) = some d → k'.names filename = some d.qid := by
        rintro d ⟨rfl⟩
        exact hname
      dsimp only
      cases k'.mqGetattr ⟨i, flags.sender⟩ out.mqGetattr with
      | error errno => exact ⟨rfl, rfl, hd⟩
      | ok attr => exact ⟨rfl, rfl, hd⟩
    · cases hexcl

/-- A sender's open that succeeds caches the attributes of the queue it opened. -/
lemma queueOpen_sender_ok {out : OpenOutcome} {filename : Bytes} {flags : Flags}
    (howner : flags.owner = false)
    (hok : (queueOpen os out uid self k umask q filename flags).ok = true) :
    ∃ d kq, (queueOpen os out uid self k umask q filename flags).queue.mq = some d ∧
      k.objects d.qid = some kq ∧
      (queueOpen os out uid self k umask q filename flags).queue.attr = kq.attr := by
  unfold queueOpen at hok ⊢
  simp only [howner, Bool.false_and, Bool.false_eq_true, if_false] at hok ⊢
  cases hopen : k.mqOpen filename flags.sender false uid self q.attr out.mqOpen with
  | error errno => simp [hopen] at hok
  | ok r =>
    rcases r with ⟨d, k'⟩
    rcases MqKernel.mqOpen_ok hopen with ⟨-, i, -, rfl, rfl⟩ | ⟨hexcl, -⟩
    · simp only [hopen] at hok ⊢
      cases hattr : k'.mqGetattr ⟨i, flags.sender⟩ out.mqGetattr with
      | error errno => simp [hattr] at hok
      | ok attr =>
        rcases MqKernel.mqGetattr_ok hattr with ⟨kq, hkq, hcached⟩
        exact ⟨⟨i, flags.sender⟩, kq, rfl, hkq, hcached.symm⟩
    · cases hexcl

/-- An owner's open without memory for the name leaves the kernel alone and remembers no name. -/
lemma queueOpen_strdup {out : OpenOutcome} (filename : Bytes) {flags : Flags}
    (howner : flags.owner = true) (hstrdup : out.strdup = false) :
    (queueOpen os out uid self k umask q filename flags).ok = false ∧
      (queueOpen os out uid self k umask q filename flags).kernel = k ∧
      (queueOpen os out uid self k umask q filename flags).queue.filename = none := by
  simp [queueOpen, howner, hstrdup]

/-- An owner's open of a free name creates it. -/
lemma queueOpen_created {out : OpenOutcome} {filename : Bytes} {flags : Flags}
    (howner : flags.owner = true) (hstrdup : out.strdup = true) (hopen : out.mqOpen = none)
    (hfree : k.names filename = none) :
    queueOpen os out uid self k umask q filename flags =
      ⟨true, ⟨some ⟨k.next, flags.sender⟩, some filename, q.attr⟩,
        k.create ⟨filename, q.attr, [], uid, self⟩, umask, none⟩ := by
  simp [queueOpen, howner, hstrdup, hopen, MqKernel.mqOpen, hfree]

/-- An owner's open that the kernel refuses fails, and leaves the name in the handle. -/
lemma queueOpen_refused {out : OpenOutcome} {filename : Bytes} {flags : Flags}
    (howner : flags.owner = true) (hstrdup : out.strdup = true)
    (hrefused : out.mqOpen = none → k.names filename ≠ none) :
    (queueOpen os out uid self k umask q filename flags).ok = false ∧
      (queueOpen os out uid self k umask q filename flags).kernel = k ∧
      (queueOpen os out uid self k umask q filename flags).queue =
        ⟨none, some filename, q.attr⟩ := by
  cases hopen : out.mqOpen with
  | some errno => simp [queueOpen, howner, hstrdup, hopen, MqKernel.mqOpen]
  | none =>
    cases hname : k.names filename with
    | none => exact absurd hname (hrefused hopen)
    | some i => simp [queueOpen, howner, hstrdup, hopen, MqKernel.mqOpen, hname]

/-- An owner's open creates the name, or it fails and leaves the kernel alone. -/
lemma queueOpen_owner_cases (out : OpenOutcome) (filename : Bytes) {flags : Flags}
    (howner : flags.owner = true) :
    (k.names filename = none ∧ queueOpen os out uid self k umask q filename flags =
      ⟨true, ⟨some ⟨k.next, flags.sender⟩, some filename, q.attr⟩,
        k.create ⟨filename, q.attr, [], uid, self⟩, umask, none⟩) ∨
    ((queueOpen os out uid self k umask q filename flags).ok = false ∧
      (queueOpen os out uid self k umask q filename flags).kernel = k) := by
  cases hstrdup : out.strdup with
  | false =>
    rcases queueOpen_strdup filename howner hstrdup with ⟨hok, hkernel, -⟩
    exact Or.inr ⟨hok, hkernel⟩
  | true =>
    by_cases hfree : out.mqOpen = none ∧ k.names filename = none
    · exact Or.inl ⟨hfree.2, queueOpen_created howner hstrdup hfree.1 hfree.2⟩
    · have hrefused : out.mqOpen = none → k.names filename ≠ none := by
        intro hopen hname
        exact hfree ⟨hopen, hname⟩
      rcases queueOpen_refused howner hstrdup hrefused with ⟨hok, hkernel, -⟩
      exact Or.inr ⟨hok, hkernel⟩

/-- An owner's open that fails leaves no descriptor. -/
lemma queueOpen_failed_mq (out : OpenOutcome) (filename : Bytes) {flags : Flags}
    (howner : flags.owner = true) (hmq : q.mq = none)
    (hfailed : (queueOpen os out uid self k umask q filename flags).ok = false) :
    (queueOpen os out uid self k umask q filename flags).queue.mq = none := by
  cases hstrdup : out.strdup with
  | false => simp [queueOpen, howner, hstrdup, hmq]
  | true =>
    have hrefused : out.mqOpen = none → k.names filename ≠ none := by
      intro hopen hname
      rw [queueOpen_created howner hstrdup hopen hname] at hfailed
      cases hfailed
    rw [(queueOpen_refused howner hstrdup hrefused).2.2]

/-- An owner's open that succeeds has created the name. -/
lemma queueOpen_owner_ok {out : OpenOutcome} {filename : Bytes} {flags : Flags}
    (howner : flags.owner = true)
    (hok : (queueOpen os out uid self k umask q filename flags).ok = true) :
    k.names filename = none ∧ queueOpen os out uid self k umask q filename flags =
      ⟨true, ⟨some ⟨k.next, flags.sender⟩, some filename, q.attr⟩,
        k.create ⟨filename, q.attr, [], uid, self⟩, umask, none⟩ := by
  rcases queueOpen_owner_cases out filename howner with hcreated | ⟨hfailed, -⟩
  · exact hcreated
  · rw [hfailed] at hok
    cases hok

/-- What a close of `q` comes to: the kernel is as before and nothing was removed, or the name the
handle remembers was removed and the handle freed. -/
def CloseEffect (k : MqKernel) (uid : Nat) (unlinkFails : Option Nat) (q : PosixQueue)
    (r : Closed PosixQueue MqKernel Release) : Prop :=
  (r.kernel = k ∧ removals r.calls = [] ∧
      (r.queue = none ∨ ∃ mq, (mq = none ∨ mq = q.mq) ∧ r.queue = some { q with mq := mq })) ∨
    ∃ name, q.filename = some name ∧ k.mqUnlink name uid unlinkFails = .ok r.kernel ∧
      removals r.calls = [name] ∧ r.queue = none

lemma closeName_effect (unlinkFails : Option Nat) {mq : Option Mqd} {calls : List Release}
    (hmq : mq = none ∨ mq = q.mq) (hcalls : removals calls = []) :
    CloseEffect k uid unlinkFails q
      (closeName os uid unlinkFails k { q with mq := mq } calls) := by
  rcases q with ⟨mq₀, filename, attr⟩
  have happend : ∀ more, removals (calls ++ more) = removals more := by
    intro more
    simpa [removals, List.filterMap_append] using hcalls
  cases filename with
  | none => exact Or.inl ⟨rfl, happend _, Or.inl rfl⟩
  | some name =>
    unfold closeName
    cases hunlink : k.mqUnlink name uid unlinkFails with
    | error errno =>
      simp only [hunlink]
      exact Or.inl ⟨rfl, happend _, Or.inr ⟨mq, hmq, rfl⟩⟩
    | ok k' =>
      simp only [hunlink]
      exact Or.inr ⟨name, rfl, hunlink, happend _, rfl⟩

lemma queueClose_effect (closeFails unlinkFails : Option Nat) :
    CloseEffect k uid unlinkFails q (queueClose os uid closeFails unlinkFails k (some q)) := by
  rcases q with ⟨mq, filename, attr⟩
  cases mq with
  | none => exact closeName_effect unlinkFails (Or.inl rfl) rfl
  | some d =>
    cases closeFails with
    | some errno => exact Or.inl ⟨rfl, rfl, Or.inr ⟨some d, Or.inr rfl, rfl⟩⟩
    | none => exact closeName_effect (q := ⟨some d, filename, attr⟩) unlinkFails (Or.inl rfl) rfl

/-- A close by who may remove the name removes it. -/
lemma queueClose_removes {name : Bytes} {i : Nat} {kq : Mq} (hfilename : q.filename = some name)
    (hname : k.names name = some i) (hkq : k.objects i = some kq) (huid : uid = 0 ∨ uid = kq.uid) :
    (queueClose os uid none none k (some q)).kernel = k.unname name := by
  have hunlink : k.mqUnlink name uid none = .ok (k.unname name) := by
    simp [MqKernel.mqUnlink, hname, hkq, huid]
  cases hmq : q.mq <;> simp [queueClose, hmq, closeName, hfilename, hunlink]

/-- A close by who may not remove the name leaves the kernel as it is. -/
lemma queueClose_denied (closeFails unlinkFails : Option Nat) {name : Bytes} {i : Nat} {kq : Mq}
    (hfilename : q.filename = some name) (hname : k.names name = some i)
    (hkq : k.objects i = some kq) (huid : uid ≠ 0 ∧ uid ≠ kq.uid) :
    (queueClose os uid closeFails unlinkFails k (some q)).kernel = k := by
  rcases queueClose_effect closeFails unlinkFails with
    ⟨hkernel, -, -⟩ | ⟨name', hfilename', hunlink, -, -⟩
  · exact hkernel
  · cases hfilename.symm.trans hfilename'
    rcases MqKernel.mqUnlink_ok hunlink with ⟨i', kq', hname', hkq', hpermitted, -⟩
    cases hname.symm.trans hname'
    cases hkq.symm.trans hkq'
    exact absurd hpermitted (not_or.2 huid)

/-- A send of a whole string: refused without effect, or the string is appended to the queue. -/
lemma queueSend_string (h : Host) (q : PosixQueue) {msg : Bytes} (hmsg : msg.length < 2 ^ 31)
    (fails : Option Nat) :
    ∃ r, queueSend h os k q msg (-1) fails = .ok r ∧ r.queue = q ∧
      (r.ok = false ∧ r.kernel = k ∨
        r.ok = true ∧ ∃ d kq, q.mq = some d ∧ k.objects d.qid = some kq ∧
          msg.length ≤ kq.attr.msgsize ∧ r.kernel = k.setMsgs d.qid (kq.msgs ++ [msg])) := by
  unfold queueSend
  simp only [show (-1 : Int) < 0 by decide, if_true, toInt_of_lt hmsg, h.toSize_of_lt hmsg]
  cases hmq : q.mq with
  | none => exact ⟨_, rfl, rfl, Or.inl ⟨rfl, rfl⟩⟩
  | some d =>
    dsimp only
    cases hsend : k.mqSend d (msg ++ [0]) msg.length fails with
    | error errno => exact ⟨_, rfl, rfl, Or.inl ⟨rfl, rfl⟩⟩
    | ok k' =>
      rcases MqKernel.mqSend_ok hsend with ⟨kq, hkq, hsize, rfl⟩
      refine ⟨⟨true, q, _, none⟩, if_pos (Nat.le_succ _), rfl,
        Or.inr ⟨rfl, d, kq, rfl, hkq, hsize, ?_⟩⟩
      simp

/-- A send succeeds if and only if it reports no error. -/
lemma queueSend_error {h : Host} {msg : Bytes} {msgLen : Int} {fails : Option Nat}
    {r : Sent PosixQueue MqKernel} (hrun : queueSend h os k q msg msgLen fails = .ok r) :
    r.ok = true ↔ r.error = none := by
  unfold queueSend at hrun
  cases hmq : q.mq with
  | none =>
    simp only [hmq] at hrun
    cases hrun
    simp
  | some d =>
    simp only [hmq] at hrun
    generalize (if msgLen < 0 then toInt msg.length else msgLen) = len at hrun
    cases hsend : k.mqSend d (msg ++ [0]) (h.toSize len) fails with
    | error errno =>
      simp only [hsend] at hrun
      cases hrun
      simp
    | ok k' =>
      simp only [hsend] at hrun
      split at hrun
      · cases hrun
        simp
      · cases hrun

/-- A receive into a buffer one byte larger than the messages of the queue: refused without effect,
or the front message, terminated, is in the buffer. -/
lemma queueReceive_string {d : Mqd} {kq : Mq} {buffer : Bytes} (fails : Option Nat) (errno : Nat)
    (hmq : q.mq = some d) (hkq : k.objects d.qid = some kq)
    (hmsgs : ∀ m ∈ kq.msgs, m.length < buffer.length) (hsmall : buffer.length ≤ 2 ^ 31) :
    ∃ r, queueReceive os k q buffer buffer.length fails errno = .ok r ∧ r.queue = q ∧
      (r.read = -1 ∧ r.kernel = k ∧ r.buffer = buffer ∨
        ∃ m rest, kq.msgs = m :: rest ∧ r.read = m.length ∧ r.kernel = k.setMsgs d.qid rest ∧
          r.buffer.length = buffer.length ∧ r.buffer.take (m.length + 1) = m ++ [0]) := by
  unfold queueReceive
  simp only [hmq]
  cases hrcv : k.mqReceive d buffer.length fails with
  | error e => exact ⟨_, rfl, rfl, Or.inl ⟨rfl, rfl, rfl⟩⟩
  | ok out =>
    rcases out with ⟨m, k'⟩
    rcases MqKernel.mqReceive_ok hrcv with ⟨kq', rest, hkq', -, hfront, rfl⟩
    cases hkq.symm.trans hkq'
    have hm : m.length < buffer.length := hmsgs m (by simp [hfront])
    have hread : toInt m.length = m.length := toInt_of_lt (by omega)
    have hnot : ¬ toInt m.length = -1 := by omega
    -- the terminator takes the place of the byte after the message
    have hdrop : ∃ c tail, buffer.drop m.length = c :: tail := by
      refine List.exists_cons_of_length_pos ?_
      simp
      omega
    rcases hdrop with ⟨c, tail, hdrop⟩
    have hcopy : memcpy buffer m = .ok (m ++ c :: tail) := by
      rw [← hdrop]
      exact if_pos (by omega)
    have hset : setByte (m ++ c :: tail) (toInt m.length) 0 = .ok (m ++ 0 :: tail) := by
      rw [hread]
      exact setByte_append m tail 0 c
    refine ⟨⟨toInt m.length, m ++ 0 :: tail, q, k.setMsgs d.qid rest, none⟩, ?_, rfl,
      Or.inr ⟨m, rest, hfront, hread, rfl, ?_, ?_⟩⟩
    · simp only [hcopy, hset, ok_bind, pure_eq_ok, if_neg hnot]
    · have := congrArg List.length hdrop
      simp at this ⊢
      omega
    · simp [List.take_append, List.take_of_length_le]

/-- A receive does not free anything. -/
lemma queueReceive_fault {buffer : Bytes} {size errno : Nat} {fails : Option Nat} {f : Fault}
    (hrun : queueReceive os k q buffer size fails errno = .error f) : f ≠ .invalidFree := by
  unfold queueReceive at hrun
  dsimp only at hrun
  split at hrun
  · cases hrun
  · split at hrun
    · cases hrun
    · rcases bind_eq_error.1 hrun with hcopy | ⟨buffer', -, hrest⟩
      · rw [memcpy_fault hcopy]
        exact Fault.noConfusion
      · split at hrest
        · cases hrest
        · rcases bind_eq_error.1 hrest with hset | ⟨buffer'', -, hdone⟩
          · rw [setByte_fault hset]
            exact Fault.noConfusion
          · cases hdone

/-- A receive changes nothing but messages; when it returns `-1` it reports an error of
`mq_receive`. -/
lemma queueReceive_effect {buffer : Bytes} {size errno : Nat} {fails : Option Nat}
    {r : Received PosixQueue MqKernel}
    (hrun : queueReceive os k q buffer size fails errno = .ok r) :
    r.queue = q ∧ (r.kernel = k ∨ ∃ i msgs, r.kernel = k.setMsgs i msgs) ∧
      (r.read = -1 →
        ∃ e, r.error = some (systemError (str "mq_receive failed") (os.strerror e))) := by
  unfold queueReceive at hrun
  cases hmq : q.mq with
  | none =>
    simp only [hmq, Except.ok.injEq] at hrun
    subst hrun
    exact ⟨rfl, Or.inl rfl, fun _ => ⟨_, rfl⟩⟩
  | some d =>
    simp only [hmq] at hrun
    cases hrcv : k.mqReceive d size fails with
    | error e =>
      simp only [hrcv, Except.ok.injEq] at hrun
      subst hrun
      exact ⟨rfl, Or.inl rfl, fun _ => ⟨_, rfl⟩⟩
    | ok taken =>
      rcases taken with ⟨m, k'⟩
      rcases MqKernel.mqReceive_ok hrcv with ⟨kq, msgs, -, -, -, rfl⟩
      simp only [hrcv] at hrun
      rcases bind_eq_ok.1 hrun with ⟨buffer', -, hrun⟩
      split at hrun
      · cases hrun
        exact ⟨rfl, Or.inr ⟨_, _, rfl⟩, fun _ => ⟨_, rfl⟩⟩
      · rename_i hread
        rcases bind_eq_ok.1 hrun with ⟨buffer'', -, hrun⟩
        cases hrun
        exact ⟨rfl, Or.inr ⟨_, _, rfl⟩, fun h => absurd h hread⟩

end

end Posix
end Banip
