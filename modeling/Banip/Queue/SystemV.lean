import Banip.Queue.Interface
import Banip.Lib.ByteOrder
import Banip.Lib.Files
import Banip.Lib.Ipc

/-!
# SystemV — the System V backend, `queues/systemv.c`

The owner of a queue writes an id into a key file; `ftok` of the file and the id is the key under
which the owner creates the queue and a sender finds it.

Each handle has a block that stands for a `struct msgbuf`.  The model keeps its `mtext` area, the
bytes after the `long`: `sizeof(q->buffer)` times `q->buffer_size` of them, that is the size of a
pointer times an eighth of `msg_qbytes`.  `queue_send` copies a string to the area and sends the
first `q->buffer_size` bytes of it; `queue_receive` lets the kernel overwrite the beginning of the
area and then copies the string it finds there.  The area is not cleared between two messages.
-/

namespace Banip
namespace SystemV

open Lib

/-- `systemv_queue_t`; `none` is the qid `-1` and the null pointer. -/
structure SystemvQueue where
  qid : Option Nat
  buffer : Option Bytes
  filename : Option Bytes
  bufferSize : Nat
deriving DecidableEq, Repr

/-- What the backend works on: the files, the queues and the capacity the system gives to a new
queue. -/
structure Kernel where
  files : Files
  ipc : Ipc
  msgmnb : Nat

/-! ## `queue_init` and the attributes -/

/-- `queue_init`, given whether its `malloc` succeeds. -/
def queueInit (os : Os) (malloc : Bool) : Except Bytes SystemvQueue :=
  if malloc then .ok ⟨none, none, none, 0⟩
  else .error (str "malloc(3) failed to allocate " ++ decimal os.sizeofQueue ++ str " bytes")

/-- `queue_set_attribute`: nothing can be set. -/
def queueSetAttribute (q : SystemvQueue) (_attr : QueueAttr) (_value : Nat) : QueueErr :=
  match q.filename with
  | none => .notOwner
  | some _ => .notSupported

/-- `msgctl(q->qid, IPC_STAT, &buf)`, for `buf.msg_qbytes`. -/
def statQid (k : Ipc) (qid : Option Nat) (fails : Option Nat) : Except Nat Nat :=
  match qid with
  | none => .error EINVAL
  | some i => k.stat i fails

/-- `queue_get_attribute`. -/
def queueGetAttribute (k : Ipc) (q : SystemvQueue) (attr : QueueAttr) (fails : Option Nat) :
    Except QueueErr Nat :=
  match attr with
  | .maxQueueSize | .maxMessageSize =>
    match statQid k q.qid fails with
    | .error _ => .error .generalFailure
    | .ok qbytes => .ok qbytes
  | .maxMessageInQueue => .error .notSupported

/-! ## `queue_open` -/

/-- What the environment decides in `queue_open`: the earlier contents of the array `filename`, of
the variable `id` and of the allocated block, the outcomes of the calls, and what `%p` prints for
`&buf`.  The outcome of `fflush` and `fclose`, which nobody reads, is the number of bytes that reach
the key file if not all of them do. -/
structure OpenOutcome where
  stack : Nat → Byte
  idStack : Bytes
  heap : Nat → Byte
  fopen : Option Nat
  fwrite : Option Nat
  fflush : Option Nat
  ftok : Bool
  strdup : Bool
  msgget : Option Nat
  stat : Option Nat
  malloc : Bool
  bufAddr : Bytes

/-- `set_buffer_overflow_error(error, name, filename, STR_SIZE(filename))`. -/
def nameOverflow (os : Os) (name : Bytes) : Bytes :=
  str "buffer overflow: name (\"" ++ name ++ str "\") doesn't fit into filename (" ++
    decimal (name.length + 1) ++ str " > " ++ decimal os.maxPathLen ++ str ")"

/-- The owner's split of the queue name into a file name and an id. -/
def ownerName (os : Os) (stack : Nat → Byte) (name : Bytes) :
    Except Fault (Except Bytes (Bytes × Int)) :=
  match strchr name (chr ':') with
  | none =>
      let (filename, len) := strlcpy name os.maxPathLen
      if os.maxPathLen ≤ len then .ok (.error (nameOverflow os name))
      else .ok (.ok (filename, os.intOfChar (chr 'b')))
  | some s =>
      -- the byte after the colon, or the final NUL
      let id := os.intOfChar ((name ++ [0]).getD (s + 1) 0)
      if os.maxPathLen ≤ s then .ok (.error (nameOverflow os name))
      else do
        -- `strncpy` of exactly `s` bytes writes no NUL
        let array ← memcpy (block stack os.maxPathLen) (name.take s)
        let filename ← strread array
        return .ok (filename, id)

/-- The owner's part up to `fclose`: create the key file and write the id to it. -/
def ownerFile (h : Host) (os : Os) (out : OpenOutcome) (uid : Nat) (files : Files) (name : Bytes) :
    Except Fault (Files × Except Bytes (Bytes × Int)) := do
  match ← ownerName os out.stack name with
  | .error text => return (files, .error text)
  | .ok (filename, id) =>
    match files.fopenExcl filename uid out.fopen with
    | .error errno =>
        return (files, .error
          (systemError (str "fopen(\"" ++ filename ++ str "\", \"wx\") failed") (os.strerror errno)))
    | .ok files =>
      match out.fwrite with
      | some errno =>
          return (files, .error
            (systemError (str "fwrite to '" ++ filename ++ str "' failed") (os.strerror errno)))
      | none =>
          let data := Files.written out.fflush (store h (BitVec.ofInt 32 id))
          return (files.write filename data, .ok (filename, id))

/-- The `int` that starts four bytes of memory. -/
def loadInt (h : Host) (mem : Bytes) : Int :=
  (load h (mem.getD 0 0) (mem.getD 1 0) (mem.getD 2 0) (mem.getD 3 0)).toInt

/-- The sender's part up to `fclose`: read the id from the key file. -/
def senderFile (h : Host) (os : Os) (out : OpenOutcome) (files : Files) (name : Bytes) :
    Except Bytes (Bytes × Int) :=
  let (filename, len) := strlcpy name os.maxPathLen
  if os.maxPathLen ≤ len then .error (nameOverflow os name)
  else
    match files.fopenRead filename out.fopen with
    | .error errno =>
        .error (systemError (str "fopen(\"" ++ filename ++ str "\", \"r\") failed")
          (os.strerror errno))
    | .ok data =>
      let items := if 4 ≤ data.length then 1 else 0
      let id := loadInt h (data.take 4 ++ out.idStack.drop (data.take 4).length)
      -- `1 != fread(..) < sizeof(id)` compares 1 with the outcome of the `<`
      if 1 ≠ (if items < 4 then 1 else 0) then
        .error (systemError (str "fread from '" ++ filename ++ str "' failed") (os.strerror 0))
      else .ok (filename, id)

/-- `sizeof(long) + sizeof(q->buffer) * q->buffer_size`. -/
def allocSize (h : Host) (bufferSize : Nat) : Nat :=
  (h.longBytes + h.ptrBytes * bufferSize) % 2 ^ (8 * h.ptrBytes)

/-- The end of `queue_open`: size and allocate the buffer of a queue that was found or created. -/
def openBuffer (h : Host) (os : Os) (out : OpenOutcome) (k : Kernel) (umask : Nat)
    (q : SystemvQueue) (i : Nat) : Except Fault (Opened SystemvQueue Kernel) :=
  match k.ipc.stat i out.stat with
  | .error errno =>
      .ok ⟨false, q, k, umask, some (systemError (str "msgctl(" ++ decimal i ++ str ", IPC_STAT, " ++
        out.bufAddr ++ str ") failed") (os.strerror errno))⟩
  | .ok qbytes =>
    let size := allocSize h (qbytes / 8)
    if !out.malloc then
      .ok ⟨false, { q with bufferSize := qbytes / 8, buffer := none }, k, umask,
        some (str "malloc(3) failed to allocate " ++ decimal size ++ str " bytes")⟩
    -- `*(long *) q->buffer = 1`
    else if size < h.longBytes then .error .outOfBounds
    else
      let area := block out.heap (size - h.longBytes)
      .ok ⟨true, { q with bufferSize := qbytes / 8, buffer := some area }, k, umask, none⟩

/-- The part of `queue_open` after the key file: `ftok`, `msgget` and the buffer. -/
def openKey (h : Host) (os : Os) (out : OpenOutcome) (uid : Nat) (k : Kernel) (umask : Nat)
    (q : SystemvQueue) (filename : Bytes) (id : Int) (flags : Flags) :
    Except Fault (Opened SystemvQueue Kernel) :=
  match (if out.ftok then k.files.find filename else none) with
  | none =>
      .ok ⟨false, q, k, umask,
        some (str "ftok(\"" ++ filename ++ str "\", " ++ decimalInt id ++ str ") failed")⟩
  | some f =>
    if flags.owner && !out.strdup then
      .ok ⟨false, { q with filename := none }, k, umask,
        some (str "strdup failed to copy \"" ++ filename ++ str "\"")⟩
    else
      let q := if flags.owner then { q with filename := some filename } else q
      match k.ipc.msgget (os.ftok f.ino (BitVec.ofInt 8 id)) flags.owner uid k.msgmnb out.msgget with
      | .error errno =>
          .ok ⟨false, { q with qid := none }, k, umask,
            some (systemError (str "msgget failed") (os.strerror errno))⟩
      | .ok (i, ipc) => openBuffer h os out { k with ipc := ipc } umask { q with qid := some i } i

/-- `queue_open` in a process of `uid`. -/
def queueOpen (h : Host) (os : Os) (out : OpenOutcome) (uid : Nat) (k : Kernel) (umask : Nat)
    (q : SystemvQueue) (name : Bytes) (flags : Flags) :
    Except Fault (Opened SystemvQueue Kernel) :=
  if flags.owner then do
    match ← ownerFile h os out uid k.files name with
    | (files, .error text) => return ⟨false, q, { k with files := files }, umask, some text⟩
    | (files, .ok (filename, id)) =>
        openKey h os out uid { k with files := files } umask q filename id flags
  else
    match senderFile h os out k.files name with
    | .error text => .ok ⟨false, q, k, umask, some text⟩
    | .ok (filename, id) => openKey h os out uid k umask q filename id flags

/-! ## `queue_receive` and `queue_send` -/

/-- `queue_receive` into a buffer of which the caller passes `bufferSize` as the size. -/
def queueReceive (os : Os) (k : Ipc) (q : SystemvQueue) (buffer : Bytes) (bufferSize : Nat)
    (fails : Option Nat) (errno : Nat) : Except Fault (Received SystemvQueue Ipc) :=
  let failed (errno : Nat) := some (systemError (str "msgrcv failed") (os.strerror errno))
  match q.qid with
  | none => .ok ⟨-1, buffer, q, k, failed EINVAL⟩
  | some i =>
    match k.msgrcv i bufferSize fails with
    | .error errno => .ok ⟨-1, buffer, q, k, failed errno⟩
    | .ok (m, k') =>
      match q.buffer with
      | none => .error .nullDeref
      | some area => do
        let area ← memcpy area m
        -- the `ssize_t` of `msgrcv` is stored in an `int`
        let read := toInt m.length
        let q := { q with buffer := some area }
        if read = -1 then return ⟨-1, buffer, q, k', failed errno⟩
        let s ← strread area
        let buffer ← strcpy buffer s
        return ⟨read, buffer, q, k', none⟩

/-- `queue_send` of the string `msg`; `msg_len` is computed and not used. -/
def queueSend (os : Os) (k : Ipc) (q : SystemvQueue) (msg : Bytes) (_msgLen : Int)
    (fails : Option Nat) : Except Fault (Sent SystemvQueue Ipc) :=
  let failed (q : SystemvQueue) (errno : Nat) : Sent SystemvQueue Ipc :=
    ⟨false, q, k, some (systemError (str "msgsnd failed") (os.strerror errno))⟩
  match q.buffer with
  | none => .error .nullDeref
  | some area => do
    let area ← strcpy area msg
    let q := { q with buffer := some area }
    if area.length < q.bufferSize then .error .outOfBounds
    else
      match q.qid with
      | none => return failed q EINVAL
      | some i =>
        match k.msgsnd i (area.take q.bufferSize) fails with
        | .error errno => return failed q errno
        | .ok k' => return ⟨true, q, k', none⟩

/-! ## `queue_close` -/

/-- The releases `queue_close` attempts, with their outcome. -/
inductive Release where
  | rmid (i : Nat) (ok : Bool)
  | unlink (path : Bytes) (ok : Bool)
  | freeFilename
  | freeBuffer
  | freeHandle
deriving DecidableEq, Repr

/-- The end of `queue_close`: free the buffer and the handle. -/
def closeBuffer (k : Kernel) (q : SystemvQueue) (calls : List Release) :
    Closed SystemvQueue Kernel Release :=
  match q.buffer with
  | none => ⟨true, none, k, calls ++ [.freeHandle], none⟩
  | some _ => ⟨true, none, k, calls ++ [.freeBuffer, .freeHandle], none⟩

/-- The owner's part of `queue_close` after `IPC_RMID`. -/
def closeFile (os : Os) (uid : Nat) (unlinkFails : Option Nat) (k : Kernel) (q : SystemvQueue)
    (filename : Bytes) (calls : List Release) : Closed SystemvQueue Kernel Release :=
  match k.files.unlink filename uid unlinkFails with
  | .error errno =>
      ⟨false, some q, k, calls ++ [.unlink filename false],
        some (systemError (str "unlink(\"" ++ filename ++ str "\") failed") (os.strerror errno))⟩
  | .ok files =>
      closeBuffer { k with files := files } { q with filename := none }
        (calls ++ [.unlink filename true, .freeFilename])

/-- `queue_close` on `*p`. -/
def queueClose (os : Os) (uid : Nat) (rmidFails unlinkFails : Option Nat) (k : Kernel)
    (p : Option SystemvQueue) : Closed SystemvQueue Kernel Release :=
  match p with
  | none => ⟨true, none, k, [], none⟩
  | some q =>
    match q.filename with
    | none => closeBuffer k q []
    | some filename =>
      match q.qid with
      | none => closeFile os uid unlinkFails k q filename []
      | some i =>
        match k.ipc.rmid i uid rmidFails with
        | .error errno =>
            ⟨false, some q, k, [.rmid i false],
              some (systemError (str "msgctl(" ++ decimal i ++ str ", IPC_RMID, NULL) failed")
                (os.strerror errno))⟩
        | .ok ipc =>
            closeFile os uid unlinkFails { k with ipc := ipc } { q with qid := none } filename
              [.rmid i true]

/-! ## `BanIPClient::addAddress` -/

/-- The PHP client's `msg_send` of the bytes of `addr`, neither serialised nor terminated; it does
not block. -/
def addAddress (k : Ipc) (i : Nat) (addr : Bytes) (fails : Option Nat) : Bool × Ipc :=
  k.offer i addr fails

/-! ## Open handles -/

/-- The bytes of the `mtext` area `queue_open` allocates for a capacity of `qbytes`. -/
def areaSize (h : Host) (qbytes : Nat) : Nat := allocSize h (qbytes / 8) - h.longBytes

/-- A handle on the queue `i` of capacity `qbytes`, as a successful `queue_open` leaves it. -/
structure Attached (h : Host) (i qbytes : Nat) (q : SystemvQueue) : Prop where
  qid : q.qid = some i
  bufferSize : q.bufferSize = qbytes / 8
  buffer : ∃ area, q.buffer = some area ∧ area.length = areaSize h qbytes

/-- Such a handle before its first use: the area still holds what the heap held. -/
structure Fresh (h : Host) (i qbytes : Nat) (heap : Nat → Byte) (q : SystemvQueue) : Prop where
  qid : q.qid = some i
  bufferSize : q.bufferSize = qbytes / 8
  buffer : q.buffer = some (block heap (areaSize h qbytes))

section

variable {h : Host} {os : Os} {q : SystemvQueue} {i qbytes : Nat}

lemma Fresh.attached {heap : Nat → Byte} (hq : Fresh h i qbytes heap q) : Attached h i qbytes q :=
  ⟨hq.qid, hq.bufferSize, _, hq.buffer, block_length _ _⟩

lemma openBuffer_fresh {out : OpenOutcome} {k : Kernel} {umask : Nat}
    {r : Opened SystemvQueue Kernel}
    (hrun : openBuffer h os out k umask { q with qid := some i } i = .ok r) (hok : r.ok = true) :
    ∃ mq, r.kernel.ipc.objects i = some mq ∧ Fresh h i mq.qbytes out.heap r.queue := by
  unfold openBuffer at hrun
  cases hstat : k.ipc.stat i out.stat with
  | error errno =>
    simp only [hstat, Except.ok.injEq] at hrun
    subst hrun
    cases hok
  | ok b =>
    have hmq : ∃ mq, k.ipc.objects i = some mq ∧ mq.qbytes = b := by
      cases hfails : out.stat with
      | some errno => simp [Ipc.stat, hfails] at hstat
      | none =>
        cases hobj : k.ipc.objects i with
        | none => simp [Ipc.stat, hfails, hobj] at hstat
        | some mq => exact ⟨mq, rfl, by simpa [Ipc.stat, hfails, hobj] using hstat⟩
    simp only [hstat] at hrun
    split at hrun
    · cases hrun
      cases hok
    · split at hrun
      · cases hrun
      · cases hrun
        rcases hmq with ⟨mq, hobj, rfl⟩
        exact ⟨mq, hobj, rfl, rfl, rfl⟩

lemma openKey_fresh {out : OpenOutcome} {uid umask : Nat} {k : Kernel} {filename : Bytes}
    {id : Int} {flags : Flags} {r : Opened SystemvQueue Kernel}
    (hrun : openKey h os out uid k umask q filename id flags = .ok r) (hok : r.ok = true) :
    ∃ i mq, r.kernel.ipc.objects i = some mq ∧ Fresh h i mq.qbytes out.heap r.queue := by
  unfold openKey at hrun
  split at hrun
  · cases hrun
    cases hok
  · split at hrun
    · cases hrun
      cases hok
    · dsimp only at hrun
      split at hrun
      · cases hrun
        cases hok
      · exact ⟨_, openBuffer_fresh hrun hok⟩

/-- An owner's open gets no further than the key file, or goes on with its name and its id. -/
lemma queueOpen_owner_cases {out : OpenOutcome} {uid umask : Nat} {k : Kernel} {name : Bytes}
    {flags : Flags} {r : Opened SystemvQueue Kernel} (howner : flags.owner = true)
    (hrun : queueOpen h os out uid k umask q name flags = .ok r) :
    (∃ files text, ownerFile h os out uid k.files name = .ok (files, .error text) ∧
      r = ⟨false, q, { k with files := files }, umask, some text⟩) ∨
    ∃ files filename id, ownerFile h os out uid k.files name = .ok (files, .ok (filename, id)) ∧
      openKey h os out uid { k with files := files } umask q filename id flags = .ok r := by
  simp only [queueOpen, howner, if_true] at hrun
  rcases bind_eq_ok.1 hrun with ⟨⟨files, text | ⟨filename, id⟩⟩, hfile, hrun⟩
  · cases hrun
    exact Or.inl ⟨files, text, hfile, rfl⟩
  · exact Or.inr ⟨files, filename, id, hfile, hrun⟩

/-- A successful `queue_open`, of an owner or a sender, leaves a handle on a queue that exists; its
area has the contents of the block that `malloc` returned. -/
theorem queueOpen_fresh {out : OpenOutcome} {uid umask : Nat} {k : Kernel} {name : Bytes}
    {flags : Flags} {r : Opened SystemvQueue Kernel}
    (hrun : queueOpen h os out uid k umask q name flags = .ok r) (hok : r.ok = true) :
    ∃ i mq, r.kernel.ipc.objects i = some mq ∧ Fresh h i mq.qbytes out.heap r.queue := by
  cases howner : flags.owner with
  | true =>
    rcases queueOpen_owner_cases howner hrun with
      ⟨files, text, -, rfl⟩ | ⟨files, filename, id, -, hkey⟩
    · cases hok
    · exact openKey_fresh hkey hok
  | false =>
    simp only [queueOpen, howner, Bool.false_eq_true, if_false] at hrun
    split at hrun
    · cases hrun
      cases hok
    · exact openKey_fresh hrun hok

/-- A successful `queue_open` leaves a handle on a queue that exists. -/
theorem queueOpen_attached {out : OpenOutcome} {uid umask : Nat} {k : Kernel} {name : Bytes}
    {flags : Flags} {r : Opened SystemvQueue Kernel}
    (hrun : queueOpen h os out uid k umask q name flags = .ok r) (hok : r.ok = true) :
    ∃ i mq, r.kernel.ipc.objects i = some mq ∧ Attached h i mq.qbytes r.queue := by
  rcases queueOpen_fresh hrun hok with ⟨i, mq, hobj, hq⟩
  exact ⟨i, mq, hobj, hq.attached⟩

/-- The area after the copy of a string that fits it. -/
def copied (msg area : Bytes) : Bytes := msg ++ 0 :: area.drop (msg.length + 1)

lemma copied_length {msg area : Bytes} (hmsg : msg.length + 1 ≤ area.length) :
    (copied msg area).length = area.length := by
  simp [copied]
  omega

/-- A send that leaves the area: the string or the payload is too long for it. -/
lemma queueSend_overflow {k : Ipc} {msg area : Bytes} (msgLen : Int) (fails : Option Nat)
    (harea : q.buffer = some area)
    (hlong : area.length < msg.length + 1 ∨ area.length < q.bufferSize) :
    queueSend os k q msg msgLen fails = .error .outOfBounds := by
  unfold queueSend
  simp only [harea]
  by_cases hfits : msg.length + 1 ≤ area.length
  · have hsize : (copied msg area).length < q.bufferSize := by
      rw [copied_length hfits]
      omega
    rw [strcpy_of_le hfits]
    exact if_pos hsize
  · rw [strcpy_of_lt (by omega)]
    rfl

/-- A send that stays inside the area: the payload is cut from the area after the copy. -/
lemma queueSend_eq {k : Ipc} {msg area : Bytes} (msgLen : Int) (fails : Option Nat)
    (hq : Attached h i qbytes q) (harea : q.buffer = some area)
    (hmsg : msg.length + 1 ≤ area.length) (hsize : qbytes / 8 ≤ area.length) :
    ∃ error, queueSend os k q msg msgLen fails =
      .ok ⟨(k.offer i ((copied msg area).take (qbytes / 8)) fails).1,
        { q with buffer := some (copied msg area) },
        (k.offer i ((copied msg area).take (qbytes / 8)) fails).2, error⟩ := by
  have hroom : ¬ (copied msg area).length < qbytes / 8 := by
    rw [copied_length hmsg]
    omega
  have hcopy : strcpy area msg = .ok (copied msg area) := strcpy_of_le hmsg
  cases hsnd : k.msgsnd i ((copied msg area).take (qbytes / 8)) fails with
  | error errno =>
    refine ⟨some (systemError (str "msgsnd failed") (os.strerror errno)), ?_⟩
    simp [queueSend, harea, hcopy, hq.bufferSize, hq.qid, hroom, hsnd, ok_bind, pure_eq_ok,
      Ipc.offer]
  | ok k' =>
    refine ⟨none, ?_⟩
    simp [queueSend, harea, hcopy, hq.bufferSize, hq.qid, hroom, hsnd, ok_bind, pure_eq_ok,
      Ipc.offer]

/-- The area after the kernel stored a payload that fits it. -/
def overwritten (m area : Bytes) : Bytes := m ++ area.drop m.length

lemma overwritten_length {m area : Bytes} (hm : m.length ≤ area.length) :
    (overwritten m area).length = area.length := by
  simp [overwritten]
  omega

lemma memcpy_overwritten {m area : Bytes} (hm : m.length ≤ area.length) :
    memcpy area m = .ok (overwritten m area) :=
  if_pos hm

lemma queueReceive_refused {k : Ipc} {buffer : Bytes} {size errno : Nat} {fails : Option Nat}
    (errno₀ : Nat) (hqid : q.qid = some i) (hrcv : k.msgrcv i size fails = .error errno) :
    queueReceive os k q buffer size fails errno₀ =
      .ok ⟨-1, buffer, q, k, some (systemError (str "msgrcv failed") (os.strerror errno))⟩ := by
  simp [queueReceive, hqid, hrcv]

/-- A receive does not free anything. -/
lemma queueReceive_fault {k : Ipc} {buffer : Bytes} {size errno : Nat} {fails : Option Nat} {f : Fault}
    (hrun : queueReceive os k q buffer size fails errno = .error f) : f ≠ .invalidFree := by
  unfold queueReceive at hrun
  dsimp only at hrun
  split at hrun
  · cases hrun
  · split at hrun
    · cases hrun
    · split at hrun
      · cases hrun
        exact Fault.noConfusion
      · rcases bind_eq_error.1 hrun with hcopy | ⟨area, -, hrest⟩
        · rw [memcpy_fault hcopy]
          exact Fault.noConfusion
        · split at hrest
          · cases hrest
          · rcases bind_eq_error.1 hrest with hread | ⟨s, -, hrest⟩
            · rw [strread_fault hread]
              exact Fault.noConfusion
            · rcases bind_eq_error.1 hrest with hcopy | ⟨buffer', -, hdone⟩
              · rw [memcpy_fault hcopy]
                exact Fault.noConfusion
              · cases hdone

section taken

variable {k k' : Ipc} {buffer area m : Bytes} {size : Nat} {fails : Option Nat} (errno : Nat)

/-- The kernel writes past the area. -/
lemma queueReceive_overflow (hqid : q.qid = some i) (harea : q.buffer = some area)
    (hrcv : k.msgrcv i size fails = .ok (m, k')) (hlong : area.length < m.length) :
    queueReceive os k q buffer size fails errno = .error .outOfBounds := by
  have hnot : ¬ m.length ≤ area.length := by omega
  simp [queueReceive, hqid, hrcv, harea, memcpy, hnot, bind, Except.bind]

/-- The count is narrowed to `-1` and taken for a failure. -/
lemma queueReceive_lost (hqid : q.qid = some i) (harea : q.buffer = some area)
    (hrcv : k.msgrcv i size fails = .ok (m, k')) (hm : m.length ≤ area.length)
    (hlost : toInt m.length = -1) :
    queueReceive os k q buffer size fails errno =
      .ok ⟨-1, buffer, { q with buffer := some (overwritten m area) }, k',
        some (systemError (str "msgrcv failed") (os.strerror errno))⟩ := by
  simp [queueReceive, hqid, hrcv, harea, memcpy_overwritten hm, hlost, ok_bind, pure_eq_ok]

/-- `strcpy` reads past the area. -/
lemma queueReceive_unterminated (hqid : q.qid = some i) (harea : q.buffer = some area)
    (hrcv : k.msgrcv i size fails = .ok (m, k')) (hm : m.length ≤ area.length)
    (hread : toInt m.length ≠ -1) (hnul : (0 : Byte) ∉ overwritten m area) :
    queueReceive os k q buffer size fails errno = .error .outOfBounds := by
  simp [queueReceive, hqid, hrcv, harea, memcpy_overwritten hm, hread, bind, Except.bind,
    strread_of_not_mem hnul]

/-- `strcpy` writes past the caller's buffer. -/
lemma queueReceive_outgrown (hqid : q.qid = some i) (harea : q.buffer = some area)
    (hrcv : k.msgrcv i size fails = .ok (m, k')) (hm : m.length ≤ area.length)
    (hread : toInt m.length ≠ -1) (hnul : (0 : Byte) ∈ overwritten m area)
    (hroom : buffer.length < (cstr (overwritten m area)).length + 1) :
    queueReceive os k q buffer size fails errno = .error .outOfBounds := by
  simp [queueReceive, hqid, hrcv, harea, memcpy_overwritten hm, hread, bind, Except.bind,
    strread_of_mem hnul, strcpy_of_lt hroom]

/-- The caller gets the string that starts the area. -/
lemma queueReceive_eq (hqid : q.qid = some i) (harea : q.buffer = some area)
    (hrcv : k.msgrcv i size fails = .ok (m, k')) (hm : m.length ≤ area.length)
    (hread : toInt m.length ≠ -1) (hnul : (0 : Byte) ∈ overwritten m area)
    (hroom : (cstr (overwritten m area)).length + 1 ≤ buffer.length) :
    queueReceive os k q buffer size fails errno =
      .ok ⟨toInt m.length, copied (cstr (overwritten m area)) buffer,
        { q with buffer := some (overwritten m area) }, k', none⟩ := by
  simp [queueReceive, hqid, hrcv, harea, memcpy_overwritten hm, hread, ok_bind,
    strread_of_mem hnul, strcpy_of_le hroom, copied, pure_eq_ok]

end taken

end

end SystemV
end Banip
