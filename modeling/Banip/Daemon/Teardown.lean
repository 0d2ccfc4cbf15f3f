import Banip.Daemon.Main
import Banip.Lib.Heap
import Banip.Lib.Interrupt

/-!
# Teardown — `cleanup` statement by statement

`Daemon.cleanup` is what `cleanup` does when nothing comes in between.  But `cleanup` is called by
`exit`, and by the handlers of `SIGINT` and `SIGTERM`, and none of the three blocks the signals of
the others: a clean-up may be interrupted at any statement by another one, which starts over on the
static variables it finds and ends the process when it is done.

Here the static variables are pointers into a heap, and `step` executes one statement of `cleanup`,
of `queue_close` or of `pf_close`.  A test and the statement it guards are one step: a signal between
the two finds the same memory as a signal before the test.
-/

namespace Banip
namespace Daemon
namespace Teardown

open Lib

/-! ## Memory -/

/-- The part of a handle that differs between `posix_queue_t` and `systemv_queue_t`. -/
inductive Fields where
  | posix (mq : Option Mqd) (attr : MqAttr)
  | systemv (qid : Option Nat) (bufferSize : Nat)
deriving DecidableEq, Repr

/-- A handle in memory; the pointer `buffer` is null in a `posix_queue_t`, which has none. -/
structure HandleBlock where
  fields : Fields
  filename : Option Nat
  buffer : Option Nat
deriving DecidableEq, Repr

/-- What blocks of memory are allocated for: the buffer of `main`, the context of the PF engine, the
queue handle, its file name, its buffer, and the stream of the log file. -/
inductive Block where
  | message (data : Bytes)
  | context (fd : Option Nat)
  | handle (q : HandleBlock)
  | name (text : Bytes)
  | area (data : Bytes)
  | stream (fd : Nat)
deriving DecidableEq, Repr

/-- What `err_file` points to. -/
inductive Stream where
  | stderr
  | file (a : Nat)
deriving DecidableEq, Repr

/-- The static variables of `banipd.c`, the heap, and the rest of the system. -/
structure Memory where
  heap : Heap Block
  buffer : Option Nat
  ctxt : Option Nat
  queue : Option Nat
  errFile : Option Stream
  sys : System

/-- Does the engine have a `close`? -/
def engineCloses : EngineKind → Bool
  | .pf => true
  | .ipset | .dummy => false

/-! ## The statements -/

/-- The statements of `cleanup`, by what is executed next. -/
inductive Point where
  | freeBuffer
  | clearBuffer
  | closeCtxt
  | markCtxt
  | freeCtxt
  | clearCtxt
  | closeQueue
  | markQueue
  | removeName
  | freeName
  | clearName
  | freeArea
  | clearArea
  | freeHandle
  | clearHandle
  | unlinkPid
  | closeLog
  | clearLog
  | finished
deriving DecidableEq, Repr

/-- What the environment decides in one clean-up: the outcomes of `close` on the device, of the two
system calls of `queue_close` and of the removal of the pid file. -/
structure Ending where
  closeDevice : Option Nat
  closeFirst : Option Nat
  closeSecond : Option Nat
  unlinkPid : Option Nat
deriving DecidableEq, Repr

/-- `warnc`: a null `err_file` becomes `stderr`, and the stream is written to. -/
def warn (m : Memory) : Except Fault Memory :=
  match m.errFile with
  | none => .ok { m with errFile := some .stderr }
  | some .stderr => .ok m
  | some (.file a) => do
      let _ ← m.heap.load a
      return m

/-- Read the handle `*p`. -/
def loadHandle (m : Memory) : Except Fault (Nat × HandleBlock) :=
  match m.queue with
  | none => .error .nullDeref
  | some a => do
      match ← m.heap.load a with
      | .handle q => return (a, q)
      | _ => .error .outOfBounds

/-- The first system call of `queue_close`, if it is made: `mq_close`, or an owner's `IPC_RMID`. -/
def firstCall (p : Proc) (e : Ending) (sys : System) (q : HandleBlock) : Option (Except Nat System) :=
  match q.fields with
  | .posix none _ => none
  | .posix (some _) _ =>
    match e.closeFirst with
    | some errno => some (.error errno)
    | none => some (.ok sys)
  | .systemv none _ => none
  | .systemv (some i) _ =>
    match q.filename with
    | none => none
    | some _ =>
      match sys.ipc.rmid i p.uid e.closeFirst with
      | .error errno => some (.error errno)
      | .ok ipc => some (.ok { sys with ipc := ipc })

/-- The second system call of `queue_close`: `mq_unlink`, or `unlink`. -/
def secondCall (p : Proc) (e : Ending) (sys : System) (fields : Fields) (name : Bytes) :
    Except Nat System :=
  match fields with
  | .posix _ _ => (sys.mqs.mqUnlink name p.uid e.closeSecond).map fun mqs => { sys with mqs := mqs }
  | .systemv _ _ =>
      (sys.files.unlink name p.uid e.closeSecond).map fun files => { sys with files := files }

/-- `q->mq = NOT_MQD_T`, or `q->qid = -1`. -/
def Fields.detach : Fields → Fields
  | .posix _ attr => .posix none attr
  | .systemv _ size => .systemv none size

/-- One statement of `cleanup` in the process `p`. -/
def step (p : Proc) (e : Ending) : Point → Memory → Except Fault (Point × Memory)
  | .freeBuffer, m =>
    match m.buffer with
    | none => .ok (.closeCtxt, m)
    | some a => do
        let heap ← m.heap.free a
        return (.clearBuffer, { m with heap := heap })
  | .clearBuffer, m => .ok (.closeCtxt, { m with buffer := none })
  | .closeCtxt, m =>
    match m.ctxt with
    | none => .ok (.closeQueue, m)
    | some a =>
      if engineCloses p.opts.engine then do
        match ← m.heap.load a with
        | .context none => return (.freeCtxt, m)
        | .context (some _) =>
          match e.closeDevice with
          | none => return (.markCtxt, m)
          | some _ => do
              let m ← warn m
              return (.markCtxt, m)
        | _ => .error .outOfBounds
      else .ok (.freeCtxt, m)
  | .markCtxt, m =>
    match m.ctxt with
    | none => .error .nullDeref
    | some a => do
        match ← m.heap.load a with
        | .context _ => do
            let heap ← m.heap.store a (.context none)
            return (.freeCtxt, { m with heap := heap })
        | _ => .error .outOfBounds
  | .freeCtxt, m =>
    match m.ctxt with
    | none => .ok (.clearCtxt, m)
    | some a => do
        let heap ← m.heap.free a
        return (.clearCtxt, { m with heap := heap })
  | .clearCtxt, m => .ok (.closeQueue, { m with ctxt := none })
  | .closeQueue, m =>
    match m.queue with
    | none => .ok (.unlinkPid, m)
    | some _ => do
        let (_, q) ← loadHandle m
        match firstCall p e m.sys q with
        | none => return (.removeName, m)
        -- `queue_close` returns, and the clean-up goes on
        | some (.error _) => return (.unlinkPid, m)
        | some (.ok sys) => return (.markQueue, { m with sys := sys })
  | .markQueue, m => do
      let (a, q) ← loadHandle m
      let heap ← m.heap.store a (.handle { q with fields := q.fields.detach })
      return (.removeName, { m with heap := heap })
  | .removeName, m => do
      let (_, q) ← loadHandle m
      match q.filename with
      | none => return (.freeArea, m)
      | some f =>
        match ← m.heap.load f with
        | .name text =>
          match secondCall p e m.sys q.fields text with
          | .error _ => return (.unlinkPid, m)
          | .ok sys => return (.freeName, { m with sys := sys })
        | _ => .error .outOfBounds
  | .freeName, m => do
      let (_, q) ← loadHandle m
      match q.filename with
      | none => return (.clearName, m)
      | some f => do
          let heap ← m.heap.free f
          return (.clearName, { m with heap := heap })
  | .clearName, m => do
      let (a, q) ← loadHandle m
      let heap ← m.heap.store a (.handle { q with filename := none })
      return (.freeArea, { m with heap := heap })
  | .freeArea, m => do
      let (_, q) ← loadHandle m
      match q.buffer with
      | none => return (.freeHandle, m)
      | some b => do
          let heap ← m.heap.free b
          return (.clearArea, { m with heap := heap })
  | .clearArea, m => do
      let (a, q) ← loadHandle m
      let heap ← m.heap.store a (.handle { q with buffer := none })
      return (.freeHandle, { m with heap := heap })
  | .freeHandle, m =>
    match m.queue with
    | none => .ok (.clearHandle, m)
    | some a => do
        let heap ← m.heap.free a
        return (.clearHandle, { m with heap := heap })
  | .clearHandle, m => .ok (.unlinkPid, { m with queue := none })
  | .unlinkPid, m =>
    match p.opts.pidfilename with
    | none => .ok (.closeLog, m)
    | some path =>
      match m.sys.files.unlink path p.uid e.unlinkPid with
      | .ok files => .ok (.closeLog, { m with sys := { m.sys with files := files } })
      | .error _ => do
          let m ← warn m
          return (.closeLog, m)
  | .closeLog, m =>
    match m.errFile with
    | none | some .stderr => .ok (.finished, m)
    | some (.file a) => do
      match ← m.heap.load a with
      | .stream fd =>
          if 2 < fd then do
            let heap ← m.heap.free a
            return (.clearLog, { m with heap := heap })
          else return (.finished, m)
      | _ => .error .outOfBounds
  | .clearLog, m => .ok (.finished, { m with errFile := none })
  | .finished, m => .ok (.finished, m)

/-! ## Pointers and what they point to -/

/-- What the process holds in memory. -/
inductive Resource where
  | buffer
  | ctxt
  | name
  | area
  | handle
  | log
deriving DecidableEq, Repr

/-- What a block is a block for. -/
def Block.resource : Block → Resource
  | .message _ => .buffer
  | .context _ => .ctxt
  | .handle _ => .handle
  | .name _ => .name
  | .area _ => .area
  | .stream _ => .log

def Block.asHandle : Block → Option HandleBlock
  | .handle q => some q
  | .message _ | .context _ | .name _ | .area _ | .stream _ => none

/-- The handle, if `queue` leads to one. -/
def Memory.handle (m : Memory) : Option HandleBlock :=
  m.queue.bind fun a => (m.heap.cells a).bind Block.asHandle

/-- The pointer to a resource. -/
def Memory.ptr (m : Memory) : Resource → Option Nat
  | .buffer => m.buffer
  | .ctxt => m.ctxt
  | .name => m.handle.bind HandleBlock.filename
  | .area => m.handle.bind HandleBlock.buffer
  | .handle => m.queue
  | .log =>
    match m.errFile with
    | some (.file a) => some a
    | none | some .stderr => none

/-- The pointer is null, or it leads to a live block of the right kind. -/
def Live (m : Memory) (r : Resource) : Prop :=
  ∀ a, m.ptr r = some a → ∃ b, m.heap.cells a = some b ∧ b.resource = r

/-- The pointer is the address of a block that was freed. -/
def Dangling (m : Memory) (r : Resource) : Prop := ∃ a, m.ptr r = some a ∧ m.heap.cells a = none

/-- No pointer leads to a block of the wrong kind. -/
def Typed (m : Memory) : Prop :=
  ∀ r a b, m.ptr r = some a → m.heap.cells a = some b → b.resource = r

/-! ## What a statement can do -/

/-- The statement that frees a resource. -/
def freeAt : Resource → Point
  | .buffer => .freeBuffer
  | .ctxt => .freeCtxt
  | .name => .freeName
  | .area => .freeArea
  | .handle => .freeHandle
  | .log => .closeLog

/-- The statement after it, that makes the pointer null. -/
def clearAt : Resource → Point
  | .buffer => .clearBuffer
  | .ctxt => .clearCtxt
  | .name => .clearName
  | .area => .clearArea
  | .handle => .clearHandle
  | .log => .clearLog

/-- The statement after that. -/
def afterClear : Resource → Point
  | .buffer => .closeCtxt
  | .ctxt => .closeQueue
  | .name => .freeArea
  | .area => .freeHandle
  | .handle => .unlinkPid
  | .log => .finished

/-- Replace the handle. -/
def Memory.setHandle (m : Memory) (q : HandleBlock) : Memory :=
  { m with
    heap :=
      match m.queue with
      | none => m.heap
      | some a => m.heap.put a (.handle q) }

/-- Make a pointer null. -/
def Memory.nullify (m : Memory) : Resource → Memory
  | .buffer => { m with buffer := none }
  | .ctxt => { m with ctxt := none }
  | .name =>
    match m.handle with
    | none => m
    | some q => m.setHandle { q with filename := none }
  | .area =>
    match m.handle with
    | none => m
    | some q => m.setHandle { q with buffer := none }
  | .handle => { m with queue := none }
  | .log => { m with errFile := none }

/-- The handle is not on a queue, or `queue_close` does not care. -/
def HandleBlock.Detached (q : HandleBlock) : Prop :=
  match q.fields with
  | .posix mq _ => mq = none
  | .systemv qid _ => qid = none ∨ q.filename = none

/-- The memories have the same pointers and the same blocks; only what is written in a block may
differ, and a handle that was detached still is. -/
structure Agrees (m m' : Memory) : Prop where
  ptr : ∀ r, m'.ptr r = m.ptr r
  cells : ∀ a, (m'.heap.cells a).map Block.resource = (m.heap.cells a).map Block.resource
  detached : ∀ q, m.handle = some q → q.Detached → ∃ q', m'.handle = some q' ∧ q'.Detached ∧
    q'.filename = q.filename

/-- The steps that neither free a block nor make a pointer null, with the tests they have passed. -/
inductive Pass (m : Memory) : Point → Point → Prop where
  | noBuffer (h : m.ptr .buffer = none) : Pass m .freeBuffer .closeCtxt
  | noCtxt (h : m.ptr .ctxt = none) : Pass m .closeCtxt .closeQueue
  | ctxt {a : Nat} (h : m.ptr .ctxt = some a) : Pass m .closeCtxt .freeCtxt
  | closeDevice {a : Nat} (h : m.ptr .ctxt = some a) : Pass m .closeCtxt .markCtxt
  | markCtxt {a : Nat} (h : m.ptr .ctxt = some a) : Pass m .markCtxt .freeCtxt
  | nullCtxt (h : m.ptr .ctxt = none) : Pass m .freeCtxt .clearCtxt
  | noQueue (h : m.ptr .handle = none) : Pass m .closeQueue .unlinkPid
  | refused {q : HandleBlock} (h : m.handle = some q) (hq : ¬ q.Detached) :
      Pass m .closeQueue .unlinkPid
  | called {q : HandleBlock} (h : m.handle = some q) : Pass m .closeQueue .markQueue
  | uncalled {q : HandleBlock} (h : m.handle = some q) (hq : q.Detached) :
      Pass m .closeQueue .removeName
  | nameless {q : HandleBlock} (h : m.handle = some q) (hname : m.ptr .name = none) :
      Pass m .removeName .freeArea
  | kept {a : Nat} {b : Block} (h : m.ptr .name = some a) (hlive : m.heap.cells a = some b) :
      Pass m .removeName .unlinkPid
  | removed {a : Nat} {b : Block} (h : m.ptr .name = some a) (hlive : m.heap.cells a = some b) :
      Pass m .removeName .freeName
  | nullName (h : m.ptr .name = none) : Pass m .freeName .clearName
  | noArea {q : HandleBlock} (h : m.handle = some q) (harea : m.ptr .area = none) :
      Pass m .freeArea .freeHandle
  | nullHandle (h : m.ptr .handle = none) : Pass m .freeHandle .clearHandle
  | unlinkPid : Pass m .unlinkPid .closeLog
  | noLog (h : ¬ Dangling m .log) : Pass m .closeLog .finished
  | ended : Pass m .finished .finished

/-- The steps of a clean-up. -/
inductive Effect (m : Memory) : Point → Point → Memory → Prop where
  | pass {pt pt' : Point} {m' : Memory} (hpass : Pass m pt pt') (hagrees : Agrees m m') :
      Effect m pt pt' m'
  | free {r : Resource} {a : Nat} {b : Block} (hptr : m.ptr r = some a)
      (hlive : m.heap.cells a = some b) :
      Effect m (freeAt r) (clearAt r) { m with heap := m.heap.drop a }
  | clear {r : Resource} (hhandle : r = .name ∨ r = .area → m.handle ≠ none) :
      Effect m (clearAt r) (afterClear r) (m.nullify r)
  | detach {q : HandleBlock} (h : m.handle = some q) :
      Effect m .markQueue .removeName (m.setHandle { q with fields := q.fields.detach })

section

variable {p : Proc} {e : Ending} {m m' : Memory} {pt pt' : Point}

lemma Agrees.refl (m : Memory) : Agrees m m :=
  ⟨fun _ => rfl, fun _ => rfl, fun q hq hdet => ⟨q, hq, hdet, rfl⟩⟩

/-- The rest of the system may change, and a null `err_file` may become `stderr`. -/
lemma Agrees.of_system {sys : System} {errFile : Option Stream}
    (hlog : errFile = m.errFile ∨ m.errFile = none ∧ errFile = some .stderr) :
    Agrees m { m with sys := sys, errFile := errFile } := by
  refine ⟨fun r => ?_, fun _ => rfl, fun q hq hdet => ⟨q, hq, hdet, rfl⟩⟩
  cases r with
  | buffer | ctxt | name | area | handle => rfl
  | log =>
    rcases hlog with rfl | ⟨hnull, rfl⟩
    · rfl
    · simp [Memory.ptr, hnull]

lemma warn_ok (h : warn m = .ok m') :
    ∃ errFile, m' = { m with errFile := errFile } ∧
      (errFile = m.errFile ∨ m.errFile = none ∧ errFile = some .stderr) := by
  unfold warn at h
  cases herr : m.errFile with
  | none =>
    simp only [herr, Except.ok.injEq] at h
    exact ⟨some .stderr, h.symm, Or.inr ⟨rfl, rfl⟩⟩
  | some s =>
    cases s with
    | stderr =>
      simp only [herr, Except.ok.injEq] at h
      subst h
      exact ⟨m.errFile, rfl, Or.inl herr⟩
    | file a =>
      simp only [herr] at h
      rcases bind_eq_ok.1 h with ⟨b, -, hm⟩
      cases hm
      exact ⟨m.errFile, rfl, Or.inl herr⟩

lemma loadHandle_ok {a : Nat} {q : HandleBlock} (h : loadHandle m = .ok (a, q)) :
    m.queue = some a ∧ m.heap.cells a = some (.handle q) := by
  unfold loadHandle at h
  cases hqueue : m.queue with
  | none => simp [hqueue] at h
  | some a' =>
    simp only [hqueue] at h
    rcases bind_eq_ok.1 h with ⟨b, hload, hb⟩
    have hcell := Heap.load_ok hload
    cases b with
    | handle q' =>
      cases hb
      exact ⟨rfl, hcell⟩
    | message _ | context _ | name _ | area _ | stream _ => cases hb

lemma Block.asHandle_eq_some {b : Block} {q : HandleBlock} :
    b.asHandle = some q ↔ b = .handle q := by
  cases b <;> simp [Block.asHandle]

lemma handle_eq_some {q : HandleBlock} :
    m.handle = some q ↔ ∃ a, m.queue = some a ∧ m.heap.cells a = some (.handle q) := by
  simp [Memory.handle, Option.bind_eq_some_iff, Block.asHandle_eq_some]

lemma handle_of_cells {a : Nat} {q : HandleBlock} (hqueue : m.queue = some a)
    (hcell : m.heap.cells a = some (.handle q)) : m.handle = some q :=
  handle_eq_some.2 ⟨a, hqueue, hcell⟩

lemma loadHandle_of_handle {q : HandleBlock} (h : m.handle = some q) :
    ∃ a, loadHandle m = .ok (a, q) ∧ m.queue = some a ∧ m.heap.cells a = some (.handle q) := by
  rcases handle_eq_some.1 h with ⟨a, hqueue, hcell⟩
  exact ⟨a, by simp [loadHandle, hqueue, Heap.load_of_live hcell, ok_bind, pure_eq_ok], hqueue, hcell⟩

lemma setHandle_eq {a : Nat} (hqueue : m.queue = some a) (q : HandleBlock) :
    m.setHandle q = { m with heap := m.heap.put a (.handle q) } := by
  simp [Memory.setHandle, hqueue]

/-- The handle after `setHandle`. -/
lemma handle_setHandle {q q' : HandleBlock} (h : m.handle = some q) :
    (m.setHandle q').handle = some q' := by
  rcases handle_eq_some.1 h with ⟨a, hqueue, hcell⟩
  rw [setHandle_eq hqueue]
  exact handle_of_cells hqueue (Heap.cells_put_self hcell)

/-- What is written in the handle does not change the kinds of the blocks. -/
lemma resource_setHandle {q : HandleBlock} (h : m.handle = some q) (q' : HandleBlock) (a : Nat) :
    ((m.setHandle q').heap.cells a).map Block.resource = (m.heap.cells a).map Block.resource := by
  rcases handle_eq_some.1 h with ⟨a', hqueue, hcell⟩
  rw [setHandle_eq hqueue]
  dsimp only
  by_cases ha : a = a'
  · subst ha
    rw [Heap.cells_put_self hcell, hcell]
    rfl
  · rw [Heap.cells_put_of_ne ha]

/-- `setHandle` leaves the other pointers alone. -/
lemma ptr_setHandle {r : Resource} (hname : r ≠ .name) (harea : r ≠ .area) (q' : HandleBlock) :
    (m.setHandle q').ptr r = m.ptr r := by
  cases r with
  | name => exact absurd rfl hname
  | area => exact absurd rfl harea
  | buffer | ctxt | handle | log => rfl

lemma Agrees.setHandle {q q' : HandleBlock} (h : m.handle = some q)
    (hname : q'.filename = q.filename) (harea : q'.buffer = q.buffer)
    (hdet : q.Detached → q'.Detached) : Agrees m (m.setHandle q') := by
  refine ⟨fun r => ?_, resource_setHandle h q', fun q₁ hq₁ hd => ?_⟩
  · cases r with
    | name => simp [Memory.ptr, handle_setHandle h, h, hname]
    | area => simp [Memory.ptr, handle_setHandle h, h, harea]
    | buffer | ctxt | handle | log => exact ptr_setHandle (by decide) (by decide) q'
  · cases h.symm.trans hq₁
    exact ⟨q', handle_setHandle h, hdet hd, hname⟩

lemma HandleBlock.detached_detach (q : HandleBlock) :
    ({ q with fields := q.fields.detach } : HandleBlock).Detached := by
  rcases q with ⟨fields, filename, buffer⟩
  cases fields with
  | posix mq attr => exact (rfl : none = none)
  | systemv qid size => exact Or.inl rfl

/-- `queue_close` makes its first system call on a handle that is attached, and on no other. -/
lemma firstCall_eq_none_iff (p : Proc) (e : Ending) (sys : System) {q : HandleBlock} :
    firstCall p e sys q = none ↔ q.Detached := by
  rcases q with ⟨fields, filename, buffer⟩
  cases fields with
  | posix mq attr =>
    cases mq with
    | none => simp [firstCall, HandleBlock.Detached]
    | some d => cases hfails : e.closeFirst <;> simp [firstCall, HandleBlock.Detached, hfails]
  | systemv qid size =>
    cases qid with
    | none => simp [firstCall, HandleBlock.Detached]
    | some i =>
      cases filename with
      | none => simp [firstCall, HandleBlock.Detached]
      | some f =>
        cases hrm : sys.ipc.rmid i p.uid e.closeFirst <;>
          simp [firstCall, HandleBlock.Detached, hrm]

/-- What is written in the context does not matter. -/
lemma Agrees.setContext {a : Nat} {fd fd' : Option Nat} (hcell : m.heap.cells a = some (.context fd)) :
    Agrees m { m with heap := m.heap.put a (.context fd') } := by
  have hhandle : ({ m with heap := m.heap.put a (.context fd') } : Memory).handle = m.handle := by
    unfold Memory.handle
    congr 1
    funext a'
    by_cases ha : a' = a
    · subst ha
      dsimp only
      rw [Heap.cells_put_self hcell, hcell]
      rfl
    · dsimp only
      rw [Heap.cells_put_of_ne ha]
  refine ⟨fun r => ?_, fun a' => ?_, fun q hq hdet => ⟨q, by rw [hhandle, hq], hdet, rfl⟩⟩
  · cases r with
    | name | area => simp only [Memory.ptr, hhandle]
    | buffer | ctxt | handle | log => rfl
  · dsimp only
    by_cases ha : a' = a
    · subst ha
      rw [Heap.cells_put_self hcell, hcell]
      rfl
    · rw [Heap.cells_put_of_ne ha]

/-- A statement that reads the handle has found one. -/
lemma bind_loadHandle {α : Type} {f : Nat × HandleBlock → Except Fault α} {c : α}
    (h : (loadHandle m >>= f) = .ok c) :
    ∃ a q, m.queue = some a ∧ m.handle = some q ∧ f (a, q) = .ok c := by
  rcases bind_eq_ok.1 h with ⟨⟨a, q⟩, hload, hf⟩
  rcases loadHandle_ok hload with ⟨hqueue, hcell⟩
  exact ⟨a, q, hqueue, handle_of_cells hqueue hcell, hf⟩

/-- A statement that frees a resource. -/
lemma free_effect {r : Resource} {a : Nat} (hptr : m.ptr r = some a)
    (h : (m.heap.free a >>= fun heap => pure (clearAt r, { m with heap := heap })) =
      .ok (pt', m')) : Effect m (freeAt r) pt' m' := by
  rcases bind_eq_ok.1 h with ⟨heap, hfree, hm⟩
  rcases Heap.free_ok hfree with ⟨⟨b, hlive⟩, rfl⟩
  cases hm
  exact .free hptr hlive

lemma closeCtxt_effect (h : step p e .closeCtxt m = .ok (pt', m')) :
    Effect m .closeCtxt pt' m' := by
  simp only [step] at h
  split at h
  · cases h
    exact .pass (.noCtxt ‹_›) (Agrees.refl m)
  · rename_i a hptr
    split at h
    · rcases bind_eq_ok.1 h with ⟨b, -, hb⟩
      split at hb
      · cases hb
        exact .pass (.ctxt hptr) (Agrees.refl m)
      · split at hb
        · cases hb
          exact .pass (.closeDevice hptr) (Agrees.refl m)
        · rcases bind_eq_ok.1 hb with ⟨m₁, hwarn, hm⟩
          cases hm
          rcases warn_ok hwarn with ⟨errFile, rfl, hlog⟩
          exact .pass (.closeDevice hptr) (Agrees.of_system hlog)
      · cases hb
    -- the engine has no `close`
    · cases h
      exact .pass (.ctxt hptr) (Agrees.refl m)

lemma closeQueue_effect (h : step p e .closeQueue m = .ok (pt', m')) :
    Effect m .closeQueue pt' m' := by
  simp only [step] at h
  split at h
  · cases h
    exact .pass (.noQueue ‹_›) (Agrees.refl m)
  · rcases bind_loadHandle h with ⟨a, q, -, hhandle, hb⟩
    dsimp only at hb
    split at hb
    · rename_i hcall
      cases hb
      exact .pass (.uncalled hhandle ((firstCall_eq_none_iff p e m.sys).1 hcall)) (Agrees.refl m)
    · rename_i errno hcall
      cases hb
      refine .pass (.refused hhandle ?_) (Agrees.refl m)
      rw [← firstCall_eq_none_iff p e m.sys, hcall]
      simp
    · cases hb
      exact .pass (.called hhandle) (Agrees.of_system (Or.inl rfl))

lemma markQueue_effect (h : step p e .markQueue m = .ok (pt', m')) :
    Effect m .markQueue pt' m' := by
  simp only [step] at h
  rcases bind_loadHandle h with ⟨a, q, hqueue, hhandle, hb⟩
  rcases bind_eq_ok.1 hb with ⟨heap, hstore, hm⟩
  cases Heap.store_ok hstore
  cases hm
  rw [← setHandle_eq hqueue]
  exact .detach hhandle

lemma removeName_effect (h : step p e .removeName m = .ok (pt', m')) :
    Effect m .removeName pt' m' := by
  simp only [step] at h
  rcases bind_loadHandle h with ⟨a, q, -, hhandle, hb⟩
  dsimp only at hb
  split at hb
  · rename_i hname
    cases hb
    exact .pass (.nameless hhandle (by simp [Memory.ptr, hhandle, hname])) (Agrees.refl m)
  · rename_i f hname
    have hptr : m.ptr .name = some f := by simp [Memory.ptr, hhandle, hname]
    rcases bind_eq_ok.1 hb with ⟨b, hload, hb⟩
    have hlive := Heap.load_ok hload
    split at hb
    · split at hb
      · cases hb
        exact .pass (.kept hptr hlive) (Agrees.refl m)
      · cases hb
        exact .pass (.removed hptr hlive) (Agrees.of_system (Or.inl rfl))
    · cases hb

/-- The statements that write a null pointer to the handle. -/
lemma clearHandle_effect (f : HandleBlock → HandleBlock) {r : Resource}
    (hnull : ∀ q, m.handle = some q → m.nullify r = m.setHandle (f q))
    (h : (loadHandle m >>= fun c => m.heap.store c.1 (.handle (f c.2)) >>= fun heap =>
      pure (afterClear r, { m with heap := heap })) = .ok (pt', m')) :
    Effect m (clearAt r) pt' m' := by
  rcases bind_loadHandle h with ⟨a, q, hqueue, hhandle, hb⟩
  rcases bind_eq_ok.1 hb with ⟨heap, hstore, hm⟩
  cases Heap.store_ok hstore
  cases hm
  rw [← setHandle_eq hqueue, ← hnull q hhandle]
  exact .clear (by simp [hhandle])

lemma unlinkPid_effect (h : step p e .unlinkPid m = .ok (pt', m')) :
    Effect m .unlinkPid pt' m' := by
  simp only [step] at h
  split at h
  · cases h
    exact .pass .unlinkPid (Agrees.refl m)
  · split at h
    · cases h
      exact .pass .unlinkPid (Agrees.of_system (Or.inl rfl))
    · rcases bind_eq_ok.1 h with ⟨m₁, hwarn, hm⟩
      cases hm
      rcases warn_ok hwarn with ⟨errFile, rfl, hlog⟩
      exact .pass .unlinkPid (Agrees.of_system hlog)

lemma closeLog_effect (h : step p e .closeLog m = .ok (pt', m')) : Effect m .closeLog pt' m' := by
  simp only [step] at h
  split at h
  · cases h
    exact .pass (.noLog (by simp [Dangling, Memory.ptr, *])) (Agrees.refl m)
  · cases h
    exact .pass (.noLog (by simp [Dangling, Memory.ptr, *])) (Agrees.refl m)
  · rename_i a herr
    have hptr : m.ptr .log = some a := by simp [Memory.ptr, herr]
    rcases bind_eq_ok.1 h with ⟨b, hload, hb⟩
    split at hb
    · split at hb
      · exact free_effect (r := .log) hptr hb
      · cases hb
        exact .pass (.noLog (by simp [Dangling, hptr, Heap.load_ok hload])) (Agrees.refl m)
    · cases hb

/-- Every statement has one of the effects. -/
theorem step_effect (h : step p e pt m = .ok (pt', m')) : Effect m pt pt' m' := by
  cases pt with
  | closeCtxt => exact closeCtxt_effect h
  | closeQueue => exact closeQueue_effect h
  | markQueue => exact markQueue_effect h
  | removeName => exact removeName_effect h
  | unlinkPid => exact unlinkPid_effect h
  | closeLog => exact closeLog_effect h
  | freeBuffer =>
    simp only [step] at h
    split at h
    · cases h
      exact .pass (.noBuffer ‹_›) (Agrees.refl m)
    · exact free_effect (r := .buffer) ‹_› h
  | markCtxt =>
    simp only [step] at h
    split at h
    · cases h
    · rename_i a hptr
      rcases bind_eq_ok.1 h with ⟨b, hload, hb⟩
      split at hb
      · rcases bind_eq_ok.1 hb with ⟨heap, hstore, hm⟩
        cases Heap.store_ok hstore
        cases hm
        exact .pass (.markCtxt hptr) (Agrees.setContext (Heap.load_ok hload))
      · cases hb
  | freeCtxt =>
    simp only [step] at h
    split at h
    · cases h
      exact .pass (.nullCtxt ‹_›) (Agrees.refl m)
    · exact free_effect (r := .ctxt) ‹_› h
  | freeName =>
    simp only [step] at h
    rcases bind_loadHandle h with ⟨a, q, -, hhandle, hb⟩
    dsimp only at hb
    split at hb
    · rename_i hname
      cases hb
      exact .pass (.nullName (by simp [Memory.ptr, hhandle, hname])) (Agrees.refl m)
    · rename_i f hname
      exact free_effect (r := .name) (by simp [Memory.ptr, hhandle, hname]) hb
  | freeArea =>
    simp only [step] at h
    rcases bind_loadHandle h with ⟨a, q, -, hhandle, hb⟩
    dsimp only at hb
    split at hb
    · rename_i harea
      cases hb
      exact .pass (.noArea hhandle (by simp [Memory.ptr, hhandle, harea])) (Agrees.refl m)
    · rename_i f harea
      exact free_effect (r := .area) (by simp [Memory.ptr, hhandle, harea]) hb
  | freeHandle =>
    simp only [step] at h
    split at h
    · cases h
      exact .pass (.nullHandle ‹_›) (Agrees.refl m)
    · exact free_effect (r := .handle) ‹_› h
  | clearName =>
    exact clearHandle_effect (fun q => { q with filename := none }) (r := .name)
      (fun q hq => by simp only [Memory.nullify, hq]) h
  | clearArea =>
    exact clearHandle_effect (fun q => { q with buffer := none }) (r := .area)
      (fun q hq => by simp only [Memory.nullify, hq]) h
  | clearBuffer =>
    cases h
    exact .clear (r := .buffer) (by simp)
  | clearCtxt =>
    cases h
    exact .clear (r := .ctxt) (by simp)
  | clearHandle =>
    cases h
    exact .clear (r := .handle) (by simp)
  | clearLog =>
    cases h
    exact .clear (r := .log) (by simp)
  | finished =>
    cases h
    exact .pass .ended (Agrees.refl m)

end

end Teardown
end Daemon
end Banip
