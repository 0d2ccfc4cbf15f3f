import Banip.Daemon.Reentry

/-!
# Release — a clean-up that nothing interrupts

`Daemon.cleanup` is a function of the handle and the system; the statements of `Teardown` work on
pointers.  `remaining` says, for every statement, what the clean-up will have done to the handle and
the system when it comes to its end; no statement changes it, and at the first statement it is what
`Daemon.cleanup` computes.
-/

namespace Banip
namespace Daemon
namespace Teardown

open Lib

/-! ## The handle that memory shows -/

def Block.text : Block → Option Bytes
  | .name text => some text
  | .message _ | .context _ | .handle _ | .area _ | .stream _ => none

def Block.bytes : Block → Option Bytes
  | .area data => some data
  | .message _ | .context _ | .handle _ | .name _ | .stream _ => none

/-- The string a pointer leads to. -/
def Memory.text (m : Memory) (ptr : Option Nat) : Option Bytes :=
  ptr.bind fun a => (m.heap.cells a).bind Block.text

/-- The buffer of a handle that a pointer leads to. -/
def Memory.bytes (m : Memory) (ptr : Option Nat) : Option Bytes :=
  ptr.bind fun a => (m.heap.cells a).bind Block.bytes

/-- The handle with its pointers followed. -/
def Memory.show (m : Memory) (q : HandleBlock) : Handle :=
  match q.fields with
  | .posix mq attr => .posix ⟨mq, m.text q.filename, attr⟩
  | .systemv qid size => .systemv ⟨qid, m.bytes q.buffer, m.text q.filename, size⟩

/-- What `queue` points to, as the other modules see it. -/
def Memory.shown (m : Memory) : Option Handle := m.handle.map m.show

/-- `q->mq = NOT_MQD_T`, or `q->qid = -1`. -/
def detach : Handle → Handle
  | .posix q => .posix { q with mq := none }
  | .systemv q => .systemv { q with qid := none }

section

variable {p : Proc} {e : Ending} {m m' : Memory} {pt pt' : Point}

/-- A block that is not of the queue. -/
def Foreign (b : Block) : Prop := b.resource = .buffer ∨ b.resource = .ctxt ∨ b.resource = .log

/-- Only the blocks of the queue are looked at. -/
lemma shown_congr (hqueue : m'.queue = m.queue)
    (hcells : ∀ a, m'.heap.cells a = m.heap.cells a ∨
      (∀ b, m'.heap.cells a = some b → Foreign b) ∧ ∀ b, m.heap.cells a = some b → Foreign b) :
    m'.shown = m.shown := by
  have hblind : ∀ {β : Type} (f : Block → Option β), (∀ b, Foreign b → f b = none) →
      ∀ a, (m'.heap.cells a).bind f = (m.heap.cells a).bind f := by
    intro β f hf a
    rcases hcells a with heq | ⟨hother', hother⟩
    · rw [heq]
    · rw [Option.bind_eq_none_iff.2 fun b hb => hf b (hother' b hb),
        Option.bind_eq_none_iff.2 fun b hb => hf b (hother b hb)]
  have hhandle : m'.handle = m.handle := by
    unfold Memory.handle
    rw [hqueue, funext (hblind Block.asHandle ?_)]
    intro b hb
    cases b <;> first | rfl | simp [Foreign, Block.resource] at hb
  have htext : m'.text = m.text := by
    funext ptr
    unfold Memory.text
    rw [funext (hblind Block.text ?_)]
    intro b hb
    cases b <;> first | rfl | simp [Foreign, Block.resource] at hb
  have hbytes : m'.bytes = m.bytes := by
    funext ptr
    unfold Memory.bytes
    rw [funext (hblind Block.bytes ?_)]
    intro b hb
    cases b <;> first | rfl | simp [Foreign, Block.resource] at hb
  have hshow : m'.show = m.show := by
    funext q
    simp only [Memory.show, htext, hbytes]
  rw [Memory.shown, Memory.shown, hhandle, hshow]

lemma shown_drop {a : Nat} {b : Block} (hcell : m.heap.cells a = some b) (hb : Foreign b) :
    ({ m with heap := m.heap.drop a } : Memory).shown = m.shown := by
  refine shown_congr rfl fun a' => ?_
  by_cases ha : a' = a
  · subst ha
    refine Or.inr ⟨fun b' hb' => ?_, fun b' hb' => ?_⟩
    · rw [Heap.cells_drop_self] at hb'
      cases hb'
    · cases hcell.symm.trans hb'
      exact hb
  · exact Or.inl (Heap.cells_drop_of_ne ha)

lemma shown_setContext {a : Nat} {fd fd' : Option Nat} (hcell : m.heap.cells a = some (.context fd)) :
    ({ m with heap := m.heap.put a (.context fd') } : Memory).shown = m.shown := by
  refine shown_congr rfl fun a' => ?_
  by_cases ha : a' = a
  · subst ha
    refine Or.inr ⟨fun b' hb' => ?_, fun b' hb' => ?_⟩
    · cases (Heap.cells_put_self hcell).symm.trans hb'
      exact Or.inr (Or.inl rfl)
    · cases hcell.symm.trans hb'
      exact Or.inr (Or.inl rfl)
  · exact Or.inl (Heap.cells_put_of_ne ha)

lemma shown_eq {q : HandleBlock} (h : m.handle = some q) : m.shown = some (m.show q) := by
  rw [Memory.shown, h, Option.map_some]

/-- The strings of a handle are in blocks of their own. -/
lemma show_setHandle {q : HandleBlock} (h : m.handle = some q) (q' q'' : HandleBlock) :
    (m.setHandle q').show q'' = m.show q'' := by
  rcases handle_eq_some.1 h with ⟨a, hqueue, hcell⟩
  rw [setHandle_eq hqueue]
  have hblind : ∀ {β : Type} (f : Block → Option β), (∀ q, f (.handle q) = none) →
      ∀ a', ((m.heap.put a (.handle q')).cells a').bind f = (m.heap.cells a').bind f := by
    intro β f hf a'
    by_cases ha : a' = a
    · subst ha
      rw [Heap.cells_put_self hcell, hcell, Option.bind_some, Option.bind_some, hf, hf]
    · rw [Heap.cells_put_of_ne ha]
  have htext := funext (hblind Block.text fun _ => rfl)
  have hbytes := funext (hblind Block.bytes fun _ => rfl)
  simp only [Memory.show, Memory.text, Memory.bytes, htext, hbytes]

lemma shown_detach {q : HandleBlock} (h : m.handle = some q) :
    (m.setHandle { q with fields := q.fields.detach }).shown = m.shown.map detach := by
  rw [shown_eq h, shown_eq (handle_setHandle h), show_setHandle h, Option.map_some]
  rcases q with ⟨fields, filename, buffer⟩
  cases fields <;> rfl

/-! ## The rest of a clean-up -/

/-- What is left to do after `queue_close`, for the rest of the system. -/
def afterQueue (p : Proc) (e : Ending) (r : Option Handle × System) : Option Handle × System :=
  (r.1, { r.2 with files := removePid e.unlinkPid r.2.files p })

/-- The handle and the system that a clean-up has at its end, from what they are at a statement. -/
def remaining (os : Os) (p : Proc) (e : Ending) : Point → Memory → Option Handle × System
  | .freeBuffer, m | .clearBuffer, m | .closeCtxt, m | .markCtxt, m | .freeCtxt, m | .clearCtxt, m
  | .closeQueue, m | .removeName, m =>
      afterQueue p e (Handle.queueClose os p.uid e.closeFirst e.closeSecond m.sys m.shown)
  | .markQueue, m =>
      afterQueue p e
        (Handle.queueClose os p.uid e.closeFirst e.closeSecond m.sys (m.shown.map detach))
  | .freeName, m | .clearName, m | .freeArea, m | .clearArea, m | .freeHandle, m
  | .clearHandle, m => afterQueue p e (none, m.sys)
  | .unlinkPid, m => afterQueue p e (m.shown, m.sys)
  | .closeLog, m | .clearLog, m | .finished, m => (m.shown, m.sys)

lemma warn_shown (h : warn m = .ok m') : m'.shown = m.shown ∧ m'.sys = m.sys := by
  rcases warn_ok h with ⟨errFile, rfl, -⟩
  exact ⟨rfl, rfl⟩

/-- Freeing a block that is not of the queue. -/
lemma free_shown {r : Resource} {a : Nat} {heap : Heap Block} (hlive : Live m r)
    (hptr : m.ptr r = some a) (hr : r = .buffer ∨ r = .ctxt ∨ r = .log)
    (hfree : m.heap.free a = .ok heap) : ({ m with heap := heap } : Memory).shown = m.shown := by
  rcases Heap.free_ok hfree with ⟨-, rfl⟩
  rcases hlive a hptr with ⟨b, hcell, hkind⟩
  refine shown_drop hcell ?_
  rw [Foreign, hkind]
  exact hr

/-- `queue_close` when its first system call is refused. -/
lemma queueClose_refused {os : Os} {q : HandleBlock} {errno : Nat}
    (hname : q.filename ≠ none → m.text q.filename ≠ none)
    (hcall : firstCall p e m.sys q = some (.error errno)) :
    Handle.queueClose os p.uid e.closeFirst e.closeSecond m.sys (some (m.show q)) =
      (some (m.show q), m.sys) := by
  rcases q with ⟨fields, filename, buffer⟩
  cases fields with
  | posix mq attr =>
    cases mq with
    | none => simp [firstCall] at hcall
    | some d =>
      cases hfirst : e.closeFirst with
      | none => simp [firstCall, hfirst] at hcall
      | some errno' => simp [Handle.queueClose, Memory.show, Posix.queueClose]
  | systemv qid size =>
    cases qid with
    | none => simp [firstCall] at hcall
    | some i =>
      cases filename with
      | none => simp [firstCall] at hcall
      | some f =>
        rcases Option.ne_none_iff_exists'.1 (hname (by simp)) with ⟨text, htext⟩
        cases hrmid : m.sys.ipc.rmid i p.uid e.closeFirst with
        | ok ipc => simp [firstCall, hrmid] at hcall
        | error errno' =>
          simp [Handle.queueClose, Memory.show, SystemV.queueClose, htext, hrmid]

/-- What the POSIX `queue_close` has released before does not matter for the rest. -/
lemma closeName_calls (os : Os) (uid : Nat) (fails : Option Nat) (k : MqKernel)
    (q : Posix.PosixQueue) (calls : List Posix.Release) :
    (Posix.closeName os uid fails k q calls).queue = (Posix.closeName os uid fails k q []).queue ∧
      (Posix.closeName os uid fails k q calls).kernel =
        (Posix.closeName os uid fails k q []).kernel := by
  unfold Posix.closeName
  cases q.filename with
  | none => exact ⟨rfl, rfl⟩
  | some name =>
    dsimp only
    cases k.mqUnlink name uid fails with
    | error errno => exact ⟨rfl, rfl⟩
    | ok k' => exact ⟨rfl, rfl⟩

lemma closeFile_calls (os : Os) (uid : Nat) (fails : Option Nat) (k : SystemV.Kernel)
    (q : SystemV.SystemvQueue) (filename : Bytes) (calls : List SystemV.Release) :
    (SystemV.closeFile os uid fails k q filename calls).queue =
        (SystemV.closeFile os uid fails k q filename []).queue ∧
      (SystemV.closeFile os uid fails k q filename calls).kernel =
        (SystemV.closeFile os uid fails k q filename []).kernel := by
  unfold SystemV.closeFile
  cases k.files.unlink filename uid fails with
  | error errno => exact ⟨rfl, rfl⟩
  | ok files =>
    simp only [SystemV.closeBuffer]
    cases q.buffer with
    | none => exact ⟨rfl, rfl⟩
    | some area => exact ⟨rfl, rfl⟩

/-- `queue_close` when its first system call succeeds. -/
lemma queueClose_called {os : Os} {q : HandleBlock} {sys : System}
    (hname : q.filename ≠ none → m.text q.filename ≠ none)
    (hcall : firstCall p e m.sys q = some (.ok sys)) :
    Handle.queueClose os p.uid e.closeFirst e.closeSecond m.sys (some (m.show q)) =
      Handle.queueClose os p.uid e.closeFirst e.closeSecond sys (some (detach (m.show q))) := by
  rcases q with ⟨fields, filename, buffer⟩
  cases fields with
  | posix mq attr =>
    cases mq with
    | none => simp [firstCall] at hcall
    | some d =>
      cases hfirst : e.closeFirst with
      | some errno => simp [firstCall, hfirst] at hcall
      | none =>
        have hsys : m.sys = sys := by simpa [firstCall, hfirst] using hcall
        subst hsys
        simp [Handle.queueClose, Memory.show, Posix.queueClose, detach, closeName_calls]
  | systemv qid size =>
    cases qid with
    | none => simp [firstCall] at hcall
    | some i =>
      cases filename with
      | none => simp [firstCall] at hcall
      | some f =>
        rcases Option.ne_none_iff_exists'.1 (hname (by simp)) with ⟨text, htext⟩
        cases hrmid : m.sys.ipc.rmid i p.uid e.closeFirst with
        | error errno => simp [firstCall, hrmid] at hcall
        | ok ipc =>
          have hsys : { m.sys with ipc := ipc } = sys := by simpa [firstCall, hrmid] using hcall
          subst hsys
          simp [Handle.queueClose, Memory.show, SystemV.queueClose, htext, hrmid, detach,
            closeFile_calls]

/-- `queue_close` on a handle that is not on a queue and has no name. -/
lemma queueClose_nameless {os : Os} {q : HandleBlock} (hdet : q.Detached)
    (hname : q.filename = none) :
    Handle.queueClose os p.uid e.closeFirst e.closeSecond m.sys (some (m.show q)) =
      (none, m.sys) := by
  rcases q with ⟨fields, filename, buffer⟩
  dsimp only at hname
  subst hname
  cases fields with
  | posix mq attr =>
    have hmq : mq = none := hdet
    subst hmq
    rfl
  | systemv qid size =>
    cases hbuf : m.bytes buffer <;>
      simp [Handle.queueClose, Memory.show, Memory.text, SystemV.queueClose, SystemV.closeBuffer, hbuf]

lemma text_eq {f : Nat} {text : Bytes} (h : m.heap.cells f = some (.name text)) :
    m.text (some f) = some text := by
  simp [Memory.text, h, Block.text]

/-- `queue_close` when its second system call is refused. -/
lemma queueClose_kept {os : Os} {q : HandleBlock} {f errno : Nat} {text : Bytes}
    (hdet : q.Detached) (hname : q.filename = some f)
    (htext : m.heap.cells f = some (.name text))
    (hcall : secondCall p e m.sys q.fields text = .error errno) :
    Handle.queueClose os p.uid e.closeFirst e.closeSecond m.sys (some (m.show q)) =
      (some (m.show q), m.sys) := by
  rcases q with ⟨fields, filename, buffer⟩
  dsimp only at hname
  subst hname
  cases fields with
  | posix mq attr =>
    have hmq : mq = none := hdet
    subst hmq
    cases hunlink : m.sys.mqs.mqUnlink text p.uid e.closeSecond with
    | ok mqs => simp [secondCall, hunlink, Except.map] at hcall
    | error errno' =>
      simp [Handle.queueClose, Memory.show, Posix.queueClose, Posix.closeName, text_eq htext,
        hunlink]
  | systemv qid size =>
    have hqid : qid = none := by simpa [HandleBlock.Detached] using hdet
    subst hqid
    cases hunlink : m.sys.files.unlink text p.uid e.closeSecond with
    | ok files => simp [secondCall, hunlink, Except.map] at hcall
    | error errno' =>
      simp [Handle.queueClose, Memory.show, SystemV.queueClose, SystemV.closeFile, text_eq htext,
        hunlink]

/-- `queue_close` when its second system call succeeds. -/
lemma queueClose_removed {os : Os} {q : HandleBlock} {f : Nat} {text : Bytes} {sys : System}
    (hdet : q.Detached) (hname : q.filename = some f)
    (htext : m.heap.cells f = some (.name text))
    (hcall : secondCall p e m.sys q.fields text = .ok sys) :
    Handle.queueClose os p.uid e.closeFirst e.closeSecond m.sys (some (m.show q)) =
      (none, sys) := by
  rcases q with ⟨fields, filename, buffer⟩
  dsimp only at hname
  subst hname
  cases fields with
  | posix mq attr =>
    have hmq : mq = none := hdet
    subst hmq
    cases hunlink : m.sys.mqs.mqUnlink text p.uid e.closeSecond with
    | error errno => simp [secondCall, hunlink, Except.map] at hcall
    | ok mqs =>
      have hsys : { m.sys with mqs := mqs } = sys := by
        simpa [secondCall, hunlink, Except.map] using hcall
      simp [Handle.queueClose, Memory.show, Posix.queueClose, Posix.closeName, text_eq htext,
        hunlink, hsys]
  | systemv qid size =>
    have hqid : qid = none := by simpa [HandleBlock.Detached] using hdet
    subst hqid
    cases hunlink : m.sys.files.unlink text p.uid e.closeSecond with
    | error errno => simp [secondCall, hunlink, Except.map] at hcall
    | ok files =>
      have hsys : { m.sys with files := files } = sys := by
        simpa [secondCall, hunlink, Except.map] using hcall
      cases hbuf : m.bytes buffer <;>
        simp [Handle.queueClose, Memory.show, SystemV.queueClose, SystemV.closeFile,
          SystemV.closeBuffer, text_eq htext, hunlink, hbuf, ← hsys]

/-- The device is closed, with a warning or without. -/
lemma remaining_closeCtxt (os : Os) (hstep : step p e .closeCtxt m = .ok (pt', m')) :
    remaining os p e pt' m' = remaining os p e .closeCtxt m := by
  simp only [step] at hstep
  split at hstep
  · cases hstep
    rfl
  · split at hstep
    · rcases bind_eq_ok.1 hstep with ⟨b, -, hb⟩
      split at hb
      · cases hb
        rfl
      · split at hb
        · cases hb
          rfl
        · rcases bind_eq_ok.1 hb with ⟨m₁, hwarn, hm⟩
          cases hm
          rcases warn_shown hwarn with ⟨hshown, hsys⟩
          simp only [remaining, hshown, hsys]
      · cases hb
    · cases hstep
      rfl

lemma remaining_markCtxt (os : Os) (hstep : step p e .markCtxt m = .ok (pt', m')) :
    remaining os p e pt' m' = remaining os p e .markCtxt m := by
  simp only [step] at hstep
  split at hstep
  · cases hstep
  · rcases bind_eq_ok.1 hstep with ⟨b, hload, hb⟩
    split at hb
    · rcases bind_eq_ok.1 hb with ⟨heap, hstore, hm⟩
      cases Heap.store_ok hstore
      cases hm
      simp only [remaining, shown_setContext (Heap.load_ok hload)]
    · cases hb

/-- The first system call of `queue_close`. -/
lemma remaining_closeQueue (os : Os) (h : Sound .closeQueue m)
    (hstep : step p e .closeQueue m = .ok (pt', m')) :
    remaining os p e pt' m' = remaining os p e .closeQueue m := by
  simp only [step] at hstep
  split at hstep
  · rename_i hqueue
    cases hstep
    simp [remaining, Memory.shown, Memory.handle, hqueue, Handle.queueClose]
  · rcases bind_loadHandle hstep with ⟨a, q, -, hq, hb⟩
    have hname : q.filename ≠ none → m.text q.filename ≠ none := by
      intro hne
      rcases Option.ne_none_iff_exists'.1 hne with ⟨f, hf⟩
      rcases (h.live .name (by decide)).name hq hf with ⟨text, htext⟩
      simp [hf, text_eq htext]
    dsimp only at hb
    split at hb
    · cases hb
      rfl
    · cases hb
      simp only [remaining, shown_eq hq, queueClose_refused hname ‹_›]
    · rename_i sys hcall
      cases hb
      have hshown : ({ m with sys := sys } : Memory).shown = some (m.show q) := shown_eq hq
      simp only [remaining, shown_eq hq, hshown, Option.map_some, queueClose_called hname hcall]

lemma remaining_markQueue (os : Os) (hstep : step p e .markQueue m = .ok (pt', m')) :
    remaining os p e pt' m' = remaining os p e .markQueue m := by
  simp only [step] at hstep
  rcases bind_loadHandle hstep with ⟨a, q, hqueue, hq, hb⟩
  rcases bind_eq_ok.1 hb with ⟨heap, hstore, hm⟩
  cases Heap.store_ok hstore
  cases hm
  rw [← setHandle_eq hqueue]
  simp only [remaining, shown_detach hq]
  rfl

/-- The second system call of `queue_close`. -/
lemma remaining_removeName (os : Os) (h : Sound .removeName m)
    (hstep : step p e .removeName m = .ok (pt', m')) :
    remaining os p e pt' m' = remaining os p e .removeName m := by
  simp only [step] at hstep
  rcases bind_loadHandle hstep with ⟨a, q, -, hq, hb⟩
  have hdet : q.Detached := by
    rcases h.closing with ⟨q', hq', hdet⟩
    cases hq.symm.trans hq'
    exact hdet
  dsimp only at hb
  split at hb
  · cases hb
    simp only [remaining, shown_eq hq, queueClose_nameless hdet ‹_›]
  · rename_i f hname
    rcases (h.live .name (by decide)).name hq hname with ⟨text, htext⟩
    simp only [Heap.load_of_live htext, ok_bind] at hb
    split at hb
    · cases hb
      simp only [remaining, shown_eq hq, queueClose_kept hdet hname htext ‹_›]
    · cases hb
      simp only [remaining, shown_eq hq, queueClose_removed hdet hname htext ‹_›]

lemma remaining_unlinkPid (os : Os) (hstep : step p e .unlinkPid m = .ok (pt', m')) :
    remaining os p e pt' m' = remaining os p e .unlinkPid m := by
  simp only [step] at hstep
  split at hstep
  · rename_i hpid
    cases hstep
    simp [remaining, afterQueue, removePid, hpid]
  · rename_i path hpid
    split at hstep
    · rename_i files hunlink
      cases hstep
      simp only [remaining, afterQueue, removePid, hpid, hunlink]
      rfl
    · rename_i errno hunlink
      rcases bind_eq_ok.1 hstep with ⟨m₁, hwarn, hm⟩
      cases hm
      rcases warn_shown hwarn with ⟨hshown, hsys⟩
      simp [remaining, afterQueue, removePid, hpid, hunlink, hshown, hsys]

lemma remaining_closeLog (os : Os) (h : Sound .closeLog m)
    (hstep : step p e .closeLog m = .ok (pt', m')) :
    remaining os p e pt' m' = remaining os p e .closeLog m := by
  simp only [step] at hstep
  split at hstep
  · cases hstep
    rfl
  · cases hstep
    rfl
  · rename_i a herr
    rcases bind_eq_ok.1 hstep with ⟨b, -, hb⟩
    split at hb
    · split at hb
      · rcases bind_eq_ok.1 hb with ⟨heap, hfree, hm⟩
        cases hm
        have hptr : m.ptr .log = some a := by simp [Memory.ptr, herr]
        have hshown := free_shown (h.live .log (by decide)) hptr (Or.inr (Or.inr rfl)) hfree
        simp only [remaining, hshown]
      · cases hb
        rfl
    · cases hb

/-- What is left to do is the same before and after a statement. -/
theorem step_remaining (os : Os) (h : Sound pt m) (hstep : step p e pt m = .ok (pt', m')) :
    remaining os p e pt' m' = remaining os p e pt m := by
  cases pt with
  | freeBuffer =>
    simp only [step] at hstep
    split at hstep
    · cases hstep
      rfl
    · rcases bind_eq_ok.1 hstep with ⟨heap, hfree, hm⟩
      cases hm
      have hshown := free_shown (h.live .buffer (by decide)) ‹_› (Or.inl rfl) hfree
      simp only [remaining, hshown]
  | clearBuffer =>
    cases hstep
    rfl
  | closeCtxt => exact remaining_closeCtxt os hstep
  | markCtxt => exact remaining_markCtxt os hstep
  | freeCtxt =>
    simp only [step] at hstep
    split at hstep
    · cases hstep
      rfl
    · rcases bind_eq_ok.1 hstep with ⟨heap, hfree, hm⟩
      cases hm
      have hshown := free_shown (h.live .ctxt (by decide)) ‹_› (Or.inr (Or.inl rfl)) hfree
      simp only [remaining, hshown]
  | clearCtxt =>
    cases hstep
    rfl
  | closeQueue => exact remaining_closeQueue os h hstep
  | markQueue => exact remaining_markQueue os hstep
  | removeName => exact remaining_removeName os h hstep
  | freeName =>
    simp only [step] at hstep
    rcases bind_loadHandle hstep with ⟨a, q, -, -, hb⟩
    dsimp only at hb
    split at hb
    · cases hb
      rfl
    · rcases bind_eq_ok.1 hb with ⟨heap, -, hm⟩
      cases hm
      rfl
  | clearName =>
    simp only [step] at hstep
    rcases bind_loadHandle hstep with ⟨a, q, -, -, hb⟩
    rcases bind_eq_ok.1 hb with ⟨heap, -, hm⟩
    cases hm
    rfl
  | freeArea =>
    simp only [step] at hstep
    rcases bind_loadHandle hstep with ⟨a, q, -, -, hb⟩
    dsimp only at hb
    split at hb
    · cases hb
      rfl
    · rcases bind_eq_ok.1 hb with ⟨heap, -, hm⟩
      cases hm
      rfl
  | clearArea =>
    simp only [step] at hstep
    rcases bind_loadHandle hstep with ⟨a, q, -, -, hb⟩
    rcases bind_eq_ok.1 hb with ⟨heap, -, hm⟩
    cases hm
    rfl
  | freeHandle =>
    simp only [step] at hstep
    split at hstep
    · cases hstep
      rfl
    · rcases bind_eq_ok.1 hstep with ⟨heap, -, hm⟩
      cases hm
      rfl
  | clearHandle =>
    cases hstep
    rfl
  | unlinkPid => exact remaining_unlinkPid os hstep
  | closeLog => exact remaining_closeLog os h hstep
  | clearLog =>
    cases hstep
    rfl
  | finished =>
    cases hstep
    rfl

/-! ## Leaks -/

/-- The address is that of a static variable, or of a part of the handle. -/
def Reached (m : Memory) (a : Nat) : Prop := ∃ r, m.ptr r = some a

/-- No block that was reached in `m` is lost in `m'`: it is freed, or it is still reached. -/
def NotLost (m m' : Memory) : Prop := ∀ a, Reached m a → m'.heap.cells a = none ∨ Reached m' a

/-- What was freed stays so: a clean-up allocates nothing. -/
lemma Effect.freed (heffect : Effect m pt pt' m') {a : Nat} (ha : m.heap.cells a = none) :
    m'.heap.cells a = none := by
  have hkinds : (m'.heap.cells a).map Block.resource = (m.heap.cells a).map Block.resource →
      m'.heap.cells a = none := by
    intro hsame
    rwa [ha, Option.map_none, Option.map_eq_none_iff] at hsame
  cases heffect with
  | pass hpass hagrees => exact hkinds (hagrees.cells a)
  | detach hq => exact hkinds ((Agrees.detach hq).cells a)
  | @free r a' b hptr hcell =>
    by_cases hne : a = a'
    · rw [hne]
      exact Heap.cells_drop_self m.heap a'
    · rwa [Heap.cells_drop_of_ne hne]
  | @clear r hhandle => exact hkinds (resource_nullify r a)

/-- One statement loses no block: it makes a pointer null only after it has freed the block. -/
lemma Sound.notLost_step (hsound : Sound pt m) (heffect : Effect m pt pt' m') : NotLost m m' := by
  rintro a ⟨r', hr'⟩
  cases heffect with
  | pass hpass hagrees => exact Or.inr ⟨r', (hagrees.ptr r').trans hr'⟩
  | detach hq => exact Or.inr ⟨r', ((Agrees.detach hq).ptr r').trans hr'⟩
  | @free r a₀ b hptr hcell =>
    by_cases hr : r = .handle
    · -- the parts of the handle went before it
      subst hr
      rcases hsound.closing with ⟨hname, harea⟩
      refine Or.inr ⟨r', ?_⟩
      cases r' with
      | name => simp [hname] at hr'
      | area => simp [harea] at hr'
      | buffer | ctxt | handle | log => exact hr'
    · exact Or.inr ⟨r', by rw [ptr_drop a₀ (hsound.typed.queue_ne hptr hcell hr), hr']⟩
  | @clear r hhandle =>
    rcases hsound.dangling r rfl with ⟨a₀, ha₀, hdead⟩
    by_cases hne : r' = r
    · -- the pointer that goes is that of a block that is gone
      subst hne
      cases hr'.symm.trans ha₀
      exact Or.inl ((Effect.clear hhandle).freed hdead)
    · refine Or.inr ⟨r', (ptr_nullify_of_ne hne ?_).trans hr'⟩
      -- the handle is freed already, and nothing is read through it
      rintro rfl
      have hnone : m.handle = none := by
        have hqueue : m.queue = some a₀ := ha₀
        simp [Memory.handle, hqueue, hdead]
      constructor
      · rintro rfl
        simp [Memory.ptr, hnone] at hr'
      · rintro rfl
        simp [Memory.ptr, hnone] at hr'

lemma Sound.notLost {m₀ : Memory} (hsound : Sound pt m) (h : NotLost m₀ m)
    (heffect : Effect m pt pt' m') : NotLost m₀ m' := by
  intro a ha
  rcases h a ha with hfreed | hreached
  · exact Or.inl (heffect.freed hfreed)
  · exact hsound.notLost_step heffect a hreached

/-- What a clean-up has given up so far. -/
structure Gone (pt : Point) (m : Memory) : Prop where
  buffer : rank pt ≤ rank .closeCtxt → m.ptr .buffer = none
  ctxt : rank pt ≤ rank .closeQueue → m.ptr .ctxt = none

lemma Gone.effect (h : Gone pt m) (heffect : Effect m pt pt' m') : Gone pt' m' := by
  cases heffect with
  | pass hpass hagrees =>
    refine ⟨fun hrank => ?_, fun hrank => ?_⟩
    · rw [hagrees.ptr]
      cases hpass with
      | noBuffer hnone => exact hnone
      | noCtxt _ | ctxt _ | closeDevice _ | markCtxt _ | nullCtxt _ | noQueue _ | refused _ _
      | called _ | uncalled _ _ | nameless _ _ | kept _ _ | removed _ _ | nullName _ | noArea _ _
      | nullHandle _ | unlinkPid | noLog _ | ended => exact h.buffer (by decide)
    · rw [hagrees.ptr]
      cases hpass with
      | noCtxt hnone => exact hnone
      | noBuffer _ | ctxt _ | closeDevice _ | markCtxt _ | nullCtxt _ =>
        exact absurd hrank (by decide)
      | noQueue _ | refused _ _ | called _ | uncalled _ _ | nameless _ _ | kept _ _ | removed _ _
      | nullName _ | noArea _ _ | nullHandle _ | unlinkPid | noLog _ | ended =>
        exact h.ctxt (by decide)
  | detach hq =>
    have hagrees := Agrees.detach hq
    exact ⟨fun _ => (hagrees.ptr _).trans (h.buffer (by decide)),
      fun _ => (hagrees.ptr _).trans (h.ctxt (by decide))⟩
  | @free r a b hptr hcell =>
    refine ⟨fun hrank => ?_, fun hrank => ?_⟩
    · cases r <;> first | exact absurd hrank (by decide) | exact h.buffer (by decide)
    · cases r <;> first | exact absurd hrank (by decide) | exact h.ctxt (by decide)
  | @clear r hhandle =>
    refine ⟨fun hrank => ?_, fun hrank => ?_⟩
    · cases r with
      | buffer => rfl
      | ctxt | handle | log => exact h.buffer (by decide)
      | name | area =>
        rw [ptr_nullify_of_ne (by decide) (by decide)]
        exact h.buffer (by decide)
    · cases r with
      | ctxt => rfl
      | buffer => exact absurd hrank (by decide)
      | handle | log => exact h.ctxt (by decide)
      | name | area =>
        rw [ptr_nullify_of_ne (by decide) (by decide)]
        exact h.ctxt (by decide)

end

/-- The outcomes of the calls of `cleanup`, from those of a step of `main`. -/
def Ending.of (env : Env) (closeDevice : Option Nat) : Ending :=
  ⟨closeDevice, env.closeFirst, env.closeSecond, env.unlinkPid⟩

/-- A clean-up that nothing interrupts, from valid pointers, does to the queue, the files and the handle
what `Daemon.cleanup` does. -/
lemma cleanup_refines (cfg : Config) (env : Env) (closeDevice : Option Nat) (p : Proc) {m : Memory}
    (hm : ∀ r, Live m r) (hshown : m.shown = p.queue) :
    ∃ m', advance (step p) (Ending.of env closeDevice) (rank .freeBuffer) (.freeBuffer, m) =
        .ok (.finished, m') ∧
      m'.sys = (cleanup cfg env m.sys p).1 ∧ m'.shown = (cleanup cfg env m.sys p).2.queue ∧
      m'.buffer = none ∧ m'.ctxt = none ∧ NotLost m m' := by
  have hstart : Sound .freeBuffer m := sound_start hm
  -- what is left to do is kept by every statement, together with what makes the statements safe
  let At (pt : Point) (m₁ : Memory) : Prop :=
    Sound pt m₁ ∧ NotLost m m₁ ∧ Gone pt m₁ ∧
      remaining cfg.os p (Ending.of env closeDevice) pt m₁ =
        remaining cfg.os p (Ending.of env closeDevice) .freeBuffer m
  have hstep : ∀ pt m₁, At pt m₁ → ∃ pt' m', step p (Ending.of env closeDevice) pt m₁ =
      .ok (pt', m') ∧ At pt' m' := by
    rintro pt m₁ ⟨hsound, hkept, hgone, hrem⟩
    rcases hsound.progress p (Ending.of env closeDevice) with ⟨⟨pt', m'⟩, hstep⟩
    have heffect := step_effect hstep
    exact ⟨pt', m', hstep, hsound.effect heffect, hsound.notLost hkept heffect,
      hgone.effect heffect, (step_remaining cfg.os hsound hstep).trans hrem⟩
  have hgone : Gone .freeBuffer m := ⟨fun h => absurd h (by decide), fun h => absurd h (by decide)⟩
  have hstays : NotLost m m := fun _ ha => Or.inr ha
  rcases advance_total hstep ⟨hstart, hstays, hgone, rfl⟩ (rank .freeBuffer) with
    ⟨pt', m', hrun, hsound, hkept', hgone', hrem⟩
  have hzero := advance_rank (reentrant p).rank_le hrun
  have hpt : pt' = .finished := by
    cases pt' <;> first | rfl | simp [rank] at hzero
  subst hpt
  have heq : remaining cfg.os p (Ending.of env closeDevice) .freeBuffer m =
      ((cleanup cfg env m.sys p).2.queue, (cleanup cfg env m.sys p).1) := by
    simp only [remaining, hshown]
    rfl
  rw [heq] at hrem
  rcases Prod.mk.injEq _ _ _ _ ▸ hrem with ⟨hshown', hsys'⟩
  exact ⟨m', hrun, hsys', hshown', hgone'.buffer (by decide), hgone'.ctxt (by decide), hkept'⟩

end Teardown
end Daemon
end Banip
