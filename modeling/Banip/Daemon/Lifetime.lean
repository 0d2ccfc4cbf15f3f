import Banip.Daemon.Release

/-!
# Lifetime — what `main` puts into the static variables

`main` allocates the queue handle, what hangs on it, the buffer, the context of the engine and the
stream of the log file, one after the other, and `cleanup` may find any part of this.  The module
follows the pointers through every run of `main` and says which endings are safe.

The contexts of the engines differ.  `pf_open` returns a block it has allocated, and an engine
without `open` leaves the pointer null.  `ipset_open` returns `(void *) !ok`, which is the address 1
since `ok` is never set, and `cleanup` passes that address to `free`.
-/

namespace Banip
namespace Daemon
namespace Teardown

open Lib

/-! ## Allocations -/

/-- What the environment decides for the memory: the descriptor of the log file, if it can be opened,
and the descriptor of the engine's device. -/
structure Grants where
  log : Option Nat
  device : Nat

/-- `err_file = fopen(logfilename, "a")`; when it fails, `warnc` turns the null pointer into
`stderr`. -/
def openLog (fd : Option Nat) (m : Memory) : Memory :=
  match fd with
  | none => { m with errFile := some .stderr }
  | some fd =>
      { m with heap := (m.heap.alloc (.stream fd)).2, errFile := some (.file (m.heap.alloc (.stream fd)).1) }

/-- `SIGUSR1`: `freopen` of the log file, which closes the stream when it fails. -/
def reopenLog (fd : Option Nat) (m : Memory) : Except Fault Memory :=
  match m.errFile with
  | none | some .stderr => .ok m
  | some (.file a) => do
    match ← m.heap.load a with
    | .stream old =>
      if 2 < old then
        match fd with
        | some fd => do
            let heap ← m.heap.store a (.stream fd)
            return { m with heap := heap }
        | none => do
            let heap ← m.heap.free a
            return { m with heap := heap, errFile := some .stderr }
      else return m
    | _ => .error .outOfBounds

/-- `buffer = calloc(..)`. -/
def allocBuffer (data : Bytes) (m : Memory) : Memory :=
  { m with heap := (m.heap.alloc (.message data)).2, buffer := some (m.heap.alloc (.message data)).1 }

/-- `ctxt = engine->open(..)`, if it succeeds. -/
def openCtxt (kind : EngineKind) (fd : Nat) (m : Memory) : Memory :=
  match kind with
  | .pf =>
      { m with
        heap := (m.heap.alloc (.context (some fd))).2
        ctxt := some (m.heap.alloc (.context (some fd))).1 }
  -- `return (void *) !ok;`
  | .ipset => { m with ctxt := some 1 }
  -- there is no `open`
  | .dummy => m

/-- Give a pointer of the handle what it is to lead to: an allocation if it was null. -/
def point (h : Heap Block) (old : Option Nat) : Option Block → Option Nat × Heap Block
  | none => (none, h)
  | some b =>
    match old with
    | none => (some (h.alloc b).1, (h.alloc b).2)
    | some a => (some a, h.put a b)

/-- The fields of a handle that are not pointers. -/
def Handle.fields : Handle → Fields
  | .posix q => .posix q.mq q.attr
  | .systemv q => .systemv q.qid q.bufferSize

/-- `q->buffer`. -/
def Handle.area : Handle → Option Bytes
  | .posix _ => none
  | .systemv q => q.buffer

/-- Write to memory what a call of `queue.h` has made of the handle. -/
def Memory.sync (m : Memory) (q : Handle) : Memory :=
  match m.handle with
  | none => m
  | some blk =>
      let (f, h₁) := point m.heap blk.filename (q.filename.map .name)
      let (g, h₂) := point h₁ blk.buffer ((Handle.area q).map .area)
      ({ m with heap := h₂ } : Memory).setHandle ⟨Handle.fields q, f, g⟩

/-! ## Runs of `main` -/

/-- A process and its memory. -/
structure Image where
  proc : Proc
  mem : Memory

/-- What a step of `main` from `p` to `p'` does to the static variables other than `queue`. -/
def acquire (x : Grants) (p p' : Proc) (m : Memory) : Memory :=
  match p.phase with
  | .options (.l _ :: _) => openLog x.log m
  | .allocate =>
    match p'.buffer with
    | none => m
    | some data =>
      let m := allocBuffer data m
      if p'.phase = .dropPrivileges then openCtxt p'.opts.engine x.device m else m
  | _ => m

/-- What happens to a process until it ends: a step of `main`, a `SIGUSR1`, messages. -/
inductive Stir where
  | run (env : Env) (x : Grants)
  | usr1 (fd : Option Nat)
  | mqTraffic (i : Nat) (msgs : List Bytes)
  | ipcTraffic (i : Nat) (msgs : List Bytes)

/-- Memory after `queue_init`. -/
def Memory.fresh (sys : System) : Option Handle → Memory
  | none => ⟨Heap.empty, none, none, none, none, sys⟩
  | some q =>
      let block := Block.handle ⟨Handle.fields q, none, none⟩
      ⟨(Heap.empty.alloc block).2, none, none, some (Heap.empty.alloc block).1, none, sys⟩

/-- The process when `main` begins. -/
def Image.start (cfg : Config) (sys : System) (uid pid umask argc : Nat) (argv : List Opt)
    (malloc : Bool) : Image :=
  let p := Daemon.start cfg uid pid umask argc argv malloc
  ⟨p, Memory.fresh sys p.queue⟩

/-- One of these.  A process that is exiting does not run `main` any more. -/
def Image.next (cfg : Config) (s : Image) : Stir → Except Fault Image
  | .run env x =>
    match s.proc.phase with
    | .exiting _ | .done => .ok s
    | _ => do
        let (sys, p) ← Daemon.run cfg env s.mem.sys s.proc
        let m := { s.mem with sys := sys }
        let m := match p.queue with
          | none => m
          | some q => m.sync q
        return ⟨p, acquire x s.proc p m⟩
  | .usr1 fd => do
      let m ← reopenLog fd s.mem
      return { s with mem := m }
  | .mqTraffic i msgs =>
      .ok { s with mem := { s.mem with sys := { s.mem.sys with mqs := s.mem.sys.mqs.setMsgs i msgs } } }
  | .ipcTraffic i msgs =>
      .ok { s with mem := { s.mem with sys := { s.mem.sys with ipc := s.mem.sys.ipc.setMsgs i msgs } } }

/-! ## What an allocation leaves alone -/

/-- Every live block is still live, and of its kind. -/
def Keeps (h h' : Heap Block) : Prop :=
  ∀ a b, h.cells a = some b → ∃ b', h'.cells a = some b' ∧ b'.resource = b.resource

section

variable {cfg : Config} {p p' : Proc} {m m' : Memory} {h h' : Heap Block}

lemma Keeps.refl (h : Heap Block) : Keeps h h := fun _ b hb => ⟨b, hb, rfl⟩

lemma Keeps.trans {h'' : Heap Block} (h₁ : Keeps h h') (h₂ : Keeps h' h'') : Keeps h h'' := by
  intro a b hb
  rcases h₁ a b hb with ⟨b', hb', hkind'⟩
  rcases h₂ a b' hb' with ⟨b'', hb'', hkind''⟩
  exact ⟨b'', hb'', hkind''.trans hkind'⟩

lemma keeps_alloc (h : Heap Block) (b : Block) : Keeps h (h.alloc b).2 :=
  fun _ b' hb' => ⟨b', Heap.cells_alloc_of_live hb', rfl⟩

lemma keeps_put {a : Nat} {b b' : Block} (hcell : h.cells a = some b)
    (hkind : b'.resource = b.resource) : Keeps h (h.put a b') := by
  intro a' b₁ hb₁
  by_cases ha : a' = a
  · subst ha
    cases hcell.symm.trans hb₁
    exact ⟨b', Heap.cells_put_self hcell, hkind⟩
  · exact ⟨b₁, (Heap.cells_put_of_ne ha).trans hb₁, rfl⟩

lemma Live.keeps {r : Resource} (hlive : Live m r)
    (hptr : ∀ a, m'.ptr r = some a → m.ptr r = some a) (hkeeps : Keeps m.heap m'.heap) :
    Live m' r := by
  intro a ha
  rcases hlive a (hptr a ha) with ⟨b, hb, hkind⟩
  rcases hkeeps a b hb with ⟨b', hb', hkind'⟩
  exact ⟨b', hb', hkind'.trans hkind⟩

/-- What `point` does for a pointer that is null or leads to a live block. -/
structure Pointed (h : Heap Block) (old : Option Nat) (new : Option Block)
    (res : Option Nat × Heap Block) : Prop where
  keeps : Keeps h res.2
  some_eq : ∀ b, new = some b → ∃ a, res.1 = some a ∧ res.2.cells a = some b
  none_eq : new = none → res.1 = none
  frame : ∀ a b, h.cells a = some b → old ≠ some a → res.2.cells a = some b

lemma point_pointed {old : Option Nat} {r : Resource}
    (hold : ∀ a, old = some a → ∃ b, h.cells a = some b ∧ b.resource = r) (new : Option Block)
    (hnew : ∀ b, new = some b → b.resource = r) : Pointed h old new (point h old new) := by
  cases new with
  | none => exact ⟨Keeps.refl h, fun b hb => (by cases hb), fun _ => rfl, fun a b hb _ => hb⟩
  | some b =>
    have hkind := hnew b rfl
    cases old with
    | none =>
      refine ⟨keeps_alloc h b, ?_, fun hb => (by cases hb), fun a b' hb' _ => ?_⟩
      · rintro b' ⟨⟩
        exact ⟨_, rfl, Heap.cells_alloc_self h b⟩
      · exact Heap.cells_alloc_of_live hb'
    | some a =>
      rcases hold a rfl with ⟨b₀, hb₀, hkind₀⟩
      refine ⟨keeps_put hb₀ (hkind.trans hkind₀.symm), ?_, fun hb => (by cases hb), ?_⟩
      · rintro b' ⟨⟩
        exact ⟨a, rfl, Heap.cells_put_self hb₀⟩
      · intro a' b' hb' hne
        exact (Heap.cells_put_of_ne fun heq => hne (by rw [heq])).trans hb'

/-- What `sync` does: memory shows the handle, and the other pointers are as they were. -/
structure Synced (m : Memory) (q : Handle) (m' : Memory) : Prop where
  shown : m'.shown = some q
  live : ∀ r, Live m r → Live m' r
  ptr : ∀ r, r ≠ .name → r ≠ .area → m'.ptr r = m.ptr r
  sys : m'.sys = m.sys

/-- The last part of `sync`: the pointers are written to the handle. -/
lemma setHandle_synced {q : Handle} {blk : HandleBlock} {f g : Option Nat} {heap : Heap Block}
    (hq : ({ m with heap := heap } : Memory).handle = some blk) (hkeeps : Keeps m.heap heap)
    (hname : q.filename = none ∧ f = none ∨
      ∃ text x, q.filename = some text ∧ f = some x ∧ heap.cells x = some (.name text))
    (harea : Handle.area q = none ∧ g = none ∨
      ∃ data x, Handle.area q = some data ∧ g = some x ∧ heap.cells x = some (.area data)) :
    Synced m q (({ m with heap := heap } : Memory).setHandle ⟨Handle.fields q, f, g⟩) := by
  have hq' : (({ m with heap := heap } : Memory).setHandle ⟨Handle.fields q, f, g⟩).handle =
      some ⟨Handle.fields q, f, g⟩ := handle_setHandle hq
  have hkinds := resource_setHandle hq ⟨Handle.fields q, f, g⟩
  have hkeeps' : Keeps m.heap
      (({ m with heap := heap } : Memory).setHandle ⟨Handle.fields q, f, g⟩).heap := by
    intro a b hb
    rcases hkeeps a b hb with ⟨b', hb', hkind'⟩
    have hkind := hkinds a
    rw [show ({ m with heap := heap } : Memory).heap.cells a = some b' from hb', Option.map_some,
      hkind'] at hkind
    exact Option.map_eq_some_iff.1 hkind
  refine ⟨?_, fun r hr => ?_, fun r hrname hrarea => ?_, rfl⟩
  · rw [shown_eq hq', show_setHandle hq]
    have htext : ({ m with heap := heap } : Memory).text f = q.filename := by
      rcases hname with ⟨hnone, rfl⟩ | ⟨text, x, hsome, rfl, hx⟩
      · rw [hnone]
        rfl
      · rw [hsome, text_eq hx]
    have hbytes : ({ m with heap := heap } : Memory).bytes g = Handle.area q := by
      rcases harea with ⟨hnone, rfl⟩ | ⟨data, x, hsome, rfl, hx⟩
      · rw [hnone]
        rfl
      · simp [hsome, Memory.bytes, hx, Block.bytes]
    cases q with
    | posix q => simp only [Memory.show, Handle.fields, htext, Handle.filename]
    | systemv q => simp only [Memory.show, Handle.fields, htext, hbytes, Handle.filename, Handle.area]
  · cases r with
    | buffer | ctxt | handle | log => exact hr.keeps (fun a ha => ha) hkeeps'
    | name =>
      intro x hx
      have hfx : f = some x := by simpa [Memory.ptr, hq'] using hx
      rcases hname with ⟨-, hnone⟩ | ⟨text, x', -, hf, hcell⟩
      · simp [hnone] at hfx
      · cases hfx.symm.trans hf
        have hkind := hkinds x
        rw [hcell] at hkind
        exact Option.map_eq_some_iff.1 hkind
    | area =>
      intro x hx
      have hgx : g = some x := by simpa [Memory.ptr, hq'] using hx
      rcases harea with ⟨-, hnone⟩ | ⟨data, x', -, hg, hcell⟩
      · simp [hnone] at hgx
      · cases hgx.symm.trans hg
        have hkind := hkinds x
        rw [hcell] at hkind
        exact Option.map_eq_some_iff.1 hkind
  · cases r with
    | name => exact absurd rfl hrname
    | area => exact absurd rfl hrarea
    | buffer | ctxt | handle | log => rfl

lemma sync_synced {q : Handle} {blk : HandleBlock} (hq : m.handle = some blk)
    (hname : Live m .name) (harea : Live m .area) : Synced m q (m.sync q) := by
  rcases handle_eq_some.1 hq with ⟨a, hqueue, hcell⟩
  -- the name first
  have hold₁ : ∀ f, blk.filename = some f → ∃ b, m.heap.cells f = some b ∧ b.resource = .name :=
    fun f hf => hname f (by simp [Memory.ptr, hq, hf])
  have hp₁ := point_pointed hold₁ (q.filename.map .name) fun b hb => by
    rcases Option.map_eq_some_iff.1 hb with ⟨text, -, rfl⟩
    rfl
  have hsync : m.sync q = ({ m with heap := (point (point m.heap blk.filename
      (q.filename.map .name)).2 blk.buffer ((Handle.area q).map .area)).2 } : Memory).setHandle
      ⟨Handle.fields q, (point m.heap blk.filename (q.filename.map .name)).1,
        (point (point m.heap blk.filename (q.filename.map .name)).2 blk.buffer
          ((Handle.area q).map .area)).1⟩ := by
    simp only [Memory.sync, hq]
  rw [hsync]
  generalize point m.heap blk.filename (q.filename.map .name) = r₁ at hp₁ ⊢
  rcases r₁ with ⟨f, h₁⟩
  -- then the buffer
  have hold₂ : ∀ g, blk.buffer = some g → ∃ b, h₁.cells g = some b ∧ b.resource = .area := by
    intro g hg
    rcases harea g (by simp [Memory.ptr, hq, hg]) with ⟨b, hb, hkind⟩
    rcases hp₁.keeps g b hb with ⟨b', hb', hkind'⟩
    exact ⟨b', hb', hkind'.trans hkind⟩
  have hp₂ := point_pointed hold₂ ((Handle.area q).map .area) fun b hb => by
    rcases Option.map_eq_some_iff.1 hb with ⟨data, -, rfl⟩
    rfl
  generalize point h₁ blk.buffer ((Handle.area q).map .area) = r₂ at hp₂ ⊢
  rcases r₂ with ⟨g, h₂⟩
  have hcell₂ : h₂.cells a = some (.handle blk) := by
    refine hp₂.frame a _ (hp₁.frame a _ hcell fun hf => ?_) fun hg => ?_
    · rcases hold₁ a hf with ⟨b, hb, hkind⟩
      cases hcell.symm.trans hb
      cases hkind
    · rcases hold₂ a hg with ⟨b, hb, hkind⟩
      rcases hp₁.keeps a _ hcell with ⟨b', hb', hkind'⟩
      cases hb.symm.trans hb'
      cases hkind.symm.trans hkind'
  have hq₂ : ({ m with heap := h₂ } : Memory).handle = some blk := handle_of_cells hqueue hcell₂
  refine setHandle_synced hq₂ (hp₁.keeps.trans hp₂.keeps) ?_ ?_
  · cases htext : q.filename with
    | none => exact Or.inl ⟨rfl, hp₁.none_eq (by simp [htext])⟩
    | some text =>
      rcases hp₁.some_eq (.name text) (by simp [htext]) with ⟨x, hx, hcx⟩
      refine Or.inr ⟨text, x, rfl, hx, hp₂.frame x _ hcx fun hg => ?_⟩
      rcases hold₂ x hg with ⟨b, hb, hkind⟩
      cases hcx.symm.trans hb
      cases hkind
  · cases hdata : Handle.area q with
    | none => exact Or.inl ⟨rfl, hp₂.none_eq (by simp [hdata])⟩
    | some data =>
      rcases hp₂.some_eq (.area data) (by simp [hdata]) with ⟨x, hx, hcx⟩
      exact Or.inr ⟨data, x, rfl, hx, hcx⟩

/-! ## The memory of a run -/

/-- `engine->open` has not been called yet. -/
def Early : Phase → Prop
  | .options _ | .daemonize | .writePid | .setGroup | .openQueue | .allocate => True
  | .dropPrivileges | .receive _ | .exiting _ | .done => False

/-- `engine->open` has succeeded. -/
def Late : Phase → Prop
  | .dropPrivileges | .receive _ => True
  | .options _ | .daemonize | .writePid | .setGroup | .openQueue | .allocate | .exiting _
  | .done => False

/-! ## One step -/

lemma setAttribute_queue {env : Env} {attr : QueueAttr} {opt optarg : Bytes}
    (hrun : setAttribute cfg env p attr opt optarg = .ok p') (hq : p.queue ≠ none) :
    p'.queue ≠ none := by
  rcases bind_eq_ok.1 hrun with ⟨r, -, hr⟩
  cases hok : r.ok with
  | false =>
    simp only [hok] at hr
    cases hr
    exact hq
  | true =>
    simp only [hok] at hr
    cases hr
    simpa using hq

/-- No option loses the handle. -/
lemma option_queue {env : Env} {o : Opt} (hrun : option cfg env p o = .ok p') (hq : p.queue ≠ none) :
    p'.queue ≠ none := by
  cases o with
  | b optarg => exact setAttribute_queue hrun hq
  | s optarg => exact setAttribute_queue hrun hq
  | e optarg =>
    cases hengine : getEngineByName cfg optarg with
    | none =>
      simp only [option, hengine, Except.ok.injEq] at hrun
      subst hrun
      exact hq
    | some kind =>
      simp only [option, hengine, Except.ok.injEq] at hrun
      subst hrun
      exact hq
  | g group =>
    cases hgroup : env.getgrnam with
    | error errno =>
      simp only [option, hgroup, Except.ok.injEq] at hrun
      subst hrun
      exact hq
    | ok gid =>
      simp only [option, hgroup, Except.ok.injEq] at hrun
      subst hrun
      exact hq
  | d | l _ | p _ | q _ | t _ | v | unknown =>
    cases hrun
    exact hq

/-- Before `cleanup` nothing gives up the handle. -/
lemma run_queue {env : Env} {sys sys' : System} (hrun : run cfg env sys p = .ok (sys', p'))
    (hq : p.queue ≠ none) (hexit : ∀ how, p.phase ≠ .exiting how) : p'.queue ≠ none := by
  cases run_move hrun with
  | option hphase _ =>
    simp only [run, hphase] at hrun
    rcases bind_eq_ok.1 hrun with ⟨p₁, hopt, hr⟩
    cases hr
    exact option_queue hopt hq
  | parsed _ | failed _ | detached _ | wrote _ | grouped _ | allocated _ | dropped _ | rest _ =>
    exact hq
  | opened _ _ _ _ | refused _ _ _ _ | received _ _ _ _ _ => simp
  | exited hphase => exact absurd hphase (hexit _)

lemma allocate_buffer {env : Env} {sys : System} (hrun : allocate cfg env sys p = .ok p')
    (hphase : p'.phase = .dropPrivileges) : ∃ data, p'.buffer = some data := by
  unfold allocate at hrun
  split at hrun
  · cases hrun
  · split at hrun
    · cases hrun
      cases hphase
    · dsimp only at hrun
      split at hrun
      · cases hrun
        cases hphase
      · split at hrun
        · cases hrun
          cases hphase
        · cases hrun
          exact ⟨_, rfl⟩

/-- How a step of `main` gets from the phases before `engine->open` to those after it. -/
inductive Stage (p p' : Proc) : Prop where
  | early (h : Early p.phase) (h' : ¬ Late p'.phase)
  | opens (h : p.phase = .allocate) (h' : p'.phase = .dropPrivileges)
      (hbuffer : ∃ data, p'.buffer = some data)
  | late (h : Late p.phase) (h' : ¬ Early p'.phase) (hopts : p'.opts = p.opts)

lemma run_stage {env : Env} {sys sys' : System} (hrun : run cfg env sys p = .ok (sys', p'))
    (hexit : ∀ how, p.phase ≠ .exiting how) (hdone : p.phase ≠ .done) : Stage p p' := by
  cases run_move hrun with
  | option hphase heffect =>
    refine .early (by simp [hphase, Early]) ?_
    rcases heffect.phase with h | ⟨how, h⟩
    · simp [h, Late]
    · simp [h, Late]
  | parsed hphase => exact .early (by simp [hphase, Early]) (by simp [Proc.goto, Late])
  | failed hphase =>
    simp only [List.mem_cons, List.not_mem_nil, or_false] at hphase
    rcases hphase with h | h | h | h | h
    · exact .early (by simp [h, Early]) (by simp [Late])
    · exact .early (by simp [h, Early]) (by simp [Late])
    · exact .early (by simp [h, Early]) (by simp [Late])
    · exact .early (by simp [h, Early]) (by simp [Late])
    · exact .late (by simp [h, Late]) (by simp [Early]) rfl
  | detached hphase => exact .early (by simp [hphase, Early]) (by simp [Late])
  | wrote hphase | grouped hphase =>
    exact .early (by simp [hphase, Early]) (by simp [Proc.goto, Late])
  | opened hphase _ _ _ | refused hphase _ _ _ =>
    exact .early (by simp [hphase, Early]) (by simp [Late])
  | allocated hphase =>
    simp only [run, hphase] at hrun
    rcases bind_eq_ok.1 hrun with ⟨p₁, halloc, hr⟩
    cases hr
    exact .opens hphase rfl (allocate_buffer halloc rfl)
  | dropped hphase => exact .late (by simp [hphase, Late]) (by simp [Early]) rfl
  | received hphase _ _ _ _ => exact .late (by simp [hphase, Late]) (by simp [Early]) rfl
  | exited hphase => exact absurd hphase (hexit _)
  | rest hphase => exact absurd hphase hdone

/-! ### What the allocations do -/

/-- The memory has one more block, and the pointers other than `r` are as they were. -/
structure Gained (m : Memory) (r : Resource) (m' : Memory) : Prop where
  live : Live m' r
  others : ∀ r', r' ≠ r → Live m r' → Live m' r'
  shown : m'.shown = m.shown

lemma shown_alloc {b : Block} (hb : Foreign b) {m' : Memory} (hqueue : m'.queue = m.queue)
    (hheap : m'.heap = (m.heap.alloc b).2) : m'.shown = m.shown := by
  refine shown_congr hqueue fun a => ?_
  rw [hheap]
  by_cases ha : a = (m.heap.alloc b).1
  · subst ha
    refine Or.inr ⟨fun b' hb' => ?_, fun b' hb' => ?_⟩
    · cases (Heap.cells_alloc_self m.heap b).symm.trans hb'
      exact hb
    · exact absurd (Heap.lt_brk hb') (Nat.lt_irrefl _)
  · exact Or.inl (Heap.cells_alloc_of_ne ha)

/-- A block that is not of the queue hides nothing of the handle. -/
lemma handle_of_alloc {b : Block} (hb : Foreign b) {m' : Memory} (hqueue : m'.queue = m.queue)
    (hheap : m'.heap = (m.heap.alloc b).2) {q : HandleBlock} (hq : m'.handle = some q) :
    m.handle = some q := by
  rcases handle_eq_some.1 hq with ⟨a, ha, hcell⟩
  rw [hheap] at hcell
  have hne : a ≠ (m.heap.alloc b).1 := by
    rintro rfl
    cases (Heap.cells_alloc_self m.heap b).symm.trans hcell
    simp [Foreign, Block.resource] at hb
  rw [Heap.cells_alloc_of_ne hne] at hcell
  exact handle_of_cells (hqueue.symm.trans ha) hcell

/-- An allocation that is stored in a static variable. -/
lemma gained_alloc {b : Block} (hb : Foreign b) {m' : Memory} (hqueue : m'.queue = m.queue)
    (hheap : m'.heap = (m.heap.alloc b).2) (hself : m'.ptr b.resource = some (m.heap.alloc b).1)
    (hothers : ∀ r, r ≠ b.resource → r ≠ .name → r ≠ .area → m'.ptr r = m.ptr r) :
    Gained m b.resource m' := by
  refine ⟨?_, fun r hr hlive => ?_, shown_alloc hb hqueue hheap⟩
  · intro a ha
    cases hself.symm.trans ha
    exact ⟨b, by rw [hheap]; exact Heap.cells_alloc_self m.heap b, rfl⟩
  · refine hlive.keeps (fun a ha => ?_) (by rw [hheap]; exact keeps_alloc m.heap b)
    cases r with
    | name =>
      rcases Option.bind_eq_some_iff.1 ha with ⟨q, hq, hname⟩
      simp [Memory.ptr, handle_of_alloc hb hqueue hheap hq, hname]
    | area =>
      rcases Option.bind_eq_some_iff.1 ha with ⟨q, hq, harea⟩
      simp [Memory.ptr, handle_of_alloc hb hqueue hheap hq, harea]
    | buffer | ctxt | handle | log =>
      rwa [hothers _ hr (by decide) (by decide)] at ha

lemma openLog_gained (fd : Option Nat) (m : Memory) : Gained m .log (openLog fd m) := by
  cases fd with
  | none =>
    refine ⟨fun a ha => (by cases ha), fun r hr hlive => ?_, rfl⟩
    cases r with
    | log => exact absurd rfl hr
    | buffer | ctxt | name | area | handle => exact hlive
  | some fd =>
    refine gained_alloc (b := .stream fd) (Or.inr (Or.inr rfl)) rfl rfl rfl fun r hr hname harea => ?_
    cases r with
    | log => exact absurd rfl hr
    | name => exact absurd rfl hname
    | area => exact absurd rfl harea
    | buffer | ctxt | handle => rfl

lemma allocBuffer_gained (data : Bytes) (m : Memory) : Gained m .buffer (allocBuffer data m) := by
  refine gained_alloc (b := .message data) (Or.inl rfl) rfl rfl rfl fun r hr hname harea => ?_
  cases r with
  | buffer => exact absurd rfl hr
  | name => exact absurd rfl hname
  | area => exact absurd rfl harea
  | ctxt | handle | log => rfl

lemma openCtxt_pf_gained (fd : Nat) (m : Memory) : Gained m .ctxt (openCtxt .pf fd m) := by
  refine gained_alloc (b := .context (some fd)) (Or.inr (Or.inl rfl)) rfl rfl rfl
    fun r hr hname harea => ?_
  cases r with
  | ctxt => exact absurd rfl hr
  | name => exact absurd rfl hname
  | area => exact absurd rfl harea
  | buffer | handle | log => rfl

/-- `freopen` writes to the stream. -/
lemma gained_store {a fd fd' : Nat} (herr : m.errFile = some (.file a))
    (hcell : m.heap.cells a = some (.stream fd)) :
    Gained m .log { m with heap := m.heap.put a (.stream fd') } := by
  have hkeeps : Keeps m.heap (m.heap.put a (.stream fd')) := keeps_put hcell rfl
  have hhandle : ({ m with heap := m.heap.put a (.stream fd') } : Memory).handle = m.handle := by
    unfold Memory.handle
    congr 1
    funext a'
    dsimp only
    by_cases ha : a' = a
    · subst ha
      rw [Heap.cells_put_self hcell, hcell]
      rfl
    · rw [Heap.cells_put_of_ne ha]
  refine ⟨fun a' ha' => ?_, fun r hr hlive => hlive.keeps (fun a' ha' => ?_) hkeeps, ?_⟩
  · have ha : a = a' := by simpa [Memory.ptr, herr] using ha'
    subst ha
    exact ⟨.stream fd', Heap.cells_put_self hcell, rfl⟩
  · cases r with
    | name | area => simpa only [Memory.ptr, hhandle] using ha'
    | buffer | ctxt | handle | log => exact ha'
  · refine shown_congr rfl fun a' => ?_
    by_cases ha : a' = a
    · subst ha
      refine Or.inr ⟨fun b hb => ?_, fun b hb => ?_⟩
      · cases (Heap.cells_put_self hcell).symm.trans hb
        exact Or.inr (Or.inr rfl)
      · cases hcell.symm.trans hb
        exact Or.inr (Or.inr rfl)
    · exact Or.inl (Heap.cells_put_of_ne ha)

/-- A `freopen` that fails closes the stream, and `err_file` is `stderr` from then on. -/
lemma gained_close {a fd : Nat} (hcell : m.heap.cells a = some (.stream fd)) :
    Gained m .log { m with heap := m.heap.drop a, errFile := some .stderr } := by
  refine ⟨fun a' ha' => (by cases ha'), fun r hr hlive => ?_,
    shown_drop (m := { m with errFile := some .stderr }) hcell (Or.inr (Or.inr rfl))⟩
  have hdrop := hlive.drop hcell rfl hr
  cases r with
  | log => exact absurd rfl hr
  | buffer | ctxt | name | area | handle => exact hdrop

/-- `SIGUSR1` leaves every pointer valid. -/
lemma reopenLog_gained (fd : Option Nat) (hlog : Live m .log) :
    ∃ m', reopenLog fd m = .ok m' ∧ Gained m .log m' ∧ m'.ctxt = m.ctxt := by
  have hself : Gained m .log m := ⟨hlog, fun _ _ h => h, rfl⟩
  unfold reopenLog
  split
  · exact ⟨m, rfl, hself, rfl⟩
  · exact ⟨m, rfl, hself, rfl⟩
  · rename_i a herr
    rcases hlog.stream herr with ⟨old, hcell⟩
    rw [Heap.load_of_live hcell, ok_bind]
    dsimp only
    split
    · cases fd with
      | some fd =>
        simp only [Heap.store_of_live hcell, ok_bind, pure_eq_ok]
        exact ⟨_, rfl, gained_store herr hcell, rfl⟩
      | none =>
        simp only [Heap.free_of_live hcell, ok_bind, pure_eq_ok]
        exact ⟨_, rfl, gained_close hcell, rfl⟩
    · exact ⟨m, rfl, hself, rfl⟩

/-- The context is null, a block, or what `ipset_open` returns. -/
def Context (kind : EngineKind) (m : Memory) : Prop :=
  m.ctxt = none ∨ kind ≠ .ipset ∧ Live m .ctxt ∨ kind = .ipset ∧ m.ctxt = some 1

/-- Every pointer is valid but for the context, and memory shows `queue`. -/
structure Valid (queue : Option Handle) (m : Memory) : Prop where
  live : ∀ r, r ≠ .ctxt → Live m r
  shown : m.shown = queue

lemma Valid.gained {r : Resource} {queue : Option Handle} (h : Valid queue m)
    (hgained : Gained m r m') : Valid queue m' := by
  refine ⟨fun r' hr' => ?_, hgained.shown.trans h.shown⟩
  by_cases heq : r' = r
  · rw [heq]
    exact hgained.live
  · exact hgained.others r' heq (h.live r' hr')

/-- Before `engine->open`, memory stays valid and the context null. -/
lemma acquire_early (x : Grants) {queue : Option Handle} (hlate : ¬ Late p'.phase)
    (hvalid : Valid queue m) (hnull : m.ctxt = none) :
    Valid queue (acquire x p p' m) ∧ (acquire x p p' m).ctxt = none := by
  unfold acquire
  split
  · refine ⟨hvalid.gained (openLog_gained x.log m), ?_⟩
    unfold openLog
    split
    · exact hnull
    · exact hnull
  · split
    · exact ⟨hvalid, hnull⟩
    · rename_i data hdata
      have hphase : p'.phase ≠ .dropPrivileges := fun hphase => hlate (by simp [hphase, Late])
      simp only [hphase, if_false]
      exact ⟨hvalid.gained (allocBuffer_gained data m), hnull⟩
  · exact ⟨hvalid, hnull⟩

/-- `engine->open`. -/
lemma acquire_opens (x : Grants) {queue : Option Handle} {data : Bytes} (hphase : p.phase = .allocate)
    (hphase' : p'.phase = .dropPrivileges) (hdata : p'.buffer = some data) (hvalid : Valid queue m)
    (hnull : m.ctxt = none) :
    Valid queue (acquire x p p' m) ∧ Context p'.opts.engine (acquire x p p' m) ∧
      (p'.opts.engine = .ipset → (acquire x p p' m).ctxt = some 1) := by
  have hvalid' := hvalid.gained (allocBuffer_gained data m)
  have heq : acquire x p p' m = openCtxt p'.opts.engine x.device (allocBuffer data m) := by
    simp only [acquire, hphase, hdata, hphase', if_true]
  rw [heq]
  cases hengine : p'.opts.engine with
  | pf =>
    have hgained := openCtxt_pf_gained x.device (allocBuffer data m)
    exact ⟨hvalid'.gained hgained, Or.inr (Or.inl ⟨by decide, hgained.live⟩), by simp⟩
  | ipset =>
    refine ⟨⟨fun r hr => ?_, hvalid'.shown⟩, Or.inr (Or.inr ⟨rfl, rfl⟩), fun _ => rfl⟩
    cases r with
    | ctxt => exact absurd rfl hr
    | buffer | name | area | handle | log => exact hvalid'.live _ hr
  | dummy => exact ⟨hvalid', Or.inl hnull, by simp⟩

lemma acquire_late (x : Grants) (hlate : Late p.phase) : acquire x p p' m = m := by
  unfold acquire
  cases hphase : p.phase with
  | dropPrivileges | receive _ => rfl
  | options _ | daemonize | writePid | setGroup | openQueue | allocate | exiting _ | done =>
    simp [hphase, Late] at hlate

end

/-- Memory in a run: every pointer is valid, but for the context of the ipset engine. -/
structure Held (s : Image) : Prop where
  valid : Valid s.proc.queue s.mem
  context : Context s.proc.opts.engine s.mem
  early : Early s.proc.phase → s.mem.ctxt = none
  late : Late s.proc.phase → s.proc.opts.engine = .ipset → s.mem.ctxt = some 1
  queue : s.proc.phase ≠ .done → s.proc.queue ≠ none

/-- A step of `main`. -/
lemma Held.run {cfg : Config} {s : Image} {env : Env} {x : Grants} {sys : System} {p' : Proc}
    {q' : Handle} (h : Held s) (hexit : ∀ how, s.proc.phase ≠ .exiting how)
    (hdone : s.proc.phase ≠ .done) (hrun : Daemon.run cfg env s.mem.sys s.proc = .ok (sys, p'))
    (hq' : p'.queue = some q') :
    Held ⟨p', acquire x s.proc p' (({ s.mem with sys := sys } : Memory).sync q')⟩ := by
  have hstage := run_stage hrun hexit hdone
  have hblock : ∃ blk, s.mem.handle = some blk := by
    rcases Option.ne_none_iff_exists'.1 (h.queue hdone) with ⟨q, hq⟩
    rcases Option.map_eq_some_iff.1 (h.valid.shown.trans hq) with ⟨blk, hblk, -⟩
    exact ⟨blk, hblk⟩
  rcases hblock with ⟨blk, hblk⟩
  -- the handle first: memory shows what `main` has made of it
  have hagrees : Agrees s.mem { s.mem with sys := sys } := Agrees.of_system (Or.inl rfl)
  have hlive : ∀ r, Live s.mem r → Live ({ s.mem with sys := sys } : Memory) r := fun r hr =>
    hr.mono (fun a ha => (hagrees.ptr r).symm.trans ha) hagrees.cells
  have hsynced := sync_synced (m := { s.mem with sys := sys }) (q := q') hblk
    (hlive _ (h.valid.live .name (by decide))) (hlive _ (h.valid.live .area (by decide)))
  generalize ({ s.mem with sys := sys } : Memory).sync q' = m at hsynced
  have hvalid : Valid p'.queue m :=
    ⟨fun r hr => hsynced.live r (hlive r (h.valid.live r hr)), hsynced.shown.trans hq'.symm⟩
  have hctxt : m.ctxt = s.mem.ctxt := hsynced.ptr .ctxt (by decide) (by decide)
  have hqueue : p'.queue ≠ none := by simp [hq']
  cases hstage with
  | early hearly hlate =>
    rcases acquire_early x (p := s.proc) hlate hvalid (hctxt.trans (h.early hearly)) with
      ⟨hvalid', hnull⟩
    exact ⟨hvalid', Or.inl hnull, fun _ => hnull, fun h => absurd h hlate, fun _ => hqueue⟩
  | opens hphase hphase' hbuffer =>
    rcases hbuffer with ⟨data, hdata⟩
    have hnull : m.ctxt = none := hctxt.trans (h.early (by simp [hphase, Early]))
    rcases acquire_opens x hphase hphase' hdata hvalid hnull with ⟨hvalid', hcontext, hipset⟩
    exact ⟨hvalid', hcontext, fun h => by simp [hphase', Early] at h, fun _ => hipset,
      fun _ => hqueue⟩
  | late hlate hearly hopts =>
    rw [acquire_late x hlate]
    refine ⟨hvalid, ?_, fun h => absurd h hearly, fun _ hengine => ?_, fun _ => hqueue⟩
    · dsimp only
      rw [hopts]
      rcases h.context with hnull | ⟨hne, hctx⟩ | ⟨heq, hone⟩
      · exact Or.inl (hctxt.trans hnull)
      · exact Or.inr (Or.inl ⟨hne, hsynced.live .ctxt (hlive _ hctx)⟩)
      · exact Or.inr (Or.inr ⟨heq, hctxt.trans hone⟩)
    · dsimp only at hengine
      rw [hopts] at hengine
      exact hctxt.trans (h.late hlate hengine)

/-- The rest of the system is not in this memory. -/
lemma Held.system {s : Image} (h : Held s) (sys : System) :
    Held { s with mem := { s.mem with sys := sys } } := by
  have hagrees : Agrees s.mem { s.mem with sys := sys } := Agrees.of_system (Or.inl rfl)
  have hlive : ∀ r, Live s.mem r → Live ({ s.mem with sys := sys } : Memory) r := fun r hr =>
    hr.mono (fun a ha => (hagrees.ptr r).symm.trans ha) hagrees.cells
  refine ⟨⟨fun r hr => hlive r (h.valid.live r hr), h.valid.shown⟩, ?_, h.early, h.late, h.queue⟩
  rcases h.context with hnull | ⟨hne, hctx⟩ | ⟨heq, hone⟩
  · exact Or.inl hnull
  · exact Or.inr (Or.inl ⟨hne, hlive _ hctx⟩)
  · exact Or.inr (Or.inr ⟨heq, hone⟩)

/-- A step of `main` in a process that is not ending. -/
lemma next_run {cfg : Config} {s s' : Image} {env : Env} {x : Grants}
    (hexit : ∀ how, s.proc.phase ≠ .exiting how) (hdone : s.proc.phase ≠ .done)
    (hqueue : s.proc.queue ≠ none) (hnext : s.next cfg (.run env x) = .ok s') :
    ∃ sys p' q', Daemon.run cfg env s.mem.sys s.proc = .ok (sys, p') ∧ p'.queue = some q' ∧
      s' = ⟨p', acquire x s.proc p' (({ s.mem with sys := sys } : Memory).sync q')⟩ := by
  simp only [Image.next] at hnext
  rcases bind_eq_ok.1 hnext with ⟨⟨sys, p'⟩, hrun, hs⟩
  rcases Option.ne_none_iff_exists'.1 (run_queue hrun hqueue hexit) with ⟨q', hq'⟩
  simp only [hq'] at hs
  cases hs
  exact ⟨sys, p', q', hrun, hq', rfl⟩

/-- Whatever happens, memory stays valid. -/
lemma Held.next {cfg : Config} {s s' : Image} {a : Stir} (h : Held s)
    (hnext : s.next cfg a = .ok s') : Held s' := by
  cases a with
  | run env x =>
    by_cases hend : (∃ how, s.proc.phase = .exiting how) ∨ s.proc.phase = .done
    · have hsame : s.next cfg (.run env x) = .ok s := by
        rcases hend with ⟨how, hphase⟩ | hphase
        · simp only [Image.next, hphase]
        · simp only [Image.next, hphase]
      cases hsame.symm.trans hnext
      exact h
    · have hexit : ∀ how, s.proc.phase ≠ .exiting how := fun how hp => hend (Or.inl ⟨how, hp⟩)
      have hdone : s.proc.phase ≠ .done := fun hp => hend (Or.inr hp)
      rcases next_run hexit hdone (h.queue hdone) hnext with ⟨sys, p', q', hrun, hq', rfl⟩
      exact h.run hexit hdone hrun hq'
  | usr1 fd =>
    rcases reopenLog_gained fd (h.valid.live .log (by decide)) with ⟨m', hm', hgained, hctxt⟩
    simp only [Image.next, hm', ok_bind, pure_eq_ok, Except.ok.injEq] at hnext
    subst hnext
    refine ⟨h.valid.gained hgained, ?_, fun he => hctxt.trans (h.early he),
      fun hl hengine => hctxt.trans (h.late hl hengine), h.queue⟩
    rcases h.context with hnull | ⟨hne, hctx⟩ | ⟨heq, hone⟩
    · exact Or.inl (hctxt.trans hnull)
    · exact Or.inr (Or.inl ⟨hne, hgained.others .ctxt (by decide) hctx⟩)
    · exact Or.inr (Or.inr ⟨heq, hctxt.trans hone⟩)
  | mqTraffic i msgs =>
    cases hnext
    exact h.system _
  | ipcTraffic i msgs =>
    cases hnext
    exact h.system _

/-- A memory with a fresh handle. -/
lemma valid_fresh {os : Os} {malloc : Bool} {b : Backend} {q : Handle} (sys : System)
    (hinit : Handle.queueInit os malloc b = .ok q) :
    Valid (some q) (Memory.fresh sys (some q)) := by
  have hhandle : (Memory.fresh sys (some q)).handle = some ⟨Handle.fields q, none, none⟩ :=
    handle_of_cells rfl (Heap.cells_alloc_self _ _)
  refine ⟨fun r _ a ha => ?_, ?_⟩
  · cases r with
    | handle =>
      cases ha
      exact ⟨_, Heap.cells_alloc_self _ _, rfl⟩
    | name => simp [Memory.ptr, hhandle] at ha
    | area => simp [Memory.ptr, hhandle] at ha
    | buffer | ctxt | log => cases ha
  · rw [shown_eq hhandle]
    cases malloc <;> cases b <;> cases hinit <;> rfl

/-- The process when `main` begins. -/
lemma held_start (cfg : Config) (sys : System) (uid pid umask argc : Nat) (argv : List Opt)
    (malloc : Bool) : Held (Image.start cfg sys uid pid umask argc argv malloc) := by
  unfold Image.start Daemon.start
  cases hinit : Handle.queueInit cfg.os malloc cfg.backend with
  | error text =>
    refine ⟨⟨fun r _ a ha => ?_, rfl⟩, Or.inl rfl, fun _ => rfl, fun h => h.elim, fun h => absurd rfl h⟩
    cases r <;> cases ha
  | ok q =>
    have hvalid := valid_fresh sys hinit
    cases getDefaultEngine cfg with
    | none => exact ⟨hvalid, Or.inl rfl, fun _ => rfl, fun h => h.elim, fun _ => by simp⟩
    | some kind => exact ⟨hvalid, Or.inl rfl, fun _ => rfl, fun h => h.elim, fun _ => by simp⟩

lemma Held.of_run {cfg : Config} {s s' : Image} {stirs : List Stir} (h : Held s)
    (hrun : exec (Image.next cfg) s stirs = .ok s') : Held s' :=
  exec_preserves (fun _ _ _ hs hnext => Held.next hs hnext) h hrun

/-! ## Endings -/

/-- With any other context every pointer is valid. -/
lemma Held.all_live {s : Image} (h : Held s)
    (hctxt : s.proc.opts.engine = .ipset → s.mem.ctxt = none) (r : Resource) : Live s.mem r := by
  by_cases hr : r = .ctxt
  · subst hr
    rcases h.context with hnull | ⟨-, hlive⟩ | ⟨heq, hone⟩
    · intro a ha
      cases hnull.symm.trans ha
    · exact hlive
    · cases hone.symm.trans (hctxt heq)
  · exact h.valid.live r hr

/-- The context of the ipset engine is no block of the heap. -/
lemma Held.broken {s : Image} (h : Held s) (hone : s.mem.ctxt = some 1) :
    Broken .freeBuffer s.mem := by
  have hdead : s.mem.heap.cells 1 = none := s.mem.heap.unmapped 1 (by decide)
  refine ⟨fun r a b ha hb => ?_, .ctxt, ⟨1, hone, hdead⟩, trivial, by decide⟩
  by_cases hr : r = .ctxt
  · subst hr
    cases hone.symm.trans ha
    rw [hdead] at hb
    cases hb
  · rcases h.valid.live r hr a ha with ⟨b', hb', hkind⟩
    cases hb.symm.trans hb'
    exact hkind

/-- At any point of any run of `main`, nested clean-ups end without a fault if and only if none is cut
off between a `free` and the assignment after it and the engine's context is not that of ipset;
with the ipset engine every process that has come to the loop has that context. -/
theorem ending_safe_iff (cfg : Config) (sys : System) (uid pid umask argc : Nat) (argv : List Opt)
    (malloc : Bool) (stirs : List Stir) {s : Image}
    (hrun : exec (Image.next cfg) (Image.start cfg sys uid pid umask argc argv malloc) stirs = .ok s)
    (cuts : List (Ending × Nat)) (e : Ending) :
    ((∃ m', nested (step s.proc) .freeBuffer (rank .freeBuffer) cuts e s.mem = .ok (.finished, m')) ↔
      Avoids (step s.proc) .freeBuffer Freeing cuts s.mem ∧
        (s.proc.opts.engine = .ipset → s.mem.ctxt = none)) ∧
      (Late s.proc.phase → s.proc.opts.engine = .ipset → s.mem.ctxt = some 1) := by
  have hheld := (held_start cfg sys uid pid umask argc argv malloc).of_run hrun
  refine ⟨?_, hheld.late⟩
  by_cases hctxt : s.proc.opts.engine = .ipset → s.mem.ctxt = none
  · rw [nested_safe_iff s.proc cuts e (hheld.all_live hctxt)]
    exact ⟨fun havoid => ⟨havoid, hctxt⟩, And.left⟩
  · refine ⟨?_, fun h => absurd h.2 hctxt⟩
    rintro ⟨m', hm'⟩
    have hone : s.mem.ctxt = some 1 := by
      rcases hheld.context with hnull | ⟨hne, -⟩ | ⟨-, hone⟩
      · exact absurd (fun _ => hnull) hctxt
      · exact absurd (fun heq => absurd heq hne) hctxt
      · exact hone
    exact absurd hm' ((reentrant s.proc).nested_ne_ok cuts e (hheld.broken hone) _)

/-- A `banipd` that is built with the ipset engine. -/
def ipsetConfig : Config := ⟨Host.lp64, LibC.numeric, Os.linux, .posix, [.ipset]⟩

/-- The steps of `main` up to its loop, with the options `banipOptions`. -/
def toLoop : List Stir := List.replicate 10 (.run (Env.smooth 65534) ⟨none, 3⟩)

/-- Every call of a clean-up succeeds. -/
def Ending.smooth : Ending := ⟨none, none, none, none⟩

/-- A `SIGTERM` ends a daemon with the ipset engine by freeing the address 1. -/
theorem ending_safe_ipset : ∃ s,
    exec (Image.next ipsetConfig) (Image.start ipsetConfig System.fresh 0 100 18 0 banipOptions true)
      toLoop = .ok s ∧
    s.proc.phase = .receive .start ∧
    ¬ ∃ m', nested (step s.proc) .freeBuffer (rank .freeBuffer) [] Ending.smooth s.mem =
      .ok (.finished, m') := by
  have hloop : (exec (Image.next ipsetConfig)
      (Image.start ipsetConfig System.fresh 0 100 18 0 banipOptions true) toLoop).map
      (fun s => (s.proc.phase, s.proc.opts.engine)) = .ok (.receive .start, .ipset) := by
    decide +kernel
  rcases map_eq_ok.1 hloop with ⟨s, hs, heq⟩
  rcases Prod.mk.injEq _ _ _ _ ▸ heq with ⟨hphase, hengine⟩
  rcases ending_safe_iff ipsetConfig System.fresh 0 100 18 0 banipOptions true toLoop hs []
    Ending.smooth with ⟨hsafe, hlate⟩
  refine ⟨s, hs, hphase, fun hok => ?_⟩
  have hone := hlate (by simp [hphase, Late]) hengine
  cases hone.symm.trans ((hsafe.1 hok).2 hengine)

/-- At any point of any run of `main`, but for the context of ipset, a clean-up that nothing interrupts
does to the queue, the files and the handle what `Daemon.cleanup` does; the buffer and the context
are gone, and no block is lost that was pointed to before. -/
theorem ending_refines (cfg : Config) (sys : System) (uid pid umask argc : Nat) (argv : List Opt)
    (malloc : Bool) (stirs : List Stir) {s : Image}
    (hrun : exec (Image.next cfg) (Image.start cfg sys uid pid umask argc argv malloc) stirs = .ok s)
    (hctxt : s.proc.opts.engine = .ipset → s.mem.ctxt = none) (env : Env)
    (closeDevice : Option Nat) :
    ∃ m', advance (step s.proc) (Ending.of env closeDevice) (rank .freeBuffer)
        (.freeBuffer, s.mem) = .ok (.finished, m') ∧
      m'.sys = (cleanup cfg env s.mem.sys s.proc).1 ∧
      m'.shown = (cleanup cfg env s.mem.sys s.proc).2.queue ∧
      m'.buffer = none ∧ m'.ctxt = none ∧ NotLost s.mem m' := by
  have hheld := (held_start cfg sys uid pid umask argc argv malloc).of_run hrun
  exact cleanup_refines cfg env closeDevice s.proc (hheld.all_live hctxt) hheld.valid.shown

/-- The clean-up of a daemon with the dummy engine that is stopped in its loop, with a buffer that is not
lost. -/
theorem ending_refines_dummy : ∃ s m' a,
    exec (Image.next (dummyConfig .posix))
      (Image.start (dummyConfig .posix) System.fresh 0 100 18 0 banipOptions true) toLoop = .ok s ∧
    s.proc.phase = .receive .start ∧ s.mem.buffer = some a ∧
    advance (step s.proc) (Ending.of (Env.smooth 65534) none) (rank .freeBuffer)
      (.freeBuffer, s.mem) = .ok (.finished, m') ∧
    m'.sys = (cleanup (dummyConfig .posix) (Env.smooth 65534) s.mem.sys s.proc).1 ∧
    m'.buffer = none ∧ (m'.heap.cells a = none ∨ Reached m' a) := by
  have hloop : (exec (Image.next (dummyConfig .posix))
      (Image.start (dummyConfig .posix) System.fresh 0 100 18 0 banipOptions true) toLoop).map
      (fun s => (s.proc.phase, s.proc.opts.engine, s.mem.buffer.isSome)) =
        .ok (.receive .start, .dummy, true) := by
    decide +kernel
  rcases map_eq_ok.1 hloop with ⟨s, hs, heq⟩
  simp only [Prod.mk.injEq] at heq
  rcases heq with ⟨hphase, hengine, hsome⟩
  rcases Option.isSome_iff_exists.1 hsome with ⟨a, ha⟩
  have hctxt : s.proc.opts.engine = .ipset → s.mem.ctxt = none := by
    intro hipset
    cases hengine.symm.trans hipset
  rcases ending_refines (dummyConfig .posix) System.fresh 0 100 18 0 banipOptions true toLoop hs hctxt
    (Env.smooth 65534) none with ⟨m', hend, hsys, -, hbuffer, -, hkept⟩
  exact ⟨s, m', a, hs, hphase, ha, hend, hsys, hbuffer, hkept a ⟨.buffer, ha⟩⟩

end Teardown
end Daemon
end Banip
