import Banip.Daemon.Teardown

/-!
# Reentry — a clean-up inside a clean-up

The last of several nested clean-ups runs to its end and the process ends with it.  The result says
exactly when that goes well: the clean-ups before it may be cut off anywhere, except between a `free`
(or `fclose`) and the assignment that makes the freed pointer null.
-/

namespace Banip
namespace Daemon
namespace Teardown

open Lib

section

variable {p : Proc} {e : Ending} {m m' : Memory} {pt pt' : Point}

/-! ## Pointers after a statement -/

lemma Live.mono {r : Resource} (hptr : ∀ a, m'.ptr r = some a → m.ptr r = some a)
    (hcells : ∀ a, (m'.heap.cells a).map Block.resource = (m.heap.cells a).map Block.resource)
    (hlive : Live m r) : Live m' r := by
  intro a ha
  rcases hlive a (hptr a ha) with ⟨b, hb, hkind⟩
  have hkinds := hcells a
  rw [hb, Option.map_some, hkind] at hkinds
  exact Option.map_eq_some_iff.1 hkinds

lemma Dangling.mono {r : Resource} (hptr : m'.ptr r = m.ptr r)
    (hcells : ∀ a, m.heap.cells a = none → m'.heap.cells a = none) (hdangling : Dangling m r) :
    Dangling m' r := by
  rcases hdangling with ⟨a, ha, hdead⟩
  exact ⟨a, hptr.trans ha, hcells a hdead⟩

lemma Agrees.dead {a : Nat} (h : Agrees m m') (ha : m.heap.cells a = none) :
    m'.heap.cells a = none := by
  have hkinds := h.cells a
  rw [ha] at hkinds
  simpa using hkinds

/-- The handle after a block is freed. -/
lemma handle_drop (a : Nat) (hne : m.queue ≠ some a) :
    ({ m with heap := m.heap.drop a } : Memory).handle = m.handle := by
  unfold Memory.handle
  cases hqueue : m.queue with
  | none => rfl
  | some a' =>
    have ha : a' ≠ a := fun heq => hne (by rw [hqueue, heq])
    simp [Heap.cells_drop_of_ne ha]

/-- A pointer after a block other than the handle is freed. -/
lemma ptr_drop (a : Nat) (hne : m.queue ≠ some a) (r : Resource) :
    ({ m with heap := m.heap.drop a } : Memory).ptr r = m.ptr r := by
  cases r with
  | name | area => simp only [Memory.ptr, handle_drop a hne]
  | buffer | ctxt | handle | log => rfl

/-- No pointer leads elsewhere after a block is freed. -/
lemma ptr_of_ptr_drop {a a' : Nat} {r : Resource}
    (h : ({ m with heap := m.heap.drop a } : Memory).ptr r = some a') : m.ptr r = some a' := by
  by_cases hqueue : m.queue = some a
  · have hnone : ({ m with heap := m.heap.drop a } : Memory).handle = none := by
      simp [Memory.handle, hqueue]
    cases r with
    | name => simp [Memory.ptr, hnone] at h
    | area => simp [Memory.ptr, hnone] at h
    | buffer | ctxt | handle | log => exact h
  · rwa [ptr_drop a hqueue] at h

lemma Live.drop {r r' : Resource} {a : Nat} {b : Block} (hcell : m.heap.cells a = some b)
    (hkind : b.resource = r) (hne : r' ≠ r) (hlive : Live m r') :
    Live { m with heap := m.heap.drop a } r' := by
  intro a' ha'
  rcases hlive a' (ptr_of_ptr_drop ha') with ⟨b', hb', hkind'⟩
  refine ⟨b', ?_, hkind'⟩
  have hne' : a' ≠ a := by
    rintro rfl
    rw [hcell] at hb'
    cases hb'
    exact hne (hkind'.symm.trans hkind)
  exact (Heap.cells_drop_of_ne hne').trans hb'

/-- Making a pointer null changes no block but the handle, and that one in its fields only. -/
lemma resource_nullify (r : Resource) (a : Nat) :
    ((m.nullify r).heap.cells a).map Block.resource = (m.heap.cells a).map Block.resource := by
  cases r with
  | buffer | ctxt | handle | log => rfl
  | name | area =>
    cases hhandle : m.handle with
    | none => simp only [Memory.nullify, hhandle]
    | some q => simp only [Memory.nullify, hhandle, resource_setHandle hhandle]

lemma ptr_nullify_self {r : Resource} (hhandle : r = .name ∨ r = .area → m.handle ≠ none) :
    (m.nullify r).ptr r = none := by
  cases r with
  | buffer | ctxt | handle | log => rfl
  | name =>
    rcases Option.ne_none_iff_exists'.1 (hhandle (Or.inl rfl)) with ⟨q, hq⟩
    simp [Memory.ptr, Memory.nullify, hq, handle_setHandle hq]
  | area =>
    rcases Option.ne_none_iff_exists'.1 (hhandle (Or.inr rfl)) with ⟨q, hq⟩
    simp [Memory.ptr, Memory.nullify, hq, handle_setHandle hq]

/-- The other pointers stay as they are, unless they are in the handle that is given up. -/
lemma ptr_nullify_of_ne {r r' : Resource} (hne : r' ≠ r)
    (hhandle : r = .handle → r' ≠ .name ∧ r' ≠ .area) : (m.nullify r).ptr r' = m.ptr r' := by
  cases r with
  | buffer | ctxt | log =>
    cases r' with
    | buffer | ctxt | name | area | handle | log => first | rfl | exact absurd rfl hne
  | handle =>
    cases r' with
    | name => exact absurd rfl (hhandle rfl).1
    | area => exact absurd rfl (hhandle rfl).2
    | buffer | ctxt | log => rfl
    | handle => exact absurd rfl hne
  | name =>
    cases hq : m.handle with
    | none => simp only [Memory.nullify, hq]
    | some q =>
      simp only [Memory.nullify, hq]
      cases r' with
      | name => exact absurd rfl hne
      | area => simp [Memory.ptr, handle_setHandle hq, hq]
      | buffer | ctxt | handle | log => rfl
  | area =>
    cases hq : m.handle with
    | none => simp only [Memory.nullify, hq]
    | some q =>
      simp only [Memory.nullify, hq]
      cases r' with
      | area => exact absurd rfl hne
      | name => simp [Memory.ptr, handle_setHandle hq, hq]
      | buffer | ctxt | handle | log => rfl

/-- No pointer leads elsewhere after one is made null. -/
lemma ptr_of_ptr_nullify {r r' : Resource} {a : Nat}
    (hhandle : r = .name ∨ r = .area → m.handle ≠ none) (h : (m.nullify r).ptr r' = some a) :
    m.ptr r' = some a := by
  by_cases heq : r' = r
  · subst heq
    rw [ptr_nullify_self hhandle] at h
    cases h
  · by_cases hlost : r = .handle ∧ (r' = .name ∨ r' = .area)
    · rcases hlost with ⟨rfl, rfl | rfl⟩
      · cases h
      · cases h
    · rwa [ptr_nullify_of_ne heq] at h
      intro hr
      exact ⟨fun hr' => hlost ⟨hr, Or.inl hr'⟩, fun hr' => hlost ⟨hr, Or.inr hr'⟩⟩

/-! ## Statements of a sound clean-up -/

/-- The pointers that are known not to be null before a statement. -/
def holds : Point → List Resource
  | .markCtxt | .freeCtxt => [.ctxt]
  | .markQueue | .removeName | .clearName | .freeArea | .clearArea | .freeHandle => [.handle]
  | .freeName => [.handle, .name]
  | .freeBuffer | .clearBuffer | .closeCtxt | .clearCtxt | .closeQueue | .clearHandle | .unlinkPid
  | .closeLog | .clearLog | .finished => []

/-- No failed system call takes `queue_close` past the freed part of the handle. -/
def Exposed (m : Memory) : Resource → Prop
  | .name => ∃ q, m.handle = some q ∧ q.Detached
  | .area => ∃ q, m.handle = some q ∧ q.Detached ∧ q.filename = none
  | .buffer | .ctxt | .handle | .log => True

/-- How far `queue_close` has come with the handle. -/
def Closing (m : Memory) : Point → Prop
  | .removeName | .freeName | .clearName => Exposed m .name
  | .freeArea | .clearArea => Exposed m .area
  | .freeHandle => m.ptr .name = none ∧ m.ptr .area = none
  | .freeBuffer | .clearBuffer | .closeCtxt | .markCtxt | .freeCtxt | .clearCtxt | .closeQueue
  | .markQueue | .clearHandle | .unlinkPid | .closeLog | .clearLog | .finished => True

/-- Every pointer is null or leads to a live block of its kind, except the one that is cleared
next. -/
structure Sound (pt : Point) (m : Memory) : Prop where
  live : ∀ r, pt ≠ clearAt r → Live m r
  dangling : ∀ r, pt = clearAt r → Dangling m r
  held : ∀ r ∈ holds pt, m.ptr r ≠ none
  closing : Closing m pt

lemma Exposed.agrees {r : Resource} (h : Exposed m r) (hagrees : Agrees m m') : Exposed m' r := by
  cases r with
  | buffer | ctxt | handle | log => trivial
  | name =>
    rcases h with ⟨q, hq, hdet⟩
    rcases hagrees.detached q hq hdet with ⟨q', hq', hdet', -⟩
    exact ⟨q', hq', hdet'⟩
  | area =>
    rcases h with ⟨q, hq, hdet, hname⟩
    rcases hagrees.detached q hq hdet with ⟨q', hq', hdet', hname'⟩
    exact ⟨q', hq', hdet', hname'.trans hname⟩

lemma Exposed.drop {r : Resource} {a : Nat} (h : Exposed m r) (hne : m.queue ≠ some a) :
    Exposed { m with heap := m.heap.drop a } r := by
  cases r with
  | name | area => simpa only [Exposed, handle_drop a hne] using h
  | buffer | ctxt | handle | log => trivial

/-- Once its name is gone, the handle's buffer is next. -/
lemma Exposed.nameless (h : Exposed m .name) (hname : m.ptr .name = none) : Exposed m .area := by
  rcases h with ⟨q, hq, hdet⟩
  refine ⟨q, hq, hdet, ?_⟩
  simpa [Memory.ptr, hq] using hname

lemma Exposed.nullify (h : Exposed m .name) : Exposed (m.nullify .name) .area := by
  rcases h with ⟨q, hq, hdet⟩
  have hnull : (m.nullify .name).handle = some { q with filename := none } := by
    simp only [Memory.nullify, hq, handle_setHandle hq]
  refine ⟨_, hnull, ?_, rfl⟩
  rcases q with ⟨fields, filename, buffer⟩
  cases fields with
  | posix mq attr => exact hdet
  | systemv qid size => exact Or.inr rfl

lemma Exposed.ptr_name (h : Exposed m .area) : m.ptr .name = none := by
  rcases h with ⟨q, hq, -, hname⟩
  simp [Memory.ptr, hq, hname]

lemma Agrees.detach {q : HandleBlock} (h : m.handle = some q) :
    Agrees m (m.setHandle { q with fields := q.fields.detach }) :=
  Agrees.setHandle h rfl rfl fun _ => q.detached_detach

lemma clearAt_injective : Function.Injective clearAt := by
  intro r r' h
  cases r <;> cases r' <;> first | rfl | cases h

lemma Pass.ne_clearAt (h : Pass m pt pt') (r : Resource) : pt ≠ clearAt r := by
  cases h <;> cases r <;> simp [clearAt]

lemma Sound.typed (h : Sound pt m) : Typed m := by
  intro r a b ha hb
  by_cases hpt : pt = clearAt r
  · rcases h.dangling r hpt with ⟨a', ha', hdead⟩
    rw [ha] at ha'
    cases ha'
    rw [hb] at hdead
    cases hdead
  · rcases h.live r hpt a ha with ⟨b', hb', hkind⟩
    rw [hb] at hb'
    cases hb'
    exact hkind

lemma ptr_handle_ne_none {q : HandleBlock} (h : m.handle = some q) : m.ptr .handle ≠ none := by
  rcases handle_eq_some.1 h with ⟨a, hqueue, -⟩
  simp [Memory.ptr, hqueue]

lemma ptr_handle_of_name {a : Nat} (h : m.ptr .name = some a) : m.ptr .handle ≠ none := by
  rcases Option.bind_eq_some_iff.1 h with ⟨q, hq, -⟩
  exact ptr_handle_ne_none hq

/-- A step to a statement that relies on a pointer has tested the pointer. -/
lemma Pass.holds (hpass : Pass m pt pt') (hheld : ∀ r ∈ holds pt, m.ptr r ≠ none) :
    ∀ r ∈ Teardown.holds pt', m.ptr r ≠ none := by
  cases hpass with
  | ctxt h | closeDevice h | markCtxt h => simp [Teardown.holds, h]
  | called h | uncalled h _ | nameless h _ | noArea h _ =>
    simpa [Teardown.holds] using ptr_handle_ne_none h
  | removed h _ => simpa [Teardown.holds, h] using ptr_handle_of_name h
  | nullName h => exact fun r hr => hheld r (List.mem_cons.2 (Or.inl (by simpa [Teardown.holds] using hr)))
  | noBuffer _ | noCtxt _ | nullCtxt _ | noQueue _ | refused _ _ | kept _ _ | nullHandle _
  | unlinkPid | noLog _ | ended => simp [Teardown.holds]

lemma Sound.pass (h : Sound pt m) (hpass : Pass m pt pt') (hagrees : Agrees m m') :
    Sound pt' m' := by
  refine ⟨fun r _ => ?_, fun r hr => ?_, fun r hr => ?_, ?_⟩
  · exact (h.live r (hpass.ne_clearAt r)).mono (fun a ha => (hagrees.ptr r).symm.trans ha)
      hagrees.cells
  · -- `free` of a null pointer does not happen
    cases hpass with
    | nullCtxt hnull => exact absurd hnull (h.held .ctxt (by simp [Teardown.holds]))
    | nullName hnull => exact absurd hnull (h.held .name (by simp [Teardown.holds]))
    | nullHandle hnull => exact absurd hnull (h.held .handle (by simp [Teardown.holds]))
    | noBuffer _ | noCtxt _ | ctxt _ | closeDevice _ | markCtxt _ | noQueue _ | refused _ _
    | called _ | uncalled _ _ | nameless _ _ | kept _ _ | removed _ _ | noArea _ _
    | unlinkPid | noLog _ | ended => cases r <;> cases hr
  · rw [hagrees.ptr r]
    exact hpass.holds h.held r hr
  · cases hpass with
    | uncalled hq hdet => exact Exposed.agrees (r := .name) ⟨_, hq, hdet⟩ hagrees
    | removed _ _ => exact Exposed.agrees (r := .name) h.closing hagrees
    | nameless _ hname => exact Exposed.agrees (Exposed.nameless h.closing hname) hagrees
    | nullName hnull => exact absurd hnull (h.held .name (by simp [Teardown.holds]))
    | noArea _ harea =>
      exact ⟨(hagrees.ptr .name).trans (Exposed.ptr_name h.closing), (hagrees.ptr .area).trans harea⟩
    | noBuffer _ | noCtxt _ | ctxt _ | closeDevice _ | markCtxt _ | nullCtxt _ | noQueue _
    | refused _ _ | called _ | kept _ _ | nullHandle _ | unlinkPid | noLog _ | ended => trivial

/-- The handle is a block of its own. -/
lemma Typed.queue_ne {r : Resource} {a : Nat} {b : Block} (h : Typed m) (hptr : m.ptr r = some a)
    (hcell : m.heap.cells a = some b) (hne : r ≠ .handle) : m.queue ≠ some a := by
  intro hqueue
  exact hne ((h r a b hptr hcell).symm.trans (h .handle a b hqueue hcell))

/-- What was freed is still pointed to. -/
lemma Typed.dangling_drop {r : Resource} {a : Nat} {b : Block} (h : Typed m)
    (hptr : m.ptr r = some a) (hcell : m.heap.cells a = some b) :
    Dangling { m with heap := m.heap.drop a } r := by
  refine ⟨a, ?_, Heap.cells_drop_self m.heap a⟩
  by_cases hr : r = .handle
  · subst hr
    exact hptr
  · rw [ptr_drop a (h.queue_ne hptr hcell hr), hptr]

lemma Sound.free {r : Resource} {a : Nat} {b : Block} (h : Sound (freeAt r) m)
    (hptr : m.ptr r = some a) (hcell : m.heap.cells a = some b) :
    Sound (clearAt r) { m with heap := m.heap.drop a } := by
  have hkind : b.resource = r := h.typed r a b hptr hcell
  have hfree : ∀ r', freeAt r ≠ clearAt r' := by
    intro r'
    cases r <;> cases r' <;> simp [freeAt, clearAt]
  refine ⟨fun r' hr' => ?_, fun r' hr' => ?_, fun r' hr' => ?_, ?_⟩
  · have hne : r' ≠ r := fun heq => hr' (by rw [heq])
    exact (h.live r' (hfree r')).drop hcell hkind hne
  · cases clearAt_injective hr'
    exact h.typed.dangling_drop hptr hcell
  · -- only the handle is relied on here, and `queue` still points to it
    have hhandle : r' = .handle ∧ .handle ∈ holds (freeAt r) := by
      cases r <;> simp_all [holds, clearAt, freeAt]
    rw [hhandle.1]
    exact h.held .handle hhandle.2
  · cases r with
    | name =>
      exact Exposed.drop (r := .name) h.closing (h.typed.queue_ne hptr hcell (by decide))
    | area =>
      exact Exposed.drop (r := .area) h.closing (h.typed.queue_ne hptr hcell (by decide))
    | buffer | ctxt | handle | log => trivial

lemma Sound.clear {r : Resource} (h : Sound (clearAt r) m)
    (hhandle : r = .name ∨ r = .area → m.handle ≠ none) :
    Sound (afterClear r) (m.nullify r) := by
  have hafter : ∀ r', afterClear r ≠ clearAt r' := by
    intro r'
    cases r <;> cases r' <;> simp [afterClear, clearAt]
  refine ⟨fun r' _ => ?_, fun r' hr' => absurd hr' (hafter r'), fun r' hr' => ?_, ?_⟩
  · by_cases heq : r' = r
    · subst heq
      intro a ha
      rw [ptr_nullify_self hhandle] at ha
      cases ha
    · have hlive := h.live r' fun hr' => heq (clearAt_injective hr').symm
      exact hlive.mono (fun a => ptr_of_ptr_nullify hhandle) (resource_nullify r)
  · have hheld : r' = .handle ∧ r ≠ .handle ∧ .handle ∈ holds (clearAt r) := by
      cases r <;> simp_all [holds, clearAt, afterClear]
    rw [hheld.1, ptr_nullify_of_ne (Ne.symm hheld.2.1) fun hr => absurd hr hheld.2.1]
    exact h.held .handle hheld.2.2
  · cases r with
    | name => exact Exposed.nullify h.closing
    | area =>
      refine ⟨?_, ptr_nullify_self hhandle⟩
      rw [ptr_nullify_of_ne (by decide) (by decide)]
      exact Exposed.ptr_name h.closing
    | buffer | ctxt | handle | log => trivial

lemma Sound.detach {q : HandleBlock} (h : Sound .markQueue m) (hq : m.handle = some q) :
    Sound .removeName (m.setHandle { q with fields := q.fields.detach }) := by
  have hagrees := Agrees.detach hq
  refine ⟨fun r _ => ?_, fun r hr => ?_, fun r hr => ?_, ?_⟩
  · have hpt : Point.markQueue ≠ clearAt r := by cases r <;> decide
    exact (h.live r hpt).mono (fun a ha => (hagrees.ptr r).symm.trans ha) hagrees.cells
  · cases r <;> cases hr
  · rw [hagrees.ptr r]
    exact h.held r hr
  · exact ⟨_, handle_setHandle hq, q.detached_detach⟩

/-- A statement of a sound clean-up leaves it sound. -/
lemma Sound.effect (h : Sound pt m) (heffect : Effect m pt pt' m') : Sound pt' m' := by
  cases heffect with
  | pass hpass hagrees => exact h.pass hpass hagrees
  | free hptr hcell => exact h.free hptr hcell
  | clear hhandle => exact h.clear hhandle
  | detach hq => exact h.detach hq

/-! ## A sound clean-up does not fault -/

lemma Live.handle_eq (h : Live m .handle) (hne : m.ptr .handle ≠ none) :
    ∃ a q, loadHandle m = .ok (a, q) ∧ m.handle = some q ∧ m.heap.cells a = some (.handle q) := by
  rcases Option.ne_none_iff_exists'.1 hne with ⟨a, ha⟩
  rcases h a ha with ⟨b, hcell, hkind⟩
  cases b with
  | handle q =>
    have hq := handle_of_cells ha hcell
    rcases loadHandle_of_handle hq with ⟨a', hload, hqueue, hcell'⟩
    exact ⟨a', q, hload, hq, hcell'⟩
  | message _ | context _ | name _ | area _ | stream _ => cases hkind

lemma Live.warn_ok (h : Live m .log) : ∃ m', warn m = .ok m' := by
  unfold warn
  split
  · exact ⟨_, rfl⟩
  · exact ⟨_, rfl⟩
  · rename_i a herr
    rcases h a (by simp [Memory.ptr, herr]) with ⟨b, hcell, -⟩
    exact ⟨m, by simp [Heap.load_of_live hcell, ok_bind, pure_eq_ok]⟩

lemma Live.free_ok {r : Resource} {a : Nat} (h : Live m r) (hptr : m.ptr r = some a) :
    m.heap.free a = .ok (m.heap.drop a) := by
  rcases h a hptr with ⟨b, hcell, -⟩
  exact Heap.free_of_live hcell

lemma Live.context {a : Nat} (h : Live m .ctxt) (hptr : m.ctxt = some a) :
    ∃ fd, m.heap.cells a = some (.context fd) := by
  rcases h a hptr with ⟨b, hcell, hkind⟩
  cases b with
  | context fd => exact ⟨fd, hcell⟩
  | message _ | handle _ | name _ | area _ | stream _ => cases hkind

lemma Live.stream {a : Nat} (h : Live m .log) (hptr : m.errFile = some (.file a)) :
    ∃ fd, m.heap.cells a = some (.stream fd) := by
  rcases h a (by simp [Memory.ptr, hptr]) with ⟨b, hcell, hkind⟩
  cases b with
  | stream fd => exact ⟨fd, hcell⟩
  | message _ | context _ | handle _ | name _ | area _ => cases hkind

lemma Live.name {q : HandleBlock} {f : Nat} (h : Live m .name) (hq : m.handle = some q)
    (hname : q.filename = some f) : ∃ text, m.heap.cells f = some (.name text) := by
  rcases h f (by simp [Memory.ptr, hq, hname]) with ⟨b, hcell, hkind⟩
  cases b with
  | name text => exact ⟨text, hcell⟩
  | message _ | context _ | handle _ | area _ | stream _ => cases hkind

/-- The statements of `queue_close` do not fault on a sound handle. -/
lemma progress_queue {a : Nat} {q : HandleBlock} (p : Proc) (e : Ending)
    (hload : loadHandle m = .ok (a, q)) (hq : m.handle = some q)
    (hcell : m.heap.cells a = some (.handle q)) (hname : pt ≠ .clearName → Live m .name)
    (harea : pt ≠ .clearArea → Live m .area)
    (hpt : pt ∈ [.markQueue, .removeName, .freeName, .clearName, .freeArea, .clearArea]) :
    ∃ c, step p e pt m = .ok c := by
  simp only [List.mem_cons, List.not_mem_nil, or_false] at hpt
  rcases hpt with rfl | rfl | rfl | rfl | rfl | rfl
  · simp only [step, hload, ok_bind, Heap.store_of_live hcell, pure_eq_ok]
    exact ⟨_, rfl⟩
  · simp only [step, hload, ok_bind, pure_eq_ok]
    split
    · exact ⟨_, rfl⟩
    · rename_i f hf
      rcases (hname (by decide)).name hq hf with ⟨text, htext⟩
      simp only [Heap.load_of_live htext, ok_bind]
      split
      · exact ⟨_, rfl⟩
      · exact ⟨_, rfl⟩
  · simp only [step, hload, ok_bind, pure_eq_ok]
    split
    · exact ⟨_, rfl⟩
    · rename_i f hf
      rw [(hname (by decide)).free_ok (a := f) (by simp [Memory.ptr, hq, hf])]
      exact ⟨_, rfl⟩
  · simp only [step, hload, ok_bind, Heap.store_of_live hcell, pure_eq_ok]
    exact ⟨_, rfl⟩
  · simp only [step, hload, ok_bind, pure_eq_ok]
    split
    · exact ⟨_, rfl⟩
    · rename_i f hf
      rw [(harea (by decide)).free_ok (a := f) (by simp [Memory.ptr, hq, hf])]
      exact ⟨_, rfl⟩
  · simp only [step, hload, ok_bind, Heap.store_of_live hcell, pure_eq_ok]
    exact ⟨_, rfl⟩

/-- The statements on the engine's context do not fault on a sound context. -/
lemma progress_ctxt (p : Proc) (e : Ending) (hctxt : Live m .ctxt) (hlog : Live m .log)
    (hheld : pt = .markCtxt → m.ctxt ≠ none) (hpt : pt ∈ [.closeCtxt, .markCtxt, .freeCtxt]) :
    ∃ c, step p e pt m = .ok c := by
  simp only [List.mem_cons, List.not_mem_nil, or_false] at hpt
  rcases hpt with rfl | rfl | rfl
  · simp only [step]
    split
    · exact ⟨_, rfl⟩
    · rename_i a hptr
      rcases hctxt.context hptr with ⟨fd, hcell⟩
      split
      · rw [Heap.load_of_live hcell, ok_bind]
        cases fd with
        | none => exact ⟨_, rfl⟩
        | some fd =>
          dsimp only
          split
          · exact ⟨_, rfl⟩
          · rcases hlog.warn_ok with ⟨m', hm'⟩
            rw [hm', ok_bind]
            exact ⟨_, rfl⟩
      · exact ⟨_, rfl⟩
  · simp only [step]
    split
    · rename_i hnull
      exact absurd hnull (hheld rfl)
    · rename_i a hptr
      rcases hctxt.context hptr with ⟨fd, hcell⟩
      simp only [Heap.load_of_live hcell, ok_bind, Heap.store_of_live hcell, pure_eq_ok]
      exact ⟨_, rfl⟩
  · simp only [step]
    split
    · exact ⟨_, rfl⟩
    · rename_i a hptr
      rw [hctxt.free_ok (a := a) hptr]
      exact ⟨_, rfl⟩

/-- A statement of a sound clean-up does not fault. -/
lemma Sound.progress (p : Proc) (e : Ending) (h : Sound pt m) :
    ∃ c, step p e pt m = .ok c := by
  cases pt with
  | clearBuffer | clearCtxt | clearHandle | clearLog | finished => exact ⟨_, rfl⟩
  | closeCtxt | freeCtxt =>
    exact progress_ctxt p e (h.live .ctxt (by decide)) (h.live .log (by decide)) (by simp) (by simp)
  | markCtxt =>
    exact progress_ctxt p e (h.live .ctxt (by decide)) (h.live .log (by decide))
      (fun _ => h.held .ctxt (by simp [holds])) (by simp)
  | markQueue | removeName | freeName | freeArea | clearName | clearArea =>
    rcases (h.live .handle (by decide)).handle_eq (h.held .handle (by simp [holds])) with
      ⟨a, q, hload, hq, hcell⟩
    exact progress_queue p e hload hq hcell (h.live .name) (h.live .area) (by simp)
  | freeBuffer =>
    simp only [step]
    split
    · exact ⟨_, rfl⟩
    · rename_i a hptr
      rw [(h.live .buffer (by decide)).free_ok (a := a) hptr]
      exact ⟨_, rfl⟩
  | closeQueue =>
    simp only [step]
    split
    · exact ⟨_, rfl⟩
    · rename_i a hptr
      rcases (h.live .handle (by decide)).handle_eq (by simp [Memory.ptr, hptr]) with
        ⟨a', q, hload, -, -⟩
      rw [hload, ok_bind]
      dsimp only
      split
      · exact ⟨_, rfl⟩
      · exact ⟨_, rfl⟩
      · exact ⟨_, rfl⟩
  | freeHandle =>
    simp only [step]
    split
    · exact ⟨_, rfl⟩
    · rename_i a hptr
      rw [(h.live .handle (by decide)).free_ok (a := a) hptr]
      exact ⟨_, rfl⟩
  | unlinkPid =>
    simp only [step]
    split
    · exact ⟨_, rfl⟩
    · split
      · exact ⟨_, rfl⟩
      · rcases (h.live .log (by decide)).warn_ok with ⟨m', hm'⟩
        rw [hm', ok_bind]
        exact ⟨_, rfl⟩
  | closeLog =>
    simp only [step]
    split
    · exact ⟨_, rfl⟩
    · exact ⟨_, rfl⟩
    · rename_i a hptr
      rcases (h.live .log (by decide)).stream hptr with ⟨fd, hcell⟩
      rw [Heap.load_of_live hcell, ok_bind]
      dsimp only
      split
      · rw [Heap.free_of_live hcell]
        exact ⟨_, rfl⟩
      · exact ⟨_, rfl⟩

/-! ## A broken clean-up faults -/

/-- How many statements may still follow. -/
def rank : Point → Nat
  | .freeBuffer => 18
  | .clearBuffer => 17
  | .closeCtxt => 16
  | .markCtxt => 15
  | .freeCtxt => 14
  | .clearCtxt => 13
  | .closeQueue => 12
  | .markQueue => 11
  | .removeName => 10
  | .freeName => 9
  | .clearName => 8
  | .freeArea => 7
  | .clearArea => 6
  | .freeHandle => 5
  | .clearHandle => 4
  | .unlinkPid => 3
  | .closeLog => 2
  | .clearLog => 1
  | .finished => 0

/-- The statement at which a clean-up stumbles over a pointer to a freed block, at the latest. -/
def stumbles : Resource → Point
  | .buffer => .freeBuffer
  | .ctxt => .freeCtxt
  | .name => .removeName
  | .area => .freeArea
  | .handle => .closeQueue
  | .log => .closeLog

/-- A pointer leads to a freed block, and the clean-up is still to use it. -/
structure Broken (pt : Point) (m : Memory) : Prop where
  typed : Typed m
  ahead : ∃ r, Dangling m r ∧ Exposed m r ∧ rank (stumbles r) ≤ rank pt

lemma Effect.rank_le (h : Effect m pt pt' m') : rank pt' ≤ rank pt - 1 := by
  cases h with
  | pass hpass _ => cases hpass <;> decide
  | @free r => cases r <;> decide
  | @clear r => cases r <;> decide
  | detach => decide

lemma Typed.agrees (h : Typed m) (hagrees : Agrees m m') : Typed m' := by
  intro r a b ha hb
  have hkinds := hagrees.cells a
  rw [hb, Option.map_some] at hkinds
  rcases Option.map_eq_some_iff.1 hkinds.symm with ⟨b', hb', hkind⟩
  exact hkind.symm.trans (h r a b' ((hagrees.ptr r).symm.trans ha) hb')

/-- A step that frees nothing does not get past a freed block. -/
lemma Pass.ahead {r : Resource} (hpass : Pass m pt pt') (hdangling : Dangling m r)
    (hexposed : Exposed m r) (hrank : rank (stumbles r) ≤ rank pt) :
    rank (stumbles r) ≤ rank pt' := by
  by_contra hgt
  -- the resources whose turn it was, and the test that has found them in order
  have hnull : m.ptr r ≠ none := by
    rcases hdangling with ⟨a, ha, -⟩
    simp [ha]
  have hhandle : r = .handle → m.handle = none := by
    rintro rfl
    rcases hdangling with ⟨a, ha, hdead⟩
    cases hq : m.handle with
    | none => rfl
    | some q =>
      rcases handle_eq_some.1 hq with ⟨a', ha', hcell⟩
      cases ha.symm.trans ha'
      rw [hdead] at hcell
      cases hcell
  cases hpass with
  | noBuffer h | noCtxt h | nullCtxt h =>
    cases r with
    | buffer | ctxt => first | exact hnull h | exact hgt (by decide) | exact absurd hrank (by decide)
    | name | area | handle | log => exact hgt (by decide)
  | noQueue h =>
    have hq : m.handle = none := by
      simp only [Memory.ptr] at h
      simp [Memory.handle, h]
    cases r with
    | handle => exact hnull h
    | name =>
      rcases hexposed with ⟨q, hsome, -⟩
      simp [hq] at hsome
    | area =>
      rcases hexposed with ⟨q, hsome, -⟩
      simp [hq] at hsome
    | buffer | ctxt => exact absurd hrank (by decide)
    | log => exact hgt (by decide)
  | refused h hdet =>
    cases r with
    | handle => simp [hhandle rfl] at h
    | name =>
      rcases hexposed with ⟨q, hsome, hexp⟩
      cases h.symm.trans hsome
      exact hdet hexp
    | area =>
      rcases hexposed with ⟨q, hsome, hexp, -⟩
      cases h.symm.trans hsome
      exact hdet hexp
    | buffer | ctxt => exact absurd hrank (by decide)
    | log => exact hgt (by decide)
  | called h | uncalled h _ =>
    cases r with
    | handle => simp [hhandle rfl] at h
    | buffer | ctxt => exact absurd hrank (by decide)
    | name | area | log => exact hgt (by decide)
  | nameless h hname =>
    cases r with
    | name => exact hnull hname
    | buffer | ctxt | handle => exact absurd hrank (by decide)
    | area | log => exact hgt (by decide)
  | kept h hlive =>
    cases r with
    | name =>
      rcases hdangling with ⟨a, ha, hdead⟩
      cases ha.symm.trans h
      rw [hdead] at hlive
      cases hlive
    | area =>
      rcases hexposed with ⟨q, hsome, -, hname⟩
      simp [Memory.ptr, hsome, hname] at h
    | buffer | ctxt | handle => exact absurd hrank (by decide)
    | log => exact hgt (by decide)
  | removed h hlive =>
    cases r with
    | name =>
      rcases hdangling with ⟨a, ha, hdead⟩
      cases ha.symm.trans h
      rw [hdead] at hlive
      cases hlive
    | buffer | ctxt | handle => exact absurd hrank (by decide)
    | area | log => exact hgt (by decide)
  | noArea h harea =>
    cases r with
    | area => exact hnull harea
    | buffer | ctxt | name | handle => exact absurd hrank (by decide)
    | log => exact hgt (by decide)
  | noLog h =>
    cases r with
    | log => exact h hdangling
    | buffer | ctxt | name | area | handle => exact absurd hrank (by decide)
  | ctxt _ | closeDevice _ | markCtxt _ | nullName _ | nullHandle _ | unlinkPid
  | ended =>
    cases r <;> first | exact hgt (by decide) | exact absurd hrank (by decide)

lemma Broken.pass (h : Broken pt m) (hpass : Pass m pt pt') (hagrees : Agrees m m') :
    Broken pt' m' := by
  rcases h with ⟨htyped, r, hdangling, hexposed, hrank⟩
  refine ⟨htyped.agrees hagrees, r, ?_, hexposed.agrees hagrees, ?_⟩
  · exact hdangling.mono (hagrees.ptr r) fun a => hagrees.dead
  · exact hpass.ahead hdangling hexposed hrank

lemma Broken.free {r₀ : Resource} {a : Nat} {b : Block} (h : Broken (freeAt r₀) m)
    (hptr : m.ptr r₀ = some a) (hcell : m.heap.cells a = some b) :
    Broken (clearAt r₀) { m with heap := m.heap.drop a } := by
  rcases h with ⟨htyped, r, hdangling, hexposed, hrank⟩
  have hdead : ∀ a', m.heap.cells a' = none → (m.heap.drop a).cells a' = none := by
    intro a' ha'
    by_cases heq : a' = a
    · rw [heq, Heap.cells_drop_self]
    · rw [Heap.cells_drop_of_ne heq, ha']
  have hne : r ≠ r₀ := by
    rintro rfl
    rcases hdangling with ⟨a', ha', hdead'⟩
    cases hptr.symm.trans ha'
    rw [hcell] at hdead'
    cases hdead'
  -- the handle is freed last, after its parts
  have hparts : r₀ = .handle → r ≠ .name ∧ r ≠ .area := by
    rintro rfl
    constructor
    · rintro rfl
      exact absurd hrank (by decide)
    · rintro rfl
      exact absurd hrank (by decide)
  have hhandle : r = .name ∨ r = .area →
      ({ m with heap := m.heap.drop a } : Memory).handle = m.handle := by
    intro hr
    refine handle_drop a (htyped.queue_ne hptr hcell ?_)
    intro hr₀
    rcases hr with rfl | rfl
    · exact (hparts hr₀).1 rfl
    · exact (hparts hr₀).2 rfl
  refine ⟨?_, r, hdangling.mono ?_ hdead, ?_, ?_⟩
  · intro r' a' b' ha' hb'
    have hne' : a' ≠ a := by
      rintro rfl
      rw [Heap.cells_drop_self] at hb'
      cases hb'
    rw [Heap.cells_drop_of_ne hne'] at hb'
    exact htyped r' a' b' (ptr_of_ptr_drop ha') hb'
  · cases r with
    | name | area => simp only [Memory.ptr, hhandle (by simp)]
    | buffer | ctxt | handle | log => rfl
  · cases r with
    | name | area => simpa only [Exposed, hhandle (by simp)] using hexposed
    | buffer | ctxt | handle | log => trivial
  · cases r₀ <;> cases r <;>
      first | decide | exact absurd rfl hne | exact absurd hrank (by decide)

lemma Broken.clear {r₀ : Resource} (h : Broken (clearAt r₀) m)
    (hhandle : r₀ = .name ∨ r₀ = .area → m.handle ≠ none) :
    Broken (afterClear r₀) (m.nullify r₀) := by
  rcases h with ⟨htyped, r, hdangling, hexposed, hrank⟩
  have hne : r ≠ r₀ := by
    rintro rfl
    cases r <;> exact absurd hrank (by decide)
  have hparts : r₀ = .handle → r ≠ .name ∧ r ≠ .area := by
    rintro rfl
    constructor
    · rintro rfl
      exact absurd hrank (by decide)
    · rintro rfl
      exact absurd hrank (by decide)
  refine ⟨?_, r, hdangling.mono (ptr_nullify_of_ne hne hparts) fun a ha => ?_, ?_, ?_⟩
  · intro r' a b ha hb
    have hkinds := resource_nullify (m := m) r₀ a
    rw [hb, Option.map_some] at hkinds
    rcases Option.map_eq_some_iff.1 hkinds.symm with ⟨b', hb', hkind⟩
    exact hkind.symm.trans (htyped r' a b' (ptr_of_ptr_nullify hhandle ha) hb')
  · have hkinds := resource_nullify (m := m) r₀ a
    rw [ha] at hkinds
    simpa using hkinds
  · cases r with
    | buffer | ctxt | handle | log => trivial
    | name =>
      cases r₀ with
      | buffer | ctxt | log => exact hexposed
      | name => exact absurd rfl hne
      | handle | area => exact absurd hrank (by decide)
    | area =>
      cases r₀ with
      | buffer | ctxt | log => exact hexposed
      | area => exact absurd rfl hne
      | handle => exact absurd hrank (by decide)
      | name =>
        rcases hexposed with ⟨q, hq, hdet, -⟩
        exact Exposed.nullify ⟨q, hq, hdet⟩
  · cases r₀ <;> cases r <;>
      first | decide | exact absurd rfl hne | exact absurd hrank (by decide)

lemma Broken.detach {q : HandleBlock} (h : Broken .markQueue m) (hq : m.handle = some q) :
    Broken .removeName (m.setHandle { q with fields := q.fields.detach }) := by
  rcases h with ⟨htyped, r, hdangling, hexposed, hrank⟩
  have hagrees := Agrees.detach hq
  refine ⟨htyped.agrees hagrees, r, hdangling.mono (hagrees.ptr r) fun a => hagrees.dead,
    hexposed.agrees hagrees, ?_⟩
  cases r <;> first | decide | exact absurd hrank (by decide)

/-- No statement repairs a broken clean-up. -/
lemma Broken.effect (h : Broken pt m) (heffect : Effect m pt pt' m') : Broken pt' m' := by
  cases heffect with
  | pass hpass hagrees => exact h.pass hpass hagrees
  | free hptr hcell => exact h.free hptr hcell
  | clear hhandle => exact h.clear hhandle
  | detach hq => exact h.detach hq

/-- Broken states at the entry. -/
lemma Broken.again (h : Broken pt m) : Broken .freeBuffer m := by
  rcases h with ⟨htyped, r, hdangling, hexposed, -⟩
  refine ⟨htyped, r, hdangling, hexposed, ?_⟩
  cases r <;> decide

lemma Broken.rank_ne_zero (h : Broken pt m) : rank pt ≠ 0 := by
  rcases h with ⟨-, r, -, -, hrank⟩
  have hpos : 0 < rank (stumbles r) := by cases r <;> decide
  omega

end

/-! ## Nested clean-ups -/

/-- A pointer that was just freed is still to be made null. -/
def Freeing (pt : Point) : Prop := ∃ r, pt = clearAt r

/-- What a clean-up leaves that is cut off between a `free` and the assignment after it. -/
lemma Sound.broken {pt : Point} {m : Memory} (h : Sound pt m) (hpt : Freeing pt) :
    Broken .freeBuffer m := by
  rcases hpt with ⟨r, rfl⟩
  refine ⟨h.typed, r, h.dangling r rfl, ?_, ?_⟩
  · cases r with
    | name | area => exact h.closing
    | buffer | ctxt | handle | log => trivial
  · cases r <;> decide

/-- What a clean-up leaves that is cut off elsewhere. -/
lemma Sound.again {pt : Point} {m : Memory} (h : Sound pt m) (hpt : ¬ Freeing pt) :
    Sound .freeBuffer m := by
  refine ⟨fun r _ => h.live r fun hr => hpt ⟨r, hr⟩, fun r hr => ?_, by simp [holds], trivial⟩
  cases r <;> cases hr

lemma reentrant (p : Proc) : Reentrant (step p) .freeBuffer Freeing rank Sound Broken where
  sound := by
    intro e pt m h
    rcases h.progress p e with ⟨⟨pt', m'⟩, hstep⟩
    exact ⟨pt', m', hstep, h.effect (step_effect hstep)⟩
  again := fun _ _ h hpt => h.again hpt
  breaks := fun _ _ h hpt => h.broken hpt
  broken := fun _ _ _ _ _ h hstep => h.effect (step_effect hstep)
  stays := fun _ _ h => h.again
  rank_le := fun _ _ _ _ _ hstep => (step_effect hstep).rank_le
  rank_ne_zero := fun _ _ h => h.rank_ne_zero

lemma sound_start {m : Memory} (hm : ∀ r, Live m r) : Sound .freeBuffer m := by
  refine ⟨fun r _ => hm r, fun r hr => ?_, by simp [holds], trivial⟩
  cases r <;> cases hr

lemma nested_safe_iff (p : Proc) (cuts : List (Ending × Nat)) (e : Ending) {m : Memory}
    (hm : ∀ r, Live m r) :
    (∃ m', nested (step p) .freeBuffer (rank .freeBuffer) cuts e m = .ok (.finished, m')) ↔
      Avoids (step p) .freeBuffer Freeing cuts m := by
  rw [← (reentrant p).nested_ok_iff cuts e (sound_start hm)]
  constructor
  · rintro ⟨m', hrun⟩
    exact ⟨_, hrun⟩
  · rintro ⟨⟨pt', m'⟩, hrun⟩
    have hzero := nested_rank (reentrant p).rank_le hrun
    have hpt : pt' = .finished := by
      cases pt' <;> first | rfl | cases hzero
    exact ⟨m', by rw [hrun, hpt]⟩

end Teardown
end Daemon
end Banip
