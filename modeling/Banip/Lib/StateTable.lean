import Mathlib.Data.List.Basic

/-!
# StateTable — a packet filter that remembers connections

A stateful filter asks its rules about the first packet of a connection only: the connections it has
let in stay until they end or until someone kills them.  To shut out a set of sources therefore takes
two requests, one that changes the rules and one that kills the connections there are, and other
packets may come between the two.

`StateTable` is such a filter in its plainest form.  `run_block_kill` says that the order `block`,
`kill` makes up for that: whatever comes in between, the filter ends as if the two had been one.
`Shut` is what they leave behind for good, and `seen_run` says that a connection which neither request
is about does not notice them.

A `Filter` is one of which only the interface is known.  `Laws` are what is assumed of it, and
`Governs` that its rules refuse what is covered by an entry, which may be true of some connections
only.  `Filter.seen_run` says how much of such a filter a `StateTable` tells: all that concerns a
connection, if the rules govern it or no entry covers it.
-/

namespace Banip
namespace Lib

/-- Which sources the rules refuse, and the sources of the connections that are open. -/
structure StateTable (α : Type*) where
  refused : α → Bool
  states : List α

/-- What happens to a filter: a packet opens or ends a connection, or a request comes in. -/
inductive FilterEvent (α : Type*) where
  | opened (x : α)
  | closed (x : α)
  | block (p : α → Bool)
  | kill (p : α → Bool)

namespace FilterEvent

variable {α : Type*}

/-- The event is a packet. -/
def isPacket : FilterEvent α → Bool
  | .opened _ | .closed _ => true
  | .block _ | .kill _ => false

/-- The event is not a request about `x`. -/
def Spares (x : α) : FilterEvent α → Prop
  | .opened _ | .closed _ => True
  | .block p | .kill p => p x = false

end FilterEvent

namespace StateTable

variable {α : Type*} [DecidableEq α]

def step (t : StateTable α) : FilterEvent α → StateTable α
  | .opened x => if t.refused x then t else { t with states := t.states ++ [x] }
  | .closed x => { t with states := t.states.erase x }
  | .block p => { t with refused := fun x => t.refused x || p x }
  | .kill p => { t with states := t.states.filter fun x => !p x }

def run (t : StateTable α) (es : List (FilterEvent α)) : StateTable α := es.foldl step t

variable {t : StateTable α} {p : α → Bool} {x : α} {e : FilterEvent α}

@[simp] lemma run_nil (t : StateTable α) : t.run [] = t := rfl

@[simp] lemma run_cons (t : StateTable α) (e : FilterEvent α) (es : List (FilterEvent α)) :
    t.run (e :: es) = (t.step e).run es := rfl

@[simp] lemma run_append (t : StateTable α) (es es' : List (FilterEvent α)) :
    t.run (es ++ es') = (t.run es).run es' := List.foldl_append

/-! ## One instant -/

lemma refused_step (he : t.refused x = true) (e : FilterEvent α) : (t.step e).refused x = true := by
  cases e with
  | opened y =>
    simp only [step]
    split
    · exact he
    · exact he
  | closed y => exact he
  | block q => simp [step, he]
  | kill q => exact he

/-- A packet does not notice whether the connections of refused sources are killed before it or after
it. -/
lemma step_kill_comm (hp : ∀ x, p x = true → t.refused x = true) (he : e.isPacket = true) :
    (t.step e).step (.kill p) = (t.step (.kill p)).step e := by
  cases e with
  | opened x =>
    by_cases hx : t.refused x = true
    · simp [step, hx]
    · -- a connection that is let in is not one of those to be killed
      have hpx : p x = false := by
        by_contra h
        exact hx (hp x (by simpa using h))
      simp [step, hx, hpx]
  | closed x => simp only [step, List.erase_filter]
  | block q => cases he
  | kill q => cases he

lemma run_kill_comm (hp : ∀ x, p x = true → t.refused x = true) {es : List (FilterEvent α)}
    (hes : ∀ e ∈ es, e.isPacket = true) :
    (t.run es).step (.kill p) = (t.step (.kill p)).run es := by
  induction es generalizing t with
  | nil => rfl
  | cons e es ih =>
    have he : e.isPacket = true := hes e (by simp)
    rw [run_cons, run_cons, ← step_kill_comm hp he]
    exact ih (fun x hx => refused_step (hp x hx) e) fun e' he' => hes e' (List.mem_cons_of_mem _ he')

/-- The packets between `block` and `kill` might as well have come after both. -/
theorem run_block_kill (t : StateTable α) (p : α → Bool) {es : List (FilterEvent α)}
    (hes : ∀ e ∈ es, e.isPacket = true) :
    t.run (.block p :: es ++ [.kill p]) = t.run (.block p :: .kill p :: es) := by
  simp only [List.cons_append, run_cons, run_append, run_nil]
  refine run_kill_comm ?_ hes
  intro x hx
  simp [step, hx]

/-! ## What stays -/

/-- The sources in `p` are refused and have no connection. -/
structure Shut (p : α → Bool) (t : StateTable α) : Prop where
  refused : ∀ x, p x = true → t.refused x = true
  none : ∀ x ∈ t.states, p x = false

lemma Shut.step (h : Shut p t) (e : FilterEvent α) : Shut p (t.step e) := by
  refine ⟨fun x hx => refused_step (h.refused x hx) e, ?_⟩
  intro x hx
  cases e with
  | opened y =>
    simp only [StateTable.step] at hx
    split at hx
    · exact h.none x hx
    · rename_i hy
      rcases List.mem_append.1 hx with hold | hnew
      · exact h.none x hold
      · cases List.mem_singleton.1 hnew
        by_contra hpx
        exact hy (h.refused x (by simpa using hpx))
  | closed y => exact h.none x (List.mem_of_mem_erase hx)
  | block q => exact h.none x hx
  | kill q => exact h.none x (List.mem_filter.1 hx).1

lemma Shut.run (h : Shut p t) (es : List (FilterEvent α)) : Shut p (t.run es) := by
  induction es generalizing t with
  | nil => exact h
  | cons e es ih => exact ih (h.step e)

/-- A `block` and a `kill` shut the sources out for good. -/
theorem shut_of_block_kill (t : StateTable α) (p : α → Bool) (es : List (FilterEvent α)) :
    Shut p (t.run (.block p :: .kill p :: es)) := by
  have hnow : Shut p ((t.step (.block p)).step (.kill p)) := by
    constructor
    · intro x hx
      simp [StateTable.step, hx]
    · intro x hx
      simpa using (List.mem_filter.1 hx).2
  exact hnow.run es

/-! ## The others -/

/-- What a connection sees of the filter: whether it is refused, and how often it is open. -/
def seen (x : α) (t : StateTable α) : Bool × Nat := (t.refused x, t.states.count x)

/-- What a connection sees after an event depends on what it saw before. -/
lemma seen_step {t' : StateTable α} (h : seen x t = seen x t') (e : FilterEvent α) :
    seen x (t.step e) = seen x (t'.step e) := by
  simp only [seen, Prod.mk.injEq] at h ⊢
  rcases h with ⟨hrefused, hcount⟩
  cases e with
  | opened y =>
    by_cases hxy : y = x
    · subst hxy
      simp only [step, hrefused]
      split
      · exact ⟨hrefused, hcount⟩
      · exact ⟨hrefused, by simp [hcount]⟩
    · simp only [step]
      constructor
      · split <;> split <;> exact hrefused
      · split <;> split <;> simp [hcount, hxy]
  | closed y => simp [step, hrefused, List.count_erase, hcount]
  | block q => simp [step, hrefused, hcount]
  | kill q =>
    refine ⟨hrefused, ?_⟩
    simp only [step]
    cases hq : q x with
    -- all connections of `x` are killed, or none
    | true => simp [List.count_eq_zero.2, hq]
    | false => rw [List.count_filter (by simp [hq]), List.count_filter (by simp [hq]), hcount]

lemma seen_step_request (he : e.isPacket = false) (hx : e.Spares x) :
    seen x (t.step e) = seen x t := by
  cases e with
  | opened y => cases he
  | closed y => cases he
  | block q =>
    have hq : q x = false := hx
    simp [seen, step, hq]
  | kill q =>
    have hq : q x = false := hx
    simp [seen, step, List.count_filter, hq]

/-- A connection that no request is about sees the filter as if there had been packets only. -/
theorem seen_run {es : List (FilterEvent α)} (hes : ∀ e ∈ es, e.Spares x) (t : StateTable α) :
    seen x (t.run es) = seen x (t.run (es.filter FilterEvent.isPacket)) := by
  suffices h : ∀ t t' : StateTable α, seen x t = seen x t' →
      seen x (t.run es) = seen x (t'.run (es.filter FilterEvent.isPacket)) from h t t rfl
  induction es with
  | nil => exact fun t t' h => h
  | cons e es ih =>
    intro t t' h
    have hrest : ∀ e' ∈ es, e'.Spares x := fun e' he' => hes e' (List.mem_cons_of_mem _ he')
    cases he : e.isPacket with
    | true =>
      rw [List.filter_cons_of_pos he]
      exact ih hrest _ _ (seen_step h e)
    | false =>
      rw [List.filter_cons_of_neg (by simp [he])]
      exact ih hrest _ _ ((seen_step_request he (hes e (by simp))).trans h)

/-- A connection that is shut out sees that it is refused, and nothing else. -/
lemma Shut.seen (h : Shut p t) (hx : p x = true) : t.seen x = (true, 0) := by
  have hnot : x ∉ t.states := by
    intro hmem
    cases (h.none x hmem).symm.trans hx
  simp [StateTable.seen, h.refused x hx, List.count_eq_zero.2 hnot]

end StateTable

/-! ## Filters of which only the interface is known -/

/-- A filter in one of the states `κ` that it can come to, with connections `α`.  Its rules look at
entries `β`, which are added, and connections are killed by requests `γ`. -/
structure Filter (κ α β γ : Type*) where
  /-- A packet that asks for the connection is let in. -/
  admits : κ → α → Bool
  /-- The connections that are open. -/
  states : κ → List α
  opened : κ → α → κ
  closed : κ → α → κ
  add : κ → β → κ
  kill : κ → γ → κ

/-- What is done to a filter. -/
inductive FilterCall (α β γ : Type*) where
  | opened (x : α)
  | closed (x : α)
  | add (b : β)
  | kill (g : γ)

namespace FilterCall

variable {α β γ : Type*}

def isPacket : FilterCall α β γ → Bool
  | .opened _ | .closed _ => true
  | .add _ | .kill _ => false

/-- The call as an event of a state table. -/
def event (covers : β → α → Bool) (hits : γ → α → Bool) : FilterCall α β γ → FilterEvent α
  | .opened x => .opened x
  | .closed x => .closed x
  | .add b => .block (covers b)
  | .kill g => .kill (hits g)

@[simp] lemma isPacket_event (covers : β → α → Bool) (hits : γ → α → Bool) (c : FilterCall α β γ) :
    (c.event covers hits).isPacket = c.isPacket := by
  cases c <;> rfl

end FilterCall

namespace Filter

variable {κ α β γ : Type*}

def step (F : Filter κ α β γ) (k : κ) : FilterCall α β γ → κ
  | .opened x => F.opened k x
  | .closed x => F.closed k x
  | .add b => F.add k b
  | .kill g => F.kill k g

def run (F : Filter κ α β γ) (k : κ) (cs : List (FilterCall α β γ)) : κ := cs.foldl F.step k

/-- What the filter shows of itself. -/
def view (F : Filter κ α β γ) (k : κ) : StateTable α := ⟨fun x => !F.admits k x, F.states k⟩

variable [DecidableEq α] (F : Filter κ α β γ) (covers : β → α → Bool) (hits : γ → α → Bool)

/-- What is assumed of a filter. -/
structure Laws : Prop where
  /-- A connection that is let in is remembered. -/
  states_opened : ∀ k x, F.states (F.opened k x) =
    if F.admits k x then F.states k ++ [x] else F.states k
  states_closed : ∀ k x, F.states (F.closed k x) = (F.states k).erase x
  /-- Rules are asked about new connections only. -/
  states_add : ∀ k b, F.states (F.add k b) = F.states k
  states_kill : ∀ k g, F.states (F.kill k g) = (F.states k).filter fun x => !hits g x
  /-- Packets do not change the verdicts.  This is not so with rules that count connections. -/
  admits_opened : ∀ k x y, F.admits (F.opened k x) y = F.admits k y
  admits_closed : ∀ k x y, F.admits (F.closed k x) y = F.admits k y
  admits_kill : ∀ k g y, F.admits (F.kill k g) y = F.admits k y
  /-- An entry does not matter to the connections that it does not cover. -/
  admits_add : ∀ k b y, covers b y = false → F.admits (F.add k b) y = F.admits k y

/-- The connection is refused once an entry covers it, of those that `about` singles out.  This is not
so if an earlier rule lets the connection in, if a more special entry makes an exception of it, or if
no rule looks at these entries. -/
def Governs (about : β → Prop) (x : α) : Prop :=
  ∀ k b, about b → covers b x = true → F.admits (F.add k b) x = false

variable {F covers hits}

/-- The view follows a call, as far as a connection sees it. -/
lemma Laws.seen_step (hF : F.Laws covers hits) {x : α} {c : FilterCall α β γ}
    (hc : ∀ b, c = .add b → covers b x = true → ∀ k, F.admits (F.add k b) x = false) (k : κ) :
    (F.view (F.step k c)).seen x = ((F.view k).step (c.event covers hits)).seen x := by
  cases c with
  | opened y =>
    cases hy : F.admits k y <;>
      simp [step, view, StateTable.seen, StateTable.step, FilterCall.event, hF.states_opened,
        hF.admits_opened, hy]
  | closed y =>
    simp [step, view, StateTable.seen, StateTable.step, FilterCall.event, hF.states_closed,
      hF.admits_closed]
  | add b =>
    cases hb : covers b x with
    | false =>
      simp [step, view, StateTable.seen, StateTable.step, FilterCall.event, hF.states_add,
        hF.admits_add k b x hb, hb]
    | true =>
      simp [step, view, StateTable.seen, StateTable.step, FilterCall.event, hF.states_add,
        hc b rfl hb k, hb]
  | kill g =>
    simp [step, view, StateTable.seen, StateTable.step, FilterCall.event, hF.states_kill,
      hF.admits_kill]

/-- A connection sees of a filter what it sees of a state table. -/
theorem Laws.seen_run (hF : F.Laws covers hits) {x : α} {cs : List (FilterCall α β γ)}
    (hcs : ∀ b, .add b ∈ cs → covers b x = true → ∀ k, F.admits (F.add k b) x = false) (k : κ) :
    (F.view (F.run k cs)).seen x =
      ((F.view k).run (cs.map (FilterCall.event covers hits))).seen x := by
  -- the view of the filter and the state table drift apart, but `x` does not see it
  suffices h : ∀ (k : κ) (t : StateTable α), (F.view k).seen x = t.seen x →
      (F.view (F.run k cs)).seen x =
        (t.run (cs.map (FilterCall.event covers hits))).seen x from h k _ rfl
  induction cs with
  | nil => exact fun k t h => h
  | cons c cs ih =>
    intro k t h
    refine ih (fun b hb => hcs b (List.mem_cons_of_mem _ hb)) _ _ ?_
    rw [hF.seen_step (fun b hb => hcs b (by simp [hb])) k]
    exact StateTable.seen_step h _

end Filter

end Lib
end Banip
