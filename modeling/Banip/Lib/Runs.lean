import Mathlib.Logic.Basic

/-!
# Runs — executions of a machine whose steps may fault

A machine is a function `step : S → A → Except F S`; a run is a list of actions.  `exec` runs the
machine and stops at the first fault, `Along` says that every step of a run meets a condition on the
state before it, and the rules below turn facts about one step into facts about whole runs.
-/

namespace Banip
namespace Lib

universe u v w

variable {S : Type u} {A : Type v} {F : Type w} (step : S → A → Except F S)

/-- Run the machine from `s`. -/
def exec : S → List A → Except F S
  | s, [] => .ok s
  | s, a :: as =>
      match step s a with
      | .ok s' => exec s' as
      | .error f => .error f

/-- Every step of the run that is taken meets `P`. -/
def Along (P : S → A → Prop) : S → List A → Prop
  | _, [] => True
  | s, a :: as => P s a ∧ ∀ s', step s a = .ok s' → Along P s' as

variable {step}

@[simp] lemma exec_nil (s : S) : exec step s [] = .ok s := rfl

lemma exec_cons_ok {s t : S} {a : A} {as : List A} :
    exec step s (a :: as) = .ok t ↔ ∃ s', step s a = .ok s' ∧ exec step s' as = .ok t := by
  cases h : step s a with
  | ok s' => simp [exec, h]
  | error f => simp [exec, h]

lemma exec_append_ok {s t : S} {as bs : List A} :
    exec step s (as ++ bs) = .ok t ↔ ∃ s', exec step s as = .ok s' ∧ exec step s' bs = .ok t := by
  induction as generalizing s with
  | nil => simp
  | cons a as ih =>
    simp only [List.cons_append, exec_cons_ok, ih]
    constructor
    · rintro ⟨s₁, h₁, s₂, h₂, h₃⟩
      exact ⟨s₂, ⟨s₁, h₁, h₂⟩, h₃⟩
    · rintro ⟨s₂, ⟨s₁, h₁, h₂⟩, h₃⟩
      exact ⟨s₁, h₁, s₂, h₂, h₃⟩

lemma exec_append (s : S) (as bs : List A) :
    exec step s (as ++ bs) = (exec step s as).bind fun t => exec step t bs := by
  induction as generalizing s with
  | nil => rfl
  | cons a as ih =>
    cases h : step s a with
    | ok s' => simpa [exec, h] using ih s'
    | error f => simp [exec, h, Except.bind]

/-- A condition on the actions alone holds along every run of such actions. -/
lemma along_of_forall {Q : A → Prop} {s : S} {as : List A} (h : ∀ a ∈ as, Q a) :
    Along step (fun _ a => Q a) s as := by
  induction as generalizing s with
  | nil => trivial
  | cons a as ih =>
    exact ⟨h a (by simp), fun s' _ => ih (fun b hb => h b (List.mem_cons_of_mem _ hb))⟩

/-- What every step that meets `P` preserves holds at the end of every run whose steps meet `P`. -/
theorem exec_preserves_along {P : S → A → Prop} {Inv : S → Prop}
    (hstep : ∀ s a s', Inv s → P s a → step s a = .ok s' → Inv s') {s t : S} {as : List A}
    (hs : Inv s) (hP : Along step P s as) (hrun : exec step s as = .ok t) : Inv t := by
  induction as generalizing s with
  | nil =>
    cases hrun
    exact hs
  | cons a as ih =>
    rcases exec_cons_ok.1 hrun with ⟨s', hs', hrest⟩
    exact ih (hstep s a s' hs hP.1 hs') (hP.2 s' hs') hrest

/-- What every step preserves holds at the end of every run. -/
theorem exec_preserves {Inv : S → Prop}
    (hstep : ∀ s a s', Inv s → step s a = .ok s' → Inv s') {s t : S} {as : List A} (hs : Inv s)
    (hrun : exec step s as = .ok t) : Inv t := by
  have hfree : Along step (fun _ _ => True) s as := along_of_forall fun _ _ => trivial
  exact exec_preserves_along (fun s a s' hinv _ h => hstep s a s' hinv h) hs hfree hrun

/-- Steps that meet `P` and cannot fault from `Inv` make runs that cannot fault. -/
theorem exec_total {P : S → A → Prop} {Inv : S → Prop}
    (hstep : ∀ s a, Inv s → P s a → ∃ s', step s a = .ok s' ∧ Inv s') {s : S} {as : List A}
    (hs : Inv s) (hP : Along step P s as) : ∃ t, exec step s as = .ok t ∧ Inv t := by
  induction as generalizing s with
  | nil => exact ⟨s, rfl, hs⟩
  | cons a as ih =>
    rcases hstep s a hs hP.1 with ⟨s', hs', hinv⟩
    rcases ih hinv (hP.2 s' hs') with ⟨t, ht, hinvt⟩
    exact ⟨t, exec_cons_ok.2 ⟨s', hs', ht⟩, hinvt⟩

/-- Along a run whose steps meet `P`, what follows from `P` and an invariant holds at every step. -/
theorem Along.imp {P Q : S → A → Prop} {Inv : S → Prop}
    (hstep : ∀ s a s', Inv s → P s a → step s a = .ok s' → Inv s')
    (himp : ∀ s a, Inv s → P s a → Q s a) {s : S} {as : List A} (hs : Inv s)
    (hP : Along step P s as) : Along step Q s as := by
  induction as generalizing s with
  | nil => trivial
  | cons a as ih =>
    exact ⟨himp s a hs hP.1, fun s' hs' => ih (hstep s a s' hs hP.1 hs') (hP.2 s' hs')⟩

lemma Along.and {P Q : S → A → Prop} {s : S} {as : List A} (hP : Along step P s as)
    (hQ : Along step Q s as) : Along step (fun s a => P s a ∧ Q s a) s as := by
  induction as generalizing s with
  | nil => trivial
  | cons a as ih => exact ⟨⟨hP.1, hQ.1⟩, fun s' hs' => ih (hP.2 s' hs') (hQ.2 s' hs')⟩

/-! ## Machines that cannot fault -/

/-- A total machine, as one whose steps might fault. -/
def total (f : S → A → S) (s : S) (a : A) : Except Empty S := .ok (f s a)

@[simp] lemma exec_total_eq (f : S → A → S) (s : S) (as : List A) :
    exec (total f) s as = .ok (as.foldl f s) := by
  induction as generalizing s with
  | nil => rfl
  | cons a as ih => exact ih (f s a)

lemma along_total_cons {f : S → A → S} {P : S → A → Prop} {s : S} {a : A} {as : List A} :
    Along (total f) P s (a :: as) ↔ P s a ∧ Along (total f) P (f s a) as := by
  refine and_congr_right fun _ => ⟨fun h => h _ rfl, ?_⟩
  rintro h _ ⟨⟩
  exact h

instance decidableAlongTotal {f : S → A → S} {P : S → A → Prop} [∀ s a, Decidable (P s a)] :
    (s : S) → (as : List A) → Decidable (Along (total f) P s as)
  | _, [] => isTrue trivial
  | s, a :: as =>
      have : Decidable (Along (total f) P (f s a) as) := decidableAlongTotal (f s a) as
      decidable_of_iff (P s a ∧ Along (total f) P (f s a) as) along_total_cons.symm

/-- What every step of a total machine preserves holds at the end of every run. -/
theorem foldl_preserves {f : S → A → S} {Inv : S → Prop} (hstep : ∀ s a, Inv s → Inv (f s a))
    {s : S} (hs : Inv s) (as : List A) : Inv (as.foldl f s) := by
  have htotal : ∀ s a s', Inv s → total f s a = .ok s' → Inv s' := by
    intro s a s' hs hs'
    cases hs'
    exact hstep s a hs
  exact exec_preserves htotal hs (exec_total_eq f s as)

end Lib
end Banip
