import Mathlib.Logic.Basic

/-!
# Interrupt — a routine that may be entered again before it has ended

A routine is a machine with program points.  It is entered any number of times: each activation but
the last is cut off after some of its steps, at which moment the next one starts from the entry
point on the state it finds, and the last one runs to its end.  The activations that were cut off
are never resumed.  This is what signal handlers do that end the process when they are done.

`Reentrant.nested_ok_iff` is the rule for the safety of such runs.  It needs an invariant with one
clause for each point, under which a routine that is left at a harmless point can be entered again,
and an invariant of the damage that a harmful point leaves, from which no activation can reach its
end.
-/

namespace Banip
namespace Lib

universe u v w x

variable {E : Type u} {P : Type v} {S : Type w} {F : Type x}

section

variable (step : E → P → S → Except F (P × S)) (entry : P)

/-- The first `n` steps from a point. -/
def advance (e : E) : Nat → P × S → Except F (P × S)
  | 0, c => .ok c
  | n + 1, (p, s) =>
      match step e p s with
      | .ok c => advance e n c
      | .error f => .error f

/-- Activations that are cut off after so many steps, and then one that runs for `bound` steps. -/
def nested (bound : Nat) : List (E × Nat) → E → S → Except F (P × S)
  | [], e, s => advance step e bound (entry, s)
  | (e', k) :: cuts, e, s =>
      match advance step e' k (entry, s) with
      | .ok (_, s') => nested bound cuts e s'
      | .error f => .error f

/-- No activation is cut off at a point that is `bad`. -/
def Avoids (bad : P → Prop) : List (E × Nat) → S → Prop
  | [], _ => True
  | (e, k) :: cuts, s => ∀ p s', advance step e k (entry, s) = .ok (p, s') →
      ¬ bad p ∧ Avoids bad cuts s'

end

variable {step : E → P → S → Except F (P × S)} {entry : P}

lemma advance_succ_ok {e : E} {n : Nat} {p : P} {s : S} {c : P × S} :
    advance step e (n + 1) (p, s) = .ok c ↔
      ∃ c', step e p s = .ok c' ∧ advance step e n c' = .ok c := by
  cases hstep : step e p s with
  | ok c' => simp [advance, hstep]
  | error f => simp [advance, hstep]

/-- A clause for each point that the steps establish holds wherever an activation is cut off. -/
lemma advance_total {At : P → S → Prop} {e : E}
    (hstep : ∀ p s, At p s → ∃ p' s', step e p s = .ok (p', s') ∧ At p' s') {p : P} {s : S}
    (hs : At p s) (n : Nat) : ∃ p' s', advance step e n (p, s) = .ok (p', s') ∧ At p' s' := by
  induction n generalizing p s with
  | zero => exact ⟨p, s, rfl, hs⟩
  | succ n ih =>
    rcases hstep p s hs with ⟨p₁, s₁, h₁, hat₁⟩
    rcases ih hat₁ with ⟨p', s', h', hat'⟩
    exact ⟨p', s', advance_succ_ok.2 ⟨_, h₁, h'⟩, hat'⟩

lemma advance_preserves {At : P → S → Prop}
    (hstep : ∀ e p s p' s', At p s → step e p s = .ok (p', s') → At p' s') {e : E} {n : Nat}
    {p p' : P} {s s' : S} (hs : At p s) (hrun : advance step e n (p, s) = .ok (p', s')) :
    At p' s' := by
  induction n generalizing p s with
  | zero =>
    cases hrun
    exact hs
  | succ n ih =>
    rcases advance_succ_ok.1 hrun with ⟨⟨p₁, s₁⟩, h₁, hrest⟩
    exact ih (hstep e p s p₁ s₁ hs h₁) hrest

/-- Every step brings an activation closer to its end. -/
lemma advance_rank {rank : P → Nat}
    (hrank : ∀ e p s p' s', step e p s = .ok (p', s') → rank p' ≤ rank p - 1) {e : E} {n : Nat}
    {p p' : P} {s s' : S} (hrun : advance step e n (p, s) = .ok (p', s')) :
    rank p' ≤ rank p - n := by
  induction n generalizing p s with
  | zero =>
    cases hrun
    exact Nat.le_refl _
  | succ n ih =>
    rcases advance_succ_ok.1 hrun with ⟨⟨p₁, s₁⟩, h₁, hrest⟩
    have hle := ih hrest
    have hone := hrank e p s p₁ s₁ h₁
    omega

/-- The last activation has come to its end. -/
lemma nested_rank {rank : P → Nat}
    (hrank : ∀ e p s p' s', step e p s = .ok (p', s') → rank p' ≤ rank p - 1)
    {cuts : List (E × Nat)} {e : E} {s : S} {c : P × S}
    (hrun : nested step entry (rank entry) cuts e s = .ok c) : rank c.1 = 0 := by
  induction cuts generalizing s with
  | nil =>
    rcases c with ⟨p, s'⟩
    have hle := advance_rank hrank hrun
    dsimp only
    omega
  | cons cut cuts ih =>
    rcases cut with ⟨e', k⟩
    cases hcut : advance step e' k (entry, s) with
    | error f => simp [nested, hcut] at hrun
    | ok c' =>
      simp only [nested, hcut] at hrun
      exact ih hrun

/-- What the rule asks of a routine: `Sound` is what holds before a statement, `Broken` is the damage
at a `bad` point, and `rank` bounds the statements that are left. -/
structure Reentrant (step : E → P → S → Except F (P × S)) (entry : P) (bad : P → Prop)
    (rank : P → Nat) (Sound Broken : P → S → Prop) : Prop where
  sound : ∀ e p s, Sound p s → ∃ p' s', step e p s = .ok (p', s') ∧ Sound p' s'
  again : ∀ p s, Sound p s → ¬ bad p → Sound entry s
  breaks : ∀ p s, Sound p s → bad p → Broken entry s
  broken : ∀ e p s p' s', Broken p s → step e p s = .ok (p', s') → Broken p' s'
  stays : ∀ p s, Broken p s → Broken entry s
  rank_le : ∀ e p s p' s', step e p s = .ok (p', s') → rank p' ≤ rank p - 1
  rank_ne_zero : ∀ p s, Broken p s → rank p ≠ 0

namespace Reentrant

variable {bad : P → Prop} {rank : P → Nat} {Sound Broken : P → S → Prop}

/-- From a broken state every later activation is broken, and the last one cannot end. -/
lemma nested_ne_ok (h : Reentrant step entry bad rank Sound Broken) (cuts : List (E × Nat)) (e : E)
    {s : S} (hs : Broken entry s) (c : P × S) :
    nested step entry (rank entry) cuts e s ≠ .ok c := by
  induction cuts generalizing s with
  | nil =>
    rcases c with ⟨p', s'⟩
    intro hrun
    have hzero := advance_rank h.rank_le hrun
    refine h.rank_ne_zero p' s' (advance_preserves h.broken hs hrun) ?_
    omega
  | cons cut cuts ih =>
    rcases cut with ⟨e', k⟩
    intro hrun
    cases hcut : advance step e' k (entry, s) with
    | error f => simp [nested, hcut] at hrun
    | ok c' =>
      rcases c' with ⟨p', s'⟩
      simp only [nested, hcut] at hrun
      exact ih (h.stays p' s' (advance_preserves h.broken hs hcut)) hrun

/-- Activations one inside the other run without a fault if and only if none is cut off at a bad
point. -/
theorem nested_ok_iff (h : Reentrant step entry bad rank Sound Broken) (cuts : List (E × Nat))
    (e : E) {s : S} (hs : Sound entry s) :
    (∃ c, nested step entry (rank entry) cuts e s = .ok c) ↔ Avoids step entry bad cuts s := by
  induction cuts generalizing s with
  | nil =>
    rcases advance_total (h.sound e) hs (rank entry) with ⟨p', s', hrun, -⟩
    exact ⟨fun _ => trivial, fun _ => ⟨_, hrun⟩⟩
  | cons cut cuts ih =>
    rcases cut with ⟨e', k⟩
    rcases advance_total (h.sound e') hs k with ⟨p', s', hcut, hat⟩
    simp only [nested, hcut, Avoids, Except.ok.injEq, Prod.mk.injEq]
    by_cases hp : bad p'
    · constructor
      · rintro ⟨c, hrun⟩
        exact absurd hrun (h.nested_ne_ok cuts e (h.breaks p' s' hat hp) c)
      · intro havoid
        exact absurd hp (havoid p' s' ⟨rfl, rfl⟩).1
    · refine (ih (h.again p' s' hat hp)).trans ?_
      constructor
      · rintro havoid p s ⟨rfl, rfl⟩
        exact ⟨hp, havoid⟩
      · intro havoid
        exact (havoid p' s' ⟨rfl, rfl⟩).2

end Reentrant

end Lib
end Banip
