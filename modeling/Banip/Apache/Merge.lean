import Banip.Apache.Config

/-!
# Merge — inheritance between configurations

The server merges the configuration of a virtual host into that of the main server, and the
configuration of a directory into that of its parent, by the module's merge functions.  Both copy
`overridesv` to a local pointer and forget to do so with `basev`: the `base` whose rules they append
to is never assigned.  What such a pointer leads to is not up to the arguments; it is the argument
`stray` of the model, `none` if there is no configuration behind it.  Neither function copies a field
other than the rules.

The laws of an inheritance are stated for any merge function of this kind and for the part of the
result that they are about.  `merge_lawless` says that no law holds of these two, whatever the
arguments, and `merged_declines` what a virtual host gets even where the pointer happens to be right.
-/

namespace Banip
namespace Apache

open Lib

/-! ## The two functions -/

/-- `apr_array_append(p, base->rules, overrides->rules)`, where `stray` are the rules behind `base`. -/
def appendRules (stray : Option (List BanipRule)) (overrides : List BanipRule) :
    Except Fault (List BanipRule) :=
  match stray with
  | none => .error .outOfBounds
  | some base => .ok (base ++ overrides)

/-- `config_server_merge`. -/
def configServerMerge (stray : Option ServerConf) (_basev overridesv : ServerConf) :
    Except Fault ServerConf :=
  -- the rest of the new block is as `apr_pcalloc` cleared it
  (appendRules (stray.map ServerConf.rules) overridesv.rules).map fun rules => ⟨none, false, rules⟩

/-- `config_perdir_merge`. -/
def configPerdirMerge (stray : Option PerdirConf) (_basev overridesv : PerdirConf) :
    Except Fault PerdirConf :=
  (appendRules (stray.map PerdirConf.rules) overridesv.rules).map fun rules => ⟨none, rules⟩

/-! ## Laws

Without a configuration behind the pointer a merge has no result.  The laws leave that case aside and
quantify over the configurations that may be there. -/

section

variable {γ δ : Type} (merge : Option γ → γ → γ → Except Fault γ) (part : γ → δ)

/-- The merge of `a` and `b` has the part `d`, whatever configuration is behind the pointer. -/
def Yields (a b : γ) (d : δ) : Prop := ∀ base, (merge (some base) a b).map part = .ok d

/-- The result is a function of the two arguments. -/
def OfArguments (a b : γ) : Prop := ∀ base base', merge (some base) a b = merge (some base') a b

def Associates (a b c : γ) : Prop :=
  ∀ s₁ s₂ s₃ s₄, ((merge (some s₁) a b).bind fun ab => merge (some s₂) ab c).map part =
    ((merge (some s₃) b c).bind fun bc => merge (some s₄) a bc).map part

/-- None of the laws holds at `a`, `b` and `c`: `ab` is what `b` should inherit from `a`, and `empty`
the configuration without directives. -/
structure Lawless (empty a b c : γ) (ab : δ) : Prop where
  inherits : ¬ Yields merge part a b ab
  left : ¬ Yields merge part empty a (part a)
  right : ¬ Yields merge part a empty (part a)
  assoc : ¬ Associates merge part a b c
  arguments : ¬ OfArguments merge a b

/-- A merge that appends the rules of `overrides` to those behind the pointer: any rules may be there,
and the part of the result that the laws are about shows them. -/
structure ThroughPointer (rules : γ → List BanipRule) : Prop where
  returns : ∀ base a b, ∃ m, merge (some base) a b = .ok m ∧ rules m = rules base ++ rules b
  any : ∀ l, ∃ base, rules base = l
  shown : ∀ m m', part m = part m' → rules m = rules m'

variable {merge part} {rules : γ → List BanipRule}

/-- Two configurations behind the pointer give the same arguments two different results. -/
lemma ThroughPointer.differ (h : ThroughPointer merge part rules) (a b : γ) :
    ∃ base base' m m', merge (some base) a b = .ok m ∧ merge (some base') a b = .ok m' ∧
      part m ≠ part m' := by
  -- no rule, and one rule, in front of those of `b`
  rcases h.any [] with ⟨base, hbase⟩
  rcases h.any [⟨none, [], .string⟩] with ⟨base', hbase'⟩
  rcases h.returns base a b with ⟨m, hm, hrules⟩
  rcases h.returns base' a b with ⟨m', hm', hrules'⟩
  refine ⟨base, base', m, m', hm, hm', ?_⟩
  intro hpart
  have hsame := h.shown m m' hpart
  rw [hrules, hrules', hbase, hbase'] at hsame
  simp at hsame

lemma ThroughPointer.not_yields (h : ThroughPointer merge part rules) (a b : γ) (d : δ) :
    ¬ Yields merge part a b d := by
  intro hyields
  rcases h.differ a b with ⟨base, base', m, m', hm, hm', hne⟩
  have hd := hyields base
  have hd' := hyields base'
  rw [hm] at hd
  rw [hm'] at hd'
  exact hne (Except.ok.inj (hd.trans hd'.symm))

lemma ThroughPointer.not_ofArguments (h : ThroughPointer merge part rules) (a b : γ) :
    ¬ OfArguments merge a b := by
  intro hargs
  rcases h.differ a b with ⟨base, base', m, m', hm, hm', hne⟩
  have hsame := hargs base base'
  rw [hm, hm'] at hsame
  exact hne (congrArg part (Except.ok.inj hsame))

lemma ThroughPointer.not_associates (h : ThroughPointer merge part rules) (a b c : γ) :
    ¬ Associates merge part a b c := by
  intro hassoc
  rcases h.returns a a b with ⟨ab, hab, -⟩
  rcases h.differ ab c with ⟨base, base', m, m', hm, hm', hne⟩
  -- the same right side for two left sides that differ
  have hsame := (hassoc a base a a).trans (hassoc a base' a a).symm
  rw [hab] at hsame
  simp only [Except.bind, hm, hm', Except.map, Except.ok.injEq] at hsame
  exact hne hsame

lemma ThroughPointer.lawless (h : ThroughPointer merge part rules) (empty a b c : γ) (ab : δ) :
    Lawless merge part empty a b c ab where
  inherits := h.not_yields a b ab
  left := h.not_yields empty a _
  right := h.not_yields a empty _
  assoc := h.not_associates a b c
  arguments := h.not_ofArguments a b

end

lemma configServerMerge_throughPointer :
    ThroughPointer configServerMerge id ServerConf.rules where
  returns _ _ _ := ⟨_, rfl, rfl⟩
  any l := ⟨⟨none, false, l⟩, rfl⟩
  shown _ _ h := congrArg ServerConf.rules h

lemma configPerdirMerge_throughPointer :
    ThroughPointer configPerdirMerge PerdirConf.rules PerdirConf.rules where
  returns _ _ _ := ⟨_, rfl, rfl⟩
  any l := ⟨⟨none, l⟩, rfl⟩
  shown _ _ h := h

/-! ## Inheritance -/

/-- What `b` inherits from `a`: the rules of `a` in front of its own, and each setting that the
directives of `b` do not make. -/
def inherited (a b : ServerConf) (linesB : List Line) : ServerConf where
  queue := b.queue.or a.queue
  enabled := if (lastEnable linesB).isSome then b.enabled else a.enabled
  rules := a.rules ++ b.rules

/-- To inherit is to have the directives of the other in front of one's own. -/
theorem configure_append {pregcomp : Bytes → Bool} {linesA linesB : List Line} {a b : Confs}
    (ha : configure pregcomp linesA = .ok a) (hb : configure pregcomp linesB = .ok b) :
    ∃ ab, configure pregcomp (linesA ++ linesB) = .ok ab ∧
      ab.server = inherited a.server b.server linesB ∧
      ab.perdir.rules = a.perdir.rules ++ b.perdir.rules := by
  refine ⟨configured a linesB, exec_append_ok.2 ⟨a, ha, exec_readLine_anywhere hb a⟩, ?_, ?_⟩
  · rw [exec_readLine hb]
    cases hlast : lastEnable linesB <;> simp [configured, inherited, hlast, configServerCreate]
  · rw [exec_readLine hb]
    simp [configured, configPerdirCreate]

/-- Neither merge is an inheritance: each of the laws fails for each choice of configurations. -/
theorem merge_lawless (a b c : Confs) (linesB : List Line) :
    Lawless configServerMerge id configServerCreate a.server b.server c.server
        (inherited a.server b.server linesB) ∧
      Lawless configPerdirMerge PerdirConf.rules configPerdirCreate a.perdir b.perdir c.perdir
        (a.perdir.rules ++ b.perdir.rules) :=
  ⟨configServerMerge_throughPointer.lawless _ _ _ _ _,
    configPerdirMerge_throughPointer.lawless _ _ _ _ _⟩

/-- A virtual host without directives of its own should be the main server again.  It is a crash, an
empty configuration, or one that has the rules and is switched off, as the pointer will have it. -/
theorem virtual_host_inherits_nothing :
    ∃ c, configure (fun _ => true) (pageLines none) = .ok c ∧
      inherited c.server configServerCreate [] = c.server ∧
      configServerMerge none c.server configServerCreate = .error .outOfBounds ∧
      configServerMerge (some configServerCreate) c.server configServerCreate =
        .ok configServerCreate ∧
      configServerMerge (some c.server) c.server configServerCreate =
        .ok ⟨none, false, c.server.rules⟩ ∧
      c.server = ⟨some (str "/banip"), true, c.server.rules⟩ ∧
      ¬ Yields configServerMerge id c.server configServerCreate c.server := by
  refine ⟨_, rfl, rfl, rfl, rfl, rfl, rfl, ?_⟩
  intro hyields
  cases hyields configServerCreate

/-- A merged configuration has lost the settings of both arguments. -/
lemma configServerMerge_ok {stray : Option ServerConf} {a b m : ServerConf}
    (h : configServerMerge stray a b = .ok m) :
    ∃ base, stray = some base ∧ m = ⟨none, false, base.rules ++ b.rules⟩ := by
  cases stray with
  | none => cases h
  | some base =>
    cases h
    exact ⟨base, rfl, rfl⟩

/-- Under a merged configuration every request is declined: a virtual host is never protected. -/
theorem merged_declines {stray : Option ServerConf} {a b m : ServerConf}
    (h : configServerMerge stray a b = .ok m) (hd : Httpd) (memory : Table) (dconf : PerdirConf)
    (r : Request) : banipFixup hd m memory dconf r = (⟨.declined, [], []⟩, dconf) := by
  rcases configServerMerge_ok h with ⟨base, -, rfl⟩
  rfl

end Apache
end Banip
