import Banip.Lib.Inet
import Banip.Lib.ByteOrder
import Banip.Lib.Shell
import Mathlib.Data.List.Basic

/-!
# Netfilter — address sets and the INPUT chain of a Linux host

The part of a packet filter that `ipset` and `iptables` change: named sets of networks, and a chain of
rules of which the first with a verdict decides about a packet.  A `Command` is one of the lines an
administrator types, with its text and its documented effect; it has no effect to speak of when it
cannot succeed (`apply` is `none`).

A `Shell` is whatever runs the lines: its `n`-th answer depends on everything before it.  What a caller
may assume of it is `Performs`: a line that exits with 0 had its effect, any other had none.
-/

namespace Banip
namespace Lib

structure Packet where
  family : Family
  src : Bytes
deriving DecidableEq, Repr

inductive Verdict where
  | accept
  | drop
deriving DecidableEq, Repr

/-- A set of type `hash:net`: networks, as addresses with a prefix length. -/
structure IpSet where
  family : Family
  nets : List (Bytes × Nat)
deriving DecidableEq, Repr

/-- The source of the packet is in one of the networks. -/
def IpSet.has (s : IpSet) (p : Packet) : Bool :=
  s.family = p.family && s.nets.any fun net => decide (SamePrefix net.2 p.src net.1)

/-- Add one address, as the network of all its bits. -/
def IpSet.insert (s : IpSet) (x : Bytes) : IpSet :=
  { s with nets := (x, s.family.maxPrefix) :: s.nets }

namespace IpSet

variable {s : IpSet} {x : Bytes} {p : Packet}

lemma has_insert_of_has (hp : s.has p = true) : (s.insert x).has p = true := by
  simp only [has, insert, Bool.and_eq_true, List.any_cons, Bool.or_eq_true] at hp ⊢
  exact ⟨hp.1, Or.inr hp.2⟩

lemma has_insert_self (s : IpSet) (x : Bytes) : (s.insert x).has ⟨s.family, x⟩ = true := by
  simp [has, insert, SamePrefix]

end IpSet

/-- A rule of the chain: `-m set --match-set s src -j DROP`, or one of another kind. -/
inductive Rule where
  | dropSet (set : Bytes)
  | other (verdict : Packet → Option Verdict)

structure Netfilter where
  sets : Bytes → Option IpSet
  input : List Rule
  policy : Verdict

namespace Netfilter

/-- Put a set under a name. -/
def putSet (fw : Netfilter) (set : Bytes) (s : IpSet) : Netfilter :=
  { fw with sets := Function.update fw.sets set (some s) }

/-- What a rule says of a packet, if anything. -/
def ruleVerdict (fw : Netfilter) (p : Packet) : Rule → Option Verdict
  | .dropSet set =>
    match fw.sets set with
    | some s => if s.has p then some .drop else none
    | none => none
  | .other verdict => verdict p

/-- The first rule with a verdict decides. -/
def verdict (fw : Netfilter) (p : Packet) : Verdict :=
  (fw.input.filterMap (fw.ruleVerdict p)).head?.getD fw.policy

@[simp] lemma putSet_self (fw : Netfilter) (set : Bytes) (s : IpSet) :
    (fw.putSet set s).sets set = some s := by
  simp [putSet]

lemma putSet_of_ne (fw : Netfilter) {set set' : Bytes} (s : IpSet) (hne : set' ≠ set) :
    (fw.putSet set s).sets set' = fw.sets set' := by
  simp [putSet, hne]

/-- Nothing stands in front of a rule that drops the packets of `set` but other rules that drop. -/
def Guarded (fw : Netfilter) (set : Bytes) : Prop :=
  ∃ front back, fw.input = front ++ .dropSet set :: back ∧ ∀ r ∈ front, ∃ set', r = .dropSet set'

/-- The two filters differ in the sets of `names` at most. -/
structure SameBut (names : List Bytes) (fw fw' : Netfilter) : Prop where
  input : fw'.input = fw.input
  policy : fw'.policy = fw.policy
  sets : ∀ set, set ∉ names → fw'.sets set = fw.sets set

namespace SameBut

variable {names : List Bytes} {fw fw' fw'' : Netfilter}

lemma refl (names : List Bytes) (fw : Netfilter) : SameBut names fw fw :=
  ⟨rfl, rfl, fun _ _ => rfl⟩

lemma trans (h : SameBut names fw fw') (h' : SameBut names fw' fw'') : SameBut names fw fw'' :=
  ⟨h'.input.trans h.input, h'.policy.trans h.policy,
    fun set hset => (h'.sets set hset).trans (h.sets set hset)⟩

lemma putSet (fw : Netfilter) (set : Bytes) (s : IpSet) : SameBut [set] fw (fw.putSet set s) :=
  ⟨rfl, rfl, fun set' hne => Function.update_of_ne (by simpa using hne) _ _⟩

lemma mono {names' : List Bytes} (h : SameBut names fw fw') (hsub : names ⊆ names') :
    SameBut names' fw fw' :=
  ⟨h.input, h.policy, fun set hset => h.sets set fun hmem => hset (hsub hmem)⟩

lemma guarded {set : Bytes} (h : SameBut names fw fw') (hguard : fw.Guarded set) :
    fw'.Guarded set := by
  unfold Guarded at hguard ⊢
  rwa [h.input]

/-- Sets that no rule looks at have no influence. -/
lemma verdict_eq (h : SameBut names fw fw') (hrules : ∀ set ∈ names, .dropSet set ∉ fw.input)
    (p : Packet) : fw'.verdict p = fw.verdict p := by
  have hrule : ∀ r ∈ fw.input, fw'.ruleVerdict p r = fw.ruleVerdict p r := by
    intro r hr
    cases r with
    | other verdict => rfl
    | dropSet set =>
      have hset : set ∉ names := fun hmem => hrules set hmem hr
      simp only [ruleVerdict, h.sets set hset]
  rw [verdict, verdict, h.input, h.policy, List.filterMap_congr hrule]

end SameBut

/-- A packet of a set that is guarded is dropped. -/
lemma verdict_of_guarded {fw : Netfilter} {set : Bytes} {s : IpSet} {p : Packet}
    (hguard : fw.Guarded set) (hset : fw.sets set = some s) (hp : s.has p = true) :
    fw.verdict p = .drop := by
  rcases hguard with ⟨front, back, hinput, hfront⟩
  -- the rules in front can only drop the packet earlier
  have hdrop : ∀ rules : List Rule, (∀ r ∈ rules, ∃ set', r = .dropSet set') →
      ((rules ++ .dropSet set :: back).filterMap (fw.ruleVerdict p)).head? = some .drop := by
    intro rules hrules
    induction rules with
    | nil => simp [ruleVerdict, hset, hp]
    | cons r rules ih =>
      rcases hrules r (by simp) with ⟨set', rfl⟩
      have hrest := ih (fun r hr => hrules r (List.mem_cons_of_mem _ hr))
      cases hrule : fw.ruleVerdict p (.dropSet set') with
      | none => rwa [List.cons_append, List.filterMap_cons_none hrule]
      | some v =>
        have hv : v = .drop := by
          simp only [ruleVerdict] at hrule
          split at hrule
          · split at hrule
            · cases hrule
              rfl
            · cases hrule
          · cases hrule
        rw [List.cons_append, List.filterMap_cons_some hrule, hv]
        rfl
  rw [verdict, hinput, hdrop front hfront]
  rfl

end Netfilter

/-! ## Commands -/

inductive Command where
  | create (set : Bytes) (family : Family)
  | add (set text : Bytes)
  | insertDrop (set : Bytes)
deriving DecidableEq, Repr

namespace Command

/-- The argument of `family`. -/
def familyName (f : Family) : Bytes := if f = .inet then str "inet" else str "inet6"

def text : Command → Bytes
  | .create set f => str "ipset -! create " ++ set ++ str " hash:net family " ++ familyName f
  | .add set addr => str "ipset -! -A " ++ set ++ str " " ++ addr
  | .insertDrop set => str "iptables -I INPUT -m set --match-set " ++ set ++ str " src -j DROP"

/-- The documented effect.  `-!` makes it no error to create a set again or to add what is there. -/
def apply (fw : Netfilter) : Command → Option Netfilter
  | .create set f =>
    match fw.sets set with
    | none => some (fw.putSet set ⟨f, []⟩)
    | some s => if s.family = f then some fw else none
  | .add set addr =>
    match fw.sets set with
    | none => none
    | some s =>
      match inetPton s.family addr with
      | none => none
      | some x => some (fw.putSet set (s.insert x))
  | .insertDrop set =>
    match fw.sets set with
    | none => none
    | some _ => some { fw with input := .dropSet set :: fw.input }

variable {fw fw' : Netfilter} {set : Bytes}

/-- Creating a set and adding to it leave everything else alone. -/
lemma sameBut_create {f : Family} (h : (create set f).apply fw = some fw') :
    Netfilter.SameBut [set] fw fw' := by
  unfold apply at h
  cases hset : fw.sets set with
  | none =>
    simp only [hset, Option.some.injEq] at h
    subst h
    exact .putSet fw set _
  | some s =>
    simp only [hset] at h
    split at h
    · cases h
      exact .refl _ _
    · cases h

/-- An addition that succeeds: the set was there and has one more network. -/
lemma apply_add {addr : Bytes} (h : (add set addr).apply fw = some fw') :
    ∃ s x, fw.sets set = some s ∧ inetPton s.family addr = some x ∧
      fw' = fw.putSet set (s.insert x) := by
  unfold apply at h
  cases hset : fw.sets set with
  | none => simp [hset] at h
  | some s =>
    cases hpton : inetPton s.family addr with
    | none => simp [hset, hpton] at h
    | some x =>
      simp only [hset, hpton, Option.some.injEq] at h
      exact ⟨s, x, rfl, hpton, h.symm⟩

lemma sameBut_add {addr : Bytes} (h : (add set addr).apply fw = some fw') :
    Netfilter.SameBut [set] fw fw' := by
  rcases apply_add h with ⟨s, x, -, -, rfl⟩
  exact .putSet fw set _

/-! ## Reading a line back -/

/-- The command a line of plain words is. -/
def ofFields (words : List Bytes) : Option Command :=
  match words with
  | [w₁, w₂, w₃, set, addr] =>
    if [w₁, w₂, w₃] = [str "ipset", str "-!", str "-A"] then some (.add set addr) else none
  | [w₁, w₂, w₃, set, w₄, w₅, f] =>
    if [w₁, w₂, w₃, w₄, w₅] =
        [str "ipset", str "-!", str "create", str "hash:net", str "family"] then
      if f = str "inet" then some (.create set .inet)
      else if f = str "inet6" then some (.create set .inet6)
      else none
    else none
  | [w₁, w₂, w₃, w₄, w₅, w₆, set, w₇, w₈, w₉] =>
    if [w₁, w₂, w₃, w₄, w₅, w₆, w₇, w₈, w₉] =
        [str "iptables", str "-I", str "INPUT", str "-m", str "set", str "--match-set", str "src",
          str "-j", str "DROP"] then some (.insertDrop set)
    else none
  | _ => none

/-- A word that a shell leaves as it is. -/
def Plain (w : Bytes) : Prop := w ≠ [] ∧ ∀ c ∈ w, Shell.isMeta c = false

lemma fields_plain {w : Bytes} (hw : Plain w) : Shell.fields w = [w] :=
  Shell.fields_of_word hw.1 fun c hc => Shell.not_isBlank_of_not_isMeta (hw.2 c hc)

/-- The fields of a line with a plain word in the middle. -/
lemma fields_middle (front back : Bytes) {w : Bytes} (hw : Plain w) :
    Shell.fields (front ++ chr ' ' :: (w ++ chr ' ' :: back)) =
      Shell.fields front ++ w :: Shell.fields back := by
  have hblank : Shell.isBlank (chr ' ') = true := by decide
  rw [Shell.fields_append_blank _ _ hblank, Shell.fields_append_blank _ _ hblank, fields_plain hw]
  rfl

lemma ofFields_create {f : Family} (hset : Plain set) (hf : f = .inet ∨ f = .inet6) :
    ofFields (Shell.fields (create set f).text) = some (.create set f) := by
  have hline : (create set f).text = str "ipset -! create" ++ chr ' ' ::
      (set ++ chr ' ' :: (str "hash:net family " ++ familyName f)) := by
    have hfront : str "ipset -! create " = str "ipset -! create" ++ [chr ' '] := by decide
    have hback : str " hash:net family " = chr ' ' :: str "hash:net family " := by decide
    simp only [text, hfront, hback, List.append_assoc, List.cons_append, List.nil_append]
  rw [hline, fields_middle _ _ hset]
  rcases hf with rfl | rfl
  · rfl
  · rfl

lemma ofFields_add {addr : Bytes} (hset : Plain set) (haddr : Plain addr) :
    ofFields (Shell.fields (add set addr).text) = some (.add set addr) := by
  have hline : (add set addr).text = str "ipset -! -A" ++ chr ' ' :: (set ++ chr ' ' :: addr) := by
    have hfront : str "ipset -! -A " = str "ipset -! -A" ++ [chr ' '] := by decide
    have hback : str " " = [chr ' '] := by decide
    simp only [text, hfront, hback, List.append_assoc, List.cons_append, List.nil_append]
  rw [hline, fields_middle _ _ hset, fields_plain haddr]
  rfl

lemma ofFields_insertDrop (hset : Plain set) :
    ofFields (Shell.fields (insertDrop set).text) = some (.insertDrop set) := by
  have hline : (insertDrop set).text = str "iptables -I INPUT -m set --match-set" ++ chr ' ' ::
      (set ++ chr ' ' :: str "src -j DROP") := by
    have hfront : str "iptables -I INPUT -m set --match-set " =
        str "iptables -I INPUT -m set --match-set" ++ [chr ' '] := by decide
    have hback : str " src -j DROP" = chr ' ' :: str "src -j DROP" := by decide
    simp only [text, hfront, hback, List.append_assoc, List.cons_append, List.nil_append]
  rw [hline, fields_middle _ _ hset]
  rfl

end Command

/-! ## Shells -/

/-- The `n`-th line and the filter before it give an exit status and the filter after it. -/
abbrev ShellRun : Type := Nat → Bytes → Netfilter → Int × Netfilter

/-- The shell runs the command as documented, whenever it runs it. -/
def ShellRun.Performs (sh : ShellRun) (c : Command) : Prop :=
  ∀ n fw, ((sh n c.text fw).1 = 0 → c.apply fw = some (sh n c.text fw).2) ∧
    ((sh n c.text fw).1 ≠ 0 → (sh n c.text fw).2 = fw)

/-- A shell that takes every line literally, and in which nothing fails that can succeed. -/
def ShellRun.literal : ShellRun := fun _ line fw =>
  match (Command.ofFields (Shell.fields line)).bind (fun c => c.apply fw) with
  | some fw' => (0, fw')
  | none => (1, fw)

lemma ShellRun.literal_performs {c : Command}
    (hc : Command.ofFields (Shell.fields c.text) = some c) : literal.Performs c := by
  intro n fw
  cases happly : c.apply fw with
  | none => simp [literal, hc, happly]
  | some fw' => simp [literal, hc, happly]

end Lib
end Banip
