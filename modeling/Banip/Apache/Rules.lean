import Banip.Apache.Config
import Banip.Apache.Isolation

/-!
# Rules — which requests the configured rules forbid

A rule names a variable of the request and a pattern; the variable is the address of the page if none
is named, and a pattern that starts with `=` is compared as a string.  `RuleText.Matches` states this
for a rule as it is written in the configuration file.  `Enforced` is the contract of the module: a
request is forbidden, and its client reported once, if and only if one of the rules that apply to it
matches, whether it stands outside of the directory section or in it, and in whatever order.

The hook walks over the rules of the server only.  `enforced_iff` says what remains of the contract.
-/

namespace Banip
namespace Apache

open Lib

/-! ## Rules as they are written -/

/-- The variable a rule names. -/
def Names (what : Option Bytes) : Variable → Prop
  | .default => what = none
  | .env name => what = some (str "ENV:" ++ name)
  | .get name => what = some (str "GET:" ++ name)
  | .http name => what = some (str "HTTP:" ++ name)
  | .post name => what = some (str "POST:" ++ name)

/-- The value, a C string, meets the pattern. -/
def Meets (hd : Httpd) (pattern value : Bytes) : Prop :=
  if pattern.head? = some (chr '=') then cstr value = pattern.drop 1
  else hd.regexec pattern value = 0

/-- The rule names a variable that the request has, and its value meets the pattern.  `get` and
`memory` are the state of the query table in which the request finds the directory. -/
def RuleText.Matches (hd : Httpd) (memory : Table) (r : Request) (get : Option Query)
    (t : RuleText) : Prop :=
  ∃ v value, Names t.what v ∧ (lookup hd memory r get v).string = some value ∧
    Meets hd t.pattern.1 value

/-! ## The dispatch on the variable -/

/-- What an entry with a text in front of the name fits: that text and a name. -/
lemma eq_of_fits {start : Bytes} {what : Option Bytes} (h : fits (some start) what = true) :
    what = some (start ++ (what.getD []).drop start.length) := by
  cases what with
  | none => cases h
  | some what =>
    rcases List.isPrefixOf_iff_prefix.1 h with ⟨name, rfl⟩
    rw [Option.getD_some, List.drop_left]

/-- The first entry of the table that fits is the only one. -/
lemma variableOf_iff {what : Option Bytes} {v : Variable} :
    variableOf what = some v ↔ Names what v := by
  constructor
  · intro h
    rcases Option.map_eq_some_iff.1 h with ⟨entry, hfind, rfl⟩
    have hfits := List.find?_some hfind
    have hmem := List.mem_of_find?_eq_some hfind
    simp only [variablesTable, List.mem_cons, List.not_mem_nil, or_false] at hmem
    rcases hmem with rfl | rfl | rfl | rfl | rfl
    · -- the entry without a text fits a null pointer only
      cases what with
      | none => rfl
      | some what => cases hfits
    · exact eq_of_fits hfits
    · exact eq_of_fits hfits
    · exact eq_of_fits hfits
    · exact eq_of_fits hfits
  · intro h
    cases v with
    | default =>
      cases h
      rfl
    | env name =>
      cases h
      rfl
    | get name =>
      cases h
      rfl
    | http name =>
      cases h
      rfl
    | post name =>
      cases h
      rfl

/-! ## The walk over the rules -/

/-- A stored rule matches the request in the state `get`. -/
def Hits (hd : Httpd) (memory : Table) (r : Request) (get : Option Query) (rule : BanipRule) :
    Prop :=
  ∃ v value, variableOf rule.what = some v ∧ (lookup hd memory r get v).string = some value ∧
    rule.compare hd value = 0

section

variable {hd : Httpd} {memory : Table} {r : Request} {get get' : Option Query}

/-- What the handler stored matches where the text matches. -/
lemma hits_compiled {t : RuleText} :
    Hits hd memory r get t.compiled ↔ t.Matches hd memory r get := by
  have hwhat : t.compiled.what = t.what := by
    unfold RuleText.compiled
    split
    · rfl
    · rfl
  have hcompare : ∀ value, t.compiled.compare hd value = 0 ↔ Meets hd t.pattern.1 value := by
    intro value
    unfold RuleText.compiled Meets
    split
    · -- `strcmp` with the rest of the pattern, which holds no NUL
      have hclean : (0 : Byte) ∉ t.pattern.1.drop 1 := fun h => t.pattern.2 (List.mem_of_mem_drop h)
      exact strcmp_eq_zero_iff hclean
    · rfl
  simp only [Hits, RuleText.Matches, hwhat, hcompare, variableOf_iff]

/-- `dconf->get` in the course of a request: as the request found it, or the table that the request
made in place of NULL. -/
def Within (hd : Httpd) (r : Request) (get get' : Option Query) : Prop :=
  get' = get ∨ get = none ∧ get' = some (.own (hd.argsToTable r.args))

/-- In the course of a request every lookup gives the same string, and keeps to that course. -/
lemma lookup_within (memory : Table) (hget : Within hd r get get') (v : Variable) :
    (lookup hd memory r get' v).string = (lookup hd memory r get v).string ∧
      Within hd r get (lookup hd memory r get' v).get := by
  cases v with
  | get name =>
    rcases hget with rfl | ⟨rfl, rfl⟩
    · rcases get' with _ | table | _
      · exact ⟨rfl, Or.inr ⟨rfl, rfl⟩⟩
      · exact ⟨rfl, Or.inl rfl⟩
      · exact ⟨rfl, Or.inl rfl⟩
    · exact ⟨rfl, Or.inr ⟨rfl, rfl⟩⟩
  | default => exact ⟨rfl, hget⟩
  | env name => exact ⟨rfl, hget⟩
  | http name => exact ⟨rfl, hget⟩
  | post name => exact ⟨rfl, hget⟩

/-- One round of the loop: a rule that matches ends it, any other leaves the verdict to the rest. -/
lemma fixupLoop_round (hget : Within hd r get get') (rule : BanipRule) (rules : List BanipRule)
    (reads : List Origin) :
    (Hits hd memory r get rule ∧
        (fixupLoop hd memory r (rule :: rules) get' reads).1.status = .forbidden) ∨
      ¬ Hits hd memory r get rule ∧ ∃ get'' reads', Within hd r get get'' ∧
        fixupLoop hd memory r (rule :: rules) get' reads =
          fixupLoop hd memory r rules get'' reads' := by
  rw [fixupLoop]
  cases hv : variableOf rule.what with
  | none =>
    refine Or.inr ⟨?_, get', reads, hget, rfl⟩
    rintro ⟨v, value, hv', -⟩
    cases hv.symm.trans hv'
  | some v =>
    rcases lookup_within memory hget v with ⟨hstring, hkept⟩
    simp only [hstring]
    cases hvalue : (lookup hd memory r get v).string with
    | none =>
      refine Or.inr ⟨?_, _, _, hkept, rfl⟩
      rintro ⟨v', value, hv', hvalue', -⟩
      cases hv.symm.trans hv'
      cases hvalue.symm.trans hvalue'
    | some value =>
      by_cases hmatch : rule.compare hd value = 0
      · exact Or.inl ⟨⟨v, value, hv, hvalue, hmatch⟩, by simp [hmatch]⟩
      · refine Or.inr ⟨?_, _, _, hkept, if_neg hmatch⟩
        rintro ⟨v', value', hv', hvalue', hmatch'⟩
        cases hv.symm.trans hv'
        cases hvalue.symm.trans hvalue'
        exact hmatch hmatch'

/-- The loop forbids exactly if a rule matches. -/
lemma fixupLoop_forbidden_iff (memory : Table) (hget : Within hd r get get')
    (rules : List BanipRule) (reads : List Origin) :
    (fixupLoop hd memory r rules get' reads).1.status = .forbidden ↔
      ∃ rule ∈ rules, Hits hd memory r get rule := by
  -- the lookups of later rounds may find a table that an earlier round made
  induction rules generalizing get' reads with
  | nil => simp [fixupLoop]
  | cons rule rules ih =>
    rcases fixupLoop_round hget rule rules reads with
      ⟨hhit, hstatus⟩ | ⟨hmiss, get'', reads', hwithin, heq⟩
    · exact iff_of_true hstatus ⟨rule, List.mem_cons_self, hhit⟩
    · rw [heq, ih hwithin]
      simp [hmiss]

end

/-! ## Requests and rules -/

/-- What the hook does on `r` under the configurations `c`, with `dconf->get` as the request finds
it. -/
def verdict (hd : Httpd) (c : Confs) (memory : Table) (get : Option Query) (r : Request) :
    Status × List Bytes :=
  let outcome := (banipFixup hd c.server memory { c.perdir with get := get } r).1
  (outcome.status, outcome.sent)

/-- The verdict of the rules `rules`. -/
def ruled (hd : Httpd) (rules : List RuleText) (memory : Table) (get : Option Query) (r : Request)
    (v : Status × List Bytes) : Prop :=
  (∃ t ∈ rules, t.Matches hd memory r get) ∧ v = (.forbidden, [r.useragentIp]) ∨
    (¬ ∃ t ∈ rules, t.Matches hd memory r get) ∧ v = (.declined, [])

/-- The rules of the server and of the directory decide on the request, in whatever order. -/
structure Enforced (hd : Httpd) (pregcomp : Bytes → Bool) (lines : List Line) (c : Confs)
    (memory : Table) (get : Option Query) (r : Request) : Prop where
  exact : ruled hd (serverRules lines ++ dirRules lines) memory get r (verdict hd c memory get r)
  order : ∀ lines' c', lines'.Perm lines → configure pregcomp lines' = .ok c' →
    c'.server.enabled = true → verdict hd c' memory get r = verdict hd c memory get r

section

variable {hd : Httpd} {pregcomp : Bytes → Bool} {lines : List Line} {c : Confs} {memory : Table}
  {get : Option Query} {r : Request}

lemma configure_server_rules (hconf : configure pregcomp lines = .ok c) :
    c.server.rules = (serverRules lines).map RuleText.compiled := by
  rw [exec_readLine hconf]
  rfl

/-- The hook enforces the rules of the server. -/
lemma verdict_ruled (hd : Httpd) (hconf : configure pregcomp lines = .ok c)
    (hon : c.server.enabled = true) (memory : Table) (get : Option Query) (r : Request) :
    ruled hd (serverRules lines) memory get r (verdict hd c memory get r) := by
  have hloop : verdict hd c memory get r =
      ((fixupLoop hd memory r c.server.rules get []).1.status,
        (fixupLoop hd memory r c.server.rules get []).1.sent) := by
    simp [verdict, banipFixup, hon]
  have hmatch : (∃ rule ∈ c.server.rules, Hits hd memory r get rule) ↔
      ∃ t ∈ serverRules lines, t.Matches hd memory r get := by
    rw [configure_server_rules hconf]
    simp only [List.mem_map, exists_exists_and_eq_and, hits_compiled]
  have hstart : Within hd r get get := Or.inl rfl
  have hforbidden := fixupLoop_forbidden_iff memory hstart c.server.rules []
  rw [hmatch] at hforbidden
  rw [hloop]
  rcases @fixupLoop_shape hd memory r c.server.rules get [] with
    ⟨hstatus, hsent⟩ | ⟨hstatus, hsent⟩
  · exact Or.inl ⟨hforbidden.1 hstatus, by rw [hstatus, hsent]⟩
  · refine Or.inr ⟨fun hex => ?_, by rw [hstatus, hsent]⟩
    rw [hforbidden.2 hex] at hstatus
    cases hstatus

/-- A set of rules has one verdict. -/
lemma ruled_unique {rules rules' : List RuleText} {v v' : Status × List Bytes}
    (hmem : (∃ t ∈ rules, t.Matches hd memory r get) ↔ ∃ t ∈ rules', t.Matches hd memory r get)
    (h : ruled hd rules memory get r v) (h' : ruled hd rules' memory get r v') : v = v' := by
  rcases h with ⟨hex, rfl⟩ | ⟨hnot, rfl⟩
  · rcases h' with ⟨-, rfl⟩ | ⟨hnot', -⟩
    · rfl
    · exact absurd (hmem.1 hex) hnot'
  · rcases h' with ⟨hex', -⟩ | ⟨-, rfl⟩
    · exact absurd (hmem.2 hex') hnot
    · rfl

lemma serverRules_perm {lines' : List Line} (hperm : lines'.Perm lines) :
    (serverRules lines').Perm (serverRules lines) :=
  (hperm.filter _).filterMap _

end

/-- The contract holds for a request if and only if a rule outside of the section matches it or no
rule in the section does: the rules of the section are stored and never consulted. -/
theorem enforced_iff (hd : Httpd) (pregcomp : Bytes → Bool) (lines : List Line) (c : Confs)
    (hconf : configure pregcomp lines = .ok c) (hon : c.server.enabled = true) (memory : Table)
    (get : Option Query) (r : Request) :
    Enforced hd pregcomp lines c memory get r ↔
      (∃ t ∈ serverRules lines, t.Matches hd memory r get) ∨
        ∀ t ∈ dirRules lines, ¬ t.Matches hd memory r get := by
  have hserver := verdict_ruled hd hconf hon memory get r
  constructor
  · rintro ⟨hexact, -⟩
    rcases hserver with ⟨hex, -⟩ | ⟨-, hdeclined⟩
    · exact Or.inl hex
    · refine Or.inr ?_
      intro t ht hmatch
      -- the hook declines, although the rule `t` of the section matches
      rcases hexact with ⟨-, hforbidden⟩ | ⟨hnot, -⟩
      · cases hdeclined.symm.trans hforbidden
      · exact hnot ⟨t, List.mem_append_right _ ht, hmatch⟩
  · intro hcond
    have hall : (∃ t ∈ serverRules lines ++ dirRules lines, t.Matches hd memory r get) ↔
        ∃ t ∈ serverRules lines, t.Matches hd memory r get := by
      constructor
      · rintro ⟨t, ht, hmatch⟩
        rcases hcond with hex | hnone
        · exact hex
        · rcases List.mem_append.1 ht with hs | hdir
          · exact ⟨t, hs, hmatch⟩
          · exact absurd hmatch (hnone t hdir)
      · rintro ⟨t, ht, hmatch⟩
        exact ⟨t, List.mem_append_left _ ht, hmatch⟩
    refine ⟨?_, ?_⟩
    · rw [ruled, hall]
      exact hserver
    · intro lines' c' hperm hconf' hon'
      -- the verdict is that of a set of rules, and the two sets are the same
      have hmem : (∃ t ∈ serverRules lines', t.Matches hd memory r get) ↔
          ∃ t ∈ serverRules lines, t.Matches hd memory r get := by
        simp only [(serverRules_perm hperm).mem_iff]
      exact ruled_unique hmem (verdict_ruled hd hconf' hon' memory get r) hserver

/-! ## One rule at two places -/

lemma pageRule_matches (ip : Bytes) :
    RuleText.Matches smallHttpd [] (request none ip) none ⟨none, pageRule⟩ :=
  ⟨.default, str "/index.php", rfl, rfl, rfl⟩

/-- Outside of a section the rule is enforced. -/
theorem enforced_page :
    ∃ c, configure (fun _ => true) (pageLines none) = .ok c ∧ c.server.enabled = true ∧
      Enforced smallHttpd (fun _ => true) (pageLines none) c [] none
        (request none (str "192.0.2.1")) := by
  refine ⟨_, rfl, rfl, ?_⟩
  refine (enforced_iff smallHttpd (fun _ => true) (pageLines none) _ rfl rfl [] none _).2 ?_
  exact Or.inl ⟨⟨none, pageRule⟩, List.mem_singleton_self _, pageRule_matches _⟩

/-- In a section it is accepted and matches, and the request is declined and not reported. -/
theorem section_rule_ignored :
    ∃ c, configure (fun _ => true) (pageLines (some (str "/srv/www"))) = .ok c ∧
      c.server.enabled = true ∧
      (⟨none, pageRule⟩ : RuleText) ∈ dirRules (pageLines (some (str "/srv/www"))) ∧
      RuleText.Matches smallHttpd [] (request none (str "192.0.2.1")) none ⟨none, pageRule⟩ ∧
      verdict smallHttpd c [] none (request none (str "192.0.2.1")) = (.declined, []) ∧
      ¬ Enforced smallHttpd (fun _ => true) (pageLines (some (str "/srv/www"))) c [] none
        (request none (str "192.0.2.1")) := by
  refine ⟨_, rfl, rfl, List.mem_singleton_self _, pageRule_matches _, rfl, ?_⟩
  rintro ⟨hexact, -⟩
  rcases hexact with ⟨-, hforbidden⟩ | ⟨hnot, -⟩
  · cases hforbidden
  · exact hnot ⟨⟨none, pageRule⟩, List.mem_singleton_self _, pageRule_matches _⟩

end Apache
end Banip
