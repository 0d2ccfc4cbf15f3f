import Banip.Apache.Module

/-!
# Isolation — the verdict on a request and the requests before it

The verdict on a request should depend on the configuration and the request alone.  It does as long as
the walk over the rules comes to no `GET:` rule: the first one it comes to fills `dconf->get`, and from
then on every request of the directory reads that table, after it was freed with the request that made
it.
-/

namespace Banip
namespace Apache

open Lib

/-! ## Rules and a request of their own -/

/-- The rule is about a query parameter. -/
def isGet (rule : BanipRule) : Bool :=
  match variableOf rule.what with
  | some (.get _) => true
  | _ => false

/-- The rule matches the request, with the query string of the request itself. -/
def ruleMatches (hd : Httpd) (r : Request) (rule : BanipRule) : Bool :=
  match variableOf rule.what with
  | none => false
  | some v =>
    match (lookup hd [] r none v).string with
    | none => false
    | some string => rule.compare hd string = 0

/-- In front of every `GET:` rule there is a rule that the request matches. -/
def NoGetReached (hd : Httpd) (r : Request) (rules : List BanipRule) : Prop :=
  ∀ front rule back, rules = front ++ rule :: back → isGet rule = true →
    ∃ earlier ∈ front, ruleMatches hd r earlier = true

/-! ## Isolation -/

/-- What the hook does on `r` after the requests `past`, in a directory with the rules `dirRules`. -/
def handled (hd : Httpd) (sconf : ServerConf) (dirRules : List BanipRule) (r : Request)
    (past : List Past) (memory : Table) : Outcome :=
  (banipFixup hd sconf memory (afterRequests hd sconf ⟨none, dirRules⟩ past) r).1

/-- The requests before `r`, and what is left of them in memory, have no influence on `r`. -/
structure Isolated (hd : Httpd) (sconf : ServerConf) (dirRules : List BanipRule) (r : Request) :
    Prop where
  /-- The request is forbidden and one message sent, or declined and none. -/
  shape : ∀ past memory,
    (handled hd sconf dirRules r past memory).status = .forbidden ∧
        (handled hd sconf dirRules r past memory).sent = [r.useragentIp] ∨
      (handled hd sconf dirRules r past memory).status = .declined ∧
        (handled hd sconf dirRules r past memory).sent = []
  verdict : ∀ past memory past' memory',
    (handled hd sconf dirRules r past memory).status =
        (handled hd sconf dirRules r past' memory').status ∧
      (handled hd sconf dirRules r past memory).sent =
        (handled hd sconf dirRules r past' memory').sent
  /-- A `GET:` rule is evaluated on the query string of `r`. -/
  own : ∀ past memory, ∀ o ∈ (handled hd sconf dirRules r past memory).reads, o = .own

section

variable {hd : Httpd} {memory : Table} {r : Request} {rule : BanipRule} {rules : List BanipRule}
  {get : Option Query} {reads : List Origin}

/-! ## The rules one by one -/

lemma noGetReached_nil : NoGetReached hd r [] := by
  intro front rule back heq
  cases front <;> cases heq

lemma noGetReached_cons :
    NoGetReached hd r (rule :: rules) ↔
      isGet rule = false ∧ (ruleMatches hd r rule = true ∨ NoGetReached hd r rules) := by
  constructor
  · intro hno
    constructor
    · by_contra hget
      rcases hno [] rule rules rfl (by simpa using hget) with ⟨earlier, hmem, -⟩
      cases hmem
    · by_cases hmatch : ruleMatches hd r rule = true
      · exact Or.inl hmatch
      · -- the rule that matches stands further back, since this one does not match
        refine Or.inr ?_
        rintro front rule' back rfl hget
        rcases hno (rule :: front) rule' back rfl hget with ⟨earlier, hmem, hearlier⟩
        rcases List.mem_cons.1 hmem with rfl | hmem
        · exact absurd hearlier hmatch
        · exact ⟨earlier, hmem, hearlier⟩
  · rintro ⟨hplain, hrest⟩ front rule' back heq hget
    cases front with
    | nil =>
      cases heq
      rw [hplain] at hget
      cases hget
    | cons first front =>
      cases heq
      rcases hrest with hmatch | hno
      · exact ⟨rule, List.mem_cons_self, hmatch⟩
      · rcases hno front rule' back rfl hget with ⟨earlier, hmem, hearlier⟩
        exact ⟨earlier, List.mem_cons_of_mem _ hmem, hearlier⟩

/-- A rule that is not about the query neither reads nor changes `dconf->get`. -/
lemma fixupLoop_plain (hplain : isGet rule = false) :
    fixupLoop hd memory r (rule :: rules) get reads =
      if ruleMatches hd r rule = true then (⟨.forbidden, [r.useragentIp], reads⟩, get)
      else fixupLoop hd memory r rules get reads := by
  unfold isGet at hplain
  rw [fixupLoop]
  cases hv : variableOf rule.what with
  | none =>
    have hmatch : ruleMatches hd r rule = false := by simp [ruleMatches, hv]
    simp [hmatch]
  | some v =>
    -- every lookup but that of a query parameter is a function of the request
    have hlookup : lookup hd memory r get v = ⟨(lookup hd [] r none v).string, get, []⟩ := by
      cases v with
      | get name => simp [hv] at hplain
      | default => rfl
      | env name => rfl
      | http name => rfl
      | post name => rfl
    simp only [hlookup, List.append_nil]
    cases hstring : (lookup hd [] r none v).string with
    | none =>
      have hmatch : ruleMatches hd r rule = false := by simp [ruleMatches, hv, hstring]
      simp [hmatch]
    | some string =>
      have hmatch : ruleMatches hd r rule = decide (rule.compare hd string = 0) := by
        simp [ruleMatches, hv, hstring]
      simp [hmatch]

/-- What a rule can do: it ends the walk or passes on, the tables that were read stay on record, and
`dconf->get` is not set to NULL. -/
lemma fixupLoop_step (hd : Httpd) (memory : Table) (r : Request) (rule : BanipRule)
    (rules : List BanipRule) (get : Option Query) (reads : List Origin) :
    ∃ get' reads', reads ⊆ reads' ∧ (get ≠ none → get' ≠ none) ∧
      (isGet rule = true → get' ≠ none ∧ (get = some .stale → .stale ∈ reads')) ∧
      (fixupLoop hd memory r (rule :: rules) get reads =
          (⟨.forbidden, [r.useragentIp], reads'⟩, get') ∨
        fixupLoop hd memory r (rule :: rules) get reads =
          fixupLoop hd memory r rules get' reads') := by
  cases hget : isGet rule with
  | false =>
    refine ⟨get, reads, List.Subset.refl _, id, by simp, ?_⟩
    rw [fixupLoop_plain hget]
    split
    · exact Or.inl rfl
    · exact Or.inr rfl
  | true =>
    have hv : ∃ name, variableOf rule.what = some (.get name) := by
      unfold isGet at hget
      split at hget
      · exact ⟨_, by assumption⟩
      · cases hget
    rcases hv with ⟨name, hv⟩
    -- `lookup_get` leaves a table in `dconf->get` whether or not it finds the parameter
    refine ⟨(lookupGet hd memory r get name).get, reads ++ (lookupGet hd memory r get name).reads,
      List.subset_append_left _ _, ?_, ?_, ?_⟩
    · intro _
      rcases get with _ | table | _ <;> simp [lookupGet]
    · intro _
      constructor
      · rcases get with _ | table | _ <;> simp [lookupGet]
      · rintro rfl
        simp [lookupGet]
    · rw [fixupLoop, hv]
      simp only [lookup]
      split
      · exact Or.inr rfl
      · split
        · exact Or.inl rfl
        · exact Or.inr rfl

/-! ## Walks over the rules -/

/-- The two verdicts. -/
lemma fixupLoop_shape (rules : List BanipRule) (get : Option Query) (reads : List Origin) :
    (fixupLoop hd memory r rules get reads).1.status = .forbidden ∧
        (fixupLoop hd memory r rules get reads).1.sent = [r.useragentIp] ∨
      (fixupLoop hd memory r rules get reads).1.status = .declined ∧
        (fixupLoop hd memory r rules get reads).1.sent = [] := by
  induction rules generalizing get reads with
  | nil => exact Or.inr ⟨rfl, rfl⟩
  | cons rule rules ih =>
    rcases fixupLoop_step hd memory r rule rules get reads with ⟨get', reads', -, -, -, heq | heq⟩
    · rw [heq]
      exact Or.inl ⟨rfl, rfl⟩
    · rw [heq]
      exact ih get' reads'

/-- A walk that comes to no `GET:` rule does not depend on `dconf->get` and leaves it alone. -/
lemma fixupLoop_isolated (hno : NoGetReached hd r rules) :
    ∃ status sent, ∀ memory get reads,
      fixupLoop hd memory r rules get reads = (⟨status, sent, reads⟩, get) := by
  induction rules with
  | nil => exact ⟨_, _, fun _ _ _ => rfl⟩
  | cons rule rules ih =>
    rcases noGetReached_cons.1 hno with ⟨hplain, hrest⟩
    cases hmatch : ruleMatches hd r rule with
    | true =>
      refine ⟨.forbidden, [r.useragentIp], ?_⟩
      intro memory get reads
      rw [fixupLoop_plain hplain, if_pos hmatch]
    | false =>
      have hrest' : NoGetReached hd r rules := by simpa [hmatch] using hrest
      rcases ih hrest' with ⟨status, sent, hloop⟩
      refine ⟨status, sent, ?_⟩
      intro memory get reads
      rw [fixupLoop_plain hplain, if_neg (by simp [hmatch]), hloop]

/-- What is on record stays on record. -/
lemma fixupLoop_reads (rules : List BanipRule) (get : Option Query) {reads : List Origin}
    {o : Origin} (ho : o ∈ reads) : o ∈ (fixupLoop hd memory r rules get reads).1.reads := by
  induction rules generalizing get reads with
  | nil => exact ho
  | cons rule rules ih =>
    rcases fixupLoop_step hd memory r rule rules get reads with
      ⟨get', reads', hsub, -, -, heq | heq⟩
    · rw [heq]
      exact hsub ho
    · rw [heq]
      exact ih get' (hsub ho)

lemma fixupLoop_get (rules : List BanipRule) {get : Option Query} (reads : List Origin)
    (hget : get ≠ none) : (fixupLoop hd memory r rules get reads).2 ≠ none := by
  induction rules generalizing get reads with
  | nil => exact hget
  | cons rule rules ih =>
    rcases fixupLoop_step hd memory r rule rules get reads with
      ⟨get', reads', -, hkeep, -, heq | heq⟩
    · rw [heq]
      exact hkeep hget
    · rw [heq]
      exact ih reads' (hkeep hget)

/-- A walk that comes to a `GET:` rule fills `dconf->get`, and reads a freed table if it finds one. -/
lemma fixupLoop_reached (hreach : ¬ NoGetReached hd r rules) (get : Option Query)
    (reads : List Origin) :
    (fixupLoop hd memory r rules get reads).2 ≠ none ∧
      (get = some .stale → .stale ∈ (fixupLoop hd memory r rules get reads).1.reads) := by
  induction rules with
  | nil => exact absurd noGetReached_nil hreach
  | cons rule rules ih =>
    cases hget : isGet rule with
    | true =>
      -- the first `GET:` rule is this one, and the rest of the walk keeps what it did
      rcases fixupLoop_step hd memory r rule rules get reads with
        ⟨get', reads', -, -, hfills, heq | heq⟩
      · rw [heq]
        exact hfills hget
      · rw [heq]
        exact ⟨fixupLoop_get rules reads' (hfills hget).1,
          fun hstale => fixupLoop_reads rules get' ((hfills hget).2 hstale)⟩
    | false =>
      rw [noGetReached_cons, hget] at hreach
      simp only [true_and, not_or, Bool.not_eq_true] at hreach
      rw [fixupLoop_plain hget, if_neg (by simp [hreach.1])]
      exact ih hreach.2

/-! ## Requests one after the other -/

variable {sconf : ServerConf}

lemma handled_off (hoff : sconf.enabled = false) (dirRules : List BanipRule) (past : List Past)
    (memory : Table) : handled hd sconf dirRules r past memory = ⟨.declined, [], []⟩ := by
  simp [handled, banipFixup, hoff]

lemma handled_on (hon : sconf.enabled = true) (dirRules : List BanipRule) (past : List Past)
    (memory : Table) :
    handled hd sconf dirRules r past memory =
      (fixupLoop hd memory r sconf.rules
        (afterRequests hd sconf ⟨none, dirRules⟩ past).get []).1 := by
  simp [handled, banipFixup, hon]

/-- A request that comes to a `GET:` rule leaves its table behind. -/
lemma afterRequests_stale (hon : sconf.enabled = true) (hreach : ¬ NoGetReached hd r sconf.rules)
    (dirRules : List BanipRule) :
    (afterRequests hd sconf ⟨none, dirRules⟩ [⟨r, []⟩]).get = some .stale := by
  have hfilled : (fixupLoop hd [] r sconf.rules none []).2 ≠ none :=
    (fixupLoop_reached hreach none []).1
  rcases Option.ne_none_iff_exists'.1 hfilled with ⟨query, hquery⟩
  simp [afterRequests, banipFixup, hon, PerdirConf.endRequest, hquery]

lemma isolated_of_off (hoff : sconf.enabled = false) (dirRules : List BanipRule) :
    Isolated hd sconf dirRules r := by
  refine ⟨?_, ?_, ?_⟩
  · intro past memory
    rw [handled_off hoff]
    exact Or.inr ⟨rfl, rfl⟩
  · intro past memory past' memory'
    rw [handled_off hoff, handled_off hoff]
    exact ⟨rfl, rfl⟩
  · intro past memory o ho
    rw [handled_off hoff] at ho
    cases ho

lemma isolated_of_noGetReached (hon : sconf.enabled = true)
    (hno : NoGetReached hd r sconf.rules) (dirRules : List BanipRule) :
    Isolated hd sconf dirRules r := by
  rcases fixupLoop_isolated hno with ⟨status, sent, hloop⟩
  refine ⟨?_, ?_, ?_⟩
  · intro past memory
    rw [handled_on hon]
    exact fixupLoop_shape _ _ _
  · intro past memory past' memory'
    rw [handled_on hon, handled_on hon, hloop, hloop]
    exact ⟨rfl, rfl⟩
  · intro past memory o ho
    rw [handled_on hon, hloop] at ho
    cases ho

end

/-- A request is isolated exactly when the module is off, or a rule that the request matches stands in
front of every `GET:` rule. -/
theorem isolated_iff (hd : Httpd) (sconf : ServerConf) (dirRules : List BanipRule) (r : Request) :
    Isolated hd sconf dirRules r ↔
      sconf.enabled = false ∨ NoGetReached hd r sconf.rules := by
  cases hon : sconf.enabled with
  | false => exact iff_of_true (isolated_of_off hon dirRules) (Or.inl rfl)
  | true =>
    constructor
    · intro hiso
      refine Or.inr ?_
      by_contra hreach
      -- the request itself, made before, leaves the table that is then read
      have hstale : .stale ∈ (fixupLoop hd [] r sconf.rules (some .stale) []).1.reads :=
        (fixupLoop_reached hreach (some .stale) []).2 rfl
      rw [← afterRequests_stale hon hreach dirRules, ← handled_on hon] at hstale
      cases hiso.own [⟨r, []⟩] [] .stale hstale
    · rintro (hoff | hno)
      · cases hoff
      · exact isolated_of_noGetReached hon hno dirRules

/-! ## The `GET:` rule of the README -/

/-- A server whose regular expressions are `.` only, with a plain reading of a query string. -/
def smallHttpd : Httpd where
  regexec := fun regexp string => if regexp = str "." ∧ string ≠ [] then 0 else 1
  argsToTable := fun args => ((args.getD []).splitOn (chr '&')).map fun field =>
    (field.takeWhile (· ≠ chr '='), (field.dropWhile (· ≠ chr '=')).drop 1)
  getenv := fun _ => none

/-- `BanIPEnable on`, `BanIPQueue /banip`, `BanIPRule GET:option .` -/
def optionConf : ServerConf :=
  ⟨some (str "/banip"), true, [⟨some (str "GET:option"), str ".", .regex (str ".")⟩]⟩

def request (args : Option Bytes) (ip : Bytes) : Request := ⟨str "/index.php", args, [], [], [], ip⟩

/-- A request for `/index.php` without a query is declined.  After a request of another client with
`option=com_foo` it is forbidden and its client banned, if the freed table still reads as it was. -/
theorem earlier_query_decides :
    handled smallHttpd optionConf [] (request none (str "192.0.2.2")) [] [] =
        ⟨.declined, [], [.own]⟩ ∧
      handled smallHttpd optionConf [] (request none (str "192.0.2.2"))
          [⟨request (some (str "option=com_foo")) (str "192.0.2.1"), []⟩]
          [(str "option", str "com_foo")] =
        ⟨.forbidden, [str "192.0.2.2"], [.stale]⟩ ∧
      ¬ Isolated smallHttpd optionConf [] (request none (str "192.0.2.2")) := by
  refine ⟨by decide, by decide, ?_⟩
  intro hiso
  have hverdict := (hiso.verdict [] []
    [⟨request (some (str "option=com_foo")) (str "192.0.2.1"), []⟩]
    [(str "option", str "com_foo")]).1
  revert hverdict
  decide

end Apache
end Banip
