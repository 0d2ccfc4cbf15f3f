import Banip.Apache.Module
import Banip.Lib.Runs

/-!
# Config — the directives of `mod_banip.c`

The server hands each directive to its handler, in the order of the configuration file.  A directive
outside of a section changes the server's configuration; in a directory section, where `cmd->path` is
not NULL, a rule is stored in the configuration of the directory.  A handler that returns a text
stops the start of the server.

`configured` reads the resulting configurations off the list of directives, and `exec_readLine` says
that the handlers arrive at them.
-/

namespace Banip
namespace Apache

open Lib

/-! ## Handlers -/

/-- A directive with its arguments. -/
inductive Directive where
  | enable (flag : Bool)
  | queue (arg : Bytes)
  | rule (argv : List CText)
deriving DecidableEq

/-- A line of the configuration file; `path` is `cmd->path`. -/
structure Line where
  path : Option Bytes
  directive : Directive
deriving DecidableEq

/-- The configuration of the server and that of one directory section. -/
structure Confs where
  server : ServerConf
  perdir : PerdirConf
deriving DecidableEq, Repr

/-- `config_server_create`. -/
def configServerCreate : ServerConf := ⟨none, false, []⟩

/-- `config_perdir_create`. -/
def configPerdirCreate : PerdirConf := ⟨none, []⟩

/-- `cmd_banip_enable`; the branch for a section is empty. -/
def cmdBanipEnable (path : Option Bytes) (flag : Bool) (c : Confs) : Confs :=
  match path with
  | none => { c with server := { c.server with enabled := flag } }
  | some _ => c

/-- `cmd_banip_queue`. -/
def cmdBanipQueue (arg : Bytes) (c : Confs) : Confs :=
  { c with server := { c.server with queue := some arg } }

/-- `compile_rule`, with the two `compile` functions; `pregcomp` says whether `ap_pregcomp` accepts a
pattern. -/
def compileRule (pregcomp : Bytes → Bool) (what : Option Bytes) (pattern : Bytes) :
    Except Bytes BanipRule :=
  if pattern.head? = some (chr '=') then
    -- skip the initial `=`
    .ok ⟨what, pattern.drop 1, .string⟩
  else if pregcomp pattern then .ok ⟨what, pattern, .regex pattern⟩
  else .error (str "BanIPRule: cannot compile regular expression '" ++ pattern ++ str "'")

/-- `apr_array_push` to the rules of the server or of the directory. -/
def storeRule (path : Option Bytes) (rule : BanipRule) (c : Confs) : Confs :=
  match path with
  | none => { c with server := { c.server with rules := c.server.rules ++ [rule] } }
  | some _ => { c with perdir := { c.perdir with rules := c.perdir.rules ++ [rule] } }

/-- `cmd_banip_rule`. -/
def cmdBanipRule (pregcomp : Bytes → Bool) (path : Option Bytes) (argv : List CText) (c : Confs) :
    Except Bytes Confs :=
  match argv with
  | [pattern] => (compileRule pregcomp none pattern.1).map (storeRule path · c)
  | [what, pattern] => (compileRule pregcomp (some what.1) pattern.1).map (storeRule path · c)
  | _ => .error (str "BanIPRule: too many arguments")

/-- One line of the configuration file. -/
def readLine (pregcomp : Bytes → Bool) (c : Confs) (l : Line) : Except Bytes Confs :=
  match l.directive with
  | .enable flag => .ok (cmdBanipEnable l.path flag c)
  | .queue arg => .ok (cmdBanipQueue arg c)
  | .rule argv => cmdBanipRule pregcomp l.path argv c

/-- The configurations that a list of directives leaves, or the text that stops the server. -/
def configure (pregcomp : Bytes → Bool) (lines : List Line) : Except Bytes Confs :=
  exec (readLine pregcomp) ⟨configServerCreate, configPerdirCreate⟩ lines

/-! ## What a list of directives says -/

/-- A rule as it is written: the variable, if one is named, and the pattern. -/
structure RuleText where
  what : Option Bytes
  pattern : CText
deriving DecidableEq

/-- The rule of a line. -/
def ruleText (l : Line) : Option RuleText :=
  match l.directive with
  | .rule [pattern] => some ⟨none, pattern⟩
  | .rule [what, pattern] => some ⟨some what.1, pattern⟩
  | _ => none

/-- The rules outside of the section. -/
def serverRules (lines : List Line) : List RuleText :=
  (lines.filter fun l => l.path.isNone).filterMap ruleText

/-- The rules of the section. -/
def dirRules (lines : List Line) : List RuleText :=
  (lines.filter fun l => l.path.isSome).filterMap ruleText

/-- The last `BanIPQueue`. -/
def lastQueue : List Line → Option Bytes
  | [] => none
  | l :: lines =>
    match l.directive with
    | .queue arg => (lastQueue lines).or (some arg)
    | _ => lastQueue lines

/-- The last `BanIPEnable` outside of the section. -/
def lastEnable : List Line → Option Bool
  | [] => none
  | l :: lines =>
    match l.directive, l.path with
    | .enable flag, none => (lastEnable lines).or (some flag)
    | _, _ => lastEnable lines

/-- What the handler stores for an accepted rule. -/
def RuleText.compiled (t : RuleText) : BanipRule :=
  if t.pattern.1.head? = some (chr '=') then ⟨t.what, t.pattern.1.drop 1, .string⟩
  else ⟨t.what, t.pattern.1, .regex t.pattern.1⟩

/-- `c` after the directives. -/
def configured (c : Confs) (lines : List Line) : Confs where
  server :=
    { queue := (lastQueue lines).or c.server.queue
      enabled := (lastEnable lines).getD c.server.enabled
      rules := c.server.rules ++ (serverRules lines).map RuleText.compiled }
  perdir := { c.perdir with rules := c.perdir.rules ++ (dirRules lines).map RuleText.compiled }

/-! ## The handlers one by one and in a row -/

section

variable {pregcomp : Bytes → Bool} {c c' : Confs} {l : Line} {lines : List Line}

lemma compileRule_ok {t : RuleText} {rule : BanipRule}
    (h : compileRule pregcomp t.what t.pattern.1 = .ok rule) : rule = t.compiled := by
  unfold compileRule at h
  unfold RuleText.compiled
  by_cases heq : t.pattern.1.head? = some (chr '=')
  · rw [if_pos heq] at h ⊢
    cases h
    rfl
  · rw [if_neg heq] at h ⊢
    cases hcomp : pregcomp t.pattern.1 with
    | true =>
      rw [if_pos hcomp] at h
      cases h
      rfl
    | false => simp [hcomp] at h

/-- An accepted rule is one of the two forms, and it is stored at the end. -/
lemma cmdBanipRule_ok {path : Option Bytes} {argv : List CText}
    (h : cmdBanipRule pregcomp path argv c = .ok c') :
    ∃ t, ruleText ⟨path, .rule argv⟩ = some t ∧ c' = storeRule path t.compiled c := by
  have hstored : ∀ t : RuleText,
      (compileRule pregcomp t.what t.pattern.1).map (storeRule path · c) = .ok c' →
        c' = storeRule path t.compiled c := by
    intro t ht
    rcases map_eq_ok.1 ht with ⟨rule, hrule, rfl⟩
    rw [compileRule_ok hrule]
  match argv, h with
  | [], h => cases h
  | [pattern], h => exact ⟨⟨none, pattern⟩, rfl, hstored _ h⟩
  | [what, pattern], h => exact ⟨⟨some what.1, pattern⟩, rfl, hstored ⟨some what.1, pattern⟩ h⟩
  | _ :: _ :: _ :: _, h => cases h

lemma configured_nil (c : Confs) : configured c [] = c := by
  simp [configured, serverRules, dirRules, lastQueue, lastEnable]

/-- A line that is not a rule adds none. -/
lemma rules_cons_none (hl : ruleText l = none) (p : Line → Bool) (lines : List Line) :
    ((l :: lines).filter p).filterMap ruleText = (lines.filter p).filterMap ruleText := by
  rw [List.filter_cons]
  split
  · rw [List.filterMap_cons_none hl]
  · rfl

/-- What one accepted line does is what `configured` says of it, in front of any other lines. -/
lemma configured_cons (h : readLine pregcomp c l = .ok c') (lines : List Line) :
    configured c (l :: lines) = configured c' lines := by
  rcases l with ⟨path, directive⟩
  cases directive with
  | enable flag =>
    cases h
    have hnone : ruleText ⟨path, .enable flag⟩ = none := rfl
    simp only [configured, serverRules, dirRules, rules_cons_none hnone, lastQueue, lastEnable]
    cases path with
    | none => cases lastEnable lines <;> rfl
    | some p => rfl
  | queue arg =>
    cases h
    have hnone : ruleText ⟨path, .queue arg⟩ = none := rfl
    simp only [configured, serverRules, dirRules, rules_cons_none hnone, lastQueue, lastEnable]
    cases lastQueue lines <;> rfl
  | rule argv =>
    rcases cmdBanipRule_ok h with ⟨t, ht, rfl⟩
    -- the path decides to which of the two lists the rule is appended
    cases path with
    | none => simp [configured, storeRule, serverRules, dirRules, ht, lastQueue, lastEnable]
    | some p => simp [configured, storeRule, serverRules, dirRules, ht, lastQueue, lastEnable]

/-- The handlers leave what the directives say. -/
theorem exec_readLine (h : exec (readLine pregcomp) c lines = .ok c') : c' = configured c lines := by
  induction lines generalizing c with
  | nil =>
    cases h
    rw [configured_nil]
  | cons l lines ih =>
    -- the line is moved from the list to the configurations it starts from
    rcases exec_cons_ok.1 h with ⟨c₁, hline, hrest⟩
    rw [ih hrest, configured_cons hline]

/-- Whether a line is accepted does not depend on the lines before it. -/
lemma readLine_anywhere (h : readLine pregcomp c l = .ok c') (d : Confs) :
    ∃ d', readLine pregcomp d l = .ok d' := by
  rcases l with ⟨path, directive⟩
  have hcompiled : ∀ what pattern,
      (compileRule pregcomp what pattern).map (storeRule path · c) = .ok c' →
        ∃ d', (compileRule pregcomp what pattern).map (storeRule path · d) = .ok d' := by
    intro what pattern hmap
    rcases map_eq_ok.1 hmap with ⟨rule, hrule, -⟩
    exact ⟨_, map_eq_ok.2 ⟨rule, hrule, rfl⟩⟩
  match directive, h with
  | .enable flag, _ => exact ⟨_, rfl⟩
  | .queue arg, _ => exact ⟨_, rfl⟩
  | .rule [pattern], h => exact hcompiled none pattern.1 h
  | .rule [what, pattern], h => exact hcompiled (some what.1) pattern.1 h

lemma exec_readLine_anywhere (h : exec (readLine pregcomp) c lines = .ok c') (d : Confs) :
    exec (readLine pregcomp) d lines = .ok (configured d lines) := by
  induction lines generalizing c d with
  | nil => rw [exec_nil, configured_nil]
  | cons l lines ih =>
    rcases exec_cons_ok.1 h with ⟨c₁, hline, hrest⟩
    rcases readLine_anywhere hline d with ⟨d₁, hd₁⟩
    refine exec_cons_ok.2 ⟨d₁, hd₁, ?_⟩
    rw [configured_cons hd₁]
    exact ih hrest d₁

end

/-! ## A small site -/

/-- `BanIPRule =/index.php` -/
def pageRule : CText := ⟨str "=/index.php", by decide⟩

/-- `BanIPEnable on`, `BanIPQueue /banip`, and the rule outside or inside of a section. -/
def pageLines (path : Option Bytes) : List Line :=
  [⟨none, .enable true⟩, ⟨none, .queue (str "/banip")⟩, ⟨path, .rule [pageRule]⟩]

end Apache
end Banip
