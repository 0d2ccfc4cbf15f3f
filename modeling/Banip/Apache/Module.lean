import Banip.Lib.CString

/-!
# Module — the fixup hook of `mod_banip.c`

For every request the module walks over the rules of the server: it looks up the variable of the rule
in the request and compares it with the pattern; the first rule that matches sends the address of the
client to the queue and forbids the request.

The query parameters of a `GET:` rule are read from a table that `lookup_get` keeps in the
per-directory configuration.  The configuration lives as long as the server, the table as long as the
request that made it: what a later request finds there is up to the allocator, and an argument of the
model.
-/

namespace Banip
namespace Apache

open Lib

/-! ## What the server provides -/

/-- `apr_table_t`. -/
abbrev Table : Type := List (Bytes × Bytes)

/-- `tolower` in the C locale. -/
def lower (c : Byte) : Byte := if 65 ≤ c.toNat ∧ c.toNat ≤ 90 then c + 32 else c

/-- `apr_table_get`: the value of the first key that is `name`, in upper or lower case. -/
def tableGet (t : Table) (name : Bytes) : Option Bytes :=
  (t.find? fun entry => entry.1.map lower = name.map lower).map Prod.snd

/-- The fields of a `request_rec` that the module reads. -/
structure Request where
  uri : Bytes
  args : Option Bytes
  headersIn : Table
  subprocessEnv : Table
  notes : Table
  useragentIp : Bytes
deriving DecidableEq, Repr

/-- The functions of the server and its libraries: `ap_regexec` on a compiled pattern,
`ap_args_to_table` on the query string, and `getenv`. -/
structure Httpd where
  regexec : Bytes → Bytes → Int
  argsToTable : Option Bytes → Table
  getenv : Bytes → Option Bytes

/-! ## Configurations -/

/-- `rule->compiler`, with the `rule->regexp` that its `compile` leaves. -/
inductive PatternCompiler where
  | regex (regexp : Bytes)
  | string
deriving DecidableEq, Repr

/-- `banip_rule`. -/
structure BanipRule where
  what : Option Bytes
  pattern : Bytes
  compiler : PatternCompiler
deriving DecidableEq, Repr

/-- `rule->compiler->compare`. -/
def BanipRule.compare (hd : Httpd) (rule : BanipRule) (string : Bytes) : Int :=
  match rule.compiler with
  | .regex regexp => hd.regexec regexp string
  | .string => strcmp rule.pattern string

/-- `banip_server_conf`. -/
structure ServerConf where
  queue : Option Bytes
  enabled : Bool
  rules : List BanipRule
deriving DecidableEq, Repr

/-- What `dconf->get` points to, if it is not NULL: a table of the request at hand, or the freed table
of an earlier one. -/
inductive Query where
  | own (table : Table)
  | stale
deriving DecidableEq, Repr

/-- `banip_perdir_conf`. -/
structure PerdirConf where
  get : Option Query
  rules : List BanipRule
deriving DecidableEq, Repr

/-! ## Variables -/

/-- The entries of `variables`, with the name that is looked up. -/
inductive Variable where
  | default
  | env (name : Bytes)
  | get (name : Bytes)
  | http (name : Bytes)
  | post (name : Bytes)
deriving DecidableEq, Repr

/-- `variables`: the text in front of the name and the lookup; the first entry has none. -/
def variablesTable : List (Option Bytes × (Bytes → Variable)) :=
  [(none, fun _ => .default), (some (str "ENV:"), .env), (some (str "GET:"), .get),
    (some (str "HTTP:"), .http), (some (str "POST:"), .post)]

/-- The test of the inner loop: two null pointers, or `strncmp` over the length of the first. -/
def fits : Option Bytes → Option Bytes → Bool
  | none, none => true
  | some start, some what => start.isPrefixOf what
  | _, _ => false

/-- The inner loop of `banip_fixup`: the variable of a rule, if it has one. -/
def variableOf (what : Option Bytes) : Option Variable :=
  (variablesTable.find? fun v => fits v.1 what).map fun v =>
    v.2 ((what.getD []).drop ((v.1.map List.length).getD 0))

example : variableOf (some (str "GET:option")) = some (.get (str "option")) := by decide

/-- Whether a table was the request's own. -/
inductive Origin where
  | own
  | stale
deriving DecidableEq, Repr

/-- The result of a lookup: the string, `dconf->get` after it, and the query tables that were read. -/
structure Looked where
  string : Option Bytes
  get : Option Query
  reads : List Origin
deriving DecidableEq, Repr

/-- `lookup_env`. -/
def lookupEnv (hd : Httpd) (r : Request) (name : Bytes) : Option Bytes :=
  ((tableGet r.subprocessEnv name).orElse fun _ => tableGet r.notes name).orElse
    fun _ => hd.getenv name

/-- `lookup_get`, where `memory` is what the memory of a freed table reads as. -/
def lookupGet (hd : Httpd) (memory : Table) (r : Request) (get : Option Query) (name : Bytes) :
    Looked :=
  match get with
  | none =>
    let table := hd.argsToTable r.args
    ⟨tableGet table name, some (.own table), [.own]⟩
  | some (.own table) => ⟨tableGet table name, get, [.own]⟩
  | some .stale => ⟨tableGet memory name, get, [.stale]⟩

/-- `variables[j].lookup`. -/
def lookup (hd : Httpd) (memory : Table) (r : Request) (get : Option Query) : Variable → Looked
  | .default => ⟨some r.uri, get, []⟩
  | .env name => ⟨lookupEnv hd r name, get, []⟩
  | .get name => lookupGet hd memory r get name
  | .http name => ⟨tableGet r.headersIn name, get, []⟩
  | .post _ => ⟨none, get, []⟩

/-! ## The hook -/

inductive Status where
  | declined
  | forbidden
deriving DecidableEq, Repr

/-- What the hook did: its result, the messages it sent and the query tables it read. -/
structure Outcome where
  status : Status
  sent : List Bytes
  reads : List Origin
deriving DecidableEq, Repr

/-- The loop of `banip_fixup` over the rules. -/
def fixupLoop (hd : Httpd) (memory : Table) (r : Request) :
    List BanipRule → Option Query → List Origin → Outcome × Option Query
  | [], get, reads => (⟨.declined, [], reads⟩, get)
  | rule :: rules, get, reads =>
    match variableOf rule.what with
    | none => fixupLoop hd memory r rules get reads
    | some v =>
      let found := lookup hd memory r get v
      match found.string with
      | none => fixupLoop hd memory r rules found.get (reads ++ found.reads)
      | some string =>
        if rule.compare hd string = 0 then
          (⟨.forbidden, [r.useragentIp], reads ++ found.reads⟩, found.get)
        else fixupLoop hd memory r rules found.get (reads ++ found.reads)

/-- `banip_fixup`. -/
def banipFixup (hd : Httpd) (sconf : ServerConf) (memory : Table) (dconf : PerdirConf)
    (r : Request) : Outcome × PerdirConf :=
  if !sconf.enabled then (⟨.declined, [], []⟩, dconf)
  else
    let (outcome, get) := fixupLoop hd memory r sconf.rules dconf.get []
    (outcome, { dconf with get := get })

/-- The pool of the request is destroyed, with the table it made. -/
def PerdirConf.endRequest (dconf : PerdirConf) : PerdirConf :=
  { dconf with get := dconf.get.map fun _ => .stale }

/-- An earlier request, and what the memory of a freed table read as while it was handled. -/
structure Past where
  request : Request
  memory : Table

/-- The per-directory configuration after some requests. -/
def afterRequests (hd : Httpd) (sconf : ServerConf) (dconf : PerdirConf) (past : List Past) :
    PerdirConf :=
  past.foldl (fun d p => (banipFixup hd sconf p.memory d p.request).2.endRequest) dconf

end Apache
end Banip
