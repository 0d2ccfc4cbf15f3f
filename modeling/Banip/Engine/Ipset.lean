import Banip.Engine.Inert
import Banip.Lib.Netfilter
import Banip.Lib.Runs

/-!
# Ipset — the ipset engine from `ipset_open` to the last message

`ipset_open` is meant to create a set for each family and to make the INPUT chain drop the packets of
both; `ipset_handle` then adds one address per message.  What a ban is worth is decided by the chain,
so this module follows the firewall through the commands.

`ipset_open` starts from `ok = false` and keeps it up with `ok &= ..`, so it leaves after its first
command, and it returns `!ok`.
-/

namespace Banip
namespace Ipset

open Lib

/-! ## Commands as they are run -/

/-- The firewall, and the command lines that were handed to the shell, with their status. -/
structure Console where
  firewall : Netfilter
  log : List (Bytes × Int)

/-- `system`. -/
def Console.system (sh : ShellRun) (c : Console) (command : Bytes) : Int × Console :=
  let r := sh c.log.length command c.firewall
  (r.1, ⟨r.2, c.log ++ [(command, r.1)]⟩)

/-- `run_command` on a formatted command line. -/
def Console.runCommand (sh : ShellRun) (c : Console) (command : Bytes) : Int × Console :=
  if commandSize ≤ command.length then (0, c) else c.system sh command

/-- The command lines of `ipset_open`; the last one is the third again. -/
def openCommands (tablename : Bytes) : List Bytes :=
  [str "ipset -! create " ++ tablename ++ str "4 hash:net family inet",
    str "ipset -! create " ++ tablename ++ str "6 hash:net family inet6",
    str "iptables -I INPUT -m set --match-set " ++ tablename ++ str "4 src -j DROP",
    str "iptables -I INPUT -m set --match-set " ++ tablename ++ str "4 src -j DROP"]

/-- The `do .. while (false)` of `ipset_open`: `ok` at its end, and the console. -/
def provision (sh : ShellRun) : List Bytes → Bool → Console → Bool × Console
  | [], _, c => (true, c)
  | command :: commands, ok, c =>
    let r := c.runCommand sh command
    -- `ok &= (EXIT_SUCCESS != run_command(..))`
    let ok := ok && r.1 != 0
    if !ok then (ok, r.2) else provision sh commands ok r.2

/-- `ipset_open`: whether the pointer it returns is not NULL, and the console. -/
def ipsetOpen (sh : ShellRun) (tablename : Bytes) (c : Console) : Bool × Console :=
  let r := provision sh (openCommands tablename) false c
  -- `return (void *) !ok`
  (!r.1, r.2)

/-- `ipset_handle`, with the console. -/
def ipsetBan (sh : ShellRun) (tablename : Bytes) (c : Console) (a : Addr) : Handled × Console :=
  let r := c.runCommand sh (ipsetCommand tablename a.fa a.humanrepr)
  (⟨r.1 = 0, none⟩, r.2)

/-- The verdict is that of `ipset_handle` on what `system` answers. -/
theorem ipsetBan_handled (sh : ShellRun) (tablename : Bytes) (c : Console) (a : Addr) :
    (ipsetBan sh tablename c a).1 =
      ipsetHandle (fun command => (c.system sh command).1) tablename a := by
  unfold ipsetBan ipsetHandle Console.runCommand Banip.runCommand
  split <;> rfl

/-- The engine at work: the console, and the addresses it reported as handled. -/
structure Service where
  console : Console
  handled : List Addr

/-- One message, which `parse_addr` reads with `errno` on entry. -/
def serve (h : Host) (L : LibC) (sh : ShellRun) (tablename : Bytes) (s : Service)
    (m : Nat × Bytes) : Service :=
  match parseAddr h L m.1 m.2 none with
  | .ok (some a, _) =>
    let r := ipsetBan sh tablename s.console a
    ⟨r.2, if r.1.ok then s.handled ++ [a] else s.handled⟩
  | _ => s

/-- The engine after `ipset_open` and some messages. -/
def session (h : Host) (L : LibC) (sh : ShellRun) (tablename : Bytes) (fw : Netfilter)
    (ms : List (Nat × Bytes)) : Service :=
  ms.foldl (serve h L sh tablename) ⟨(ipsetOpen sh tablename ⟨fw, []⟩).2, []⟩

/-! ## What the engine is for -/

/-- All commands were run, and every one exited with 0. -/
def AllSucceeded (tablename : Bytes) (c : Console) : Prop :=
  c.log = (openCommands tablename).map fun command => (command, 0)

/-- Both sets are there and the chain drops what is in them. -/
def Provisioned (tablename : Bytes) (fw : Netfilter) : Prop :=
  ∀ f ∈ [Family.inet, .inet6], (∃ s, fw.sets (familySet tablename f) = some s ∧ s.family = f) ∧
    .dropSet (familySet tablename f) ∈ fw.input

/-- The chain drops the packets of every address that was handled. -/
def Enforced (s : Service) : Prop :=
  ∀ a ∈ s.handled, ∀ x, inetPton a.fa a.humanrepr = some x →
    s.console.firewall.verdict ⟨a.fa, x⟩ = .drop

/-- The engine works from end to end. -/
structure EndToEnd (h : Host) (L : LibC) (sh : ShellRun) (tablename : Bytes) (fw : Netfilter) :
    Prop where
  returns : (ipsetOpen sh tablename ⟨fw, []⟩).1 = true ↔
    AllSucceeded tablename (ipsetOpen sh tablename ⟨fw, []⟩).2
  provisioned : (ipsetOpen sh tablename ⟨fw, []⟩).1 = true →
    Provisioned tablename (ipsetOpen sh tablename ⟨fw, []⟩).2.firewall
  enforced : (ipsetOpen sh tablename ⟨fw, []⟩).1 = true →
    ∀ ms, Enforced (session h L sh tablename fw ms)

/-- The commands of the engine on a table have their documented effect. -/
structure Documented (sh : ShellRun) (tablename : Bytes) : Prop where
  create : ∀ f, f = .inet ∨ f = .inet6 → sh.Performs (.create (familySet tablename f) f)
  insertDrop : ∀ f, sh.Performs (.insertDrop (familySet tablename f))
  add : ∀ f text, text ≠ [] → (∀ c ∈ text, addressChar c = true) →
    sh.Performs (.add (familySet tablename f) text)

/-- No rule looks at the sets of the table. -/
def Unruled (tablename : Bytes) (fw : Netfilter) : Prop :=
  ∀ f, .dropSet (familySet tablename f) ∉ fw.input

/-! ## `ipset_open` -/

section

variable (sh : ShellRun) (tablename : Bytes) (c : Console)

/-- Only the first command is run, and the result is not NULL whatever it answers. -/
lemma ipsetOpen_eq : ipsetOpen sh tablename c =
    (true, (c.runCommand sh (str "ipset -! create " ++ tablename ++
      str "4 hash:net family inet")).2) := by
  simp [ipsetOpen, openCommands, provision]

lemma runCommand_log (command : Bytes) :
    (c.runCommand sh command).2.log.length ≤ c.log.length + 1 := by
  unfold Console.runCommand Console.system
  split
  · exact Nat.le_succ _
  · simp

/-- The result says nothing about the commands. -/
lemma ipsetOpen_not_allSucceeded (fw : Netfilter) :
    ¬ AllSucceeded tablename (ipsetOpen sh tablename ⟨fw, []⟩).2 := by
  intro hall
  have hlen := congrArg List.length hall
  have hone := runCommand_log sh ⟨fw, []⟩
    (str "ipset -! create " ++ tablename ++ str "4 hash:net family inet")
  rw [ipsetOpen_eq] at hlen
  rw [hlen] at hone
  simp [openCommands] at hone

end

/-! ## The firewall through the commands -/

section

variable {sh : ShellRun} {tablename : Bytes} {c : Console}

/-- A command that the shell performs has its effect or none. -/
lemma runCommand_effect {cmd : Command} (hcmd : sh.Performs cmd) :
    (c.runCommand sh cmd.text).2.firewall = c.firewall ∨
      cmd.apply c.firewall = some (c.runCommand sh cmd.text).2.firewall := by
  unfold Console.runCommand Console.system
  split
  · exact Or.inl rfl
  · rcases hcmd c.log.length c.firewall with ⟨hdone, hfailed⟩
    by_cases hstatus : (sh c.log.length cmd.text c.firewall).1 = 0
    · exact Or.inr (hdone hstatus)
    · exact Or.inl (hfailed hstatus)

lemma createText_eq : str "ipset -! create " ++ tablename ++ str "4 hash:net family inet" =
    (Command.create (familySet tablename .inet) .inet).text := by
  have htail : str "4 hash:net family inet" = chr '4' :: (str " hash:net family " ++ str "inet") := by
    decide
  simp only [Command.text, Command.familyName, familySet, htail, if_true, List.append_assoc,
    List.cons_append, List.nil_append]

lemma ipsetCommand_text (f : Family) (text : Bytes) :
    ipsetCommand tablename f text = (Command.add (familySet tablename f) text).text := by
  simp only [ipsetCommand, Command.text, familySet, List.append_assoc]

variable {h : Host} {L : LibC} {s : Service} {m : Nat × Bytes}

/-- The sets of a table. -/
def tableSets (tablename : Bytes) : List Bytes :=
  [familySet tablename .inet, familySet tablename .inet6]

lemma familySet_mem (f : Family) : familySet tablename f ∈ tableSets tablename := by
  by_cases hf : f = .inet
  · simp [tableSets, hf]
  · simp [tableSets, familySet, hf]

/-- A message is not accepted and changes nothing, or its address goes to `ipset_handle`. -/
lemma serve_cases (h : Host) (L : LibC) (sh : ShellRun) (tablename : Bytes) (s : Service)
    (m : Nat × Bytes) :
    serve h L sh tablename s m = s ∨
      ∃ a x, inetPton a.fa a.humanrepr = some x ∧ (a.fa = .inet ∨ a.fa = .inet6) ∧
        serve h L sh tablename s m =
          ⟨(ipsetBan sh tablename s.console a).2,
            if (ipsetBan sh tablename s.console a).1.ok then s.handled ++ [a] else s.handled⟩ := by
  unfold serve
  split
  · rename_i a e hparse
    rcases parseAddr_some hparse with ⟨f, x, n, hpton, -, rfl⟩
    refine Or.inr ⟨_, x, hpton, ?_, rfl⟩
    cases f with
    | inet => exact Or.inl rfl
    | inet6 => exact Or.inr rfl
    | other n => cases hpton
  · exact Or.inl rfl

/-- The shell performs the command for an address. -/
lemma Documented.performs_add (hsh : Documented sh tablename) {f : Family} {text x : Bytes}
    (hpton : inetPton f text = some x) : sh.Performs (.add (familySet tablename f) text) := by
  rcases inetPton_text hpton with ⟨hne, hchars⟩
  exact hsh.add f text hne hchars

lemma ipsetOpen_sameBut (hsh : Documented sh tablename) (fw : Netfilter) :
    Netfilter.SameBut (tableSets tablename) fw (ipsetOpen sh tablename ⟨fw, []⟩).2.firewall := by
  rw [ipsetOpen_eq, createText_eq]
  rcases runCommand_effect (c := ⟨fw, []⟩) (hsh.create .inet (Or.inl rfl)) with hsame | happly
  · rw [hsame]
    exact .refl _ _
  · exact (Command.sameBut_create happly).mono (by simp [familySet_mem])

lemma serve_sameBut (hsh : Documented sh tablename) :
    Netfilter.SameBut (tableSets tablename) s.console.firewall
      (serve h L sh tablename s m).console.firewall := by
  rcases serve_cases h L sh tablename s m with hsame | ⟨a, x, hpton, -, hserve⟩
  · rw [hsame]
    exact .refl _ _
  · rw [hserve]
    dsimp only [ipsetBan]
    rw [ipsetCommand_text]
    rcases runCommand_effect (c := s.console) (hsh.performs_add hpton) with hsame | happly
    · rw [hsame]
      exact .refl _ _
    · exact (Command.sameBut_add happly).mono (by simp [familySet_mem])

/-- The whole session touches nothing but the two sets. -/
theorem session_sameBut (hsh : Documented sh tablename) (fw : Netfilter) (ms : List (Nat × Bytes)) :
    Netfilter.SameBut (tableSets tablename) fw
      (session h L sh tablename fw ms).console.firewall := by
  have hstep : ∀ (s : Service) (m : Nat × Bytes),
      Netfilter.SameBut (tableSets tablename) fw s.console.firewall →
      Netfilter.SameBut (tableSets tablename) fw
        (serve h L sh tablename s m).console.firewall := by
    intro s m hs
    exact hs.trans (serve_sameBut hsh)
  exact foldl_preserves hstep (ipsetOpen_sameBut hsh fw) ms

end

/-- `ipset_open` never does its work and never says so, and no session of messages changes what the
INPUT chain says of any packet. -/
theorem ipset_never_enforces (h : Host) (L : LibC) (sh : ShellRun) (tablename : Bytes)
    (fw : Netfilter) :
    ¬ EndToEnd h L sh tablename fw ∧
      (ipsetOpen sh tablename ⟨fw, []⟩).1 = true ∧
      ¬ AllSucceeded tablename (ipsetOpen sh tablename ⟨fw, []⟩).2 ∧
      (Documented sh tablename → Unruled tablename fw →
        ¬ Provisioned tablename (ipsetOpen sh tablename ⟨fw, []⟩).2.firewall ∧
          ∀ ms p, (session h L sh tablename fw ms).console.firewall.verdict p = fw.verdict p) := by
  have hret : (ipsetOpen sh tablename ⟨fw, []⟩).1 = true := by rw [ipsetOpen_eq]
  have hnot := ipsetOpen_not_allSucceeded sh tablename fw
  refine ⟨fun hend => hnot (hend.returns.1 hret), hret, hnot, ?_⟩
  intro hsh hrules
  constructor
  · -- the one command that is run makes a set, and no rule
    intro hprov
    have hrule := (hprov .inet (by simp)).2
    rw [(ipsetOpen_sameBut hsh fw).input] at hrule
    exact hrules .inet hrule
  · -- a packet cannot tell two firewalls apart that differ in sets no rule looks at
    intro ms p
    refine (session_sameBut hsh fw ms).verdict_eq ?_ p
    intro set hset
    simp only [tableSets, List.mem_cons, List.not_mem_nil, or_false] at hset
    rcases hset with rfl | rfl
    · exact hrules .inet
    · exact hrules .inet6

/-- For a table name that is a plain word, the literal shell is as documented. -/
lemma literal_documented {tablename : Bytes} (htable : Command.Plain tablename) :
    Documented ShellRun.literal tablename := by
  have hset : ∀ f, Command.Plain (familySet tablename f) := by
    intro f
    refine ⟨by simp [familySet], List.forall_mem_append.2 ⟨htable.2, ?_⟩⟩
    rw [List.forall_mem_singleton]
    split <;> decide
  refine ⟨?_, ?_, ?_⟩
  · intro f hf
    exact ShellRun.literal_performs (Command.ofFields_create (hset f) hf)
  · intro f
    exact ShellRun.literal_performs (Command.ofFields_insertDrop (hset f))
  · intro f text hne hchars
    exact ShellRun.literal_performs (Command.ofFields_add (hset f)
      ⟨hne, fun c hc => not_isMeta_of_addressChar (hchars c hc)⟩)

/-- A host that accepts everything. -/
def openHost : Netfilter := ⟨fun _ => none, [], .accept⟩

/-- With the table `blacklist` on such a host, where no command fails that can succeed, no ban ever
drops a packet. -/
theorem ipset_never_enforces_blacklist :
    ¬ EndToEnd Host.lp64 LibC.numeric ShellRun.literal (str "blacklist") openHost ∧
      ∀ ms p, (session Host.lp64 LibC.numeric ShellRun.literal (str "blacklist") openHost
        ms).console.firewall.verdict p = .accept := by
  rcases ipset_never_enforces Host.lp64 LibC.numeric ShellRun.literal (str "blacklist") openHost with
    ⟨hend, -, -, hverdict⟩
  have hdoc : Documented ShellRun.literal (str "blacklist") := literal_documented (by
    unfold Command.Plain
    decide)
  exact ⟨hend, (hverdict hdoc (fun f => List.not_mem_nil)).2⟩

/-- There `192.0.2.1` is handled, its packets are accepted, and the one command that `ipset_open` ran
did succeed. -/
theorem handled_address_accepted :
    (ipsetOpen ShellRun.literal (str "blacklist") ⟨openHost, []⟩).1 = true ∧
      (ipsetOpen ShellRun.literal (str "blacklist") ⟨openHost, []⟩).2.log =
        [(str "ipset -! create blacklist4 hash:net family inet", 0)] ∧
      (session Host.lp64 LibC.numeric ShellRun.literal (str "blacklist") openHost
        [(0, str "192.0.2.1")]).handled.map Addr.humanrepr = [str "192.0.2.1"] ∧
      (session Host.lp64 LibC.numeric ShellRun.literal (str "blacklist") openHost
        [(0, str "192.0.2.1")]).console.firewall.verdict ⟨.inet, [192, 0, 2, 1]⟩ = .accept ∧
      ¬ EndToEnd Host.lp64 LibC.numeric ShellRun.literal (str "blacklist") openHost := by
  refine ⟨rfl, by decide, by decide, by decide, ?_⟩
  intro hend
  exact ipsetOpen_not_allSucceeded _ _ _ (hend.returns.1 rfl)

/-! ## A firewall that was set up by hand -/

/-- Every command line of `ipset_handle` for the table fits `run_command`'s buffer. -/
def Fits (tablename : Bytes) : Prop :=
  ∀ f (text : Bytes), text.length ≤ 45 → (ipsetCommand tablename f text).length < commandSize

/-- Both sets are there and guarded, and hold every address that was handled. -/
structure Enforcing (tablename : Bytes) (s : Service) : Prop where
  guarded : ∀ f, s.console.firewall.Guarded (familySet tablename f)
  sets : ∀ f, f = .inet ∨ f = .inet6 →
    ∃ set, s.console.firewall.sets (familySet tablename f) = some set ∧ set.family = f
  members : ∀ a ∈ s.handled, ∀ x, inetPton a.fa a.humanrepr = some x →
    ∃ set, s.console.firewall.sets (familySet tablename a.fa) = some set ∧
      set.has ⟨a.fa, x⟩ = true

section

variable {h : Host} {L : LibC} {sh : ShellRun} {tablename : Bytes} {s : Service} {m : Nat × Bytes}

lemma Enforcing.enforced (henf : Enforcing tablename s) : Enforced s := by
  intro a ha x hpton
  rcases henf.members a ha x hpton with ⟨set, hset, hhas⟩
  exact Netfilter.verdict_of_guarded (henf.guarded a.fa) hset hhas

/-- A set that gained an address is still there, with what it had. -/
lemma putSet_keeps {fw : Netfilter} {set : Bytes} {old : IpSet} {y : Bytes}
    (hold : fw.sets set = some old) {set' : Bytes} {s' : IpSet} (hs' : fw.sets set' = some s') :
    ∃ t, (fw.putSet set (old.insert y)).sets set' = some t ∧ t.family = s'.family ∧
      ∀ p, s'.has p = true → t.has p = true := by
  by_cases hset : set' = set
  · subst hset
    cases hold.symm.trans hs'
    exact ⟨_, Netfilter.putSet_self _ _ _, rfl, fun p hp => IpSet.has_insert_of_has hp⟩
  · exact ⟨s', by rw [Netfilter.putSet_of_ne _ _ hset, hs'], rfl, fun p hp => hp⟩

/-- What `ipset_handle` did: its command failed and the firewall is as before, or the set of the family
gained the address. -/
lemma ipsetBan_effect (hsh : Documented sh tablename) (hfits : Fits tablename) (c : Console)
    {a : Addr} {x : Bytes} (hpton : inetPton a.fa a.humanrepr = some x) :
    ((ipsetBan sh tablename c a).1.ok = false ∧
        (ipsetBan sh tablename c a).2.firewall = c.firewall) ∨
      ∃ set y, c.firewall.sets (familySet tablename a.fa) = some set ∧
        inetPton set.family a.humanrepr = some y ∧
        (ipsetBan sh tablename c a).2.firewall =
          c.firewall.putSet (familySet tablename a.fa) (set.insert y) := by
  have hrun : c.runCommand sh (ipsetCommand tablename a.fa a.humanrepr) =
      c.system sh (ipsetCommand tablename a.fa a.humanrepr) :=
    if_neg (Nat.not_le.2 (hfits _ _ (inetPton_length hpton).1))
  rcases hsh.performs_add hpton c.log.length c.firewall with ⟨hdone, hfailed⟩
  rw [← ipsetCommand_text] at hdone hfailed
  simp only [ipsetBan, hrun, Console.system, decide_eq_false_iff_not]
  by_cases hstatus : (sh c.log.length (ipsetCommand tablename a.fa a.humanrepr) c.firewall).1 = 0
  · exact Or.inr (Command.apply_add (hdone hstatus))
  · exact Or.inl ⟨hstatus, hfailed hstatus⟩

/-- The addresses that were handled, and the one that was added, are in their sets. -/
lemma Enforcing.members_added (henf : Enforcing tablename s) {a : Addr} {set : IpSet} {x : Bytes}
    (hset : s.console.firewall.sets (familySet tablename a.fa) = some set)
    (hfamily : set.family = a.fa) (hpton : inetPton a.fa a.humanrepr = some x) :
    ∀ b ∈ s.handled ++ [a], ∀ z, inetPton b.fa b.humanrepr = some z →
      ∃ t, (s.console.firewall.putSet (familySet tablename a.fa) (set.insert x)).sets
        (familySet tablename b.fa) = some t ∧ t.has ⟨b.fa, z⟩ = true := by
  intro b hb z hz
  rcases List.mem_append.1 hb with hb | hb
  · rcases henf.members b hb z hz with ⟨set', hset', hhas⟩
    rcases putSet_keeps (y := x) hset hset' with ⟨t, ht, -, hkeeps⟩
    exact ⟨t, ht, hkeeps _ hhas⟩
  · cases List.mem_singleton.1 hb
    cases hpton.symm.trans hz
    exact ⟨_, Netfilter.putSet_self _ _ _, hfamily ▸ IpSet.has_insert_self set x⟩

lemma serve_enforcing (hsh : Documented sh tablename) (hfits : Fits tablename)
    (henf : Enforcing tablename s) : Enforcing tablename (serve h L sh tablename s m) := by
  have hsame : Netfilter.SameBut (tableSets tablename) s.console.firewall
      (serve h L sh tablename s m).console.firewall := serve_sameBut hsh
  rcases serve_cases h L sh tablename s m with hidle | ⟨a, x, hpton, hfa, hserve⟩
  · rwa [hidle]
  · rcases ipsetBan_effect hsh hfits s.console hpton with
      ⟨hfailed, hfirewall⟩ | ⟨set, y, hset, hy, hfirewall⟩
    · rw [hserve, hfailed]
      refine ⟨?_, ?_, ?_⟩
      · rw [hfirewall]
        exact henf.guarded
      · rw [hfirewall]
        exact henf.sets
      · rw [hfirewall]
        exact henf.members
    · -- the set of the family was there, so the command added the address itself
      have hfamily : set.family = a.fa := by
        rcases henf.sets a.fa hfa with ⟨set', hset', hfamily⟩
        cases hset.symm.trans hset'
        exact hfamily
      have hxy : y = x := by
        rw [hfamily, hpton] at hy
        exact (Option.some.inj hy).symm
      subst hxy
      refine ⟨fun f => hsame.guarded (henf.guarded f), ?_, ?_⟩
      · intro f hf
        rcases henf.sets f hf with ⟨set', hset', hfamily'⟩
        rcases putSet_keeps (y := y) hset hset' with ⟨t, ht, htf, -⟩
        rw [hserve, hfirewall]
        exact ⟨t, ht, htf.trans hfamily'⟩
      · rw [hserve, hfirewall]
        intro b hb
        refine henf.members_added hset hfamily hpton b ?_
        split at hb
        · exact hb
        · exact List.mem_append_left _ hb

/-- Once both sets are there and the chain drops what is in them, as the README has the administrator
set it up, every address that is handled is dropped, after any messages. -/
theorem serve_enforced (hsh : Documented sh tablename) (hfits : Fits tablename)
    (henf : Enforcing tablename s) (ms : List (Nat × Bytes)) :
    Enforced (ms.foldl (serve h L sh tablename) s) :=
  (foldl_preserves (fun _ _ hs => serve_enforcing hsh hfits hs) henf ms).enforced

end

end Ipset
end Banip
