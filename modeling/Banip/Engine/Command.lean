import Banip.Engine
import Banip.Lib.Printf

/-!
# Command — what the engines that run a shell command report

`run_command` formats a line into a fixed buffer and passes it to `system`.  Its result mixes two
conventions: the wait status of the shell, 0 for success, and 0 again for a line that does not fit.
`ipset_handle` compares the result with `EXIT_SUCCESS`; `iptables_handle` returns it as it is, and
it forgets the first argument of `run_command`, so the line it means to run is passed as the error
slot and the *name of the table* becomes the format.

`Ran` is the outcome of such a call with the lines that reached `system`.  `Truthful` is what a
caller expects of `handle`: it returns true if and only if the engine's own command was executed
and exited with status 0.  `shellHandle_truthful_iff` says when each engine keeps to that.
-/

namespace Banip

open Lib

/-- The result of a call and the lines it passed to `system`. -/
structure Ran (α : Type) where
  result : α
  lines : List Bytes
deriving DecidableEq, Repr

/-- `run_command(error, format, ..)`.  A negative count of `vsnprintf` is as large as any other once
it is compared with a `size_t`. -/
def runFormatted (P : Printf) (system : Bytes → Int) (format : Bytes) (args : List Arg) :
    Option (Ran Int) :=
  (P.format format args).map fun line =>
    ⟨runCommand system line, if commandSize ≤ line.length then [] else [line]⟩

/-! ## The two engines -/

inductive ShellEngine where
  | ipset
  | iptables
deriving DecidableEq, Repr

/-- `"iptables -I %s 1 -s %s -j DROP"`. -/
def iptablesCommand (tablename humanrepr : Bytes) : Bytes :=
  str "iptables -I " ++ tablename ++ str " 1 -s " ++ humanrepr ++ str " -j DROP"

/-- The command an engine means to run. -/
def ownCommand : ShellEngine → Bytes → Addr → Bytes
  | .ipset, tablename, addr => ipsetCommand tablename addr.fa addr.humanrepr
  | .iptables, tablename, addr => iptablesCommand tablename addr.humanrepr

/-- The format string in its `handle`. -/
def commandFormat : ShellEngine → Bytes
  | .ipset => str "ipset -! -A %s%c %s"
  | .iptables => str "iptables -I %s 1 -s %s -j DROP"

/-- The arguments behind it. -/
def commandArgs : ShellEngine → Bytes → Addr → List Arg
  | .ipset, tablename, addr =>
      [.string tablename, .char (if addr.fa = .inet then chr '4' else chr '6'),
        .string addr.humanrepr]
  | .iptables, tablename, addr => [.string tablename, .string addr.humanrepr]

section

variable (P : Printf) (system : Bytes → Int)

/-- `iptables_handle`: the format string is in the place of the error slot, and the name of the table
in the place of the format. -/
def iptablesHandle (tablename : Bytes) (addr : Addr) : Option (Ran Int) :=
  runFormatted P system tablename [.string addr.humanrepr]

/-- `handle` of an engine: its value as a `bool`, and what it ran. -/
def shellHandle : ShellEngine → Bytes → Addr → Option (Ran Bool)
  | .ipset, tablename, addr =>
      (runFormatted P system (commandFormat .ipset) (commandArgs .ipset tablename addr)).map fun r =>
        ⟨r.result = 0, r.lines⟩
  | .iptables, tablename, addr =>
      (iptablesHandle P system tablename addr).map fun r => ⟨r.result ≠ 0, r.lines⟩

/-- The call is defined, it returns true if and only if the engine's own command was executed and
exited with status 0, and it returns false if that command does not fit the buffer. -/
def Truthful (e : ShellEngine) (tablename : Bytes) (addr : Addr) : Prop :=
  ∃ r, shellHandle P system e tablename addr = some r ∧
    (r.result = true ↔
      ownCommand e tablename addr ∈ r.lines ∧ system (ownCommand e tablename addr) = 0) ∧
    (commandSize ≤ (ownCommand e tablename addr).length → r.result = false)

end

/-! ## Lines -/

section

variable {P : Printf} {system : Bytes → Int} {tablename : Bytes} {addr : Addr}

/-- With its format in the right place each engine would run its own command. -/
lemma format_ownCommand (P : Printf) (e : ShellEngine) (tablename : Bytes) (addr : Addr) :
    P.format (commandFormat e) (commandArgs e tablename addr) =
      some (ownCommand e tablename addr) := by
  cases e with
  | ipset =>
    have hsplit : commandFormat .ipset =
        str "ipset -! -A " ++ chr '%' :: chr 's' :: chr '%' :: chr 'c' ::
          (str " " ++ chr '%' :: chr 's' :: []) := rfl
    rw [hsplit, commandArgs, P.format_append (by decide), P.format_string, P.format_char,
      P.format_append (by decide), P.format_string, P.format_nil]
    simp [ownCommand, ipsetCommand]
  | iptables =>
    have hsplit : commandFormat .iptables =
        str "iptables -I " ++ chr '%' :: chr 's' ::
          (str " 1 -s " ++ chr '%' :: chr 's' :: str " -j DROP") := rfl
    rw [hsplit, commandArgs, P.format_append (by decide), P.format_string,
      P.format_append (by decide), P.format_string, P.format_plain (by decide)]
    simp [ownCommand, iptablesCommand]

lemma ipsetCommand_length (tablename : Bytes) (fa : Family) (humanrepr : Bytes) :
    (ipsetCommand tablename fa humanrepr).length = tablename.length + humanrepr.length + 14 := by
  have hword : (str "ipset -! -A ").length = 12 := rfl
  have hblank : (str " ").length = 1 := rfl
  simp only [ipsetCommand, List.length_append, List.length_singleton, hword, hblank]
  omega

lemma runFormatted_some {format line : Bytes} {args : List Arg}
    (hline : P.format format args = some line) :
    runFormatted P system format args =
      some ⟨runCommand system line, if commandSize ≤ line.length then [] else [line]⟩ := by
  rw [runFormatted, hline, Option.map_some]

/-- The verdict of `ipset_handle` is the one of the engine record. -/
lemma shellHandle_ipset :
    shellHandle P system .ipset tablename addr =
      some ⟨(ipsetHandle system tablename addr).ok,
        if commandSize ≤ (ownCommand .ipset tablename addr).length then []
        else [ownCommand .ipset tablename addr]⟩ := by
  rw [shellHandle, runFormatted_some (format_ownCommand P .ipset tablename addr)]
  rfl

lemma ipset_truthful_iff :
    Truthful P system .ipset tablename addr ↔
      tablename.length + addr.humanrepr.length + 14 < commandSize := by
  have hlen : (ownCommand .ipset tablename addr).length =
      tablename.length + addr.humanrepr.length + 14 := ipsetCommand_length _ _ _
  rw [← hlen]
  constructor
  · rintro ⟨r, hr, -, hfit⟩
    rw [shellHandle_ipset] at hr
    cases hr
    by_contra hlong
    -- 0 for a line that does not fit is read as success
    have hlong' : commandSize ≤ (ownCommand .ipset tablename addr).length := Nat.not_lt.1 hlong
    have htrue : runCommand system (ownCommand .ipset tablename addr) = 0 := if_pos hlong'
    have hfalse := hfit hlong'
    rw [ipsetHandle] at hfalse
    exact absurd htrue (by simpa [ownCommand] using hfalse)
  · intro hshort
    have hfits : ¬ commandSize ≤ (ownCommand .ipset tablename addr).length := Nat.not_le.2 hshort
    have hran : runCommand system (ownCommand .ipset tablename addr) =
        system (ownCommand .ipset tablename addr) := if_neg hfits
    refine ⟨_, shellHandle_ipset, ?_, fun hlong => absurd hlong hfits⟩
    rw [if_neg hfits]
    simp only [ipsetHandle, List.mem_singleton, true_and, decide_eq_true_eq]
    exact iff_of_eq (congrArg (· = 0) hran)

/-- `iptables_handle` runs the text its table name spells as a format. -/
lemma iptables_truthful_iff :
    Truthful P system .iptables tablename addr ↔
      ∃ line, P.format tablename [.string addr.humanrepr] = some line ∧
        (commandSize ≤ line.length ∨
          system line = 0 ∧ line ≠ iptablesCommand tablename addr.humanrepr) := by
  constructor
  · rintro ⟨r, hr, hiff, -⟩
    cases hline : P.format tablename [.string addr.humanrepr] with
    | none =>
      rw [shellHandle, iptablesHandle, runFormatted, hline] at hr
      cases hr
    | some line =>
      refine ⟨line, rfl, ?_⟩
      rw [shellHandle, iptablesHandle, runFormatted_some hline, Option.map_some] at hr
      cases hr
      by_cases hlong : commandSize ≤ line.length
      · exact Or.inl hlong
      · refine Or.inr ?_
        simp only [runCommand, if_neg hlong, List.mem_singleton, decide_eq_true_eq] at hiff
        -- a status other than 0 is taken for success, and then 0 for the own command is not
        by_cases hstatus : system line = 0
        · refine ⟨hstatus, ?_⟩
          intro hown
          have hown' : ownCommand .iptables tablename addr = line := hown.symm
          rw [hown'] at hiff
          exact hiff.2 ⟨rfl, hstatus⟩ hstatus
        · rcases hiff.1 hstatus with ⟨hown, hzero⟩
          rw [hown] at hzero
          exact absurd hzero hstatus
  · rintro ⟨line, hline, hcase⟩
    refine ⟨⟨runCommand system line ≠ 0, if commandSize ≤ line.length then [] else [line]⟩, ?_, ?_⟩
    · rw [shellHandle, iptablesHandle, runFormatted_some hline, Option.map_some]
    · -- the result is 0, that is false, and the own command is not among the lines
      have hzero : runCommand system line = 0 := by
        rcases hcase with hlong | ⟨hstatus, -⟩
        · exact if_pos hlong
        · rw [runCommand, hstatus, ite_self]
      have hnot : ownCommand .iptables tablename addr ∉
          (if commandSize ≤ line.length then [] else [line]) := by
        rcases hcase with hlong | ⟨-, hother⟩
        · rw [if_pos hlong]
          exact List.not_mem_nil
        · split
          · exact List.not_mem_nil
          · intro hmem
            exact hother (List.mem_singleton.1 hmem).symm
      constructor
      · constructor
        · intro htrue
          exact absurd hzero (by simpa using htrue)
        · rintro ⟨hmem, -⟩
          exact absurd hmem hnot
      · intro _
        simpa using hzero

/-- A table name without a `%` is itself the line that `iptables_handle` runs. -/
lemma iptables_truthful_plain (hplain : chr '%' ∉ tablename) :
    Truthful P system .iptables tablename addr ↔
      commandSize ≤ tablename.length ∨ system tablename = 0 := by
  -- the own command is longer than the name it contains
  have hshorter : tablename ≠ iptablesCommand tablename addr.humanrepr := by
    intro heq
    have hlen := congrArg List.length heq
    have hword : (str "iptables -I ").length = 12 := rfl
    simp only [iptablesCommand, List.length_append, hword] at hlen
    omega
  rw [iptables_truthful_iff, P.format_plain hplain]
  constructor
  · rintro ⟨line, hline, hcase⟩
    cases hline
    exact hcase.imp_right And.left
  · intro hcase
    exact ⟨tablename, rfl, hcase.imp_right fun hstatus => ⟨hstatus, hshorter⟩⟩

end

/-- When `handle` can be believed.  For `ipset_handle`: the command fits the buffer.  For
`iptables_handle`: the name of the table, as a format with the address for its argument, spells a
line that is too long to be run, or another line than the engine's command, and that one exits with
status 0; the call then returns false as it should. -/
def Believable (P : Printf) (system : Bytes → Int) (tablename : Bytes) (addr : Addr) :
    ShellEngine → Prop
  | .ipset => tablename.length + addr.humanrepr.length + 14 < commandSize
  | .iptables => ∃ line, P.format tablename [.string addr.humanrepr] = some line ∧
      (commandSize ≤ line.length ∨
        system line = 0 ∧ line ≠ iptablesCommand tablename addr.humanrepr)

/-- The engines report success exactly for an executed ban under `Believable`, and only then. -/
theorem shellHandle_truthful_iff (P : Printf) (system : Bytes → Int) (e : ShellEngine)
    (tablename : Bytes) (addr : Addr) :
    Truthful P system e tablename addr ↔ Believable P system tablename addr e := by
  cases e with
  | ipset => exact ipset_truthful_iff
  | iptables => exact iptables_truthful_iff

/-- The address `1.2.3.4` is accepted.  `ipset_handle` reports its ban for a table name of 4096
bytes although nothing ran; `iptables_handle` reports it for the table `INPUT` after a shell that
does not know the command `INPUT`. -/
theorem shellHandle_untruthful :
    ∃ addr, parseAddr Host.lp64 LibC.numeric 0 (str "1.2.3.4") none = .ok (some addr, none) ∧
      ¬ Truthful Printf.iso (fun _ => 0) .ipset (List.replicate 4096 (chr 'a')) addr ∧
      shellHandle Printf.iso (fun _ => 32512) .iptables (str "INPUT") addr =
        some ⟨true, [str "INPUT"]⟩ ∧
      ¬ Truthful Printf.iso (fun _ => 32512) .iptables (str "INPUT") addr := by
  refine ⟨⟨maskedAddr [1, 2, 3, 4] 32, .inet, Family.inet.size, 32, str "1.2.3.4"⟩, rfl, ?_, rfl, ?_⟩
  · rw [ipset_truthful_iff, List.length_replicate]
    decide
  · rw [iptables_truthful_plain (by decide)]
    decide

end Banip
