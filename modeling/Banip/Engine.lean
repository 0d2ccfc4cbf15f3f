import Banip.Engine.Pf

/-!
# Engine — the firewall engines and `run_command`

`engine_t` is a record of functions; the daemon calls `handle` on every address it accepts.  The
model keeps, for each engine, the verdict of `handle` and the error it reports, as a function of the
outcomes of the system calls it makes.

`Honest` is the contract the daemon's loop relies on: a call fails if and only if it reports an
error.  The PF engine and the dummy engine keep it always; `ipset_handle` hands the slot to
`run_command`, which never writes it.
-/

namespace Banip

open Lib

/-- The outcomes of the system calls of one `handle`: the `errno` of the `k`-th `ioctl` if it fails,
and the status `system` returns for a command line. -/
structure SysCalls where
  ioctl : Nat → Option Nat
  system : Bytes → Int

/-- The verdict of a `handle` and the error it reports. -/
structure Handled where
  ok : Bool
  error : Option Bytes
deriving DecidableEq, Repr

/-- A call that fails reports, and a call that reports fails. -/
def Handled.Honest (r : Handled) : Prop := r.ok = false ↔ r.error ≠ none

/-- `engine_t`. -/
structure Engine where
  dropPrivileges : Bool
  name : Bytes
  handle : SysCalls → Bytes → Addr → Handled

/-! ## Shell commands -/

/-- `STR_SIZE(buffer)` in `run_command`. -/
def commandSize : Nat := 4096

/-- `run_command` on a formatted command line: 0 if it does not fit, else what `system` returns. -/
def runCommand (system : Bytes → Int) (command : Bytes) : Int :=
  if commandSize ≤ command.length then 0 else system command

/-- `"ipset -! -A %s%c %s"`. -/
def ipsetCommand (tablename : Bytes) (fa : Family) (humanrepr : Bytes) : Bytes :=
  str "ipset -! -A " ++ tablename ++ [if fa = .inet then chr '4' else chr '6'] ++ str " " ++ humanrepr

/-- The set of `ipset` that takes the addresses of a family: `%s4` or `%s6`. -/
def familySet (tablename : Bytes) (f : Family) : Bytes :=
  tablename ++ [if f = .inet then chr '4' else chr '6']

/-- `ipset_handle`. -/
def ipsetHandle (system : Bytes → Int) (tablename : Bytes) (a : Addr) : Handled :=
  ⟨runCommand system (ipsetCommand tablename a.fa a.humanrepr) = 0, none⟩

/-- `dummy_handle`, which prints the address. -/
def dummyHandle (_a : Addr) : Handled := ⟨true, none⟩

/-! ## The engines -/

/-- The engines of the model.  `iptables_engine`, which every build for Linux has as well, is left out:
its `iptables_handle` has another type than the `handle` of an `engine_t`, takes no slot, and is called
through an incompatible pointer.  `npf_handle` has a module of its own. -/
inductive EngineKind where
  | pf
  | ipset
  | dummy
deriving DecidableEq, Repr

/-- `pf_engine`, `ipset_engine`, `dummy_engine`. -/
def engine (h : Host) (L : LibC) : EngineKind → Engine
  | .pf =>
    { dropPrivileges := true, name := str "pf"
      handle := fun sys tablename a =>
        let out := Pf.pfHandle h L sys.ioctl tablename a
        ⟨out.ok, out.error⟩ }
  | .ipset =>
    { dropPrivileges := false, name := str "ipset"
      handle := fun sys tablename a => ipsetHandle sys.system tablename a }
  | .dummy =>
    { dropPrivileges := true, name := str "dummy"
      handle := fun _ _ a => dummyHandle a }

/-! ## Which engines are honest -/

lemma killLoop_honest (L : LibC) (ioctl : Nat → Option Nat) (infos : List AddrInfo)
    (lastSrc : Bytes) (psk : Pf.StateKill) (k : Nat) :
    (Pf.killLoop L ioctl infos lastSrc psk k).ok = false ↔
      (Pf.killLoop L ioctl infos lastSrc psk k).error ≠ none := by
  induction infos generalizing lastSrc psk k with
  | nil => simp [Pf.killLoop]
  | cons resp rest ih =>
    unfold Pf.killLoop
    cases resp.aiAddr with
    | none => exact ih lastSrc psk k
    | some sa =>
      simp only
      split
      · exact ih lastSrc psk k
      · cases hfam : resp.aiFamily with
        | other n => simp
        | inet =>
          simp only
          cases ioctl k with
          | some errno => simp
          | none => exact ih _ _ _
        | inet6 =>
          simp only
          cases ioctl k with
          | some errno => simp
          | none => exact ih _ _ _

lemma pf_honest (h : Host) (L : LibC) (sys : SysCalls) (tablename : Bytes) (a : Addr) :
    ((engine h L .pf).handle sys tablename a).Honest := by
  unfold Handled.Honest
  simp only [engine, Pf.pfHandle]
  cases sys.ioctl 0 with
  | some errno => simp
  | none =>
    cases L.getaddrinfo false a.humanrepr with
    | error ret => simp
    | ok found => exact killLoop_honest L sys.ioctl _ _ _ _

lemma dummy_honest (h : Host) (L : LibC) (sys : SysCalls) (tablename : Bytes) (a : Addr) :
    ((engine h L .dummy).handle sys tablename a).Honest := by
  simp [Handled.Honest, engine, dummyHandle]

/-- `ipset_handle` never reports, so it keeps the contract only while its command succeeds. -/
lemma ipset_honest_iff (h : Host) (L : LibC) (sys : SysCalls) (tablename : Bytes) (a : Addr) :
    ((engine h L .ipset).handle sys tablename a).Honest ↔
      runCommand sys.system (ipsetCommand tablename a.fa a.humanrepr) = 0 := by
  simp [Handled.Honest, engine, ipsetHandle]

end Banip
