import Banip.Engine
import Banip.Lib.Runs
import Mathlib.Data.List.Induction

/-!
# Loop — the receive loop of `banipd`

Each round of the `while (1)` of `main` receives a message, parses it and hands the address to the
engine, all with one error slot; when one of the three calls fails the loop prints the slot and
frees it.

The slot discipline the loop relies on is that the slot is null at the head of every round, that no
call writes a slot that is filled, and that each call fails if and only if it fills the slot.  The
model logs every call with the slot before and after it, so that the discipline is a statement about
whole runs.
-/

namespace Banip
namespace Daemon

open Lib

/-! ## Rounds -/

/-- The three calls of a round. -/
inductive Callee where
  | queueReceive
  | parseAddr
  | handle
deriving DecidableEq, Repr

/-- One call of the loop: the slot on entry, whether it succeeded, the slot on return. -/
structure Call where
  callee : Callee
  entry : Slot
  ok : Bool
  exit : Slot
deriving DecidableEq, Repr

/-- The loop's slot, and what happened so far: the calls, the addresses handed to the engine and the
texts printed by `_verr`. -/
structure LoopState where
  error : Slot
  calls : List Call
  handled : List Addr
  printed : List Slot
deriving DecidableEq, Repr

/-- What the environment contributes to a round: what the kernel's receive call returns (an `errno`,
or the buffer after the call), the value of `errno` when `parse_addr` runs, and the outcomes of the
engine's system calls. -/
structure Arrival where
  recv : Except Nat Bytes
  errno : Nat
  sys : SysCalls

/-- The queue backends, by the text `queue_receive` reports when its system call fails. -/
inductive Backend where
  | posix
  | systemv
deriving DecidableEq, Repr

def receiveFailed : Backend → Bytes
  | .posix => str "mq_receive failed"
  | .systemv => str "msgrcv failed"

/-- What a loop is compiled and started with. -/
structure Setup where
  host : Host
  libc : LibC
  backend : Backend
  kind : EngineKind
  tablename : Bytes

variable (cfg : Setup)

def LoopState.start : LoopState := ⟨none, [], [], []⟩

/-- Log a call and take over the slot it leaves. -/
def LoopState.log (st : LoopState) (callee : Callee) (ok : Bool) (exit : Slot) : LoopState :=
  { st with error := exit, calls := st.calls ++ [⟨callee, st.error, ok, exit⟩] }

/-- `_verr(false, 0, "%s", error); error_free(&error);` -/
def LoopState.complain (st : LoopState) : LoopState :=
  { st with error := errorFree st.error, printed := st.printed ++ [st.error] }

/-- `engine->handle` on an accepted address, the last call of a round. -/
def handleRound (x : Arrival) (a : Addr) (st : LoopState) : Except Fault LoopState := do
  let out := (engine cfg.host cfg.libc cfg.kind).handle x.sys cfg.tablename a
  let error ← report st.error out.error
  let st := { st.log .handle out.ok error with handled := st.handled ++ [a] }
  return if out.ok then st else st.complain

/-- `parse_addr` on the string in the buffer, and what follows. -/
def parseRound (x : Arrival) (buffer : Bytes) (st : LoopState) : Except Fault LoopState := do
  let (addr, error) ← parseAddr cfg.host cfg.libc x.errno (cstr buffer) st.error
  let st := st.log .parseAddr addr.isSome error
  match addr with
  | none => return st.complain
  | some a => handleRound cfg x a st

/-- One round of `while (1)`. -/
def round (st : LoopState) (x : Arrival) : Except Fault LoopState :=
  match x.recv with
  | .error errno => do
      let error ← errorSet st.error
        (systemError (receiveFailed cfg.backend) (cfg.libc.strerror errno))
      return (st.log .queueReceive false error).complain
  | .ok buffer => parseRound cfg x buffer (st.log .queueReceive true st.error)

/-! ## The discipline -/

/-- Entered with a null slot, the call fails if and only if it leaves the slot filled. -/
def Call.Disciplined (c : Call) : Prop := c.entry = none → (c.ok = false ↔ c.exit ≠ none)

/-- The address a round hands on if its message is accepted. -/
def parsed (x : Arrival) : Option Addr :=
  match x.recv with
  | .error _ => none
  | .ok buffer =>
    match parseAddr cfg.host cfg.libc x.errno (cstr buffer) none with
    | .ok (addr, _) => addr
    | .error _ => none

/-- At the head of every round the run is alive (no slot was written twice), the slot is null, every
call so far kept the contract, and the engine has seen the accepted messages, once each, in order. -/
def Disciplined (xs : List Arrival) : Prop :=
  ∀ ys zs, xs = ys ++ zs → ∃ st, exec (round cfg) LoopState.start ys = .ok st ∧
    st.error = none ∧ (∀ c ∈ st.calls, c.Disciplined) ∧ st.handled = ys.filterMap (parsed cfg)

/-- A round that does not reach a defect: the receive failed, or the prefix part of the message is
accepted by `parse_ulong` and, for the ipset engine, the command for an address of the grammar does
not fail. -/
def Clean (x : Arrival) : Prop :=
  ∀ buffer, x.recv = .ok buffer →
    PrefixAccepted cfg.host x.errno (cstr buffer) ∧
      (cfg.kind = .ipset → InGrammar cfg.host x.errno (cstr buffer) →
        ∀ f bytes, inetPton f (addressPart (cstr buffer)) = some bytes →
          runCommand x.sys.system
            (ipsetCommand cfg.tablename f (addressPart (cstr buffer))) = 0)

variable {cfg}

/-! ## One round -/

lemma mem_log_calls {st : LoopState} {callee : Callee} {ok : Bool} {exit : Slot} {c : Call} :
    c ∈ (st.log callee ok exit).calls ↔ c ∈ st.calls ∨ c = ⟨callee, st.error, ok, exit⟩ := by
  simp [LoopState.log]

lemma log_disciplined {st : LoopState} (callee : Callee) (ok : Bool) (exit : Slot)
    (hst : ∀ c ∈ st.calls, c.Disciplined) (hcall : ok = false ↔ exit ≠ none) :
    ∀ c ∈ (st.log callee ok exit).calls, c.Disciplined := by
  intro c hc
  rcases mem_log_calls.1 hc with hold | rfl
  · exact hst c hold
  · exact fun _ => hcall

/-- The last call of a round keeps the discipline when the engine is honest. -/
lemma handleRound_ok {x : Arrival} {a : Addr} {st : LoopState} (herror : st.error = none)
    (hcalls : ∀ c ∈ st.calls, c.Disciplined)
    (hhonest : ((engine cfg.host cfg.libc cfg.kind).handle x.sys cfg.tablename a).Honest) :
    ∃ st', handleRound cfg x a st = .ok st' ∧ st'.error = none ∧
      (∀ c ∈ st'.calls, c.Disciplined) ∧ st'.handled = st.handled ++ [a] := by
  unfold handleRound
  generalize (engine cfg.host cfg.libc cfg.kind).handle x.sys cfg.tablename a = out at hhonest
  rcases out with ⟨ok, error⟩
  have hreport : report st.error error = .ok error := herror ▸ report_of_null error
  have hlog := log_disciplined .handle ok error hcalls hhonest
  simp only [hreport, ok_bind, pure_eq_ok]
  cases ok with
  | true =>
    have hnone : error = none := by
      by_contra hsome
      simpa using hhonest.2 hsome
    exact ⟨_, rfl, hnone, hlog, rfl⟩
  | false => exact ⟨_, rfl, rfl, hlog, rfl⟩

/-- A dishonest engine leaves its mark in the log. -/
lemma handleRound_honest {x : Arrival} {a : Addr} {st st' : LoopState} (herror : st.error = none)
    (hrun : handleRound cfg x a st = .ok st') (hcalls : ∀ c ∈ st'.calls, c.Disciplined) :
    ((engine cfg.host cfg.libc cfg.kind).handle x.sys cfg.tablename a).Honest := by
  unfold handleRound at hrun
  generalize (engine cfg.host cfg.libc cfg.kind).handle x.sys cfg.tablename a = out at hrun ⊢
  rcases out with ⟨ok, error⟩
  have hreport : report st.error error = .ok error := herror ▸ report_of_null error
  simp only [hreport, ok_bind, pure_eq_ok, Except.ok.injEq] at hrun
  have hmem : (⟨.handle, none, ok, error⟩ : Call) ∈ st'.calls := by
    rw [← hrun, ← herror]
    split
    · exact mem_log_calls.2 (Or.inr rfl)
    · exact mem_log_calls.2 (Or.inr rfl)
  exact hcalls _ hmem rfl

/-- The calls of a round are a prefix of the log after it. -/
lemma mem_handleRound_calls {x : Arrival} {a : Addr} {st st' : LoopState}
    (hrun : handleRound cfg x a st = .ok st') {c : Call} (hc : c ∈ st.calls) : c ∈ st'.calls := by
  unfold handleRound at hrun
  generalize (engine cfg.host cfg.libc cfg.kind).handle x.sys cfg.tablename a = out at hrun
  rcases bind_eq_ok.1 hrun with ⟨error, -, hst⟩
  cases hst
  split
  · exact mem_log_calls.2 (Or.inl hc)
  · exact mem_log_calls.2 (Or.inl hc)

/-- The engine keeps its contract on the address of a message. -/
def HonestOn (cfg : Setup) (x : Arrival) : Prop :=
  ∀ a, parsed cfg x = some a →
    ((engine cfg.host cfg.libc cfg.kind).handle x.sys cfg.tablename a).Honest

/-- A round with an accepted prefix part and an honest engine keeps the discipline. -/
lemma round_ok {x : Arrival} {st : LoopState} (herror : st.error = none)
    (hcalls : ∀ c ∈ st.calls, c.Disciplined)
    (hpre : ∀ buffer, x.recv = .ok buffer → PrefixAccepted cfg.host x.errno (cstr buffer))
    (hhonest : HonestOn cfg x) :
    ∃ st', round cfg st x = .ok st' ∧ st'.error = none ∧ (∀ c ∈ st'.calls, c.Disciplined) ∧
      st'.handled = st.handled ++ (parsed cfg x).toList := by
  unfold round
  cases hrecv : x.recv with
  | error errno =>
    have hlog := log_disciplined .queueReceive false
      (some (systemError (receiveFailed cfg.backend) (cfg.libc.strerror errno))) hcalls (by simp)
    simp only [herror, errorSet_none, ok_bind, pure_eq_ok]
    refine ⟨_, rfl, rfl, hlog, ?_⟩
    simp [parsed, hrecv, LoopState.complain, LoopState.log]
  | ok buffer =>
    have hlog := log_disciplined .queueReceive true none hcalls (by simp)
    simp only [parseRound, herror]
    rcases parseAddr_of_prefixAccepted cfg.libc (hpre buffer hrecv) with ⟨a, ha⟩ | ⟨text, htext⟩
    · have hparsed : parsed cfg x = some a := by simp [parsed, hrecv, ha]
      have hlog' := log_disciplined .parseAddr true none hlog (by simp)
      have herror' : ((st.log .queueReceive true none).log .parseAddr true none).error = none := rfl
      rcases handleRound_ok (x := x) herror' hlog' (hhonest a hparsed) with
        ⟨st', hrun, hnone, hdisc, hhandled⟩
      refine ⟨st', ?_, hnone, hdisc, ?_⟩
      · simp only [LoopState.log, ha, ok_bind, Option.isSome_some]
        exact hrun
      · rw [hhandled, hparsed]
        rfl
    · have hparsed : parsed cfg x = none := by simp [parsed, hrecv, htext]
      have hlog' := log_disciplined .parseAddr false (some text) hlog (by simp)
      refine ⟨((st.log .queueReceive true none).log .parseAddr false (some text)).complain,
        ?_, rfl, hlog', ?_⟩
      · simp only [LoopState.log, htext, ok_bind, pure_eq_ok, Option.isSome_none]
      · simp [hparsed, LoopState.complain, LoopState.log]

/-- A round that leaves the discipline intact had an accepted prefix part and an honest engine. -/
lemma round_ok_only {x : Arrival} {st st' : LoopState} (herror : st.error = none)
    (hrun : round cfg st x = .ok st') (hcalls : ∀ c ∈ st'.calls, c.Disciplined) :
    (∀ buffer, x.recv = .ok buffer → PrefixAccepted cfg.host x.errno (cstr buffer)) ∧
      HonestOn cfg x := by
  unfold round at hrun
  cases hrecv : x.recv with
  | error errno =>
    refine ⟨?_, ?_⟩
    · intro buffer h
      cases h
    · intro a ha
      simp [parsed, hrecv] at ha
  | ok buffer =>
    simp only [hrecv, parseRound, herror] at hrun
    have hpre : PrefixAccepted cfg.host x.errno (cstr buffer) := by
      by_contra hno
      rcases parseAddr_of_not_prefixAccepted cfg.libc hno with ⟨f, hf⟩ | ⟨a, text, ha⟩
      · -- the slot was written twice
        simp [LoopState.log, hf, bind, Except.bind] at hrun
      · -- the call succeeded and left the slot filled
        simp only [LoopState.log, ha, ok_bind, Option.isSome_some] at hrun
        have hmem := mem_handleRound_calls hrun
          (c := ⟨.parseAddr, none, true, some text⟩) (by simp)
        simpa using (hcalls _ hmem rfl).2 (by simp)
    refine ⟨?_, ?_⟩
    · intro buffer' h
      cases h
      exact hpre
    · intro a ha
      rcases parseAddr_of_prefixAccepted cfg.libc hpre with ⟨a', ha'⟩ | ⟨text, htext⟩
      · have haa : a' = a := by simpa [parsed, hrecv, ha'] using ha
        simp only [LoopState.log, ha', ok_bind, Option.isSome_some, haa] at hrun
        exact handleRound_honest rfl hrun hcalls
      · simp [parsed, hrecv, htext] at ha

lemma parsed_eq_some {x : Arrival} {a : Addr} :
    parsed cfg x = some a ↔ ∃ buffer, x.recv = .ok buffer ∧ ∃ e,
      parseAddr cfg.host cfg.libc x.errno (cstr buffer) none = .ok (some a, e) := by
  unfold parsed
  cases hrecv : x.recv with
  | error errno => simp
  | ok buffer =>
    cases hparse : parseAddr cfg.host cfg.libc x.errno (cstr buffer) none with
    | error f => simp [hparse]
    | ok found =>
      rcases found with ⟨addr, e⟩
      simp [hparse]

/-- Honesty of the compiled engine, in terms of the message: only ipset depends on its commands. -/
lemma clean_iff (hL : cfg.libc.NumericHost) (x : Arrival) :
    Clean cfg x ↔
      (∀ buffer, x.recv = .ok buffer → PrefixAccepted cfg.host x.errno (cstr buffer)) ∧
        HonestOn cfg x := by
  constructor
  · intro hclean
    refine ⟨fun buffer hrecv => (hclean buffer hrecv).1, ?_⟩
    intro a ha
    cases hkind : cfg.kind with
    | pf => exact pf_honest _ _ _ _ _
    | dummy => exact dummy_honest _ _ _ _ _
    | ipset =>
      -- it reports no error of its own, so only a command that succeeds is honest
      rw [ipset_honest_iff]
      rcases parsed_eq_some.1 ha with ⟨buffer, hrecv, e, hparse⟩
      rcases parseAddr_some hparse with ⟨f, bytes, n, hpton, -, rfl⟩
      rcases hclean buffer hrecv with ⟨hpre, hcommand⟩
      have hfollows := followsGrammar_of_prefixAccepted hL hpre
      exact hcommand hkind (hfollows.1.1 ⟨_, e, hparse⟩) f bytes hpton
  · rintro ⟨hpre, hhonest⟩ buffer hrecv
    refine ⟨hpre buffer hrecv, ?_⟩
    intro hkind hgrammar f bytes hpton
    have hfollows := followsGrammar_of_prefixAccepted hL (hpre buffer hrecv)
    rcases hfollows.1.2 hgrammar with ⟨a, e, hparse⟩
    have hhon := hhonest a (parsed_eq_some.2 ⟨buffer, hrecv, e, hparse⟩)
    rw [hkind, ipset_honest_iff] at hhon
    rcases parseAddr_some hparse with ⟨f', bytes', n, hpton', -, rfl⟩
    cases inetPton_family_unique hpton hpton'
    exact hhon

/-! ## Runs -/

/-- The loop keeps its slot discipline on exactly the runs whose rounds are all clean. -/
theorem loop_disciplined_iff (cfg : Setup) (hL : cfg.libc.NumericHost) (xs : List Arrival) :
    Disciplined cfg xs ↔ ∀ x ∈ xs, Clean cfg x := by
  constructor
  · -- compare the loop head before the round with the one after it
    intro hdisc x hx
    rcases List.append_of_mem hx with ⟨ys, zs, rfl⟩
    rcases hdisc ys (x :: zs) rfl with ⟨st, hst, herror, -, -⟩
    rcases hdisc (ys ++ [x]) zs (by simp) with ⟨st', hst', -, hcalls, -⟩
    rcases exec_append_ok.1 hst' with ⟨st₁, hst₁, hx'⟩
    cases hst.symm.trans hst₁
    rcases exec_cons_ok.1 hx' with ⟨st₂, hround, hnil⟩
    cases hnil
    exact (clean_iff hL x).2 (round_ok_only herror hround hcalls)
  · intro hclean ys
    -- the invariant of the loop head, by induction on the rounds taken
    induction ys using List.reverseRecOn with
    | nil =>
      intro zs _
      exact ⟨LoopState.start, rfl, rfl, by simp [LoopState.start], rfl⟩
    | append_singleton ys x ih =>
      intro zs hxs
      rcases ih ([x] ++ zs) (by simp [hxs]) with ⟨st, hst, herror, hcalls, hhandled⟩
      have hx := (clean_iff hL x).1 (hclean x (by simp [hxs]))
      rcases round_ok herror hcalls hx.1 hx.2 with ⟨st', hround, herror', hcalls', hhandled'⟩
      refine ⟨st', ?_, herror', hcalls', ?_⟩
      · exact exec_append_ok.2 ⟨st, hst, exec_cons_ok.2 ⟨st', hround, rfl⟩⟩
      · rw [hhandled', hhandled, List.filterMap_append]
        cases hx' : parsed cfg x <;> simp [hx']

/-- A daemon with the dummy engine on a POSIX queue. -/
def dummySetup : Setup := ⟨Host.lp64, LibC.numeric, .posix, .dummy, str "blacklist"⟩

/-- A round in which the kernel delivers `message` and no call of the engine fails. -/
def delivery (message : String) : Arrival := ⟨.ok (str message ++ [0]), 0, ⟨fun _ => none, fun _ => 0⟩⟩

/-- A run with an accepted message and a failed receive. -/
theorem loop_disciplined_slash24 : LibC.numeric.NumericHost ∧
    Disciplined dummySetup [delivery "192.0.2.7/24", ⟨.error 4, 0, ⟨fun _ => none, fun _ => 0⟩⟩] := by
  refine ⟨LibC.numeric_numericHost, ?_⟩
  refine (loop_disciplined_iff dummySetup LibC.numeric_numericHost _).2 ?_
  intro x hx
  simp only [List.mem_cons, List.not_mem_nil, or_false] at hx
  rcases hx with rfl | rfl
  · intro buffer hrecv
    cases hrecv
    refine ⟨?_, fun hkind => by cases hkind⟩
    intro p hp
    have hp9 : some 9 = some p := hp
    cases hp9
    exact ⟨24, by decide⟩
  · intro buffer hrecv
    cases hrecv

/-- `1.2.3.4/abc` is handled with the slot left filled, and the next bad message frees the slot's
own address. -/
theorem loop_abc_not_disciplined :
    ¬ Disciplined dummySetup [delivery "1.2.3.4/abc", delivery "localhost"] := by
  intro hdisc
  rcases hdisc [delivery "1.2.3.4/abc", delivery "localhost"] [] (by simp) with ⟨st, hst, -⟩
  have hcrash : exec (round dummySetup) LoopState.start
      [delivery "1.2.3.4/abc", delivery "localhost"] = .error .invalidFree := by decide
  cases hcrash.symm.trans hst

end Daemon
end Banip
