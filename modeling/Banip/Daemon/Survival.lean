import Banip.Daemon.Loop
import Banip.Lib.Cell

/-!
# Survival — which runs of the receive loop end in an invalid free

The slot of the loop is a cell for one text.  `_error_set` puts a text into it, and faults if there is
one already; the `_verr` and `error_free` after a failed round take it out.  What a round does to the
slot depends on its message and on the outcomes of the system calls only, not on the slot it finds:
this is the `script` of the round.

So a run of the loop is a run of the cell over the scripts of its rounds.  It survives if and only if
no two reports follow one another without a complaint between them, whatever number of rounds lies
between them, and each complaint prints the report just before it.  A text that a message has left in
the slot is printed as the error of a later one, if it does not end the daemon.
-/

namespace Banip
namespace Daemon

open Lib

/-! ## Scripts -/

/-- The report of `parse_ulong` on the prefix part of a message, if it rejects it. -/
def prefixText (h : Host) (errno : Nat) (s : Bytes) : Option Bytes :=
  match strchr s (chr '/') with
  | none => none
  | some p =>
    match parseUlong h errno (s.drop (p + 1)) none with
    | .ok r => r.error
    | .error _ => none

variable (cfg : Setup)

/-- The report with which `parse_addr` rejects an address.  After a report on the prefix part nobody
gets to read it. -/
def rejection (x : Arrival) (s : Bytes) : Bytes :=
  match parseAddr cfg.host cfg.libc x.errno s none with
  | .ok (_, some text) => text
  | _ => []

/-- What `engine->handle` does to the slot, with the complaint if it fails. -/
def handleScript (x : Arrival) (a : Addr) : List (Use Bytes) :=
  let out := (engine cfg.host cfg.libc cfg.kind).handle x.sys cfg.tablename a
  out.error.toList.map .put ++ if out.ok then [] else [.take]

/-- What a round does to the slot. -/
def script (x : Arrival) : List (Use Bytes) :=
  match x.recv with
  | .error errno =>
      [.put (systemError (receiveFailed cfg.backend) (cfg.libc.strerror errno)), .take]
  | .ok buffer =>
      (prefixText cfg.host x.errno (cstr buffer)).toList.map .put ++
        match parsed cfg x with
        | none => [.put (rejection cfg x (cstr buffer)), .take]
        | some a => handleScript cfg x a

/-- The slot and what was printed. -/
def LoopState.view (st : LoopState) : Slot × List Slot := (st.error, st.printed)

variable {cfg}

/-! ## The slot of one round -/

/-- `_error_set`, as a use of the cell. -/
lemma exec_report (error : Slot) (out : List Slot) (text : Option Bytes) :
    exec (Cell.step .invalidFree) (error, out) (text.toList.map .put) =
      (report error text).map fun e => (e, out) := by
  cases text <;> cases error <;> rfl

/-- `parse_ulong` is one report at most, and its number does not depend on the slot. -/
lemma parseUlong_slot (h : Host) (errno : Nat) (t : Bytes) :
    ∃ ok v text, ∀ error, parseUlong h errno t error =
      (report error text).map fun e => ⟨ok, v, e⟩ := by
  rcases parseUlong_cases h errno t with hok | ⟨text, hfail⟩
  · exact ⟨true, _, none, hok⟩
  · exact ⟨false, _, some text, hfail⟩

/-- The checks of the prefix branch determine the address. -/
lemma prefixAccepts_unique {L : LibC} {buffer bytes bytes' : Bytes} {v : Nat} {f f' : Family}
    (hacc : PrefixAccepts L buffer v f bytes) (hacc' : PrefixAccepts L buffer v f' bytes') :
    f = f' ∧ bytes = bytes' := by
  cases inetPton_family_unique hacc.2.2 hacc'.2.2
  exact ⟨rfl, Option.some.inj (hacc.2.2.symm.trans hacc'.2.2)⟩

/-- `parse_addr` reports on the prefix part or not, and then accepts the message or reports on the
address; which of these it does depends on the message only. -/
lemma parseAddr_slot (h : Host) (L : LibC) (errno : Nat) (s : Bytes) :
    (∃ a, ∀ error, parseAddr h L errno s error =
        (report error (prefixText h errno s)).map fun e => (some a, e)) ∨
      ∃ text, ∀ error, parseAddr h L errno s error =
        (report error (prefixText h errno s)).bind fun e =>
          (errorSet e text).map fun e => (none, e) := by
  unfold prefixText
  cases hp : strchr s (chr '/') with
  | none =>
    rcases parseAddr_plain h L errno hp with ⟨f, bytes, -, hok⟩ | ⟨-, text, -, hfail⟩
    · exact Or.inl ⟨_, fun error => hok error⟩
    · exact Or.inr ⟨text, fun error => hfail error⟩
  | some p =>
    rcases parseUlong_slot h errno (s.drop (p + 1)) with ⟨ok, v, t, hul⟩
    have hnull : parseUlong h errno (s.drop (p + 1)) none = .ok ⟨ok, v, t⟩ := by
      rw [hul, report_of_null]
      rfl
    -- a second report is the end of `parse_addr` before it comes to the address
    have hfault : ∀ error f, report error t = .error f → parseAddr h L errno s error = .error f := by
      intro error f hf
      simp [parseAddr, hp, hul, hf, Except.map, bind, Except.bind]
    have hpast : ∀ error e, report error t = .ok e →
        parseUlong h errno (s.drop (p + 1)) error = .ok ⟨ok, v, e⟩ := by
      intro error e he
      rw [hul, he]
      rfl
    simp only [hnull]
    by_cases hacc : ∃ f bytes, PrefixAccepts L (s.take p) v f bytes
    · rcases hacc with ⟨f, bytes, hacc⟩
      refine Or.inl ⟨addrOf (s.take p) f bytes v, fun error => ?_⟩
      cases he : report error t with
      | error fault => exact hfault error fault he
      | ok e =>
        rcases parseAddr_slash h L errno hp (hpast error e he) with
          ⟨f', bytes', hacc', hok⟩ | ⟨hnone, -⟩
        · rcases prefixAccepts_unique hacc hacc' with ⟨rfl, rfl⟩
          exact hok
        · exact absurd hacc (hnone f bytes)
    · have hrejected : ∀ error e, report error t = .ok e → ∃ text,
          parseAddr h L errno s error = (errorSet e text).map fun e => (none, e) := by
        intro error e he
        rcases parseAddr_slash h L errno hp (hpast error e he) with
          ⟨f, bytes, hacc', -⟩ | ⟨-, text, -, hfail⟩
        · exact absurd ⟨f, bytes, hacc'⟩ hacc
        · exact ⟨text, hfail⟩
      rcases hrejected none t (report_of_null t) with ⟨text, htext⟩
      refine Or.inr ⟨text, fun error => ?_⟩
      cases he : report error t with
      | error fault => exact hfault error fault he
      | ok e =>
        cases error with
        | none =>
          cases (report_of_null t).symm.trans he
          exact htext
        | some e₀ =>
          -- the slot is filled, and the text makes no difference any more
          rcases hrejected (some e₀) e he with ⟨text', htext'⟩
          cases t with
          | some t => cases he
          | none =>
            cases he
            exact htext'

/-- A message that is accepted is accepted whatever the slot holds. -/
lemma parsed_of_slot {x : Arrival} {buffer : Bytes} (hrecv : x.recv = .ok buffer) {a : Addr}
    (haccepts : ∀ error, parseAddr cfg.host cfg.libc x.errno (cstr buffer) error =
      (report error (prefixText cfg.host x.errno (cstr buffer))).map fun e => (some a, e)) :
    parsed cfg x = some a := by
  refine parsed_eq_some.2 ⟨buffer, hrecv, prefixText cfg.host x.errno (cstr buffer), ?_⟩
  rw [haccepts none, report_of_null]
  rfl

/-- A message that is rejected is rejected with the text of `rejection`, or faults. -/
lemma parsed_of_slot_none {x : Arrival} {buffer text : Bytes} (hrecv : x.recv = .ok buffer)
    (hrejects : ∀ error, parseAddr cfg.host cfg.libc x.errno (cstr buffer) error =
      (report error (prefixText cfg.host x.errno (cstr buffer))).bind fun e =>
        (errorSet e text).map fun e => (none, e)) :
    parsed cfg x = none ∧
      (prefixText cfg.host x.errno (cstr buffer) = none →
        rejection cfg x (cstr buffer) = text) := by
  have hnull := hrejects none
  rw [report_of_null] at hnull
  constructor
  · rw [Option.eq_none_iff_forall_ne_some]
    intro a ha
    rcases parsed_eq_some.1 ha with ⟨buffer', hrecv', e, hparse⟩
    cases hrecv.symm.trans hrecv'
    rcases bind_eq_ok.1 (hnull.symm.trans hparse) with ⟨e', -, hmap⟩
    rcases map_eq_ok.1 hmap with ⟨e'', -, heq⟩
    cases heq
  · intro hpre
    rw [hpre] at hnull
    rw [rejection, hnull]
    rfl

/-- What `engine->handle` and the complaint after it do to the slot. -/
lemma handleRound_view (x : Arrival) (a : Addr) (st : LoopState) :
    (handleRound cfg x a st).map LoopState.view =
      exec (Cell.step .invalidFree) st.view (handleScript cfg x a) := by
  unfold handleRound handleScript
  generalize (engine cfg.host cfg.libc cfg.kind).handle x.sys cfg.tablename a = out
  rcases out with ⟨ok, text⟩
  rw [exec_append, LoopState.view, exec_report]
  dsimp only
  cases report st.error text with
  | error f => rfl
  | ok e => cases ok <;> cases e <;> rfl

/-- What a round does to the slot is its script. -/
lemma round_view (st : LoopState) (x : Arrival) :
    (round cfg st x).map LoopState.view =
      exec (Cell.step .invalidFree) st.view (script cfg x) := by
  unfold round script
  cases hrecv : x.recv with
  | error errno =>
    cases herror : st.error with
    | none => simp [LoopState.view, herror, exec, Cell.step, LoopState.complain, LoopState.log,
        Except.map, bind, Except.bind, pure, Except.pure, errorFree]
    | some e => simp [LoopState.view, herror, exec, Cell.step, Except.map, bind, Except.bind]
  | ok buffer =>
    dsimp only
    rw [exec_append, LoopState.view, exec_report]
    have hentry : (st.log .queueReceive true st.error).error = st.error := rfl
    unfold parseRound
    rw [hentry]
    rcases parseAddr_slot cfg.host cfg.libc x.errno (cstr buffer) with
      ⟨a, haccepts⟩ | ⟨text, hrejects⟩
    · rw [parsed_of_slot hrecv haccepts, haccepts]
      cases report st.error (prefixText cfg.host x.errno (cstr buffer)) with
      | error f => rfl
      | ok e => exact handleRound_view x a _
    · rcases parsed_of_slot_none hrecv hrejects with ⟨hparsed, htext⟩
      rw [hparsed, hrejects]
      cases hpre : prefixText cfg.host x.errno (cstr buffer) with
      | none =>
        rw [htext hpre]
        cases st.error <;> rfl
      | some t => cases st.error <;> rfl

/-- The engine is handed the address of every accepted message. -/
lemma round_handled {st st' : LoopState} {x : Arrival} (hrun : round cfg st x = .ok st') :
    st'.handled = st.handled ++ (parsed cfg x).toList := by
  unfold round at hrun
  cases hrecv : x.recv with
  | error errno =>
    simp only [hrecv] at hrun
    rcases bind_eq_ok.1 hrun with ⟨e, -, hst⟩
    cases hst
    simp [parsed, hrecv, LoopState.complain, LoopState.log]
  | ok buffer =>
    simp only [hrecv, parseRound] at hrun
    rcases bind_eq_ok.1 hrun with ⟨⟨addr, e⟩, hparse, hrest⟩
    rcases parseAddr_slot cfg.host cfg.libc x.errno (cstr buffer) with
      ⟨a, haccepts⟩ | ⟨text, hrejects⟩
    · rw [parsed_of_slot hrecv haccepts]
      rw [haccepts] at hparse
      rcases map_eq_ok.1 hparse with ⟨e', -, heq⟩
      cases heq
      rcases bind_eq_ok.1 hrest with ⟨e'', -, hst⟩
      cases hst
      split <;> rfl
    · rw [(parsed_of_slot_none hrecv hrejects).1]
      rw [hrejects] at hparse
      rcases bind_eq_ok.1 hparse with ⟨e', -, hmap⟩
      rcases map_eq_ok.1 hmap with ⟨e'', -, heq⟩
      cases heq
      cases hrest
      simp [LoopState.complain, LoopState.log]

/-! ## Runs -/

lemma exec_round_handled {xs : List Arrival} {st st' : LoopState}
    (hrun : exec (round cfg) st xs = .ok st') :
    st'.handled = st.handled ++ xs.filterMap (parsed cfg) := by
  induction xs generalizing st with
  | nil =>
    cases hrun
    simp
  | cons x xs ih =>
    rcases exec_cons_ok.1 hrun with ⟨st₁, hround, hrest⟩
    rw [ih hrest, round_handled hround]
    cases hx : parsed cfg x <;> simp [hx]

/-- With ipset, a command that fails for a good address has the loop print what an earlier message left
in the slot. -/
example : (exec (round ⟨Host.lp64, LibC.numeric, .posix, .ipset, str "banned"⟩) .start
    [⟨.ok (str "1.2.3.4/abc" ++ [0]), 0, ⟨fun _ => none, fun _ => 0⟩⟩,
      ⟨.ok (str "192.0.2.1" ++ [0]), 0, ⟨fun _ => none, fun _ => 256⟩⟩]).map LoopState.view =
    .ok (none, [some (str "number expected, no digit found")]) := by
  decide

end Daemon
end Banip
