import Banip.Daemon.Main

/-!
# Cli — `banip-cli.c`

`banip-cli` sends one message: it opens the queue named by its first argument as a sender, sends the
second argument and closes the queue.  A process is at one of the calls of `queue.h` that its `main`
makes, since other processes may run between two of them.

One error slot serves all the calls.  `main` does not stop after a failed `queue_send`, it goes on to
`queue_close(&queue, &error)`, which writes the slot a second time if it fails too; and the status is
that of success once the queue is open.
-/

namespace Banip
namespace Client

open Lib Daemon

/-- What the environment decides in a step of a client. -/
structure Env where
  malloc : Bool
  queueOpen : OpenOutcome
  send : Option Nat
  closeFirst : Option Nat
  closeSecond : Option Nat

/-- What a step of a client comes to: the system, the client, and, if it made a `queue_send` that
returned true, the queue and the message. -/
structure Outcome (C : Type) where
  kernel : System
  client : C
  sent : Option (Nat × Bytes)

/-! ## A sender's handle on a POSIX queue -/

/-- The handle of a sender: it remembers no name. -/
def Sender (q : Handle) : Prop := ∃ pq : Posix.PosixQueue, q = .posix pq ∧ pq.filename = none

section

variable (h : Host) (os : Os) (sys : System) {q : Handle}

variable {os} in
lemma sender_init {malloc : Bool} (hinit : Handle.queueInit os malloc .posix = .ok q) :
    Sender q := by
  cases malloc with
  | false => cases hinit
  | true =>
    cases hinit
    exact ⟨_, rfl, rfl⟩

/-- An open changes nothing but the handle, which is then on the named queue if it is on one, and fails
if and only if it reports an error. -/
lemma sender_open (hq : Sender q) (out : OpenOutcome) (uid self umask : Nat) (name : Bytes) :
    ∃ r, q.queueOpen h os out uid self sys umask name ⟨true, false⟩ = .ok r ∧ r.kernel = sys ∧
      Sender r.queue ∧ (∀ i, r.queue.qid = some i → sys.mqs.names name = some i) ∧
      (r.ok = true ↔ r.error = none) := by
  rcases hq with ⟨pq, rfl, hname⟩
  have hkernel : (Posix.queueOpen os out.posix uid self sys.mqs umask pq name ⟨true, false⟩).kernel =
      sys.mqs := (Posix.queueOpen_sender out.posix name rfl).1
  have hfilename : (Posix.queueOpen os out.posix uid self sys.mqs umask pq name
      ⟨true, false⟩).queue.filename = pq.filename := (Posix.queueOpen_sender out.posix name rfl).2.1
  have hnamed : ∀ d, (Posix.queueOpen os out.posix uid self sys.mqs umask pq name
      ⟨true, false⟩).queue.mq = some d → sys.mqs.names name = some d.qid :=
    (Posix.queueOpen_sender out.posix name rfl).2.2
  refine ⟨_, rfl, ?_, ⟨_, rfl, hfilename.trans hname⟩, ?_, ?_⟩
  · simp only [hkernel]
  · intro i hi
    rcases Option.map_eq_some_iff.1 hi with ⟨d, hd, rfl⟩
    exact hnamed d hd
  · simp only [Posix.queueOpen, Bool.false_and, Bool.false_eq_true, if_false]
    cases sys.mqs.mqOpen name true false uid self pq.attr out.posix.mqOpen with
    | error errno => simp
    | ok found =>
      dsimp only
      cases found.2.mqGetattr found.1 out.posix.mqGetattr <;> simp

/-- What a send of a string by a sender can do: it is refused and reported, or the string is in the
queue. -/
inductive SendEffect (sys : System) (q : Handle) (msg : Bytes) (r : Sent Handle System) : Prop where
  | refused (hok : r.ok = false) (herror : r.error ≠ none) (hkernel : r.kernel = sys)
  | posted {i : Nat} {kq : Mq} (hok : r.ok = true) (herror : r.error = none) (hqid : q.qid = some i)
      (hkq : sys.mqs.objects i = some kq) (hsize : msg.length ≤ kq.attr.msgsize)
      (hkernel : r.kernel = { sys with mqs := sys.mqs.setMsgs i (kq.msgs ++ [msg]) })

lemma sender_send (hq : Sender q) {msg : Bytes} (hmsg : msg.length < 2 ^ 31) (fails : Option Nat) :
    ∃ r, q.queueSend h os sys msg (-1) fails = .ok r ∧ r.queue = q ∧ SendEffect sys q msg r := by
  rcases hq with ⟨pq, rfl, -⟩
  have hsend : ∃ r, Posix.queueSend h os sys.mqs pq msg (-1) fails = .ok r ∧ r.queue = pq ∧ _ :=
    Posix.queueSend_string h pq hmsg fails
  rcases hsend with ⟨r, hr, hqueue, heffect⟩
  have herror := Posix.queueSend_error hr
  refine ⟨⟨r.ok, .posix r.queue, { sys with mqs := r.kernel }, r.error⟩, ?_, ?_, ?_⟩
  · simp only [Handle.queueSend, hr]
    rfl
  · simp only [hqueue]
  · rcases heffect with ⟨hok, hkernel⟩ | ⟨hok, d, kq, hd, hkq, hsize, hkernel⟩
    · refine .refused hok (fun hnone => ?_) (by simp only [hkernel])
      rw [herror.2 hnone] at hok
      cases hok
    · refine .posted hok (herror.1 hok) ?_ hkq hsize (by simp only [hkernel])
      simp [Handle.qid, hd]

/-- A close changes nothing but the handle. -/
lemma sender_close (hq : Sender q) (uid : Nat) (first second : Option Nat) :
    (Handle.queueClose os uid first second sys (some q)).2 = sys ∧
      ∀ q', (Handle.queueClose os uid first second sys (some q)).1 = some q' → Sender q' := by
  rcases hq with ⟨pq, rfl, hname⟩
  have heffect : Posix.CloseEffect sys.mqs uid second pq
      (Posix.queueClose os uid first second sys.mqs (some pq)) := Posix.queueClose_effect _ _
  rcases heffect with ⟨hkernel, -, hqueue⟩ | ⟨name, hsome, -⟩
  · simp only [Handle.queueClose, hkernel, true_and]
    intro q' hq'
    rcases hqueue with hnone | ⟨mq, -, hsome⟩
    · simp [hnone] at hq'
    · simp only [hsome, Option.map_some, Option.some.injEq] at hq'
      exact ⟨_, hq'.symm, hname⟩
  · cases hname.symm.trans hsome

end

/-- What a step of a sender can do to the system: nothing, or one message into one queue. -/
inductive Effect (sys : System) : System → Option (Nat × Bytes) → Prop where
  | quiet : Effect sys sys none
  | posted {i : Nat} {kq : Mq} {msg : Bytes} (hkq : sys.mqs.objects i = some kq)
      (hsize : msg.length ≤ kq.attr.msgsize) (htext : (0 : Byte) ∉ msg) :
      Effect sys { sys with mqs := sys.mqs.setMsgs i (kq.msgs ++ [msg]) } (some (i, msg))

/-! ## What the steps of one client do to the queues -/

/-- The queues before and after each of the steps. -/
abbrev Touches : Type := List (MqKernel × MqKernel)

/-- The steps do nothing to the queues. -/
def Quiet (ts : Touches) : Prop := ∀ x ∈ ts, x.2 = x.1

/-- One of the steps puts `msg` behind the messages of a queue that had the name `name` at an earlier
one, and the others do nothing to the queues. -/
def Once (name msg : Bytes) (ts : Touches) : Prop :=
  ∃ before x after i kq, ts = before ++ x :: after ∧ Quiet before ∧ Quiet after ∧
    (∃ y ∈ before, y.1.names name = some i) ∧ x.1.objects i = some kq ∧
    x.2 = x.1.setMsgs i (kq.msgs ++ [msg])

lemma Quiet.concat {ts : Touches} (h : Quiet ts) (k : MqKernel) : Quiet (ts ++ [(k, k)]) := by
  intro x hx
  rcases List.mem_append.1 hx with hx | hx
  · exact h x hx
  · rw [List.mem_singleton.1 hx]

lemma Once.concat {name msg : Bytes} {ts : Touches} (h : Once name msg ts) (k : MqKernel) :
    Once name msg (ts ++ [(k, k)]) := by
  rcases h with ⟨before, x, after, i, kq, rfl, hbefore, hafter, hput⟩
  exact ⟨before, x, after ++ [(k, k)], i, kq, by simp, hbefore, hafter.concat k, hput⟩

/-! ## `banip-cli` -/

/-- The points of `main`, by the call that comes next. -/
inductive Point where
  | start
  | opening (q : Handle)
  | sending (q : Handle)
  | closing (q : Handle)
  | reporting
  | exited
deriving DecidableEq, Repr

/-- A `banip-cli`; `argv` is without the name of the program. -/
structure Cli where
  uid : Nat
  pid : Nat
  umask : Nat
  argv : List CText
  point : Point
  error : Slot
  success : Bool
  stdout : Bytes
  stderr : Bytes
deriving DecidableEq, Repr

namespace Cli

/-- `main` with its variables initialised. -/
def launch (uid pid umask : Nat) (argv : List CText) : Cli :=
  ⟨uid, pid, umask, argv, .start, none, false, [], []⟩

/-- `argv[1]`. -/
def queuename (c : Cli) : Bytes := (c.argv.getD 0 ⟨[], by simp⟩).val

/-- `argv[2]`. -/
def message (c : Cli) : Bytes := (c.argv.getD 1 ⟨[], by simp⟩).val

def usage : Bytes := str "expected arguments are: 1) queue path/name ; 2) message to send\n"

/-- Run `main` from one call to the next. -/
def step (cfg : Config) (env : Env) (sys : System) (c : Cli) : Except Fault (Outcome Cli) :=
  match c.point with
  | .start =>
    if c.argv.length ≠ 2 then
      .ok ⟨sys, { c with stderr := c.stderr ++ usage, point := .reporting }, none⟩
    else
      match Handle.queueInit cfg.os env.malloc cfg.backend with
      | .error text => do
          let error ← errorSet c.error text
          return ⟨sys, { c with error := error, point := .reporting }, none⟩
      | .ok q => .ok ⟨sys, { c with point := .opening q }, none⟩
  | .opening q => do
      let r ← q.queueOpen cfg.host cfg.os env.queueOpen c.uid c.pid sys c.umask c.queuename
        ⟨true, false⟩
      let error ← report c.error r.error
      let c := { c with umask := r.umask, error := error }
      return ⟨r.kernel, { c with point := if r.ok then .sending r.queue else .closing r.queue }, none⟩
  | .sending q => do
      let r ← q.queueSend cfg.host cfg.os sys c.message (-1) env.send
      let error ← report c.error r.error
      -- the status does not depend on the outcome
      let c := { c with error := error, success := true, point := .closing r.queue }
      return if r.ok then
        ⟨r.kernel, { c with stdout := c.stdout ++ str "OK\n" }, r.queue.qid.map (·, c.message)⟩
      else ⟨r.kernel, c, none⟩
  | .closing q => do
      let error ← report c.error (q.closeError cfg.os c.uid env.closeFirst env.closeSecond sys)
      let sys := (Handle.queueClose cfg.os c.uid env.closeFirst env.closeSecond sys (some q)).2
      return ⟨sys, { c with error := error, point := .reporting }, none⟩
  | .reporting =>
    match c.error with
    | none => .ok ⟨sys, { c with point := .exited }, none⟩
    | some text =>
        .ok ⟨sys, { c with stderr := c.stderr ++ text ++ [chr '\n'], error := errorFree c.error
                           point := .exited }, none⟩
  | .exited => .ok ⟨sys, c, none⟩

/-! ## What a process has said and done -/

/-- The process has said that it sent its message, and it has. -/
def Told (c : Cli) (ts : Touches) : Prop := c.stdout = str "OK\n" ∧ Once c.queuename c.message ts

/-- The process has said nothing and sent nothing. -/
def Untold (c : Cli) (ts : Touches) : Prop := c.stdout = [] ∧ Quiet ts

/-- What is known of a process whose steps were `ts`. -/
def Ok (c : Cli) (ts : Touches) : Prop :=
  match c.point with
  | .start => c.error = none ∧ c.Untold ts
  | .opening q => Sender q ∧ c.error = none ∧ c.Untold ts
  | .sending q => Sender q ∧ c.error = none ∧ c.Untold ts ∧
      ∀ i, q.qid = some i → ∃ y ∈ ts, y.1.names c.queuename = some i
  | .closing q => Sender q ∧ (c.Told ts ∨ c.error ≠ none ∧ c.Untold ts)
  | .reporting => c.Told ts ∨ (c.error ≠ none ∨ c.stderr ≠ []) ∧ c.Untold ts
  | .exited => c.Told ts ∨ c.stderr ≠ [] ∧ c.Untold ts

section

variable {c : Cli} {ts : Touches} (k : MqKernel)

lemma Told.concat (h : c.Told ts) : c.Told (ts ++ [(k, k)]) := ⟨h.1, h.2.concat k⟩

lemma Untold.concat (h : c.Untold ts) : c.Untold (ts ++ [(k, k)]) := ⟨h.1, h.2.concat k⟩

/-- A step of others in its name that does nothing. -/
lemma Ok.concat (h : c.Ok ts) : c.Ok (ts ++ [(k, k)]) := by
  unfold Ok at h ⊢
  cases hpoint : c.point with
  | start =>
    rw [hpoint] at h
    exact ⟨h.1, h.2.concat k⟩
  | opening q =>
    rw [hpoint] at h
    exact ⟨h.1, h.2.1, h.2.2.concat k⟩
  | sending q =>
    rw [hpoint] at h
    rcases h with ⟨hq, herror, huntold, hfound⟩
    refine ⟨hq, herror, huntold.concat k, fun i hi => ?_⟩
    rcases hfound i hi with ⟨y, hy, hname⟩
    exact ⟨y, List.mem_append_left _ hy, hname⟩
  | closing q =>
    rw [hpoint] at h
    exact ⟨h.1, h.2.imp (Told.concat k) (And.imp_right (Untold.concat k))⟩
  | reporting | exited =>
    rw [hpoint] at h
    exact h.imp (Told.concat k) (And.imp_right (Untold.concat k))

end

lemma message_nul_free (c : Cli) : (0 : Byte) ∉ c.message := (c.argv.getD 1 ⟨[], by simp⟩).property

/-- A step that the process knows of: it has come to `out`, and what it has said and done is in step
with the queues. -/
def Knows (sys : System) (c : Cli) (ts : Touches) (out : Outcome Cli) : Prop :=
  out.client.argv = c.argv ∧ out.client.Ok (ts ++ [(sys.mqs, out.kernel.mqs)]) ∧
    Effect sys out.kernel out.sent

section

variable {cfg : Config} (env : Env) (sys : System) {c : Cli} {ts : Touches} {q : Handle}

lemma step_start (hposix : cfg.backend = .posix) (hpoint : c.point = .start) (herror : c.error = none)
    (huntold : c.Untold ts) : ∃ out, c.step cfg env sys = .ok out ∧ c.Knows sys ts out := by
  simp only [step, hpoint]
  split
  · refine ⟨_, rfl, rfl, ?_, .quiet⟩
    exact Or.inr ⟨Or.inr (by simp [usage, str]), huntold.concat _⟩
  · cases hinit : Handle.queueInit cfg.os env.malloc cfg.backend with
    | error text =>
      rw [herror]
      exact ⟨_, rfl, rfl, Or.inr ⟨Or.inl (by simp), huntold.concat _⟩, .quiet⟩
    | ok q =>
      rw [hposix] at hinit
      exact ⟨_, rfl, rfl, ⟨sender_init hinit, herror, huntold.concat _⟩, .quiet⟩

lemma step_opening (hpoint : c.point = .opening q) (hq : Sender q) (herror : c.error = none)
    (huntold : c.Untold ts) : ∃ out, c.step cfg env sys = .ok out ∧ c.Knows sys ts out := by
  rcases sender_open cfg.host cfg.os sys hq env.queueOpen c.uid c.pid c.umask c.queuename with
    ⟨r, hr, hkernel, hqueue, hnamed, hok⟩
  refine ⟨⟨r.kernel, { c with
    umask := r.umask
    error := r.error
    point := if r.ok then .sending r.queue else .closing r.queue }, none⟩, ?_, rfl, ?_, ?_⟩
  · simp only [step, hpoint, hr, ok_bind, herror, report_of_null]
    rfl
  · rw [hkernel]
    cases hrok : r.ok with
    | true =>
      -- the name was looked up in this step
      refine ⟨hqueue, hok.1 hrok, huntold.concat _, fun i hi => ?_⟩
      exact ⟨(sys.mqs, sys.mqs), List.mem_append_right _ List.mem_cons_self, hnamed i hi⟩
    | false =>
      have hfailed : r.error ≠ none := by
        intro hnone
        rw [hok.2 hnone] at hrok
        cases hrok
      exact ⟨hqueue, Or.inr ⟨hfailed, huntold.concat _⟩⟩
  · rw [hkernel]
    exact .quiet

lemma step_sending (hpoint : c.point = .sending q) (hq : Sender q) (herror : c.error = none)
    (huntold : c.Untold ts) (hfound : ∀ i, q.qid = some i → ∃ y ∈ ts, y.1.names c.queuename = some i)
    (hshort : c.message.length < 2 ^ 31) :
    ∃ out, c.step cfg env sys = .ok out ∧ c.Knows sys ts out := by
  rcases sender_send cfg.host cfg.os sys hq hshort env.send with ⟨r, hr, hqueue, heffect⟩
  simp only [step, hpoint, hr, ok_bind, herror, report_of_null, pure_eq_ok, hqueue]
  cases heffect with
  | refused hrok hrerror hkernel =>
    refine ⟨_, rfl, ?_, ?_, ?_⟩
    · simp [hrok]
    · simp only [hrok, Bool.false_eq_true, if_false, hkernel]
      exact ⟨hq, Or.inr ⟨hrerror, huntold.concat _⟩⟩
    · simp only [hrok, Bool.false_eq_true, if_false, hkernel]
      exact .quiet
  | @posted i kq hrok hrerror hqid hkq hsize hkernel =>
    refine ⟨_, rfl, ?_, ?_, ?_⟩
    · simp [hrok]
    · simp only [hrok, if_true, hkernel]
      refine ⟨hq, Or.inl ⟨by simp [huntold.1], ?_⟩⟩
      have hnone : Quiet [] := by simp [Quiet]
      exact ⟨ts, _, [], i, kq, rfl, huntold.2, hnone, hfound i hqid, hkq, rfl⟩
    · simp only [hrok, if_true, hqid, hkernel]
      exact .posted hkq hsize c.message_nul_free

/-- A close that reports while an error is waiting to be printed is the end of the process. -/
lemma step_closing (hpoint : c.point = .closing q) (hq : Sender q)
    (hsaid : c.Told ts ∨ c.error ≠ none ∧ c.Untold ts) :
    (∃ out, c.step cfg env sys = .ok out ∧ c.Knows sys ts out) ∨
      c.step cfg env sys = .error .invalidFree := by
  have hclose := (sender_close cfg.os sys hq c.uid env.closeFirst env.closeSecond).1
  simp only [step, hpoint]
  cases hreport : report c.error
      (q.closeError cfg.os c.uid env.closeFirst env.closeSecond sys) with
  | error f =>
    right
    have hf : f = .invalidFree := report_fault hreport
    rw [hf]
    rfl
  | ok error =>
    left
    refine ⟨_, rfl, rfl, ?_, ?_⟩
    · dsimp only
      rw [hclose]
      rcases hsaid with htold | ⟨hsome, huntold⟩
      · exact Or.inl (htold.concat sys.mqs)
      · exact Or.inr ⟨Or.inl (report_keeps hreport hsome), huntold.concat sys.mqs⟩
    · dsimp only
      rw [hclose]
      exact .quiet

lemma step_reporting (hpoint : c.point = .reporting)
    (hsaid : c.Told ts ∨ (c.error ≠ none ∨ c.stderr ≠ []) ∧ c.Untold ts) :
    ∃ out, c.step cfg env sys = .ok out ∧ c.Knows sys ts out := by
  simp only [step, hpoint]
  cases herror : c.error with
  | none =>
    refine ⟨_, rfl, rfl, ?_, .quiet⟩
    rcases hsaid with htold | ⟨hany, huntold⟩
    · exact Or.inl (htold.concat sys.mqs)
    · exact Or.inr ⟨hany.resolve_left (by simp [herror]), huntold.concat sys.mqs⟩
  | some text =>
    refine ⟨_, rfl, rfl, ?_, .quiet⟩
    rcases hsaid with htold | ⟨-, huntold⟩
    · exact Or.inl (htold.concat sys.mqs)
    · exact Or.inr ⟨by simp, huntold.concat sys.mqs⟩

/-- Every step is one that the process knows of, or `queue_close` has written to a slot that was
filled. -/
lemma step_ok (hposix : cfg.backend = .posix) (hc : c.Ok ts) (hshort : c.message.length < 2 ^ 31) :
    (∃ out, c.step cfg env sys = .ok out ∧ c.Knows sys ts out) ∨
      c.step cfg env sys = .error .invalidFree := by
  have hok : c.Ok ts := hc
  unfold Ok at hok
  split at hok
  · exact Or.inl (step_start env sys hposix ‹_› hok.1 hok.2)
  · exact Or.inl (step_opening env sys ‹_› hok.1 hok.2.1 hok.2.2)
  · exact Or.inl (step_sending env sys ‹_› hok.1 hok.2.1 hok.2.2.1 hok.2.2.2 hshort)
  · exact step_closing env sys ‹_› hok.1 hok.2
  · exact Or.inl (step_reporting env sys ‹_› hok)
  · rename_i hpoint
    refine Or.inl ⟨⟨sys, c, none⟩, ?_, rfl, hc.concat sys.mqs, .quiet⟩
    simp only [step, hpoint]

end

end Cli

end Client
end Banip
