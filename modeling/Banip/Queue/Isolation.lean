import Banip.Queue.SystemV
import Banip.Lib.Runs

/-!
# Isolation — what a System V receive tells about other messages

One System V queue, a daemon that receives from it, any number of C senders (`queue_send`) and of
PHP clients (`BanIPClient::addAddress`), in any interleaving and with any outcome of the system
calls.  The blocks behind the handles start with arbitrary contents.

A receive should hand its caller the message it took and nothing else.  It does so for the messages
that carry a NUL inside their payload.  A payload without one is read on into what an earlier
message, or the heap, left behind it.
-/

namespace Banip
namespace SystemV

open Lib

/-! ## The system -/

/-- What a client puts into the queue. -/
inductive Client where
  | c (msg : CText)
  | php (addr : Bytes)
deriving DecidableEq

/-- A successful receive: the payload the kernel delivered, the returned count and the string in the
caller's buffer. -/
structure Receipt where
  payload : Bytes
  read : Int
  text : Bytes
deriving DecidableEq, Repr

/-- The queues, the senders' handles, the daemon's handle and its buffer, and what happened so far:
the sends with their verdict, and the receipts. -/
structure Mail where
  ipc : Ipc
  senders : Nat → SystemvQueue
  daemon : SystemvQueue
  buffer : Bytes
  sent : List (Client × Bool)
  receipts : List Receipt

/-- A call of a client or of the daemon, and what the environment decides in it. -/
inductive Action where
  | send (j : Nat) (msg : CText) (fails : Option Nat)
  | php (addr : Bytes) (fails : Option Nat)
  | receive (fails : Option Nat) (errno : Nat)

/-- The message an action may put into the queue. -/
def Action.client : Action → Option Client
  | .send _ msg _ => some (.c msg)
  | .php addr _ => some (.php addr)
  | .receive _ _ => none

namespace Mail

/-- The payloads in the daemon's queue. -/
def pending (s : Mail) : List Bytes := ((s.daemon.qid.bind s.ipc.objects).map MsgQueue.msgs).getD []

end Mail

/-- One call.  The daemon passes the size of its buffer, as `main` does. -/
def step (os : Os) (s : Mail) : Action → Except Fault Mail
  | .send j msg fails =>
      match queueSend os s.ipc (s.senders j) msg.val (-1) fails with
      | .error f => .error f
      | .ok r =>
          .ok { s with
            ipc := r.kernel
            senders := Function.update s.senders j r.queue
            sent := s.sent ++ [(.c msg, r.ok)] }
  | .php addr fails =>
      match s.daemon.qid with
      | none => .ok s
      | some i =>
          let r := addAddress s.ipc i addr fails
          .ok { s with ipc := r.2, sent := s.sent ++ [(.php addr, r.1)] }
  | .receive fails errno =>
      match queueReceive os s.ipc s.daemon s.buffer s.buffer.length fails errno with
      | .error f => .error f
      | .ok r =>
          let s' := { s with ipc := r.kernel, daemon := r.queue, buffer := r.buffer }
          if r.read = -1 then .ok s'
          else .ok { s' with
            receipts := s.receipts ++ [⟨s.pending.headD [], r.read, cstr r.buffer⟩] }

/-- All handles are open on the queue `i` of capacity `b`, and the daemon's buffer is the
`b + 1` bytes that `main` allocates. -/
structure Wired (h : Host) (b i : Nat) (s : Mail) : Prop where
  queue : ∃ q, s.ipc.objects i = some q ∧ q.qbytes = b
  senders : ∀ j, Attached h i b (s.senders j)
  daemon : Attached h i b s.daemon
  buffer : s.buffer.length = b + 1

/-- Before the first message. -/
structure Ready (h : Host) (b i : Nat) (s : Mail) : Prop extends Wired h b i s where
  pending : s.pending = []
  sent : s.sent = []
  receipts : s.receipts = []

/-! ## Single calls -/

section

variable {h : Host} (os : Os) {b i : Nat} {s : Mail}

lemma Attached.setBuffer {q : SystemvQueue} {area : Bytes} (hq : Attached h i b q)
    (harea : area.length = areaSize h b) : Attached h i b { q with buffer := some area } :=
  ⟨hq.qid, hq.bufferSize, area, rfl, harea⟩

lemma Attached.area_length {q : SystemvQueue} {area : Bytes} (hq : Attached h i b q)
    (harea : q.buffer = some area) : area.length = areaSize h b := by
  rcases hq.buffer with ⟨area', harea', hlen⟩
  cases harea.symm.trans harea'
  exact hlen

lemma Wired.pending_eq (hw : Wired h b i s) {q : MsgQueue} (hq : s.ipc.objects i = some q) :
    s.pending = q.msgs := by
  simp [Mail.pending, hw.daemon.qid, hq]

/-- What a send does to the system: its payload is refused, for a reason, or reaches the queue. -/
def SendEffect (h : Host) (b i : Nat) (s s' : Mail) (c : Client) (payload : Bytes)
    (fails : Option Nat) : Prop :=
  Wired h b i s' ∧ s'.daemon = s.daemon ∧ s'.receipts = s.receipts ∧
    (s'.sent = s.sent ++ [(c, false)] ∧ s'.pending = s.pending ∧
        (fails = none → payload.length ≤ b → s.pending ≠ []) ∨
      s'.sent = s.sent ++ [(c, true)] ∧ s'.pending = s.pending ++ [payload] ∧ payload.length ≤ b)

/-- Offering a payload to the daemon's queue, with the senders' handles still attached. -/
lemma sendEffect_offer (hw : Wired h b i s) (c : Client) (payload : Bytes) (fails : Option Nat)
    {senders : Nat → SystemvQueue} (hsenders : ∀ j, Attached h i b (senders j)) :
    SendEffect h b i s
      { s with
        ipc := (s.ipc.offer i payload fails).2
        senders := senders
        sent := s.sent ++ [(c, (s.ipc.offer i payload fails).1)] } c payload fails := by
  rcases hw.queue with ⟨q, hq, hb⟩
  rcases Ipc.offer_cases payload fails hq with ⟨hoffer, hreason⟩ | ⟨hoffer, hle⟩
  · rw [hoffer]
    refine ⟨⟨⟨q, hq, hb⟩, hsenders, hw.daemon, hw.buffer⟩, rfl, rfl, Or.inl ⟨rfl, rfl, ?_⟩⟩
    simpa [hw.pending_eq hq, hb] using hreason
  · rw [hoffer]
    refine ⟨⟨⟨_, Ipc.objects_setMsgs hq, hb⟩, hsenders, hw.daemon, hw.buffer⟩, rfl, rfl,
      Or.inr ⟨rfl, ?_, by omega⟩⟩
    rw [hw.pending_eq hq]
    simp [Mail.pending, hw.daemon.qid, Ipc.objects_setMsgs hq]

/-- A C sender whose string or payload leaves its area. -/
lemma step_send_overflow (hw : Wired h b i s) (j : Nat) {msg : CText} (fails : Option Nat)
    (hlong : areaSize h b < msg.val.length + 1 ∨ areaSize h b < b / 8) :
    step os s (.send j msg fails) = .error .outOfBounds := by
  rcases (hw.senders j).buffer with ⟨area, harea, hlen⟩
  have hover : queueSend os s.ipc (s.senders j) msg.val (-1) fails = .error .outOfBounds := by
    apply queueSend_overflow _ _ harea
    simpa [hlen, (hw.senders j).bufferSize] using hlong
  simp [step, hover]

/-- A C sender that stays inside its area. -/
lemma step_send (hw : Wired h b i s) (j : Nat) {msg : CText} (fails : Option Nat)
    (hmsg : msg.val.length + 1 ≤ areaSize h b) (hsize : b / 8 ≤ areaSize h b) :
    ∃ area s', (s.senders j).buffer = some area ∧ step os s (.send j msg fails) = .ok s' ∧
      SendEffect h b i s s' (.c msg) ((copied msg.val area).take (b / 8)) fails := by
  rcases (hw.senders j).buffer with ⟨area, harea, hlen⟩
  have hcopied : (copied msg.val area).length = areaSize h b := by
    rw [copied_length (by omega), hlen]
  have hsenders : ∀ j', Attached h i b (Function.update s.senders j
      { s.senders j with buffer := some (copied msg.val area) } j') := by
    intro j'
    by_cases hj : j' = j
    · subst hj
      simpa using (hw.senders j').setBuffer hcopied
    · simpa [Function.update_of_ne hj] using hw.senders j'
  have hsend : ∃ error, queueSend os s.ipc (s.senders j) msg.val (-1) fails = _ :=
    queueSend_eq (-1) fails (hw.senders j) harea (by omega) (by omega)
  rcases hsend with ⟨error, hsend⟩
  have heffect := sendEffect_offer hw (.c msg) ((copied msg.val area).take (b / 8)) fails hsenders
  exact ⟨area, _, harea, by simp [step, hsend], heffect⟩

/-- A PHP client. -/
lemma step_php (hw : Wired h b i s) (addr : Bytes) (fails : Option Nat) :
    ∃ s', step os s (.php addr fails) = .ok s' ∧ SendEffect h b i s s' (.php addr) addr fails := by
  have heffect := sendEffect_offer hw (.php addr) addr fails hw.senders
  exact ⟨_, by simp [step, hw.daemon.qid, addAddress], heffect⟩

/-- A kernel that has no reason to refuse delivers the front payload. -/
lemma Wired.msgrcv_front (hw : Wired h b i s) {m : Bytes} {rest : List Bytes}
    (hpending : s.pending = m :: rest) (hle : m.length ≤ b) :
    s.ipc.msgrcv i s.buffer.length none = .ok (m, s.ipc.setMsgs i rest) := by
  rcases hw.queue with ⟨q, hq, -⟩
  have hmsgs : q.msgs = m :: rest := (hw.pending_eq hq).symm.trans hpending
  have hnot : ¬ s.buffer.length < m.length := by
    rw [hw.buffer]
    omega
  simp [Ipc.msgrcv, hq, hmsgs, hnot]

/-- A receive that the kernel refuses leaves the system as it is. -/
lemma step_refused (hw : Wired h b i s) {fails : Option Nat} (errno : Nat) {e : Nat}
    (hrcv : s.ipc.msgrcv i s.buffer.length fails = .error e) :
    step os s (.receive fails errno) = .ok s := by
  simp [step, queueReceive_refused errno hw.daemon.qid hrcv]

/-- A receive of a payload that fits the area and has a NUL in it (or a count that is taken for a
failure). -/
lemma step_taken (hw : Wired h b i s) {fails : Option Nat} (errno : Nat) {m : Bytes} {k' : Ipc}
    (hrcv : s.ipc.msgrcv i s.buffer.length fails = .ok (m, k')) (hm : m.length ≤ areaSize h b)
    (hnul : (0 : Byte) ∈ m ∨ toInt m.length = -1) :
    ∃ s', step os s (.receive fails errno) = .ok s' ∧ Wired h b i s' ∧
      s.pending = m :: s'.pending ∧ s'.sent = s.sent ∧
      (toInt m.length = -1 ∧ s'.receipts = s.receipts ∨
        toInt m.length ≠ -1 ∧ s'.receipts = s.receipts ++ [⟨m, toInt m.length, cstr m⟩]) := by
  rcases hw.queue with ⟨q, hq, hb⟩
  rcases hw.daemon.buffer with ⟨area, harea, hlen⟩
  rcases Ipc.msgrcv_ok hrcv with ⟨q', msgs, hq', hmsgs, hsize, rfl⟩
  cases hq.symm.trans hq'
  have hle : m.length ≤ area.length := by omega
  have hpending : s.pending = m :: msgs := (hw.pending_eq hq).trans hmsgs
  have hdaemon : Attached h i b { s.daemon with buffer := some (overwritten m area) } :=
    hw.daemon.setBuffer ((overwritten_length hle).trans hlen)
  have hqueue : ∃ q', (s.ipc.setMsgs i msgs).objects i = some q' ∧ q'.qbytes = b :=
    ⟨_, Ipc.objects_setMsgs hq, hb⟩
  by_cases hlost : toInt m.length = -1
  · -- the kernel has written to the area, but the caller is told of an error
    have hrun : queueReceive os s.ipc s.daemon s.buffer s.buffer.length fails errno = _ :=
      queueReceive_lost errno hw.daemon.qid harea hrcv hle hlost
    refine ⟨{ s with
      ipc := s.ipc.setMsgs i msgs
      daemon := { s.daemon with buffer := some (overwritten m area) } },
      by simp [step, hrun], ⟨hqueue, hw.senders, hdaemon, hw.buffer⟩, ?_, rfl, Or.inl ⟨hlost, rfl⟩⟩
    simp [Mail.pending, hw.daemon.qid, Ipc.objects_setMsgs hq, hq, hmsgs]
  · -- the NUL of the payload hides what an earlier message left behind it
    have hmem : (0 : Byte) ∈ m := hnul.resolve_right hlost
    have htext : cstr (overwritten m area) = cstr m := cstr_append_of_mem hmem
    have hshort := cstr_length_lt hmem
    have hroom : (cstr (overwritten m area)).length + 1 ≤ s.buffer.length := by
      rw [htext]
      omega
    have hrun : queueReceive os s.ipc s.daemon s.buffer s.buffer.length fails errno = _ :=
      queueReceive_eq errno hw.daemon.qid harea hrcv hle hlost (List.mem_append_left _ hmem) hroom
    have hread : cstr (copied (cstr m) s.buffer) = cstr m := cstr_append_nul (cstr_nul_free m)
    refine ⟨{ s with
      ipc := s.ipc.setMsgs i msgs
      daemon := { s.daemon with buffer := some (overwritten m area) }
      buffer := copied (cstr m) s.buffer
      receipts := s.receipts ++ [⟨m, toInt m.length, cstr m⟩] },
      ?_, ⟨hqueue, hw.senders, hdaemon, ?_⟩, ?_, rfl, Or.inr ⟨hlost, rfl⟩⟩
    · simp [step, hrun, hlost, htext, hread, hpending]
    · rw [copied_length (by omega)]
      exact hw.buffer
    · simp [Mail.pending, hw.daemon.qid, Ipc.objects_setMsgs hq, hq, hmsgs]

end

/-! ## Isolation -/

/-- The run did not fault, and every string handed out is its own payload up to the first NUL or the
end. -/
def Isolated (run : Except Fault Mail) : Prop :=
  ∃ s, run = .ok s ∧ ∀ r ∈ s.receipts, r.text = cstr r.payload

/-- A payload that the daemon's area can take and that ends inside itself; a count that is `-1` as
an `int` is the exception, because the message is then dropped as a failure. -/
def Terminated (h : Host) (b : Nat) (payload : Bytes) : Prop :=
  payload.length ≤ areaSize h b ∧ ((0 : Byte) ∈ payload ∨ toInt payload.length = -1)

/-- The messages that are safe on a queue of capacity `b`: from a C sender, a string shorter than the
payload of `b / 8` bytes; from a PHP client, a text with a NUL of its own, or one too long for the
kernel to take. -/
def Harmless (h : Host) (b : Nat) : Client → Prop
  | .c msg =>
      msg.val.length + 1 ≤ areaSize h b ∧ b / 8 ≤ areaSize h b ∧
        (msg.val.length < b / 8 ∨ toInt (b / 8 : Nat) = -1)
  | .php addr => b < addr.length ∨ Terminated h b addr

/-- What a run of harmless messages maintains. -/
structure Inv (h : Host) (b i : Nat) (s : Mail) : Prop extends Wired h b i s where
  terminated : ∀ m ∈ s.pending, Terminated h b m
  isolated : ∀ r ∈ s.receipts, r.text = cstr r.payload

section

variable {h : Host} (os : Os) {b i : Nat} {s : Mail}

lemma Inv.of_send (hinv : Inv h b i s) {s' : Mail} {c : Client} {payload : Bytes}
    {fails : Option Nat} (heffect : SendEffect h b i s s' c payload fails)
    (hpayload : payload.length ≤ b → Terminated h b payload) :
    Inv h b i s' := by
  rcases heffect with ⟨hw, -, hreceipts, hrest⟩
  refine ⟨hw, ?_, ?_⟩
  · rcases hrest with ⟨-, hpending, -⟩ | ⟨-, hpending, hle⟩
    · rw [hpending]
      exact hinv.terminated
    · rw [hpending]
      exact List.forall_mem_append.2
        ⟨hinv.terminated, List.forall_mem_singleton.2 (hpayload hle)⟩
  · rw [hreceipts]
    exact hinv.isolated

/-- The payload of a harmless C message. -/
lemma terminated_copied {msg : CText} {area : Bytes} (hsize : b / 8 ≤ areaSize h b)
    (hfits : msg.val.length < b / 8 ∨ toInt (b / 8 : Nat) = -1)
    (hlen : (copied msg.val area).length = areaSize h b) :
    Terminated h b ((copied msg.val area).take (b / 8)) := by
  have htake : ((copied msg.val area).take (b / 8)).length = b / 8 := by
    simp [hlen, hsize]
  refine ⟨by omega, ?_⟩
  rw [htake]
  refine hfits.imp_left ?_
  intro hshort
  -- the NUL of `strcpy` is at offset `strlen(msg)`
  refine List.mem_iff_getElem?.2 ⟨msg.val.length, ?_⟩
  simp [hshort, copied]

lemma step_inv (a : Action) (hinv : Inv h b i s)
    (hharmless : ∀ c, a.client = some c → Harmless h b c) :
    ∃ s', step os s a = .ok s' ∧ Inv h b i s' := by
  cases a with
  | send j msg fails =>
    rcases hharmless _ rfl with ⟨hmsg, hsize, hfits⟩
    rcases step_send os hinv.toWired j fails hmsg hsize with
      ⟨area, s', harea, hstep, heffect⟩
    refine ⟨s', hstep, hinv.of_send heffect ?_⟩
    intro _
    have hlen := (hinv.senders j).area_length harea
    exact terminated_copied hsize hfits (by rw [copied_length (by omega), hlen])
  | php addr fails =>
    rcases step_php os hinv.toWired addr fails with ⟨s', hstep, heffect⟩
    refine ⟨s', hstep, hinv.of_send heffect ?_⟩
    intro hle
    rcases hharmless _ rfl with hlong | hterm
    -- a payload that is longer than the queue was not accepted
    · omega
    · exact hterm
  | receive fails errno =>
    cases hrcv : s.ipc.msgrcv i s.buffer.length fails with
    | error e => exact ⟨s, step_refused os hinv.toWired errno hrcv, hinv⟩
    | ok r =>
      rcases r with ⟨m, k'⟩
      rcases hinv.queue with ⟨q, hq, -⟩
      rcases Ipc.msgrcv_ok hrcv with ⟨q', msgs, hq', hmsgs, -, -⟩
      cases hq.symm.trans hq'
      have hm : Terminated h b m := by
        apply hinv.terminated
        simp [hinv.toWired.pending_eq hq, hmsgs]
      rcases step_taken os hinv.toWired errno hrcv hm.1 hm.2 with
        ⟨s', hstep, hw, hpending, -, hreceipts⟩
      refine ⟨s', hstep, hw, ?_, ?_⟩
      · intro m' hm'
        apply hinv.terminated
        simp [hpending, hm']
      · rcases hreceipts with ⟨-, hsame⟩ | ⟨-, hnew⟩
        · rw [hsame]
          exact hinv.isolated
        · rw [hnew]
          exact List.forall_mem_append.2 ⟨hinv.isolated, List.forall_mem_singleton.2 rfl⟩

/-- A payload that is not terminated, received into an area without a NUL, is read past the area. -/
lemma step_unterminated (hw : Wired h b i s) {m area : Bytes} {rest : List Bytes}
    (hpending : s.pending = m :: rest) (hle : m.length ≤ b) (harea : s.daemon.buffer = some area)
    (hnul : (0 : Byte) ∉ area) (hbad : ¬ Terminated h b m) (errno : Nat) :
    step os s (.receive none errno) = .error .outOfBounds := by
  have hrcv := hw.msgrcv_front hpending hle
  have hlen := hw.daemon.area_length harea
  have hfault : queueReceive os s.ipc s.daemon s.buffer s.buffer.length none errno =
      .error .outOfBounds := by
    by_cases hfits : m.length ≤ area.length
    · have hm : (0 : Byte) ∉ m ∧ toInt m.length ≠ -1 := by
        constructor
        · intro hmem
          exact hbad ⟨by omega, Or.inl hmem⟩
        · intro hlost
          exact hbad ⟨by omega, Or.inr hlost⟩
      -- neither the payload nor what is left of the area behind it ends the string
      refine queueReceive_unterminated errno hw.daemon.qid harea hrcv hfits hm.2 ?_
      intro hmem
      rcases List.mem_append.1 hmem with hin | hin
      · exact hm.1 hin
      · exact hnul (List.mem_of_mem_drop hin)
    · exact queueReceive_overflow errno hw.daemon.qid harea hrcv (by omega)
  simp [step, hfault]

end

/-! ## Runs -/

/-- A handle whose block holds no NUL. -/
def dirtyHandle (h : Host) (b : Nat) : SystemvQueue :=
  ⟨some 0, some (block (fun _ => 255) (areaSize h b)), none, b / 8⟩

lemma dirtyHandle_attached (h : Host) (b : Nat) : Attached h 0 b (dirtyHandle h b) :=
  ⟨rfl, rfl, _, rfl, by simp⟩

/-- A system whose handles hold no NUL, before the first message. -/
def dirtyMail (h : Host) (b : Nat) : Mail where
  ipc := Registry.empty.create ⟨0, b, [], 0⟩
  senders := fun _ => dirtyHandle h b
  daemon := dirtyHandle h b
  buffer := block (fun _ => 0) (b + 1)
  sent := []
  receipts := []

lemma dirtyMail_ready (h : Host) (b : Nat) : Ready h b 0 (dirtyMail h b) := by
  refine ⟨⟨⟨⟨0, b, [], 0⟩, rfl, rfl⟩, fun _ => dirtyHandle_attached h b,
    dirtyHandle_attached h b, ?_⟩, rfl, rfl, rfl⟩
  simp [dirtyMail]

/-- An accepted message that is not terminated breaks a run from the dirty system. -/
lemma dirty_faults {h : Host} (os : Os) {b : Nat} {s : Mail} {a : Action} {c : Client}
    {payload : Bytes} (hstep : step os (dirtyMail h b) a = .ok s)
    (heffect : SendEffect h b 0 (dirtyMail h b) s c payload none) (hle : payload.length ≤ b)
    (hbad : ¬ Terminated h b payload) :
    exec (step os) (dirtyMail h b) [a, .receive none 0] = .error .outOfBounds := by
  rcases heffect with ⟨hw, hdaemon, -, ⟨-, -, hreason⟩ | ⟨-, hpending, -⟩⟩
  · exact absurd rfl (hreason rfl hle)
  · have hnul : (0 : Byte) ∉ block (fun _ => 255) (areaSize h b) := by
      simp [block]
    have hfault := step_unterminated os hw hpending hle (by rw [hdaemon]; rfl) hnul hbad 0
    simp [exec, hstep, hfault]

/-- A run of a C message that is not harmless. -/
lemma dirty_send_faults {h : Host} (os : Os) {b : Nat} {msg : CText}
    (hbad : ¬ Harmless h b (.c msg)) :
    exec (step os) (dirtyMail h b) [.send 0 msg none, .receive none 0] = .error .outOfBounds := by
  have hw := (dirtyMail_ready h b).toWired
  by_cases hlong : areaSize h b < msg.val.length + 1 ∨ areaSize h b < b / 8
  · simp [exec, step_send_overflow os hw 0 none hlong]
  · have hmsg : msg.val.length + 1 ≤ areaSize h b := by omega
    have hsize : b / 8 ≤ areaSize h b := by omega
    rcases step_send os hw 0 none hmsg hsize with ⟨area, s, harea, hstep, heffect⟩
    have hlen := (hw.senders 0).area_length harea
    have htake : ((copied msg.val area).take (b / 8)).length = b / 8 := by
      simp [copied_length (show msg.val.length + 1 ≤ area.length by omega), hlen, hsize]
    refine dirty_faults os hstep heffect (by rw [htake]; exact Nat.div_le_self b 8) ?_
    rintro ⟨-, hmem | hlost⟩
    · -- the payload is a piece of the string, which has no NUL
      have hshort : ¬ msg.val.length < b / 8 := fun hlt => hbad ⟨hmsg, hsize, Or.inl hlt⟩
      have hpiece : (copied msg.val area).take (b / 8) = msg.val.take (b / 8) := by
        rw [copied, List.take_append_of_le_length (by omega)]
      rw [hpiece] at hmem
      exact msg.property (List.mem_of_mem_take hmem)
    · rw [htake] at hlost
      exact hbad ⟨hmsg, hsize, Or.inr hlost⟩

/-- A run of a PHP message that is not harmless. -/
lemma dirty_php_faults {h : Host} (os : Os) {b : Nat} {addr : Bytes}
    (hbad : ¬ Harmless h b (.php addr)) :
    exec (step os) (dirtyMail h b) [.php addr none, .receive none 0] = .error .outOfBounds := by
  rcases step_php os (dirtyMail_ready h b).toWired addr none with ⟨s, hstep, heffect⟩
  have hle : addr.length ≤ b := Nat.le_of_not_lt fun hlt => hbad (Or.inl hlt)
  exact dirty_faults os hstep heffect hle fun hterm => hbad (Or.inr hterm)

/-- Clients may put the messages `M` into the queue, in any order and any number, over any initial
contents of the buffers: the receives are isolated if and only if every message of `M` is harmless. -/
theorem runs_isolated_iff (h : Host) (os : Os) (b : Nat) (M : Client → Prop) :
    (∀ i s as, Ready h b i s → (∀ a ∈ as, ∀ c, Action.client a = some c → M c) →
        Isolated (exec (step os) s as)) ↔
      ∀ c, M c → Harmless h b c := by
  constructor
  · intro hall c hc
    by_contra hbad
    have hrun : ∃ a, a.client = some c ∧
        exec (step os) (dirtyMail h b) [a, .receive none 0] = .error .outOfBounds := by
      cases c with
      | c msg => exact ⟨.send 0 msg none, rfl, dirty_send_faults os hbad⟩
      | php addr => exact ⟨.php addr none, rfl, dirty_php_faults os hbad⟩
    rcases hrun with ⟨a, hclient, hfault⟩
    have hiso := hall 0 (dirtyMail h b) [a, .receive none 0] (dirtyMail_ready h b) (by
      intro a' ha' c' hc'
      simp only [List.mem_cons, List.not_mem_nil, or_false] at ha'
      rcases ha' with rfl | rfl
      · cases hclient.symm.trans hc'
        exact hc
      · cases hc')
    rcases hiso with ⟨t, ht, -⟩
    cases hfault.symm.trans ht
  · intro hharmless i s as hready hM
    have hinv : Inv h b i s := by
      refine ⟨hready.toWired, ?_, ?_⟩
      · simp [hready.pending]
      · simp [hready.receipts]
    have halong : Along (step os) (fun _ a => ∀ c, a.client = some c → Harmless h b c) s as :=
      along_of_forall fun a ha c hc => hharmless c (hM a ha c hc)
    rcases exec_total (fun _ a hinv hP => step_inv os a hinv hP) hinv halong with ⟨t, ht, hinvt⟩
    exact ⟨t, ht, hinvt.isolated⟩

/-- A system of capacity 72 on a 64-bit host, with cleared buffers. -/
def clearMail : Mail where
  ipc := Registry.empty.create ⟨0, 72, [], 0⟩
  senders := fun _ => ⟨some 0, some (block (fun _ => 0) 72), none, 9⟩
  daemon := ⟨some 0, some (block (fun _ => 0) 72), none, 9⟩
  buffer := block (fun _ => 0) 73
  sent := []
  receipts := []

lemma clearMail_ready : Ready Host.lp64 72 0 clearMail := by
  have hattached : Attached Host.lp64 0 72 ⟨some 0, some (block (fun _ => 0) 72), none, 9⟩ :=
    ⟨rfl, rfl, _, rfl, by simp [areaSize, allocSize, Host.lp64, Host.longBytes]⟩
  refine ⟨⟨⟨⟨0, 72, [], 0⟩, rfl, rfl⟩, fun _ => hattached, hattached, ?_⟩, rfl, rfl, rfl⟩
  simp [clearMail]

/-- A C sender bans `1.1.1.12`; the PHP client's `1.1.1.1` is then received as `1.1.1.12`
too. -/
theorem php_receives_residue :
    Ready Host.lp64 72 0 clearMail ∧
      ∃ s, exec (step Os.linux) clearMail
          [.send 0 ⟨str "1.1.1.12", by decide⟩ none, .receive none 0,
            .php (str "1.1.1.1") none, .receive none 0] = .ok s ∧
        s.receipts.map Receipt.text = [str "1.1.1.12", str "1.1.1.12"] ∧
        ¬ Isolated (.ok s) := by
  refine ⟨clearMail_ready, _, rfl, by decide, ?_⟩
  rintro ⟨t, ⟨rfl⟩, hiso⟩
  have := hiso ⟨str "1.1.1.1", 7, str "1.1.1.12"⟩ (by decide)
  revert this
  decide

end SystemV
end Banip
