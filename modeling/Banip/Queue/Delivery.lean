import Banip.Queue.Posix
import Banip.Lib.Fifo
import Banip.Lib.Runs

/-!
# Delivery — a POSIX queue between a daemon and its senders

The daemon makes the calls of `main`: `queue_init`, `queue_set_attribute` for its options, an
owner's `queue_open`, `queue_get_attribute`, the allocation of one byte more than the size of a
message, and then `queue_receive` again and again.  Any number of senders initialise, open, use and
close handles on the same name, in any interleaving with the daemon and with each other, and every
system call may fail.

The system refines the abstract queue of `Lib.Fifo`: the events are the sends that returned true and
the texts the daemon received, and they are a history of a first-in first-out queue whose contents
are those of the kernel's queue.
-/

namespace Banip
namespace Delivery

open Lib Posix

/-! ## The system -/

/-- How far the daemon has come. -/
inductive Daemon where
  | initial
  | configuring (q : PosixQueue)
  | opened (q : PosixQueue)
  | receiving (q : PosixQueue) (buffer : Bytes)
  | stopped

/-- A successful receive: the returned count and the buffer after the call. -/
structure Receipt where
  read : Int
  buffer : Bytes
deriving DecidableEq, Repr

/-- The bytes a caller takes from its buffer. -/
def Receipt.text (r : Receipt) : Bytes := r.buffer.take r.read.toNat

/-- The kernel, the daemon and the senders, and what happened so far. -/
structure Office where
  kernel : MqKernel
  daemon : Daemon
  senders : Nat → Option PosixQueue
  events : List (Event Bytes)
  receipts : List Receipt

/-- A call of the daemon or of a sender, and what the environment decides in it. -/
inductive Action where
  | daemonInit (malloc : Bool)
  | setAttribute (attr : QueueAttr) (value : Nat)
  | daemonOpen (uid umask : Nat) (out : OpenOutcome)
  | allocate (calloc : Bool)
  | receive (fails : Option Nat) (errno : Nat)
  | senderInit (j : Nat) (malloc : Bool)
  | senderOpen (j uid umask : Nat) (out : OpenOutcome)
  | send (j : Nat) (msg : CText) (fails : Option Nat)
  | senderClose (j uid : Nat) (closeFails unlinkFails : Option Nat)

namespace Office

def start (k : MqKernel) : Office := ⟨k, .initial, fun _ => none, [], []⟩

/-- Replace the handle of the sender `j`. -/
def setSender (s : Office) (j : Nat) (p : Option PosixQueue) : Office :=
  { s with senders := Function.update s.senders j p }

end Office

variable (h : Host) (os : Os) (name : Bytes)

/-- One call.  A call that is out of the order of `main`, or on a handle that does not exist, is not
made. -/
def step (s : Office) : Action → Except Fault Office
  | .daemonInit malloc =>
      match s.daemon, queueInit os malloc with
      | .initial, .ok q => .ok { s with daemon := .configuring q }
      | .initial, .error _ => .ok { s with daemon := .stopped }
      | _, _ => .ok s
  | .setAttribute attr value =>
      match s.daemon with
      | .configuring q => .ok { s with daemon := .configuring (queueSetAttribute q attr value).2 }
      | _ => .ok s
  | .daemonOpen uid umask out =>
      match s.daemon with
      | .configuring q =>
          let r := queueOpen os out uid 0 s.kernel umask q name ⟨false, true⟩
          .ok { s with kernel := r.kernel, daemon := if r.ok then .opened r.queue else .stopped }
      | _ => .ok s
  | .allocate calloc =>
      match s.daemon with
      | .opened q =>
        match queueGetAttribute q .maxMessageSize with
        | .error _ => .ok { s with daemon := .stopped }
        | .ok size =>
            -- `calloc(++max_message_size, sizeof(*buffer))`
            let size := (size + 1) % 2 ^ h.longBits
            .ok { s with
              daemon := if calloc then .receiving q (List.replicate size 0) else .stopped }
      | _ => .ok s
  | .receive fails errno =>
      match s.daemon with
      | .receiving q buffer =>
        match queueReceive os s.kernel q buffer buffer.length fails errno with
        | .error f => .error f
        | .ok r =>
            let s' := { s with kernel := r.kernel, daemon := .receiving r.queue r.buffer }
            if r.read = -1 then .ok s'
            else
              let receipt : Receipt := ⟨r.read, r.buffer⟩
              .ok { s' with
                events := s.events ++ [.receive receipt.text]
                receipts := s.receipts ++ [receipt] }
      | _ => .ok s
  | .senderInit j malloc =>
      match queueInit os malloc with
      | .ok q => .ok (s.setSender j (some q))
      | .error _ => .ok s
  | .senderOpen j uid umask out =>
      match s.senders j with
      | none => .ok s
      | some q =>
          let r := queueOpen os out uid 0 s.kernel umask q name ⟨true, false⟩
          .ok { s.setSender j (some r.queue) with kernel := r.kernel }
  | .send j msg fails =>
      match s.senders j with
      | none => .ok s
      | some q =>
        match queueSend h os s.kernel q msg.val (-1) fails with
        | .error f => .error f
        | .ok r =>
            let s' := { s.setSender j (some r.queue) with kernel := r.kernel }
            .ok (if r.ok then { s' with events := s.events ++ [.send msg.val] } else s')
  | .senderClose j uid closeFails unlinkFails =>
      let r := queueClose os uid closeFails unlinkFails s.kernel (s.senders j)
      .ok { s.setSender j r.queue with kernel := r.kernel }

/-! ## Exact delivery -/

/-- Every receipt is the message of the same rank among the accepted ones, with its length and its
terminator, and the accepted messages that are not yet received are the contents of the queue. -/
structure Exact (s : Office) : Prop where
  receipt : ∀ (n : Nat) (r : Receipt), s.receipts[n]? = some r →
    ∃ msg, (accepted s.events)[n]? = some msg ∧ r.read = msg.length ∧
      r.buffer.take (msg.length + 1) = msg ++ [0] ∧ msg.length < r.buffer.length
  pending : ∀ q, (s.daemon = .opened q ∨ ∃ buffer, s.daemon = .receiving q buffer) →
    ∃ d kq, q.mq = some d ∧ s.kernel.objects d.qid = some kq ∧
      accepted s.events = s.receipts.map Receipt.text ++ kq.msgs

/-- A receipt holds its text and a terminator. -/
def Receipt.Sound (r : Receipt) : Prop :=
  r.read = r.text.length ∧ r.buffer.take (r.text.length + 1) = r.text ++ [0]

/-- A sender's handle owns nothing, and its descriptor is that of the named queue. -/
def SenderOk (k : MqKernel) (q : PosixQueue) : Prop :=
  q.filename = none ∧ ∀ d, q.mq = some d → k.names name = some d.qid

section

variable (k : MqKernel) (es : List (Event Bytes)) (rs : List Receipt)

/-- The daemon's handle `q` is open on the queue `kq`, number `i`, and the events so far are a history
of it. -/
structure Linked (q : PosixQueue) (i : Nat) (kq : Mq) : Prop where
  mq : q.mq = some ⟨i, false⟩
  attr : q.attr = kq.attr
  object : k.objects i = some kq
  named : k.names name = some i
  size : kq.attr.msgsize = 1024
  fits : ∀ m ∈ kq.msgs, m.length ≤ 1024
  history : Fifo [] es kq.msgs
  texts : delivered es = rs.map Receipt.text
  sound : ∀ r ∈ rs, r.Sound

/-- Without an open handle the daemon has received nothing, and nothing was sent to a name that does
not exist. -/
def Idle : Prop := rs = [] ∧ (k.names name = none → es = [])

/-- What the daemon knows in each of its phases. -/
def DaemonOk : Daemon → Prop
  | .initial | .stopped => Idle name k es rs
  | .configuring q => Idle name k es rs ∧ q = ⟨none, none, defaultAttr⟩
  | .opened q => rs = [] ∧ ∃ i kq, Linked name k es rs q i kq
  | .receiving q buffer => ∃ i kq, Linked name k es rs q i kq ∧ buffer.length = 1025

end

/-- The invariant of the system. -/
structure Inv (s : Office) : Prop where
  senders : ∀ j q, s.senders j = some q → SenderOk name s.kernel q
  daemon : DaemonOk name s.kernel s.events s.receipts s.daemon

/-! ## The senders -/

variable {name} {s : Office}

/-- A sender's call that leaves the kernel alone. -/
lemma Inv.setSender (hinv : Inv name s) {j : Nat} {p : Option PosixQueue}
    (hp : ∀ q, p = some q → SenderOk name s.kernel q) : Inv name (s.setSender j p) := by
  refine ⟨?_, hinv.daemon⟩
  intro j' q hq
  by_cases hj : j' = j
  · subst hj
    exact hp q (by simpa [Office.setSender] using hq)
  · exact hinv.senders j' q (by simpa [Office.setSender, Function.update_of_ne hj] using hq)

lemma senderOpen_inv (hinv : Inv name s) {j : Nat} {q : PosixQueue} (hq : s.senders j = some q)
    (uid umask : Nat) (out : OpenOutcome) :
    Inv name { s.setSender j
        (some (queueOpen os out uid 0 s.kernel umask q name ⟨true, false⟩).queue) with
      kernel := (queueOpen os out uid 0 s.kernel umask q name ⟨true, false⟩).kernel } := by
  rw [(queueOpen_sender out name rfl).1]
  refine hinv.setSender ?_
  rintro q' ⟨rfl⟩
  refine ⟨?_, (queueOpen_sender out name rfl).2.2⟩
  rw [(queueOpen_sender out name rfl).2.1]
  exact (hinv.senders j q hq).1

lemma senderClose_inv (hinv : Inv name s) (j uid : Nat) (closeFails unlinkFails : Option Nat) :
    Inv name { s.setSender j
        (queueClose os uid closeFails unlinkFails s.kernel (s.senders j)).queue with
      kernel := (queueClose os uid closeFails unlinkFails s.kernel (s.senders j)).kernel } := by
  cases hq : s.senders j with
  | none => exact hinv.setSender (fun q hq => nomatch hq)
  | some q =>
    have hok := hinv.senders j q hq
    have heffect : CloseEffect s.kernel uid unlinkFails q
        (queueClose os uid closeFails unlinkFails s.kernel (some q)) := queueClose_effect _ _
    rcases heffect with ⟨hkernel, -, hp⟩ | ⟨n, hn, -⟩
    · rw [hkernel]
      refine hinv.setSender ?_
      intro q' hq'
      rcases hp with hp | ⟨mq, hmq, hp⟩
      · cases hp.symm.trans hq'
      · cases hp.symm.trans hq'
        refine ⟨hok.1, ?_⟩
        intro d hd
        rcases hmq with rfl | rfl
        · cases hd
        · exact hok.2 d hd
    · -- a sender remembers no name
      cases hok.1.symm.trans hn

/-- A message that reaches the named queue. -/
lemma DaemonOk.sent {k : MqKernel} {es : List (Event Bytes)} {rs : List Receipt} {daemon : Daemon}
    {i : Nat} {kq : Mq} {msg : Bytes} (hd : DaemonOk name k es rs daemon)
    (hname : k.names name = some i) (hkq : k.objects i = some kq)
    (hmsg : msg.length ≤ kq.attr.msgsize) :
    DaemonOk name (k.setMsgs i (kq.msgs ++ [msg])) (es ++ [.send msg]) rs daemon := by
  -- an idle daemon does not look at the events of a name that exists
  have hidle : Idle name k es rs →
      Idle name (k.setMsgs i (kq.msgs ++ [msg])) (es ++ [.send msg]) rs := by
    rintro ⟨hrs, -⟩
    refine ⟨hrs, ?_⟩
    intro hnone
    cases hname.symm.trans hnone
  have hlinked : ∀ q i' kq', Linked name k es rs q i' kq' →
      Linked name (k.setMsgs i (kq.msgs ++ [msg])) (es ++ [.send msg]) rs q i'
        { kq' with msgs := kq'.msgs ++ [msg] } := by
    intro q i' kq' hl
    cases hname.symm.trans hl.named
    cases hkq.symm.trans hl.object
    refine ⟨hl.mq, hl.attr, MqKernel.objects_setMsgs hkq, hl.named, hl.size, ?_,
      hl.history.snoc_send msg, ?_, hl.sound⟩
    · rw [hl.size] at hmsg
      exact List.forall_mem_append.2 ⟨hl.fits, List.forall_mem_singleton.2 hmsg⟩
    · simpa [delivered, List.filterMap_append] using hl.texts
  cases daemon with
  | initial | stopped => exact hidle hd
  | configuring q => exact ⟨hidle hd.1, hd.2⟩
  | opened q =>
    rcases hd with ⟨hrs, i', kq', hl⟩
    exact ⟨hrs, i', _, hlinked q i' kq' hl⟩
  | receiving q buffer =>
    rcases hd with ⟨i', kq', hl, hlen⟩
    exact ⟨i', _, hlinked q i' kq' hl, hlen⟩

lemma send_inv (hinv : Inv name s) {j : Nat} {msg : CText} (fails : Option Nat)
    (hmsg : msg.val.length < 2 ^ 31) :
    ∃ s', step h os name s (.send j msg fails) = .ok s' ∧ Inv name s' := by
  cases hq : s.senders j with
  | none => exact ⟨s, by simp [step, hq], hinv⟩
  | some q =>
    have hok := hinv.senders j q hq
    have hsend : ∃ r, queueSend h os s.kernel q msg.val (-1) fails = .ok r ∧ _ :=
      queueSend_string h q hmsg fails
    rcases hsend with ⟨r, hr, hrq, ⟨hno, hkernel⟩ | ⟨hyes, d, kq, hd, hkq, hsize, hkernel⟩⟩
    · -- a refused message leaves no event and no trace in the kernel
      refine ⟨s.setSender j (some q), by simp [step, hq, hr, hno, hrq, hkernel, Office.setSender],
        hinv.setSender ?_⟩
      rintro q' ⟨rfl⟩
      exact hok
    · refine ⟨{ s.setSender j (some q) with
        kernel := s.kernel.setMsgs d.qid (kq.msgs ++ [msg.val])
        events := s.events ++ [.send msg.val] },
        by simp [step, hq, hr, hyes, hrq, hkernel, Office.setSender], ?_, ?_⟩
      · exact (hinv.setSender (p := some q) (by rintro q' ⟨rfl⟩; exact hok)).senders
      · exact hinv.daemon.sent (hok.2 d hd) hkq hsize

/-! ## The daemon -/

/-- The owner's open: the name is created with the default attributes, or the daemon stops. -/
lemma daemonOpen_inv (hinv : Inv name s) {q : PosixQueue} (hq : s.daemon = .configuring q)
    (uid umask : Nat) (out : OpenOutcome) :
    let r := queueOpen os out uid 0 s.kernel umask q name ⟨false, true⟩
    Inv name { s with kernel := r.kernel, daemon := if r.ok then .opened r.queue else .stopped } := by
  have hd := hinv.daemon
  rw [hq] at hd
  rcases hd with ⟨hidle, rfl⟩
  intro r
  have hcases : (s.kernel.names name = none ∧ r = _) ∨ (r.ok = false ∧ r.kernel = s.kernel) :=
    queueOpen_owner_cases out name rfl
  rcases hcases with ⟨hfree, hr⟩ | ⟨hok, hkernel⟩
  · rw [hr]
    refine ⟨?_, hidle.1, s.kernel.next, ⟨name, defaultAttr, [], uid, 0⟩, rfl, rfl, ?_, ?_, rfl, ?_,
      ?_, ?_, ?_⟩
    · -- no sender can have opened a name that did not exist
      intro j q hj
      rcases hinv.senders j q hj with ⟨hfile, hmq⟩
      refine ⟨hfile, ?_⟩
      intro d hd
      cases hfree.symm.trans (hmq d hd)
    · exact Registry.create_objects_self s.kernel _
    · exact Registry.create_names_self s.kernel _
    · simp
    · -- nothing was sent before the name existed
      rw [show s.events = [] from hidle.2 hfree]
      exact Fifo.nil []
    · rw [show s.events = [] from hidle.2 hfree, hidle.1]
      rfl
    · simp [hidle.1]
  · rw [hok, hkernel]
    exact ⟨hinv.senders, hidle⟩

lemma allocate_inv (hinv : Inv name s) (calloc : Bool) :
    ∃ s', step h os name s (.allocate calloc) = .ok s' ∧ Inv name s' := by
  cases hd : s.daemon with
  | opened q =>
    have hok := hinv.daemon
    rw [hd] at hok
    rcases hok with ⟨hrs, i, kq, hl⟩
    have hsize : q.attr.msgsize = 1024 := by rw [hl.attr, hl.size]
    -- the options have had no effect, and the increment does not wrap
    have hlong : (1024 + 1) % 2 ^ h.longBits = 1025 := by
      rcases h.longBits_ok with hb | hb
      · simp [hb]
      · simp [hb]
    cases calloc with
    | true =>
      refine ⟨{ s with daemon := .receiving q (List.replicate 1025 0) }, ?_, hinv.senders,
        i, kq, hl, List.length_replicate⟩
      simp only [step, hd, queueGetAttribute, hsize, hlong, if_true]
    | false =>
      refine ⟨{ s with daemon := .stopped }, ?_, hinv.senders, hrs, ?_⟩
      · simp [step, hd, queueGetAttribute]
      · intro hnone
        cases hl.named.symm.trans hnone
  | initial | configuring _ | receiving _ _ | stopped => exact ⟨s, by simp [step, hd], hinv⟩

lemma Receipt.text_eq {r : Receipt} {m : Bytes} (hread : r.read = m.length)
    (hbuffer : r.buffer.take (m.length + 1) = m ++ [0]) : r.text = m := by
  have hcut := congrArg (List.take m.length) hbuffer
  simpa [Receipt.text, hread, List.take_take] using hcut

/-- A receive of the front message. -/
lemma Linked.received {k : MqKernel} {es : List (Event Bytes)} {rs : List Receipt} {q : PosixQueue}
    {i : Nat} {kq : Mq} {m : Bytes} {rest : List Bytes} {r : Receipt}
    (hl : Linked name k es rs q i kq) (hfront : kq.msgs = m :: rest) (hread : r.read = m.length)
    (hbuffer : r.buffer.take (m.length + 1) = m ++ [0]) :
    Linked name (k.setMsgs i rest) (es ++ [.receive r.text]) (rs ++ [r]) q i
      { kq with msgs := rest } := by
  have htext : r.text = m := Receipt.text_eq hread hbuffer
  have hfits : ∀ m' ∈ rest, m'.length ≤ 1024 := by
    intro m' hm'
    exact hl.fits m' (by simp [hfront, hm'])
  refine ⟨hl.mq, hl.attr, MqKernel.objects_setMsgs hl.object, hl.named, hl.size, hfits, ?_, ?_, ?_⟩
  · have hhistory := hl.history
    rw [hfront] at hhistory
    rw [htext]
    exact hhistory.snoc_receive
  · simpa [delivered, List.filterMap_append] using hl.texts
  · exact List.forall_mem_append.2 ⟨hl.sound,
      List.forall_mem_singleton.2 ⟨by rw [htext, hread], by rw [htext, hbuffer]⟩⟩

lemma receive_inv (hinv : Inv name s) (fails : Option Nat) (errno : Nat) :
    ∃ s', step h os name s (.receive fails errno) = .ok s' ∧ Inv name s' := by
  cases hd : s.daemon with
  | receiving q buffer =>
    have hok := hinv.daemon
    rw [hd] at hok
    rcases hok with ⟨i, kq, hl, hlen⟩
    -- the buffer has a byte more than the longest message, for the terminator
    have hroom : ∀ m ∈ kq.msgs, m.length < buffer.length := by
      intro m hm
      have := hl.fits m hm
      omega
    have hrecv : ∃ r, queueReceive os s.kernel q buffer buffer.length fails errno = .ok r ∧ _ :=
      queueReceive_string fails errno hl.mq hl.object hroom (by omega)
    rcases hrecv with
      ⟨r, hr, hrq, ⟨hno, hkernel, hbuf⟩ | ⟨m, rest, hfront, hread, hkernel, hblen, hbuf⟩⟩
    · -- a failed receive changes nothing
      refine ⟨s, ?_, hinv⟩
      simp [step, hd, hr, hno, hkernel, hbuf, hrq]
      rw [← hd]
    · -- a length is never the `-1` of a failure
      have hnot : ¬ r.read = -1 := by omega
      refine ⟨{ s with
        kernel := s.kernel.setMsgs i rest
        daemon := .receiving q r.buffer
        events := s.events ++ [.receive (⟨r.read, r.buffer⟩ : Receipt).text]
        receipts := s.receipts ++ [⟨r.read, r.buffer⟩] }, ?_, ?_, ?_⟩
      · simp only [step, hd, hr, hnot, hkernel, hrq, if_false]
      · exact hinv.senders
      · exact ⟨i, _, hl.received hfront hread hbuf, by omega⟩
  | initial | configuring _ | opened _ | stopped => exact ⟨s, by simp [step, hd], hinv⟩

/-! ## Runs -/

/-- The messages are shorter than `2 ^ 31` bytes. -/
def Action.Short : Action → Prop
  | .send _ msg _ => msg.val.length < 2 ^ 31
  | _ => True

/-- One call cannot fault and keeps the invariant. -/
lemma step_inv (a : Action) (hinv : Inv name s) (ha : a.Short) :
    ∃ s', step h os name s a = .ok s' ∧ Inv name s' := by
  cases a with
  | daemonInit malloc =>
    cases hd : s.daemon with
    | initial =>
      have hidle : Idle name s.kernel s.events s.receipts := by simpa [DaemonOk, hd] using hinv.daemon
      cases malloc with
      | true =>
        exact ⟨{ s with daemon := .configuring ⟨none, none, defaultAttr⟩ },
          by simp [step, hd, queueInit], hinv.senders, hidle, rfl⟩
      | false =>
        exact ⟨{ s with daemon := .stopped }, by simp [step, hd, queueInit], hinv.senders, hidle⟩
    | configuring _ | opened _ | receiving _ _ | stopped => exact ⟨s, by simp [step, hd], hinv⟩
  | setAttribute attr value =>
    cases hd : s.daemon with
    | configuring q =>
      have hok : Idle name s.kernel s.events s.receipts ∧ q = ⟨none, none, defaultAttr⟩ := by
        simpa [DaemonOk, hd] using hinv.daemon
      -- without a file name the call refuses, and the handle is unchanged
      have hsame : (queueSetAttribute q attr value).2 = q := by
        rw [hok.2]
        rfl
      refine ⟨s, ?_, hinv⟩
      simp only [step, hd, hsame]
      rw [← hd]
    | initial | opened _ | receiving _ _ | stopped => exact ⟨s, by simp [step, hd], hinv⟩
  | daemonOpen uid umask out =>
    cases hd : s.daemon with
    | configuring q =>
      have hopen := daemonOpen_inv os hinv hd uid umask out
      exact ⟨_, by simp only [step, hd], hopen⟩
    | initial | opened _ | receiving _ _ | stopped => exact ⟨s, by simp [step, hd], hinv⟩
  | allocate calloc => exact allocate_inv h os hinv calloc
  | receive fails errno => exact receive_inv h os hinv fails errno
  | senderInit j malloc =>
    cases malloc with
    | true =>
      refine ⟨_, rfl, hinv.setSender ?_⟩
      rintro q ⟨rfl⟩
      exact ⟨rfl, fun d hd => nomatch hd⟩
    | false => exact ⟨s, rfl, hinv⟩
  | senderOpen j uid umask out =>
    cases hq : s.senders j with
    | none => exact ⟨s, by simp [step, hq], hinv⟩
    | some q =>
      have hopen := senderOpen_inv os hinv hq uid umask out
      exact ⟨_, by simp only [step, hq], hopen⟩
  | send j msg fails => exact send_inv h os hinv fails ha
  | senderClose j uid closeFails unlinkFails =>
    exact ⟨_, rfl, senderClose_inv os hinv j uid closeFails unlinkFails⟩

/-- In a linked system the receipts are the first accepted messages. -/
lemma Linked.receipt {k : MqKernel} {es : List (Event Bytes)} {rs : List Receipt} {q : PosixQueue}
    {i : Nat} {kq : Mq} (hl : Linked name k es rs q i kq) {n : Nat} {r : Receipt}
    (hr : rs[n]? = some r) :
    ∃ msg, (accepted es)[n]? = some msg ∧ r.read = msg.length ∧
      r.buffer.take (msg.length + 1) = msg ++ [0] ∧ msg.length < r.buffer.length := by
  have hsound := hl.sound r (List.mem_of_getElem? hr)
  refine ⟨r.text, ?_, hsound.1, hsound.2, ?_⟩
  · apply hl.history.delivered_getElem?
    simp [hl.texts, hr]
  · have hlen := congrArg List.length hsound.2
    simp at hlen
    omega

/-- In a linked system the rest of the accepted messages is in the queue. -/
lemma Linked.pending {k : MqKernel} {es : List (Event Bytes)} {rs : List Receipt} {q : PosixQueue}
    {i : Nat} {kq : Mq} (hl : Linked name k es rs q i kq) :
    ∃ d kq, q.mq = some d ∧ k.objects d.qid = some kq ∧
      accepted es = rs.map Receipt.text ++ kq.msgs := by
  refine ⟨⟨i, false⟩, kq, hl.mq, hl.object, ?_⟩
  simpa [hl.texts] using hl.history.conservation

/-- The invariant says that delivery is exact. -/
lemma Inv.exact (hinv : Inv name s) : Exact s := by
  have hd := hinv.daemon
  cases hphase : s.daemon with
  | receiving q buffer =>
    rw [hphase] at hd
    rcases hd with ⟨i, kq, hl, -⟩
    refine ⟨fun n r hr => hl.receipt hr, ?_⟩
    rintro q' (hq' | ⟨buffer', hq'⟩)
    · cases hphase.symm.trans hq'
    · cases hphase.symm.trans hq'
      exact hl.pending
  | opened q =>
    rw [hphase] at hd
    rcases hd with ⟨-, i, kq, hl⟩
    refine ⟨fun n r hr => hl.receipt hr, ?_⟩
    rintro q' (hq' | ⟨buffer', hq'⟩)
    · cases hphase.symm.trans hq'
      exact hl.pending
    · cases hphase.symm.trans hq'
  -- without an open handle there is no receipt
  | initial | stopped =>
    rw [hphase] at hd
    exact ⟨by simp [hd.1], by simp [hphase]⟩
  | configuring q =>
    rw [hphase] at hd
    exact ⟨by simp [hd.1.1], by simp [hphase]⟩

/-- Exact delivery is what `queue.h` promises. -/
theorem Exact.results (hexact : Exact s) :
    s.receipts.map (fun r => (r.text, r.read)) =
      promised (accepted s.events) s.receipts.length := by
  refine List.ext_getElem? fun n => ?_
  rw [promised, List.getElem?_map, List.getElem?_map, List.getElem?_take]
  cases hn : s.receipts[n]? with
  | none =>
    have hnot : ¬ n < s.receipts.length := Nat.not_lt.2 (List.getElem?_eq_none_iff.1 hn)
    simp [hnot]
  | some r =>
    rcases hexact.receipt n r hn with ⟨msg, haccepted, hread, hbuffer, -⟩
    have hlt : n < s.receipts.length := (List.getElem?_eq_some_iff.1 hn).1
    simp [hlt, haccepted, hread, Receipt.text_eq hread hbuffer]

lemma inv_start (k : MqKernel) : Inv name (Office.start k) where
  senders := by simp [Office.start]
  daemon := ⟨rfl, fun _ => rfl⟩

/-- From any state of the kernel, every interleaving of the daemon's calls with those of the senders
runs without a fault and delivers exactly. -/
theorem delivery_exact (h : Host) (os : Os) (name : Bytes) (k : MqKernel) (as : List Action)
    (hshort : ∀ a ∈ as, a.Short) :
    ∃ s, exec (step h os name) (Office.start k) as = .ok s ∧ Exact s := by
  rcases exec_total (fun _ a hinv ha => step_inv h os a hinv ha) (inv_start k)
    (along_of_forall hshort) with ⟨s, hrun, hinv⟩
  exact ⟨s, hrun, hinv.exact⟩

/-- A daemon that is started with `-b 4096`, and a sender that sends two messages to it. -/
def session : List Action :=
  [.daemonInit true, .setAttribute .maxMessageSize 4096, .daemonOpen 0 18 noFailure, .allocate true,
    .senderInit 0 true, .senderOpen 0 1000 18 noFailure,
    .send 0 ⟨str "192.0.2.1", by decide⟩ none, .send 0 ⟨str "::1", by decide⟩ none,
    .receive none 0, .receive none 0]

theorem delivery_exact_session :
    (∀ a ∈ session, a.Short) ∧
      ∃ s, exec (step Host.lp64 Os.linux (str "/banip")) (Office.start Registry.empty) session =
        .ok s ∧ Exact s ∧ s.receipts.map Receipt.text = [str "192.0.2.1", str "::1"] := by
  have hshort : ∀ a ∈ session, a.Short := by
    simp only [session, List.forall_mem_cons, List.not_mem_nil, false_implies, implies_true,
      and_true]
    exact ⟨trivial, trivial, trivial, trivial, trivial, trivial,
      show (str "192.0.2.1").length < 2 ^ 31 by decide, show (str "::1").length < 2 ^ 31 by decide,
      trivial, trivial⟩
  rcases delivery_exact Host.lp64 Os.linux (str "/banip") Registry.empty session hshort with
    ⟨s, hrun, hexact⟩
  have htexts : (exec (step Host.lp64 Os.linux (str "/banip")) (Office.start Registry.empty)
      session).map (fun s => s.receipts.map Receipt.text) = .ok [str "192.0.2.1", str "::1"] := by
    decide +kernel
  rw [hrun] at htexts
  exact ⟨hshort, s, hrun, hexact, by simpa [Except.map] using htexts⟩

end Delivery
end Banip
