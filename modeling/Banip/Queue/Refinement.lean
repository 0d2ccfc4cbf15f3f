import Banip.Queue.Isolation
import Banip.Lib.Fifo

/-!
# Refinement — the System V backend and the abstract queue

`queue.h` promises the same of both backends: a message that `queue_send` accepts is received whole,
in order, with its length, and a message that cannot be sent whole is refused.  For C senders the
System V backend keeps a part of the promise: strings shorter than the payload of `msg_qbytes / 8`
bytes come out of the abstract queue of `Lib.Fifo` (`strings_delivered`).  It does not keep the
rest: the returned count is that of the payload, and longer strings are cut and accepted.
-/

namespace Banip
namespace SystemV

open Lib

/-! ## The promise -/

/-- The bytes of a client's message. -/
def Client.text : Client → Bytes
  | .c msg => msg.val
  | .php addr => addr

/-- The messages whose send returned true, in order. -/
def Mail.acceptedTexts (s : Mail) : List Bytes :=
  (s.sent.filter Prod.snd).map fun c => c.1.text

/-- The promise of `queue.h` in a state of a run: what does not fit is not accepted, the receives gave
the accepted messages with their lengths, and no message is missing. -/
structure Refines (b : Nat) (s : Mail) : Prop where
  fits : ∀ msg, (Client.c msg, true) ∈ s.sent → msg.val.length < b / 8
  results : s.receipts.map (fun r => (r.text, r.read)) = promised s.acceptedTexts s.receipts.length
  complete : s.acceptedTexts.length = s.receipts.length + s.pending.length

/-- A string shorter than the payload, on a queue whose payload fits the area and whose count is not
taken for a failure. -/
def Short (h : Host) (b : Nat) (msg : CText) : Prop :=
  msg.val.length < b / 8 ∧ b / 8 ≤ areaSize h b ∧ toInt (b / 8 : Nat) ≠ -1

/-- All clients of the action are C senders of messages in `P`. -/
def Action.FromC (P : CText → Prop) (a : Action) : Prop :=
  ∀ c, a.client = some c → ∃ msg, c = .c msg ∧ P msg

/-! ## Simulation of the abstract queue -/

/-- A payload of full size that holds a terminated string and can be received. -/
def Carries (h : Host) (b : Nat) (p : Bytes) : Prop :=
  (0 : Byte) ∈ p ∧ p.length = b / 8 ∧ b / 8 ≤ areaSize h b ∧ toInt (b / 8 : Nat) ≠ -1

/-- The payloads in the queue carry strings, and the events are a history of an abstract queue that
holds those strings; what was accepted are C messages of `P`. -/
structure Sim (h : Host) (b i : Nat) (P : CText → Prop) (s : Mail) (es : List (Event Bytes)) : Prop
    extends Wired h b i s where
  payloads : ∀ p ∈ s.pending, Carries h b p
  history : Fifo [] es (s.pending.map cstr)
  sent : accepted es = s.acceptedTexts
  texts : delivered es = s.receipts.map Receipt.text
  reads : ∀ r ∈ s.receipts, r.read = toInt (b / 8 : Nat)
  source : ∀ c, (c, true) ∈ s.sent → ∃ msg, c = .c msg ∧ P msg

section

variable {h : Host} (os : Os) {b i : Nat} {P : CText → Prop} {s : Mail} {es : List (Event Bytes)}

lemma sim_start (hready : Ready h b i s) : Sim h b i P s [] where
  toWired := hready.toWired
  payloads := by simp [hready.pending]
  history := by simpa [hready.pending] using Fifo.nil []
  sent := by simp [accepted, Mail.acceptedTexts, hready.sent]
  texts := by simp [delivered, hready.receipts]
  reads := by simp [hready.receipts]
  source := by simp [hready.sent]

/-- The payload of a short string carries the string. -/
lemma cstr_payload {msg : CText} {area : Bytes} (hshort : msg.val.length < b / 8)
    (hlen : b / 8 ≤ (copied msg.val area).length) :
    (0 : Byte) ∈ (copied msg.val area).take (b / 8) ∧
      ((copied msg.val area).take (b / 8)).length = b / 8 ∧
      cstr ((copied msg.val area).take (b / 8)) = msg.val := by
  have hsplit : (copied msg.val area).take (b / 8) =
      msg.val ++ 0 :: (area.drop (msg.val.length + 1)).take (b / 8 - msg.val.length - 1) := by
    have hpos : b / 8 - msg.val.length = (b / 8 - msg.val.length - 1) + 1 := by omega
    rw [copied, List.take_append, List.take_of_length_le (by omega), hpos, List.take_succ_cons]
    simp
  refine ⟨?_, ?_, ?_⟩
  · rw [hsplit]
    simp
  · rw [List.length_take]
    omega
  · rw [hsplit]
    exact cstr_append_nul msg.property

/-- A send of a short string is a send of the abstract queue, or none. -/
lemma step_send_sim (hsim : Sim h b i P s es) (j : Nat) {msg : CText} (fails : Option Nat)
    (hP : P msg) (hshort : Short h b msg) :
    ∃ s' es', step os s (.send j msg fails) = .ok s' ∧ Sim h b i P s' es' := by
  rcases hshort with ⟨hmsg, hsize, hcount⟩
  rcases step_send os hsim.toWired j fails (show msg.val.length + 1 ≤ areaSize h b by omega) hsize
    with ⟨area, s', harea, hstep, hw, -, hreceipts, hcases⟩
  have hlen := (hsim.senders j).area_length harea
  have hcopied : b / 8 ≤ (copied msg.val area).length := by
    rw [copied_length (by omega)]
    omega
  rcases cstr_payload hmsg hcopied with ⟨hnul, hfull, htext⟩
  rcases hcases with ⟨hsent, hpending, -⟩ | ⟨hsent, hpending, -⟩
  · -- refused: nothing changes but the log of the sends
    refine ⟨s', es, hstep, hw, ?_, ?_, ?_, ?_, ?_, ?_⟩
    · simpa [hpending] using hsim.payloads
    · simpa [hpending] using hsim.history
    · simpa [Mail.acceptedTexts, hsent] using hsim.sent
    · simpa [hreceipts] using hsim.texts
    · simpa [hreceipts] using hsim.reads
    · simpa [hsent] using hsim.source
  · -- accepted: the abstract queue takes the text of the payload
    refine ⟨s', es ++ [.send msg.val], hstep, hw, ?_, ?_, ?_, ?_, ?_, ?_⟩
    · rw [hpending]
      exact List.forall_mem_append.2
        ⟨hsim.payloads, List.forall_mem_singleton.2 ⟨hnul, hfull, hsize, hcount⟩⟩
    · simpa [hpending, htext] using hsim.history.snoc_send msg.val
    · have := hsim.sent
      simp only [accepted, Mail.acceptedTexts] at this
      simp [accepted, Mail.acceptedTexts, hsent, this, Client.text]
    · simpa [hreceipts, delivered] using hsim.texts
    · simpa [hreceipts] using hsim.reads
    · intro c hmem
      rw [hsent] at hmem
      rcases List.mem_append.1 hmem with hold | hnew
      · exact hsim.source c hold
      · have : c = .c msg := by simpa using hnew
        exact ⟨msg, this, hP⟩

/-- A receive is a receive of the abstract queue, or none. -/
lemma step_receive_sim (hsim : Sim h b i P s es) (fails : Option Nat) (errno : Nat) :
    ∃ s' es', step os s (.receive fails errno) = .ok s' ∧ Sim h b i P s' es' := by
  cases hrcv : s.ipc.msgrcv i s.buffer.length fails with
  | error e => exact ⟨s, es, step_refused os hsim.toWired errno hrcv, hsim⟩
  | ok r =>
    rcases r with ⟨m, k'⟩
    rcases hsim.queue with ⟨q, hq, -⟩
    rcases Ipc.msgrcv_ok hrcv with ⟨q', msgs, hq', hmsgs, -, -⟩
    cases hq.symm.trans hq'
    have hm : Carries h b m := by
      apply hsim.payloads
      simp [hsim.toWired.pending_eq hq, hmsgs]
    rcases hm with ⟨hnul, hfull, hsize, hcount⟩
    rcases step_taken os hsim.toWired errno hrcv (by omega) (Or.inl hnul) with
      ⟨s', hstep, hw, hpending, hsent, ⟨hlost, -⟩ | ⟨-, hreceipts⟩⟩
    · -- the count of a payload that `queue_send` made is not taken for an error
      rw [hfull] at hlost
      exact absurd hlost hcount
    · refine ⟨s', es ++ [.receive (cstr m)], hstep, hw, ?_, ?_, ?_, ?_, ?_, ?_⟩
      · intro p hp
        exact hsim.payloads p (by simp [hpending, hp])
      · have hhistory := hsim.history
        rw [hpending] at hhistory
        exact hhistory.snoc_receive
      · simpa [Mail.acceptedTexts, hsent, accepted] using hsim.sent
      · have := hsim.texts
        simp only [delivered] at this
        simp [delivered, hreceipts, this]
      · rw [hreceipts]
        exact List.forall_mem_append.2
          ⟨hsim.reads, List.forall_mem_singleton.2 (by rw [hfull])⟩
      · simpa [hsent] using hsim.source

lemma step_sim (a : Action) (hsim : Sim h b i P s es) (hP : ∀ msg, P msg → Short h b msg)
    (ha : a.FromC P) : ∃ s' es', step os s a = .ok s' ∧ Sim h b i P s' es' := by
  cases a with
  | send j msg fails =>
    rcases ha _ rfl with ⟨msg', heq, hmsg⟩
    cases heq
    exact step_send_sim os hsim j fails hmsg (hP msg hmsg)
  | php addr fails =>
    rcases ha _ rfl with ⟨msg, heq, -⟩
    cases heq
  | receive fails errno => exact step_receive_sim os hsim fails errno

/-- Runs of short C messages simulate the abstract queue. -/
theorem strings_delivered {as : List Action} (hready : Ready h b i s)
    (hP : ∀ msg, P msg → Short h b msg) (has : ∀ a ∈ as, Action.FromC P a) :
    ∃ t es, exec (step os) s as = .ok t ∧ Sim h b i P t es := by
  have hstep : ∀ s a, (∃ es, Sim h b i P s es) → Action.FromC P a →
      ∃ s', step os s a = .ok s' ∧ ∃ es', Sim h b i P s' es' := by
    rintro s a ⟨es, hsim⟩ ha
    rcases step_sim os a hsim hP ha with ⟨s', es', hs', hsim'⟩
    exact ⟨s', hs', es', hsim'⟩
  rcases exec_total hstep ⟨[], sim_start hready⟩ (along_of_forall has) with ⟨t, hrun, es, hsim⟩
  exact ⟨t, es, hrun, hsim⟩

/-- The strings handed out are the first accepted ones; the others are still in the queue. -/
lemma Sim.accepted_eq (hsim : Sim h b i P s es) :
    s.acceptedTexts = s.receipts.map Receipt.text ++ s.pending.map cstr := by
  rw [← hsim.sent, ← hsim.texts]
  simpa using hsim.history.conservation

end

/-! ## When the promise is kept -/

/-- A string shorter than the payload whose length is the payload's size as an `int`. -/
def Faithful (h : Host) (b : Nat) (msg : CText) : Prop :=
  msg.val.length < b / 8 ∧ b / 8 ≤ areaSize h b ∧ toInt (b / 8 : Nat) = msg.val.length

section

variable {h : Host} (os : Os) {b i : Nat} {s : Mail} {es : List (Event Bytes)}

lemma Faithful.short {msg : CText} (hmsg : Faithful h b msg) : Short h b msg := by
  rcases hmsg with ⟨hlt, hsize, hcount⟩
  exact ⟨hlt, hsize, by omega⟩

/-- No string is faithful on a queue of less than 16 GiB. -/
theorem not_faithful (hb : b < 2 ^ 34) (msg : CText) : ¬ Faithful h b msg := by
  rintro ⟨hlt, -, hcount⟩
  rw [toInt_of_lt (by omega)] at hcount
  omega

lemma Sim.refines {P : CText → Prop} (hsim : Sim h b i P s es)
    (hP : ∀ msg, P msg → Faithful h b msg) : Refines b s := by
  have haccepted := hsim.accepted_eq
  have hlength : ∀ m ∈ s.acceptedTexts, toInt (b / 8 : Nat) = m.length := by
    intro m hm
    rcases List.mem_map.1 hm with ⟨⟨c, ok⟩, hc, rfl⟩
    rcases List.mem_filter.1 hc with ⟨hmem, hok⟩
    have : ok = true := by simpa using hok
    subst this
    rcases hsim.source c hmem with ⟨msg, rfl, hmsg⟩
    exact (hP msg hmsg).2.2
  refine ⟨?_, ?_, ?_⟩
  · intro msg hmem
    rcases hsim.source _ hmem with ⟨msg', heq, hmsg⟩
    cases heq
    exact (hP msg hmsg).1
  · have htake : s.acceptedTexts.take s.receipts.length = s.receipts.map Receipt.text := by
      rw [haccepted]
      simp
    rw [promised, htake, List.map_map]
    apply List.map_congr_left
    intro r hr
    have hmem : r.text ∈ s.acceptedTexts := by
      rw [haccepted]
      exact List.mem_append_left _ (List.mem_map_of_mem hr)
    exact Prod.ext rfl ((hsim.reads r hr).trans (hlength _ hmem))
  · simp [haccepted]

/-- A receive sends nothing. -/
lemma step_receive_sent {t : Mail} {fails : Option Nat} {errno : Nat}
    (hstep : step os s (.receive fails errno) = .ok t) : t.sent = s.sent := by
  unfold step at hstep
  dsimp only at hstep
  split at hstep
  · cases hstep
  · split at hstep
    · cases hstep
      rfl
    · cases hstep
      rfl

/-- What a send and a receive of one message show when the promise is kept. -/
lemma faithful_of_refines {msg : CText} (hready : Ready h b i s) {t : Mail}
    (hrun : exec (step os) s [.send 0 msg none, .receive none 0] = .ok t) (hrefines : Refines b t) :
    Faithful h b msg := by
  rcases exec_cons_ok.1 hrun with ⟨s₁, hsend, hrest⟩
  rcases exec_cons_ok.1 hrest with ⟨t', hreceive, hnil⟩
  cases hnil
  -- the run did not fault, so the send stayed inside the area
  have hmsg : msg.val.length + 1 ≤ areaSize h b ∧ b / 8 ≤ areaSize h b := by
    by_contra hlong
    have hfault : step os s (.send 0 msg none) = .error .outOfBounds :=
      step_send_overflow os hready.toWired 0 none (by omega)
    cases hfault.symm.trans hsend
  rcases step_send os hready.toWired 0 none hmsg.1 hmsg.2 with
    ⟨area, s₁', harea, hsend', hw, -, hreceipts, hcases⟩
  cases hsend.symm.trans hsend'
  have hlen := (hready.senders 0).area_length harea
  have hcopied : b / 8 ≤ (copied msg.val area).length := by
    rw [copied_length (by omega)]
    omega
  have htake : ((copied msg.val area).take (b / 8)).length = b / 8 := by
    rw [List.length_take]
    omega
  have hle : ((copied msg.val area).take (b / 8)).length ≤ b := by
    rw [htake]
    exact Nat.div_le_self b 8
  rcases hcases with ⟨-, -, hreason⟩ | ⟨hsent, hpending, -⟩
  · exact absurd hready.pending (hreason rfl hle)
  · have hsent' : t.sent = [(.c msg, true)] := by
      rw [step_receive_sent os hreceive, hsent, hready.sent]
      rfl
    have hshort : msg.val.length < b / 8 := hrefines.fits msg (by simp [hsent'])
    rcases cstr_payload hshort hcopied with ⟨hnul, hfull, htext⟩
    have hpending' : s₁.pending = [(copied msg.val area).take (b / 8)] := by
      simpa [hready.pending] using hpending
    rcases step_taken os hw 0 (hw.msgrcv_front hpending' hle) (by omega) (Or.inl hnul) with
      ⟨t', hreceive', -, hrest', -, ⟨-, hsame⟩ | ⟨-, hnew⟩⟩
    · -- the message was taken and not delivered
      cases hreceive.symm.trans hreceive'
      have hcomplete := hrefines.complete
      have hempty : t.pending = [] := by
        rw [hpending'] at hrest'
        simpa using hrest'.symm
      simp [Mail.acceptedTexts, hsent', hsame, hreceipts, hready.receipts, hempty] at hcomplete
    · cases hreceive.symm.trans hreceive'
      have hresults := hrefines.results
      rw [hnew, hreceipts, hready.receipts, htext, htake] at hresults
      have hcount : toInt (b / 8 : Nat) = msg.val.length := by
        simpa [promised, Mail.acceptedTexts, hsent', Client.text] using hresults
      exact ⟨hshort, hmsg.2, hcount⟩

end

/-- C senders may send the strings `M`, in any order and any number: every run keeps the promise of
`queue.h` if and only if every string of `M` is faithful. -/
theorem runs_refine_iff (h : Host) (os : Os) (b : Nat) (M : CText → Prop) :
    (∀ i s as, Ready h b i s → (∀ a ∈ as, Action.FromC M a) →
        ∃ t, exec (step os) s as = .ok t ∧ Refines b t) ↔
      ∀ msg, M msg → Faithful h b msg := by
  constructor
  · intro hall msg hmsg
    have hready := dirtyMail_ready h b
    have hfrom : ∀ a ∈ [Action.send 0 msg none, .receive none 0], Action.FromC M a := by
      intro a ha c hc
      simp only [List.mem_cons, List.not_mem_nil, or_false] at ha
      rcases ha with rfl | rfl
      · cases hc
        exact ⟨msg, rfl, hmsg⟩
      · cases hc
    rcases hall 0 _ _ hready hfrom with ⟨t, hrun, hrefines⟩
    exact faithful_of_refines os hready hrun hrefines
  · intro hfaithful i s as hready has
    rcases strings_delivered os hready (fun msg hmsg => (hfaithful msg hmsg).short) has with
      ⟨t, es, hrun, hsim⟩
    exact ⟨t, hrun, hsim.refines hfaithful⟩

/-- On a queue of capacity 72 the seven bytes of `1.1.1.1` are received with the count 9, and the
twelve bytes of `1.1.1.100/24` are accepted and cut to nine. -/
theorem sends_break_promise :
    Ready Host.lp64 72 0 clearMail ∧
      (∃ s, exec (step Os.linux) clearMail
          [.send 0 ⟨str "1.1.1.1", by decide⟩ none, .receive none 0] = .ok s ∧
        s.receipts.map (fun r => (r.text, r.read)) = [(str "1.1.1.1", 9)] ∧ ¬ Refines 72 s) ∧
      ∃ s, exec (step Os.linux) clearMail
          [.send 0 ⟨str "1.1.1.100/24", by decide⟩ none, .receive none 0] = .ok s ∧
        s.receipts.map (fun r => (r.text, r.read)) = [(str "1.1.1.100", 9)] ∧ ¬ Refines 72 s := by
  refine ⟨clearMail_ready, ⟨_, rfl, by decide, ?_⟩, ⟨_, rfl, by decide, ?_⟩⟩
  · intro hrefines
    have := hrefines.results
    revert this
    decide
  · intro hrefines
    have := hrefines.results
    revert this
    decide

end SystemV
end Banip
