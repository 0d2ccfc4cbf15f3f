import Banip.Queue.Isolation

/-!
# Residue — what a System V payload says about earlier messages

`queue_send` hands `msgsnd` the first `q->buffer_size` bytes of a block that `queue_open` allocated
and nobody cleared.  `strcpy` rewrites the beginning of the block only, so behind the NUL of the
message the payload goes on with the heap's old contents and with the tails of longer messages.

`payload` is the part of `queue_send` before `msgsnd`, and `queueSend_eq_payload` puts the call
together from it.  A handle may have been opened on any block and used for any history of sends
(`Used`); `payload_determined_iff` says for which messages all such handles send the same bytes.
-/

namespace Banip
namespace SystemV

open Lib

/-! ## One call -/

/-- The area after the `strcpy`, if neither the copy nor the payload leaves it. -/
def filled (q : SystemvQueue) (msg : Bytes) : Except Fault Bytes :=
  match q.buffer with
  | none => .error .nullDeref
  | some area => do
    let area ← strcpy area msg
    if area.length < q.bufferSize then .error .outOfBounds else return area

/-- The bytes `queue_send` hands to `msgsnd`. -/
def payload (q : SystemvQueue) (msg : Bytes) : Except Fault Bytes :=
  (filled q msg).map (List.take q.bufferSize)

/-- `queue_send` fills the area and passes its beginning to `msgsnd`. -/
lemma queueSend_eq_payload (os : Os) (k : Ipc) (q : SystemvQueue) (msg : Bytes) (msgLen : Int)
    (fails : Option Nat) :
    queueSend os k q msg msgLen fails = (do
      let area ← filled q msg
      let p ← payload q msg
      let q := { q with buffer := some area }
      match q.qid with
      | none => return ⟨false, q, k, some (systemError (str "msgsnd failed") (os.strerror EINVAL))⟩
      | some i =>
        match k.msgsnd i p fails with
        | .error errno =>
            return ⟨false, q, k, some (systemError (str "msgsnd failed") (os.strerror errno))⟩
        | .ok k' => return ⟨true, q, k', none⟩) := by
  unfold queueSend payload filled
  cases q.buffer with
  | none => rfl
  | some area =>
    dsimp only
    cases hcopy : strcpy area msg with
    | error fault => rfl
    | ok area' =>
      simp only [ok_bind]
      by_cases hlong : area'.length < q.bufferSize
      · simp only [if_pos hlong]
        rfl
      · simp only [if_neg hlong]
        rfl

/-! ## Histories -/

/-- An earlier call of `queue_send` on a handle: its arguments, the queues it found, and a refusal
of `msgsnd`. -/
structure Call where
  msg : Bytes
  msgLen : Int
  ipc : Ipc
  fails : Option Nat

/-- The handle after one call. -/
def useHandle (os : Os) (q : SystemvQueue) (c : Call) : Except Fault SystemvQueue :=
  (queueSend os c.ipc q c.msg c.msgLen c.fails).map Sent.queue

/-- `q` is a handle on the queue `i` of capacity `b` that was opened on a block with some contents
and then used for some history of sends. -/
def Used (h : Host) (os : Os) (i b : Nat) (q : SystemvQueue) : Prop :=
  ∃ heap q₀ history, Fresh h i b heap q₀ ∧ exec (useHandle os) q₀ history = .ok q

section

variable {h : Host} {os : Os} {i b : Nat} {q : SystemvQueue}

lemma filled_eq {msg area : Bytes} (hq : Attached h i b q) (harea : q.buffer = some area) :
    filled q msg = if msg.length + 1 ≤ areaSize h b ∧ b / 8 ≤ areaSize h b then
      .ok (copied msg area) else .error .outOfBounds := by
  have hlen := hq.area_length harea
  unfold filled
  simp only [harea, hq.bufferSize]
  by_cases hmsg : msg.length + 1 ≤ area.length
  · rw [strcpy_of_le hmsg, ok_bind]
    have hcopied : (msg ++ 0 :: area.drop (msg.length + 1)).length = area.length :=
      copied_length hmsg
    by_cases hsize : b / 8 ≤ area.length
    · rw [if_neg (by omega), if_pos ⟨by omega, by omega⟩]
      rfl
    · rw [if_pos (by omega), if_neg (by omega)]
  · rw [strcpy_of_lt (by omega), if_neg (by omega)]
    rfl

lemma filled_length {msg area : Bytes} (hq : Attached h i b q) (hfilled : filled q msg = .ok area) :
    area.length = areaSize h b := by
  rcases hq.buffer with ⟨before, hbefore, hlen⟩
  rw [filled_eq hq hbefore] at hfilled
  split at hfilled
  · rename_i hfits
    cases hfilled
    rw [copied_length (by omega), hlen]
  · cases hfilled

/-- One call leaves the handle on its queue, with an area of the same size. -/
lemma useHandle_attached {c : Call} {q' : SystemvQueue} (hq : Attached h i b q)
    (hstep : useHandle os q c = .ok q') : Attached h i b q' := by
  rcases map_eq_ok.1 hstep with ⟨sent, hsend, rfl⟩
  rw [queueSend_eq_payload] at hsend
  rcases bind_eq_ok.1 hsend with ⟨area, hfilled, hrest⟩
  rcases bind_eq_ok.1 hrest with ⟨p, -, hcall⟩
  -- whether or not `msgsnd` takes the payload, the area stays as it was filled
  have hqueue : sent.queue = { q with qid := some i, buffer := some area } := by
    simp only [hq.qid] at hcall
    cases hsnd : c.ipc.msgsnd i p c.fails with
    | error errno =>
      rw [hsnd] at hcall
      cases hcall
      rfl
    | ok k' =>
      rw [hsnd] at hcall
      cases hcall
      rfl
  rw [hqueue]
  exact ⟨rfl, hq.bufferSize, area, rfl, filled_length hq hfilled⟩

/-- A history of any length leaves the handle on its queue. -/
lemma Used.attached (hq : Used h os i b q) : Attached h i b q := by
  rcases hq with ⟨heap, q₀, history, hfresh, hrun⟩
  -- what the area holds changes with every call, its size and the queue do not
  exact exec_preserves (fun _ _ _ hq hstep => useHandle_attached hq hstep) hfresh.attached hrun

/-- The payload: the message, its NUL, and what the area held behind them. -/
lemma payload_eq {msg area : Bytes} (hq : Attached h i b q) (harea : q.buffer = some area)
    (hmsg : msg.length < b / 8) :
    payload q msg = if b / 8 ≤ areaSize h b then
      .ok (msg ++ 0 :: (area.drop (msg.length + 1)).take (b / 8 - (msg.length + 1)))
      else .error .outOfBounds := by
  rw [payload, filled_eq hq harea, hq.bufferSize]
  by_cases hsize : b / 8 ≤ areaSize h b
  · have hfits : msg.length + 1 ≤ areaSize h b ∧ b / 8 ≤ areaSize h b := ⟨by omega, hsize⟩
    have hnul : b / 8 - msg.length = b / 8 - (msg.length + 1) + 1 := by omega
    have htake : (copied msg area).take (b / 8) =
        msg ++ 0 :: (area.drop (msg.length + 1)).take (b / 8 - (msg.length + 1)) := by
      rw [copied, List.take_append, List.take_of_length_le (by omega), hnul, List.take_succ_cons]
    rw [if_pos hfits, if_pos hsize, Except.map, htake]
  · have hlong : ¬ (msg.length + 1 ≤ areaSize h b ∧ b / 8 ≤ areaSize h b) := fun hf => hsize hf.2
    rw [if_neg hlong, if_neg hsize]
    rfl

end

/-! ## Two runs -/

/-- Whatever block it was opened on and whatever it sent before, a handle on this queue hands over
the same bytes for `msg`. -/
def Determined (h : Host) (os : Os) (i b : Nat) (msg : Bytes) : Prop :=
  ∀ q₁ q₂, Used h os i b q₁ → Used h os i b q₂ → payload q₁ msg = payload q₂ msg

/-- A handle that was never used, on a block filled with `c`. -/
def filledHandle (h : Host) (i b : Nat) (c : Byte) : SystemvQueue :=
  ⟨some i, some (block (fun _ => c) (areaSize h b)), none, b / 8⟩

lemma filledHandle_used (h : Host) (os : Os) (i b : Nat) (c : Byte) :
    Used h os i b (filledHandle h i b c) :=
  ⟨fun _ => c, _, [], ⟨rfl, rfl, rfl⟩, rfl⟩

/-- The first byte behind the NUL comes from the heap. -/
lemma payload_filledHandle {h : Host} {i b : Nat} {msg : Bytes} (c : Byte)
    (hmsg : msg.length + 1 < b / 8) (hsize : b / 8 ≤ areaSize h b) :
    ∃ rest, payload (filledHandle h i b c) msg = .ok (msg ++ 0 :: c :: rest) := by
  have hq := (filledHandle_used h Os.linux i b c).attached
  have hcut : b / 8 - (msg.length + 1) = b / 8 - (msg.length + 2) + 1 := by omega
  rw [payload_eq hq rfl (by omega), if_pos hsize, block_drop (by omega), hcut, List.take_succ_cons]
  exact ⟨_, rfl⟩

/-- The bytes put into the queue are a function of the message if and only if the message and its
NUL fill the payload; the other case is a capacity for which the size of the block wraps and no
payload leaves the process. -/
theorem payload_determined_iff (h : Host) (os : Os) (i b : Nat) (msg : Bytes)
    (hmsg : msg.length < b / 8) :
    Determined h os i b msg ↔ msg.length + 1 = b / 8 ∨ areaSize h b < b / 8 := by
  constructor
  · intro hdet
    by_contra hroom
    have hlonger : msg.length + 1 < b / 8 := by omega
    have hsize : b / 8 ≤ areaSize h b := by omega
    -- two handles that were opened on different blocks and never used
    have hsame := hdet _ _ (filledHandle_used h os i b 0) (filledHandle_used h os i b 1)
    rcases payload_filledHandle (i := i) 0 hlonger hsize with ⟨rest₀, hp₀⟩
    rcases payload_filledHandle (i := i) 1 hlonger hsize with ⟨rest₁, hp₁⟩
    rw [hp₀, hp₁] at hsame
    simp at hsame
  · intro hexact q₁ q₂ hq₁ hq₂
    rcases hq₁.attached.buffer with ⟨area₁, harea₁, -⟩
    rcases hq₂.attached.buffer with ⟨area₂, harea₂, -⟩
    rw [payload_eq hq₁.attached harea₁ hmsg, payload_eq hq₂.attached harea₂ hmsg]
    rcases hexact with hfull | hwrap
    · -- no byte of the old area is left in the payload
      have hnone : b / 8 - (msg.length + 1) = 0 := by omega
      rw [hnone, List.take_zero, List.take_zero]
    · rw [if_neg (Nat.not_le.2 hwrap), if_neg (Nat.not_le.2 hwrap)]

/-- A queue of 64 bytes and a message of seven. -/
theorem payload_determined_full :
    (str "1.2.3.4").length < 64 / 8 ∧ Determined Host.lp64 Os.linux 0 64 (str "1.2.3.4") :=
  ⟨by decide, (payload_determined_iff Host.lp64 Os.linux 0 64 (str "1.2.3.4") (by decide)).2
    (Or.inl (by decide))⟩

/-- A handle that was opened over a cleared block and then sent `9.8.7.6`. -/
def usedHandle : SystemvQueue :=
  ⟨some 0, some (copied (str "9.8.7.6") (block (fun _ => 0) 64)), none, 8⟩

lemma usedHandle_used : Used Host.lp64 Os.linux 0 64 usedHandle :=
  ⟨fun _ => 0, filledHandle Host.lp64 0 64 0,
    [⟨str "9.8.7.6", -1, Registry.empty.create ⟨0, 64, [], 0⟩, none⟩], ⟨rfl, rfl, rfl⟩, rfl⟩

/-- On a queue of 64 bytes the ban of `::1` shows the end of the address sent before it; on a new
handle over a cleared block it does not. -/
theorem payload_shows_earlier_address :
    payload usedHandle (str "::1") = .ok (str "::1" ++ 0 :: str "7.6" ++ [0]) ∧
      payload (filledHandle Host.lp64 0 64 0) (str "::1") =
        .ok (str "::1" ++ List.replicate 5 0) ∧
      ¬ Determined Host.lp64 Os.linux 0 64 (str "::1") := by
  refine ⟨by decide, by decide, ?_⟩
  intro hdet
  have hsame := hdet _ _ usedHandle_used (filledHandle_used Host.lp64 Os.linux 0 64 0)
  exact absurd hsame (by decide)

end SystemV
end Banip
