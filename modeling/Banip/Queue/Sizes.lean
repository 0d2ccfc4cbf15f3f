import Banip.Queue.Isolation

/-!
# Sizes — the blocks of a System V handle

`queue_open` allocates the area behind the message type from `msg_qbytes / 8` and the size of a
pointer.  The daemon passes `msg_qbytes + 1` as the limit of `msgrcv` and as the size of its own
buffer, and `queue_send` copies a string of any length.  This module says exactly when the calls on
an open handle stay inside those blocks.
-/

namespace Banip
namespace SystemV

open Lib

/-- The call accesses no byte outside its blocks. -/
def Contained {α : Type} (call : Except Fault α) : Prop := ∀ fault, call ≠ .error fault

/-- A payload that a receive can take, on top of what the area holds: it fits, and a NUL among the
first `b + 1` bytes of the area ends the string; a count that is `-1` as an `int` is not copied. -/
def ReceiveFits (h : Host) (b : Nat) (area payload : Bytes) : Prop :=
  payload.length ≤ areaSize h b ∧
    (toInt payload.length = -1 ∨
      (0 : Byte) ∈ (payload ++ area.drop payload.length).take (b + 1))

/-- A string that a send can take: it fits the area with its NUL, and so does the payload. -/
def SendFits (h : Host) (b : Nat) (msg : Bytes) : Prop :=
  msg.length + 1 ≤ areaSize h b ∧ b / 8 ≤ areaSize h b

section

variable {h : Host} {os : Os} {i b : Nat} {q : SystemvQueue} {area : Bytes}

/-- The area is a pointer's size for each eighth byte of the capacity, unless `size_t` wraps. -/
lemma areaSize_eq (hwrap : h.longBytes + h.ptrBytes * (b / 8) < 2 ^ (8 * h.ptrBytes)) :
    areaSize h b = h.ptrBytes * (b / 8) := by
  rw [areaSize, allocSize, Nat.mod_eq_of_lt hwrap, Nat.add_sub_cancel_left]

lemma queueReceive_contained_iff {k k' : Ipc} {buffer payload : Bytes} {fails : Option Nat}
    (errno : Nat) (hq : Attached h i b q) (harea : q.buffer = some area)
    (hbuffer : buffer.length = b + 1) (hrcv : k.msgrcv i (b + 1) fails = .ok (payload, k')) :
    Contained (queueReceive os k q buffer (b + 1) fails errno) ↔ ReceiveFits h b area payload := by
  have hlen := hq.area_length harea
  by_cases hfits : payload.length ≤ area.length
  · by_cases hlost : toInt payload.length = -1
    · rw [queueReceive_lost errno hq.qid harea hrcv hfits hlost]
      refine iff_of_true ?_ ⟨by omega, Or.inl hlost⟩
      intro fault hfault
      cases hfault
    · -- the string that `strcpy` copies has to end inside the area and inside the buffer
      have hshort : ReceiveFits h b area payload ↔
          (0 : Byte) ∈ overwritten payload area ∧
            (cstr (overwritten payload area)).length < b + 1 := by
        rw [← mem_take_iff_cstr_length_lt]
        constructor
        · rintro ⟨-, hcount | hmem⟩
          · exact absurd hcount hlost
          · exact hmem
        · intro hmem
          exact ⟨by omega, Or.inr hmem⟩
      rw [hshort]
      constructor
      · intro hcontained
        by_cases hnul : (0 : Byte) ∈ overwritten payload area
        · refine ⟨hnul, ?_⟩
          by_contra hlong
          exact hcontained _
            (queueReceive_outgrown errno hq.qid harea hrcv hfits hlost hnul (by omega))
        · exact absurd (queueReceive_unterminated errno hq.qid harea hrcv hfits hlost hnul)
            (hcontained _)
      · rintro ⟨hnul, hroom⟩
        rw [queueReceive_eq errno hq.qid harea hrcv hfits hlost hnul (by omega)]
        intro fault hfault
        cases hfault
  · -- `msgrcv` itself leaves the area
    have hover : queueReceive os k q buffer (b + 1) fails errno = .error .outOfBounds :=
      queueReceive_overflow errno hq.qid harea hrcv (by omega)
    refine iff_of_false (fun hcontained => hcontained _ hover) ?_
    rintro ⟨hle, -⟩
    omega

lemma queueSend_contained_iff (k : Ipc) (msg : Bytes) (msgLen : Int) (fails : Option Nat)
    (hq : Attached h i b q) (harea : q.buffer = some area) :
    Contained (queueSend os k q msg msgLen fails) ↔ SendFits h b msg := by
  have hlen := hq.area_length harea
  by_cases hlong : area.length < msg.length + 1 ∨ area.length < b / 8
  · have hover : queueSend os k q msg msgLen fails = .error .outOfBounds := by
      apply queueSend_overflow msgLen fails harea
      rwa [hq.bufferSize]
    refine iff_of_false (fun hcontained => hcontained _ hover) ?_
    rintro ⟨hmsg, hsize⟩
    omega
  · have hsend : ∃ error, queueSend os k q msg msgLen fails = _ :=
      queueSend_eq msgLen fails hq harea (by omega) (by omega)
    rcases hsend with ⟨error, hsend⟩
    rw [hsend]
    refine iff_of_true ?_ ⟨by omega, by omega⟩
    intro fault hfault
    cases hfault

end

/-- On every open handle of a queue of capacity `b`: a receive as the daemon makes it is contained
exactly when the payload it takes fits, and a send exactly when its string does. -/
theorem accesses_contained_iff (h : Host) (os : Os) {i b : Nat} {q : SystemvQueue} {area : Bytes}
    (hq : Attached h i b q) (harea : q.buffer = some area) :
    (h.longBytes + h.ptrBytes * (b / 8) < 2 ^ (8 * h.ptrBytes) →
        areaSize h b = h.ptrBytes * (b / 8)) ∧
      (∀ (k k' : Ipc) (buffer payload : Bytes) (fails : Option Nat) (errno : Nat),
        buffer.length = b + 1 → k.msgrcv i (b + 1) fails = .ok (payload, k') →
        (Contained (queueReceive os k q buffer (b + 1) fails errno) ↔
          ReceiveFits h b area payload)) ∧
      ∀ (k : Ipc) (msg : CText) (msgLen : Int) (fails : Option Nat),
        Contained (queueSend os k q msg.val msgLen fails) ↔ SendFits h b msg.val := by
  refine ⟨areaSize_eq, ?_, ?_⟩
  · intro k k' buffer payload fails errno hbuffer hrcv
    exact queueReceive_contained_iff errno hq harea hbuffer hrcv
  · intro k msg msgLen fails
    exact queueSend_contained_iff k msg.val msgLen fails hq harea

/-- A queue of 80 bytes on a 64-bit host that holds `192.0.2.1` with its NUL. -/
theorem accesses_contained_iff_short :
    Contained (queueReceive Os.linux
        (Registry.empty.create ⟨0, 80, [str "192.0.2.1" ++ [0]], 0⟩) (dirtyHandle Host.lp64 80)
        (block (fun _ => 0) 81) 81 none 0) ∧
      Contained (queueSend Os.linux (Registry.empty.create ⟨0, 80, [], 0⟩)
        (dirtyHandle Host.lp64 80) (str "192.0.2.1") (-1) none) := by
  rcases accesses_contained_iff Host.lp64 Os.linux (dirtyHandle_attached Host.lp64 80) rfl with
    ⟨-, hreceive, hsend⟩
  refine ⟨(hreceive _ _ _ _ none 0 (by simp) rfl).2 ?_, (hsend _ ⟨_, by decide⟩ (-1) none).2 ?_⟩
  · unfold ReceiveFits
    decide
  · unfold SendFits
    decide

/-- A 32-bit host. -/
def ilp32 : Host :=
  { bigEndian := false, longBits := 32, ptrBytes := 4
    longBits_ok := Or.inl rfl, ptrBytes_ok := Or.inl rfl }

/-- Two full messages of a queue of 16384 bytes.  On a 32-bit host the area has half that size and
`msgrcv` writes past it, although the text ends in a NUL; on a 64-bit host a text without a NUL fills
the area and `strcpy` reads past it. -/
theorem full_message_leaves_area :
    (Attached ilp32 0 16384 (dirtyHandle ilp32 16384) ∧
      queueReceive Os.linux
          (Registry.empty.create ⟨0, 16384, [List.replicate 16383 (chr '1') ++ [0]], 0⟩)
          (dirtyHandle ilp32 16384) (block (fun _ => 0) 16385) 16385 none 0 =
        .error .outOfBounds) ∧
      Attached Host.lp64 0 16384 (dirtyHandle Host.lp64 16384) ∧
      queueReceive Os.linux
          (Registry.empty.create ⟨0, 16384, [List.replicate 16384 (chr '1')], 0⟩)
          (dirtyHandle Host.lp64 16384) (block (fun _ => 0) 16385) 16385 none 0 =
        .error .outOfBounds := by
  have hrcv : ∀ m : Bytes, m.length = 16384 → Ipc.msgrcv
      (Registry.empty.create ⟨0, 16384, [m], 0⟩) 0 16385 none =
      .ok (m, Ipc.setMsgs (Registry.empty.create ⟨0, 16384, [m], 0⟩) 0 []) := by
    intro m hm
    exact if_neg (by omega)
  have hlen : (List.replicate 16383 (chr '1') ++ [0]).length = 16384 := by
    rw [List.length_append, List.length_replicate]
    rfl
  have hlen' : (List.replicate 16384 (chr '1')).length = 16384 := List.length_replicate
  refine ⟨⟨dirtyHandle_attached _ _, ?_⟩, dirtyHandle_attached _ _, ?_⟩
  · apply queueReceive_overflow 0 rfl rfl (hrcv _ hlen)
    rw [hlen, block_length, areaSize_eq (by decide)]
    decide
  · have harea : (block (fun _ => 255) (areaSize Host.lp64 16384)).length = 16384 := by
      rw [block_length, areaSize_eq (by decide)]
      rfl
    apply queueReceive_unterminated 0 rfl rfl (hrcv _ hlen')
    · rw [hlen', harea]
    · rw [hlen']
      decide
    · -- nothing of the area is left behind the payload
      rw [overwritten, List.drop_eq_nil_of_le (by rw [hlen', harea]), List.append_nil]
      intro hmem
      exact absurd (List.eq_of_mem_replicate hmem) (by decide)

end SystemV
end Banip
