import Banip.Lib.CString

/-!
# ByteOrder — words in memory and the bits of an address

`store` and `load` are the host's view of a `uint32_t` in memory, `htonl` the conversion to network
byte order.  Addresses are compared bit by bit from the most significant bit of their first byte
(`bitAt`), which is the order in which a prefix length counts them, so every mask computation of a
caller reduces to one question: which bits does it set?
-/

namespace Banip
namespace Lib

/-- One `uint32_t`. -/
abbrev Word : Type := BitVec 32

/-- The bytes of a word, most significant first. -/
def bytesBE (w : Word) : Bytes :=
  [w.extractLsb' 24 8, w.extractLsb' 16 8, w.extractLsb' 8 8, w.extractLsb' 0 8]

/-- A word as the host lays it out in memory. -/
def store (h : Host) (w : Word) : Bytes := if h.bigEndian then bytesBE w else (bytesBE w).reverse

/-- The word the host reads from four bytes of memory. -/
def load (h : Host) (b₀ b₁ b₂ b₃ : Byte) : Word :=
  if h.bigEndian then b₀ ++ b₁ ++ b₂ ++ b₃ else b₃ ++ b₂ ++ b₁ ++ b₀

/-- `htonl`: the word whose memory image is in network byte order. -/
def htonl (h : Host) (w : Word) : Word :=
  load h (w.extractLsb' 24 8) (w.extractLsb' 16 8) (w.extractLsb' 8 8) (w.extractLsb' 0 8)

/-! ## Stores and loads -/

lemma bytesBE_append (a b c d : Byte) : bytesBE (a ++ b ++ c ++ d) = [a, b, c, d] := by
  simp only [bytesBE, List.cons.injEq, and_true]
  refine ⟨?_, ?_, ?_, ?_⟩
  all_goals
    apply BitVec.eq_of_getLsbD_eq
    intro i hi
    simp only [BitVec.getLsbD_extractLsb', BitVec.getLsbD_append, hi, decide_true,
      Bool.true_and]
  · simp [show ¬ 24 + i < 8 by omega, show ¬ 24 + i - 8 < 8 by omega,
      show ¬ 24 + i - 8 - 8 < 8 by omega, show 24 + i - 8 - 8 - 8 = i by omega]
  · simp [show ¬ 16 + i < 8 by omega, show ¬ 16 + i - 8 < 8 by omega,
      show 16 + i - 8 - 8 = i by omega, hi]
  · simp [show ¬ 8 + i < 8 by omega, hi]
  · simp [hi]

lemma store_load (h : Host) (b₀ b₁ b₂ b₃ : Byte) :
    store h (load h b₀ b₁ b₂ b₃) = [b₀, b₁, b₂, b₃] := by
  unfold store load
  cases h.bigEndian
  · simp [bytesBE_append]
  · simp [bytesBE_append]

/-- What was stored is read back. -/
lemma load_store (h : Host) (w : Word) :
    load h ((store h w).getD 0 0) ((store h w).getD 1 0) ((store h w).getD 2 0)
      ((store h w).getD 3 0) = w := by
  have hw : w.extractLsb' 24 8 ++ w.extractLsb' 16 8 ++ w.extractLsb' 8 8 ++ w.extractLsb' 0 8 =
      w := by
    apply BitVec.eq_of_getLsbD_eq
    intro i hi
    simp only [BitVec.getLsbD_append, BitVec.getLsbD_extractLsb']
    by_cases h8 : i < 8
    · simp [h8]
    by_cases h16 : i < 16
    · simp [h8, show i - 8 < 8 by omega, show 8 + (i - 8) = i by omega]
    by_cases h24 : i < 24
    · simp [h8, show ¬ i - 8 < 8 by omega, show i - 8 - 8 < 8 by omega,
        show 16 + (i - 8 - 8) = i by omega]
    · simp [h8, show ¬ i - 8 < 8 by omega, show ¬ i - 8 - 8 < 8 by omega,
        show i - 8 - 8 - 8 < 8 by omega, show 24 + (i - 8 - 8 - 8) = i by omega]
  unfold store load
  cases h.bigEndian
  · simpa [bytesBE] using hw
  · simpa [bytesBE] using hw

/-- On either host, a converted word is stored most significant byte first. -/
lemma store_htonl (h : Host) (w : Word) : store h (htonl h w) = bytesBE w := by
  rw [htonl, store_load]
  rfl

lemma bytesBE_and (v w : Word) :
    bytesBE (v &&& w) = List.zipWith (· &&& ·) (bytesBE v) (bytesBE w) := by
  simp [bytesBE, BitVec.extractLsb'_and]

lemma store_and (h : Host) (v w : Word) :
    store h (v &&& w) = List.zipWith (· &&& ·) (store h v) (store h w) := by
  unfold store
  cases h.bigEndian
  · simp [bytesBE, BitVec.extractLsb'_and]
  · simp [bytesBE_and]

lemma store_length (h : Host) (w : Word) : (store h w).length = 4 := by
  unfold store
  cases h.bigEndian
  · simp [bytesBE]
  · simp [bytesBE]

lemma store_allOnes (h : Host) : store h 0xFFFFFFFF = [0xff, 0xff, 0xff, 0xff] := by
  unfold store
  cases h.bigEndian <;> decide

lemma store_zero (h : Host) : store h 0 = [0, 0, 0, 0] := by
  unfold store
  cases h.bigEndian <;> decide

/-- `for (i = 0; i < n; i++) a[i] &= m[i];` over the words of a block. -/
def andWords (h : Host) : Bytes → List Word → Bytes
  | b₀ :: b₁ :: b₂ :: b₃ :: a, w :: m => store h (load h b₀ b₁ b₂ b₃ &&& w) ++ andWords h a m
  | a, _ => a

/-- Masking word by word is masking byte by byte with the mask's memory image. -/
lemma andWords_eq (h : Host) (m : List Word) {a : Bytes} (ha : a.length = 4 * m.length) :
    andWords h a m = List.zipWith (· &&& ·) a (m.flatMap (store h)) := by
  induction m generalizing a with
  | nil =>
    have : a = [] := List.length_eq_zero_iff.1 (by simpa using ha)
    simp [this, andWords]
  | cons w m ih =>
    match a, ha with
    | b₀ :: b₁ :: b₂ :: b₃ :: a, ha =>
      have ha' : a.length = 4 * m.length := by
        simp only [List.length_cons] at ha
        omega
      have hw : (store h w).length = 4 := store_length h w
      have hsplit : b₀ :: b₁ :: b₂ :: b₃ :: a = [b₀, b₁, b₂, b₃] ++ a := rfl
      rw [andWords, ih ha', store_and, store_load, List.flatMap_cons, hsplit,
        List.zipWith_append (by simp [hw])]
    | [], ha => simp at ha
    | [_], ha => simp at ha; omega
    | [_, _], ha => simp at ha; omega
    | [_, _, _], ha => simp at ha; omega

/-! ## Bits -/

/-- Bit `i` of an address, counted from the most significant bit of its first byte. -/
def bitAt (a : Bytes) (i : Nat) : Bool := (a.getD (i / 8) 0).getMsbD (i % 8)

lemma bitAt_append_left {a b : Bytes} {i : Nat} (hi : i < 8 * a.length) :
    bitAt (a ++ b) i = bitAt a i := by
  have : i / 8 < a.length := by omega
  simp [bitAt, List.getD_eq_getElem?_getD, List.getElem?_append_left this]

lemma bitAt_append_right {a b : Bytes} {i : Nat} (hi : 8 * a.length ≤ i) :
    bitAt (a ++ b) i = bitAt b (i - 8 * a.length) := by
  have hdiv : (i - 8 * a.length) / 8 = i / 8 - a.length := by omega
  have hmod : (i - 8 * a.length) % 8 = i % 8 := by omega
  have : a.length ≤ i / 8 := by omega
  simp [bitAt, List.getD_eq_getElem?_getD, List.getElem?_append_right this, hdiv, hmod]

lemma bitAt_and {a b : Bytes} (hlen : a.length = b.length) (i : Nat) :
    bitAt (List.zipWith (· &&& ·) a b) i = (bitAt a i && bitAt b i) := by
  unfold bitAt
  by_cases hi : i / 8 < a.length
  · have hi' : i / 8 < b.length := hlen ▸ hi
    rw [List.getD_eq_getElem?_getD, List.getElem?_zipWith]
    simp [List.getD_eq_getElem?_getD, hi, hi']
  · have hz : (List.zipWith (· &&& ·) a b).length ≤ i / 8 := by
      simp
      omega
    simp [List.getD_eq_getElem?_getD, List.getElem?_eq_none hz,
      List.getElem?_eq_none (Nat.le_of_not_lt hi)]

lemma bitAt_replicate_zero (n i : Nat) : bitAt (List.replicate n 0) i = false := by
  unfold bitAt
  by_cases hi : i / 8 < n
  · simp [List.getD_eq_getElem?_getD, hi]
  · simp [List.getD_eq_getElem?_getD, hi]

lemma bitAt_replicate_ones {n i : Nat} (hi : i < 8 * n) : bitAt (List.replicate n 0xff) i = true := by
  have hdiv : i / 8 < n := by omega
  have hbyte : ∀ k < 8, (0xff : Byte).getMsbD k = true := by decide
  have hget : (List.replicate n (0xff : Byte)).getD (i / 8) 0 = 0xff := by
    simp [List.getD_eq_getElem?_getD, hdiv]
  rw [bitAt, hget]
  exact hbyte _ (Nat.mod_lt _ (by decide))

/-- The memory image of a converted word lists its bits from the most significant one. -/
lemma bitAt_bytesBE (w : Word) {i : Nat} (hi : i < 32) : bitAt (bytesBE w) i = w.getMsbD i := by
  have hmod : i % 8 < 8 := Nat.mod_lt _ (by decide)
  have hq : i / 8 = 0 ∨ i / 8 = 1 ∨ i / 8 = 2 ∨ i / 8 = 3 := by omega
  unfold bitAt bytesBE
  rcases hq with hq | hq | hq | hq
  all_goals
    rw [hq]
    simp only [List.getD_cons_zero, List.getD_cons_succ, BitVec.getMsbD, BitVec.getLsbD_extractLsb',
      hmod, hi, decide_true, Bool.true_and, show 8 - 1 - i % 8 < 8 by omega]
    congr 1
    omega

/-- Blocks of equal length with equal bits are equal. -/
lemma eq_of_bitAt {a b : Bytes} (hlen : a.length = b.length)
    (h : ∀ i < 8 * a.length, bitAt a i = bitAt b i) : a = b := by
  refine List.ext_getElem hlen ?_
  intro k ha hb
  apply BitVec.eq_of_getMsbD_eq
  intro j hj
  have hbit := h (8 * k + j) (by omega)
  have hdiv : (8 * k + j) / 8 = k := by omega
  have hmod : (8 * k + j) % 8 = j := by omega
  simpa [bitAt, hdiv, hmod, List.getD_eq_getElem?_getD, ha, hb] using hbit

/-- `a` and `b` agree on their first `n` bits. -/
def SamePrefix (n : Nat) (a b : Bytes) : Prop := ∀ i < n, bitAt a i = bitAt b i

instance (n : Nat) (a b : Bytes) : Decidable (SamePrefix n a b) :=
  inferInstanceAs (Decidable (∀ i < n, bitAt a i = bitAt b i))

/-- Comparing under a mask that sets the first `n` bits compares these bits. -/
theorem and_mask_eq_iff {n : Nat} {a b mask : Bytes} (ha : a.length = mask.length)
    (hb : b.length = mask.length) (hn : n ≤ 8 * mask.length)
    (hmask : ∀ i < 8 * mask.length, bitAt mask i = decide (i < n)) :
    List.zipWith (· &&& ·) a mask = List.zipWith (· &&& ·) b mask ↔ SamePrefix n a b := by
  constructor
  · intro h i hi
    have hbit := congrArg (fun c => bitAt c i) h
    have hset : bitAt mask i = true := by simp [hmask i (by omega), hi]
    simpa [bitAt_and ha, bitAt_and hb, hset] using hbit
  · intro h
    refine eq_of_bitAt (by simp [ha, hb]) ?_
    intro i hi
    have hi' : i < 8 * mask.length := by
      simp [ha] at hi
      omega
    rw [bitAt_and ha, bitAt_and hb, hmask i hi']
    by_cases hin : i < n
    · simp [hin, h i hin]
    · simp [hin]

end Lib
end Banip
