import Banip.Lib.ByteOrder
import Banip.Lib.Inet
import Banip.Error

/-!
# Parse — `parse_ulong` and `parse_addr` of `parse.c`

The two functions are translated with the error slot they write: `parse_addr` runs `parse_ulong` on
the text after the first `/` and then several checks of its own, and all of them may call
`_error_set` on the same slot.

The second half of the module describes the block that clears the host bits: two counting loops
fill a mask of four 32-bit words, only the partial word is converted with `htonl`, and the address
is masked word by word.  `netmaskWords_image` gives the bytes of that mask on either byte order, and
`bitAt_netmaskBytes` the bits they set.
-/

namespace Banip

open Lib

/-! ## Numbers -/

/-- The verdict of `parse_ulong`, `*val`, and the slot. -/
structure UlongResult where
  ok : Bool
  val : Nat
  error : Slot
deriving DecidableEq, Repr

/-- `parse_ulong`, entered with `errno`.  `*val` is written before the checks. -/
def parseUlong (h : Host) (errno : Nat) (string : Bytes) (error : Slot) :
    Except Fault UlongResult :=
  let r := strtoul h errno string
  let fail (text : Bytes) : Except Fault UlongResult := do
    let error ← errorSet error text
    return ⟨false, r.value, error⟩
  if (r.errno = ERANGE ∧ r.value = h.ulongMax) ∨ (r.errno ≠ 0 ∧ r.value = 0) then
    fail (str "overflow or underflow for '" ++ string ++ str "'")
  else if r.endptr = 0 then
    fail (str "number expected, no digit found")
  else
    match string.drop r.endptr with
    | c :: _ => fail (str "number expected, non digit found " ++ [c] ++ str " in " ++ string)
    | [] =>
      if r.value = 0 then
        fail (str "number should be greater than 0, got " ++ decimal r.value)
      else
        return ⟨true, r.value, error⟩

/-- `parse_ulong` returns true and stores `v`. -/
def UlongReturns (h : Host) (errno : Nat) (string : Bytes) (v : Nat) : Prop :=
  parseUlong h errno string none = .ok ⟨true, v, none⟩

instance (h : Host) (errno : Nat) (string : Bytes) (v : Nat) :
    Decidable (UlongReturns h errno string v) :=
  inferInstanceAs (Decidable (_ = _))

/-- `parse_ulong` either accepts and leaves the slot alone, or reports once; both ways it stores
what `strtoul` read. -/
lemma parseUlong_cases (h : Host) (errno : Nat) (string : Bytes) :
    (∀ error, parseUlong h errno string error =
        .ok ⟨true, (strtoul h errno string).value, error⟩) ∨
      ∃ text, ∀ error, parseUlong h errno string error =
        (errorSet error text).map (fun e => ⟨false, (strtoul h errno string).value, e⟩) := by
  unfold parseUlong
  simp only
  split
  · exact Or.inr ⟨_, fun _ => rfl⟩
  · split
    · exact Or.inr ⟨_, fun _ => rfl⟩
    · split
      · exact Or.inr ⟨_, fun _ => rfl⟩
      · split
        · exact Or.inr ⟨_, fun _ => rfl⟩
        · exact Or.inl fun _ => rfl

lemma UlongReturns.value {h : Host} {errno : Nat} {string : Bytes} {v : Nat}
    (hv : UlongReturns h errno string v) : v = (strtoul h errno string).value := by
  rcases parseUlong_cases h errno string with hok | ⟨text, hfail⟩
  · have := hv.symm.trans (hok none)
    simpa using this
  · have := hv.symm.trans (hfail none)
    simp [Except.map] at this

/-! ## Addresses -/

/-- `addr_t`.  `sa` is the memory of the union, `humanrepr` the text it holds. -/
structure Addr where
  sa : Bytes
  fa : Family
  saSize : Nat
  netmask : Nat
  humanrepr : Bytes
deriving DecidableEq, Repr

/-- `STR_SIZE(addr->humanrepr)`, that is `INET6_ADDRSTRLEN + 1`. -/
def humanreprSize : Nat := 47

/-- `m[j] = w`. -/
def setWord (m : List Word) (j : Nat) (w : Word) : Except Fault (List Word) :=
  if j < m.length then .ok (m.set j w) else .error .outOfBounds

/-- `m[j]`. -/
def getWord (m : List Word) (j : Nat) : Except Fault Word :=
  match m[j]? with
  | some w => .ok w
  | none => .error .outOfBounds

/-- `for (b = addr->netmask; b >= 32; b -= 32) m[j++] = 0xFFFFFFFF;`, at most `fuel` rounds. -/
def fillWords : Nat → List Word → Nat → Nat → Except Fault (List Word × Nat × Nat)
  | 0, m, j, b => .ok (m, j, b)
  | fuel + 1, m, j, b =>
      if 32 ≤ b then do
        let m ← setWord m j 0xFFFFFFFF
        fillWords fuel m (j + 1) (b - 32)
      else .ok (m, j, b)

/-- `for (i = 31; i > 31 - b; --i) m[j] |= (1 << i);`, with `left` rounds to go at `i`. -/
def fillBits (j : Nat) : Nat → Nat → List Word → Except Fault (List Word)
  | 0, _, m => .ok m
  | left + 1, i, m => do
      let w ← getWord m j
      let m ← setWord m j (w ||| (1#32 <<< i))
      fillBits j left (i - 1) m

/-- The words of `mask`, as `parse_addr` fills them. -/
def netmaskWords (h : Host) (netmask : Nat) : Except Fault (List Word) := do
  -- a byte of netmask takes fewer rounds than its value
  let (m, j, b) ← fillWords netmask (List.replicate 4 0) 0 netmask
  let m ← fillBits j b 31 m
  if b ≠ 0 then
    let w ← getWord m j
    setWord m j (htonl h w)
  else .ok m

/-- The end of `parse_addr`: clear the unused bits, then copy the text. -/
def finishAddr (h : Host) (buffer : Bytes) (f : Family) (bytes : Bytes) (netmask : Nat)
    (error : Slot) : Except Fault (Option Addr × Slot) := do
  -- `inet_pton` wrote the first bytes of a union that `bzero` had cleared
  let sa := bytes ++ List.replicate (16 - bytes.length) 0
  let m ← netmaskWords h netmask
  let sa := andWords h sa m
  let copied := strlcpy buffer humanreprSize
  if humanreprSize ≤ copied.2 then
    let error ← errorSet error (str "buffer overflow")
    return (none, error)
  else
    return (some ⟨sa, f, f.size, netmask, copied.1⟩, error)

/-- `parse_addr`, entered with `errno`.  The result is `none` where the source returns false. -/
def parseAddr (h : Host) (L : LibC) (errno : Nat) (string : Bytes) (error : Slot) :
    Except Fault (Option Addr × Slot) :=
  let fail (error : Slot) (text : Bytes) : Except Fault (Option Addr × Slot) := do
    let error ← errorSet error text
    return (none, error)
  match strchr string (chr '/') with
  | some p => do
      let buffer := string.take p
      -- the verdict `r.ok` is not read
      let r ← parseUlong h errno (string.drop (p + 1)) error
      match L.getaddrinfo true buffer with
      | .error ret => fail r.error (str "getaddrinfo failed: " ++ L.gaiStrerror ret)
      | .ok (res, _) =>
        if res.aiFamily = .inet ∧ 32 < r.val then
          fail r.error (str "prefix too long for AF_INET")
        else if res.aiFamily = .inet6 ∧ 128 < r.val then
          fail r.error (str "prefix too long for AF_INET6")
        else
          match inetPton res.aiFamily buffer with
          -- `addr->netmask` is a `uint8_t`
          | some bytes => finishAddr h buffer res.aiFamily bytes (r.val % 256) r.error
          | none => fail r.error (str "valid address expected, got: " ++ buffer)
  | none =>
      match inetPton .inet string with
      | some bytes => finishAddr h string .inet bytes 32 error
      | none =>
        match inetPton .inet6 string with
        | some bytes => finishAddr h string .inet6 bytes 64 error
        | none => fail error (str "valid address expected, got: " ++ string)

/-! ## The mask -/

/-- The words after the first loop: `j` full words, then zeros. -/
def fullWords (j : Nat) : List Word := List.replicate j 0xFFFFFFFF ++ List.replicate (4 - j) 0

lemma fullWords_length {j : Nat} (hj : j ≤ 4) : (fullWords j).length = 4 := by
  simp [fullWords]
  omega

lemma fullWords_set {j : Nat} (hj : j < 4) (w : Word) :
    (fullWords j).set j w = List.replicate j 0xFFFFFFFF ++ w :: List.replicate (3 - j) 0 := by
  simp [fullWords, show 4 - j = 3 - j + 1 by omega, List.replicate_succ]

lemma setWord_fullWords {j : Nat} (hj : j < 4) :
    setWord (fullWords j) j 0xFFFFFFFF = .ok (fullWords (j + 1)) := by
  have hlen : j < (fullWords j).length := by
    rw [fullWords_length (by omega)]
    exact hj
  rw [setWord, if_pos hlen, fullWords_set hj]
  simp [fullWords, List.replicate_succ', show 4 - (j + 1) = 3 - j by omega]

/-- The first loop leaves `netmask / 32` full words and `b = netmask % 32`. -/
lemma fillWords_spec (fuel j b : Nat) (hfuel : b ≤ fuel) (hj : j + b / 32 ≤ 4) :
    fillWords fuel (fullWords j) j b = .ok (fullWords (j + b / 32), j + b / 32, b % 32) := by
  induction fuel generalizing j b with
  | zero =>
    have hb : b = 0 := by omega
    simp [fillWords, hb]
  | succ fuel ih =>
    by_cases hb : 32 ≤ b
    · have hstep := ih (j + 1) (b - 32) (by omega) (by omega)
      have hdiv : j + 1 + (b - 32) / 32 = j + b / 32 := by omega
      have hmod : (b - 32) % 32 = b % 32 := by omega
      rw [hdiv, hmod] at hstep
      simp only [fillWords, if_pos hb, setWord_fullWords (show j < 4 by omega)]
      exact hstep
    · have hdiv : b / 32 = 0 := by omega
      have hmod : b % 32 = b := by omega
      simp [fillWords, hb, hdiv, hmod]

/-- One word after the second loop. -/
def highBits : Nat → Nat → Word → Word
  | 0, _, w => w
  | left + 1, i, w => highBits left (i - 1) (w ||| (1#32 <<< i))

lemma fillBits_spec {j left i : Nat} {m : List Word} {w : Word} (hw : m[j]? = some w) :
    fillBits j left i m = .ok (m.set j (highBits left i w)) := by
  induction left generalizing i m w with
  | zero =>
    rcases List.getElem?_eq_some_iff.1 hw with ⟨hj, rfl⟩
    simp [fillBits, highBits]
  | succ left ih =>
    rcases List.getElem?_eq_some_iff.1 hw with ⟨hj, -⟩
    have hset : (m.set j (w ||| (1#32 <<< i)))[j]? = some (w ||| (1#32 <<< i)) := by
      simp [hj]
    have hrest := ih (i := i - 1) hset
    rw [List.set_set] at hrest
    simp only [fillBits, getWord, hw, setWord, if_pos hj, highBits]
    exact hrest

/-- Started at the top bit, the second loop sets the `left` most significant bits. -/
lemma getLsbD_highBits {left i : Nat} (hi : i < 32) (hleft : left ≤ i + 1) (w : Word) (k : Nat) :
    (highBits left i w).getLsbD k = (w.getLsbD k || decide (k ≤ i ∧ i < k + left)) := by
  induction left generalizing i w with
  | zero =>
    have hnone : decide (k ≤ i ∧ i < k + 0) = false := by
      simp
    rw [hnone, Bool.or_false, highBits]
  | succ left ih =>
    have hbit : (1#32 <<< i).getLsbD k = decide (k = i) := by
      by_cases hk : k = i
      · simp [hk, hi]
      · rcases Nat.lt_or_gt_of_ne hk with hlt | hgt
        · simp [hlt, hk]
        · simp [hk]
          intro _ _
          omega
    -- the last round leaves `i - 1` unused, so it may start at bit 0
    cases left with
    | zero =>
      simp only [highBits, BitVec.getLsbD_or, hbit]
      congr 1
      simp only [decide_eq_decide]
      omega
    | succ left =>
      rw [highBits, ih (by omega) (by omega), BitVec.getLsbD_or, hbit, Bool.or_assoc]
      congr 1
      rw [← Bool.decide_or, decide_eq_decide]
      omega

lemma getMsbD_highBits {b i : Nat} (hb : b ≤ 32) (hi : i < 32) :
    (highBits b 31 0).getMsbD i = decide (i < b) := by
  rw [BitVec.getMsbD, getLsbD_highBits (by decide) (by omega)]
  simp [hi]
  omega

/-- The mask `parse_addr` builds: `netmask / 32` full words, one partial word, zeros. -/
lemma netmaskWords_eq (h : Host) {n : Nat} (hn : n ≤ 128) :
    netmaskWords h n = .ok (if n % 32 = 0 then fullWords (n / 32)
      else List.replicate (n / 32) 0xFFFFFFFF ++
        htonl h (highBits (n % 32) 31 0) :: List.replicate (3 - n / 32) 0) := by
  have hfill := fillWords_spec n 0 n (Nat.le_refl _) (by omega)
  simp only [Nat.zero_add] at hfill
  have hinit : List.replicate 4 (0 : Word) = fullWords 0 := rfl
  unfold netmaskWords
  rw [hinit, hfill]
  by_cases hb : n % 32 = 0
  · simp [hb, fillBits, bind, Except.bind]
  · -- a partial word is never the fifth one
    have hj : n / 32 < 4 := by omega
    have hget : (fullWords (n / 32))[n / 32]? = some 0 := by
      rw [fullWords, List.getElem?_append_right (by simp), List.getElem?_replicate]
      simp
      omega
    simp [bind, Except.bind, fillBits_spec hget, hb, getWord, setWord, fullWords_set hj]

lemma flatMap_store_replicate (h : Host) {w : Word} {b : Byte}
    (hw : store h w = List.replicate 4 b) (j : Nat) :
    (List.replicate j w).flatMap (store h) = List.replicate (4 * j) b := by
  induction j with
  | zero => rfl
  | succ j ih =>
    rw [List.replicate_succ, List.flatMap_cons, ih, hw, List.replicate_append_replicate,
      Nat.mul_add, Nat.add_comm]

/-- The memory image of the mask. -/
def netmaskBytes (n : Nat) : Bytes :=
  List.replicate (4 * (n / 32)) 0xff ++
    (if n % 32 = 0 then List.replicate (4 * (4 - n / 32)) 0
      else bytesBE (highBits (n % 32) 31 0) ++ List.replicate (4 * (3 - n / 32)) 0)

lemma netmaskBytes_length {n : Nat} (hn : n ≤ 128) : (netmaskBytes n).length = 16 := by
  unfold netmaskBytes
  split
  · simp
    omega
  · simp [bytesBE]
    omega

/-- The mask sets the first `n` bits and no other. -/
lemma bitAt_netmaskBytes {n i : Nat} : bitAt (netmaskBytes n) i = decide (i < n) := by
  unfold netmaskBytes
  -- bit `i` lies in the full words, in the partial word or in the zeros after them
  by_cases hfull : i < 32 * (n / 32)
  · rw [bitAt_append_left (by simp; omega), bitAt_replicate_ones (by omega)]
    simp
    omega
  · rw [bitAt_append_right (by simp; omega)]
    simp only [List.length_replicate]
    split
    · rw [bitAt_replicate_zero]
      simp
      omega
    · rename_i hb
      by_cases hpart : i - 8 * (4 * (n / 32)) < 32
      · rw [bitAt_append_left (by simp [bytesBE]; omega), bitAt_bytesBE _ hpart,
          getMsbD_highBits (by omega) hpart, decide_eq_decide]
        omega
      · rw [bitAt_append_right (by simp [bytesBE]; omega), bitAt_replicate_zero]
        simp
        omega

/-- On either byte order the mask lies in memory as `netmaskBytes`, and no word past the fourth is
written on the way. -/
theorem netmaskWords_image (h : Host) {n : Nat} (hn : n ≤ 128) :
    ∃ m, netmaskWords h n = .ok m ∧ m.length = 4 ∧ m.flatMap (store h) = netmaskBytes n := by
  refine ⟨_, netmaskWords_eq h hn, ?_, ?_⟩
  · split
    · exact fullWords_length (by omega)
    · simp
      omega
  · unfold netmaskBytes
    have hones := flatMap_store_replicate h (store_allOnes h)
    have hzero := flatMap_store_replicate h (store_zero h)
    split
    · rw [fullWords, List.flatMap_append, hones, hzero]
    · rw [List.flatMap_append, List.flatMap_cons, hones, hzero, store_htonl]

/-! ## The result of the two branches -/

/-- The address of an accepted message, masked. -/
def maskedAddr (bytes : Bytes) (netmask : Nat) : Bytes :=
  List.zipWith (· &&& ·) (bytes ++ List.replicate (16 - bytes.length) 0) (netmaskBytes netmask)

/-- The two blocks that are masked have the size of the union. -/
lemma padded_length {bytes : Bytes} {n : Nat} (hlen : bytes.length ≤ 16) (hn : n ≤ 128) :
    (bytes ++ List.replicate (16 - bytes.length) (0 : Byte)).length = (netmaskBytes n).length := by
  rw [netmaskBytes_length hn]
  simp
  omega

lemma maskedAddr_length {bytes : Bytes} {n : Nat} (hlen : bytes.length ≤ 16) (hn : n ≤ 128) :
    (maskedAddr bytes n).length = 16 := by
  rw [maskedAddr, List.length_zipWith, padded_length hlen hn, netmaskBytes_length hn, Nat.min_self]

/-- The masked address has the first `netmask` bits of the address and no other. -/
lemma bitAt_maskedAddr {bytes : Bytes} {n : Nat} (hlen : bytes.length ≤ 16)
    (hn : n ≤ 8 * bytes.length) (i : Nat) :
    bitAt (maskedAddr bytes n) i = (decide (i < n) && bitAt bytes i) := by
  rw [maskedAddr, bitAt_and (padded_length hlen (by omega)), bitAt_netmaskBytes, Bool.and_comm]
  by_cases hi : i < n
  · rw [bitAt_append_left (by omega)]
  · simp [hi]

/-- The end of `parse_addr` succeeds on every text `inet_pton` accepts, and leaves the slot. -/
lemma finishAddr_eq (h : Host) {buffer bytes : Bytes} {f : Family} {n : Nat}
    (hpton : inetPton f buffer = some bytes) (hn : n ≤ 128) (error : Slot) :
    finishAddr h buffer f bytes n error =
      .ok (some ⟨maskedAddr bytes n, f, f.size, n, buffer⟩, error) := by
  rcases inetPton_length hpton with ⟨hlen, hbytes⟩
  rcases netmaskWords_image h hn with ⟨m, hm, hm4, himage⟩
  have hsize : f.size ≤ 16 := by cases f <;> simp [Family.size]
  have hpad : (bytes ++ List.replicate (16 - bytes.length) (0 : Byte)).length = 4 * m.length := by
    simp
    omega
  have hfits : ¬ humanreprSize ≤ buffer.length := by
    simp only [humanreprSize]
    omega
  have htake : buffer.take (humanreprSize - 1) = buffer := by
    refine List.take_of_length_le ?_
    simp only [humanreprSize]
    omega
  simp only [finishAddr, hm, bind, Except.bind, andWords_eq h m hpad, himage, strlcpy,
    if_neg hfits, htake]
  rfl

end Banip
