import Banip.Grammar

/-!
# Pf — the PF engine of `pf.c`

`pf_handle` adds the parsed network to a table (`DIOCRADDADDRS`) and then kills the states of that
network (`DIOCKILLSTATES`).  The two requests are built separately: the table entry copies the
masked address and the prefix of the `addr_t`, while the kill request takes the address from a
fresh `getaddrinfo` on the text of the message and computes a mask of its own, a truncated 64-bit
shift for IPv4 and a run of `0xff` bytes with one partial byte for IPv6.

The main result is that the two requests describe the same set of addresses.
-/

namespace Banip
namespace Pf

open Lib

/-! ## Requests -/

/-- `struct pfr_addr`, the entry of a table. -/
structure PfrAddr where
  pfraAf : Family
  pfraNet : Nat
  pfraIp6addr : Bytes
deriving DecidableEq, Repr

/-- `struct pfioc_state_kill`: the family, and address and mask of the source. -/
structure StateKill where
  pskAf : Family
  addr : Bytes
  mask : Bytes
deriving DecidableEq, Repr

/-- The `ioctl` calls on `/dev/pf`. -/
inductive Ioctl where
  | addAddrs (table : Bytes) (entry : PfrAddr)
  | killStates (psk : StateKill)
deriving DecidableEq, Repr

/-- What `pf_handle` did: the calls it made, its verdict and the error it reported. -/
structure Outcome where
  ioctls : List Ioctl
  ok : Bool
  error : Option Bytes
deriving DecidableEq, Repr

/-- `PF_TABLE_NAME_SIZE`. -/
def tableNameSize : Nat := 32

/-- `(u_int32_t) (0xffffffffffULL << (32 - netmask))`. -/
def shiftedMask (netmask : Nat) : Word := (0xffffffffff#64 <<< (32 - netmask)).setWidth 32

/-- `(0xff00 >> r) & 0xff`. -/
def partialByte (r : Nat) : Byte := (0xff00#32 >>> r).setWidth 8

/-- `psk.psk_src.addr.v.a.mask` once `pf_handle` has looked at the prefix. -/
def killMask (h : Host) (a : Addr) : Bytes :=
  let mask : Bytes := List.replicate 16 0xff
  if a.fa = .inet ∧ a.netmask < 32 then
    store h (htonl h (shiftedMask a.netmask)) ++ mask.drop 4
  else if a.fa = .inet6 ∧ a.netmask < 128 then
    let q := a.netmask / 8
    let r := a.netmask % 8
    let mask : Bytes := List.replicate q 0xff ++ (List.replicate 16 0).drop q
    if 0 < r then mask.set q (partialByte r) else mask
  else mask

/-- The walk over the list of `getaddrinfo`, from the `k`-th `ioctl` on; `ioctl k` is the `errno` of
the `k`-th call, if it fails. -/
def killLoop (L : LibC) (ioctl : Nat → Option Nat) :
    List AddrInfo → Bytes → StateKill → Nat → Outcome
  | [], _, _, _ => ⟨[], true, none⟩
  | resp :: rest, lastSrc, psk, k =>
      match resp.aiAddr with
      | none => killLoop L ioctl rest lastSrc psk k
      | some sa =>
        -- `memcmp` looks at `sizeof (struct sockaddr)` bytes, also of a longer address
        if lastSrc = sa.take sockaddrSize then
          killLoop L ioctl rest lastSrc psk k
        else
          let issue (psk : StateKill) : Outcome :=
            match ioctl k with
            | some errno =>
              ⟨[.killStates psk], false,
                some (systemError (str "ioctl(DIOCKILLSTATES) failed") (L.strerror errno))⟩
            | none =>
              let out := killLoop L ioctl rest (sa.take sockaddrSize) psk (k + 1)
              { out with ioctls := .killStates psk :: out.ioctls }
          match resp.aiFamily with
          | .inet => issue { psk with pskAf := .inet, addr := sockaddrAddr .inet sa ++ psk.addr.drop 4 }
          | .inet6 => issue { psk with pskAf := .inet6, addr := sockaddrAddr .inet6 sa }
          | .other n => ⟨[], false, some (str "unknown address family " ++ decimal n)⟩

/-- `pf_handle`. -/
def pfHandle (h : Host) (L : LibC) (ioctl : Nat → Option Nat) (tablename : Bytes) (a : Addr) :
    Outcome :=
  let add : Ioctl :=
    .addAddrs (strlcpy tablename tableNameSize).1 ⟨a.fa, a.netmask, a.sa⟩
  match ioctl 0 with
  | some errno =>
    ⟨[add], false, some (systemError (str "ioctl(DIOCRADDADDRS) failed") (L.strerror errno))⟩
  | none =>
    match L.getaddrinfo false a.humanrepr with
    | .error ret => ⟨[add], false, some (str "getaddrinfo failed: " ++ L.gaiStrerror ret)⟩
    | .ok (res, rest) =>
      let psk : StateKill := ⟨.other 0, List.replicate 16 0, killMask h a⟩
      let out := killLoop L ioctl (res :: rest) (List.replicate sockaddrSize 0xff) psk 1
      { out with ioctls := add :: out.ioctls }

/-! ## The kernel's reading of the requests -/

/-- The source address `x` of a state matches a kill request. -/
def Matches (psk : StateKill) (x : Bytes) : Prop :=
  List.zipWith (· &&& ·) x (psk.mask.take psk.pskAf.size) =
    List.zipWith (· &&& ·) (psk.addr.take psk.pskAf.size) (psk.mask.take psk.pskAf.size)

/-- The address `x` is covered by a table entry. -/
def Covers (entry : PfrAddr) (x : Bytes) : Prop := SamePrefix entry.pfraNet x entry.pfraIp6addr

instance (psk : StateKill) (x : Bytes) : Decidable (Matches psk x) :=
  inferInstanceAs (Decidable (_ = _))

/-! ## The kill mask -/

lemma getMsbD_shiftedMask {n i : Nat} (hn : n ≤ 32) (hi : i < 32) :
    (shiftedMask n).getMsbD i = decide (i < n) := by
  have hones : ∀ k < 40, (0xffffffffff#64).getLsbD k = true := by decide
  unfold shiftedMask
  rw [BitVec.getMsbD, BitVec.getLsbD_setWidth, BitVec.getLsbD_shiftLeft]
  -- the constant has 40 ones, so the 32 bits that survive the cast are ones down to the shift
  by_cases hin : i < n
  · simp only [hi, hin, decide_true, Bool.true_and, show 32 - 1 - i < 32 by omega,
      show 32 - 1 - i < 64 by omega, show ¬ 32 - 1 - i < 32 - n by omega, decide_false, Bool.not_false]
    exact hones _ (by omega)
  · simp [hin, show 31 - i < 32 - n by omega]

lemma getMsbD_partialByte : ∀ r < 8, ∀ j < 8, (partialByte r).getMsbD j = decide (j < r) := by
  decide

/-- A run of full bytes, one partial byte, zeros. -/
lemma bitAt_byteMask {q r i k : Nat} (hr : r < 8) :
    bitAt (List.replicate q 0xff ++ partialByte r :: List.replicate k 0) i =
      decide (i < 8 * q + r) := by
  by_cases hfull : i < 8 * q
  · rw [bitAt_append_left (by simpa using hfull), bitAt_replicate_ones hfull]
    simp
    omega
  · rw [bitAt_append_right (by simp; omega)]
    simp only [List.length_replicate]
    by_cases hpart : i - 8 * q < 8
    · have hdiv : (i - 8 * q) / 8 = 0 := by omega
      have hmod : (i - 8 * q) % 8 = i - 8 * q := by omega
      rw [bitAt, hdiv, hmod, List.getD_cons_zero, getMsbD_partialByte r hr _ hpart, decide_eq_decide]
      omega
    · have hcons : partialByte r :: List.replicate k 0 =
          [partialByte r] ++ List.replicate k 0 := rfl
      rw [hcons, bitAt_append_right (by simp; omega), bitAt_replicate_zero]
      simp
      omega

lemma bitAt_take {a : Bytes} {n i : Nat} (hi : i < 8 * n) : bitAt (a.take n) i = bitAt a i := by
  have : i / 8 < n := by omega
  simp [bitAt, List.getD_eq_getElem?_getD, this]

/-- For either family the mask of the kill request sets the first `netmask` bits of an address. -/
lemma bitAt_killMask (h : Host) {a : Addr} (hfa : a.fa = .inet ∨ a.fa = .inet6)
    (hn : a.netmask ≤ a.fa.maxPrefix) {i : Nat} (hi : i < 8 * a.fa.size) :
    bitAt (killMask h a) i = decide (i < a.netmask) := by
  rcases hfa with hfa | hfa
  · simp only [hfa, Family.maxPrefix, Family.size] at hn hi
    by_cases hlt : a.netmask < 32
    · simp only [killMask, hfa, hlt, and_self, if_true, store_htonl]
      rw [bitAt_append_left (by simpa [bytesBE] using hi), bitAt_bytesBE _ hi,
        getMsbD_shiftedMask (by omega) hi]
    · -- the mask stays the sixteen `0xff` it was initialised with
      have hn32 : a.netmask = 32 := by omega
      simp only [killMask, hfa, hlt, and_false, if_false, reduceCtorEq, false_and]
      rw [bitAt_replicate_ones (by omega)]
      simp
      omega
  · simp only [hfa, Family.maxPrefix, Family.size] at hn hi
    by_cases hlt : a.netmask < 128
    · simp only [killMask, hfa, hlt, and_self, if_true, reduceCtorEq, false_and, if_false]
      have hq : a.netmask / 8 < 16 := by omega
      have hdrop : (List.replicate 16 (0 : Byte)).drop (a.netmask / 8) =
          0 :: List.replicate (15 - a.netmask / 8) 0 := by
        rw [List.drop_replicate, show 16 - a.netmask / 8 = 15 - a.netmask / 8 + 1 by omega,
          List.replicate_succ]
      rw [hdrop]
      split
      · rw [List.set_append_right _ _ (by simp)]
        simp only [List.length_replicate, Nat.sub_self, List.set_cons_zero]
        rw [bitAt_byteMask (by omega), decide_eq_decide]
        omega
      · -- without a partial byte, the byte at `q` is the one for no bits
        have hzero : (0 : Byte) :: List.replicate (15 - a.netmask / 8) 0 =
            partialByte 0 :: List.replicate (15 - a.netmask / 8) 0 := rfl
        rw [hzero, bitAt_byteMask (by decide), decide_eq_decide]
        omega
    · have hn128 : a.netmask = 128 := by omega
      simp only [killMask, hfa, hlt, and_false, if_false, reduceCtorEq, false_and]
      rw [bitAt_replicate_ones (by omega)]
      simp
      omega

lemma killMask_length (h : Host) (a : Addr) : (killMask h a).length = 16 := by
  unfold killMask
  simp only
  split
  · simp [store_length]
  · split
    · split
      · simp
        omega
      · simp
        omega
    · simp

/-! ## The walk over the addresses -/

/-- Entries that repeat the last address are passed over. -/
lemma killLoop_repeats (L : LibC) (ioctl : Nat → Option Nat) {sa : Bytes} {psk : StateKill}
    {k : Nat} {infos : List AddrInfo} (hsame : ∀ e ∈ infos, e.aiAddr = some sa) :
    killLoop L ioctl infos (sa.take sockaddrSize) psk k = ⟨[], true, none⟩ := by
  induction infos with
  | nil => rfl
  | cons e infos ih =>
    have he : e.aiAddr = some sa := hsame e (by simp)
    have hrest := ih (fun e' he' => hsame e' (List.mem_cons_of_mem _ he'))
    simp only [killLoop, he, if_true]
    exact hrest

/-- The address part of a kill request for the family `f`. -/
def killAddr (f : Family) (sa : Bytes) : Bytes :=
  match f with
  | .inet => sockaddrAddr .inet sa ++ List.replicate 12 0
  | _ => sockaddrAddr f sa

/-- A list whose entries share one address gives exactly one kill request, whatever it returns. -/
lemma killLoop_single (L : LibC) (ioctl : Nat → Option Nat) {f : Family} (hf : f = .inet ∨ f = .inet6)
    {sa mask : Bytes} {res : AddrInfo} {rest : List AddrInfo} (k : Nat)
    (hsame : ∀ e ∈ res :: rest, e.aiFamily = f ∧ e.aiAddr = some sa)
    (hfresh : sa.take sockaddrSize ≠ List.replicate sockaddrSize 0xff) :
    killLoop L ioctl (res :: rest) (List.replicate sockaddrSize 0xff)
        ⟨.other 0, List.replicate 16 0, mask⟩ k =
      ⟨[.killStates ⟨f, killAddr f sa, mask⟩], (ioctl k).isNone,
        (ioctl k).map fun errno =>
          systemError (str "ioctl(DIOCKILLSTATES) failed") (L.strerror errno)⟩ := by
  rcases hsame res (by simp) with ⟨hfam, haddr⟩
  have hrepeat : ∀ psk k', killLoop L ioctl rest (sa.take sockaddrSize) psk k' = ⟨[], true, none⟩ :=
    fun psk k' => killLoop_repeats L _ (fun e he => (hsame e (List.mem_cons_of_mem _ he)).2)
  rcases hf with rfl | rfl
  · simp only [killLoop, haddr, if_neg (Ne.symm hfresh), hfam, hrepeat]
    cases ioctl k <;> simp [killAddr]
  · simp only [killLoop, haddr, if_neg (Ne.symm hfresh), hfam, hrepeat]
    cases ioctl k <;> simp [killAddr]

/-- Masking does not change the bits under the prefix. -/
lemma samePrefix_maskedAddr {bytes x : Bytes} {n : Nat} (hn : n ≤ 8 * bytes.length)
    (hlen : bytes.length ≤ 16) :
    SamePrefix n x (maskedAddr bytes n) ↔ SamePrefix n x bytes := by
  have hbit : ∀ i < n, bitAt (maskedAddr bytes n) i = bitAt bytes i := by
    intro i hi
    simp [bitAt_maskedAddr hlen hn, hi]
  constructor
  · intro h i hi
    rw [h i hi, hbit i hi]
  · intro h i hi
    rw [h i hi, hbit i hi]

/-- The kill request for an accepted address matches the addresses of its network: both come down to the
first `n` bits of the address as it was written. -/
lemma matches_killRequest (h : Host) {f : Family} (hf : f = .inet ∨ f = .inet6) {t sa bytes x : Bytes}
    {n : Nat} (hbytes : bytes.length = f.size) (hn : n ≤ f.maxPrefix) (hsa : sockaddrAddr f sa = bytes)
    (hx : x.length = f.size) :
    Matches ⟨f, killAddr f sa, killMask h (addrOf t f bytes n)⟩ x ↔
      Covers ⟨f, n, maskedAddr bytes n⟩ x := by
  have hsize : f.size ≤ 16 := by cases f <;> simp [Family.size]
  have haddr : (killAddr f sa).take f.size = bytes := by
    rcases hf with rfl | rfl
    · have h4 : bytes.length = 4 := hbytes
      simp [killAddr, hsa, Family.size, h4]
    · have h16 : bytes.length = 16 := hbytes
      simp only [killAddr, hsa, Family.size]
      exact List.take_of_length_le (Nat.le_of_eq h16)
  have hmask : ((killMask h (addrOf t f bytes n)).take f.size).length = f.size := by
    simp [killMask_length, hsize]
  have hiff : Matches ⟨f, killAddr f sa, killMask h (addrOf t f bytes n)⟩ x ↔
      SamePrefix n x bytes := by
    unfold Matches
    simp only [haddr]
    refine and_mask_eq_iff (by omega) (by omega) (by rw [hmask]; exact hn) ?_
    intro i hi
    rw [hmask] at hi
    rw [bitAt_take hi]
    exact bitAt_killMask h hf hn hi
  rw [hiff]
  exact (samePrefix_maskedAddr (by rw [hbytes]; exact hn) (by omega)).symm

/-- For every parsed message, and when no call fails, `pf_handle` adds the network of the `addr_t`
and then makes one kill request, which matches exactly the addresses of that network. -/
theorem pfHandle_kills_network {h : Host} {L : LibC} (hL : L.NumericLookup) {errno : Nat}
    {s : Bytes} {error e : Slot} {a : Addr} (ha : parseAddr h L errno s error = .ok (some a, e))
    (tablename : Bytes) :
    ∃ entry psk, entry = ⟨a.fa, a.netmask, a.sa⟩ ∧ psk.pskAf = a.fa ∧
      pfHandle h L (fun _ => none) tablename a =
        ⟨[.addAddrs (tablename.take (tableNameSize - 1)) entry, .killStates psk], true, none⟩ ∧
      ∀ x : Bytes, x.length = a.fa.size → (Matches psk x ↔ Covers entry x) := by
  rcases parseAddr_some ha with ⟨f, bytes, n, hpton, hn, rfl⟩
  rcases inetPton_length hpton with ⟨-, hbytes⟩
  rcases hL f _ bytes hpton with ⟨res, rest, sa, hgai, hsame, hsa, hfresh⟩
  have hf : f = .inet ∨ f = .inet6 := by
    cases f with
    | inet => exact Or.inl rfl
    | inet6 => exact Or.inr rfl
    | other n => cases hpton
  refine ⟨_, ⟨f, killAddr f sa, killMask h (addrOf (addressPart s) f bytes n)⟩, rfl, rfl, ?_, ?_⟩
  · simp only [pfHandle, addrOf, hgai]
    rw [killLoop_single L _ hf 1 hsame hfresh]
    rfl
  · intro x hx
    exact matches_killRequest h hf hbytes hn hsa hx

/-- The requests for `192.0.2.77/26`: the state of `192.0.2.100` goes, that of `192.0.2.130` stays. -/
theorem pfHandle_kills_slash26 : LibC.numeric.NumericLookup ∧
    ∃ a e psk, parseAddr Host.lp64 LibC.numeric 0 (str "192.0.2.77/26") none = .ok (some a, e) ∧
      .killStates psk ∈ (pfHandle Host.lp64 LibC.numeric (fun _ => none) (str "bad") a).ioctls ∧
      Matches psk [192, 0, 2, 100] ∧ ¬ Matches psk [192, 0, 2, 130] := by
  refine ⟨LibC.numeric_numericLookup, ?_⟩
  have hparse : parseAddr Host.lp64 LibC.numeric 0 (str "192.0.2.77/26") none =
      .ok (some ⟨[192, 0, 2, 64] ++ List.replicate 12 0, .inet, 4, 26, str "192.0.2.77"⟩, none) := by
    decide
  rcases pfHandle_kills_network LibC.numeric_numericLookup hparse (str "bad") with
    ⟨entry, psk, hentry, -, hrun, hiff⟩
  refine ⟨_, _, psk, hparse, ?_, ?_, ?_⟩
  · rw [hrun]
    exact List.mem_cons_of_mem _ (List.mem_singleton.2 rfl)
  · rw [hiff _ rfl, hentry]
    unfold Covers SamePrefix
    decide
  · rw [hiff _ rfl, hentry]
    unfold Covers SamePrefix
    decide

end Pf
end Banip
