import Banip.Engine
import Banip.Engine.Npf

/-!
# Coverage — whether an engine bans the address of the message

A message without a `/` names one address.  `parse_addr` gives it a default prefix, masks the address
with it and keeps the text; each engine then uses other fields of the `addr_t`.  PF takes the network,
which holds the address.  NPF takes the masked address as it is and no prefix, so an IPv6 address
loses its last 64 bits.  `ipset` takes the text.
-/

namespace Banip

open Lib

/-- The engines that add an entry to a firewall. -/
inductive Firewall where
  | pf
  | npf
  | ipset
deriving DecidableEq, Repr

/-- `run_command` hands the command line to the shell. -/
def ReachesShell (command : Bytes) : Prop := ∀ system, runCommand system command = system command

/-- The entry that an engine asks for matches the address `x` of family `f`. -/
def Bans (h : Host) (L : LibC) (tablename : Bytes) (a : Addr) (f : Family) (x : Bytes) :
    Firewall → Prop
  | .pf => ∀ ioctl, ∃ table entry,
      .addAddrs table entry ∈ (Pf.pfHandle h L ioctl tablename a).ioctls ∧
        entry.pfraAf = f ∧ Pf.Covers entry x
  | .npf => ∀ named ioctl, Npf.Matches (Npf.npfHandle h named L ioctl tablename a).entry x
  | .ipset => ∃ text, inetPton f text = some x ∧
      ipsetCommand tablename a.fa a.humanrepr =
        str "ipset -! -A " ++ familySet tablename f ++ str " " ++ text ∧
      ReachesShell (ipsetCommand tablename a.fa a.humanrepr)

/-- When it does, for the address `x` of family `f` with the text `s`. -/
def BanHolds (tablename s : Bytes) (f : Family) (x : Bytes) : Firewall → Prop
  | .pf => True
  | .npf => f = .inet6 → x.drop 8 = List.replicate 8 0
  | .ipset => (ipsetCommand tablename f s).length < commandSize

lemma reachesShell_iff (command : Bytes) : ReachesShell command ↔ command.length < commandSize := by
  unfold ReachesShell runCommand
  constructor
  · intro h
    by_contra hlong
    have hone := h (fun _ => 1)
    rw [if_pos (by omega)] at hone
    cases hone
  · intro hfits system
    rw [if_neg (by omega)]

/-- The first request of `pf_handle` is the table entry, whatever fails. -/
lemma addAddrs_mem_pfHandle (h : Host) (L : LibC) (ioctl : Nat → Option Nat) (tablename : Bytes)
    (a : Addr) :
    .addAddrs (strlcpy tablename Pf.tableNameSize).1 ⟨a.fa, a.netmask, a.sa⟩ ∈
      (Pf.pfHandle h L ioctl tablename a).ioctls := by
  unfold Pf.pfHandle
  cases ioctl 0 with
  | some errno => exact List.mem_cons_self
  | none =>
    cases L.getaddrinfo false a.humanrepr with
    | error ret => exact List.mem_cons_self
    | ok found => exact List.mem_cons_self

/-- An address under a prefix of whole bytes is itself when the bytes behind the prefix are zero. -/
lemma eq_maskedAddr_iff {x : Bytes} {n : Nat} (hx : x.length = 16) (hn : n ≤ 16) :
    x = maskedAddr x (8 * n) ↔ x.drop n = List.replicate (16 - n) 0 := by
  have hmask : ∀ i, bitAt (maskedAddr x (8 * n)) i = (decide (i < 8 * n) && bitAt x i) :=
    bitAt_maskedAddr hx.le (by omega)
  have htake : (x.take n).length = n := by simp [hx, hn]
  have hdrop : ∀ i, bitAt x (8 * n + i) = bitAt (x.drop n) i := by
    intro i
    conv_lhs => rw [← List.take_append_drop n x]
    rw [bitAt_append_right (by omega), htake, Nat.add_sub_cancel_left]
  -- bit by bit: the mask keeps the first `8 * n` bits and clears the rest
  constructor
  · intro heq
    refine eq_of_bitAt (by simp [hx]) ?_
    intro i _
    have hbehind : ¬ 8 * n + i < 8 * n := by omega
    rw [← hdrop, heq, hmask, bitAt_replicate_zero]
    simp [hbehind]
  · intro hzero
    refine eq_of_bitAt (by rw [hx, maskedAddr_length hx.le (by omega)]) ?_
    intro i _
    rw [hmask]
    by_cases hi : i < 8 * n
    · simp [hi]
    · have hbit := hdrop (i - 8 * n)
      rw [show 8 * n + (i - 8 * n) = i by omega, hzero, bitAt_replicate_zero] at hbit
      simp [hi, hbit]

/-- A prefix over all of the address keeps it. -/
lemma take_maskedAddr {x : Bytes} (hx : x.length ≤ 16) :
    (maskedAddr x (8 * x.length)).take x.length = x := by
  have hlen : (maskedAddr x (8 * x.length)).length = 16 := maskedAddr_length hx (by omega)
  refine eq_of_bitAt (by simp [hlen, hx]) ?_
  intro i hi
  have hi' : i < 8 * x.length := by simpa [hlen, hx] using hi
  rw [Pf.bitAt_take hi', bitAt_maskedAddr hx (Nat.le_refl _)]
  simp [hi']

section

variable (h : Host) (L : LibC) (tablename : Bytes) {s x : Bytes} {f : Family}

/-- PF bans the network of the address, so the address as well. -/
lemma bans_pf (hpton : inetPton f s = some x) :
    Bans h L tablename (addrOf s f x (defaultPrefix f)) f x .pf := by
  rcases inetPton_length hpton with ⟨-, hx⟩
  intro ioctl
  refine ⟨_, _, addAddrs_mem_pfHandle h L ioctl tablename _, rfl, ?_⟩
  have hstarts : defaultPrefix f ≤ 8 * x.length ∧ x.length ≤ 16 := by
    cases f <;> simp [defaultPrefix, hx, Family.size]
  exact (Pf.samePrefix_maskedAddr hstarts.1 hstarts.2).2 (fun _ _ => rfl)

lemma bans_npf_iff (hpton : inetPton f s = some x) :
    Bans h L tablename (addrOf s f x (defaultPrefix f)) f x .npf ↔
      (f = .inet6 → x.drop 8 = List.replicate 8 0) := by
  rcases inetPton_length hpton with ⟨-, hx⟩
  have hentry : Bans h L tablename (addrOf s f x (defaultPrefix f)) f x .npf ↔
      x = (maskedAddr x (defaultPrefix f)).take f.size := by
    have hsa : f.size ≤ (maskedAddr x (defaultPrefix f)).length := by
      rw [maskedAddr_length] <;> cases f <;> simp [defaultPrefix, hx, Family.size]
    constructor
    · intro hbans
      exact (Npf.matches_npfHandle hsa).1 (hbans true none)
    · intro heq named ioctl
      exact (Npf.matches_npfHandle hsa).2 heq
  rw [hentry]
  cases f with
  | inet =>
    -- the default prefix of an IPv4 address is all of it
    have h4 : x.length = 4 := hx
    simp only [reduceCtorEq, false_implies, iff_true]
    have hkept : (maskedAddr x (8 * x.length)).take x.length = x := take_maskedAddr (by omega)
    rw [h4] at hkept
    exact hkept.symm
  | inet6 =>
    -- that of an IPv6 address is one half, and the entry is the masked address
    have h16 : x.length = 16 := hx
    have hall : (maskedAddr x 64).take 16 = maskedAddr x 64 :=
      List.take_of_length_le (by rw [maskedAddr_length h16.le (by decide)])
    simp only [defaultPrefix, Family.size, hall, forall_const]
    exact eq_maskedAddr_iff (n := 8) h16 (by decide)
  | other n => cases hpton

lemma bans_ipset_iff (hpton : inetPton f s = some x) :
    Bans h L tablename (addrOf s f x (defaultPrefix f)) f x .ipset ↔
      (ipsetCommand tablename f s).length < commandSize := by
  rw [← reachesShell_iff]
  constructor
  · rintro ⟨text, -, -, hreach⟩
    exact hreach
  · intro hreach
    refine ⟨s, hpton, ?_, hreach⟩
    simp only [ipsetCommand, familySet, addrOf, List.append_assoc]
    rfl

end

/-- Every accepted message without a `/` is an address, and each engine bans it exactly under its own
condition. -/
theorem bans_iff {h : Host} {L : LibC} {errno : Nat} {s : Bytes} {error e : Slot} {a : Addr}
    (hplain : strchr s (chr '/') = none) (ha : parseAddr h L errno s error = .ok (some a, e)) :
    ∃ x, inetPton a.fa s = some x ∧ ∀ tablename engine,
      Bans h L tablename a a.fa x engine ↔ BanHolds tablename s a.fa x engine := by
  rcases parseAddr_plain h L errno hplain with ⟨f, x, hpton, hok⟩ | ⟨-, text, -, hfail⟩
  · rw [hok] at ha
    cases ha
    refine ⟨x, hpton, ?_⟩
    intro tablename engine
    cases engine with
    | pf => exact iff_of_true (bans_pf h L tablename hpton) trivial
    | npf => exact bans_npf_iff h L tablename hpton
    | ipset => exact bans_ipset_iff h L tablename hpton
  · rw [hfail] at ha
    cases error <;> cases ha

/-- `2001:db8::` is banned by all three engines. -/
theorem bans_iff_network :
    ∃ a e x, parseAddr Host.lp64 LibC.numeric 0 (str "2001:db8::") none = .ok (some a, e) ∧
      inetPton a.fa (str "2001:db8::") = some x ∧
      ∀ engine, Bans Host.lp64 LibC.numeric (str "bad") a a.fa x engine := by
  have hparse : parseAddr Host.lp64 LibC.numeric 0 (str "2001:db8::") none =
      .ok (some ⟨[32, 1, 13, 184] ++ List.replicate 12 0, .inet6, 16, 64, str "2001:db8::"⟩,
        none) := by
    decide
  rcases bans_iff (by decide) hparse with ⟨x, hpton, hiff⟩
  refine ⟨_, _, x, hparse, hpton, ?_⟩
  have hx : some ([32, 1, 13, 184] ++ List.replicate 12 0) = some x := hpton
  cases hx
  intro engine
  rw [hiff]
  cases engine with
  | pf => trivial
  | npf => exact fun _ => rfl
  | ipset => exact (show (ipsetCommand (str "bad") .inet6 (str "2001:db8::")).length < 4096 by decide)

/-- `2001:db8::1` is accepted, and the entry `npf_handle` adds is for `2001:db8::`. -/
theorem npf_misses_address :
    ∃ a e, parseAddr Host.lp64 LibC.numeric 0 (str "2001:db8::1") none = .ok (some a, e) ∧
      inetPton .inet6 (str "2001:db8::1") = some ([32, 1, 13, 184] ++ List.replicate 11 0 ++ [1]) ∧
      (Npf.npfHandle Host.lp64 true LibC.numeric none (str "bad") a).entry =
        ⟨16, [32, 1, 13, 184] ++ List.replicate 12 0, Npf.noNetmask⟩ ∧
      ¬ Bans Host.lp64 LibC.numeric (str "bad") a .inet6
        ([32, 1, 13, 184] ++ List.replicate 11 0 ++ [1]) .npf := by
  refine ⟨⟨[32, 1, 13, 184] ++ List.replicate 12 0, .inet6, 16, 64, str "2001:db8::1"⟩, none,
    by decide, by decide, rfl, ?_⟩
  intro hbans
  have hmatch := hbans true none
  rw [Npf.matches_npfHandle (by decide)] at hmatch
  revert hmatch
  decide

end Banip
