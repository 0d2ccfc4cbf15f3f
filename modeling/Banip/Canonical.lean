import Banip.Grammar

/-!
# Canonical — the form of a parsed address

Whatever `parse_addr` accepts, the `addr_t` it fills in has one form: the family and the size of the
address agree, the prefix is within the family, and the sixteen bytes of the union are the address
as `inet_pton` read it with every bit behind the prefix cleared.  The form does not depend on the
byte order of the host, and no run of the function leaves the array of mask words.
-/

namespace Banip

open Lib

/-- The `addr_t` of the message `s`, whose address part is `bytes` for `inet_pton`.  `bits` covers the
whole union: for `AF_INET` all bits from 32 on are behind the prefix. -/
structure Canonical (h : Host) (errno : Nat) (s : Bytes) (a : Addr) (bytes : Bytes) : Prop where
  address : inetPton a.fa (addressPart s) = some bytes
  family : a.fa = .inet ∧ a.saSize = 4 ∨ a.fa = .inet6 ∧ a.saSize = 16
  netmask_le : a.netmask ≤ 8 * a.saSize
  netmask_eq : ∀ p, strchr s (chr '/') = some p →
    a.netmask = (strtoul h errno (s.drop (p + 1))).value
  size : a.sa.length = 16
  bits : ∀ i < 128, bitAt a.sa i = (decide (i < a.netmask) && bitAt bytes i)

section

variable {h : Host} {L : LibC} {errno : Nat} {s : Bytes} {error : Slot}

/-! ## Faults -/

lemma errorSet_ne_outOfBounds {α : Type} (e : Slot) (text : Bytes) (f : Slot → α) :
    (errorSet e text).map f ≠ .error .outOfBounds := by
  cases e <;> simp [Except.map]

lemma parseUlong_ne_outOfBounds (string : Bytes) :
    parseUlong h errno string error ≠ .error .outOfBounds := by
  rcases parseUlong_cases h errno string with hok | ⟨text, hfail⟩
  · simp [hok error]
  · rw [hfail error]
    exact errorSet_ne_outOfBounds error text _

/-- The mask words are never indexed outside the array, whatever the message. -/
lemma parseAddr_ne_outOfBounds : parseAddr h L errno s error ≠ .error .outOfBounds := by
  cases hp : strchr s (chr '/') with
  | none =>
    rcases parseAddr_plain h L errno hp with ⟨f, bytes, -, hok⟩ | ⟨-, text, -, hfail⟩
    · simp [hok error]
    · rw [hfail error]
      exact errorSet_ne_outOfBounds error text _
  | some p =>
    cases hr : parseUlong h errno (s.drop (p + 1)) error with
    | error fault =>
      -- `parse_ulong` met a slot that was filled before, and the fault is an invalid free
      have hfault : parseAddr h L errno s error = .error fault := by
        simp only [parseAddr, hp, hr]
        rfl
      have hne : parseUlong h errno (s.drop (p + 1)) error ≠ .error .outOfBounds :=
        parseUlong_ne_outOfBounds _
      rw [hr] at hne
      rw [hfault]
      intro heq
      cases heq
      exact hne rfl
    | ok r =>
      rcases parseAddr_slash h L errno hp hr with ⟨f, bytes, -, hok⟩ | ⟨-, text, -, hfail⟩
      · simp [hok]
      · rw [hfail]
        exact errorSet_ne_outOfBounds r.error text _

/-! ## Byte order -/

/-- The same host with the given byte order. -/
def withEndian (h : Host) (big : Bool) : Host := { h with bigEndian := big }

/-- `strtoul` and `parse_ulong` depend on the width of a `long` only. -/
lemma strtoul_withEndian (big : Bool) (string : Bytes) :
    strtoul (withEndian h big) errno string = strtoul h errno string := by
  have hmax : (withEndian h big).ulongMax = h.ulongMax := rfl
  have hbits : (withEndian h big).longBits = h.longBits := rfl
  unfold strtoul
  simp only [hmax, hbits]

lemma parseUlong_withEndian (big : Bool) (string : Bytes) :
    parseUlong (withEndian h big) errno string error = parseUlong h errno string error := by
  have hmax : (withEndian h big).ulongMax = h.ulongMax := rfl
  unfold parseUlong
  simp only [strtoul_withEndian, hmax]

lemma finishAddr_withEndian {buffer bytes : Bytes} {f : Family} {n : Nat} (big : Bool)
    (hpton : inetPton f buffer = some bytes) (hn : n ≤ 128) :
    finishAddr (withEndian h big) buffer f bytes n error = finishAddr h buffer f bytes n error := by
  rw [finishAddr_eq _ hpton hn, finishAddr_eq _ hpton hn]

/-- Both branches see the byte order only in the mask, whose memory image does not depend on it. -/
lemma parseAddr_withEndian (big : Bool) :
    parseAddr (withEndian h big) L errno s error = parseAddr h L errno s error := by
  unfold parseAddr
  cases hp : strchr s (chr '/') with
  | none =>
    cases h4 : inetPton .inet s with
    | some bytes => simp only [finishAddr_withEndian big h4 (show 32 ≤ 128 by decide)]
    | none =>
      cases h6 : inetPton .inet6 s with
      | some bytes => simp only [finishAddr_withEndian big h6 (show 64 ≤ 128 by decide)]
      | none => rfl
  | some p =>
    simp only [parseUlong_withEndian]
    cases parseUlong h errno (s.drop (p + 1)) error with
    | error fault => simp only [bind, Except.bind]
    | ok r =>
      simp only [ok_bind]
      cases L.getaddrinfo true (s.take p) with
      | error ret => rfl
      | ok found =>
        rcases found with ⟨res, rest⟩
        simp only
        split
        · rfl
        · split
          · rfl
          · -- the range checks keep the mask inside its four words on either host
            rename_i hlong4 hlong6
            cases hpton : inetPton res.aiFamily (s.take p) with
            | none => rfl
            | some bytes =>
              have hle := (le_maxPrefix_of_checks hlong4 hlong6 hpton).trans (maxPrefix_le _)
              exact finishAddr_withEndian big hpton ((Nat.mod_le _ _).trans hle)

/-! ## The form -/

/-- The prefix of an accepted message is the number `strtoul` read behind the `/`. -/
lemma netmask_of_slash {a : Addr} {e : Slot} {p : Nat} (hp : strchr s (chr '/') = some p)
    (ha : parseAddr h L errno s error = .ok (some a, e)) :
    a.netmask = (strtoul h errno (s.drop (p + 1))).value := by
  have hval : ∀ r, parseUlong h errno (s.drop (p + 1)) error = .ok r →
      r.val = (strtoul h errno (s.drop (p + 1))).value := by
    intro r hr
    rcases parseUlong_cases h errno (s.drop (p + 1)) with hok | ⟨text, hfail⟩
    · rw [hok error] at hr
      cases hr
      rfl
    · rw [hfail error] at hr
      cases error with
      | none =>
        cases hr
        rfl
      | some text' => cases hr
  rcases parseAddr_slash_some hp ha with ⟨r, f, bytes, hr, -, rfl⟩
  exact hval r hr

lemma canonical_of_accepted {a : Addr} {e : Slot}
    (ha : parseAddr h L errno s error = .ok (some a, e)) :
    ∃ bytes, Canonical h errno s a bytes := by
  rcases parseAddr_some ha with ⟨f, bytes, n, hpton, hn, rfl⟩
  rcases inetPton_length hpton with ⟨-, hbytes⟩
  have hsize : f.size ≤ 16 := by cases f <;> simp [Family.size]
  have hlen : bytes.length ≤ 16 := hbytes ▸ hsize
  have hn' : n ≤ 8 * bytes.length := hbytes ▸ hn
  refine ⟨bytes, hpton, ?_, hn, fun p hp => netmask_of_slash hp ha, ?_, ?_⟩
  · cases f with
    | inet => exact Or.inl ⟨rfl, rfl⟩
    | inet6 => exact Or.inr ⟨rfl, rfl⟩
    | other n => cases hpton
  · exact maskedAddr_length hlen (by omega)
  · intro i _
    exact bitAt_maskedAddr hlen hn' i

end

/-- Under one prefix, equal unions are addresses with equal bits before it. -/
lemma Canonical.sa_eq_iff {h h' : Host} {errno errno' : Nat} {s s' bytes bytes' : Bytes}
    {a a' : Addr} (hc : Canonical h errno s a bytes) (hc' : Canonical h' errno' s' a' bytes')
    (hnetmask : a.netmask = a'.netmask) :
    a.sa = a'.sa ↔ SamePrefix a.netmask bytes bytes' := by
  have h128 : a.netmask ≤ 128 := by
    have hle := hc.netmask_le
    rcases hc.family with ⟨-, hsize⟩ | ⟨-, hsize⟩
    · omega
    · omega
  constructor
  · intro hsa i hi
    have hbit := hc.bits i (by omega)
    have hbit' := hc'.bits i (by omega)
    rw [hsa, hbit', ← hnetmask] at hbit
    simpa [hi] using hbit.symm
  · -- behind the prefix both are zero
    intro hsame
    refine eq_of_bitAt (by rw [hc.size, hc'.size]) ?_
    intro i hi
    rw [hc.size] at hi
    rw [hc.bits i (by omega), hc'.bits i (by omega), ← hnetmask]
    by_cases hin : i < a.netmask
    · simp [hin, hsame i hin]
    · simp [hin]

/-- `parse_addr` never leaves the mask array and does not depend on the byte order; what it accepts is
canonical, and two accepted messages of one family and prefix have the same union exactly when their
addresses agree before the prefix. -/
theorem parseAddr_canonical (h : Host) (L : LibC) (errno : Nat) (s : Bytes) (error : Slot) :
    parseAddr h L errno s error ≠ .error .outOfBounds ∧
      (∀ big, parseAddr (withEndian h big) L errno s error = parseAddr h L errno s error) ∧
      ∀ a e, parseAddr h L errno s error = .ok (some a, e) →
        ∃ bytes, Canonical h errno s a bytes ∧
          ∀ h' L' errno' s' error' a' e',
            parseAddr h' L' errno' s' error' = .ok (some a', e') →
            a.fa = a'.fa → a.netmask = a'.netmask →
            ∃ bytes', inetPton a'.fa (addressPart s') = some bytes' ∧
              (a.sa = a'.sa ↔ SamePrefix a.netmask bytes bytes') := by
  refine ⟨parseAddr_ne_outOfBounds, fun big => parseAddr_withEndian big, ?_⟩
  intro a e ha
  rcases canonical_of_accepted ha with ⟨bytes, hc⟩
  refine ⟨bytes, hc, ?_⟩
  intro h' L' errno' s' error' a' e' ha' _ hnetmask
  rcases canonical_of_accepted ha' with ⟨bytes', hc'⟩
  exact ⟨bytes', hc'.address, hc.sa_eq_iff hc' hnetmask⟩

/-- `192.0.2.77/26` and `192.0.2.100/26` are one network on a big-endian host, `192.0.2.64`. -/
theorem parseAddr_canonical_slash26 :
    ∃ a e a' e', parseAddr (withEndian Host.lp64 true) LibC.numeric 0 (str "192.0.2.77/26") none =
        .ok (some a, e) ∧
      parseAddr (withEndian Host.lp64 true) LibC.numeric 0 (str "192.0.2.100/26") none =
        .ok (some a', e') ∧
      a.sa = [192, 0, 2, 64] ++ List.replicate 12 0 ∧ a.sa = a'.sa := by
  have hparse : parseAddr (withEndian Host.lp64 true) LibC.numeric 0 (str "192.0.2.77/26") none =
      .ok (some ⟨[192, 0, 2, 64] ++ List.replicate 12 0, .inet, 4, 26, str "192.0.2.77"⟩, none) := by
    decide
  have hparse' : parseAddr (withEndian Host.lp64 true) LibC.numeric 0 (str "192.0.2.100/26") none =
      .ok (some ⟨[192, 0, 2, 64] ++ List.replicate 12 0, .inet, 4, 26, str "192.0.2.100"⟩, none) := by
    decide
  refine ⟨_, _, _, _, hparse, hparse', rfl, ?_⟩
  rcases (parseAddr_canonical _ _ _ _ _).2.2 _ _ hparse with ⟨bytes, hc, hsame⟩
  rcases hsame _ _ _ _ _ _ _ hparse' rfl rfl with ⟨bytes', hpton', hiff⟩
  refine hiff.2 ?_
  have hb : some [192, 0, 2, 77] = some bytes := hc.address
  have hb' : some [192, 0, 2, 100] = some bytes' := hpton'
  cases hb
  cases hb'
  unfold SamePrefix
  decide

end Banip
