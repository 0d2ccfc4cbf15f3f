import Banip.Parse

/-!
# Grammar — which messages `parse_addr` accepts

A message is an address, or an address and a prefix length separated by a `/`.  `InGrammar` states
that grammar in terms of `inet_pton` and of the verdict of `parse_ulong`.

`parse_addr` does not read that verdict: it goes on with whatever number `strtoul` left in
`prefix`, which is 0 when there is no digit.  So the code follows the grammar except where
`parse_ulong` rejects the prefix part, the address part is an address, and the left-over number is
within the range of the family; such a message is accepted as a network, `0.0.0.0/0` for
`1.2.3.4/abc`.
-/

namespace Banip

open Lib

variable (h : Host) (L : LibC) (errno : Nat) {s : Bytes}

/-! ## The branches of `parse_addr` -/

/-- The prefix length of an address without a `/`. -/
def defaultPrefix : Family → Nat
  | .inet => 32
  | .inet6 => 64
  | .other _ => 0

/-- The record for the address `bytes` of the text `buffer` under a prefix of `n` bits. -/
def addrOf (buffer : Bytes) (f : Family) (bytes : Bytes) (n : Nat) : Addr :=
  ⟨maskedAddr bytes n, f, f.size, n, buffer⟩

/-- What the prefix branch checks once it has a number. -/
def PrefixAccepts (L : LibC) (buffer : Bytes) (v : Nat) (f : Family) (bytes : Bytes) : Prop :=
  (∃ res rest, L.getaddrinfo true buffer = .ok (res, rest) ∧ res.aiFamily = f) ∧
    v ≤ f.maxPrefix ∧ inetPton f buffer = some bytes

/-- A report with another first letter is not that of the branch for a text that does not fit. -/
lemma ne_overflow_of_head {text : Bytes} {c : Byte} (hhead : text.head? = some c)
    (hc : c ≠ chr 'b') : text ≠ str "buffer overflow" := by
  rintro rfl
  cases hhead
  exact hc rfl

/-- The branch without a `/`: accepted and the slot untouched, or rejected with one report. -/
lemma parseAddr_plain (hp : strchr s (chr '/') = none) :
    (∃ f bytes, inetPton f s = some bytes ∧ ∀ error,
        parseAddr h L errno s error = .ok (some (addrOf s f bytes (defaultPrefix f)), error)) ∨
      ((∀ f, inetPton f s = none) ∧ ∃ text, text ≠ str "buffer overflow" ∧ ∀ error,
        parseAddr h L errno s error = (errorSet error text).map (fun e => (none, e))) := by
  unfold parseAddr
  simp only [hp]
  cases h4 : inetPton .inet s with
  | some bytes =>
    refine Or.inl ⟨.inet, bytes, h4, ?_⟩
    intro error
    exact finishAddr_eq h h4 (by decide) error
  | none =>
    cases h6 : inetPton .inet6 s with
    | some bytes =>
      refine Or.inl ⟨.inet6, bytes, h6, ?_⟩
      intro error
      exact finishAddr_eq h h6 (by decide) error
    | none =>
      refine Or.inr ⟨?_, _, ne_overflow_of_head (c := chr 'v') rfl (by decide), fun _ => rfl⟩
      intro f
      cases f with
      | inet => exact h4
      | inet6 => exact h6
      | other n => rfl

lemma maxPrefix_le (f : Family) : f.maxPrefix ≤ 128 := by
  cases f <;> simp [Family.maxPrefix, Family.size]

/-- Past both checks of the prefix branch the number is within the family's range. -/
lemma le_maxPrefix_of_checks {f : Family} {v : Nat} {buffer bytes : Bytes}
    (hlong4 : ¬ (f = .inet ∧ 32 < v)) (hlong6 : ¬ (f = .inet6 ∧ 128 < v))
    (hpton : inetPton f buffer = some bytes) : v ≤ f.maxPrefix := by
  cases f with
  | inet =>
    simp only [true_and] at hlong4
    simp only [Family.maxPrefix, Family.size]
    omega
  | inet6 =>
    simp only [true_and] at hlong6
    simp only [Family.maxPrefix, Family.size]
    omega
  | other n => simp [inetPton] at hpton

/-- The branch with a `/`, after `parse_ulong` left the result `r`: accepted with the slot as
`parse_ulong` left it, or rejected with one more report. -/
lemma parseAddr_slash {p : Nat} {error : Slot} {r : UlongResult}
    (hp : strchr s (chr '/') = some p)
    (hr : parseUlong h errno (s.drop (p + 1)) error = .ok r) :
    (∃ f bytes, PrefixAccepts L (s.take p) r.val f bytes ∧
        parseAddr h L errno s error = .ok (some (addrOf (s.take p) f bytes r.val), r.error)) ∨
      ((∀ f bytes, ¬ PrefixAccepts L (s.take p) r.val f bytes) ∧
        ∃ text, text ≠ str "buffer overflow" ∧
        parseAddr h L errno s error = (errorSet r.error text).map (fun e => (none, e))) := by
  unfold parseAddr
  simp only [hp, hr]
  cases hgai : L.getaddrinfo true (s.take p) with
  | error ret =>
    refine Or.inr ⟨?_, _, ne_overflow_of_head (c := chr 'g') rfl (by decide), rfl⟩
    rintro f bytes ⟨⟨res, rest, hres, -⟩, -⟩
    simp [hgai] at hres
  | ok found =>
    rcases found with ⟨res, rest⟩
    -- the family is that of the first entry, so its checks are the ones that decide
    have hchecks : ∀ f bytes, PrefixAccepts L (s.take p) r.val f bytes →
        r.val ≤ res.aiFamily.maxPrefix ∧ inetPton res.aiFamily (s.take p) = some bytes := by
      rintro f bytes ⟨⟨res', rest', hres, rfl⟩, hchecks⟩
      cases hgai.symm.trans hres
      exact hchecks
    simp only [ok_bind]
    by_cases hlong4 : res.aiFamily = .inet ∧ 32 < r.val
    · rw [if_pos hlong4]
      refine Or.inr ⟨?_, _, ne_overflow_of_head (c := chr 'p') rfl (by decide), rfl⟩
      intro f bytes hacc
      have hle := (hchecks f bytes hacc).1
      simp only [hlong4.1, Family.maxPrefix, Family.size] at hle
      omega
    · rw [if_neg hlong4]
      by_cases hlong6 : res.aiFamily = .inet6 ∧ 128 < r.val
      · rw [if_pos hlong6]
        refine Or.inr ⟨?_, _, ne_overflow_of_head (c := chr 'p') rfl (by decide), rfl⟩
        intro f bytes hacc
        have hle := (hchecks f bytes hacc).1
        simp only [hlong6.1, Family.maxPrefix, Family.size] at hle
        omega
      · rw [if_neg hlong6]
        cases hpton : inetPton res.aiFamily (s.take p) with
        | none =>
          refine Or.inr ⟨?_, _, ne_overflow_of_head (c := chr 'v') rfl (by decide), rfl⟩
          intro f bytes hacc
          cases hpton.symm.trans (hchecks f bytes hacc).2
        | some bytes =>
          have hle := le_maxPrefix_of_checks hlong4 hlong6 hpton
          have h128 : r.val ≤ 128 := hle.trans (maxPrefix_le _)
          refine Or.inl ⟨res.aiFamily, bytes, ⟨⟨res, rest, hgai, rfl⟩, hle, hpton⟩, ?_⟩
          -- a number of the family's range is kept by `uint8_t`
          have hmod : r.val % 256 = r.val := Nat.mod_eq_of_lt (by omega)
          simp only [hmod]
          exact finishAddr_eq h hpton h128 r.error

/-- The text of the address part: what comes before the first `/`. -/
def addressPart (s : Bytes) : Bytes :=
  match strchr s (chr '/') with
  | some p => s.take p
  | none => s

/-- What was accepted with a `/` has passed `parse_ulong`, whatever it said, and the checks. -/
lemma parseAddr_slash_some {h L errno} {p : Nat} {error e : Slot} {a : Addr}
    (hp : strchr s (chr '/') = some p) (ha : parseAddr h L errno s error = .ok (some a, e)) :
    ∃ r f bytes, parseUlong h errno (s.drop (p + 1)) error = .ok r ∧
      PrefixAccepts L (s.take p) r.val f bytes ∧ a = addrOf (s.take p) f bytes r.val := by
  cases hr : parseUlong h errno (s.drop (p + 1)) error with
  | error fault =>
    simp only [parseAddr, hp, hr] at ha
    cases ha
  | ok r =>
    rcases parseAddr_slash h L errno hp hr with ⟨f, bytes, hacc, hok⟩ | ⟨-, text, -, hfail⟩
    · rw [hok] at ha
      cases ha
      exact ⟨r, f, bytes, rfl, hacc, rfl⟩
    · rw [hfail] at ha
      cases hre : r.error <;> simp [hre, Except.map] at ha

/-- Whatever `parse_addr` accepts is the address part, masked under a prefix of its family. -/
theorem parseAddr_some {h L errno} {error e : Slot} {a : Addr}
    (ha : parseAddr h L errno s error = .ok (some a, e)) :
    ∃ f bytes n, inetPton f (addressPart s) = some bytes ∧ n ≤ f.maxPrefix ∧
      a = addrOf (addressPart s) f bytes n := by
  unfold addressPart
  cases hp : strchr s (chr '/') with
  | none =>
    rcases parseAddr_plain h L errno hp with
      ⟨f, bytes, hpton, hok⟩ | ⟨-, text, -, hfail⟩
    · rw [hok error] at ha
      cases ha
      refine ⟨f, bytes, defaultPrefix f, hpton, ?_, rfl⟩
      cases f <;> simp [defaultPrefix, Family.maxPrefix, Family.size]
    · rw [hfail error] at ha
      cases error <;> simp [Except.map] at ha
  | some p =>
    rcases parseAddr_slash_some hp ha with ⟨r, f, bytes, -, hacc, heq⟩
    exact ⟨f, bytes, r.val, hacc.2.2, hacc.2.1, heq⟩

/-! ## The grammar -/

/-- The messages the program means to accept: an address, or an address and a numeral that
`parse_ulong` accepts and that is at most the bits of the family. -/
def InGrammar (s : Bytes) : Prop :=
  match strchr s (chr '/') with
  | none => ∃ f bytes, inetPton f s = some bytes
  | some p => ∃ f bytes v, inetPton f (s.take p) = some bytes ∧
      UlongReturns h errno (s.drop (p + 1)) v ∧ v ≤ f.maxPrefix

/-- `parse_addr`, entered with a null slot, returns true and fills in `a`. -/
def Accepts (s : Bytes) (a : Addr) : Prop := ∃ e, parseAddr h L errno s none = .ok (some a, e)

/-- On the message `s` the code accepts what the grammar accepts, with the prefix as written. -/
def FollowsGrammar (s : Bytes) : Prop :=
  ((∃ a, Accepts h L errno s a) ↔ InGrammar h errno s) ∧
    ∀ p v a, strchr s (chr '/') = some p → UlongReturns h errno (s.drop (p + 1)) v →
      Accepts h L errno s a → a.netmask = v

/-- The verdict of `parse_ulong` makes no difference on `s`: there is no address before a `/`, or
the prefix part is accepted, or the number `strtoul` reads in it (0 if it reads none) is too large
for the family. -/
def PrefixImmaterial (s : Bytes) : Prop :=
  ∀ p, strchr s (chr '/') = some p → ∀ f bytes, inetPton f (s.take p) = some bytes →
    (∃ v, UlongReturns h errno (s.drop (p + 1)) v) ∨
      f.maxPrefix < (strtoul h errno (s.drop (p + 1))).value

variable {h L errno}

lemma inGrammar_plain (hp : strchr s (chr '/') = none) :
    InGrammar h errno s ↔ ∃ f bytes, inetPton f s = some bytes := by
  simp only [InGrammar, hp]

lemma inGrammar_slash {p : Nat} (hp : strchr s (chr '/') = some p) :
    InGrammar h errno s ↔ ∃ f bytes v, inetPton f (s.take p) = some bytes ∧
      UlongReturns h errno (s.drop (p + 1)) v ∧ v ≤ f.maxPrefix := by
  simp only [InGrammar, hp]

/-- With a resolver that knows the numeric texts, the prefix branch accepts exactly the addresses
under a number in range. -/
lemma prefixAccepts_iff (hL : L.NumericHost) {buffer bytes : Bytes} {v : Nat} {f : Family} :
    PrefixAccepts L buffer v f bytes ↔ v ≤ f.maxPrefix ∧ inetPton f buffer = some bytes := by
  constructor
  · rintro ⟨-, hv, hpton⟩
    exact ⟨hv, hpton⟩
  · rintro ⟨hv, hpton⟩
    exact ⟨hL f buffer bytes hpton, hv, hpton⟩

/-- A message without a `/` is judged by `inet_pton` alone. -/
lemma followsGrammar_plain (hp : strchr s (chr '/') = none) : FollowsGrammar h L errno s := by
  refine ⟨?_, ?_⟩
  · rw [inGrammar_plain hp]
    rcases parseAddr_plain h L errno hp with ⟨f, bytes, hpton, hok⟩ | ⟨hnone, text, -, hfail⟩
    · exact ⟨fun _ => ⟨f, bytes, hpton⟩, fun _ => ⟨_, none, hok none⟩⟩
    · constructor
      · rintro ⟨a, e, ha⟩
        simp [hfail none, Except.map] at ha
      · rintro ⟨f, bytes, hpton⟩
        simp [hnone f] at hpton
  · intro p v a hp'
    simp [hp] at hp'

/-- Where `parse_ulong` accepts the prefix part, the code follows the grammar. -/
lemma followsGrammar_of_ulong (hL : L.NumericHost) {p v : Nat}
    (hp : strchr s (chr '/') = some p) (hv : UlongReturns h errno (s.drop (p + 1)) v) :
    FollowsGrammar h L errno s := by
  rcases parseAddr_slash h L errno hp hv with ⟨f, bytes, hacc, hok⟩ | ⟨hnone, text, -, hfail⟩
  · refine ⟨?_, ?_⟩
    · rw [inGrammar_slash hp]
      exact ⟨fun _ => ⟨f, bytes, v, hacc.2.2, hv, hacc.2.1⟩, fun _ => ⟨_, _, hok⟩⟩
    · rintro p' v' a hp' hv' ⟨e, ha⟩
      cases hp.symm.trans hp'
      cases hok.symm.trans ha
      exact hv.value.trans hv'.value.symm
  · refine ⟨?_, ?_⟩
    · rw [inGrammar_slash hp]
      constructor
      · rintro ⟨a, e, ha⟩
        simp [hfail, Except.map] at ha
      · rintro ⟨f, bytes, v', hpton, hv', hle⟩
        have hvv : v' = v := hv'.value.trans hv.value.symm
        exact absurd ((prefixAccepts_iff hL).2 ⟨hvv ▸ hle, hpton⟩) (hnone f bytes)
    · rintro p' v' a - - ⟨e, ha⟩
      simp [hfail, Except.map] at ha

/-- A `parse_ulong` that rejects its text reports that, and leaves the number it read. -/
lemma parseUlong_rejects {t : Bytes} (hv : ¬ ∃ v, UlongReturns h errno t v) :
    ∃ text, parseUlong h errno t none = .ok ⟨false, (strtoul h errno t).value, some text⟩ := by
  rcases parseUlong_cases h errno t with hok | ⟨text, hfail⟩
  · exact absurd ⟨_, hok none⟩ hv
  · exact ⟨text, hfail none⟩

/-- Where `parse_ulong` rejects the prefix part, a message is accepted exactly when its address
part is an address and the left-over number is in range. -/
lemma accepts_iff_of_not_ulong (hL : L.NumericHost) {p : Nat} (hp : strchr s (chr '/') = some p)
    (hv : ¬ ∃ v, UlongReturns h errno (s.drop (p + 1)) v) :
    (∃ a, Accepts h L errno s a) ↔ ∃ f bytes, inetPton f (s.take p) = some bytes ∧
      (strtoul h errno (s.drop (p + 1))).value ≤ f.maxPrefix := by
  rcases parseUlong_rejects hv with ⟨text, hr⟩
  rcases parseAddr_slash h L errno hp hr with ⟨f, bytes, hacc, hok⟩ | ⟨hnone, text', -, hfail⟩
  · exact ⟨fun _ => ⟨f, bytes, hacc.2.2, hacc.2.1⟩, fun _ => ⟨_, _, hok⟩⟩
  · constructor
    · -- the slot is filled by now, so the second report is an invalid free
      rintro ⟨a, e, ha⟩
      simp [hfail, Except.map] at ha
    · rintro ⟨f, bytes, hpton, hle⟩
      exact absurd ((prefixAccepts_iff hL).2 ⟨hle, hpton⟩) (hnone f bytes)

/-- `parse_addr` follows its grammar on exactly the messages where it can afford to ignore the
verdict of `parse_ulong`. -/
theorem parseAddr_followsGrammar_iff (hL : L.NumericHost) (s : Bytes) :
    FollowsGrammar h L errno s ↔ PrefixImmaterial h errno s := by
  cases hp : strchr s (chr '/') with
  | none =>
    refine iff_of_true (followsGrammar_plain hp) ?_
    intro p hp'
    simp [hp] at hp'
  | some p =>
    by_cases hv : ∃ v, UlongReturns h errno (s.drop (p + 1)) v
    · rcases hv with ⟨v, hv⟩
      refine iff_of_true (followsGrammar_of_ulong hL hp hv) ?_
      intro p' hp' f bytes _
      cases hp.symm.trans hp'
      exact Or.inl ⟨v, hv⟩
    · -- outside the grammar, so the code follows it exactly when it rejects the message
      have hacc := accepts_iff_of_not_ulong hL hp hv
      have hout : ¬ InGrammar h errno s := by
        rw [inGrammar_slash hp]
        rintro ⟨f, bytes, v, -, hv', -⟩
        exact hv ⟨v, hv'⟩
      constructor
      · rintro ⟨hiff, -⟩ p' hp' f bytes hpton
        cases hp.symm.trans hp'
        refine Or.inr (Nat.lt_of_not_le ?_)
        intro hle
        exact hout (hiff.1 (hacc.2 ⟨f, bytes, hpton, hle⟩))
      · intro hsafe
        refine ⟨iff_of_false ?_ hout, ?_⟩
        · intro hex
          rcases hacc.1 hex with ⟨f, bytes, hpton, hle⟩
          rcases hsafe p hp f bytes hpton with hv' | hlt
          · exact hv hv'
          · omega
        · intro p' v a hp' hv'
          cases hp.symm.trans hp'
          exact absurd ⟨v, hv'⟩ hv

/-- The prefix part of the message, if there is one, is accepted by `parse_ulong`. -/
def PrefixAccepted (h : Host) (errno : Nat) (s : Bytes) : Prop :=
  ∀ p, strchr s (chr '/') = some p → ∃ v, UlongReturns h errno (s.drop (p + 1)) v

/-- With an accepted prefix part, `parse_addr` succeeds and leaves the slot null, or fails and
leaves it filled. -/
lemma parseAddr_of_prefixAccepted (L : LibC) (hpre : PrefixAccepted h errno s) :
    (∃ a, parseAddr h L errno s none = .ok (some a, none)) ∨
      ∃ text, parseAddr h L errno s none = .ok (none, some text) := by
  cases hp : strchr s (chr '/') with
  | none =>
    rcases parseAddr_plain h L errno hp with ⟨f, bytes, -, hok⟩ | ⟨-, text, -, hfail⟩
    · exact Or.inl ⟨_, hok none⟩
    · exact Or.inr ⟨text, hfail none⟩
  | some p =>
    rcases hpre p hp with ⟨v, hv⟩
    rcases parseAddr_slash h L errno hp hv with ⟨f, bytes, -, hok⟩ | ⟨-, text, -, hfail⟩
    · exact Or.inl ⟨_, hok⟩
    · exact Or.inr ⟨text, hfail⟩

/-- With a rejected one it writes the slot a second time, or succeeds and leaves it filled. -/
lemma parseAddr_of_not_prefixAccepted (L : LibC) (hpre : ¬ PrefixAccepted h errno s) :
    (∃ f, parseAddr h L errno s none = .error f) ∨
      ∃ a text, parseAddr h L errno s none = .ok (some a, some text) := by
  simp only [PrefixAccepted, not_forall] at hpre
  rcases hpre with ⟨p, hp, hv⟩
  rcases parseUlong_rejects hv with ⟨text, hr⟩
  rcases parseAddr_slash h L errno hp hr with ⟨f, bytes, -, hok⟩ | ⟨-, text', -, hfail⟩
  · exact Or.inr ⟨_, text, hok⟩
  · exact Or.inl ⟨.invalidFree, hfail⟩

/-- With an accepted prefix part the code follows the grammar. -/
lemma followsGrammar_of_prefixAccepted (hL : L.NumericHost) (hpre : PrefixAccepted h errno s) :
    FollowsGrammar h L errno s := by
  cases hp : strchr s (chr '/') with
  | none => exact followsGrammar_plain hp
  | some p =>
    rcases hpre p hp with ⟨v, hv⟩
    exact followsGrammar_of_ulong hL hp hv

/-- The grammar holds on a message with a proper prefix. -/
theorem followsGrammar_slash24 : LibC.numeric.NumericHost ∧
    FollowsGrammar Host.lp64 LibC.numeric 0 (str "192.0.2.7/24") := by
  refine ⟨LibC.numeric_numericHost, ?_⟩
  refine (parseAddr_followsGrammar_iff LibC.numeric_numericHost _).2 ?_
  intro p hp f bytes _
  have hp9 : some 9 = some p := hp
  cases hp9
  exact Or.inl ⟨24, by decide⟩

/-- `1.2.3.4/abc` is outside the grammar and is accepted as `0.0.0.0/0`, with the slot filled. -/
theorem parseAddr_abc_not_followsGrammar :
    ¬ FollowsGrammar Host.lp64 LibC.numeric 0 (str "1.2.3.4/abc") := by
  have haccepted : parseAddr Host.lp64 LibC.numeric 0 (str "1.2.3.4/abc") none =
      .ok (some ⟨List.replicate 16 0, .inet, 4, 0, str "1.2.3.4"⟩,
        some (str "number expected, no digit found")) := by decide
  intro hfollows
  rcases hfollows.1.1 ⟨_, _, haccepted⟩ with ⟨f, bytes, v, -, hv, -⟩
  have hrejected : parseUlong Host.lp64 0 (str "abc") none =
      .ok ⟨false, 0, some (str "number expected, no digit found")⟩ := by decide
  cases hrejected.symm.trans hv

end Banip
