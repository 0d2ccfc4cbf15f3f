import Banip.Engine
import Banip.Lib.Shell

/-!
# Inert — what a message can put on a command line

`ipset_handle` formats the text of the address into a command that a shell runs as root.  The text
is the part of the message before its first `/`, and `parse_addr` fills it in only after `inet_pton`
has accepted it.  So it is short, not empty and made of the characters of an address, none of which
means anything to a shell.
-/

namespace Banip

open Lib

/-- No character of an address is a blank or means anything to a shell. -/
lemma not_isMeta_of_addressChar {c : Byte} (h : addressChar c) : Shell.isMeta c = false := by
  revert c
  decide

section

variable {h : Host} {L : LibC} {errno : Nat} {s : Bytes} {error : Slot}

/-- The address part of a message that `inet_pton` accepts fits `humanrepr`, with its NUL. -/
lemma strlcpy_humanrepr {f : Family} {bytes : Bytes}
    (hpton : inetPton f (addressPart s) = some bytes) :
    (strlcpy (addressPart s) humanreprSize).2 < humanreprSize := by
  rcases inetPton_length hpton with ⟨hlen, -⟩
  simp only [strlcpy, humanreprSize]
  omega

/-- The branch for a text that does not fit `humanrepr` is never taken: no call reports it. -/
lemma parseAddr_ne_overflow :
    parseAddr h L errno s none ≠ .ok (none, some (str "buffer overflow")) := by
  -- a report that is not that one, on top of whatever the slot holds
  have hreport : ∀ (r : Slot) {text : Bytes}, text ≠ str "buffer overflow" →
      (errorSet r text).map (fun e => ((none : Option Addr), e)) ≠
        .ok (none, some (str "buffer overflow")) := by
    intro r text htext
    cases r with
    | some e => simp [Except.map]
    | none => simpa [Except.map] using htext
  cases hp : strchr s (chr '/') with
  | none =>
    rcases parseAddr_plain h L errno hp with ⟨f, bytes, -, hok⟩ | ⟨-, text, htext, hfail⟩
    · simp [hok]
    · rw [hfail]
      exact hreport none htext
  | some p =>
    cases hr : parseUlong h errno (s.drop (p + 1)) none with
    | error fault => simp [parseAddr, hp, hr, bind, Except.bind]
    | ok r =>
      rcases parseAddr_slash h L errno hp hr with ⟨f, bytes, -, hok⟩ | ⟨-, text, htext, hfail⟩
      · simp [hok]
      · rw [hfail]
        exact hreport r.error htext

end

/-- The command line of `ipset_handle` up to the address. -/
def ipsetTarget (tablename : Bytes) (fa : Family) : Bytes :=
  str "ipset -! -A " ++ familySet tablename fa

lemma ipsetCommand_eq (tablename : Bytes) (fa : Family) (humanrepr : Bytes) :
    ipsetCommand tablename fa humanrepr = ipsetTarget tablename fa ++ chr ' ' :: humanrepr := by
  have hblank : str " " = [chr ' '] := rfl
  simp only [ipsetCommand, ipsetTarget, familySet, hblank, List.append_assoc, List.cons_append,
    List.nil_append]

/-- For every message: the branch for a text that does not fit is not taken, and an accepted message
contributes to the command line its text before the first `/`, as one word of characters that mean
nothing to a shell. -/
theorem humanrepr_inert (h : Host) (L : LibC) (errno : Nat) (s : Bytes) (error : Slot) :
    (∀ f bytes, inetPton f (addressPart s) = some bytes →
        (strlcpy (addressPart s) humanreprSize).2 < humanreprSize) ∧
      parseAddr h L errno s none ≠ .ok (none, some (str "buffer overflow")) ∧
      ∀ a e, parseAddr h L errno s error = .ok (some a, e) →
        a.humanrepr = addressPart s ∧ a.humanrepr ≠ [] ∧ (0 : Byte) ∉ a.humanrepr ∧
          a.humanrepr.length ≤ 45 ∧ a.humanrepr.length + 1 ≤ humanreprSize ∧
          (∀ c ∈ a.humanrepr, addressChar c ∧ Shell.isMeta c = false) ∧
          ∀ tablename, Shell.fields (ipsetCommand tablename a.fa a.humanrepr) =
            Shell.fields (ipsetTarget tablename a.fa) ++ [a.humanrepr] := by
  refine ⟨fun f bytes hpton => strlcpy_humanrepr hpton, parseAddr_ne_overflow, ?_⟩
  intro a e ha
  rcases parseAddr_some ha with ⟨f, bytes, n, hpton, -, rfl⟩
  rcases inetPton_length hpton with ⟨hlen, -⟩
  rcases inetPton_text hpton with ⟨hne, hchars⟩
  have hinert : ∀ c ∈ addressPart s, addressChar c ∧ Shell.isMeta c = false := by
    intro c hc
    exact ⟨hchars c hc, not_isMeta_of_addressChar (hchars c hc)⟩
  have hblank : ∀ c ∈ addressPart s, Shell.isBlank c = false := by
    intro c hc
    exact Shell.not_isBlank_of_not_isMeta (hinert c hc).2
  refine ⟨rfl, hne, ?_, hlen, ?_, hinert, ?_⟩
  · intro hnul
    exact absurd (hchars 0 hnul) (by decide)
  · have : (addressPart s).length + 1 ≤ 47 := by omega
    exact this
  · -- a blank stands in front of the text, and none in it
    intro tablename
    rw [ipsetCommand_eq, Shell.fields_append_blank _ _ (by decide)]
    exact congrArg _ (Shell.fields_of_word hne hblank)

/-- `2001:db8::7/48` ends a line of five words. -/
theorem humanrepr_inert_slash48 :
    ∃ a e, parseAddr Host.lp64 LibC.numeric 0 (str "2001:db8::7/48") none = .ok (some a, e) ∧
      Shell.fields (ipsetCommand (str "bad") a.fa a.humanrepr) =
        [str "ipset", str "-!", str "-A", str "bad6", str "2001:db8::7"] := by
  have hparse : parseAddr Host.lp64 LibC.numeric 0 (str "2001:db8::7/48") none =
      .ok (some ⟨[32, 1, 13, 184] ++ List.replicate 12 0, .inet6, 16, 48, str "2001:db8::7"⟩,
        none) := by
    decide
  rcases (humanrepr_inert _ _ _ _ none).2.2 _ _ hparse with ⟨-, -, -, -, -, -, hfields⟩
  refine ⟨_, _, hparse, ?_⟩
  rw [hfields (str "bad")]
  decide

end Banip
