import Banip.Lib.CString

/-!
# Shell — the words of a command line

What `system` hands to a POSIX shell is a text; the shell cuts it into fields at blanks, and some
characters have a meaning of their own.  A text without such characters is taken literally, so the
fields of a line that ends with it are those of what comes before and the text itself.
-/

namespace Banip
namespace Lib
namespace Shell

/-- Blanks and newlines separate fields. -/
def isBlank (c : Byte) : Bool := (str " \t\n").contains c

/-- The characters that quote, expand, redirect or separate commands, and the blanks. -/
def isMeta (c : Byte) : Bool := isBlank c || (str "|&;<>()$`\\\"'*?[]#~=%!^\x7b\x7d").contains c

/-- The fields of a line in which nothing is quoted. -/
def fields (s : Bytes) : List Bytes := (s.splitOnP isBlank).filter (· ≠ [])

lemma not_isBlank_of_not_isMeta {c : Byte} (h : isMeta c = false) : isBlank c = false := by
  unfold isMeta at h
  exact (Bool.or_eq_false_iff.1 h).1

/-- A blank ends the fields before it. -/
lemma fields_append_blank (s t : Bytes) {b : Byte} (hb : isBlank b) :
    fields (s ++ b :: t) = fields s ++ fields t := by
  rw [fields, List.splitOnP_append_cons s t hb, List.filter_append]
  rfl

/-- A text without blanks is one field. -/
lemma fields_of_word {t : Bytes} (hne : t ≠ []) (ht : ∀ c ∈ t, isBlank c = false) :
    fields t = [t] := by
  rw [fields, List.splitOnP_eq_singleton ht]
  simp [hne]

example : fields (str "ls  -l /tmp ") = [str "ls", str "-l", str "/tmp"] := by decide

end Shell
end Lib
end Banip
