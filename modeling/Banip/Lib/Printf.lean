import Banip.Lib.CString

/-!
# Printf — formatted text

`Printf` is what a C library makes of a format and its arguments.  Its laws hold of every `printf`:
bytes other than `%` are copied, and `%s` and `%c` are replaced by the next argument if it has their
type.  What else a `%` may start differs between libraries, so the library is a parameter; `none`
stands for a call whose behaviour is undefined.

`Printf.iso` is a small library that knows no other directive than these and `%%`.
-/

namespace Banip
namespace Lib

/-- An argument behind the format. -/
inductive Arg where
  | string (s : Bytes)
  | char (c : Byte)
deriving DecidableEq, Repr

structure Printf where
  /-- The text for a format and its arguments; arguments that no directive asks for are ignored. -/
  format : Bytes → List Arg → Option Bytes
  format_nil : ∀ args, format [] args = some []
  format_text : ∀ c f args, c ≠ chr '%' → format (c :: f) args = (format f args).map (c :: ·)
  format_string : ∀ f s args,
    format (chr '%' :: chr 's' :: f) (.string s :: args) = (format f args).map (s ++ ·)
  format_char : ∀ f c args,
    format (chr '%' :: chr 'c' :: f) (.char c :: args) = (format f args).map (c :: ·)

namespace Printf

/-- A run of bytes without a `%` is copied. -/
lemma format_append (P : Printf) {text : Bytes} (htext : chr '%' ∉ text) (f : Bytes)
    (args : List Arg) : P.format (text ++ f) args = (P.format f args).map (text ++ ·) := by
  induction text with
  | nil => simp
  | cons c text ih =>
    have hc : c ≠ chr '%' := fun h => htext (by simp [h])
    have hrest : chr '%' ∉ text := fun h => htext (List.mem_cons_of_mem _ h)
    rw [List.cons_append, P.format_text c _ _ hc, ih hrest, Option.map_map]
    rfl

/-- A format without directives is its own text. -/
lemma format_plain (P : Printf) {text : Bytes} (htext : chr '%' ∉ text) (args : List Arg) :
    P.format text args = some text := by
  have happend := P.format_append htext [] args
  rw [P.format_nil, List.append_nil] at happend
  simpa using happend

/-- The directives `%s`, `%c` and `%%`; every other one is left undefined. -/
def isoFormat : Bytes → List Arg → Option Bytes
  | [], _ => some []
  | [c], _ => if c = chr '%' then none else some [c]
  | c :: d :: f, args =>
      if c ≠ chr '%' then (isoFormat (d :: f) args).map (c :: ·)
      else if d = chr '%' then (isoFormat f args).map (chr '%' :: ·)
      else
        match args with
        | .string s :: args => if d = chr 's' then (isoFormat f args).map (s ++ ·) else none
        | .char b :: args => if d = chr 'c' then (isoFormat f args).map (b :: ·) else none
        | [] => none

def iso : Printf where
  format := isoFormat
  format_nil _ := rfl
  format_text c f args hc := by
    cases f with
    | nil => simp [isoFormat, hc]
    | cons d f => simp [isoFormat, hc]
  format_string f s args := by simp [isoFormat, show chr 's' ≠ chr '%' by decide]
  format_char f c args := by simp [isoFormat, show chr 'c' ≠ chr '%' by decide]

example : iso.format (str "%s is 100%%") [.string (str "x")] = some (str "x is 100%") := by decide

end Printf

end Lib
end Banip
