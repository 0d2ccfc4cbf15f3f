import Banip.Lib.CString

/-!
# Error — the error slot of `queues/error.c`

Every fallible function of the program takes a `char **error`.  The slot is null or holds the text
of an error; `_error_set` fills it.  On a slot that is already filled `_error_set` prints a warning
and calls `free(error)`, which frees the address of the slot itself: an invalid free, and the
`invalidFree` fault of the model.
-/

namespace Banip

open Lib

/-- The contents of `*error`. -/
abbrev Slot : Type := Option Bytes

/-- `_error_set` on a non-null `error`, with the formatted text. -/
def errorSet (error : Slot) (text : Bytes) : Except Fault Slot :=
  match error with
  | none => .ok (some text)
  | some _ => .error .invalidFree

/-- `error_free`. -/
def errorFree (_error : Slot) : Slot := none

/-- `set_system_error`: the text is followed by `strerror(errno)`. -/
def systemError (text strerror : Bytes) : Bytes := text ++ str ": " ++ strerror

/-- A function that reports at most one error, just before it returns, leaves the slot so. -/
def report (error : Slot) (text : Option Bytes) : Except Fault Slot :=
  match text with
  | none => .ok error
  | some t => errorSet error t

@[simp] lemma errorSet_none (text : Bytes) : errorSet none text = .ok (some text) := rfl

@[simp] lemma errorSet_some (e text : Bytes) : errorSet (some e) text = .error .invalidFree := rfl

@[simp] lemma report_some (error : Slot) (t : Bytes) : report error (some t) = errorSet error t := rfl

/-- Into a null slot a callee reports without a fault. -/
lemma report_of_null (text : Option Bytes) : report none text = .ok text := by
  cases text <;> rfl

/-- The only fault of a report is that of `_error_set`. -/
lemma report_fault {error : Slot} {text : Option Bytes} {f : Fault}
    (h : report error text = .error f) : f = .invalidFree := by
  cases text with
  | none => cases h
  | some t =>
    cases error with
    | none => cases h
    | some e =>
      cases h
      rfl

/-- A filled slot stays filled. -/
lemma report_keeps {error e : Slot} {text : Option Bytes} (h : report error text = .ok e)
    (hsome : error ≠ none) : e ≠ none := by
  cases text with
  | none =>
    cases h
    exact hsome
  | some t =>
    cases error with
    | none => exact absurd rfl hsome
    | some e₀ => cases h

end Banip
