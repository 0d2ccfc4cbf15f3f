import Banip.Grammar

/-!
# Npf — the NPF engine of `npf.c`

`npf_handle` adds one entry to a table of NetBSD's packet filter.  The entry is a single address
(`NPF_NO_NETMASK`): the first `sa_size` bytes of the masked address of the `addr_t`, whose prefix
length it does not look at.
-/

namespace Banip
namespace Npf

open Lib

/-- `atoi`: blanks, a sign and digits, as the `int` of what `strtol` returns, which keeps to the range of
a `long`. -/
def atoi (h : Host) (s : Bytes) : Int :=
  let blanks := (s.takeWhile isSpace).length
  let sgn := sign (s.drop blanks)
  let v := digitsValue ((s.drop (blanks + sgn.2)).takeWhile isDigit)
  let bound : Int := 2 ^ (h.longBits - 1)
  toInt (max (-bound) (min (bound - 1) (if sgn.1 then -(v : Int) else v)))

example : atoi Host.lp64 (str " -12x") = -12 := by decide

/-- The table of a request: by name where `NPF_ALLOW_NAMED_TABLE` is defined, else by number. -/
inductive TableRef where
  | name (tablename : Bytes)
  | tid (id : Int)
deriving DecidableEq, Repr

/-- `nct_data.ent`. -/
structure Entry where
  alen : Nat
  addr : Bytes
  mask : Nat
deriving DecidableEq, Repr

/-- `NPF_NO_NETMASK`. -/
def noNetmask : Nat := 255

/-- What `npf_handle` did: the `NPF_CMD_TABLE_ADD` it made, its verdict and the error it reported. -/
structure Outcome where
  table : TableRef
  entry : Entry
  ok : Bool
  error : Option Bytes
deriving DecidableEq, Repr

/-- `npf_handle`; `ioctl` is the `errno` of its one system call, if it fails. -/
def npfHandle (h : Host) (named : Bool) (L : LibC) (ioctl : Option Nat) (tablename : Bytes)
    (a : Addr) : Outcome :=
  let table : TableRef := if named then .name tablename else .tid (atoi h tablename)
  -- the entry was cleared before the bytes are copied
  let entry : Entry :=
    ⟨a.saSize, a.sa.take a.saSize ++ List.replicate (16 - a.saSize) 0, noNetmask⟩
  match ioctl with
  | some errno =>
      ⟨table, entry, false,
        some (systemError (str "ioctl(IOC_NPF_TABLE) failed") (L.strerror errno))⟩
  | none => ⟨table, entry, true, none⟩

/-- The address `x` is matched by an entry. -/
def Matches (entry : Entry) (x : Bytes) : Prop :=
  x.length = entry.alen ∧
    if entry.mask = noNetmask then x = entry.addr.take entry.alen
    else SamePrefix entry.mask x (entry.addr.take entry.alen)

lemma npfHandle_entry (h : Host) (named : Bool) (L : LibC) (ioctl : Option Nat) (tablename : Bytes)
    (a : Addr) :
    (npfHandle h named L ioctl tablename a).entry =
      ⟨a.saSize, a.sa.take a.saSize ++ List.replicate (16 - a.saSize) 0, noNetmask⟩ := by
  cases ioctl <;> rfl

/-- The entry matches the one address made of the first bytes of `addr.sa`. -/
lemma matches_npfHandle {h : Host} {named : Bool} {L : LibC} {ioctl : Option Nat}
    {tablename x : Bytes} {a : Addr} (hsa : a.saSize ≤ a.sa.length) :
    Matches (npfHandle h named L ioctl tablename a).entry x ↔ x = a.sa.take a.saSize := by
  have htake : (a.sa.take a.saSize ++ List.replicate (16 - a.saSize) 0).take a.saSize =
      a.sa.take a.saSize := by
    rw [List.take_append_of_le_length (by simp [hsa]), List.take_take, Nat.min_self]
  rw [npfHandle_entry, Matches, if_pos rfl, htake]
  constructor
  · exact And.right
  · rintro rfl
    simp [hsa]

end Npf
end Banip
