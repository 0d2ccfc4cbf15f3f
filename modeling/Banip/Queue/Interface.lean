import Banip.Error

/-!
# Interface — the types of `queues/queue.h`

Both backends implement the same calls on an opaque handle.  A call that reports an error reports
exactly one, just before it returns; the records below carry its text, and `report` of
`Banip.Error` puts it in the caller's slot.
-/

namespace Banip

open Lib

/-- `queue_err_t`. -/
inductive QueueErr where
  | ok
  | generalFailure
  | notSupported
  | notOwner
deriving DecidableEq, Repr

/-- `queue_attr_t`. -/
inductive QueueAttr where
  | maxQueueSize
  | maxMessageSize
  | maxMessageInQueue
deriving DecidableEq, Repr

/-- The `flags` of `queue_open`: `QUEUE_FL_SENDER` and `QUEUE_FL_OWNER`. -/
structure Flags where
  sender : Bool
  owner : Bool
deriving DecidableEq, Repr

/-- What the calls need to know of the system they are compiled for: its `open` flags and limits, the
size of a handle, whether `char` is signed, `ftok` (of an inode number and the low eight bits of the
id) and the error texts. -/
structure Os where
  freebsd : Bool
  oCreat : Nat
  oExcl : Nat
  maxPathLen : Nat
  sizeofQueue : Nat
  charSigned : Bool
  ftok : Nat → Byte → Nat
  strerror : Nat → Bytes

/-- Linux on x86-64, with error texts that only number the error. -/
def Os.linux : Os where
  freebsd := false
  oCreat := 64
  oExcl := 128
  maxPathLen := 4096
  sizeofQueue := 80
  charSigned := true
  ftok := fun ino id => id.toNat * 2 ^ 24 + ino % 2 ^ 16
  strerror := fun n => str "errno " ++ decimal n

/-- A `char` that is stored in an `int`. -/
def Os.intOfChar (os : Os) (c : Byte) : Int := if os.charSigned then c.toInt else c.toNat

universe u v w

/-- The result of `queue_open`: the returned `bool`, the handle, the kernel, the process's umask and
the error reported. -/
structure Opened (Q : Type u) (K : Type v) where
  ok : Bool
  queue : Q
  kernel : K
  umask : Nat
  error : Option Bytes

/-- The result of `queue_close`: the returned `bool`, `*p` after the call, the kernel, the releases
attempted and the error reported. -/
structure Closed (Q : Type u) (K : Type v) (C : Type w) where
  ok : Bool
  queue : Option Q
  kernel : K
  calls : List C
  error : Option Bytes

/-- The result of `queue_send`; it does not write the handle of the POSIX backend. -/
structure Sent (Q : Type u) (K : Type v) where
  ok : Bool
  queue : Q
  kernel : K
  error : Option Bytes

/-- The result of `queue_receive`: the returned `int`, the caller's buffer. -/
structure Received (Q : Type u) (K : Type v) where
  read : Int
  buffer : Bytes
  queue : Q
  kernel : K
  error : Option Bytes

/-- What `queue.h` promises of the first `n` receives of the messages `ms`: each leaves the message and
returns its length. -/
def promised (ms : List Bytes) (n : Nat) : List (Bytes × Int) :=
  (ms.take n).map fun m => (m, (m.length : Int))

end Banip
