import Banip.Client.Cli

/-!
# Vmod — `vmod_msgsend.c`, the Varnish module

Varnish makes an `mqueue` object when it loads a VCL, calls its method `sendmsg` from requests and
finishes the object when it discards the VCL.

The constructor reports the failure of `queue_init` and goes on with the null pointer, and it reports
the failure of `queue_open` and closes the queue; both end in a fault or in the assertion `XXXAN`.
There is one way around it: a `queue_close` that fails leaves the pointer, and the object is built on
it.
-/

namespace Banip
namespace Client

open Lib Daemon

/-- How a call of the module can end the process: a fault, or an assertion of Varnish. -/
inductive Stop where
  | fault (f : Fault)
  | assertion
deriving DecidableEq, Repr

/-- `struct vmod_msgsend_mqueue`. -/
structure Mqueue where
  queue : Handle
  queueName : Bytes
deriving DecidableEq, Repr

/-- The log of a context, or `none` where `ctx->vsl` is null. -/
abbrev Vsl : Type := Option (List Bytes)

/-- A call that may fault, as one that may stop the process. -/
def faulting {α : Type} (x : Except Fault α) : Except Stop α := x.mapError .fault

/-- `if (NULL != ctx->vsl) { VSLb(..); error_free(&error); }` -/
def logError (vsl : Vsl) (text : Bytes) (error : Slot) : Vsl × Slot :=
  match vsl with
  | none => (none, error)
  | some lines => (some (lines ++ [text ++ error.getD []]), errorFree error)

/-- `queue_open` by a sender on the null pointer: the error it reports if it fails before it writes to
`*q`. -/
def openNull (cfg : Config) (env : Env) (sys : System) (name : Bytes) : Except Fault Bytes :=
  match cfg.backend with
  | .posix => .error .nullDeref
  | .systemv =>
    match SystemV.senderFile cfg.host cfg.os env.queueOpen.systemv sys.files name with
    | .error text => .ok text
    | .ok (filename, id) =>
      match (if env.queueOpen.systemv.ftok then sys.files.find filename else none) with
      | none => .ok (str "ftok(\"" ++ filename ++ str "\", " ++ decimalInt id ++ str ") failed")
      | some _ => .error .nullDeref

def openFailedText (name : Bytes) : Bytes := str "Can't open queue '" ++ name ++ str "': "

/-- `ALLOC_OBJ` and what follows. -/
def allocObj (alloc : Bool) (queue : Handle) (name : Bytes) : Except Stop Mqueue :=
  if alloc then .ok ⟨queue, name⟩ else .error .assertion

/-- `vmod_mqueue__init`, given whether `ALLOC_OBJ` succeeds. -/
def vmodInit (cfg : Config) (env : Env) (alloc : Bool) (uid pid umask : Nat) (sys : System)
    (vsl : Vsl) (name : Bytes) : Except Stop (System × Vsl × Mqueue) :=
  match Handle.queueInit cfg.os env.malloc cfg.backend with
  | .error text => do
      let (_, error) := logError vsl (str "Can't init queue: ") (some text)
      let text ← faulting (openNull cfg env sys name)
      let _ ← faulting (errorSet error text)
      -- `queue_close` has nothing to do, and `XXXAN(queue)` fails
      .error .assertion
  | .ok q => do
      let r ← faulting (q.queueOpen cfg.host cfg.os env.queueOpen uid pid sys umask name
        ⟨true, false⟩)
      match r.ok with
      | true => do
          let obj ← allocObj alloc r.queue name
          return (r.kernel, vsl, obj)
      | false =>
        let (vsl, _) := logError vsl (openFailedText name) r.error
        match Handle.queueClose cfg.os uid env.closeFirst env.closeSecond r.kernel (some r.queue) with
        | (none, _) => .error .assertion
        | (some q, sys) => do
            let obj ← allocObj alloc q name
            return (sys, vsl, obj)

def sendFailedText (msg name : Bytes) : Bytes :=
  str "Failed sending message '" ++ msg ++ str "' on '" ++ name ++ str "': "

/-- `vmod_mqueue_sendmsg`; a `VCL_STRING` may be null. -/
def vmodSendmsg (cfg : Config) (env : Env) (sys : System) (vsl : Vsl) (obj : Mqueue)
    (message : Option CText) : Except Stop (Vsl × Outcome Mqueue) :=
  match message with
  -- `strlen(msg)`
  | none => .error (.fault .nullDeref)
  | some msg => do
      let r ← faulting (obj.queue.queueSend cfg.host cfg.os sys msg.val (-1) env.send)
      let obj := { obj with queue := r.queue }
      match r.ok with
      | true => return (vsl, ⟨r.kernel, obj, r.queue.qid.map (·, msg.val)⟩)
      | false =>
        match vsl with
        -- `VSLb` asserts that there is a log
        | none => .error .assertion
        | some _ =>
            let (vsl, _) := logError vsl (sendFailedText msg.val obj.queueName) r.error
            return (vsl, ⟨r.kernel, obj, none⟩)

/-- `vmod_mqueue__fini`; the object is gone, with or without its queue. -/
def vmodFini (cfg : Config) (env : Env) (uid : Nat) (sys : System) (obj : Mqueue) : System :=
  (Handle.queueClose cfg.os uid env.closeFirst env.closeSecond sys (some obj.queue)).2

/-! ## What a call can do -/

/-- The calls of the module stop the process at an assertion or at a null pointer only. -/
def Stop.Plain (s : Stop) : Prop := s = .assertion ∨ s = .fault .nullDeref

section

variable (cfg : Config) (env : Env) (sys : System) (vsl : Vsl)

lemma allocObj_cases (alloc : Bool) (q : Handle) (name : Bytes) :
    allocObj alloc q name = .ok ⟨q, name⟩ ∨ allocObj alloc q name = .error .assertion := by
  cases alloc with
  | true => exact Or.inl rfl
  | false => exact Or.inr rfl

/-- With POSIX queues the constructor leaves the system alone, and an object it builds has a sender's
handle. -/
lemma vmodInit_ok (hposix : cfg.backend = .posix) (alloc : Bool) (uid pid umask : Nat)
    (name : Bytes) :
    (∃ vsl' obj, vmodInit cfg env alloc uid pid umask sys vsl name = .ok (sys, vsl', obj) ∧
        Sender obj.queue) ∨
      ∃ s, vmodInit cfg env alloc uid pid umask sys vsl name = .error s ∧ s.Plain := by
  unfold vmodInit
  cases hinit : Handle.queueInit cfg.os env.malloc cfg.backend with
  | error text =>
    refine Or.inr ⟨.fault .nullDeref, ?_, Or.inr rfl⟩
    simp only [openNull, hposix]
    rfl
  | ok q =>
    rw [hposix] at hinit
    rcases sender_open cfg.host cfg.os sys (sender_init hinit) env.queueOpen uid pid umask name with
      ⟨r, hr, hkernel, hqueue, -, -⟩
    have hlift : faulting (q.queueOpen cfg.host cfg.os env.queueOpen uid pid sys umask name
        ⟨true, false⟩) = .ok r := by
      rw [hr]
      rfl
    simp only [hlift, ok_bind]
    cases hok : r.ok with
    | true =>
      rcases allocObj_cases alloc r.queue name with hobj | hobj
      · exact Or.inl ⟨vsl, ⟨r.queue, name⟩, by simp only [hobj, ok_bind, pure_eq_ok, hkernel], hqueue⟩
      · exact Or.inr ⟨.assertion, by simp only [hobj]; rfl, Or.inl rfl⟩
    | false =>
      rcases sender_close cfg.os r.kernel hqueue uid env.closeFirst env.closeSecond with
        ⟨hsys, hkept⟩
      rcases hclose : Handle.queueClose cfg.os uid env.closeFirst env.closeSecond r.kernel
        (some r.queue) with ⟨p, sys'⟩
      rw [hclose] at hsys hkept
      cases p with
      | none => exact Or.inr ⟨.assertion, rfl, Or.inl rfl⟩
      | some q' =>
        rcases allocObj_cases alloc q' name with hobj | hobj
        · refine Or.inl ⟨(logError vsl (openFailedText name) r.error).1, ⟨q', name⟩, ?_,
            hkept q' rfl⟩
          simp only [hobj, ok_bind, pure_eq_ok]
          rw [show sys' = sys from hsys.trans hkernel]
        · exact Or.inr ⟨.assertion, by simp only [hobj]; rfl, Or.inl rfl⟩

/-- With POSIX queues the method puts its message into a queue or logs that it could not. -/
lemma vmodSendmsg_ok {obj : Mqueue} (hobj : Sender obj.queue) {message : Option CText}
    (hshort : ∀ msg ∈ message, msg.val.length < 2 ^ 31) :
    (∃ vsl' out, vmodSendmsg cfg env sys vsl obj message = .ok (vsl', out) ∧
        Sender out.client.queue ∧ Effect sys out.kernel out.sent) ∨
      ∃ s, vmodSendmsg cfg env sys vsl obj message = .error s ∧ s.Plain := by
  unfold vmodSendmsg
  cases message with
  | none => exact Or.inr ⟨_, rfl, Or.inr rfl⟩
  | some msg =>
    rcases sender_send cfg.host cfg.os sys hobj (hshort msg rfl) env.send with
      ⟨r, hr, hqueue, heffect⟩
    have hlift : faulting (obj.queue.queueSend cfg.host cfg.os sys msg.val (-1) env.send) =
        .ok r := by
      rw [hr]
      rfl
    simp only [hlift, ok_bind, hqueue]
    cases heffect with
    | refused hok herror hkernel =>
      simp only [hok]
      cases vsl with
      | none => exact Or.inr ⟨_, rfl, Or.inl rfl⟩
      | some lines =>
        refine Or.inl ⟨_, _, rfl, hobj, ?_⟩
        rw [hkernel]
        exact .quiet
    | posted hok herror hqid hkq hsize hkernel =>
      simp only [hok]
      refine Or.inl ⟨_, _, rfl, hobj, ?_⟩
      rw [hkernel, hqid]
      exact .posted hkq hsize msg.property

lemma vmodFini_eq {obj : Mqueue} (hobj : Sender obj.queue) (uid : Nat) :
    vmodFini cfg env uid sys obj = sys :=
  (sender_close cfg.os sys hobj uid env.closeFirst env.closeSecond).1

end

end Client
end Banip
