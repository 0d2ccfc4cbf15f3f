import Banip.Queue.Posix

/-!
# Attributes — setting the attributes of a POSIX queue

`queue.h` prescribes `queue_init`, then any number of `queue_set_attribute`, then `queue_open`, and
says that `QUEUE_ERR_OK` means that the new value is effective.  Three views of an attribute have to
agree for that: what was asked for, what the handle caches (and `queue_get_attribute` reports) and
what the kernel's queue has.

They agree only for a handle on which nothing is set.  Before `queue_open` the handle has no file
name yet, and every request is refused as coming from somebody who is not the owner; afterwards an
owner's requests change the cache, are answered with `QUEUE_ERR_OK` and never reach the kernel.
-/

namespace Banip
namespace Posix

open Lib

/-! ## Requests -/

/-- The arguments of a `queue_set_attribute`. -/
structure Setting where
  attr : QueueAttr
  value : Nat
deriving DecidableEq, Repr

/-- The attributes the POSIX backend supports. -/
def Setting.Supported (x : Setting) : Prop := x.attr ≠ .maxQueueSize

/-- What a request asks for. -/
def Setting.apply (x : Setting) (a : MqAttr) : MqAttr :=
  match x.attr with
  | .maxMessageSize => { a with msgsize := x.value }
  | .maxMessageInQueue => { a with maxmsg := x.value }
  | .maxQueueSize => a

/-- What a sequence of requests asks for: the last value of each attribute, or the default. -/
def requested (xs : List Setting) : MqAttr := xs.foldl (fun a x => x.apply a) defaultAttr

/-- The handle after a sequence of requests. -/
def setAll (q : PosixQueue) (xs : List Setting) : PosixQueue :=
  xs.foldl (fun q x => (queueSetAttribute q x.attr x.value).2) q

/-! ## An open handle -/

/-- A handle and the kernel behind it. -/
structure View where
  kernel : MqKernel
  queue : PosixQueue

/-- What happens to an open handle: a request, or messages coming and going in its queue. -/
inductive Use where
  | set (x : Setting)
  | traffic (msgs : List Bytes)

def View.use (v : View) : Use → View
  | .set x => { v with queue := (queueSetAttribute v.queue x.attr x.value).2 }
  | .traffic msgs =>
      match v.queue.mq with
      | none => v
      | some d => { v with kernel := v.kernel.setMsgs d.qid msgs }

/-- What `queue_get_attribute` reports is what the kernel's queue has. -/
def View.Coherent (v : View) : Prop :=
  ∃ d kq, v.queue.mq = some d ∧ v.kernel.objects d.qid = some kq ∧
    queueGetAttribute v.queue .maxMessageSize = .ok kq.attr.msgsize ∧
    queueGetAttribute v.queue .maxMessageInQueue = .ok kq.attr.maxmsg

/-- The promise of `queue.h` for a handle that `queue_init` returned as `q`, that was set up by
`pre`, opened with the result `r` and used as in `post`. -/
structure Effective (q : PosixQueue) (pre : List Setting) (flags : Flags)
    (r : Opened PosixQueue MqKernel) (post : List Use) : Prop where
  answered : flags.owner = true → ∀ xs x ys, pre = xs ++ x :: ys → x.Supported →
    (queueSetAttribute (setAll q xs) x.attr x.value).1 = .ok
  created : flags.owner = true → ∃ d kq, r.queue.mq = some d ∧ r.kernel.objects d.qid = some kq ∧
    kq.attr = requested pre
  coherent : ∀ xs ys, post = xs ++ ys → (xs.foldl View.use ⟨r.kernel, r.queue⟩).Coherent

/-! ## Requests on a handle -/

/-- A handle without a file name refuses every request and stays as it is. -/
lemma setAttribute_of_none {q : PosixQueue} (hq : q.filename = none) (x : Setting) :
    queueSetAttribute q x.attr x.value = (.notOwner, q) := by
  simp [queueSetAttribute, hq]

/-- A handle with a file name takes over what is asked for. -/
lemma setAttribute_of_some {q : PosixQueue} {name : Bytes} (hq : q.filename = some name)
    (x : Setting) :
    (queueSetAttribute q x.attr x.value).2 = { q with attr := x.apply q.attr } := by
  rcases q with ⟨mq, filename, attr⟩
  rcases x with ⟨a, value⟩
  cases hq
  cases a with
  | maxQueueSize => rfl
  | maxMessageSize => rfl
  | maxMessageInQueue => rfl

/-- No request has an effect before `queue_open` has recorded the file name. -/
lemma setAll_of_none {q : PosixQueue} (hq : q.filename = none) (xs : List Setting) :
    setAll q xs = q := by
  induction xs with
  | nil => rfl
  | cons x xs ih =>
    rw [setAll, List.foldl_cons, setAttribute_of_none hq]
    exact ih

lemma queueInit_ok {os : Os} {malloc : Bool} {q : PosixQueue} (h : queueInit os malloc = .ok q) :
    q = ⟨none, none, defaultAttr⟩ := by
  cases malloc with
  | false => simp [queueInit] at h
  | true => simpa [queueInit] using h.symm

lemma requested_of_unsupported {xs : List Setting} (hxs : ∀ x ∈ xs, ¬ x.Supported) :
    requested xs = defaultAttr := by
  unfold requested
  induction xs with
  | nil => rfl
  | cons x xs ih =>
    have hx : x.attr = .maxQueueSize := by simpa [Setting.Supported] using hxs x (by simp)
    rw [List.foldl_cons, show x.apply defaultAttr = defaultAttr by simp [Setting.apply, hx]]
    exact ih fun y hy => hxs y (List.mem_cons_of_mem _ hy)

/-- A view is coherent when the cached attributes are the kernel's. -/
lemma coherent_iff {v : View} {d : Mqd} {kq : Mq} (hd : v.queue.mq = some d)
    (hkq : v.kernel.objects d.qid = some kq) : v.Coherent ↔ v.queue.attr = kq.attr := by
  constructor
  · rintro ⟨d', kq', hd', hkq', hsize, hmax⟩
    cases hd.symm.trans hd'
    cases hkq.symm.trans hkq'
    rcases hattr : v.queue.attr with ⟨maxmsg, msgsize⟩
    rcases hkattr : kq.attr with ⟨maxmsg', msgsize'⟩
    simp only [queueGetAttribute, hattr, hkattr, Except.ok.injEq] at hsize hmax
    rw [hsize, hmax]
  · intro hattr
    exact ⟨d, kq, hd, hkq, by simp [queueGetAttribute, hattr], by simp [queueGetAttribute, hattr]⟩

/-! ## Uses of an open handle -/

/-- The handle is open on a queue with the attributes `a`. -/
def View.On (v : View) (a : MqAttr) : Prop :=
  ∃ d kq, v.queue.mq = some d ∧ v.kernel.objects d.qid = some kq ∧ kq.attr = a

/-- No use changes the attributes of the kernel's queue, or the file name. -/
lemma View.On.use {v : View} {a : MqAttr} (hon : v.On a) (u : Use) :
    (v.use u).On a ∧ (v.use u).queue.filename = v.queue.filename := by
  rcases hon with ⟨d, kq, hd, hkq, ha⟩
  cases u with
  | set x =>
    have hmq : (queueSetAttribute v.queue x.attr x.value).2.mq = v.queue.mq ∧
        (queueSetAttribute v.queue x.attr x.value).2.filename = v.queue.filename := by
      cases hfile : v.queue.filename with
      | none =>
        rw [setAttribute_of_none hfile]
        exact ⟨rfl, hfile⟩
      | some name =>
        rw [setAttribute_of_some hfile]
        exact ⟨rfl, hfile⟩
    exact ⟨⟨d, kq, hmq.1.trans hd, hkq, ha⟩, hmq.2⟩
  | traffic msgs =>
    have huse : v.use (.traffic msgs) = { v with kernel := v.kernel.setMsgs d.qid msgs } := by
      simp [View.use, hd]
    rw [huse]
    exact ⟨⟨d, _, hd, MqKernel.objects_setMsgs hkq, ha⟩, rfl⟩

lemma View.On.coherent_iff {v : View} {a : MqAttr} (hon : v.On a) :
    v.Coherent ↔ v.queue.attr = a := by
  rcases hon with ⟨d, kq, hd, hkq, rfl⟩
  exact Posix.coherent_iff hd hkq

lemma View.On.run {v : View} {a : MqAttr} (hon : v.On a) (us : List Use) :
    (us.foldl View.use v).On a ∧ (us.foldl View.use v).queue.filename = v.queue.filename := by
  induction us generalizing v with
  | nil => exact ⟨hon, rfl⟩
  | cons u us ih =>
    rcases hon.use u with ⟨hon', hfile⟩
    rcases ih hon' with ⟨hrun, hfile'⟩
    exact ⟨hrun, hfile'.trans hfile⟩

/-- A use leaves the cache at `a`: it is no request, or one that asks for what `a` has. -/
def Use.Keeps (u : Use) (a : MqAttr) : Prop :=
  ∀ x, u = .set x → x.apply a = a

lemma View.use_attr {v : View} {u : Use} (hu : v.queue.filename = none ∨ u.Keeps v.queue.attr) :
    (v.use u).queue.attr = v.queue.attr := by
  cases u with
  | traffic msgs => cases h : v.queue.mq <;> simp [View.use, h]
  | set x =>
    cases hfile : v.queue.filename with
    | none => simp [View.use, setAttribute_of_none hfile]
    | some name =>
      have hkeeps : x.apply v.queue.attr = v.queue.attr := by
        rcases hu with hnone | hkeeps
        · rw [hfile] at hnone
          cases hnone
        · exact hkeeps x rfl
      simp [View.use, setAttribute_of_some hfile, hkeeps]

/-- The cache agrees with the kernel all along when it does at first and no use touches it. -/
lemma View.On.run_coherent {v : View} {a : MqAttr} (hon : v.On a) (hattr : v.queue.attr = a)
    {us : List Use} (hus : v.queue.filename = none ∨ ∀ u ∈ us, u.Keeps a) :
    (us.foldl View.use v).Coherent := by
  induction us generalizing v with
  | nil => exact hon.coherent_iff.mpr hattr
  | cons u us ih =>
    rcases hon.use u with ⟨hon', hfile⟩
    have hu : v.queue.filename = none ∨ u.Keeps v.queue.attr := by
      rw [hattr]
      exact hus.imp_right fun h => h u (by simp)
    refine ih hon' ((View.use_attr hu).trans hattr) ?_
    rw [hfile]
    exact hus.imp_right fun h w hw => h w (List.mem_cons_of_mem _ hw)

/-- On an owner's handle a request the cache agrees with before and after asks for nothing new. -/
lemma View.On.keeps_of_coherent {v : View} {a : MqAttr} {name : Bytes} (hon : v.On a)
    (hfile : v.queue.filename = some name) {us : List Use} {u : Use}
    (hbefore : (us.foldl View.use v).Coherent)
    (hafter : ((us ++ [u]).foldl View.use v).Coherent) : u.Keeps a := by
  intro x hx
  subst hx
  rcases hon.run us with ⟨honus, hfileus⟩
  have hcache := honus.coherent_iff.mp hbefore
  have hcache' := (hon.run (us ++ [.set x])).1.coherent_iff.mp hafter
  rw [List.foldl_append, List.foldl_cons, List.foldl_nil] at hcache'
  rw [View.use, setAttribute_of_some (hfileus.trans hfile), hcache] at hcache'
  exact hcache'

/-! ## The promise -/

section Promise

variable {os : Os} {out : OpenOutcome} {uid self : Nat} {k : MqKernel} {umask : Nat}
  {name : Bytes} {flags : Flags}

/-- Attribute setting keeps its promise for a sender always, and for an owner exactly when no
supported attribute is set before the open and nothing but the defaults is set afterwards. -/
theorem effective_iff {malloc : Bool} {q : PosixQueue} {pre : List Setting} {post : List Use}
    (hinit : queueInit os malloc = .ok q)
    (hopen : (queueOpen os out uid self k umask (setAll q pre) name flags).ok = true) :
    Effective q pre flags (queueOpen os out uid self k umask (setAll q pre) name flags) post ↔
      (flags.owner = true → (∀ x ∈ pre, ¬ x.Supported) ∧ ∀ u ∈ post, u.Keeps defaultAttr) := by
  cases queueInit_ok hinit
  have hset : ∀ xs, setAll ⟨none, none, defaultAttr⟩ xs = ⟨none, none, defaultAttr⟩ :=
    setAll_of_none rfl
  rw [hset] at hopen ⊢
  cases howner : flags.owner with
  | false =>
    -- a sender's cache was read from the kernel by the open, and its requests are all refused
    rcases queueOpen_sender_ok howner hopen with ⟨d, kq, hd, hkq, hattr⟩
    have hopened : (queueOpen os out uid self k umask ⟨none, none, defaultAttr⟩ name
          flags).kernel = k ∧
        (queueOpen os out uid self k umask ⟨none, none, defaultAttr⟩ name
          flags).queue.filename = none := by
      rcases queueOpen_sender out name howner with ⟨hk, hfile, -⟩
      exact ⟨hk, hfile⟩
    rw [← hopened.1] at hkq
    constructor
    · intro _ h
      cases h
    · intro _
      refine ⟨by simp [howner], by simp [howner], ?_⟩
      intro xs ys _
      exact View.On.run_coherent ⟨d, kq, hd, hkq, rfl⟩ hattr (.inl hopened.2)
  | true =>
    rw [(queueOpen_owner_ok howner hopen).2]
    have hnew : (k.create ⟨name, defaultAttr, [], uid, self⟩).objects k.next =
        some ⟨name, defaultAttr, [], uid, self⟩ :=
      Registry.create_objects_self k _
    have hon : View.On ⟨k.create ⟨name, defaultAttr, [], uid, self⟩,
        ⟨some ⟨k.next, flags.sender⟩, some name, defaultAttr⟩⟩ defaultAttr :=
      ⟨_, _, rfl, hnew, rfl⟩
    constructor
    · intro heff _
      refine ⟨fun x hx hsup => ?_, fun u hu => ?_⟩
      · -- the request is refused: the handle has no file name yet
        rcases List.append_of_mem hx with ⟨xs, ys, hpre⟩
        have hanswer := heff.answered howner xs x ys hpre hsup
        rw [hset, setAttribute_of_none rfl] at hanswer
        cases hanswer
      · -- compare the cache right before the use and right after it
        rcases List.append_of_mem hu with ⟨xs, ys, hpost⟩
        refine hon.keeps_of_coherent rfl (heff.coherent xs (u :: ys) hpost) ?_
        exact heff.coherent (xs ++ [u]) ys (by simp [hpost])
    · intro h
      rcases h rfl with ⟨hpre, hpost⟩
      refine ⟨?_, ?_, ?_⟩
      · intro _ xs x ys hxs hsup
        exact absurd hsup (hpre x (by simp [hxs]))
      · intro _
        exact ⟨_, _, rfl, hnew, (requested_of_unsupported hpre).symm⟩
      · intro xs ys hxs
        exact hon.run_coherent rfl (.inr fun u hu => hpost u (by simp [hxs, hu]))

/-- An owner who sets nothing, or only the unsupported attribute, gets what the handle reports. -/
theorem effective_defaults :
    Effective ⟨none, none, defaultAttr⟩ [⟨.maxQueueSize, 5⟩] ⟨false, true⟩
      (queueOpen Os.linux noFailure 0 0 .empty 0o22 ⟨none, none, defaultAttr⟩ (str "/banip")
        ⟨false, true⟩)
      [.traffic [str "1.2.3.4"], .set ⟨.maxMessageSize, 1024⟩] := by
  have hinit : queueInit Os.linux true = .ok ⟨none, none, defaultAttr⟩ := rfl
  have hopen : (queueOpen Os.linux noFailure 0 0 .empty 0o22
      (setAll ⟨none, none, defaultAttr⟩ [⟨.maxQueueSize, 5⟩]) (str "/banip")
      ⟨false, true⟩).ok = true := rfl
  refine (effective_iff hinit hopen).mpr fun _ => ⟨?_, ?_⟩
  · simp [Setting.Supported]
  · simp [Use.Keeps, Setting.apply, defaultAttr]

/-- `banipd -b 4096`: the request is refused, and the queue is created with messages of 1024
bytes.  Made after the open it is answered with `QUEUE_ERR_OK`, `queue_get_attribute` reports 4096,
and the kernel's queue still has 1024. -/
theorem msgsize_not_effective :
    let q : PosixQueue := ⟨none, none, defaultAttr⟩
    let r := queueOpen Os.linux noFailure 0 0 .empty 0o22 (setAll q [⟨.maxMessageSize, 4096⟩])
      (str "/banip") ⟨false, true⟩
    let s := queueSetAttribute r.queue .maxMessageSize 4096
    queueInit Os.linux true = .ok q ∧
      (queueSetAttribute q .maxMessageSize 4096).1 = .notOwner ∧
      r.ok = true ∧
      (r.kernel.lookup (str "/banip")).map (·.attr.msgsize) = some 1024 ∧
      s.1 = .ok ∧
      queueGetAttribute s.2 .maxMessageSize = .ok 4096 ∧
      ¬ Effective q [⟨.maxMessageSize, 4096⟩] ⟨false, true⟩ r [] ∧
      ¬ Effective q [] ⟨false, true⟩ r [.set ⟨.maxMessageSize, 4096⟩] := by
  refine ⟨rfl, rfl, rfl, rfl, rfl, rfl, fun heff => ?_, fun heff => ?_⟩
  · have hanswer := heff.answered rfl [] ⟨.maxMessageSize, 4096⟩ [] rfl (by simp [Setting.Supported])
    cases hanswer
  · rcases heff.coherent [.set ⟨.maxMessageSize, 4096⟩] [] rfl with ⟨d, kq, hd, hkq, hsize, -⟩
    cases hd
    cases hkq
    cases hsize

end Promise

end Posix
end Banip
