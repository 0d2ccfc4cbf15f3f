import Banip.Queue.Posix
import Banip.Queue.KeyName

/-!
# Failure — a failed open and the close that follows it

`queue.h` asks for a `queue_close` even after a `queue_open` that failed, and promises that it cleans
up.  The close knows only what the handle recorded before the failure, so what the open made and did
not record stays behind: the process's umask in one backend, the key file in the other.
-/

namespace Banip

open Lib

universe u v w

/-- The open `r` and the close `c` after it left nothing behind: the close returned true and set the
pointer to NULL, and the umask and the kernel are as they were. -/
structure NoTrace {Q : Type u} {K : Type v} {C : Type w} (Same : K → K → Prop) (k : K)
    (umask : Nat) (r : Opened Q K) (c : Closed Q K C) : Prop where
  ok : c.ok = true
  null : c.queue = none
  umask : r.umask = umask
  kernel : Same k c.kernel

/-! ## The POSIX backend -/

namespace Posix

/-- The same queues under the same names. -/
def Same (k k' : MqKernel) : Prop := k'.names = k.names ∧ k'.objects = k.objects

/-- A handle as `queue_init` leaves it. -/
structure Blank (q : PosixQueue) : Prop where
  mq : q.mq = none
  filename : q.filename = none

variable {os : Os} {uid self umask : Nat} {k : MqKernel} {q : PosixQueue} {out : OpenOutcome}
  {name : Bytes} {flags : Flags}

/-- Only an open that did not get as far as `mq_open` is cleaned up, and it has cleared the umask. -/
lemma noTrace_iff (howner : flags.owner = true) (hq : Blank q) (hfree : k.names name = none)
    (hfailed : (queueOpen os out uid self k umask q name flags).ok = false) :
    NoTrace Same k umask (queueOpen os out uid self k umask q name flags)
        (queueClose os uid none none (queueOpen os out uid self k umask q name flags).kernel
          (some (queueOpen os out uid self k umask q name flags).queue)) ↔
      out.strdup = false ∧ umask = 0 := by
  cases hstrdup : out.strdup with
  | false =>
    have hopen : queueOpen os out uid self k umask q name flags =
        ⟨false, { q with filename := none }, k, 0,
          some (str "strdup failed to copy \"" ++ name ++ str "\"")⟩ := by
      simp [queueOpen, howner, hstrdup]
    have hclose : queueClose os uid none none k (some { q with filename := none }) =
        ⟨true, none, k, [.freeHandle], none⟩ := by
      simp [queueClose, hq.mq, closeName]
    rw [hopen, hclose]
    constructor
    · intro htrace
      exact ⟨rfl, htrace.umask.symm⟩
    · rintro ⟨-, rfl⟩
      exact ⟨rfl, rfl, rfl, rfl, rfl⟩
  | true =>
    have hrefused : out.mqOpen = none → k.names name ≠ none := by
      intro hopen
      rw [queueOpen_created howner hstrdup hopen hfree] at hfailed
      cases hfailed
    have hopen : (queueOpen os out uid self k umask q name flags).ok = false ∧ _ :=
      queueOpen_refused howner hstrdup hrefused
    rcases hopen with ⟨-, hkernel, hqueue⟩
    refine iff_of_false ?_ (by simp)
    intro htrace
    have hok := htrace.ok
    rw [hkernel, hqueue] at hok
    -- the name was recorded and never created, so `mq_unlink` fails
    simp [queueClose, closeName, MqKernel.mqUnlink, hfree] at hok

end Posix

/-! ## The System V backend -/

namespace SystemV

/-- The same files, and the same queues under the same keys. -/
def Same (k k' : Kernel) : Prop :=
  k'.files.find = k.files.find ∧ k'.ipc.names = k.ipc.names ∧ k'.ipc.objects = k.ipc.objects

/-- A handle as `queue_init` leaves it. -/
structure Blank (q : SystemvQueue) : Prop where
  qid : q.qid = none
  buffer : q.buffer = none
  filename : q.filename = none

variable {h : Host} {os : Os} {uid umask : Nat} {k : Kernel} {q : SystemvQueue}
  {out : OpenOutcome} {name filename : Bytes} {id : Int} {flags : Flags}
  {r : Opened SystemvQueue Kernel}

/-- A handle that recorded no file leaves the kernel to the close as the open left it. -/
lemma noTrace_unrecorded (hfilename : r.queue.filename = none) :
    NoTrace Same k umask r (queueClose os uid none none r.kernel (some r.queue)) ↔
      r.umask = umask ∧ Same k r.kernel := by
  have hclose : ∃ calls, queueClose os uid none none r.kernel (some r.queue) = _ :=
    queueClose_plain none none hfilename
  rcases hclose with ⟨calls, hclose⟩
  rw [hclose]
  constructor
  · intro htrace
    exact ⟨htrace.umask, htrace.kernel⟩
  · rintro ⟨humask, hsame⟩
    exact ⟨rfl, rfl, humask, hsame⟩

/-- After the key file was made: the open fails before it records the file, or it records the file
and whatever it creates. -/
lemma openKey_failed {f : File} (howner : flags.owner = true) (hq : Blank q)
    (hf : k.files.find filename = some f)
    (hrun : openKey h os out uid k umask q filename id flags = .ok r) :
    r.umask = umask ∧
      (¬ (out.ftok = true ∧ out.strdup = true) ∧ r.queue.filename = none ∧ r.kernel = k ∨
        (out.ftok = true ∧ out.strdup = true) ∧ r.queue.filename = some filename ∧
          (r.queue.qid = none ∧ r.kernel = k ∨
            ∃ mq, k.ipc.names mq.key = none ∧ mq.uid = uid ∧ r.queue.qid = some k.ipc.next ∧
              r.kernel = { k with ipc := k.ipc.create mq })) := by
  unfold openKey at hrun
  cases hftok : out.ftok with
  | false =>
    simp only [hftok, Bool.false_eq_true, if_false] at hrun
    cases hrun
    exact ⟨rfl, Or.inl ⟨by simp, hq.filename, rfl⟩⟩
  | true =>
    cases hstrdup : out.strdup with
    | false =>
      -- the failed `strdup` is what would have recorded the file
      simp only [hftok, if_true, hf, howner, hstrdup, Bool.not_false, Bool.and_true] at hrun
      cases hrun
      exact ⟨rfl, Or.inl ⟨by simp, rfl, rfl⟩⟩
    | true =>
      simp only [hftok, if_true, hf, howner, hstrdup, Bool.not_true, Bool.and_false,
        Bool.false_eq_true, if_false] at hrun
      split at hrun
      · -- `msgget` failed: a file and no queue
        cases hrun
        exact ⟨rfl, Or.inr ⟨⟨rfl, rfl⟩, rfl, Or.inl ⟨rfl, rfl⟩⟩⟩
      · rename_i i ipc hget
        rcases Ipc.msgget_excl_ok hget with ⟨hfree, rfl, rfl⟩
        rcases openBuffer_keeps hrun with ⟨hkernel, humask, hqid, hfilename⟩
        exact ⟨humask, Or.inr ⟨⟨rfl, rfl⟩, hfilename, Or.inr ⟨_, hfree, rfl, hqid, hkernel⟩⟩⟩

/-- A file that was made and is left behind. -/
lemma not_same_of_find {k' : Kernel} {f : File} (hfree : k.files.find filename = none)
    (hf : k'.files.find filename = some f) : ¬ Same k k' := by
  rintro ⟨hfind, -⟩
  rw [hfind, hfree] at hf
  cases hf

/-- A key file that is removed again leaves the files as they were. -/
lemma find_remove_keyFile (fflush : Option Nat) (files : Files) (hfree : files.find filename = none) :
    ((keyFile h fflush files filename id uid).remove filename).find = files.find := by
  funext path
  by_cases hpath : path = filename
  · rw [hpath, Files.find_remove_self, hfree]
  · rw [Files.find_remove_of_ne hpath, find_keyFile_of_ne fflush files id hpath]

/-- A failed open that recorded its key file is cleaned up by the owner's close. -/
lemma noTrace_recorded {fflush : Option Nat} (hfree : k.files.find filename = none) (humask : r.umask = umask)
    (hfilename : r.queue.filename = some filename)
    (hmade : r.queue.qid = none ∧
        r.kernel = { k with files := keyFile h fflush k.files filename id uid } ∨
      ∃ mq, k.ipc.names mq.key = none ∧ mq.uid = uid ∧ r.queue.qid = some k.ipc.next ∧
        r.kernel = ⟨keyFile h fflush k.files filename id uid, k.ipc.create mq, k.msgmnb⟩) :
    NoTrace Same k umask r (queueClose os uid none none r.kernel (some r.queue)) := by
  have hfind : ((keyFile h fflush k.files filename id uid).remove filename).find = k.files.find :=
    find_remove_keyFile fflush k.files hfree
  have hself : (keyFile h fflush k.files filename id uid).find filename = _ :=
    find_keyFile_self fflush k.files filename id
  -- the close unlinks the file, after it has removed the queue if there is one
  rcases hmade with ⟨hqid, hkernel⟩ | ⟨mq, hkey, huid, hqid, hkernel⟩
  · have hclose : ∃ calls, queueClose os uid none none r.kernel (some r.queue) = _ :=
      queueClose_unlinks hfilename hqid (by rw [hkernel]; exact hself) (Or.inr rfl)
    rcases hclose with ⟨calls, hclose⟩
    rw [hclose, hkernel]
    exact ⟨rfl, rfl, humask, hfind, rfl, rfl⟩
  · have hobject : r.kernel.ipc.objects k.ipc.next = some mq := by
      rw [hkernel]
      exact Registry.create_objects_self k.ipc mq
    have hclose : ∃ calls, queueClose os uid none none r.kernel (some r.queue) = _ :=
      queueClose_clears hfilename hqid hobject (by rw [hkernel]; exact hself) (Or.inr huid.symm)
        (Or.inr rfl)
    rcases hclose with ⟨calls, hclose⟩
    rw [hclose, hkernel]
    rcases Registry.remove_create hkey with ⟨hnames, hobjects⟩
    exact ⟨rfl, rfl, humask, hfind, hnames, hobjects⟩

/-- What the owner's part does with a free file name: `fopen` fails, or `fwrite` fails and leaves an
empty file, or the key file is written. -/
lemma ownerFile_of_free (hsplit : ownerName os out.stack name = .ok (.ok (filename, id)))
    (hfree : k.files.find filename = none) :
    (∃ text, out.fopen ≠ none ∧ ownerFile h os out uid k.files name = .ok (k.files, .error text)) ∨
      (∃ text, (out.fopen = none ∧ out.fwrite ≠ none) ∧
        ownerFile h os out uid k.files name = .ok (k.files.create filename uid, .error text)) ∨
      (out.fopen = none ∧ out.fwrite = none) ∧ ownerFile h os out uid k.files name =
        .ok (keyFile h out.fflush k.files filename id uid, .ok (filename, id)) := by
  simp only [ownerFile, hsplit, ok_bind, Files.fopenExcl, hfree, pure_eq_ok]
  cases hfopen : out.fopen with
  | some errno => exact Or.inl ⟨_, by simp, rfl⟩
  | none =>
    cases hfwrite : out.fwrite with
    | some errno => exact Or.inr (Or.inl ⟨_, by simp, rfl⟩)
    | none => exact Or.inr (Or.inr ⟨⟨rfl, rfl⟩, rfl⟩)

/-- An open that fails in the owner's part does not touch the handle. -/
lemma queueOpen_of_ownerFile {files : Files} {text : Bytes} (howner : flags.owner = true)
    (hfile : ownerFile h os out uid k.files name = .ok (files, .error text))
    (hrun : queueOpen h os out uid k umask q name flags = .ok r) :
    r = ⟨false, q, { k with files := files }, umask, some text⟩ := by
  simp only [queueOpen, howner, if_true, hfile, ok_bind, pure_eq_ok, Except.ok.injEq] at hrun
  exact hrun.symm

/-- An open is cleaned up when it made no file, or when the calls up to the one that records the file
succeeded. -/
lemma noTrace_iff (howner : flags.owner = true) (hq : Blank q)
    (hfree : ∀ filename id, ownerName os out.stack name = .ok (.ok (filename, id)) →
      k.files.find filename = none)
    (hrun : queueOpen h os out uid k umask q name flags = .ok r) :
    NoTrace Same k umask r (queueClose os uid none none r.kernel (some r.queue)) ↔
      os.maxPathLen ≤ (namePath name).length ∨ out.fopen ≠ none ∨
        out.fwrite = none ∧ out.ftok = true ∧ out.strdup = true := by
  by_cases hlong : os.maxPathLen ≤ (namePath name).length
  · have hfile : ownerFile h os out uid k.files name =
        .ok (k.files, .error (nameOverflow os name)) := by
      simp only [ownerFile, ownerName_long hlong, ok_bind, pure_eq_ok]
    rw [queueOpen_of_ownerFile howner hfile hrun, noTrace_unrecorded hq.filename]
    exact iff_of_true ⟨rfl, rfl, rfl, rfl⟩ (Or.inl hlong)
  · have hsplit : ∃ filename id, ownerName os out.stack name = .ok (.ok (filename, id)) := by
      refine ownerName_splits (by omega) ?_
      intro fault hfault
      simp [queueOpen, howner, ownerFile, hfault, bind, Except.bind] at hrun
    rcases hsplit with ⟨filename, id, hsplit⟩
    have hfind := hfree filename id hsplit
    rcases ownerFile_of_free (h := h) hsplit hfind with
      ⟨text, hfopen, hfile⟩ | ⟨text, ⟨hfopen, hfwrite⟩, hfile⟩ | ⟨⟨hfopen, hfwrite⟩, hfile⟩
    · rw [queueOpen_of_ownerFile howner hfile hrun, noTrace_unrecorded hq.filename]
      exact iff_of_true ⟨rfl, rfl, rfl, rfl⟩ (Or.inr (Or.inl hfopen))
    · -- an empty file that the handle knows nothing of
      rw [queueOpen_of_ownerFile howner hfile hrun, noTrace_unrecorded hq.filename]
      refine iff_of_false ?_ (by simp [hlong, hfopen, hfwrite])
      rintro ⟨-, hsame⟩
      exact not_same_of_find hfind (Files.find_create_self _ _ _) hsame
    · simp only [queueOpen, howner, if_true, hfile, ok_bind] at hrun
      have hself : (keyFile h out.fflush k.files filename id uid).find filename = _ :=
        find_keyFile_self out.fflush k.files filename id
      rcases openKey_failed howner hq hself hrun with
        ⟨humask, ⟨hcalls, hfilename, hkernel⟩ | ⟨hcalls, hfilename, hmade⟩⟩
      · rw [noTrace_unrecorded hfilename]
        refine iff_of_false ?_ (by simp [hlong, hfopen, hfwrite, hcalls])
        rintro ⟨-, hsame⟩
        rw [hkernel] at hsame
        exact not_same_of_find hfind hself hsame
      · exact iff_of_true (noTrace_recorded hfind humask hfilename hmade)
          (Or.inr (Or.inr ⟨hfwrite, hcalls⟩))

end SystemV

/-- A failed owner's open and one close after it, by the same user and without failures of its own,
leave no trace: in the POSIX backend exactly when `strdup` failed in a process without a umask, in the
System V backend exactly when no key file was made or the calls up to `strdup` succeeded. -/
theorem failed_open_noTrace_iff (h : Host) (os : Os) (uid umask : Nat) (name : Bytes) (flags : Flags)
    (howner : flags.owner = true) :
    (∀ (out : Posix.OpenOutcome) (self : Nat) (k : MqKernel) (q : Posix.PosixQueue)
        (r : Opened Posix.PosixQueue MqKernel),
        Posix.Blank q → k.names name = none →
        Posix.queueOpen os out uid self k umask q name flags = r → r.ok = false →
        (NoTrace Posix.Same k umask r
            (Posix.queueClose os uid none none r.kernel (some r.queue)) ↔
          out.strdup = false ∧ umask = 0)) ∧
      ∀ (out : SystemV.OpenOutcome) (k : SystemV.Kernel) (q : SystemV.SystemvQueue)
        (r : Opened SystemV.SystemvQueue SystemV.Kernel),
        SystemV.Blank q →
        (∀ filename id, SystemV.ownerName os out.stack name = .ok (.ok (filename, id)) →
          k.files.find filename = none) →
        SystemV.queueOpen h os out uid k umask q name flags = .ok r → r.ok = false →
        (NoTrace SystemV.Same k umask r
            (SystemV.queueClose os uid none none r.kernel (some r.queue)) ↔
          os.maxPathLen ≤ (SystemV.namePath name).length ∨ out.fopen ≠ none ∨
            out.fwrite = none ∧ out.ftok = true ∧ out.strdup = true) := by
  constructor
  · rintro out self k q r hq hfree rfl hfailed
    exact Posix.noTrace_iff howner hq hfree hfailed
  · intro out k q r hq hfree hrun _
    exact SystemV.noTrace_iff howner hq hfree hrun

/-- `msgget` fails with ENOSPC: the close removes the key file again. -/
theorem failed_open_noTrace_iff_msgget :
    ∃ r, SystemV.queueOpen Host.lp64 Os.linux
        { SystemV.calmOutcome (fun _ => 0) with msgget := some 28 } 0 SystemV.blankKernel 0o22
        ⟨none, none, none, 0⟩ (str "/tmp/banip") ⟨false, true⟩ = .ok r ∧ r.ok = false ∧
      NoTrace SystemV.Same SystemV.blankKernel 0o22 r
        (SystemV.queueClose Os.linux 0 none none r.kernel (some r.queue)) := by
  have hiff := (failed_open_noTrace_iff Host.lp64 Os.linux 0 0o22 (str "/tmp/banip") ⟨false, true⟩
    rfl).2 { SystemV.calmOutcome (fun _ => 0) with msgget := some 28 } SystemV.blankKernel
    ⟨none, none, none, 0⟩ _ ⟨rfl, rfl, rfl⟩ (fun _ _ _ => rfl) rfl rfl
  exact ⟨_, rfl, rfl, hiff.2 (Or.inr (Or.inr ⟨rfl, rfl, rfl⟩))⟩

/-- Three failures under a umask of 022 that leave something behind.  POSIX, `mq_open` fails with
ENOSPC: the close fails as well, and keeps the handle.  POSIX, `strdup` fails: the umask is 0.
System V, `strdup` fails: the key file stays. -/
theorem failed_opens_leave_traces :
    (∃ r : Opened Posix.PosixQueue MqKernel,
      Posix.queueOpen Os.linux ⟨true, some 28, none, []⟩ 0 0 Registry.empty 0o22
        ⟨none, none, Posix.defaultAttr⟩ (str "/banip") ⟨false, true⟩ = r ∧ r.ok = false ∧
      (Posix.queueClose Os.linux 0 none none r.kernel (some r.queue)).ok = false ∧
      (Posix.queueClose Os.linux 0 none none r.kernel (some r.queue)).queue ≠ none) ∧
    (∃ r : Opened Posix.PosixQueue MqKernel,
      Posix.queueOpen Os.linux ⟨false, none, none, []⟩ 0 0 Registry.empty 0o22
        ⟨none, none, Posix.defaultAttr⟩ (str "/banip") ⟨false, true⟩ = r ∧ r.ok = false ∧
      r.umask = 0) ∧
    ∃ r, SystemV.queueOpen Host.lp64 Os.linux
        { SystemV.calmOutcome (fun _ => 0) with strdup := false } 0 SystemV.blankKernel 0o22
        ⟨none, none, none, 0⟩ (str "/tmp/banip") ⟨false, true⟩ = .ok r ∧ r.ok = false ∧
      (SystemV.queueClose Os.linux 0 none none r.kernel (some r.queue)).kernel.files.find
        (str "/tmp/banip") ≠ none := by
  refine ⟨⟨_, rfl, rfl, rfl, ?_⟩, ⟨_, rfl, rfl, rfl⟩, _, rfl, rfl, ?_⟩
  · decide
  · decide

end Banip
