import Banip.Queue.SystemV

/-!
# KeyFile — what the owner of a System V queue creates and removes

An owner's `queue_open` makes two objects: a key file, and a queue under the key that `ftok` computes
from the inode of the file and the id written to it.  `queue_close` removes them in the other order,
and stops at the first removal that fails.
-/

namespace Banip
namespace SystemV

open Lib

variable {h : Host} {os : Os} {q : SystemvQueue} {uid umask : Nat} {k : Kernel}

/-! ## The owner's open -/

/-- The key file as the owner leaves it, if `fflush` and `fclose` do so. -/
def keyFile (h : Host) (fflush : Option Nat) (files : Files) (filename : Bytes) (id : Int)
    (uid : Nat) : Files :=
  (files.create filename uid).write filename
    (Files.written fflush (store h (BitVec.ofInt 32 id)))

/-- The owner's part fails before the key file or after it was created, or writes it. -/
lemma ownerFile_cases {out : OpenOutcome} {files files' : Files} {name : Bytes}
    {found : Except Bytes (Bytes × Int)}
    (hfile : ownerFile h os out uid files name = .ok (files', found)) :
    (files' = files ∧ ∃ text, found = .error text) ∨
      ∃ filename id, ownerName os out.stack name = .ok (.ok (filename, id)) ∧
        files.find filename = none ∧
        (files' = files.create filename uid ∧ (∃ text, found = .error text) ∨
          files' = keyFile h out.fflush files filename id uid ∧ found = .ok (filename, id)) := by
  rcases bind_eq_ok.1 hfile with ⟨text | ⟨filename, id⟩, hname, hfile⟩
  · cases hfile
    exact Or.inl ⟨rfl, _, rfl⟩
  · -- once the name is known only `fopen` and `fwrite` can fail
    cases hfopen : files.fopenExcl filename uid out.fopen with
    | error errno =>
      simp only [hfopen] at hfile
      cases hfile
      exact Or.inl ⟨rfl, _, rfl⟩
    | ok fs =>
      rcases Files.fopenExcl_ok hfopen with ⟨hfree, rfl⟩
      refine Or.inr ⟨filename, id, hname, hfree, ?_⟩
      cases hwrite : out.fwrite with
      | some errno =>
        simp only [hfopen, hwrite] at hfile
        cases hfile
        exact Or.inl ⟨rfl, _, rfl⟩
      | none =>
        simp only [hfopen, hwrite] at hfile
        cases hfile
        exact Or.inr ⟨rfl, rfl⟩

lemma find_keyFile_self (fflush : Option Nat) (files : Files) (filename : Bytes) (id : Int) :
    (keyFile h fflush files filename id uid).find filename =
      some ⟨files.nextIno, uid, Files.written fflush (store h (BitVec.ofInt 32 id))⟩ :=
  Files.find_write_self (Files.find_create_self files filename uid)

lemma find_keyFile_of_ne (fflush : Option Nat) (files : Files) {filename path : Bytes} (id : Int)
    (hne : path ≠ filename) :
    (keyFile h fflush files filename id uid).find path = files.find path := by
  rw [keyFile, Files.find_write_of_ne hne, Files.find_create_of_ne hne]

/-- The owner's part leaves every file that was there as it was. -/
lemma ownerFile_find {out : OpenOutcome} {files files' : Files} {name path : Bytes} {f : File}
    {found : Except Bytes (Bytes × Int)}
    (hfile : ownerFile h os out uid files name = .ok (files', found))
    (hf : files.find path = some f) : files'.find path = some f := by
  rcases ownerFile_cases hfile with ⟨rfl, -⟩ | ⟨filename, id, -, hfree, hmade⟩
  · exact hf
  · -- the key file was free, so it is another file
    have hne : path ≠ filename := by
      rintro rfl
      rw [hfree] at hf
      cases hf
    rcases hmade with ⟨rfl, -⟩ | ⟨rfl, -⟩
    · rw [Files.find_create_of_ne hne, hf]
    · rw [find_keyFile_of_ne out.fflush files id hne, hf]

/-- The end of the open changes nothing but the buffer. -/
lemma openBuffer_keeps {out : OpenOutcome} {i : Nat} {r : Opened SystemvQueue Kernel}
    (hrun : openBuffer h os out k umask q i = .ok r) :
    r.kernel = k ∧ r.umask = umask ∧ r.queue.qid = q.qid ∧ r.queue.filename = q.filename := by
  unfold openBuffer at hrun
  split at hrun
  · cases hrun
    exact ⟨rfl, rfl, rfl, rfl⟩
  · dsimp only at hrun
    split at hrun
    · cases hrun
      exact ⟨rfl, rfl, rfl, rfl⟩
    · split at hrun
      · cases hrun
      · cases hrun
        exact ⟨rfl, rfl, rfl, rfl⟩

/-- What follows the key file does not touch the files. -/
lemma openKey_files {out : OpenOutcome} {filename : Bytes} {id : Int} {flags : Flags}
    {r : Opened SystemvQueue Kernel}
    (hrun : openKey h os out uid k umask q filename id flags = .ok r) :
    r.kernel.files = k.files := by
  unfold openKey at hrun
  split at hrun
  · cases hrun
    rfl
  · split at hrun
    · cases hrun
      rfl
    · dsimp only at hrun
      split at hrun
      · cases hrun
        rfl
      · -- `msgget` replaced the queues only
        rw [(openBuffer_keeps hrun).1]

/-- An owner's open leaves every file that was there as it was. -/
lemma queueOpen_find {out : OpenOutcome} {name path : Bytes} {flags : Flags} {f : File}
    {r : Opened SystemvQueue Kernel} (howner : flags.owner = true)
    (hrun : queueOpen h os out uid k umask q name flags = .ok r)
    (hf : k.files.find path = some f) : r.kernel.files.find path = some f := by
  rcases queueOpen_owner_cases howner hrun with
    ⟨files, text, hfile, rfl⟩ | ⟨files, filename, id, hfile, hkey⟩
  · exact ownerFile_find hfile hf
  · rw [openKey_files hkey]
    exact ownerFile_find hfile hf

/-- The key of a queue whose key file is the next one to be created. -/
def newKey (os : Os) (files : Files) (id : Int) : Nat := os.ftok files.nextIno (BitVec.ofInt 8 id)

/-- `r` is an open in which a process of `uid` created the key file `filename` and its queue. -/
structure Made (h : Host) (os : Os) (fflush : Option Nat) (uid : Nat) (k : Kernel) (filename : Bytes)
    (id : Int) (r : Opened SystemvQueue Kernel) : Prop where
  file_free : k.files.find filename = none
  key_free : k.ipc.names (newKey os k.files id) = none
  kernel : r.kernel = ⟨keyFile h fflush k.files filename id uid,
    k.ipc.create ⟨newKey os k.files id, k.msgmnb, [], uid⟩, k.msgmnb⟩
  qid : r.queue.qid = some k.ipc.next
  filename : r.queue.filename = some filename
  fits : h.longBytes ≤ allocSize h (k.msgmnb / 8)

/-- A buffer for a queue that was just created is made when the size does not wrap. -/
lemma openBuffer_fits {out : OpenOutcome} {i : Nat} {mq : MsgQueue} {r : Opened SystemvQueue Kernel}
    (hmq : k.ipc.objects i = some mq) (hrun : openBuffer h os out k umask q i = .ok r)
    (hok : r.ok = true) : h.longBytes ≤ allocSize h (mq.qbytes / 8) := by
  cases hstat : out.stat with
  | some errno =>
    simp only [openBuffer, Ipc.stat, hstat, Except.ok.injEq] at hrun
    rw [← hrun] at hok
    cases hok
  | none =>
    simp only [openBuffer, Ipc.stat, hstat, hmq] at hrun
    split at hrun
    · cases hrun
      cases hok
    · split at hrun
      · cases hrun
      · rename_i hwrap
        exact Nat.le_of_not_lt hwrap

/-- An owner's open that succeeds has made the key file and the queue. -/
lemma queueOpen_made {out : OpenOutcome} {name : Bytes} {flags : Flags}
    {r : Opened SystemvQueue Kernel} (howner : flags.owner = true)
    (hrun : queueOpen h os out uid k umask q name flags = .ok r) (hok : r.ok = true) :
    ∃ filename id, ownerName os out.stack name = .ok (.ok (filename, id)) ∧
      Made h os out.fflush uid k filename id r := by
  rcases queueOpen_owner_cases howner hrun with
    ⟨files, text, -, rfl⟩ | ⟨files, filename, id, hfile, hkey⟩
  · cases hok
  · rcases ownerFile_cases hfile with ⟨-, text, herror⟩ | ⟨path, id', hname, hfree, hmade⟩
    · cases herror
    · rcases hmade with ⟨-, text, herror⟩ | ⟨rfl, hfound⟩
      · cases herror
      · cases hfound
        refine ⟨filename, id, hname, ?_⟩
        cases hftok : out.ftok with
        | false =>
          simp only [openKey, hftok, Bool.false_eq_true, if_false, Except.ok.injEq] at hkey
          rw [← hkey] at hok
          cases hok
        | true =>
          -- left to fail: `strdup` and `msgget`
          simp only [openKey, hftok, if_true, find_keyFile_self, howner, Bool.true_and] at hkey
          split at hkey
          · cases hkey
            cases hok
          · split at hkey
            · cases hkey
              cases hok
            · rename_i i ipc hget
              rcases Ipc.msgget_excl_ok hget with ⟨hfreeKey, rfl, rfl⟩
              rcases openBuffer_keeps hkey with ⟨hkernel, -, hqid, hfilename⟩
              have hfits := openBuffer_fits (Registry.create_objects_self k.ipc _) hkey hok
              exact ⟨hfree, hfreeKey, hkernel, hqid, hfilename, hfits⟩

/-- No call of the open fails for a reason of the environment. -/
structure OpenOutcome.Succeeds (out : OpenOutcome) : Prop where
  fopen : out.fopen = none
  fwrite : out.fwrite = none
  fflush : out.fflush = none
  ftok : out.ftok = true
  strdup : out.strdup = true
  msgget : out.msgget = none
  stat : out.stat = none
  malloc : out.malloc = true

/-- An owner's open succeeds when the file and the key are free. -/
lemma queueOpen_succeeds {out : OpenOutcome} {name filename : Bytes} {id : Int} {flags : Flags}
    (howner : flags.owner = true) (hout : out.Succeeds)
    (hname : ownerName os out.stack name = .ok (.ok (filename, id)))
    (hfile : k.files.find filename = none) (hkey : k.ipc.names (newKey os k.files id) = none)
    (hfits : h.longBytes ≤ allocSize h (k.msgmnb / 8)) :
    ∃ r, queueOpen h os out uid k umask q name flags = .ok r ∧ r.ok = true := by
  have hopen : ownerFile h os out uid k.files name =
      .ok (keyFile h out.fflush k.files filename id uid, .ok (filename, id)) := by
    simp [ownerFile, hname, ok_bind, Files.fopenExcl, hout.fopen, hfile, hout.fwrite, keyFile,
      pure_eq_ok]
  have hget : k.ipc.msgget (os.ftok k.files.nextIno (BitVec.ofInt 8 id)) true uid k.msgmnb none =
      .ok (k.ipc.next, k.ipc.create ⟨newKey os k.files id, k.msgmnb, [], uid⟩) := by
    unfold newKey at hkey ⊢
    simp [Ipc.msgget, hkey]
  simp only [queueOpen, howner, if_true, hopen, ok_bind, openKey, hout.ftok, find_keyFile_self,
    hout.strdup, Bool.not_true, Bool.and_false, Bool.false_eq_true, if_false, hout.msgget, hget,
    openBuffer, hout.stat, Ipc.stat, Registry.create_objects_self, hout.malloc,
    Nat.not_lt.2 hfits, Except.ok.injEq, exists_eq_left']

/-! ## The owner's close -/

section

variable {path : Bytes} {i : Nat} {mq : MsgQueue} {f : File}

/-- The blocks are freed whatever the handle holds. -/
lemma closeBuffer_done (calls : List Release) :
    ∃ calls', closeBuffer k q calls = ⟨true, none, k, calls', none⟩ := by
  cases hbuffer : q.buffer <;> simp [closeBuffer, hbuffer]

/-- A handle without a key file has nothing to remove. -/
lemma queueClose_plain (rmidFails unlinkFails : Option Nat) (hfilename : q.filename = none) :
    ∃ calls, queueClose os uid rmidFails unlinkFails k (some q) = ⟨true, none, k, calls, none⟩ := by
  simp only [queueClose, hfilename]
  exact closeBuffer_done []

lemma queueClose_of_none (rmidFails unlinkFails : Option Nat) (hfilename : q.filename = none) :
    (queueClose os uid rmidFails unlinkFails k (some q)).kernel = k := by
  have hclose : ∃ calls, queueClose os uid rmidFails unlinkFails k (some q) = _ :=
    queueClose_plain rmidFails unlinkFails hfilename
  rcases hclose with ⟨calls, hclose⟩
  rw [hclose]

lemma closeFile_done (hf : k.files.find path = some f) (hfuid : uid = 0 ∨ uid = f.uid)
    (calls : List Release) :
    ∃ calls', closeFile os uid none k q path calls =
      ⟨true, none, { k with files := k.files.remove path }, calls', none⟩ := by
  have hunlink : k.files.unlink path uid none = .ok (k.files.remove path) := by
    simp [Files.unlink, hf, hfuid]
  simp only [closeFile, hunlink]
  exact closeBuffer_done _

/-- An owner without a queue removes the key file. -/
lemma queueClose_unlinks (hfilename : q.filename = some path) (hqid : q.qid = none)
    (hf : k.files.find path = some f) (hfuid : uid = 0 ∨ uid = f.uid) :
    ∃ calls, queueClose os uid none none k (some q) =
      ⟨true, none, { k with files := k.files.remove path }, calls, none⟩ := by
  simp only [queueClose, hfilename, hqid]
  exact closeFile_done hf hfuid []

/-- Who may remove both objects removes them. -/
lemma queueClose_clears (hfilename : q.filename = some path) (hqid : q.qid = some i)
    (hmq : k.ipc.objects i = some mq) (hf : k.files.find path = some f)
    (huid : uid = 0 ∨ uid = mq.uid) (hfuid : uid = 0 ∨ uid = f.uid) :
    ∃ calls, queueClose os uid none none k (some q) =
      ⟨true, none, ⟨k.files.remove path, k.ipc.remove i, k.msgmnb⟩, calls, none⟩ := by
  have hrmid : k.ipc.rmid i uid none = .ok (k.ipc.remove i) := by simp [Ipc.rmid, hmq, huid]
  simp only [queueClose, hfilename, hqid, hrmid]
  exact closeFile_done (k := { k with ipc := k.ipc.remove i }) hf hfuid _

lemma queueClose_removes (hfilename : q.filename = some path) (hqid : q.qid = some i)
    (hmq : k.ipc.objects i = some mq) (hf : k.files.find path = some f)
    (huid : uid = 0 ∨ uid = mq.uid) (hfuid : uid = 0 ∨ uid = f.uid) :
    (queueClose os uid none none k (some q)).kernel =
      ⟨k.files.remove path, k.ipc.remove i, k.msgmnb⟩ := by
  have hclose : ∃ calls, queueClose os uid none none k (some q) = _ :=
    queueClose_clears hfilename hqid hmq hf huid hfuid
  rcases hclose with ⟨calls, hclose⟩
  rw [hclose]

/-- Who may not remove the queue leaves the key file, too. -/
lemma queueClose_denied (rmidFails unlinkFails : Option Nat) (hfilename : q.filename = some path)
    (hqid : q.qid = some i) (hmq : k.ipc.objects i = some mq) (huid : uid ≠ 0 ∧ uid ≠ mq.uid) :
    (queueClose os uid rmidFails unlinkFails k (some q)).kernel = k := by
  cases rmidFails with
  | some errno => simp [queueClose, hfilename, hqid, Ipc.rmid]
  | none => simp [queueClose, hfilename, hqid, Ipc.rmid, hmq, huid.1, huid.2]

end

/-! ## A receive -/

/-- A receive changes nothing but messages and the buffer; when it returns `-1` it reports an error of
`msgrcv`. -/
lemma queueReceive_effect {k : Ipc} {buffer : Bytes} {size errno : Nat} {fails : Option Nat}
    {r : Received SystemvQueue Ipc}
    (hrun : queueReceive os k q buffer size fails errno = .ok r) :
    r.queue.qid = q.qid ∧ r.queue.filename = q.filename ∧
      (r.kernel = k ∨ ∃ i msgs, r.kernel = k.setMsgs i msgs) ∧
      (r.read = -1 → ∃ e, r.error = some (systemError (str "msgrcv failed") (os.strerror e))) := by
  unfold queueReceive at hrun
  cases hqid : q.qid with
  | none =>
    simp only [hqid, Except.ok.injEq] at hrun
    subst hrun
    exact ⟨hqid, rfl, Or.inl rfl, fun _ => ⟨_, rfl⟩⟩
  | some i =>
    simp only [hqid] at hrun
    cases hrcv : k.msgrcv i size fails with
    | error e =>
      simp only [hrcv, Except.ok.injEq] at hrun
      subst hrun
      exact ⟨hqid, rfl, Or.inl rfl, fun _ => ⟨_, rfl⟩⟩
    | ok taken =>
      rcases taken with ⟨m, k'⟩
      rcases Ipc.msgrcv_ok hrcv with ⟨mq, msgs, -, -, -, rfl⟩
      cases hbuffer : q.buffer with
      | none => simp [hrcv, hbuffer] at hrun
      | some area =>
        simp only [hrcv, hbuffer] at hrun
        rcases bind_eq_ok.1 hrun with ⟨area', -, hrun⟩
        split at hrun
        · cases hrun
          exact ⟨rfl, rfl, Or.inr ⟨i, msgs, rfl⟩, fun _ => ⟨_, rfl⟩⟩
        · rename_i hread
          rcases bind_eq_ok.1 hrun with ⟨s, -, hrun⟩
          rcases bind_eq_ok.1 hrun with ⟨buffer', -, hrun⟩
          cases hrun
          exact ⟨rfl, rfl, Or.inr ⟨i, msgs, rfl⟩, fun h => absurd h hread⟩

end SystemV
end Banip
