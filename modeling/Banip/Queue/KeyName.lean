import Banip.Queue.KeyFile

/-!
# KeyName — the syntax of a System V queue name

The owner of a queue is given `path` or `path:c`.  It splits the name, creates the file `path` and
writes the id to it; a C sender and the PHP client are given `path` and read the id back, each in its
own way.  The three agree on a queue when they give `ftok` the same path and the same low eight bits.

The copy of the path of a `path:c` is made by `strncpy`, which leaves whatever the array held behind
it; the id of `path:` is the NUL that ends the name; and the PHP client reads the first byte of an
`int` that a C program wrote.
-/

namespace Banip
namespace SystemV

open Lib

/-! ## Names -/

/-- The part of a queue name before its first colon. -/
def namePath (name : Bytes) : Bytes := name.take ((strchr name (chr ':')).getD name.length)

/-- The id character of a queue name: `b`, or the one behind the first colon if there is one. -/
def nameId (name : Bytes) : Option Byte :=
  match strchr name (chr ':') with
  | none => some (chr 'b')
  | some s => name[s + 1]?

/-- `BanIPClient::__construct` up to `ftok`: the path and the project character.  `unpack('c', ..)` and
`chr` make the first byte of the file a character again; of no file, or an empty one, `chr` makes a
NUL. -/
def construct (files : Files) (path : Bytes) : Bytes × Byte :=
  (path, (((files.find path).map File.data).getD []).headD 0)

/-- The pair a C sender gives to `ftok`: the path and the low eight bits of the id. -/
def senderPair (h : Host) (os : Os) (out : OpenOutcome) (files : Files) (path : Bytes) :
    Except Bytes (Bytes × Byte) :=
  (senderFile h os out files path).map fun (filename, id) => (filename, BitVec.ofInt 8 id)

section

variable {os : Os} {stack : Nat → Byte} {name : Bytes}

lemma namePath_plain (hcolon : strchr name (chr ':') = none) : namePath name = name := by
  simp [namePath, hcolon]

lemma namePath_colon {s : Nat} (hcolon : strchr name (chr ':') = some s) :
    namePath name = name.take s := by
  simp [namePath, hcolon]

lemma strchr_lt {s : Bytes} {c : Byte} {i : Nat} (h : strchr s c = some i) : i < s.length := by
  rcases List.findIdx?_eq_some_iff_getElem.1 h with ⟨hi, -⟩
  exact hi

lemma namePath_length_colon {s : Nat} (hcolon : strchr name (chr ':') = some s) :
    (namePath name).length = s := by
  rw [namePath_colon hcolon, List.length_take, Nat.min_eq_left (strchr_lt hcolon).le]

/-! ## What the owner makes of a name -/

/-- A path that does not fit is refused. -/
lemma ownerName_long (hlong : os.maxPathLen ≤ (namePath name).length) :
    ownerName os stack name = .ok (.error (nameOverflow os name)) := by
  unfold ownerName
  cases hcolon : strchr name (chr ':') with
  | none =>
    rw [namePath_plain hcolon] at hlong
    simp [strlcpy, hlong]
  | some s =>
    rw [namePath_length_colon hcolon] at hlong
    simp [hlong]

lemma ownerName_plain (hcolon : strchr name (chr ':') = none)
    (hfits : (namePath name).length < os.maxPathLen) :
    ownerName os stack name = .ok (.ok (namePath name, os.intOfChar (chr 'b'))) := by
  rw [namePath_plain hcolon] at hfits ⊢
  have htake : name.take (os.maxPathLen - 1) = name := List.take_of_length_le (by omega)
  simp [ownerName, hcolon, strlcpy, htake, Nat.not_le.2 hfits]

/-- The array after `strncpy`: the path, and behind it what the stack held. -/
lemma ownerName_colon {s : Nat} (hcolon : strchr name (chr ':') = some s)
    (hfits : (namePath name).length < os.maxPathLen) :
    ownerName os stack name =
      (strread (namePath name ++ (block stack os.maxPathLen).drop s)).map
        fun filename => .ok (filename, os.intOfChar ((nameId name).getD 0)) := by
  have hlen := namePath_length_colon hcolon
  rw [hlen] at hfits
  have hid : (name ++ [0]).getD (s + 1) 0 = (nameId name).getD 0 := by
    simp only [nameId, hcolon, List.getD_eq_getElem?_getD]
    by_cases hs : s + 1 < name.length
    · rw [List.getElem?_append_left hs]
    · have hend : s + 1 = name.length := by
        have := strchr_lt hcolon
        omega
      simp [hend]
  have hcopy : memcpy (block stack os.maxPathLen) (namePath name) =
      .ok (namePath name ++ (block stack os.maxPathLen).drop s) := by
    simp [memcpy, hlen, hfits.le]
  simp only [ownerName, hcolon, Nat.not_le.2 hfits, if_false, hid, ← namePath_colon hcolon, hcopy,
    ok_bind]
  cases strread (namePath name ++ (block stack os.maxPathLen).drop s) <;> rfl

/-- The id of an owner is a character. -/
lemma ownerName_id {filename : Bytes} {id : Int}
    (hsplit : ownerName os stack name = .ok (.ok (filename, id))) : ∃ c : Byte, os.intOfChar c = id := by
  by_cases hlong : os.maxPathLen ≤ (namePath name).length
  · rw [ownerName_long hlong] at hsplit
    cases hsplit
  · have hfits : (namePath name).length < os.maxPathLen := by omega
    cases hcolon : strchr name (chr ':') with
    | none =>
      rw [ownerName_plain hcolon hfits] at hsplit
      cases hsplit
      exact ⟨_, rfl⟩
    | some s =>
      rw [ownerName_colon hcolon hfits] at hsplit
      cases hread : strread (namePath name ++ (block stack os.maxPathLen).drop s) with
      | error fault =>
        rw [hread] at hsplit
        cases hsplit
      | ok text =>
        rw [hread] at hsplit
        cases hsplit
        exact ⟨_, rfl⟩

lemma namePath_nul_free (hname : (0 : Byte) ∉ name) : (0 : Byte) ∉ namePath name :=
  fun hmem => hname (List.mem_of_mem_take hmem)

/-- A NUL that happens to stand behind the copy makes the file name the path. -/
lemma ownerName_colon_terminated {s : Nat} (hcolon : strchr name (chr ':') = some s)
    (hfits : (namePath name).length < os.maxPathLen) (hname : (0 : Byte) ∉ name)
    (hnul : stack (namePath name).length = 0) :
    ownerName os stack name = .ok (.ok (namePath name, os.intOfChar ((nameId name).getD 0))) := by
  rw [ownerName_colon hcolon hfits]
  rw [namePath_length_colon hcolon] at hnul hfits
  rw [block_drop hfits, hnul, strread_of_mem (by simp), cstr_append_nul (namePath_nul_free hname)]
  rfl

/-- Anything else that stands there becomes part of the file name. -/
lemma ownerName_colon_garbage {s : Nat} (hcolon : strchr name (chr ':') = some s)
    (hfits : (namePath name).length < os.maxPathLen) (hname : (0 : Byte) ∉ name)
    (hnul : stack (namePath name).length ≠ 0) {filename : Bytes} {id : Int}
    (hok : ownerName os stack name = .ok (.ok (filename, id))) :
    filename ≠ namePath name := by
  rw [ownerName_colon hcolon hfits] at hok
  rw [namePath_length_colon hcolon] at hnul hfits
  rw [block_drop hfits] at hok
  rcases map_eq_ok.1 hok with ⟨text, hread, hpair⟩
  have htext : text = cstr (namePath name ++ stack s ::
      (block stack os.maxPathLen).drop (s + 1)) := by
    unfold strread at hread
    split at hread
    · cases hread
      rfl
    · cases hread
  have hfilename : text = filename := by
    simp only [Except.ok.injEq, Prod.mk.injEq] at hpair
    exact hpair.1
  rw [← hfilename, htext, cstr_append_of_not_mem (namePath_nul_free hname), cstr_cons, if_neg hnul]
  intro heq
  simpa using congrArg List.length heq

end

/-! ## The readers of a key file -/

section

variable {h : Host} {os : Os} {files : Files} {path : Bytes} {uid : Nat}

/-- A character that is stored as an `int` is the same number. -/
lemma toInt_intOfChar (os : Os) (c : Byte) :
    (BitVec.ofInt 32 (os.intOfChar c)).toInt = os.intOfChar c := by
  have hsigned : ∀ c : Byte, (BitVec.ofInt 32 c.toInt).toInt = c.toInt := by decide
  have hunsigned : ∀ c : Byte, (BitVec.ofInt 32 (c.toNat : Int)).toInt = c.toNat := by decide
  cases hchar : os.charSigned with
  | true => simpa [Os.intOfChar, hchar] using hsigned c
  | false => simpa [Os.intOfChar, hchar] using hunsigned c

lemma lowByte_intOfChar (os : Os) (c : Byte) :
    BitVec.ofInt 8 (BitVec.ofInt 32 (os.intOfChar c)).toInt = c := by
  rw [toInt_intOfChar]
  cases hchar : os.charSigned with
  | true => simp [Os.intOfChar, hchar]
  | false => simp [Os.intOfChar, hchar]

lemma loadInt_store (h : Host) (w : Word) (rest : Bytes) :
    loadInt h (store h w ++ rest) = w.toInt := by
  have hbyte : ∀ i < 4, (store h w ++ rest).getD i 0 = (store h w).getD i 0 := by
    intro i hi
    have hi' : i < (store h w).length := by rwa [store_length]
    rw [List.getD_eq_getElem?_getD, List.getD_eq_getElem?_getD, List.getElem?_append_left hi']
  rw [loadInt, hbyte 0 (by decide), hbyte 1 (by decide), hbyte 2 (by decide), hbyte 3 (by decide),
    load_store]

/-- The check after `fread` never fails: whatever was read, 0 items or 1 is less than 4. -/
lemma fread_check (n : Nat) : ¬ 1 ≠ (if (if 4 ≤ n then 1 else 0) < 4 then 1 else 0) := by
  by_cases hn : 4 ≤ n <;> simp [hn]

lemma senderFile_of_read {out : OpenOutcome} {data : Bytes} (hfits : path.length < os.maxPathLen)
    (hread : files.fopenRead path out.fopen = .ok data) :
    senderFile h os out files path =
      .ok (path, loadInt h (data.take 4 ++ out.idStack.drop (data.take 4).length)) := by
  have htake : path.take (os.maxPathLen - 1) = path := List.take_of_length_le (by omega)
  simp only [senderFile, strlcpy, htake, Nat.not_le.2 hfits, if_false, hread,
    if_neg (fread_check data.length)]

/-- A C sender reads the id back as it was written. -/
lemma senderPair_keyFile {out : OpenOutcome} (hfopen : out.fopen = none)
    (hfits : path.length < os.maxPathLen) (c : Byte) :
    senderPair h os out (keyFile h none files path (os.intOfChar c) uid) path = .ok (path, c) := by
  have hread : (keyFile h none files path (os.intOfChar c) uid).fopenRead path out.fopen =
      .ok (store h (BitVec.ofInt 32 (os.intOfChar c))) := by
    simp [Files.fopenRead, hfopen, find_keyFile_self, Files.written]
  have hall : (store h (BitVec.ofInt 32 (os.intOfChar c))).take 4 =
      store h (BitVec.ofInt 32 (os.intOfChar c)) :=
    List.take_of_length_le (store_length h _).le
  rw [senderPair, senderFile_of_read hfits hread, hall, loadInt_store]
  exact congrArg (fun low => Except.ok (path, low)) (lowByte_intOfChar os c)

lemma construct_keyFile (id : Int) :
    construct (keyFile h none files path id uid) path =
      (path, (store h (BitVec.ofInt 32 id)).headD 0) := by
  simp [construct, find_keyFile_self, Files.written]

/-- The first byte of an `int` is its low byte on a little-endian host. -/
lemma headD_store_little (os : Os) (hlittle : h.bigEndian = false) (c : Byte) :
    (store h (BitVec.ofInt 32 (os.intOfChar c))).headD 0 = c := by
  have hsigned : ∀ c : Byte, (BitVec.ofInt 32 c.toInt).extractLsb' 0 8 = c := by decide
  have hunsigned : ∀ c : Byte, (BitVec.ofInt 32 (c.toNat : Int)).extractLsb' 0 8 = c := by decide
  cases hchar : os.charSigned with
  | true => simpa [store, hlittle, bytesBE, Os.intOfChar, hchar] using hsigned c
  | false => simpa [store, hlittle, bytesBE, Os.intOfChar, hchar] using hunsigned c

/-- On a big-endian host it is the sign of the character, which is the character for a signed `0xff`
only. -/
lemma headD_store_big (os : Os) (hbig : h.bigEndian = true) {c : Byte} (hc : c ≠ 0) :
    (store h (BitVec.ofInt 32 (os.intOfChar c))).headD 0 = c ↔ os.charSigned = true ∧ c = 0xff := by
  have hsigned : ∀ c : Byte, c ≠ 0 →
      ((BitVec.ofInt 32 c.toInt).extractLsb' 24 8 = c ↔ c = 0xff) := by decide
  have hunsigned : ∀ c : Byte, c ≠ 0 → (BitVec.ofInt 32 (c.toNat : Int)).extractLsb' 24 8 ≠ c := by
    decide
  cases hchar : os.charSigned with
  | true => simpa [store, hbig, bytesBE, Os.intOfChar, hchar] using hsigned c hc
  | false => simpa [store, hbig, bytesBE, Os.intOfChar, hchar] using hunsigned c hc

end

/-! ## Agreement -/

/-- The owner's open `r` made the file `path` and a queue with the id `c`, and whoever is given `path`
gives `ftok` the same pair. -/
structure Derived (h : Host) (os : Os) (uid : Nat) (k : Kernel) (path : Bytes) (c : Byte)
    (r : Opened SystemvQueue Kernel) : Prop where
  made : Made h os none uid k path (os.intOfChar c) r
  sender : ∀ out : OpenOutcome, out.fopen = none →
    senderPair h os out r.kernel.files path = .ok (path, c)
  php : construct r.kernel.files path = (path, c)

/-- What an owner's opens of `name` do, when the array `filename` held `stack`: a path that does not fit
is refused, the array is not read beyond its end, and an open that succeeds and whose id reaches the
file used the path and the id that the name spells out. -/
structure NameAgrees (h : Host) (os : Os) (stack : Nat → Byte) (name : Bytes) : Prop where
  refused : os.maxPathLen ≤ (namePath name).length →
    ∀ (out : OpenOutcome) (uid : Nat) (k : Kernel) (umask : Nat) (q : SystemvQueue) (flags : Flags),
      out.stack = stack → flags.owner = true →
      ∃ text, queueOpen h os out uid k umask q name flags = .ok ⟨false, q, k, umask, some text⟩
  contained : ∀ fault, ownerName os stack name ≠ .error fault
  derived : ∀ (out : OpenOutcome) (uid : Nat) (k : Kernel) (umask : Nat) (q : SystemvQueue)
    (flags : Flags) (r : Opened SystemvQueue Kernel), out.stack = stack → out.fflush = none →
      flags.owner = true → queueOpen h os out uid k umask q name flags = .ok r → r.ok = true →
      ∃ c, nameId name = some c ∧ Derived h os uid k (namePath name) c r

/-- The names that work: the path does not fit; or no colon ends it, or a NUL happened to stand behind
the copy, and the name has an id; on a big-endian host, the one id that looks the same from both
ends, which takes a signed `char`. -/
def WellNamed (h : Host) (os : Os) (stack : Nat → Byte) (name : Bytes) : Prop :=
  os.maxPathLen ≤ (namePath name).length ∨
    (strchr name (chr ':') = none ∨ stack (namePath name).length = 0) ∧ nameId name ≠ none ∧
      (h.bigEndian = true → os.charSigned = true ∧ nameId name = some 0xff)

section

variable {h : Host} {os : Os} {stack : Nat → Byte} {name : Bytes}

lemma nameId_ne_zero (hname : (0 : Byte) ∉ name) {c : Byte} (hc : nameId name = some c) : c ≠ 0 := by
  unfold nameId at hc
  split at hc
  · cases hc
    decide
  · rintro rfl
    exact hname (List.mem_of_getElem? hc)

/-- The owner's split of a name whose path fits and ends where it should. -/
lemma ownerName_eq (hname : (0 : Byte) ∉ name) (hfits : (namePath name).length < os.maxPathLen)
    (hend : strchr name (chr ':') = none ∨ stack (namePath name).length = 0) :
    ownerName os stack name = .ok (.ok (namePath name, os.intOfChar ((nameId name).getD 0))) := by
  cases hcolon : strchr name (chr ':') with
  | none =>
    rw [ownerName_plain hcolon hfits, nameId, hcolon]
    rfl
  | some s =>
    have hnul : stack (namePath name).length = 0 := by simpa [hcolon] using hend
    exact ownerName_colon_terminated hcolon hfits hname hnul

/-- A path that fits is split, unless the array is read beyond its end. -/
lemma ownerName_splits (hfits : (namePath name).length < os.maxPathLen)
    (hcontained : ∀ fault, ownerName os stack name ≠ .error fault) :
    ∃ filename id, ownerName os stack name = .ok (.ok (filename, id)) := by
  cases hcolon : strchr name (chr ':') with
  | none => exact ⟨_, _, ownerName_plain hcolon hfits⟩
  | some s =>
    have hsplit : ownerName os stack name = _ := ownerName_colon hcolon hfits
    cases hread : strread (namePath name ++ (block stack os.maxPathLen).drop s) with
    | error fault =>
      rw [hread] at hsplit
      exact absurd hsplit (hcontained fault)
    | ok filename =>
      rw [hread] at hsplit
      exact ⟨_, _, hsplit⟩

/-- What the readers of the path find after an open that made it. -/
lemma derived_of_made {uid : Nat} {k : Kernel} {path : Bytes} {c : Byte}
    {r : Opened SystemvQueue Kernel} (hmade : Made h os none uid k path (os.intOfChar c) r)
    (hfits : path.length < os.maxPathLen) (hc : c ≠ 0) :
    Derived h os uid k path c r ↔ (h.bigEndian = true → os.charSigned = true ∧ c = 0xff) := by
  have hfiles : r.kernel.files = keyFile h none k.files path (os.intOfChar c) uid := by
    rw [hmade.kernel]
  have hphp : construct r.kernel.files path = (path, c) ↔
      (h.bigEndian = true → os.charSigned = true ∧ c = 0xff) := by
    rw [hfiles, construct_keyFile, Prod.mk.injEq]
    cases hbig : h.bigEndian with
    | false => simp only [headD_store_little os hbig, and_self, Bool.false_eq_true, false_implies]
    | true => simp only [headD_store_big os hbig hc, true_and, forall_const]
  constructor
  · intro hderived
    exact hphp.1 hderived.php
  · intro hbig
    refine ⟨hmade, ?_, hphp.2 hbig⟩
    intro out hfopen
    rw [hfiles]
    exact senderPair_keyFile hfopen hfits c

/-- A kernel without files and queues, and an environment in which nothing fails. -/
def blankKernel : Kernel := ⟨Files.empty, Registry.empty, 0⟩

def calmOutcome (stack : Nat → Byte) : OpenOutcome :=
  ⟨stack, [], fun _ => 0, none, none, none, true, true, none, none, true, []⟩

/-- An owner's open of a name that it can split succeeds there. -/
lemma queueOpen_blank {filename : Bytes} {id : Int}
    (hsplit : ownerName os stack name = .ok (.ok (filename, id))) :
    ∃ r, queueOpen h os (calmOutcome stack) 0 blankKernel 0 ⟨none, none, none, 0⟩ name
        ⟨false, true⟩ = .ok r ∧ r.ok = true ∧ r.queue.filename = some filename := by
  have hfits : h.longBytes ≤ allocSize h (blankKernel.msgmnb / 8) := by
    rcases h.longBits_ok with hl | hl <;> rcases h.ptrBytes_ok with hp | hp <;>
      simp [allocSize, blankKernel, Host.longBytes, hl, hp]
  have hopen : ∃ r, queueOpen h os (calmOutcome stack) 0 blankKernel 0 ⟨none, none, none, 0⟩ name
      ⟨false, true⟩ = .ok r ∧ r.ok = true :=
    queueOpen_succeeds rfl ⟨rfl, rfl, rfl, rfl, rfl, rfl, rfl, rfl⟩ hsplit rfl rfl hfits
  rcases hopen with ⟨r, hrun, hok⟩
  rcases queueOpen_made rfl hrun hok with ⟨filename', id', hsplit', hmade⟩
  cases hsplit.symm.trans hsplit'
  exact ⟨r, hrun, hok, hmade.filename⟩

/-- What agreement says of a name that is split: the file is the path, and the readers find the id. -/
lemma NameAgrees.opens (hagrees : NameAgrees h os stack name) {filename : Bytes} {id : Int}
    (hsplit : ownerName os stack name = .ok (.ok (filename, id))) :
    filename = namePath name ∧
      ∃ c uid k r, nameId name = some c ∧ Derived h os uid k (namePath name) c r := by
  rcases queueOpen_blank (h := h) hsplit with ⟨r, hrun, hok, hfilename⟩
  rcases hagrees.derived _ _ _ _ _ _ r rfl rfl rfl hrun hok with ⟨c, hc, hderived⟩
  have hboth := hfilename.symm.trans hderived.made.filename
  exact ⟨Option.some.inj hboth, c, _, _, r, hc, hderived⟩

end

/-- The owner, the C senders and the PHP client agree on what a name means exactly when it is well
named. -/
theorem nameAgrees_iff (h : Host) (os : Os) (stack : Nat → Byte) (name : CText) :
    NameAgrees h os stack name.val ↔ WellNamed h os stack name.val := by
  rcases name with ⟨name, hname⟩
  by_cases hlong : os.maxPathLen ≤ (namePath name).length
  · refine iff_of_true ?_ (Or.inl hlong)
    have hsplit : ownerName os stack name = .ok (.error (nameOverflow os name)) :=
      ownerName_long hlong
    refine ⟨?_, ?_, ?_⟩
    · rintro - out uid k umask q flags rfl howner
      refine ⟨nameOverflow os name, ?_⟩
      simp [queueOpen, howner, ownerFile, hsplit, ok_bind, pure_eq_ok]
    · intro fault
      simp [hsplit]
    · rintro out uid k umask q flags r rfl - howner hrun hok
      rcases queueOpen_made howner hrun hok with ⟨filename, id, hsplit', -⟩
      cases hsplit.symm.trans hsplit'
  · have hfits : (namePath name).length < os.maxPathLen := by omega
    constructor
    · intro hagrees
      -- a name that is split without a fault is opened somewhere, with the path as its file
      have hsplit : ∃ filename id, ownerName os stack name = .ok (.ok (filename, id)) :=
        ownerName_splits hfits hagrees.contained
      rcases hsplit with ⟨filename, id, hsplit⟩
      rcases hagrees.opens hsplit with ⟨hpath, c, uid, k, r, hc, hderived⟩
      refine Or.inr ⟨?_, by simp [hc], ?_⟩
      · cases hcolon : strchr name (chr ':') with
        | none => exact Or.inl rfl
        | some s =>
          refine Or.inr ?_
          by_contra hnul
          exact ownerName_colon_garbage hcolon hfits hname hnul hsplit hpath
      · intro hbig
        have hff := (derived_of_made hderived.made hfits (nameId_ne_zero hname hc)).1 hderived hbig
        exact ⟨hff.1, by rw [hc, hff.2]⟩
    · rintro (hlong' | ⟨hend, hid, hbig⟩)
      · exact absurd hlong' hlong
      · have hsplit := ownerName_eq hname hfits hend
        refine ⟨fun hlong' => absurd hlong' hlong, ?_, ?_⟩
        · intro fault
          simp [hsplit]
        · rintro out uid k umask q flags r rfl hflush howner hrun hok
          rcases queueOpen_made howner hrun hok with ⟨filename, id, hsplit', hmade⟩
          cases hsplit.symm.trans hsplit'
          rcases Option.ne_none_iff_exists'.1 hid with ⟨c, hc⟩
          rw [hc, hflush] at hmade
          refine ⟨c, hc, (derived_of_made hmade hfits (nameId_ne_zero hname hc)).2 ?_⟩
          intro hb
          exact ⟨(hbig hb).1, Option.some.inj (hc.symm.trans (hbig hb).2)⟩

/-- The array `filename` after an earlier use: eleven characters and a NUL. -/
def usedStack (i : Nat) : Byte := if i = 11 then 0 else chr 'Z'

/-- On a used stack `/tmp/banip:x` makes the file `/tmp/banipZ`; on any stack `/tmp/banip:` has no id
and is opened with the id 0; and on a big-endian host the PHP client does not find the `b` of
`/tmp/banip`. -/
theorem names_disagree :
    (∃ r, queueOpen Host.lp64 Os.linux (calmOutcome usedStack) 0 blankKernel 0
        ⟨none, none, none, 0⟩ (str "/tmp/banip:x") ⟨false, true⟩ = .ok r ∧ r.ok = true ∧
        r.queue.filename = some (str "/tmp/banipZ")) ∧
      ¬ NameAgrees Host.lp64 Os.linux usedStack (str "/tmp/banip:x") ∧
      ¬ NameAgrees Host.lp64 Os.linux (fun _ => 0) (str "/tmp/banip:") ∧
      ¬ NameAgrees { Host.lp64 with bigEndian := true } Os.linux (fun _ => 0) (str "/tmp/banip") := by
  have hgarbage : ownerName Os.linux usedStack (str "/tmp/banip:x") =
      .ok (.ok (str "/tmp/banipZ", Os.linux.intOfChar (chr 'x'))) := by
    have hfront : namePath (str "/tmp/banip:x") = str "/tmp/banip" := by decide
    rw [ownerName_colon (s := 10) (by decide) (by decide), hfront, block_drop (by decide),
      block_drop (by decide), show usedStack 10 = chr 'Z' from rfl,
      show usedStack (10 + 1) = 0 from rfl]
    have hread : ∀ rest : Bytes, strread (str "/tmp/banip" ++ chr 'Z' :: 0 :: rest) =
        .ok (str "/tmp/banipZ") := by
      intro rest
      rw [strread_of_mem (by simp)]
      exact congrArg _ (cstr_append_nul (s := str "/tmp/banipZ") (by decide))
    rw [hread]
    rfl
  refine ⟨queueOpen_blank hgarbage, ?_, ?_, ?_⟩
  · intro hagrees
    exact absurd (hagrees.opens hgarbage).1 (by decide)
  · intro hagrees
    have hsplit : ownerName Os.linux (fun _ => 0) (str "/tmp/banip:") = _ :=
      ownerName_eq (by decide) (by decide) (Or.inr rfl)
    rcases (hagrees.opens hsplit).2 with ⟨c, -, -, -, hc, -⟩
    have hnone : nameId (str "/tmp/banip:") = none := by decide
    cases hnone.symm.trans hc
  · intro hagrees
    have hsplit : ownerName Os.linux (fun _ => 0) (str "/tmp/banip") = _ :=
      ownerName_eq (by decide) (by decide) (Or.inr rfl)
    rcases (hagrees.opens hsplit).2 with ⟨c, uid, k, r, hc, hderived⟩
    have hb : chr 'b' = c := Option.some.inj ((show some (chr 'b') = _ from rfl).trans hc)
    subst hb
    have hff := (derived_of_made hderived.made (by decide) (by decide)).1 hderived rfl
    exact absurd hff.2 (by decide)

end SystemV
end Banip
