import Banip.Daemon.Journal

/-!
# Rotation — the files that `banipd` leaves

The log is rotated by a rename and a `SIGUSR1`.  From the signal on nothing waits for the old file, and
the file is left alone.  When the log cannot be opened again the process falls back to standard error,
and there it stays.

All of this is about a log with a descriptor above 2.  A log that took the place of a closed standard
descriptor is not opened again, and `banipd` writes on to the file that was renamed.
-/

namespace Banip
namespace Daemon
namespace Logging

open Lib

section Moves

variable {w : Logged} {e : Event} {l : Log}

/-! ## Streams and files -/

/-- The name under which an event may open the log. -/
def Names (w : Logged) (e : Event) (lenv : LogEnv) (path : Bytes) : Prop :=
  (e = .usr1 lenv ∧ w.proc.opts.logfilename = some path) ∨
    ∃ env todo, e = .run env lenv ∧ w.proc.phase = .options (.l path :: todo)

/-- A stream is the one there was, or it was just opened. -/
lemma LogMove.stream (h : LogMove w e l) {f : Stream} (hf : l.errFile = .file f) :
    (∃ g, w.log.errFile = .file g ∧ (f.sink = g.sink ∨ f.sink = .null)) ∨
      ∃ lenv path, ∃ d : Disk, Names w e lenv path ∧ d.names = w.log.disk.names ∧
        d.next = w.log.disk.next ∧ f.sink = (d.openAppend (resolve w.log.cwd path)).1 ∧
        l.disk = (d.openAppend (resolve w.log.cwd path)).2 := by
  cases h with
  | same => exact Or.inl ⟨f, hf, Or.inl rfl⟩
  | put =>
    rcases Log.stream_put hf with ⟨g, hg, hsink⟩
    exact Or.inl ⟨g, hg, Or.inl hsink⟩
  | openLog he hphase =>
    rename_i env lenv path todo
    cases hopen : lenv.fopen with
    | error errno => simp [Log.openLog, hopen] at hf
    | ok fd =>
      simp only [Log.openLog, hopen, Log.attach, ErrFile.file.injEq] at hf
      subst hf
      refine Or.inr ⟨lenv, path, w.log.disk, Or.inr ⟨env, todo, he, hphase⟩, rfl, rfl, rfl, ?_⟩
      simp [Log.openLog, Log.attach]
  | detach vFlag => exact Or.inl (Log.stream_detach hf)
  | freopen he hfile hpath =>
    rename_i lenv g path
    cases hopen : lenv.fopen with
    | error errno => simp [Log.freopen, hopen] at hf
    | ok fd =>
      simp only [Log.freopen, hopen, Log.attach, ErrFile.file.injEq] at hf
      subst hf
      exact Or.inr ⟨lenv, path, g.flush lenv.fails w.log.disk, Or.inl ⟨he, hpath⟩,
        Disk.names_write _ _ _ _, Disk.next_write _ _ _ _, rfl, by simp [Log.freopen, hopen, Log.attach]⟩
  | close =>
    rcases Log.close_cases w.log w.fate _ with heq | ⟨g, fails, hg, -, -, hnull | hopen⟩
    · exact Or.inl ⟨f, heq ▸ hf, Or.inl rfl⟩
    · cases hnull.symm.trans hf
    · cases hopen.symm.trans hf
      exact Or.inl ⟨g, hg, Or.inl rfl⟩
  | apply op => exact Or.inl ⟨f, hf, Or.inl rfl⟩

/-- Standard error leads where it led, or to `/dev/null`, or to the log that has taken its place. -/
lemma LogMove.stderr (h : LogMove w e l) :
    l.stderr = w.log.stderr ∨ l.stderr = .null ∨ ∃ f, l.errFile = .file f ∧ l.stderr = f.sink := by
  have hattach : ∀ (l₀ : Log) (path : Bytes) (fd : Nat), (l₀.attach path fd).stderr = l₀.stderr ∨
      ∃ f, (l₀.attach path fd).errFile = .file f ∧ (l₀.attach path fd).stderr = f.sink := by
    intro l₀ path fd
    by_cases hfd : fd = 2
    · exact Or.inr ⟨_, rfl, if_pos hfd⟩
    · exact Or.inl (if_neg hfd)
  cases h with
  | same | apply _ => exact Or.inl rfl
  | put =>
    unfold Log.put
    split <;> exact Or.inl rfl
  | openLog =>
    unfold Log.openLog
    split
    · exact Or.inl rfl
    · rcases hattach w.log _ _ with hsame | htaken
      · exact Or.inl hsame
      · exact Or.inr (Or.inr htaken)
  | detach vFlag =>
    unfold Log.detach
    split
    · exact Or.inl rfl
    · exact Or.inr (Or.inl rfl)
  | freopen =>
    unfold Log.freopen
    split
    · exact Or.inl rfl
    · rcases hattach _ _ _ with hsame | htaken
      · exact Or.inl hsame
      · exact Or.inr (Or.inr htaken)
  | close =>
    rcases Log.close_cases w.log w.fate _ with heq | ⟨g, fails, -, -, hstderr, -⟩
    · exact Or.inl (by rw [heq])
    · exact Or.inl hstderr

/-- Only what `err_file` and standard error lead to is written. -/
lemma LogMove.untouched (h : LogMove w e l) {s : Sink}
    (hfile : ∀ f, w.log.errFile = .file f → f.sink ≠ s) (hstderr : w.log.stderr ≠ s) :
    l.disk.data s = w.log.disk.data s ∧ l.disk.lost s = w.log.disk.lost s := by
  have hwrite : ∀ (d : Disk) (t : Sink) (text : Bytes) (lost : Nat), t ≠ s →
      (d.write t text lost).data s = d.data s ∧ (d.write t text lost).lost s = d.lost s :=
    fun d t text lost ht => ⟨d.data_write_ne t text lost ht, d.lost_write_ne t text lost ht⟩
  cases h with
  | same => exact ⟨rfl, rfl⟩
  | put =>
    unfold Log.put
    split
    · exact hwrite _ _ _ _ hstderr
    · exact hwrite _ _ _ _ (hfile _ ‹_›)
    · exact hwrite _ _ _ _ hstderr
  | openLog =>
    unfold Log.openLog
    split <;> simp
  | detach vFlag =>
    unfold Log.detach
    split <;> exact ⟨rfl, rfl⟩
  | freopen he hf hpath =>
    unfold Log.freopen
    split
    · exact hwrite _ _ _ _ (hfile _ hf)
    · rw [Log.data_attach, Log.lost_attach]
      exact hwrite _ _ _ _ (hfile _ hf)
  | close =>
    rcases Log.close_cases w.log w.fate _ with heq | ⟨f, fails, hf, heq, -⟩
    · rw [heq]
      exact ⟨rfl, rfl⟩
    · rw [heq]
      exact hwrite _ _ _ _ (hfile f hf)
  | apply op => simp

lemma LogMove.next (h : LogMove w e l) : w.log.disk.next ≤ l.disk.next := by
  cases h with
  | same => exact Nat.le_refl _
  | put =>
    unfold Log.put
    split <;> simp [Stream.put, Disk.print]
  | openLog =>
    unfold Log.openLog
    split
    · exact Nat.le_refl _
    · exact Disk.next_openAppend _ _
  | detach vFlag =>
    unfold Log.detach
    split <;> exact Nat.le_refl _
  | freopen =>
    unfold Log.freopen
    split
    · simp [Stream.flush, Disk.print]
    · refine Nat.le_trans (Nat.le_of_eq ?_) (Disk.next_openAppend _ _)
      exact (Disk.next_write _ _ _ _).symm
  | close =>
    rcases Log.close_cases w.log w.fate _ with heq | ⟨f, fails, -, heq, -⟩
    · rw [heq]
    · rw [heq]
      simp [Stream.flush, Disk.print]
  | apply op => exact Disk.next_apply _ op

/-- Standard error is not left again. -/
lemma LogMove.stays (h : LogMove w e l) (hpast : Past w) (hstderr : w.log.errFile = .stderr) :
    l.errFile = .stderr := by
  cases h with
  | same | apply _ => exact hstderr
  | put =>
    unfold Log.put
    split
    · exact hstderr
    · rename_i hf
      cases hstderr.symm.trans hf
    · rfl
  | openLog he hphase => exact absurd hphase (hpast _)
  | detach vFlag =>
    unfold Log.detach
    split <;> simp [hstderr]
  | freopen he hfile hpath => cases hstderr.symm.trans hfile
  | close => simp [Log.close, hstderr]

end Moves

section Runs

variable {cfg : Config} {progname : Bytes}

/-- The file of the log is one of the disk. -/
def Log.Known (l : Log) : Prop :=
  ∀ f ino, l.errFile = .file f → f.sink = .file ino → ino < l.disk.next

lemma Log.Known.step {w : Logged} (h : w.log.Known) (e : Event) :
    (w.step cfg progname e).log.Known := by
  intro f ino hf hsink
  rcases (step_logMove w e).stream hf with
    ⟨g, hg, hsame | hnull⟩ | ⟨lenv, path, d, -, -, -, hopened, hdisk⟩
  · exact Nat.lt_of_lt_of_le (h g ino hg (hsame ▸ hsink)) (step_logMove w e).next
  · cases hnull.symm.trans hsink
  · rw [hdisk]
    exact Disk.lt_openAppend (hopened ▸ hsink)

lemma Log.Known.after (b : Launch) (es : List Event) : (b.after cfg progname es).log.Known := by
  have hstep : ∀ w e, w.log.Known → (Logged.step cfg progname w e).log.Known := fun _ e h => h.step e
  have hstart : (b.start cfg progname).log.Known := fun f ino hf => nomatch hf
  exact foldl_preserves hstep hstart es

/-! ## A file that was left -/

/-- The name of the log does not lead to the file. -/
def Away (ino : Nat) (w : Logged) : Prop :=
  ∀ path, w.proc.opts.logfilename = some path →
    w.log.disk.names (resolve w.log.cwd path) ≠ some ino

/-- The process is past its options and does not print to the file; `data` and `lost` are what the
file has come to, and `said` is what was printed to it. -/
structure Left (ino : Nat) (said data : Bytes) (lost : Nat) (w : Logged) : Prop where
  past : Past w
  known : ino < w.log.disk.next
  file : ∀ f, w.log.errFile = .file f → f.sink ≠ .file ino
  stderr : w.log.stderr ≠ .file ino
  said : saidTo (.file ino) w.said = said
  data : w.log.disk.data (.file ino) = data
  lost : w.log.disk.lost (.file ino) = lost

variable {ino lost : Nat} {said data : Bytes} {w : Logged}

lemma Left.step (h : Left ino said data lost w) (haway : Away ino w) (e : Event) :
    Left ino said data lost (w.step cfg progname e) := by
  have hmove : LogMove w e (w.step cfg progname e).log := step_logMove w e
  have hfile : ∀ f, (w.step cfg progname e).log.errFile = .file f → f.sink ≠ .file ino := by
    intro f hf
    rcases hmove.stream hf with
      ⟨g, hg, hsame | hnull⟩ | ⟨lenv, path, d, hnames, hd, hnext, hopened, -⟩
    · rw [hsame]
      exact h.file g hg
    · rw [hnull]
      exact Sink.noConfusion
    · -- the log is opened, by `SIGUSR1`: under its name, which does not lead to the file
      rcases hnames with ⟨-, hpath⟩ | ⟨env, todo, -, hphase⟩
      · rw [hopened]
        exact Disk.openAppend_ne (by rw [hnext]; exact h.known) (by rw [hd]; exact haway path hpath)
      · exact absurd hphase (h.past _)
  have huntouched := hmove.untouched h.file h.stderr
  refine ⟨step_past h.past e, Nat.lt_of_lt_of_le h.known hmove.next, hfile, ?_, ?_,
    huntouched.1.trans h.data, huntouched.2.trans h.lost⟩
  · rcases hmove.stderr with hsame | hnull | ⟨f, hf, htaken⟩
    · rw [hsame]
      exact h.stderr
    · rw [hnull]
      exact Sink.noConfusion
    · -- the log has taken descriptor 2
      rw [htaken]
      exact hfile f hf
  · rcases said_cases w e with hsame | ⟨s, x, hx, hs⟩
    · rw [hsame]
      exact h.said
    · have hne : s ≠ .file ino := by
        rcases hs with rfl | ⟨f, hf, rfl⟩
        · exact h.stderr
        · exact h.file f hf
      rw [hx, saidTo_append, if_neg hne, List.append_nil]
      exact h.said

lemma Left.run (h : Left ino said data lost w) {es : List Event}
    (hes : Along (Lib.total (Logged.step cfg progname)) (fun v _ => Away ino v) w es) :
    Left ino said data lost (es.foldl (Logged.step cfg progname) w) := by
  have hstep : ∀ v e v', Left ino said data lost v → Away ino v →
      Lib.total (Logged.step cfg progname) v e = .ok v' → Left ino said data lost v' := by
    rintro v e v' hv haway ⟨⟩
    exact hv.step haway e
  exact exec_preserves_along hstep h hes (exec_total_eq (Logged.step cfg progname) w es)

/-- The process is past its options and prints to standard error, which leads to `sink` or to
`/dev/null`; `text` is what the other sinks hold, and since `said` nothing was said to them. -/
structure Fallen (sink : Sink) (text : Sink → Bytes) (said : List (Sink × Put)) (w : Logged) :
    Prop where
  past : Past w
  errFile : w.log.errFile = .stderr
  stderr : w.log.stderr = sink ∨ w.log.stderr = .null
  data : ∀ s, s ≠ sink → s ≠ .null → w.log.disk.data s = text s
  said : ∃ new, w.said = said ++ new ∧ ∀ x ∈ new, x.1 = sink ∨ x.1 = .null

lemma Fallen.step {sink : Sink} {text : Sink → Bytes} {said : List (Sink × Put)} {w : Logged}
    (h : Fallen sink text said w) (e : Event) :
    Fallen sink text said (w.step cfg progname e) := by
  have hmove : LogMove w e (w.step cfg progname e).log := step_logMove w e
  have hfile : ∀ f, w.log.errFile ≠ .file f := by simp [h.errFile]
  have hstays := hmove.stays h.past h.errFile
  refine ⟨step_past h.past e, hstays, ?_, ?_, ?_⟩
  · rcases hmove.stderr with hsame | hnull | ⟨f, hf, -⟩
    · rw [hsame]
      exact h.stderr
    · exact Or.inr hnull
    · -- no log that could take descriptor 2 is opened any more
      cases hstays.symm.trans hf
  · intro s hsink hnull
    have hstderr : w.log.stderr ≠ s := by
      rcases h.stderr with heq | heq
      · rw [heq]
        exact Ne.symm hsink
      · rw [heq]
        exact Ne.symm hnull
    rw [(hmove.untouched (fun f hf => absurd hf (hfile f)) hstderr).1]
    exact h.data s hsink hnull
  · rcases h.said with ⟨new, hnew, hto⟩
    rcases said_cases w e with hsame | ⟨s, x, hx, hs⟩
    · exact ⟨new, hsame.trans hnew, hto⟩
    · have hs' : s = sink ∨ s = .null := by
        rcases hs with rfl | ⟨f, hf, -⟩
        · exact h.stderr
        · exact absurd hf (hfile f)
      refine ⟨new ++ [(s, x)], by rw [hx, hnew, List.append_assoc], ?_⟩
      intro y hy
      rcases List.mem_append.1 hy with hy | hy
      · exact hto y hy
      · cases List.mem_singleton.1 hy
        exact hs'

end Runs

/-! ## Rotation -/

section Signal

variable {cfg : Config} {progname : Bytes} {w : Logged} {f : Stream} {ino : Nat} {path : Bytes}

end Signal

end Logging
end Daemon
end Banip
