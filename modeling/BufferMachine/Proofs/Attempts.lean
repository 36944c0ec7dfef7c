import BufferMachine.Build.Build
import BufferMachine.Proofs.Artifacts
import BufferMachine.Proofs.Runs

/-!
# Building one file

Building a file can end in five ways.  `Attempt` lists them, each with the files that it leaves: the
source cannot be read, it does not compile, its code cannot be written, the native compiler does not
make an executable of it, or all is well.  The log, the metrics and what is printed are left out,
for no step of a build looks at them.

Everything about builds follows from `attempt_file`, which says that these are the ways in which
building a file ends.  Whatever the end, a file that is built touches nothing but its own artifacts
(`Attempt.confined`), provided that the native compiler touches nothing but the executable.
-/

namespace BufferMachine

/-! ### What steps of a command leave of the files -/

@[simp] theorem Desk.files_log (d : Desk) (e : LogEntry) : (d.log e).files = d.files := by
  unfold log
  split
  · rfl
  · rfl

@[simp] theorem Desk.files_logAll (d : Desk) (entries : List LogEntry) :
    (d.logAll entries).files = d.files := by
  unfold logAll
  induction entries generalizing d with
  | nil => rfl
  | cons e entries ih => rw [List.foldl_cons, ih, files_log]

namespace Work

variable {α β : Type} {t t₁ t' : FileTree} {path content : Bytes}

/-- Steps that start with the one files come to the outcome and leave the other, whatever else is on
the desk. -/
def Ends (m : Work α) (t : FileTree) (outcome : Except Failure α) (t' : FileTree) : Prop :=
  ∀ d : Desk, d.files = t → ∃ d', m.run.run d = (outcome, d') ∧ d'.files = t'

theorem ends_then {m : Work α} {f : α → Work β} {x : α} {outcome : Except Failure β}
    (hm : Ends m t (.ok x) t₁) (hf : Ends (f x) t₁ outcome t') : Ends (m >>= f) t outcome t' := by
  intro d hd
  obtain ⟨d₁, hrun, hd₁⟩ := hm d hd
  rw [Outcome.run_bind_ok hrun]
  exact hf d₁ hd₁

theorem ends_stop {m : Work α} {f : α → Work β} {e : Failure} (hm : Ends m t (.error e) t') :
    Ends (m >>= f) t (.error e) t' := by
  intro d hd
  obtain ⟨d', hrun, hd'⟩ := hm d hd
  exact ⟨d', Outcome.run_bind_error hrun, hd'⟩

/-- The steps end, and in a way that the property holds of. -/
def EndsIn (m : Work α) (t : FileTree) (P : Except Failure α → FileTree → Prop) : Prop :=
  ∃ outcome t', Ends m t outcome t' ∧ P outcome t'

section

variable {m : Work α} {f : α → Work β} {P : Except Failure β → FileTree → Prop}

theorem endsIn_then {x : α} (hm : Ends m t (.ok x) t₁) (hf : EndsIn (f x) t₁ P) :
    EndsIn (m >>= f) t P := by
  obtain ⟨outcome, t', hends, hP⟩ := hf
  exact ⟨outcome, t', ends_then hm hends, hP⟩

theorem endsIn_stop {e : Failure} (hm : Ends m t (.error e) t') (hP : P (.error e) t') :
    EndsIn (m >>= f) t P :=
  ⟨_, t', ends_stop hm, hP⟩

end

theorem ends_pure (x : α) : Ends (pure x) t (.ok x) t := fun d hd => ⟨d, rfl, hd⟩

theorem ends_get {f : Desk → Work α} {outcome : Except Failure α}
    (h : ∀ d, Ends (f d) t outcome t') :
    Ends (get >>= f) t outcome t' := by
  intro d hd
  rw [Outcome.run_get_bind]
  exact h d d hd

theorem ends_log (entry : LogEntry) : Ends (modify (·.log entry)) t (.ok ()) t := by
  intro d hd
  exact ⟨d.log entry, rfl, by rw [Desk.files_log, hd]⟩

theorem ends_note (path : Bytes) (entry : LogEntry) :
    Ends (note path entry) t (.ok ()) t := ends_log _

theorem ends_readSource_ok (h : t.readFile path = .ok content) :
    Ends (readSource path) t (.ok content) (t.afterReading path) := by
  rintro d rfl
  unfold readSource
  rw [Outcome.run_get_bind]
  simp only [BufferMachine.readSource, h]
  exact ⟨_, rfl, rfl⟩

theorem ends_readSource_error {cause : FileFailure} (h : t.readFile path = .error cause) :
    Ends (readSource path) t (.error (.unreadable ⟨path, cause⟩)) t := by
  rintro d rfl
  unfold readSource
  rw [Outcome.run_get_bind]
  simp only [BufferMachine.readSource, h]
  exact ⟨_, rfl, rfl⟩

/-- Without dumps compiling does not touch the files. -/
theorem ends_compile (t : FileTree) {settings : Settings}
    (hdebug : settings.truth "bufc.debug" = false) (path source : Bytes) :
    Ends (compile settings path source) t
      ((BufferMachine.compile settings.keywordRule settings.bufferSize source).mapError
        (.refused path)) t := by
  rintro d rfl
  have hdumps : (settings.compiler path).dumps = none := by
    simp [Settings.compiler, Settings.dumpDirectory, hdebug]
  obtain ⟨log, hrun⟩ := (settings.compiler path).steps_ends source d.files d.metrics []
  have hfiles : (settings.compiler path).filesAfter d.files source = d.files := by
    unfold Compiler.filesAfter
    rw [hdumps]
    split
    · rfl
    · split
      · rfl
      · rfl
  rw [hfiles] at hrun
  unfold compile
  rw [Outcome.run_get_bind]
  simp only [Compiler.run, hrun]
  simp only [Settings.compiler]
  cases BufferMachine.compile settings.keywordRule settings.bufferSize source with
  | ok c => exact ⟨_, rfl, Desk.files_logAll _ _⟩
  | error e => exact ⟨_, rfl, Desk.files_logAll _ _⟩

theorem ends_writeFile_ok (h : t.writeFile path content = .ok t') :
    Ends (writeFile path content) t (.ok ()) t' := by
  rintro d rfl
  unfold writeFile
  rw [Outcome.run_get_bind]
  simp only [h]
  rcases FileTree.writeFile_eq_ok h with ⟨names, hplace, -⟩ | ⟨-, rfl⟩
  · have hdevice : d.files.device? path = none := hplace.writable.2
    simp only [hdevice]
    exact ⟨_, rfl, rfl⟩
  · -- a device takes everything, and the files stay as they are
    split
    · exact ⟨_, rfl, rfl⟩
    · split
      · exact ⟨_, rfl, rfl⟩
      · exact ⟨_, rfl, rfl⟩

theorem ends_writeFile_error {cause : FileFailure} (h : t.writeFile path content = .error cause) :
    Ends (writeFile path content) t (.error (.unwritable path cause)) t := by
  rintro d rfl
  unfold writeFile
  rw [Outcome.run_get_bind]
  simp only [h]
  exact ⟨_, rfl, rfl⟩

end Work

/-- Programs that are started as the native compiler touch nothing but the executable that they are
asked for. -/
def Toolchain.TouchesOnlyOutput (toolchain : Toolchain) (launcher : Launcher) : Prop :=
  ∀ files source output,
    FileTree.Confined [output] files
      (launcher.start files toolchain.path (toolchain.arguments source output)).files

namespace Build

variable {settings : Settings} {launcher : Launcher} {cancelled : Bool} {path : Bytes}
  {t t' : FileTree}

/-! ### How building a file ends -/

/-- The call of the native compiler for a source whose code has been written. -/
def nativeCall (settings : Settings) (launcher : Launcher) (cancelled : Bool) (path : Bytes)
    (files : FileTree) :
    ProcessResult :=
  (toolchainOf settings).call launcher cancelled files (intermediatePath path) (outputPath path)

/-- The files after the intermediate file has been removed, unless it is to stay. -/
def tidied (settings : Settings) (path : Bytes) (files : FileTree) : FileTree :=
  if keepsIntermediate settings then files
  else (files.remove (intermediatePath path)).toOption.getD files

/-- The ways in which building a file ends, with what it comes to and the files that it leaves. -/
inductive Attempt (settings : Settings) (launcher : Launcher) (cancelled : Bool) (path : Bytes)
    (t : FileTree) :
    Except Failure Unit → FileTree → Prop where
  | unreadable {cause : FileFailure} (hread : t.readFile path = .error cause) :
    Attempt settings launcher cancelled path t (.error (.unreadable ⟨path, cause⟩)) t
  | refused {source : Bytes} {e : Diagnostic} (hread : t.readFile path = .ok source)
    (hcompile : compile settings.keywordRule settings.bufferSize source = .error e) :
    Attempt settings launcher cancelled path t (.error (.refused path e)) (t.afterReading path)
  | unwritable {source : Bytes} {c : Compilation} {cause : FileFailure}
    (hread : t.readFile path = .ok source)
    (hcompile : compile settings.keywordRule settings.bufferSize source = .ok c)
    (hwrite : (t.afterReading path).writeFile (intermediatePath path) c.code = .error cause) :
    Attempt settings launcher cancelled path t (.error (.unwritable (intermediatePath path) cause))
      (t.afterReading path)
  | unbuilt {source : Bytes} {c : Compilation} {written : FileTree} {cause : ProcessFailure}
    (hread : t.readFile path = .ok source)
    (hcompile : compile settings.keywordRule settings.bufferSize source = .ok c)
    (hwrite : (t.afterReading path).writeFile (intermediatePath path) c.code = .ok written)
    (hcall : (nativeCall settings launcher cancelled path written).failure = some cause) :
    Attempt settings launcher cancelled path t
      (.error (.unbuilt (outputPath path)
        ⟨(toolchainOf settings).path,
          (nativeCall settings launcher cancelled path written).complaints, cause⟩))
      (nativeCall settings launcher cancelled path written).files
  | built {source : Bytes} {c : Compilation} {written : FileTree}
    (hread : t.readFile path = .ok source)
    (hcompile : compile settings.keywordRule settings.bufferSize source = .ok c)
    (hwrite : (t.afterReading path).writeFile (intermediatePath path) c.code = .ok written)
    (hcall : (nativeCall settings launcher cancelled path written).failure = none) :
    Attempt settings launcher cancelled path t (.ok ())
      (tidied settings path (nativeCall settings launcher cancelled path written).files)

section

variable (toolchain : Toolchain) (intermediate output : Bytes)

theorem ends_callToolchain_ok
    (h : (toolchain.call launcher cancelled t intermediate output).failure = none) :
    Work.Ends (callToolchain toolchain launcher cancelled intermediate output) t (.ok ())
      (toolchain.call launcher cancelled t intermediate output).files := by
  unfold callToolchain
  refine Work.ends_then (Work.ends_log _) ?_
  rintro d rfl
  rw [Outcome.run_get_bind]
  simp only [Toolchain.build, h]
  exact ⟨_, rfl, rfl⟩

theorem ends_callToolchain_error {cause : ProcessFailure}
    (h : (toolchain.call launcher cancelled t intermediate output).failure = some cause) :
    Work.Ends (callToolchain toolchain launcher cancelled intermediate output) t
      (.error (.unbuilt output
        ⟨toolchain.path,
          (toolchain.call launcher cancelled t intermediate output).complaints, cause⟩))
      (toolchain.call launcher cancelled t intermediate output).files := by
  unfold callToolchain
  refine Work.ends_then (Work.ends_log _) ?_
  rintro d rfl
  rw [Outcome.run_get_bind]
  simp only [Toolchain.build, h]
  exact ⟨_, rfl, rfl⟩

theorem ends_removeIntermediate (path : Bytes) :
    Work.Ends (removeIntermediate path intermediate) t (.ok ())
      ((t.remove intermediate).toOption.getD t) := by
  unfold removeIntermediate
  refine Work.ends_then (Work.ends_note _ _) ?_
  rintro d rfl
  rw [Outcome.run_get_bind]
  cases d.files.remove intermediate with
  | ok files => exact ⟨_, rfl, rfl⟩
  | error cause => exact ⟨_, rfl, Desk.files_log _ _⟩

end

/-- Every way in which building a file ends is an attempt: the steps are followed up to the first
that fails. -/
theorem file_endsIn (hdebug : settings.truth "bufc.debug" = false) (launcher : Launcher)
    (cancelled : Bool) (path : Bytes) (t : FileTree) :
    Work.EndsIn (file settings (toolchainOf settings) launcher cancelled path) t
      (Attempt settings launcher cancelled path t) := by
  unfold file
  refine Work.endsIn_then (Work.ends_note _ _) ?_
  rcases hread : t.readFile path with cause | source
  · exact Work.endsIn_stop (Work.ends_readSource_error hread) (.unreadable hread)
  refine Work.endsIn_then (Work.ends_readSource_ok hread) (Work.endsIn_then (Work.ends_note _ _) ?_)
  have hcompiler := Work.ends_compile (t.afterReading path) hdebug path source
  rcases hcompile : compile settings.keywordRule settings.bufferSize source with e | c
  · rw [hcompile] at hcompiler
    exact Work.endsIn_stop hcompiler (.refused hread hcompile)
  rw [hcompile] at hcompiler
  refine Work.endsIn_then hcompiler (Work.endsIn_then (Work.ends_note _ _) ?_)
  rcases hwrite : (t.afterReading path).writeFile (intermediatePath path) c.code with
    cause | written
  · exact Work.endsIn_stop (Work.ends_writeFile_error hwrite) (.unwritable hread hcompile hwrite)
  refine Work.endsIn_then (Work.ends_writeFile_ok hwrite) (Work.endsIn_then (Work.ends_note _ _) ?_)
  rcases hcall : (nativeCall settings launcher cancelled path written).failure with _ | cause
  · refine Work.endsIn_then (ends_callToolchain_ok _ _ _ hcall) ?_
    refine ⟨.ok (), _, ?_, .built hread hcompile hwrite hcall⟩
    unfold tidied
    dsimp only
    split
    -- the report of the size follows in either case and leaves the files alone
    on_goal 2 => refine Work.ends_then (ends_removeIntermediate _ path) ?_
    all_goals
      apply Work.ends_get
      intro d
      split
      · exact Work.ends_note _ _
      · exact Work.ends_note _ _
  · exact Work.endsIn_stop (ends_callToolchain_error _ _ _ hcall)
      (.unbuilt hread hcompile hwrite hcall)

theorem attempt_file (hdebug : settings.truth "bufc.debug" = false) (launcher : Launcher)
    (cancelled : Bool) (path : Bytes) (d : Desk) :
    Attempt settings launcher cancelled path d.files
      ((file settings (toolchainOf settings) launcher cancelled path).run.run d).1
      ((file settings (toolchainOf settings) launcher cancelled path).run.run d).2.files := by
  obtain ⟨result, t', hends, hattempt⟩ := file_endsIn hdebug launcher cancelled path d.files
  obtain ⟨d', hrun, rfl⟩ := hends d rfl
  rw [hrun]
  exact hattempt

/-! ### What building a file touches -/

/-- The files that building a source may touch. -/
def artifacts (path : Bytes) : List Bytes := [intermediatePath path, outputPath path]

theorem confined_tidied {files : FileTree}
    (hother : ∀ names, files.locate (intermediatePath path) = .ok names →
      files.entryAt? names ≠ some .directory) :
    FileTree.Confined [intermediatePath path] files (tidied settings path files) := by
  unfold tidied
  split
  · exact .refl _ _
  · cases hremove : files.remove (intermediatePath path) with
    | error cause => exact .refl _ _
    | ok removed =>
      apply FileTree.confined_remove hremove
      intro names hlocate
      exact ⟨hother names hlocate, FileTree.system?_of_locate_intermediate hlocate⟩

section

variable (htouches : (toolchainOf settings).TouchesOnlyOutput launcher)

include htouches

theorem confined_nativeCall (cancelled : Bool) (path : Bytes) (files : FileTree) :
    FileTree.Confined [outputPath path] files
      (nativeCall settings launcher cancelled path files).files := by
  unfold nativeCall Toolchain.call
  split
  · exact .refl _ _
  · split
    · exact .refl _ _
    · exact htouches _ _ _

/-- Up to the call of the native compiler nothing but the two artifacts has been touched, and there
is no directory in the place of the intermediate file. -/
theorem confined_up_to_call (cancelled : Bool) {code : Bytes} {written : FileTree}
    (hwrite : (t.afterReading path).writeFile (intermediatePath path) code = .ok written) :
    FileTree.Confined (artifacts path) t
      (nativeCall settings launcher cancelled path written).files ∧
      ∀ names, (nativeCall settings launcher cancelled path written).files.locate
        (intermediatePath path) = .ok names →
        FileTree.entryAt?
          (nativeCall settings launcher cancelled path written).files names ≠ some .directory := by
  have hread := FileTree.confined_afterReading (artifacts path) t path
  have hwritten : FileTree.Confined (artifacts path) (t.afterReading path) written :=
    (FileTree.confined_writeFile hwrite).mono (by simp [artifacts])
  have hcalled : FileTree.Confined (artifacts path) written
    (nativeCall settings launcher cancelled path written).files :=
    (confined_nativeCall htouches cancelled path written).mono (by simp [artifacts])
  have hlater := hwritten.trans hcalled
  refine ⟨hread.trans hlater, ?_⟩
  intro names hlocate hdirectory
  exact FileTree.not_directory_of_writeFile hwrite (hlater.locate_iff.mp hlocate)
    (hlater.entry_directory_iff.mp hdirectory)

/-- **Building a file touches nothing but its artifacts.** -/
theorem Attempt.confined {result : Except Failure Unit}
    (h : Attempt settings launcher cancelled path t result t') :
    FileTree.Confined (artifacts path) t t' := by
  cases h with
  | unreadable _ => exact .refl _ _
  | refused _ _ => exact FileTree.confined_afterReading _ _ _
  | unwritable _ _ _ => exact FileTree.confined_afterReading _ _ _
  | unbuilt _ _ hwrite _ => exact (confined_up_to_call htouches cancelled hwrite).1
  | built _ _ hwrite _ =>
    obtain ⟨hcalled, hother⟩ := confined_up_to_call htouches cancelled hwrite
    exact hcalled.trans ((confined_tidied hother).mono (by simp [artifacts]))

/-! ### What building a file leaves -/

theorem shows_code_after_call (cancelled : Bool) {code : Bytes} {written : FileTree}
    (hdevice : t.device? (intermediatePath path) = none)
    (hwrite : (t.afterReading path).writeFile (intermediatePath path) code = .ok written) :
    (nativeCall settings launcher cancelled path written).files.Shows (intermediatePath path)
      (some (.file code)) := by
  have hafter : (t.afterReading path).device? (intermediatePath path) = none := by
    obtain ⟨hentries, hdirectory⟩ := t.afterReading_entries path
    rw [← hdevice, FileTree.device?, FileTree.device?,
      FileTree.find_eq_of_entries hentries hdirectory]
  apply (confined_nativeCall htouches cancelled path written).shows
    (FileTree.shows_writeFile hwrite hafter)
  intro p hp
  rw [List.mem_singleton.mp hp]
  exact FileTree.apart_intermediate_output written path path

end

theorem Attempt.entries_eq {result : Except Failure Unit}
    (h : Attempt settings launcher cancelled path t result t')
    (hfails : ∀ source c, t.readFile path = .ok source →
      compile settings.keywordRule settings.bufferSize source ≠ .ok c) :
    t'.entries = t.entries ∧ t'.directory = t.directory := by
  cases h with
  | unreadable _ => exact ⟨rfl, rfl⟩
  | refused _ _ => exact t.afterReading_entries path
  | unwritable hread hcompile _ => exact absurd hcompile (hfails _ _ hread)
  | unbuilt hread hcompile _ _ => exact absurd hcompile (hfails _ _ hread)
  | built hread hcompile _ _ => exact absurd hcompile (hfails _ _ hread)

section

variable (htouches : (toolchainOf settings).TouchesOnlyOutput launcher)
  {result : Except Failure Unit}
  (h : Attempt settings launcher cancelled path t result t')
    (hdevice : t.device? (intermediatePath path) = none)

include htouches h hdevice

theorem Attempt.shows_code {source : Bytes} {c : Compilation} (hread : t.readFile path = .ok source)
    (hcompile : compile settings.keywordRule settings.bufferSize source = .ok c)
    (hstays : result = .ok () ∧ keepsIntermediate settings = true ∨
      ∃ cause, result = .error (.unbuilt (outputPath path) cause)) :
    t'.Shows (intermediatePath path) (some (.file c.code)) := by
  -- what was read and compiled is what the attempt has read and compiled
  have hsame : ∀ {source' c'}, t.readFile path = .ok source' →
      compile settings.keywordRule settings.bufferSize source' = .ok c' → c' = c := by
    intro source' c' hread' hcompile'
    obtain rfl : source = source' := Except.ok.inj (hread.symm.trans hread')
    exact Except.ok.inj (hcompile'.symm.trans hcompile)
  cases h with
  | unreadable _ => simp at hstays
  | refused _ _ => simp at hstays
  | unwritable _ _ _ => simp at hstays
  | unbuilt hread' hcompile' hwrite _ =>
    obtain rfl := hsame hread' hcompile'
    exact shows_code_after_call htouches cancelled hdevice hwrite
  | built hread' hcompile' hwrite _ =>
    obtain rfl := hsame hread' hcompile'
    have hkeeps : keepsIntermediate settings = true := by simpa using hstays
    rw [tidied, if_pos hkeeps]
    exact shows_code_after_call htouches cancelled hdevice hwrite

theorem Attempt.shows_none (hresult : result = .ok ())
    (hkeeps : keepsIntermediate settings = false) :
    t'.Shows (intermediatePath path) none := by
  cases h with
  | built _ _ hwrite _ =>
    obtain ⟨removed, hremove, hgone⟩ :=
      (shows_code_after_call htouches cancelled hdevice hwrite).remove
      fun names hlocate => FileTree.system?_of_locate_intermediate hlocate
    simpa [tidied, hkeeps, hremove, Except.toOption] using hgone
  | _ => cases hresult

end

/-- What a file leaves in the places of its artifacts, by what building it came to. -/
structure Leaves (settings : Settings) (path : Bytes) (before : FileTree)
    (result : Except Failure Unit) (after : FileTree) : Prop where
  /-- Nothing changes there if the source cannot be read or does not compile. -/
  untouched : (∀ source c, before.readFile path = .ok source →
      compile settings.keywordRule settings.bufferSize source ≠ .ok c) →
    ∀ p ∈ artifacts path, ∀ names, before.locate p = .ok names →
      after.entryAt? names = before.entryAt? names
  /-- The generated code is there if it was to stay, or if there is no executable. -/
  code : before.device? (intermediatePath path) = none →
    ∀ source c, before.readFile path = .ok source →
    compile settings.keywordRule settings.bufferSize source = .ok c →
    (result = .ok () ∧ keepsIntermediate settings = true) ∨
    (∃ cause, result = .error (.unbuilt (outputPath path) cause)) →
    after.readFile (intermediatePath path) = .ok c.code
  /-- The generated code is gone if it was not to stay and there is an executable. -/
  gone : before.device? (intermediatePath path) = none → result = .ok () →
    keepsIntermediate settings = false →
    after.find (intermediatePath path) = .error .notFound

/-- What a file has left stays as long as others touch nothing but paths apart from its
artifacts. -/
theorem Attempt.leaves (htouches : (toolchainOf settings).TouchesOnlyOutput launcher)
    {result : Except Failure Unit} (h : Attempt settings launcher cancelled path t result t')
    {others : List Bytes} {after : FileTree} (hothers : FileTree.Confined others t' after)
    (hapart : ∀ p ∈ artifacts path, ∀ q ∈ others, t'.Apart p q) :
    Leaves settings path t result after := by
  have hcode := hapart (intermediatePath path) List.mem_cons_self
  refine ⟨?_, ?_, ?_⟩
  · intro hfails p hp names hlocate
    obtain ⟨hentries, hdirectory⟩ := h.entries_eq hfails
    have hlocate' : t'.locate p = .ok names := (h.confined htouches).locate_iff.mpr hlocate
    rw [hothers.entry_eq_of_apart (fun q hq => hapart p hp q hq names hlocate'),
      FileTree.entry_eq_of_entries hentries hdirectory]
  · intro hdevice source c hread hcompile hstays
    exact (hothers.shows (h.shows_code htouches hdevice hread hcompile hstays) hcode).readFile_eq
  · intro hdevice hresult hkeeps
    exact (hothers.shows (h.shows_none htouches hdevice hresult hkeeps) hcode).find_eq

/-- There is one way in which building a file ends. -/
theorem Attempt.unique {result result' : Except Failure Unit} {t'' : FileTree}
    (h : Attempt settings launcher cancelled path t result t')
    (h' : Attempt settings launcher cancelled path t result' t'') :
    result = result' ∧ t' = t'' := by
  cases h with
  | unreadable hread => cases h' <;> simp_all
  | refused hread hcompile => cases h' <;> simp_all
  | unwritable hread hcompile hwrite => cases h' <;> simp_all
  | unbuilt hread hcompile hwrite hcall => cases h' <;> simp_all
  | built hread hcompile hwrite hcall => cases h' <;> simp_all

end Build

end BufferMachine
