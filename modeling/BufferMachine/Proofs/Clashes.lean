import BufferMachine.Proofs.Builds

/-!
# Sources that are in each other's way

Two sources are in each other's way if one of them lies where the other one's code or executable
goes, or if their executables go to the same place.  Their names tell when: `a.c` is where the code
of `a` goes, and `a` and `a.none` have the same executable.  A build does not look out for this, so
a source may be overwritten and removed while all is said to be well.

Nothing else can go wrong.  If no two sources are in each other's way, every source is left as it
was, and every executable is made from the code of its own source.
-/

namespace BufferMachine

/-- The native compiler is there, touches nothing but the executable, and makes one from whatever
code it can read. -/
structure Toolchain.Works (toolchain : Toolchain) (launcher : Launcher)
    (executable : Bytes → Bytes → Bytes → Bytes) :
    Prop where
  found : launcher.missing? toolchain.path = none
  touches : toolchain.TouchesOnlyOutput launcher
  builds : ∀ files source output code, files.readFile source = .ok code → files.Writable output →
    let result := launcher.start files toolchain.path (toolchain.arguments source output)
    result.failure = none ∧ result.files.find output = .ok (.file (executable source output code))

namespace Build

variable {settings : Settings} {launcher : Launcher}
  {executable : Bytes → Bytes → Bytes → Bytes} {d : Desk}
  {t : FileTree} {path : Bytes} {paths : List Bytes}

/-- A regular file that compiles, with room for its code and its executable. -/
structure Buildable (settings : Settings) (t : FileTree) (path source : Bytes)
    (c : Compilation) : Prop where
  find_eq : t.find path = .ok (.file source)
  compile_eq : compile settings.keywordRule settings.bufferSize source = .ok c
  code_writable : t.Writable (intermediatePath path)
  executable_writable : t.Writable (outputPath path)

/-- The executable of a source, made from its own code. -/
abbrev executableOf (executable : Bytes → Bytes → Bytes → Bytes) (path : Bytes)
    (c : Compilation) : Entry :=
  .file (executable (intermediatePath path) (outputPath path) c.code)

variable {source : Bytes} {c : Compilation}

theorem Buildable.confined {t' : FileTree} {others : List Bytes}
    (h : Buildable settings t path source c) (hconfined : FileTree.Confined others t t')
    (hapart : ∀ p ∈ path :: artifacts path, ∀ q ∈ others, t.Apart p q) :
    Buildable settings t' path source c where
  find_eq := (hconfined.shows (FileTree.shows_of_find h.find_eq) (hapart path (by simp))).find_file
  compile_eq := h.compile_eq
  code_writable := hconfined.writable h.code_writable (hapart _ (by simp [artifacts]))
  executable_writable := hconfined.writable h.executable_writable (hapart _ (by simp [artifacts]))

/-- Such a file is built, and its executable is there. -/
theorem Buildable.exists_attempt (hworks : (toolchainOf settings).Works launcher executable)
    (h : Buildable settings t path source c) :
    ∃ t', Attempt settings launcher false path t (.ok ()) t' ∧
      t'.Shows (outputPath path) (some (executableOf executable path c)) := by
  have hread : t.readFile path = .ok source := (FileTree.shows_of_find h.find_eq).readFile_eq
  obtain ⟨names, hplace⟩ := h.code_writable.exists_place
  have hwrite : (t.afterReading path).writeFile (intermediatePath path) c.code =
      .ok (t.set names (.file c.code)) := by
    rw [FileTree.afterReading_of_find h.find_eq, hplace.writeFile_eq]
  have hcode : (t.set names (.file c.code)).readFile (intermediatePath path) = .ok c.code :=
    (FileTree.shows_writeFile (hplace.writeFile_eq c.code) h.code_writable.2).readFile_eq
  have hroom : (t.set names (.file c.code)).Writable (outputPath path) := by
    apply (hplace.confined_set c.code).writable h.executable_writable
    intro p hp
    rw [List.mem_singleton.mp hp]
    exact (FileTree.apart_intermediate_output t path path).symm
  have hstart : nativeCall settings launcher false path (t.set names (.file c.code)) =
      launcher.start (t.set names (.file c.code)) (toolchainOf settings).path
        ((toolchainOf settings).arguments (intermediatePath path) (outputPath path)) := by
    simp [nativeCall, Toolchain.call, hworks.found]
  obtain ⟨hcall, hfind⟩ := hworks.builds _ _ _ _ hcode hroom
  rw [← hstart] at hcall hfind
  refine ⟨_, .built hread h.compile_eq hwrite hcall, ?_⟩
  -- only the code is removed
  apply (confined_tidied (confined_up_to_call hworks.touches false hwrite).2).shows
    (FileTree.shows_of_find hfind)
  intro p hp
  rw [List.mem_singleton.mp hp]
  exact (FileTree.apart_intermediate_output _ path path).symm

/-- No earlier file has been in the way. -/
theorem Buildable.at_turn (hdebug : settings.truth "bufc.debug" = false)
    (htouches : (toolchainOf settings).TouchesOnlyOutput launcher) (front : List Bytes)
    (h : Buildable settings d.files path source c)
    (hapart : ∀ p ∈ path :: artifacts path, ∀ q ∈ front.flatMap artifacts, d.files.Apart p q) :
    Buildable settings (treeAfter settings launcher d front) path source c :=
  h.confined (confined_from_start hdebug htouches d front) hapart

/-- Neither source is in the way of the other. -/
structure Independent (t : FileTree) (p q : Bytes) : Prop where
  sources : t.Apart p q
  code_source : t.Apart (intermediatePath p) q
  executable_source : t.Apart (outputPath p) q
  executables : t.Apart (outputPath p) (outputPath q)

theorem Independent.apart {p q x y : Bytes} {m n : List Bytes} (h : Independent t p q)
    (h' : Independent t q p) (hp : FileTree.Place t p m) (hq : FileTree.Place t q n)
    (hx : x ∈ p :: artifacts p) (hy : y ∈ q :: artifacts q) :
    t.Apart x y := by
  simp only [artifacts, List.mem_cons, List.not_mem_nil, or_false] at hx hy
  rcases hx with rfl | rfl | rfl
  · rcases hy with rfl | rfl | rfl
    · exact h.sources
    · exact h'.code_source.symm
    · exact h'.executable_source.symm
  · rcases hy with rfl | rfl | rfl
    · exact h.code_source
    · exact h.sources.intermediates hp hq
    · exact FileTree.apart_intermediate_output t p q
  · rcases hy with rfl | rfl | rfl
    · exact h.executable_source
    · exact (FileTree.apart_intermediate_output t q p).symm
    · exact h.executables

theorem separate_of_independent (hnodup : paths.Nodup)
    (hplaces : ∀ p ∈ paths, ∃ names, FileTree.Place t p names)
    (h : ∀ p ∈ paths, ∀ q ∈ paths, p ≠ q → Independent t p q) : Separate t paths := by
  refine List.pairwise_flatMap.mpr ⟨?_, ?_⟩
  · intro p hp
    obtain ⟨names, hplace⟩ := hplaces p hp
    have hown := hplace.apart_artifacts
    simp [artifacts, hown.1, hown.2, FileTree.apart_intermediate_output]
  · refine hnodup.imp_of_mem ?_
    intro p q hp hq hne x hx y hy
    obtain ⟨m, hpm⟩ := hplaces p hp
    obtain ⟨n, hqn⟩ := hplaces q hq
    exact (h p hp q hq hne).apart (h q hq p hp (Ne.symm hne)) hpm hqn hx hy

/-- When the names of two sources and of their artifacts are not all different. -/
theorem meet_iff {p q : Bytes} (hne : p ≠ q) : (∃ x ∈ p :: artifacts p, x ∈ q :: artifacts q) ↔
    q = intermediatePath p ∨ p = intermediatePath q ∨ q = outputPath p ∨ p = outputPath q ∨
      (q = p ++ sourceEnding ∧ ¬ sourceEnding <:+ p) ∨
        (p = q ++ sourceEnding ∧ ¬ sourceEnding <:+ q) := by
  have hcodes : intermediatePath p ≠ intermediatePath q :=
    fun heq => hne (List.append_cancel_right heq)
  have hexecutables := outputPath_eq_iff (p := p) (q := q)
  simp only [artifacts, List.mem_cons, List.not_mem_nil, or_false]
  constructor
  · rintro ⟨x, rfl | rfl | rfl, hx⟩
    · rcases hx with heq | heq | heq
      · exact absurd heq hne
      · exact Or.inr (Or.inl heq)
      · exact Or.inr (Or.inr (Or.inr (Or.inl heq)))
    · rcases hx with heq | heq | heq
      · exact Or.inl heq.symm
      · exact absurd heq hcodes
      · exact absurd heq (intermediatePath_ne_outputPath p q)
    · rcases hx with heq | heq | heq
      · exact Or.inr (Or.inr (Or.inl heq.symm))
      · exact absurd heq.symm (intermediatePath_ne_outputPath q p)
      · exact Or.inr (Or.inr (Or.inr (Or.inr ((hexecutables.mp heq).resolve_left hne))))
  · rintro (heq | heq | heq | heq | h)
    · exact ⟨q, Or.inr (Or.inl heq), Or.inl rfl⟩
    · exact ⟨p, Or.inl rfl, Or.inr (Or.inl heq)⟩
    · exact ⟨q, Or.inr (Or.inr heq), Or.inl rfl⟩
    · exact ⟨p, Or.inl rfl, Or.inr (Or.inr heq)⟩
    · exact ⟨outputPath p, Or.inr (Or.inr rfl), Or.inr (Or.inr (hexecutables.mpr (Or.inr h)))⟩

/-- Sources that are not in each other's way are all built: the build succeeds, every source is as
it was, and every executable has been made from the code of its own source.  Debugging is assumed
to be off (`hdebug`): it has every source dumped as well, to places that are not looked at here.
The names of two sources tell whether any of their files have the same name. -/
theorem builds_own_executables (hdebug : settings.truth "bufc.debug" = false)
    (hworks : (toolchainOf settings).Works launcher executable) (hnodup : paths.Nodup)
    (hbuildable : ∀ p ∈ paths, ∃ source c, Buildable settings d.files p source c)
    (hindependent : ∀ p ∈ paths, ∀ q ∈ paths, p ≠ q → Independent d.files p q) :
    outcome settings launcher d paths = .ok () ∧
    (∀ p ∈ paths, ∀ source c, Buildable settings d.files p source c →
      (treeAfter settings launcher d paths).find p = .ok (.file source) ∧
      (treeAfter settings launcher d paths).find (outputPath p) =
        .ok (executableOf executable p c)) ∧
    ∀ p q, p ≠ q → ((∃ x ∈ p :: artifacts p, x ∈ q :: artifacts q) ↔
      q = intermediatePath p ∨ p = intermediatePath q ∨ q = outputPath p ∨ p = outputPath q ∨
        (q = p ++ sourceEnding ∧ ¬ sourceEnding <:+ p) ∨
          (p = q ++ sourceEnding ∧ ¬ sourceEnding <:+ q)) := by
  have hseparate : Separate d.files paths := by
    apply separate_of_independent hnodup _ hindependent
    intro p hp
    obtain ⟨source, c, h⟩ := hbuildable p hp
    obtain ⟨names, hplace, -⟩ := FileTree.shows_of_find h.find_eq
    exact ⟨names, hplace⟩
  have houtcome : outcome settings launcher d paths = .ok () := by
    rw [outcome_eq_ok_iff hdebug]
    rintro front path back rfl
    obtain ⟨source, c, h⟩ := hbuildable path (by simp)
    have hturn := h.at_turn hdebug hworks.touches front fun p hp => (hseparate.split.2 p hp).1
    obtain ⟨t, hattempt, -⟩ := hturn.exists_attempt hworks
    exact ⟨t, hattempt⟩
  refine ⟨houtcome, ?_, fun p q => meet_iff⟩
  intro path hpath source c h
  obtain ⟨front, back, rfl⟩ := List.append_of_mem hpath
  constructor
  · have hconfined := confined_from_start hdebug hworks.touches d (front ++ path :: back)
    refine (hconfined.shows (FileTree.shows_of_find h.find_eq) ?_).find_file
    intro q hq
    exact hseparate.apart_source hq
  · have hturn := h.at_turn hdebug hworks.touches front fun p hp => (hseparate.split.2 p hp).1
    obtain ⟨t, hbuilt, hshows⟩ := hturn.exists_attempt hworks
    obtain ⟨result, hattempt, -⟩ := attempt_concat hdebug launcher d front path
    rw [outcome_front_of_ok hdebug houtcome] at hattempt
    rw [(hbuilt.unique hattempt).2] at hshows
    obtain ⟨hlater, hapart⟩ := hseparate.later hdebug hworks.touches
    exact (hlater.shows hshows (hapart (outputPath path) (by simp [artifacts]))).find_file

theorem copying_works (toolchain : Toolchain) : toolchain.Works copying fun _ _ code => code := by
  refine ⟨rfl, copying_touchesOnlyOutput toolchain, ?_⟩
  intro files source output code hread hwritable
  obtain ⟨names, hplace⟩ := hwritable.exists_place
  have hwrite := hplace.writeFile_eq code
  have hstart : copying.start files toolchain.path (toolchain.arguments source output) =
      { files := files.set names (.file code) } := by
    have hhead : (toolchain.arguments source output).headD [] = source := rfl
    simp only [copying, getLastD_arguments, hhead, hread, hwrite]
  rw [hstart]
  exact ⟨rfl, (FileTree.shows_writeFile hwrite hwritable.2).find_file⟩

theorem exists_compile_do : ∃ c,
    compile ({} : Settings).keywordRule ({} : Settings).bufferSize (bytes "do +;") = .ok c := by
  simp only [compile, scan, ByteReader.scan_eq_read]
  exact ⟨_, rfl⟩

/-- A source with the ending of source files, and one without. -/
theorem builds_own_executables_of_two :
    let settings : Settings := {}
    let place (name : String) : List Bytes := [bytes "tmp", bytes "work", bytes name]
    let files : FileTree :=
      { entries := [(place "a.none", .file (bytes "write;")), (place "b", .file (bytes "do +;"))] }
    let paths := [bytes "a.none", bytes "b"]
    settings.truth "bufc.debug" = false ∧
      (toolchainOf settings).Works copying (fun _ _ code => code) ∧
      (∀ p ∈ paths, ∃ source c, Buildable settings files p source c) ∧
      (∀ p ∈ paths, ∀ q ∈ paths, p ≠ q → Independent files p q) ∧
      outcome settings copying { files } paths = .ok () ∧
      (treeAfter settings copying { files } paths).find (bytes "a.none") =
        .ok (.file (bytes "write;")) ∧
      ∃ c, compile settings.keywordRule settings.bufferSize (bytes "write;") = .ok c ∧
        (treeAfter settings copying { files } paths).find (bytes "a.out") = .ok (.file c.code) := by
  intro settings place files paths
  have hdebug : settings.truth "bufc.debug" = false := rfl
  have hworks := copying_works (toolchainOf settings)
  obtain ⟨c, hcompile⟩ := exists_compile_write
  obtain ⟨c', hcompile'⟩ := exists_compile_do
  have hfirst : Buildable settings files (bytes "a.none") (bytes "write;") c :=
    ⟨by decide, hcompile, ⟨⟨_, rfl⟩, by decide⟩, ⟨⟨_, rfl⟩, by decide⟩⟩
  have hsecond : Buildable settings files (bytes "b") (bytes "do +;") c' :=
    ⟨by decide, hcompile', ⟨⟨_, rfl⟩, by decide⟩, ⟨⟨_, rfl⟩, by decide⟩⟩
  have hbuildable : ∀ p ∈ paths, ∃ source c, Buildable settings files p source c := by
    simp only [paths, List.forall_mem_cons]
    exact ⟨⟨_, _, hfirst⟩, ⟨_, _, hsecond⟩, by simp⟩
  have hindependent : ∀ p ∈ paths, ∀ q ∈ paths, p ≠ q → Independent files p q := by
    have hplaces : ∀ p ∈ paths, ∀ q ∈ paths, p ≠ q → files.locate p ≠ files.locate q ∧
        files.locate (intermediatePath p) ≠ files.locate q ∧
        files.locate (outputPath p) ≠ files.locate q ∧
        files.locate (outputPath p) ≠ files.locate (outputPath q) := by
      decide
    intro p hp q hq hne
    obtain ⟨hsources, hcode, hout, houts⟩ := hplaces p hp q hq hne
    exact ⟨FileTree.apart_of_ne hsources, FileTree.apart_of_ne hcode, FileTree.apart_of_ne hout,
      FileTree.apart_of_ne houts⟩
  obtain ⟨houtcome, hleft, -⟩ :=
    builds_own_executables hdebug hworks (d := { files }) (by decide) hbuildable hindependent
  obtain ⟨hsource, hexecutable⟩ := hleft (bytes "a.none") (by decide) _ c hfirst
  exact ⟨hdebug, hworks, hbuildable, hindependent, houtcome, hsource, c, hcompile, hexecutable⟩

/-- A source that lies where the code of another one goes is overwritten and removed, and the build
succeeds. -/
theorem source_removed_by_build :
    let settings : Settings := {}
    let place (name : String) : List Bytes := [bytes "tmp", bytes "work", bytes name]
    let files : FileTree :=
      { entries := [(place "a.c", .file (bytes "write;")), (place "a", .file (bytes "do +;"))] }
    let paths := [bytes "a.c", bytes "a"]
    settings.truth "bufc.debug" = false ∧
      (toolchainOf settings).Works copying (fun _ _ code => code) ∧ paths.Nodup ∧
      (∀ p ∈ paths, ∃ source c, Buildable settings files p source c) ∧
      files.Apart (bytes "a.c") (bytes "a") ∧ outcome settings copying { files } paths = .ok () ∧
      (treeAfter settings copying { files } paths).find (bytes "a.c") = .error .notFound := by
  intro settings place files paths
  have hdebug : settings.truth "bufc.debug" = false := rfl
  have hworks := copying_works (toolchainOf settings)
  obtain ⟨c, hcompile⟩ := exists_compile_write
  obtain ⟨c', hcompile'⟩ := exists_compile_do
  have hfirst : Buildable settings files (bytes "a.c") (bytes "write;") c :=
    ⟨by decide, hcompile, ⟨⟨_, rfl⟩, by decide⟩, ⟨⟨_, rfl⟩, by decide⟩⟩
  have hsecond : Buildable settings files (bytes "a") (bytes "do +;") c' :=
    ⟨by decide, hcompile', ⟨⟨_, rfl⟩, by decide⟩, ⟨⟨_, rfl⟩, by decide⟩⟩
  have hbuildable : ∀ p ∈ paths, ∃ source c, Buildable settings files p source c := by
    simp only [paths, List.forall_mem_cons]
    exact ⟨⟨_, _, hfirst⟩, ⟨_, _, hsecond⟩, by simp⟩
  have hplaces : ∀ p ∈ bytes "a" :: artifacts (bytes "a"), ∀ q ∈ [bytes "a.c"].flatMap artifacts,
      files.locate p ≠ files.locate q := by
    decide
  obtain ⟨t, hbuilt, -⟩ := hfirst.exists_attempt hworks
  have houtcome : outcome settings copying { files } [bytes "a.c"] = .ok () :=
    outcome_concat_of_attempt hdebug [] (bytes "a.c") (outcome_nil _ _ _) hbuilt
  have hturn :=
    hsecond.at_turn (d := { files }) hdebug hworks.touches [bytes "a.c"] fun p hp q hq =>
    FileTree.apart_of_ne (hplaces p hp q hq)
  obtain ⟨t', hbuilt', -⟩ := hturn.exists_attempt hworks
  obtain ⟨result, hattempt, -⟩ := attempt_concat hdebug copying { files } [bytes "a.c"] (bytes "a")
  rw [houtcome] at hattempt
  obtain ⟨rfl, rfl⟩ := hbuilt'.unique hattempt
  refine ⟨hdebug, hworks, by decide, hbuildable, FileTree.apart_of_ne (by decide), ?_, ?_⟩
  · exact outcome_concat_of_attempt hdebug [bytes "a.c"] (bytes "a") houtcome hbuilt'
  · exact (hbuilt'.shows_none hworks.touches hturn.code_writable.2 rfl rfl).find_eq

end Build

end BufferMachine
