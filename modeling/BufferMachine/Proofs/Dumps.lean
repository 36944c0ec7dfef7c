import BufferMachine.Proofs.ByteReading
import BufferMachine.Proofs.FileTrees
import BufferMachine.Proofs.Runs
import Mathlib.Data.List.Induction

/-!
# Dumps of runs

Dumps are by the way: a compiler with a directory for them comes to the same outcomes and counts the
same as one without, whatever becomes of the files.  If the directory can be made and written, its
files show the latest tokens and the latest tree, and nothing else in the file tree changes but that
the directory is there.

`Dumped` is the state of the files while runs go on.  It has three forms, for nothing has been
dumped, or tokens only, or tokens and a tree; a dump takes each form to the next or renews it in
place, so that the tree of files is known exactly.
-/

namespace BufferMachine

namespace Compiler

/-- The compiler with a directory for dumps. -/
def dumpingTo (c : Compiler) (directory : Bytes) : Compiler := { c with dumps := some directory }

/-- The compiler without dumps. -/
def withoutDumps (c : Compiler) : Compiler := { c with dumps := none }

end Compiler

/-! ### The latest tokens and the latest tree -/

def lastScanned (rule : KeywordRule) (sources : List Bytes) : Option (List Token) :=
  (sources.filterMap fun source => (scan rule source).toOption).getLast?

def lastParsed (rule : KeywordRule) (sources : List Bytes) : Option Program :=
  (sources.filterMap fun source => (scan rule source >>= Program.ofTokens).toOption).getLast?

theorem getLast?_filterMap_concat {α β : Type} (f : α → Option β) (xs : List α) (x : α) :
    ((xs ++ [x]).filterMap f).getLast? = (f x).or (xs.filterMap f).getLast? := by
  rw [List.filterMap_append, List.getLast?_append]
  cases hx : f x with
  | none => simp [hx]
  | some y => simp [hx]

/-! ### One dump -/

theorem dump_of_place {files made : FileTree} {directory name : Bytes} {names : List Bytes}
    (hmake : files.makeDirectories directory = .ok made)
    (hplace : made.Place (Path.join directory name) names) (value : Json) :
    dump files directory name value = (.ok (), made.set names (.file value.indented)) := by
  simp only [dump, hmake, hplace.writeFile_eq]

/-- The directory is there, with a place for each of the two files. -/
structure DumpSite (t : FileTree) (directory : Bytes)
    (tokensPlace treePlace : List Bytes) : Prop where
  found : t.find directory = .ok .directory
  tokens : t.Place (Path.join directory tokensFile) tokensPlace
  tree : t.Place (Path.join directory treeFile) treePlace

namespace DumpSite

variable {t : FileTree} {directory : Bytes} {tokensPlace treePlace : List Bytes}
  (h : DumpSite t directory tokensPlace treePlace)

include h

theorem makes : t.makeDirectories directory = .ok t := FileTree.makeDirectories_of_find h.found

/-- The two places differ, for each has the name of its file. -/
theorem ne : treePlace ≠ tokensPlace := by
  have htokens : FileTree.IsName tokensFile := ⟨by decide, by decide, by decide, by decide⟩
  have htree : FileTree.IsName treeFile := ⟨by decide, by decide, by decide, by decide⟩
  obtain ⟨a, rfl⟩ := htokens.exists_of_locate_join h.tokens.locate_eq
  obtain ⟨b, rfl⟩ := htree.exists_of_locate_join h.tree.locate_eq
  intro heq
  have hlast : treeFile = tokensFile := by simpa using congrArg List.getLast? heq
  exact absurd hlast (by decide)

theorem set_tokens (content : Bytes) :
    DumpSite (t.set tokensPlace (.file content)) directory tokensPlace treePlace :=
  ⟨(FileTree.keeps_set h.tokens.not_directory _).find_directory h.found,
    h.tokens.set h.tokens content, h.tree.set h.tokens content⟩

theorem set_tree (content : Bytes) :
    DumpSite (t.set treePlace (.file content)) directory tokensPlace treePlace :=
  ⟨(FileTree.keeps_set h.tree.not_directory _).find_directory h.found, h.tokens.set h.tree content,
    h.tree.set h.tree content⟩

end DumpSite

/-! ### The files while runs go on -/

/-- The files after some dumps, by the latest tokens and the latest tree. -/
inductive Dumped (before made : FileTree) (tokensPlace treePlace : List Bytes) :
    Option (List Token) → Option Program → FileTree → Prop where
  | nothing : Dumped before made tokensPlace treePlace none none before
  | tokens (ts : List Token) :
    Dumped before made tokensPlace treePlace (some ts) none
      (made.set tokensPlace (.file (Compiler.tokensJson ts).indented))
  | tree (ts : List Token) (p : Program) :
    Dumped before made tokensPlace treePlace (some ts) (some p)
      ((made.set tokensPlace (.file (Compiler.tokensJson ts).indented)).set treePlace
        (.file p.toJson.indented))

namespace Dumped

variable {before made t : FileTree} {directory : Bytes} {tokensPlace treePlace : List Bytes}
  {tokens : Option (List Token)} {program : Option Program}

theorem dump_tokens (h : Dumped before made tokensPlace treePlace tokens program t)
    (hmake : before.makeDirectories directory = .ok made)
    (hsite : DumpSite made directory tokensPlace treePlace) (ts : List Token) :
    Dumped before made tokensPlace treePlace (some ts) program
      (dump t directory tokensFile (Compiler.tokensJson ts)).2 := by
  cases h with
  | nothing =>
    rw [dump_of_place hmake hsite.tokens]
    exact .tokens ts
  | tokens old =>
    have hnow := hsite.set_tokens (Compiler.tokensJson old).indented
    rw [dump_of_place hnow.makes hnow.tokens, FileTree.set_set]
    exact .tokens ts
  | tree old p =>
    have hnow := (hsite.set_tokens (Compiler.tokensJson old).indented).set_tree p.toJson.indented
    rw [dump_of_place hnow.makes hnow.tokens, FileTree.set_comm hsite.ne]
    exact .tree ts p

theorem dump_tree {ts : List Token}
    (h : Dumped before made tokensPlace treePlace (some ts) program t)
    (hsite : DumpSite made directory tokensPlace treePlace) (p : Program) :
    Dumped before made tokensPlace treePlace (some ts) (some p)
      (dump t directory treeFile p.toJson).2 := by
  have hnow := hsite.set_tokens (Compiler.tokensJson ts).indented
  cases h with
  | tokens =>
    rw [dump_of_place hnow.makes hnow.tree]
    exact .tree ts p
  | tree _ old =>
    have hlater := hnow.set_tree old.toJson.indented
    rw [dump_of_place hlater.makes hlater.tree, FileTree.set_set]
    exact .tree ts p

/-- **One more run.**  A run renews the dumps of the stages that it gets through. -/
theorem filesAfter (h : Dumped before made tokensPlace treePlace tokens program t)
    (hmake : before.makeDirectories directory = .ok made)
    (hsite : DumpSite made directory tokensPlace treePlace) (c : Compiler) (source : Bytes) :
    Dumped before made tokensPlace treePlace ((scan c.rule source).toOption.or tokens)
      ((scan c.rule source >>= Program.ofTokens).toOption.or program)
      ((c.dumpingTo directory).filesAfter t source) := by
  simp only [Compiler.filesAfter, Compiler.dumpingTo, Run.dumped]
  cases hscan : scan c.rule source with
  | error d => exact h
  | ok ts =>
    have htokens := h.dump_tokens hmake hsite ts
    rw [Outcome.ok_bind]
    dsimp only
    cases hparse : Program.ofTokens ts with
    | error d => exact htokens
    | ok p => exact htokens.dump_tree hsite p

theorem foldl_filesAfter (hmake : before.makeDirectories directory = .ok made)
    (hsite : DumpSite made directory tokensPlace treePlace) (c : Compiler) (sources : List Bytes) :
    Dumped before made tokensPlace treePlace (lastScanned c.rule sources)
      (lastParsed c.rule sources)
      (sources.foldl (c.dumpingTo directory).filesAfter before) := by
  induction sources using List.reverseRecOn with
  | nil => exact .nothing
  | append_singleton sources source ih =>
    rw [lastScanned, lastParsed, getLast?_filterMap_concat, getLast?_filterMap_concat,
      List.foldl_append]
    exact ih.filesAfter hmake hsite c source

end Dumped

/-! ### What dumps show -/

/-- The directory can be made, and then both files can be written in it. -/
structure Dumpable (before made : FileTree) (directory : Bytes) : Prop where
  makes : before.makeDirectories directory = .ok made
  tokens : made.Writable (Path.join directory tokensFile)
  tree : made.Writable (Path.join directory treeFile)

/-- The dumps in a directory show the latest tokens and the latest tree, as far as there are any.
All else is as before, but for directories on the way to the directory of the dumps, which come only
with the first tokens. -/
structure ShowsLatest (before made after : FileTree) (directory : Bytes)
    (tokens : Option (List Token)) (program : Option Program) : Prop where
  untouched : tokens = none → after = before
  tokens_read : ∀ ts, tokens = some ts →
    after.readFile (Path.join directory tokensFile) = .ok (Compiler.tokensJson ts).indented
  tree_read : ∀ p, program = some p →
    after.readFile (Path.join directory treeFile) = .ok p.toJson.indented
  tree_untouched : program = none →
    ∀ names, made.locate (Path.join directory treeFile) = .ok names →
    after.entryAt? names = before.entryAt? names
  others : ∀ names, made.locate (Path.join directory tokensFile) ≠ .ok names →
    made.locate (Path.join directory treeFile) ≠ .ok names →
    after.entryAt? names = before.entryAt? names ∨
      (before.entryAt? names = none ∧ after.entryAt? names = some .directory ∧
      ∃ p, FileTree.OnTheWay directory p ∧ made.locate p = .ok names)
  directory_eq : after.directory = before.directory
  input_eq : after.input = before.input

theorem Dumpable.exists_site {before made : FileTree} {directory : Bytes}
    (h : Dumpable before made directory) :
    ∃ tokensPlace treePlace, DumpSite made directory tokensPlace treePlace := by
  obtain ⟨tokensPlace, htokens⟩ := h.tokens.exists_place
  obtain ⟨treePlace, htree⟩ := h.tree.exists_place
  exact ⟨tokensPlace, treePlace, FileTree.find_makeDirectories h.makes, htokens, htree⟩

theorem Dumped.showsLatest {before made after : FileTree} {directory : Bytes}
    {tokensPlace treePlace : List Bytes} {tokens : Option (List Token)} {program : Option Program}
    (h : Dumped before made tokensPlace treePlace tokens program after)
    (hmake : before.makeDirectories directory = .ok made)
    (hsite : DumpSite made directory tokensPlace treePlace) :
    ShowsLatest before made after directory tokens program := by
  have hgrows := FileTree.grows_makeDirectories hmake
  -- the place of the tree is no directory, so it is as before
  have htree : made.entryAt? treePlace = before.entryAt? treePlace := by
    rcases hgrows.entry_eq treePlace with heq | ⟨-, hentry, -⟩
    · exact heq
    · exact absurd hentry hsite.tree.not_directory
  cases h with
  | nothing =>
    refine ⟨fun _ => rfl, ?_, ?_, fun _ _ _ => rfl, fun _ _ _ => Or.inl rfl, rfl, rfl⟩
    · rintro ts ⟨⟩
    · rintro p ⟨⟩
  | tokens ts =>
    have hnow := hsite.set_tokens (Compiler.tokensJson ts).indented
    refine ⟨?_, ?_, ?_, ?_, ?_, hgrows.directory_eq, hgrows.input_eq⟩
    · rintro ⟨⟩
    · rintro _ ⟨⟩
      exact hnow.tokens.readFile_eq (FileTree.entry_set_self hsite.tokens.not_directory _)
    · rintro p ⟨⟩
    · intro _ names hnames
      obtain rfl : names = treePlace := Except.ok.inj (hnames.symm.trans hsite.tree.locate_eq)
      rw [FileTree.entry_set_of_ne hsite.ne, htree]
    · intro names hnames _
      rw [FileTree.entry_set_of_ne (hsite.tokens.ne_of_locate_ne hnames)]
      exact hgrows.entry_eq names
  | tree ts p =>
    have hnow := hsite.set_tokens (Compiler.tokensJson ts).indented
    have hlater := hnow.set_tree p.toJson.indented
    refine ⟨?_, ?_, ?_, ?_, ?_, hgrows.directory_eq, hgrows.input_eq⟩
    · rintro ⟨⟩
    · rintro _ ⟨⟩
      refine hlater.tokens.readFile_eq ?_
      rw [FileTree.entry_set_of_ne hsite.ne.symm]
      exact FileTree.entry_set_self hsite.tokens.not_directory _
    · rintro _ ⟨⟩
      exact hlater.tree.readFile_eq (FileTree.entry_set_self hnow.tree.not_directory _)
    · rintro ⟨⟩
    · intro names hnames hnames'
      rw [FileTree.entry_set_of_ne (hsite.tree.ne_of_locate_ne hnames'),
        FileTree.entry_set_of_ne (hsite.tokens.ne_of_locate_ne hnames)]
      exact hgrows.entry_eq names

theorem scan_error_of_compile {rule : KeywordRule} {size : Int} {source : Bytes} {place : Location}
    {lexeme : Bytes} (h : compile rule size source = .error (.lexical place lexeme)) :
    scan rule source = .error (.lexical place lexeme) := by
  rcases compile_eq_error.mp h with hscan | ⟨tokens, -, htokens⟩
  · exact hscan
  · rcases Instruction.ofTokens_eq_error htokens with ⟨dangling, -, -, heq⟩ | ⟨_, s, _, _, _, hs⟩
    · cases heq
    · obtain ⟨us, message, -, -, heq⟩ := Instruction.complainsAbout_of_error hs
      cases heq

theorem Compiler.foldl_filesAfter_of_lexical {c : Compiler} {sources : List Bytes}
    (h : ∀ source ∈ sources, ∃ place lexeme, c.outcome source = .error (.lexical place lexeme))
    (files : FileTree) :
    sources.foldl c.filesAfter files = files := by
  induction sources with
  | nil => rfl
  | cons source sources ih =>
    rw [List.forall_mem_cons] at h
    obtain ⟨⟨place, lexeme, houtcome⟩, hrest⟩ := h
    have hfiles : c.filesAfter files source = files := by
      rw [filesAfter, scan_error_of_compile houtcome]
    rw [List.foldl_cons, hfiles, ih hrest]

/-- **Dumps do not interfere, and they show the latest.**  With dumps or without, runs one after the
other return the same and count the same.  Nothing is dumped as long as no source can be scanned.
If the directory can be made and written, it shows in the end the tokens of the last source that
could be scanned and the tree of the last one that could be parsed. -/
theorem dumps_show_latest_runs (c : Compiler) (directory : Bytes) (sources : List Bytes)
    (w : Workspace) :
    ((c.dumpingTo directory).runAll sources w).1 = (c.withoutDumps.runAll sources w).1 ∧
      ((c.dumpingTo directory).runAll sources w).2.metrics =
        (c.withoutDumps.runAll sources w).2.metrics ∧
      ((∀ outcome ∈ ((c.dumpingTo directory).runAll sources w).1,
          ∃ place lexeme, outcome = .error (.lexical place lexeme)) →
        ((c.dumpingTo directory).runAll sources w).2.files = w.files) ∧
      ∀ made, Dumpable w.files made directory →
        ShowsLatest w.files made ((c.dumpingTo directory).runAll sources w).2.files directory
          (lastScanned c.rule sources) (lastParsed c.rule sources) := by
  refine ⟨?_, ?_, ?_, ?_⟩
  · rw [Compiler.runAll_fst, Compiler.runAll_fst]
    rfl
  · rw [Compiler.runAll_metrics, Compiler.runAll_metrics]
    rfl
  · rw [Compiler.runAll_fst, Compiler.runAll_files, List.forall_mem_map]
    intro hlexical
    exact Compiler.foldl_filesAfter_of_lexical hlexical w.files
  · intro made hdumpable
    obtain ⟨tokensPlace, treePlace, hsite⟩ := hdumpable.exists_site
    rw [Compiler.runAll_files]
    exact (Dumped.foldl_filesAfter hdumpable.makes hsite c sources).showsLatest
      hdumpable.makes hsite

/-- The second source has no terminator and the third an unknown word, so the tokens are those of
the second source and the tree is that of the first.  The unknown word alone leaves no dumps. -/
theorem dumps_show_latest_runs_three_sources :
    let c : Compiler := { rule := .exact }
    let directory := bytes "out/dumps"
    let sources := [bytes "do +;", bytes "write", bytes "x;"]
    let files := ((c.dumpingTo directory).runAll sources {}).2.files
    (∃ made, Dumpable {} made directory) ∧
      files.readFile (bytes "out/dumps/tokens.json") =
        .ok (Compiler.tokensJson [Cursor.lexemeAt 0 0 .keyword (bytes "write")]).indented ∧
      files.readFile (bytes "out/dumps/ast.json") =
        .ok (Program.toJson
          ⟨some [⟨[Cursor.lexemeAt 0 0 .keyword (bytes "do"),
            Cursor.lexemeAt 3 0 .operator (bytes "+")],
          Cursor.lexemeAt 4 0 .punctuation (bytes ";")⟩]⟩).indented ∧
      ((c.dumpingTo directory).runAll [bytes "x;"] {}).2.files = {} := by
  intro c directory sources files
  let made : FileTree :=
    { entries := [([bytes "tmp", bytes "work", bytes "out"], .directory),
        ([bytes "tmp", bytes "work", bytes "out", bytes "dumps"], .directory)] }
  let place (name : Bytes) : List Bytes :=
    [bytes "tmp", bytes "work", bytes "out", bytes "dumps", name]
  have hdumpable : Dumpable {} made directory :=
    ⟨by decide, ⟨⟨made.set (place tokensFile) (.file []), by decide⟩, by decide⟩,
      ⟨⟨made.set (place treeFile) (.file []), by decide⟩, by decide⟩⟩
  have hscanned :
      lastScanned c.rule sources = some [Cursor.lexemeAt 0 0 .keyword (bytes "write")] := by
    simp only [lastScanned, scan, ByteReader.scan_eq_read]
    decide
  have hparsed : lastParsed c.rule sources =
      some ⟨some [⟨[Cursor.lexemeAt 0 0 .keyword (bytes "do"),
        Cursor.lexemeAt 3 0 .operator (bytes "+")],
          Cursor.lexemeAt 4 0 .punctuation (bytes ";")⟩]⟩ := by
    simp only [lastParsed, scan, ByteReader.scan_eq_read]
    decide
  have hlexical : ∀ outcome ∈ ((c.dumpingTo directory).runAll [bytes "x;"] {}).1,
      ∃ place lexeme, outcome = .error (.lexical place lexeme) := by
    rw [Compiler.runAll_fst]
    simp only [List.map_cons, List.map_nil, List.forall_mem_singleton, compile, scan,
      ByteReader.scan_eq_read]
    exact ⟨⟨1, 0, 1⟩, bytes "x", by decide⟩
  obtain ⟨-, -, -, hlatest⟩ := dumps_show_latest_runs c directory sources {}
  have hshown := hlatest made hdumpable
  have htokensPath : Path.join directory tokensFile = bytes "out/dumps/tokens.json" := by decide
  have htreePath : Path.join directory treeFile = bytes "out/dumps/ast.json" := by decide
  refine ⟨⟨made, hdumpable⟩, ?_, ?_,
    (dumps_show_latest_runs c directory [bytes "x;"] {}).2.2.1 hlexical⟩
  · rw [← htokensPath]
    exact hshown.tokens_read _ hscanned
  · rw [← htreePath]
    exact hshown.tree_read _ hparsed

end BufferMachine
