import BufferMachine.Host.FileTree
import BufferMachine.Proofs.Outcome
import Mathlib.Data.List.Basic

/-!
# Writing into file trees

What operations that write leave of a tree.  Paths lead where they led as long as no directory goes
away (`Keeps`); neither making directories nor writing regular files takes one away.  So a place
where a regular file can be written (`Place`) remains one, whatever is written there or at other
such places.

Making a directory with all that it lies in adds directories where there was nothing, and only on
the way to it (`grows_makeDirectories`).  Once it is there, making it again changes nothing.
-/

namespace BufferMachine.FileTree

variable {t t' : FileTree} {names : List Bytes} {path : Bytes}

/-! ### Entries -/

theorem lookup_cons (ns first : List Bytes) (entry : Entry) (rest : List (List Bytes × Entry)) :
    ((first, entry) :: rest).lookup ns = if ns = first then some entry else rest.lookup ns := by
  by_cases hns : ns = first
  · subst hns
    rw [List.lookup_cons_self, if_pos rfl]
  · have hbeq : (ns == first) = false := beq_eq_false_iff_ne.mpr hns
    rw [List.lookup_cons, hbeq, if_neg hns]

theorem lookup_setEntry (names : List Bytes) (entry : Entry) (entries : List (List Bytes × Entry))
    (ns : List Bytes) :
    (setEntry names entry entries).lookup ns = if ns = names then some entry
      else entries.lookup ns := by
  induction entries with
  | nil => exact lookup_cons ns names entry []
  | cons e rest ih =>
    obtain ⟨first, old⟩ := e
    unfold setEntry
    by_cases hfirst : first = names
    · subst hfirst
      rw [if_pos rfl, lookup_cons, lookup_cons]
      split
      · rfl
      · rfl
    · rw [if_neg hfirst, lookup_cons, lookup_cons, ih]
      by_cases hns : ns = first
      · rw [if_pos hns, if_pos hns, if_neg (hns ▸ hfirst)]
      · rw [if_neg hns, if_neg hns]

theorem entry_set (t : FileTree) (names : List Bytes) (entry : Entry) (ns : List Bytes) :
    entryAt? (t.set names entry) ns =
      if ns.isPrefixOf t.directory then some .directory
      else if ns = names then some entry else t.entryAt? ns := by
  unfold entryAt? set
  rw [lookup_setEntry]
  by_cases hroot : ns.isPrefixOf t.directory = true
  · simp [hroot]
  · by_cases hns : ns = names
    · simp [hns]
    · simp [hroot, hns]

/-- What is not a directory can be set. -/
theorem entry_set_self (h : t.entryAt? names ≠ some .directory) (entry : Entry) :
    entryAt? (t.set names entry) names = some entry := by
  have hroot : names.isPrefixOf t.directory = false := by
    by_contra hroot
    rw [Bool.not_eq_false] at hroot
    exact h (by simp [entryAt?, hroot])
  rw [entry_set]
  simp [hroot]

theorem entry_set_of_ne {ns : List Bytes} (h : ns ≠ names) (entry : Entry) :
    entryAt? (t.set names entry) ns = t.entryAt? ns := by
  rw [entry_set, if_neg h]
  split
  · next hroot => simp [entryAt?, hroot]
  · rfl

theorem setEntry_setEntry (names : List Bytes) (a b : Entry) (entries : List (List Bytes × Entry)) :
    setEntry names b (setEntry names a entries) = setEntry names b entries := by
  induction entries with
  | nil => simp [setEntry]
  | cons e rest ih =>
    obtain ⟨first, old⟩ := e
    by_cases hfirst : first = names
    · simp [setEntry, hfirst]
    · simp [setEntry, hfirst, ih]

/-- An entry that is there already is changed in place, so it does not matter what is set at other
places before. -/
theorem setEntry_comm {names ns : List Bytes} (hne : ns ≠ names) (a a' b : Entry)
    (entries : List (List Bytes × Entry)) :
    setEntry names a' (setEntry ns b (setEntry names a entries)) =
      setEntry ns b (setEntry names a' entries) := by
  induction entries with
  | nil => simp [setEntry, hne.symm]
  | cons e rest ih =>
    obtain ⟨first, old⟩ := e
    by_cases hfirst : first = names
    · subst hfirst
      simp [setEntry, hne.symm]
    · by_cases hns : first = ns
      · subst hns
        simp [setEntry, hne, setEntry_setEntry]
      · simp [setEntry, hfirst, hns, ih]

theorem set_set (t : FileTree) (names : List Bytes) (a b : Entry) :
    (t.set names a).set names b = t.set names b := by
  simp [set, setEntry_setEntry]

theorem set_comm {ns : List Bytes} (hne : ns ≠ names) (t : FileTree) (a a' b : Entry) :
    ((t.set names a).set ns b).set names a' = (t.set names a').set ns b := by
  simp [set, setEntry_comm hne]

/-! ### Where paths lead -/

theorem follow_cons_eq_ok {start cs : List Bytes} {c : Bytes} :
    t.follow start (c :: cs) = .ok names ↔ t.entryAt? start = some .directory ∧
      (c = Path.here ∧ t.follow start cs = .ok names ∨
        (c ≠ Path.here ∧ c.length ≤ longestName) ∧ t.follow (descend start c) cs = .ok names) := by
  rw [follow]
  split
  · next hentry => simp [hentry]
  · next hentry =>
    by_cases hhere : c = Path.here
    · simp [hentry, hhere]
    · by_cases hlength : c.length > longestName
      · simp [hhere, hlength, Nat.not_le.mpr hlength]
      · simp [hentry, hhere, hlength, Nat.not_lt.mp hlength]
  · next entry hother hentry => simpa [hentry] using fun hdirectory => absurd hdirectory hother

theorem follow_append {start cs ds : List Bytes} :
    t.follow start (cs ++ ds) = .ok names ↔ ∃ mid, t.follow start cs = .ok mid ∧
      t.follow mid ds = .ok names := by
  induction cs generalizing start with
  | nil => simp [follow]
  | cons c cs ih =>
    rw [List.cons_append, follow_cons_eq_ok, ih, ih]
    simp only [follow_cons_eq_ok]
    constructor
    · rintro ⟨hentry, ⟨hhere, mid, hmid, hrest⟩ | ⟨hname, mid, hmid, hrest⟩⟩
      · exact ⟨mid, ⟨hentry, Or.inl ⟨hhere, hmid⟩⟩, hrest⟩
      · exact ⟨mid, ⟨hentry, Or.inr ⟨hname, hmid⟩⟩, hrest⟩
    · rintro ⟨mid, ⟨hentry, ⟨hhere, hmid⟩ | ⟨hname, hmid⟩⟩, hrest⟩
      · exact ⟨hentry, Or.inl ⟨hhere, mid, hmid, hrest⟩⟩
      · exact ⟨hentry, Or.inr ⟨hname, mid, hmid, hrest⟩⟩

/-- The components of a path that are followed. -/
def steps (path : Bytes) : List Bytes := (Bytes.pieces Path.separator path).filter (!·.isEmpty)

/-- Can a path be followed at all? -/
def WellFormed (path : Bytes) : Prop := 0 ∉ path ∧ path ≠ [] ∧ path.length ≤ longestPath

theorem locate_eq_ok : t.locate path = .ok names ↔
    WellFormed path ∧
      t.follow (if Path.isAbsolute path then [] else t.directory) (steps path) = .ok names := by
  unfold locate WellFormed steps
  by_cases hzero : 0 ∈ path
  · simp [hzero]
  · by_cases hempty : path = []
    · simp [hempty]
    · by_cases hlength : path.length > longestPath
      · simp [hzero, hempty, hlength, Nat.not_le.mpr hlength]
      · simp [hzero, hempty, hlength, Nat.not_lt.mp hlength]

theorem find_eq_directory : t.find path = .ok .directory ↔
    ∃ names, t.locate path = .ok names ∧ t.entryAt? names = some .directory := by
  unfold find
  rw [Outcome.bind_eq_ok]
  apply exists_congr
  intro names
  apply and_congr_right
  intro _
  split
  · next hentry => simp [hentry]
  · next hentry => simp [hentry, pure, Except.pure]
  · next entry hother hentry =>
    rw [hentry]
    split
    · simpa using hother
    · simp [pure, Except.pure]

theorem find_of_entry {entry : Entry} (hlocate : t.locate path = .ok names)
    (hpath : Path.namesDirectory path = false) (hentry : t.entryAt? names = some entry) :
    t.find path = .ok entry := by
  unfold find
  rw [hlocate, Outcome.ok_bind, hentry]
  cases entry with
  | directory => rfl
  | file content => simp [hpath, pure, Except.pure]
  | device kind => simp [hpath, pure, Except.pure]

/-! ### Trees that keep their directories -/

/-- The working directory is the same, and directories are still directories. -/
structure Keeps (t t' : FileTree) : Prop where
  directory_eq : t'.directory = t.directory
  directories : ∀ names, t.entryAt? names = some .directory → t'.entryAt? names = some .directory

theorem Keeps.follow (h : Keeps t t') {start : List Bytes} {cs : List Bytes}
    (hfollow : t.follow start cs = .ok names) :
    t'.follow start cs = .ok names := by
  induction cs generalizing start with
  | nil => exact hfollow
  | cons c cs ih =>
    obtain ⟨hentry, hrest⟩ := follow_cons_eq_ok.mp hfollow
    refine follow_cons_eq_ok.mpr ⟨h.directories start hentry, ?_⟩
    rcases hrest with ⟨hhere, hrest⟩ | ⟨hname, hrest⟩
    · exact Or.inl ⟨hhere, ih hrest⟩
    · exact Or.inr ⟨hname, ih hrest⟩

theorem Keeps.locate (h : Keeps t t') (hlocate : t.locate path = .ok names) :
    t'.locate path = .ok names := by
  obtain ⟨hpath, hfollow⟩ := locate_eq_ok.mp hlocate
  refine locate_eq_ok.mpr ⟨hpath, ?_⟩
  rw [h.directory_eq]
  exact h.follow hfollow

theorem Keeps.find_directory (h : Keeps t t') (hfind : t.find path = .ok .directory) :
    t'.find path = .ok .directory := by
  obtain ⟨names, hlocate, hentry⟩ := find_eq_directory.mp hfind
  exact find_eq_directory.mpr ⟨names, h.locate hlocate, h.directories names hentry⟩

theorem keeps_set (h : t.entryAt? names ≠ some .directory) (entry : Entry) :
    Keeps t (t.set names entry) := by
  refine ⟨rfl, ?_⟩
  intro ns hns
  rw [entry_set_of_ne ?_ entry]
  · exact hns
  · rintro rfl
    exact h hns

/-! ### Places for regular files -/

/-- The path leads to a place where a regular file is or can be. -/
structure Place (t : FileTree) (path : Bytes) (names : List Bytes) : Prop where
  locate_eq : t.locate path = .ok names
  not_namesDirectory : Path.namesDirectory path = false
  entry_eq : t.entryAt? names = none ∨ ∃ content, t.entryAt? names = some (.file content)

namespace Place

theorem not_directory (h : Place t path names) : t.entryAt? names ≠ some .directory := by
  rcases h.entry_eq with hnone | ⟨content, hfile⟩
  · simp [hnone]
  · simp [hfile]

theorem ne_of_locate_ne {ns : List Bytes} (h : Place t path names) (hns : t.locate path ≠ .ok ns) :
    ns ≠ names := by
  rintro rfl
  exact hns h.locate_eq

theorem writeFile_eq (h : Place t path names) (content : Bytes) :
    t.writeFile path content = .ok (t.set names (.file content)) := by
  unfold writeFile
  simp only [h.locate_eq, h.not_namesDirectory]
  rcases h.entry_eq with hnone | ⟨old, hfile⟩
  · rw [hnone]
    rfl
  · rw [hfile]
    rfl

/-- Writing a regular file, here or at another place, leaves the place one. -/
theorem set {path' : Bytes} {names' : List Bytes} (h : Place t path names)
    (h' : Place t path' names') (content : Bytes) :
    Place (t.set names' (.file content)) path names := by
  refine ⟨(keeps_set h'.not_directory _).locate h.locate_eq, h.not_namesDirectory, ?_⟩
  by_cases hne : names = names'
  · subst hne
    exact Or.inr ⟨content, entry_set_self h.not_directory _⟩
  · rw [entry_set_of_ne hne]
    exact h.entry_eq

theorem readFile_eq {content : Bytes} (h : Place t path names)
    (hfile : t.entryAt? names = some (.file content)) :
    t.readFile path = .ok content := by
  rw [readFile, find_of_entry h.locate_eq h.not_namesDirectory hfile]

end Place

/-- What is written is set at a place for regular files, or a device takes it and nothing
changes. -/
theorem writeFile_eq_ok {content : Bytes} (h : t.writeFile path content = .ok t') :
    (∃ names, Place t path names ∧ t' = t.set names (.file content)) ∨
      (∃ kind, t.device? path = some kind) ∧ t' = t := by
  unfold writeFile at h
  split at h
  · cases h
  · next names hlocate =>
    split at h
    · cases h
    · next hpath =>
      rw [Bool.not_eq_true] at hpath
      rcases hentry : t.entryAt? names with _ | (old | _ | kind)
      · rw [hentry] at h
        exact Or.inl ⟨names, ⟨hlocate, hpath, Or.inl hentry⟩, (Except.ok.inj h).symm⟩
      · rw [hentry] at h
        exact Or.inl ⟨names, ⟨hlocate, hpath, Or.inr ⟨old, hentry⟩⟩, (Except.ok.inj h).symm⟩
      · rw [hentry] at h
        cases h
      · right
        refine ⟨⟨kind, by rw [device?, find_of_entry hlocate hpath hentry]⟩, ?_⟩
        rw [hentry] at h
        cases kind with
        | full => cases h
        | terminal => cases h
        | _ => exact (Except.ok.inj h).symm

/-- A regular file can be written at the path: writing succeeds, and not because a device takes
everything. -/
def Writable (t : FileTree) (path : Bytes) : Prop :=
  (∃ t', t.writeFile path [] = .ok t') ∧ t.device? path = none

theorem Writable.exists_place (h : Writable t path) : ∃ names, Place t path names := by
  obtain ⟨⟨t', hwrite⟩, hdevice⟩ := h
  rcases writeFile_eq_ok hwrite with ⟨names, hplace, -⟩ | ⟨⟨kind, hkind⟩, -⟩
  · exact ⟨names, hplace⟩
  · rw [hdevice] at hkind
    cases hkind

theorem Place.writable (h : Place t path names) : Writable t path := by
  refine ⟨⟨_, h.writeFile_eq []⟩, ?_⟩
  unfold device?
  rcases h.entry_eq with hnone | ⟨content, hfile⟩
  · simp [find, h.locate_eq, Outcome.ok_bind, hnone]
  · rw [find_of_entry h.locate_eq h.not_namesDirectory hfile]

/-! ### Paths inside a directory -/

/-- A name that is a component of its own and leads nowhere else. -/
structure IsName (name : Bytes) : Prop where
  no_separator : Path.separator ∉ name
  ne_nil : name ≠ []
  ne_here : name ≠ Path.here
  ne_up : name ≠ Path.up

theorem exists_pieces (separator : UInt8) (text : Bytes) :
    ∃ piece more, Bytes.pieces separator text = piece :: more := by
  cases text with
  | nil => exact ⟨[], [], rfl⟩
  | cons b rest =>
    unfold Bytes.pieces
    split
    · exact ⟨_, _, rfl⟩
    · split
      · exact ⟨_, _, rfl⟩
      · exact ⟨_, _, rfl⟩

theorem pieces_append (separator : UInt8) (a b : Bytes) :
    Bytes.pieces separator (a ++ separator :: b) =
      Bytes.pieces separator a ++ Bytes.pieces separator b := by
  induction a with
  | nil => simp [Bytes.pieces]
  | cons x a ih =>
    obtain ⟨piece, more, hpieces⟩ := exists_pieces separator a
    by_cases hx : x = separator
    · simp [Bytes.pieces, hx, ih]
    · simp [Bytes.pieces, hx, ih, hpieces]

/-- The part of a path in front of its last component: nothing, or all up to a slash. -/
def IsFront (front : Bytes) : Prop := front = [] ∨ ∃ rest, front = rest ++ [Path.separator]

theorem exists_front (path : Bytes) :
    ∃ front name, path = front ++ name ∧ IsFront front ∧ Path.separator ∉ name := by
  induction path with
  | nil => exact ⟨[], [], rfl, Or.inl rfl, by simp⟩
  | cons b path ih =>
    obtain ⟨front, name, rfl, rfl | ⟨rest, rfl⟩, hname⟩ := ih
    · by_cases hb : b = Path.separator
      · exact ⟨[b], name, rfl, Or.inr ⟨[], by rw [hb]; rfl⟩, hname⟩
      · refine ⟨[], b :: name, rfl, Or.inl rfl, ?_⟩
        rw [List.mem_cons, not_or]
        exact ⟨Ne.symm hb, hname⟩
    · exact ⟨b :: (rest ++ [Path.separator]), name, rfl, Or.inr ⟨b :: rest, rfl⟩, hname⟩

theorem steps_append {front name : Bytes} (hfront : IsFront front) (hname : Path.separator ∉ name)
    (hne : name ≠ []) :
    steps (front ++ name) = steps front ++ [name] := by
  have hself : [name].filter (!·.isEmpty) = [name] := by simp [hne]
  unfold steps
  rcases hfront with rfl | ⟨rest, rfl⟩
  · rw [List.nil_append, Bytes.pieces_of_not_mem hname, hself]
    rfl
  · rw [List.append_assoc, List.singleton_append, pieces_append, pieces_append,
      Bytes.pieces_of_not_mem hname, List.filter_append, List.filter_append, hself]
    simp [Bytes.pieces]

theorem isAbsolute_append {front name : Bytes} (hfront : IsFront front)
    (hname : Path.separator ∉ name) :
    Path.isAbsolute (front ++ name) = Path.isAbsolute front := by
  rcases hfront with rfl | ⟨rest, rfl⟩
  · cases name with
    | nil => rfl
    | cons b name =>
      rw [List.mem_cons, not_or] at hname
      simpa [Path.isAbsolute] using Ne.symm hname.1
  · cases rest with
    | nil => rfl
    | cons b rest => rfl

/-- The directory that the front of a path leads to. -/
def Leads (t : FileTree) (front : Bytes) (parent : List Bytes) : Prop :=
  t.follow (if Path.isAbsolute front then [] else t.directory) (steps front) = .ok parent

theorem Leads.unique {front : Bytes} {parent parent' : List Bytes} (h : Leads t front parent)
    (h' : Leads t front parent') : parent = parent' := Except.ok.inj (h.symm.trans h')

/-- A path leads where its last component leads from the directory in front of it. -/
theorem exists_leads {front name : Bytes} (hfront : IsFront front) (hname : Path.separator ∉ name)
    (hne : name ≠ []) (hlocate : t.locate (front ++ name) = .ok names) :
    ∃ parent, Leads t front parent ∧ t.follow parent [name] = .ok names := by
  obtain ⟨-, hfollow⟩ := locate_eq_ok.mp hlocate
  rw [steps_append hfront hname hne, isAbsolute_append hfront hname, follow_append] at hfollow
  exact hfollow

theorem intercalate_concat (separator : UInt8) (cs : List Bytes) (name : Bytes) :
    List.intercalate [separator] (cs ++ [name]) = cs.flatMap (· ++ [separator]) ++ name := by
  induction cs with
  | nil => simp [List.intercalate]
  | cons c cs ih =>
    cases cs with
    | nil => simp [List.intercalate]
    | cons d ds =>
      simp only [List.intercalate, List.cons_append, List.intersperse_cons_cons, List.flatten_cons,
        List.flatMap_cons] at ih ⊢
      simp [ih]

namespace IsName

variable {name : Bytes} (h : IsName name)

include h

theorem components_self : Path.components name = [name] := by
  simp [Path.components, Bytes.pieces_of_not_mem h.no_separator, h.ne_nil, h.ne_here]

theorem components_append (text : Bytes) :
    Path.components (text ++ Path.separator :: name) = Path.components text ++ [name] := by
  have hself := h.components_self
  unfold Path.components at hself ⊢
  rw [pieces_append, List.filter_append, hself]

theorem exists_clean {text : Bytes} {cs : List Bytes}
    (hcomponents : Path.components text = cs ++ [name]) :
    ∃ front, Path.clean text = front ++ name ∧ IsFront front := by
  obtain ⟨ds, hds⟩ : ∃ ds, Path.cleanComponents text = ds ++ [name] := by
    have hpush : ∀ reversed, Path.push (Path.isAbsolute text) reversed name = name :: reversed := by
      intro reversed
      simp [Path.push, h.ne_up]
    refine ⟨(cs.foldl (Path.push (Path.isAbsolute text)) []).reverse, ?_⟩
    rw [Path.cleanComponents, hcomponents, List.foldl_append, List.foldl_cons, List.foldl_nil,
      hpush, List.reverse_cons]
  have hfront : IsFront (ds.flatMap (· ++ [Path.separator])) := by
    rcases List.eq_nil_or_concat ds with rfl | ⟨ds, d, rfl⟩
    · exact Or.inl rfl
    · right
      rw [List.concat_eq_append, List.flatMap_append, List.flatMap_singleton, ← List.append_assoc]
      exact ⟨_, rfl⟩
  unfold Path.clean
  rw [hds, intercalate_concat]
  split
  · refine ⟨Path.separator :: ds.flatMap (· ++ [Path.separator]), rfl, Or.inr ?_⟩
    rcases hfront with hnil | ⟨rest, hrest⟩
    · exact ⟨[], by rw [hnil]; rfl⟩
    · exact ⟨Path.separator :: rest, by rw [hrest]; rfl⟩
  · have hne : (ds.flatMap (· ++ [Path.separator]) ++ name).isEmpty = false := by simp [h.ne_nil]
    dsimp only
    rw [hne]
    exact ⟨_, rfl, hfront⟩

/-- A path inside a directory ends with the name of what it names. -/
theorem exists_join (directory : Bytes) :
    ∃ front, Path.join directory name = front ++ name ∧ IsFront front := by
  unfold Path.join
  split
  · rw [if_neg (by simp [h.ne_nil])]
    have hself : Path.components name = [] ++ [name] := h.components_self
    exact h.exists_clean hself
  · rw [List.append_assoc, List.singleton_append]
    exact h.exists_clean (h.components_append directory)

theorem follow_eq {parent : List Bytes} (hfollow : t.follow parent [name] = .ok names) :
    names = parent ++ [name] := by
  obtain ⟨-, ⟨hhere, -⟩ | ⟨-, hend⟩⟩ := follow_cons_eq_ok.mp hfollow
  · exact absurd hhere h.ne_here
  · rw [follow, descend, if_neg h.ne_up] at hend
    exact (Except.ok.inj hend).symm

theorem exists_of_locate {front : Bytes} (hfront : IsFront front)
    (hlocate : t.locate (front ++ name) = .ok names) :
    ∃ parent, Leads t front parent ∧ names = parent ++ [name] := by
  obtain ⟨parent, hleads, hfollow⟩ := exists_leads hfront h.no_separator h.ne_nil hlocate
  exact ⟨parent, hleads, h.follow_eq hfollow⟩

/-- What a path inside a directory leads to has the name that the path ends with. -/
theorem exists_of_locate_join {directory : Bytes}
    (hlocate : t.locate (Path.join directory name) = .ok names) :
    ∃ parent, names = parent ++ [name] := by
  obtain ⟨front, hjoin, hfront⟩ := h.exists_join directory
  rw [hjoin] at hlocate
  obtain ⟨parent, -, hnames⟩ := h.exists_of_locate hfront hlocate
  exact ⟨parent, hnames⟩

end IsName

/-! ### Making directories -/

/-- The one path is the other, or that of a directory which the other lies in. -/
inductive OnTheWay : Bytes → Bytes → Prop where
  | refl (path : Bytes) : OnTheWay path path
  | parent {path parent p : Bytes} (hparent : parentPath? path = some parent)
    (h : OnTheWay parent p) : OnTheWay path p

/-- The second tree has all that the first has, and besides only directories that the way to the
path leads through. -/
structure Grows (path : Bytes) (t t' : FileTree) : Prop where
  directory_eq : t'.directory = t.directory
  input_eq : t'.input = t.input
  entry_eq : ∀ names, t'.entryAt? names = t.entryAt? names ∨
    (t.entryAt? names = none ∧ t'.entryAt? names = some .directory ∧
    ∃ p, OnTheWay path p ∧ t'.locate p = .ok names)

namespace Grows

theorem refl (path : Bytes) (t : FileTree) : Grows path t t := ⟨rfl, rfl, fun _ => Or.inl rfl⟩

theorem keeps (h : Grows path t t') : Keeps t t' := by
  refine ⟨h.directory_eq, ?_⟩
  intro names hentry
  rcases h.entry_eq names with heq | ⟨hnone, -⟩
  · rw [heq, hentry]
  · rw [hentry] at hnone
    cases hnone

theorem trans {t'' : FileTree} (h : Grows path t t') (h' : Grows path t' t'') :
    Grows path t t'' := by
  refine ⟨h'.directory_eq.trans h.directory_eq, h'.input_eq.trans h.input_eq, ?_⟩
  intro names
  rcases h.entry_eq names with heq | ⟨hnone, hentry, p, hp, hlocate⟩
  · rw [← heq]
    exact h'.entry_eq names
  · exact Or.inr ⟨hnone, h'.keeps.directories names hentry, p, hp, h'.keeps.locate hlocate⟩

theorem of_parent {parent : Bytes} (hparent : parentPath? path = some parent)
    (h : Grows parent t t') :
    Grows path t t' := by
  refine ⟨h.directory_eq, h.input_eq, ?_⟩
  intro names
  rcases h.entry_eq names with heq | ⟨hnone, hentry, p, hp, hlocate⟩
  · exact Or.inl heq
  · exact Or.inr ⟨hnone, hentry, p, .parent hparent hp, hlocate⟩

end Grows

theorem makeDirectory_eq_ok {made : FileTree} (h : t.makeDirectory path = .ok made) :
    Grows path t made ∧ made.find path = .ok .directory := by
  unfold makeDirectory at h
  split at h
  · cases h
  · next names hlocate =>
    split at h
    · cases h
    · next hfree =>
      have hnone : t.entryAt? names = none := by simpa using hfree
      have hother : t.entryAt? names ≠ some .directory := by simp [hnone]
      cases h
      have hkeeps := (keeps_set hother .directory).locate hlocate
      have hentry := entry_set_self hother .directory
      refine ⟨⟨rfl, rfl, ?_⟩, find_eq_directory.mpr ⟨names, hkeeps, hentry⟩⟩
      intro ns
      by_cases hns : ns = names
      · subst hns
        exact Or.inr ⟨hnone, hentry, path, .refl path, hkeeps⟩
      · exact Or.inl (entry_set_of_ne hns .directory)

/-- All that can come of making a directory: it was there, or something else is; the one that it
lies in cannot be made; or that one has been made, and in it the directory is made, or found, or
cannot be made. -/
theorem makeDirectoriesTo_cases (t : FileTree) (path : Bytes) (depth : Nat) :
    (t.find path = .ok .directory ∧ t.makeDirectoriesTo path (depth + 1) = .ok t) ∨
      (∃ failure, t.makeDirectoriesTo path (depth + 1) = .error (failure, t)) ∨
      (∃ e, (parentPath? path).elim (.ok t) (t.makeDirectoriesTo · depth) = .error e ∧
        t.makeDirectoriesTo path (depth + 1) = .error e) ∨
      ∃ parented, (parentPath? path).elim (.ok t) (t.makeDirectoriesTo · depth) = .ok parented ∧
        ((∃ made, parented.makeDirectory path = .ok made ∧
            t.makeDirectoriesTo path (depth + 1) = .ok made) ∨
          (parented.find path = .ok .directory ∧
            t.makeDirectoriesTo path (depth + 1) = .ok parented) ∨
          ∃ failure, t.makeDirectoriesTo path (depth + 1) = .error (failure, parented)) := by
  generalize hresult : t.makeDirectoriesTo path (depth + 1) = result
  unfold makeDirectoriesTo at hresult
  split at hresult
  · next hfind => exact Or.inl ⟨hfind, hresult.symm⟩
  · exact Or.inr (Or.inl ⟨_, hresult.symm⟩)
  · right
    right
    revert hresult
    cases parentPath? path
    all_goals
      intro hresult
      rcases Outcome.bind_cases hresult with ⟨e, hfailed, heq⟩ | ⟨parented, hparented, hlast⟩
      · exact Or.inl ⟨e, hfailed, heq⟩
      · refine Or.inr ⟨parented, hparented, ?_⟩
        dsimp only at hlast
        split at hlast
        · next made hmake => exact Or.inl ⟨made, hmake, hlast.symm⟩
        · split at hlast
          · next hfind => exact Or.inr (Or.inl ⟨hfind, hlast.symm⟩)
          · exact Or.inr (Or.inr ⟨_, hlast.symm⟩)

/-- **Making directories.**  What is made lies on the way, also if not all can be made, and
otherwise the directory is there afterwards. -/
theorem grows_makeDirectoriesTo (t : FileTree) (path : Bytes) (depth : Nat) :
    match t.makeDirectoriesTo path depth with
    | .ok made => Grows path t made ∧ (0 < depth → made.find path = .ok .directory)
    | .error (_, made) => Grows path t made := by
  induction depth generalizing path with
  | zero => exact ⟨.refl path t, fun hpos => absurd hpos (Nat.lt_irrefl 0)⟩
  | succ depth ih =>
    rcases makeDirectoriesTo_cases t path depth with ⟨hfind, heq⟩ | ⟨failure, heq⟩ |
      ⟨⟨failure, made⟩, hfailed, heq⟩ | ⟨parented, hparented, hlast⟩
    · rw [heq]
      exact ⟨.refl path t, fun _ => hfind⟩
    · rw [heq]
      exact .refl path t
    · rw [heq]
      cases hparent : parentPath? path with
      | none =>
        rw [hparent] at hfailed
        cases hfailed
      | some parent =>
        have hgrows := ih parent
        rw [hparent, Option.elim_some] at hfailed
        rw [hfailed] at hgrows
        exact .of_parent hparent hgrows
    · have hgrows : Grows path t parented := by
        cases hparent : parentPath? path with
        | none =>
          rw [hparent] at hparented
          cases hparented
          exact .refl path t
        | some parent =>
          have hgrown := ih parent
          rw [hparent, Option.elim_some] at hparented
          rw [hparented] at hgrown
          exact .of_parent hparent hgrown.1
      rcases hlast with ⟨made, hmake, heq⟩ | ⟨hfind, heq⟩ | ⟨failure, heq⟩
      · obtain ⟨hgrown, hfind⟩ := makeDirectory_eq_ok hmake
        rw [heq]
        exact ⟨hgrows.trans hgrown, fun _ => hfind⟩
      · rw [heq]
        exact ⟨hgrows, fun _ => hfind⟩
      · rw [heq]
        exact hgrows

theorem grows_makeDirectories {made : FileTree} (h : t.makeDirectories path = .ok made) :
    Grows path t made := by
  have hgrows := grows_makeDirectoriesTo t path (path.length + 1)
  rw [← makeDirectories, h] at hgrows
  exact hgrows.1

theorem find_makeDirectories {made : FileTree} (h : t.makeDirectories path = .ok made) :
    made.find path = .ok .directory := by
  have hgrows := grows_makeDirectoriesTo t path (path.length + 1)
  rw [← makeDirectories, h] at hgrows
  exact hgrows.2 (Nat.zero_lt_succ _)

/-- A directory that is there need not be made. -/
theorem makeDirectories_of_find (h : t.find path = .ok .directory) :
    t.makeDirectories path = .ok t := by
  rw [makeDirectories, makeDirectoriesTo, h]

end BufferMachine.FileTree
