import BufferMachine.Proofs.FileTrees

/-!
# Changes that stay in their places

Steps that work on files each have some paths of their own.  `Confined` says that a step keeps to
them: it makes, changes or removes regular files where its paths lead, and leaves everything else
alone, directories above all.  So paths lead where they led, confined steps one after the other are
confined again (`Confined.trans`), and what lies apart from all their paths is as before
(`Confined.entry_eq_of_apart`).
-/

namespace BufferMachine.FileTree

variable {t t' t'' : FileTree} {names : List Bytes} {path content : Bytes} {paths : List Bytes}

/-! ### Removing entries -/

theorem lookup_filter_ne (names ns : List Bytes) (entries : List (List Bytes × Entry)) :
    (entries.filter (·.1 != names)).lookup ns = if ns = names then none else entries.lookup ns := by
  induction entries with
  | nil => simp
  | cons e rest ih =>
    obtain ⟨first, entry⟩ := e
    by_cases hfirst : first = names
    · rw [List.filter_cons_of_neg (by simp [hfirst]), ih, lookup_cons, hfirst]
      by_cases hns : ns = names
      · rw [if_pos hns, if_pos hns]
      · rw [if_neg hns, if_neg hns, if_neg hns]
    · rw [List.filter_cons_of_pos (by simp [hfirst]), lookup_cons, lookup_cons, ih]
      by_cases hns : ns = first
      · rw [if_pos hns, if_pos hns, if_neg (hns ▸ hfirst)]
      · rw [if_neg hns, if_neg hns]

theorem entry_erase_of_ne {ns : List Bytes} (h : ns ≠ names) :
    entryAt? (t.erase names) ns = t.entryAt? ns := by
  unfold entryAt? erase
  rw [lookup_filter_ne, if_neg h]

/-- What is removed gives way to what the system has in the place. -/
theorem entry_erase_self (h : t.entryAt? names ≠ some .directory) :
    entryAt? (t.erase names) names = system? names := by
  have hroot : names.isPrefixOf t.directory = false := by
    by_contra hroot
    rw [Bool.not_eq_false] at hroot
    exact h (by simp [entryAt?, hroot])
  simp only [entryAt?, erase, lookup_filter_ne, hroot, if_true]
  simp

theorem remove_of_file (hlocate : t.locate path = .ok names)
    (hpath : Path.namesDirectory path = false) (hfile : t.entryAt? names = some (.file content)) :
    t.remove path = .ok (t.erase names) := by
  unfold remove
  simp only [hlocate, hfile, hpath]
  rfl

theorem remove_eq_ok (h : t.remove path = .ok t') :
    ∃ names, t.locate path = .ok names ∧ t' = t.erase names ∧
      (t.entryAt? names = some .directory ∨
        (∃ content, t.entryAt? names = some (.file content)) ∧
          Path.namesDirectory path = false) := by
  unfold remove at h
  split at h
  · cases h
  · next names hlocate =>
    refine ⟨names, hlocate, ?_⟩
    rcases hentry : t.entryAt? names with _ | (content | _ | kind)
    · rw [hentry] at h
      cases h
    · simp only [hentry] at h
      split at h
      · cases h
      · next hpath => exact ⟨(Except.ok.inj h).symm, Or.inr ⟨⟨content, rfl⟩, by simpa using hpath⟩⟩
    · simp only [hentry] at h
      split at h
      · cases h
      · split at h
        · cases h
        · split at h
          · cases h
          · exact ⟨(Except.ok.inj h).symm, Or.inl rfl⟩
    · rw [hentry] at h
      cases h

/-! ### Confined changes -/

/-- Regular files may have come, gone or changed where the paths lead; all else is the same. -/
structure Confined (paths : List Bytes) (t t' : FileTree) : Prop where
  directory_eq : t'.directory = t.directory
  entry_eq : ∀ names, t'.entryAt? names = t.entryAt? names ∨
    (∃ path ∈ paths, t.locate path = .ok names) ∧ t.entryAt? names ≠ some .directory ∧
      t'.entryAt? names ≠ some .directory

namespace Confined

theorem refl (paths : List Bytes) (t : FileTree) : Confined paths t t := ⟨rfl, fun _ => Or.inl rfl⟩

theorem entry_directory_iff (h : Confined paths t t') :
    t'.entryAt? names = some .directory ↔ t.entryAt? names = some .directory := by
  rcases h.entry_eq names with heq | ⟨-, hbefore, hafter⟩
  · rw [heq]
  · exact ⟨fun hentry => absurd hentry hafter, fun hentry => absurd hentry hbefore⟩

/-- Paths lead where they led, for no directory has come or gone. -/
theorem locate_iff (h : Confined paths t t') :
    t'.locate path = .ok names ↔ t.locate path = .ok names := by
  have hkeeps : Keeps t t' := ⟨h.directory_eq, fun _ hentry => h.entry_directory_iff.mpr hentry⟩
  have hkept : Keeps t' t := ⟨h.directory_eq.symm, fun _ hentry => h.entry_directory_iff.mp hentry⟩
  exact ⟨hkept.locate, hkeeps.locate⟩

theorem mono {more : List Bytes} (h : Confined paths t t') (hsub : paths ⊆ more) :
    Confined more t t' := by
  refine ⟨h.directory_eq, ?_⟩
  intro names
  rcases h.entry_eq names with heq | ⟨⟨path, hpath, hlocate⟩, hother⟩
  · exact Or.inl heq
  · exact Or.inr ⟨⟨path, hsub hpath, hlocate⟩, hother⟩

theorem trans (h : Confined paths t t') (h' : Confined paths t' t'') : Confined paths t t'' := by
  refine ⟨h'.directory_eq.trans h.directory_eq, ?_⟩
  intro names
  have hdirectory : t''.entryAt? names = some .directory ↔ t.entryAt? names = some .directory :=
    h'.entry_directory_iff.trans h.entry_directory_iff
  rcases h.entry_eq names with heq | ⟨hplace, hbefore, -⟩
  · rcases h'.entry_eq names with heq' | ⟨⟨path, hpath, hlocate⟩, hbefore', hafter⟩
    · exact Or.inl (heq'.trans heq)
    · exact Or.inr ⟨⟨path, hpath, h.locate_iff.mp hlocate⟩, heq ▸ hbefore', hafter⟩
  · exact Or.inr ⟨hplace, hbefore, mt hdirectory.mp hbefore⟩

theorem entry_eq_of_apart (h : Confined paths t t')
    (hapart : ∀ path ∈ paths, t.locate path ≠ .ok names) :
    t'.entryAt? names = t.entryAt? names := by
  rcases h.entry_eq names with heq | ⟨⟨path, hpath, hlocate⟩, -⟩
  · exact heq
  · exact absurd hlocate (hapart path hpath)

theorem place (h : Confined paths t t') (hplace : Place t path names)
    (hapart : ∀ p ∈ paths, t.locate p ≠ .ok names) : Place t' path names := by
  refine ⟨h.locate_iff.mpr hplace.locate_eq, hplace.not_namesDirectory, ?_⟩
  rw [h.entry_eq_of_apart hapart]
  exact hplace.entry_eq

end Confined

theorem Place.confined_set (h : Place t path names) (content : Bytes) :
    Confined [path] t (t.set names (.file content)) := by
  refine ⟨rfl, ?_⟩
  intro ns
  by_cases hns : ns = names
  · subst hns
    refine Or.inr ⟨⟨path, List.mem_singleton_self path, h.locate_eq⟩, h.not_directory, ?_⟩
    rw [entry_set_self h.not_directory]
    simp
  · exact Or.inl (entry_set_of_ne hns _)

theorem Place.confined_erase (h : Place t path names) (hsystem : system? names = none) :
    Confined [path] t (t.erase names) := by
  refine ⟨rfl, ?_⟩
  intro ns
  by_cases hns : ns = names
  · subst hns
    refine Or.inr ⟨⟨path, List.mem_singleton_self path, h.locate_eq⟩, h.not_directory, ?_⟩
    rw [entry_erase_self h.not_directory, hsystem]
    simp
  · exact Or.inl (entry_erase_of_ne hns)

/-- Removing is confined where no directory is removed and the system has nothing of its own. -/
theorem confined_remove (h : t.remove path = .ok t')
    (hother : ∀ names, t.locate path = .ok names → t.entryAt? names ≠ some .directory ∧
      system? names = none) :
    Confined [path] t t' := by
  obtain ⟨names, hlocate, rfl, hdirectory | ⟨hfile, hpath⟩⟩ := remove_eq_ok h
  · exact absurd hdirectory (hother names hlocate).1
  · have hplace : Place t path names := ⟨hlocate, hpath, Or.inr hfile⟩
    exact hplace.confined_erase (hother names hlocate).2

theorem not_directory_of_writeFile (h : t.writeFile path content = .ok t')
    (hlocate : t.locate path = .ok names) :
    t.entryAt? names ≠ some .directory := by
  intro hdirectory
  have hfind : t.find path = .ok .directory := find_eq_directory.mpr ⟨names, hlocate, hdirectory⟩
  rcases writeFile_eq_ok h with ⟨ns, hplace, -⟩ | ⟨⟨kind, hkind⟩, -⟩
  · obtain rfl : names = ns := Except.ok.inj (hlocate.symm.trans hplace.locate_eq)
    exact hplace.not_directory hdirectory
  · simp [device?, hfind] at hkind

theorem confined_writeFile (h : t.writeFile path content = .ok t') : Confined [path] t t' := by
  rcases writeFile_eq_ok h with ⟨names, hplace, rfl⟩ | ⟨-, rfl⟩
  · exact hplace.confined_set content
  · exact .refl _ _

/-- Reading takes away nothing but what is left of the input. -/
theorem afterReading_entries (t : FileTree) (path : Bytes) :
    (t.afterReading path).entries = t.entries ∧ (t.afterReading path).directory = t.directory := by
  unfold afterReading
  split
  · exact ⟨rfl, rfl⟩
  · exact ⟨rfl, rfl⟩

section

variable (hentries : t'.entries = t.entries) (hdirectory : t'.directory = t.directory)

include hentries hdirectory

theorem entry_eq_of_entries (names : List Bytes) : t'.entryAt? names = t.entryAt? names := by
  unfold entryAt?
  rw [hentries, hdirectory]

theorem find_eq_of_entries (path : Bytes) : t'.find path = t.find path := by
  have hfollow : ∀ cs start, t'.follow start cs = t.follow start cs := by
    intro cs
    induction cs with
    | nil => exact fun _ => rfl
    | cons c cs ih =>
      intro start
      rw [follow, follow, entry_eq_of_entries hentries hdirectory]
      simp only [ih]
  unfold find locate
  simp only [hdirectory, hfollow, entry_eq_of_entries hentries hdirectory]

theorem confined_of_entries (paths : List Bytes) : Confined paths t t' :=
  ⟨hdirectory, fun names => Or.inl (entry_eq_of_entries hentries hdirectory names)⟩

end

theorem confined_afterReading (paths : List Bytes) (t : FileTree) (path : Bytes) :
    Confined paths t (t.afterReading path) :=
  confined_of_entries (t.afterReading_entries path).1 (t.afterReading_entries path).2 paths

/-! ### Paths that lead to different places -/

/-- The two paths do not lead to the same place. -/
def Apart (t : FileTree) (p q : Bytes) : Prop :=
  ∀ names, t.locate p = .ok names → t.locate q ≠ .ok names

theorem apart_of_ne {p q : Bytes} (h : t.locate p ≠ t.locate q) : Apart t p q :=
  fun _ hp hq => h (hp.trans hq.symm)

theorem Apart.symm {p q : Bytes} (h : Apart t p q) : Apart t q p := fun names hq hp => h names hp hq

theorem Confined.apart {p q : Bytes} (h : Confined paths t t') (hapart : Apart t p q) :
    Apart t' p q := by
  intro names hp hq
  exact hapart names (h.locate_iff.mp hp) (h.locate_iff.mp hq)

/-! ### What a path shows -/

/-- The path leads to a place for regular files, and this is what is there. -/
def Shows (t : FileTree) (path : Bytes) (entry : Option Entry) : Prop :=
  ∃ names, Place t path names ∧ t.entryAt? names = entry

theorem Shows.readFile_eq (h : Shows t path (some (.file content))) :
    t.readFile path = .ok content := by
  obtain ⟨names, hplace, hentry⟩ := h
  exact hplace.readFile_eq hentry

theorem Shows.find_file (h : Shows t path (some (.file content))) :
    t.find path = .ok (.file content) := by
  obtain ⟨names, hplace, hentry⟩ := h
  exact find_of_entry hplace.locate_eq hplace.not_namesDirectory hentry

theorem Shows.find_eq (h : Shows t path none) : t.find path = .error .notFound := by
  obtain ⟨names, hplace, hentry⟩ := h
  simp only [find, hplace.locate_eq, Outcome.ok_bind, hentry]

theorem shows_of_find (h : t.find path = .ok (.file content)) :
    Shows t path (some (.file content)) := by
  unfold find at h
  obtain ⟨names, hlocate, hentry⟩ := Outcome.bind_eq_ok.mp h
  refine ⟨names, ?_⟩
  split at hentry
  · cases hentry
  · cases hentry
  · next entry hother hfound =>
    split at hentry
    · cases hentry
    · next hpath =>
      obtain rfl : entry = .file content := Except.ok.inj hentry
      exact ⟨⟨hlocate, by simpa using hpath, Or.inr ⟨content, hfound⟩⟩, hfound⟩

theorem Confined.shows {entry : Option Entry} (h : Confined paths t t')
    (hshows : Shows t path entry) (hapart : ∀ p ∈ paths, Apart t path p) : Shows t' path entry := by
  obtain ⟨names, hplace, hentry⟩ := hshows
  have hne : ∀ p ∈ paths, t.locate p ≠ .ok names := fun p hp => hapart p hp names hplace.locate_eq
  refine ⟨names, h.place hplace hne, ?_⟩
  rw [h.entry_eq_of_apart hne, hentry]

theorem Confined.writable (h : Confined paths t t') (hwritable : Writable t path)
    (hapart : ∀ p ∈ paths, Apart t path p) :
    Writable t' path := by
  obtain ⟨names, hplace⟩ := hwritable.exists_place
  exact (h.place hplace fun p hp => hapart p hp names hplace.locate_eq).writable

theorem afterReading_of_find (h : t.find path = .ok (.file content)) : t.afterReading path = t := by
  simp [afterReading, device?, h]

theorem shows_writeFile (h : t.writeFile path content = .ok t') (hdevice : t.device? path = none) :
    Shows t' path (some (.file content)) := by
  rcases writeFile_eq_ok h with ⟨names, hplace, rfl⟩ | ⟨⟨kind, hkind⟩, -⟩
  · exact ⟨names, hplace.set hplace content, entry_set_self hplace.not_directory _⟩
  · rw [hdevice] at hkind
    cases hkind

/-- A regular file that is removed is gone, unless the system has something in its place. -/
theorem Shows.remove (h : Shows t path (some (.file content)))
    (hsystem : ∀ names, t.locate path = .ok names → system? names = none) :
    ∃ removed, t.remove path = .ok removed ∧ Shows removed path none := by
  obtain ⟨names, hplace, hentry⟩ := h
  have hnone := hsystem names hplace.locate_eq
  have hgone : entryAt? (t.erase names) names = none := by
    rw [entry_erase_self hplace.not_directory, hnone]
  refine ⟨t.erase names, remove_of_file hplace.locate_eq hplace.not_namesDirectory hentry, names,
    ⟨?_, ?_, ?_⟩, hgone⟩
  · exact (hplace.confined_erase hnone).locate_iff.mpr hplace.locate_eq
  · exact hplace.not_namesDirectory
  · exact Or.inl hgone

end BufferMachine.FileTree
