import BufferMachine.Build.Artifacts
import BufferMachine.Proofs.FileChanges
import Mathlib.Data.List.Infix

/-!
# The names and places of artifacts

An artifact has the name of its source with another ending, and it lies in the same directory.  The
endings alone keep an intermediate file and an executable apart, whatever sources they belong to.
Two intermediate files are apart if their sources are, and no source is an artifact of its own.

That is all that holds in general.  The name of an executable does not tell whether its source had
the ending of source files, so the executables of two sources may be one (`outputPath_eq_iff`); and
a source may have the name of another one's artifact.
-/

namespace BufferMachine

/-! ### Names -/

theorem Bytes.withoutEnding?_append (stem ending : Bytes) :
    withoutEnding? ending (stem ++ ending) = some stem := by
  have hsuffix : ending.isSuffixOf (stem ++ ending) = true := by
    rw [List.isSuffixOf_iff_suffix]
    exact List.suffix_append stem ending
  simp [withoutEnding?, hsuffix]

theorem Bytes.withoutEnding?_of_not_suffix {ending text : Bytes} (h : ¬ ending <:+ text) :
    withoutEnding? ending text = none := by
  have hsuffix : ending.isSuffixOf text = false := by
    rw [← Bool.not_eq_true, List.isSuffixOf_iff_suffix]
    exact h
  simp [withoutEnding?, hsuffix]

theorem outputPath_append_sourceEnding (stem : Bytes) :
    outputPath (stem ++ sourceEnding) = stem ++ outputEnding := by
  rw [outputPath, Bytes.withoutEnding?_append]
  rfl

theorem outputPath_of_not_suffix {path : Bytes} (h : ¬ sourceEnding <:+ path) :
    outputPath path = path ++ outputEnding := by
  rw [outputPath, Bytes.withoutEnding?_of_not_suffix h]
  rfl

theorem outputPath_cases (path : Bytes) :
    (∃ stem, path = stem ++ sourceEnding ∧ outputPath path = stem ++ outputEnding) ∨
      ¬ sourceEnding <:+ path ∧ outputPath path = path ++ outputEnding := by
  by_cases hsuffix : sourceEnding <:+ path
  · obtain ⟨stem, rfl⟩ := hsuffix
    exact Or.inl ⟨stem, rfl, outputPath_append_sourceEnding stem⟩
  · exact Or.inr ⟨hsuffix, outputPath_of_not_suffix hsuffix⟩

theorem exists_outputPath (path : Bytes) : ∃ stem, outputPath path = stem ++ outputEnding := by
  rcases outputPath_cases path with ⟨stem, -, heq⟩ | ⟨-, heq⟩
  · exact ⟨stem, heq⟩
  · exact ⟨path, heq⟩

theorem intermediatePath_ne_outputPath (p q : Bytes) : intermediatePath p ≠ outputPath q := by
  obtain ⟨stem, hq⟩ := exists_outputPath q
  intro heq
  have hcode : intermediateEnding.getLast? = some (byte 'c') := by decide
  have hout : outputEnding.getLast? = some (byte 't') := by decide
  have hlast := congrArg List.getLast? (heq.trans hq)
  rw [intermediatePath, List.getLast?_append, List.getLast?_append, hcode, hout, Option.some_or,
    Option.some_or] at hlast
  exact absurd hlast (by decide)

theorem outputPath_ne_self (path : Bytes) : outputPath path ≠ path := by
  rcases outputPath_cases path with ⟨stem, hpath, heq⟩ | ⟨-, heq⟩
  · rw [heq, hpath]
    intro hendings
    exact absurd (List.append_cancel_left hendings) (by decide)
  · rw [heq]
    intro hself
    exact absurd (List.append_right_eq_self.mp hself) (by decide)

/-- The executables of two sources have the same name only if the sources differ in nothing but the
ending of source files. -/
theorem outputPath_eq_iff {p q : Bytes} : outputPath p = outputPath q ↔
    p = q ∨ (q = p ++ sourceEnding ∧ ¬ sourceEnding <:+ p) ∨
      (p = q ++ sourceEnding ∧ ¬ sourceEnding <:+ q) := by
  constructor
  · intro heq
    rcases outputPath_cases p with ⟨stem, hp, hout⟩ | ⟨hp, hout⟩
    all_goals rcases outputPath_cases q with ⟨stem', hq, hout'⟩ | ⟨hq, hout'⟩
    all_goals
      rw [hout, hout'] at heq
      have hstem := List.append_cancel_right heq
    · exact Or.inl (by rw [hp, hq, hstem])
    · exact Or.inr (Or.inr ⟨by rw [hp, hstem], hq⟩)
    · exact Or.inr (Or.inl ⟨by rw [hq, hstem], hp⟩)
    · exact Or.inl hstem
  · rintro (rfl | ⟨rfl, hp⟩ | ⟨rfl, hq⟩)
    · rfl
    · rw [outputPath_append_sourceEnding, outputPath_of_not_suffix hp]
    · rw [outputPath_append_sourceEnding, outputPath_of_not_suffix hq]

namespace FileTree

variable {t : FileTree} {names : List Bytes} {p q front name : Bytes}

theorem IsFront.getLast_eq {last : UInt8} (h : IsFront front) (hlast : front.getLast? = some last) :
    last = Path.separator := by
  rcases h with rfl | ⟨rest, rfl⟩
  · cases hlast
  · simpa using hlast.symm

/-- Only the last component of a path can have the ending of source files. -/
theorem sourceEnding_suffix_append_iff (hfront : IsFront front) :
    sourceEnding <:+ front ++ name ↔ sourceEnding <:+ name := by
  constructor
  · rintro ⟨stem, hstem⟩
    rcases List.append_eq_append_iff.mp hstem with ⟨middle, hmiddle, hending⟩ | ⟨middle, -, hname⟩
    · rcases List.eq_nil_or_concat middle with rfl | ⟨start, last, rfl⟩
      · exact hending ▸ List.suffix_rfl
      · -- the ending would reach over a slash
        have hlast : last = Path.separator := hfront.getLast_eq (by simp [hmiddle])
        have hmem : Path.separator ∈ sourceEnding := by simp [hending, hlast]
        exact absurd hmem (by decide)
    · exact ⟨middle, hname.symm⟩
  · intro hname
    exact hname.trans (List.suffix_append front name)

theorem outputPath_append (hfront : IsFront front) :
    outputPath (front ++ name) = front ++ outputPath name := by
  rcases outputPath_cases name with ⟨stem, rfl, hname⟩ | ⟨hname, heq⟩
  · rw [hname, ← List.append_assoc, outputPath_append_sourceEnding, List.append_assoc]
  · rw [heq, outputPath_of_not_suffix (mt (sourceEnding_suffix_append_iff hfront).mp hname),
      List.append_assoc]

theorem intermediatePath_append :
    intermediatePath (front ++ name) = front ++ intermediatePath name :=
  List.append_assoc front name intermediateEnding

/-- A component with an ending that ends with no dot is a name. -/
theorem isName_append {ending : Bytes} {b : UInt8} (hname : Path.separator ∉ name)
    (hending : Path.separator ∉ ending) (hlast : ending.getLast? = some b) (hdot : b ≠ byte '.') :
    IsName (name ++ ending) := by
  have hend : (name ++ ending).getLast? = some b := by
    rw [List.getLast?_append, hlast, Option.some_or]
  refine ⟨by simp [hname, hending], ?_, ?_, ?_⟩
  · intro heq
    rw [heq] at hend
    cases hend
  · intro heq
    rw [heq] at hend
    exact hdot (Option.some.inj hend).symm
  · intro heq
    rw [heq] at hend
    exact hdot (Option.some.inj hend).symm

theorem isName_intermediatePath (h : Path.separator ∉ name) : IsName (intermediatePath name) :=
  isName_append h (by decide)
    (by decide : intermediateEnding.getLast? = some (byte 'c')) (by decide)

theorem isName_outputPath (h : Path.separator ∉ name) : IsName (outputPath name) := by
  have hname : ∀ stem : Bytes, Path.separator ∉ stem → IsName (stem ++ outputEnding) :=
    fun stem hstem =>
    isName_append hstem (by decide)
      (by decide : outputEnding.getLast? = some (byte 't')) (by decide)
  rcases outputPath_cases name with ⟨stem, rfl, heq⟩ | ⟨-, heq⟩
  · rw [heq]
    exact hname stem (fun hmem => h (List.mem_append_left _ hmem))
  · rw [heq]
    exact hname name h

/-! ### Places -/

theorem exists_place_intermediate (hfront : IsFront front) (hname : Path.separator ∉ name)
    (hlocate : t.locate (intermediatePath (front ++ name)) = .ok names) :
    ∃ parent, Leads t front parent ∧ names = parent ++ [intermediatePath name] := by
  rw [intermediatePath_append] at hlocate
  exact (isName_intermediatePath hname).exists_of_locate hfront hlocate

theorem exists_place_output (hfront : IsFront front) (hname : Path.separator ∉ name)
    (hlocate : t.locate (outputPath (front ++ name)) = .ok names) :
    ∃ parent, Leads t front parent ∧ names = parent ++ [outputPath name] := by
  rw [outputPath_append hfront] at hlocate
  exact (isName_outputPath hname).exists_of_locate hfront hlocate

theorem apart_intermediate_output (t : FileTree) (p q : Bytes) :
    Apart t (intermediatePath p) (outputPath q) := by
  intro names hp hq
  obtain ⟨front, name, rfl, hfront, hname⟩ := exists_front p
  obtain ⟨front', name', rfl, hfront', hname'⟩ := exists_front q
  obtain ⟨parent, -, rfl⟩ := exists_place_intermediate hfront hname hp
  obtain ⟨parent', -, heq⟩ := exists_place_output hfront' hname' hq
  have hlast := (List.append_inj' heq rfl).2
  exact intermediatePath_ne_outputPath name name' (List.cons.inj hlast).1

theorem ne_nil_of_not_namesDirectory (hfront : IsFront front)
    (h : Path.namesDirectory (front ++ name) = false)
    (hlocate : t.locate (front ++ name) = .ok names) : name ≠ [] := by
  rintro rfl
  rw [List.append_nil] at h hlocate
  rcases hfront with rfl | ⟨rest, rfl⟩
  · exact (locate_eq_ok.mp hlocate).1.2.1 rfl
  · simp [Path.namesDirectory] at h

/-- Where two intermediate files would meet, their sources would already have met. -/
theorem Apart.intermediates {m n : List Bytes} (h : Apart t p q) (hp : Place t p m)
    (hq : Place t q n) :
    Apart t (intermediatePath p) (intermediatePath q) := by
  intro names hcode hcode'
  obtain ⟨front, name, rfl, hfront, hname⟩ := exists_front p
  obtain ⟨front', name', rfl, hfront', hname'⟩ := exists_front q
  obtain ⟨parent, hleads, rfl⟩ := exists_place_intermediate hfront hname hcode
  obtain ⟨parent', hleads', heq⟩ := exists_place_intermediate hfront' hname' hcode'
  obtain ⟨rfl, hlast⟩ := List.append_inj' heq rfl
  obtain rfl : name = name' := List.append_cancel_right (List.cons.inj hlast).1
  have hne := ne_nil_of_not_namesDirectory hfront hp.not_namesDirectory hp.locate_eq
  obtain ⟨_, hsource, hfollow⟩ := exists_leads hfront hname hne hp.locate_eq
  obtain ⟨_, hsource', hfollow'⟩ := exists_leads hfront' hname' hne hq.locate_eq
  obtain rfl := hleads.unique hsource
  obtain rfl := hleads'.unique hsource'
  obtain rfl : m = n := Except.ok.inj (hfollow.symm.trans hfollow')
  exact h m hp.locate_eq hq.locate_eq

/-- From a directory a component leads to the directory itself, to the one that it lies in, or to
what has that name. -/
theorem follow_singleton_ne {parent : List Bytes} {other : Bytes}
    (hfollow : t.follow parent [name] = .ok names) (hne : name ≠ other) :
    names ≠ parent ++ [other] := by
  rintro rfl
  obtain ⟨-, ⟨-, hend⟩ | ⟨-, hend⟩⟩ := follow_cons_eq_ok.mp hfollow
  · have hlength := congrArg List.length (Except.ok.inj hend)
    simp at hlength
  · have heq := Except.ok.inj hend
    unfold descend at heq
    split at heq
    · have hlength := congrArg List.length heq
      simp only [List.length_dropLast, List.length_append, List.length_singleton] at hlength
      omega
    · exact hne (by simpa using heq)

/-- No source is one of its own artifacts. -/
theorem Place.apart_artifacts (h : Place t p names) :
    Apart t p (intermediatePath p) ∧ Apart t p (outputPath p) := by
  obtain ⟨front, name, rfl, hfront, hname⟩ := exists_front p
  have hne := ne_nil_of_not_namesDirectory hfront h.not_namesDirectory h.locate_eq
  refine ⟨?_, ?_⟩
  · intro ns hsource hcode
    obtain ⟨parent, hleads, hfollow⟩ := exists_leads hfront hname hne hsource
    obtain ⟨parent', hleads', heq⟩ := exists_place_intermediate hfront hname hcode
    obtain rfl := hleads.unique hleads'
    refine follow_singleton_ne hfollow ?_ heq
    intro hself
    exact absurd (List.append_right_eq_self.mp hself.symm) (by decide)
  · intro ns hsource hout
    obtain ⟨parent, hleads, hfollow⟩ := exists_leads hfront hname hne hsource
    obtain ⟨parent', hleads', heq⟩ := exists_place_output hfront hname hout
    obtain rfl := hleads.unique hleads'
    exact follow_singleton_ne hfollow (Ne.symm (outputPath_ne_self name)) heq

/-- The system has nothing in the places of intermediate files. -/
theorem system?_of_locate_intermediate (hlocate : t.locate (intermediatePath p) = .ok names) :
    system? names = none := by
  obtain ⟨front, name, rfl, hfront, hname⟩ := exists_front p
  obtain ⟨parent, -, rfl⟩ := exists_place_intermediate hfront hname hlocate
  have hending :
      intermediateEnding.isSuffixOf ((parent ++ [intermediatePath name]).getLastD []) = true := by
    rw [List.getLastD_concat, List.isSuffixOf_iff_suffix]
    exact List.suffix_append name intermediateEnding
  have hdirectories : ∀ ns ∈ systemDirectories, intermediateEnding.isSuffixOf (ns.getLastD []) =
    false := by decide
  have hdevices : ∀ device ∈ systemDevices, intermediateEnding.isSuffixOf (device.1.getLastD []) =
    false := by decide
  have hdirectory : parent ++ [intermediatePath name] ∉ systemDirectories := by
    intro hmem
    rw [hdirectories _ hmem] at hending
    cases hending
  have hdevice : systemDevices.lookup (parent ++ [intermediatePath name]) = none := by
    rw [List.lookup_eq_none_iff]
    intro device hmem
    rw [bne_iff_ne]
    intro heq
    rw [heq, hdevices device hmem] at hending
    cases hending
  simp [system?, hdirectory, hdevice]

end FileTree

end BufferMachine
