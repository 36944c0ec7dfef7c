import BufferMachine.Diagnostic.ErrorTree
import Mathlib.Data.Option.Basic

/-!
# Which diagnostic of an error tree is shown

A leaf of an error tree is reached along a path that says which part to take at every join;
wrappings are passed through.  To go through a tree depth first and from left to right is to go
through its leaves in the lexicographic order of their paths.

The diagnostic that is shown for a tree is the leaf of the earliest stage and, among the leaves of
that stage, the one with the first path (`Foremost`).  A search for the leaves of one kind goes
through the parts of a join one after the other, so it ends in the first part that has such a leaf
and passes over parts that have none; this is the induction step of `exists_first_of_find?`.
-/

namespace BufferMachine

/-- The stages in the order in which they go to work. -/
def Diagnostic.rank : Diagnostic → Nat
  | .scanning .. => 0
  | .syntactic .. => 1
  | .generation .. => 2

theorem Diagnostic.rank_le (d : Diagnostic) : d.rank ≤ 2 := by cases d <;> simp [rank]

theorem Diagnostic.isLexical_iff {d : Diagnostic} : d.isLexical = true ↔ d.rank = 0 := by
  cases d <;> simp [isLexical, rank]

theorem Diagnostic.isSyntactic_iff {d : Diagnostic} : d.isSyntactic = true ↔ d.rank = 1 := by
  cases d <;> simp [isSyntactic, rank]

namespace ErrorTree

/-- A diagnostic is the leaf at the end of a path. -/
inductive LeafAt : ErrorTree → List Nat → Diagnostic → Prop where
  | diagnostic (d : Diagnostic) : LeafAt (.diagnostic d) [] d
  | wrapped (context : Bytes) {inner : ErrorTree} {path : List Nat} {d : Diagnostic}
    (h : LeafAt inner path d) :
    LeafAt (.wrapped context inner) path d
  | joined {parts : List ErrorTree} {index : Nat} {part : ErrorTree} {path : List Nat}
    {d : Diagnostic} (hpart : parts[index]? = some part) (h : LeafAt part path d) :
    LeafAt (.joined parts) (index :: path) d

/-- The one path is met before the other on the way through a tree. -/
def Precedes (path path' : List Nat) : Prop := List.Lex (· < ·) path path'

/-- The leaf that is met first among those of the earliest stage. -/
structure Foremost (e : ErrorTree) (path : List Nat) (d : Diagnostic) : Prop where
  leaf : e.LeafAt path d
  first : ∀ path' d', e.LeafAt path' d' → d.rank < d'.rank ∨ d.rank = d'.rank ∧
    (path = path' ∨ Precedes path path')

/-- To show something of all error trees, show it of joined ones from all their parts. -/
theorem treeInduction {motive : ErrorTree → Prop} (diagnostic : ∀ d, motive (.diagnostic d))
    (plain : ∀ message, motive (.plain message))
    (wrapped : ∀ context inner, motive inner → motive (.wrapped context inner))
    (joined : ∀ parts, (∀ part ∈ parts, motive part) → motive (.joined parts))
    (e : ErrorTree) : motive e :=
  @ErrorTree.rec motive (fun parts => ∀ part ∈ parts, motive part) diagnostic plain wrapped joined
    (fun _ hmem => absurd hmem List.not_mem_nil)
    (fun _ _ hpart hparts => List.forall_mem_cons.mpr ⟨hpart, hparts⟩) e

theorem joinedDiagnostics_eq (parts : List ErrorTree) :
    joinedDiagnostics parts = parts.flatMap diagnostics := by
  induction parts with
  | nil => rw [joinedDiagnostics, List.flatMap_nil]
  | cons part parts ih => rw [joinedDiagnostics, ih, List.flatMap_cons]

/-! ### Leaves -/

theorem mem_diagnostics_iff {e : ErrorTree} {d : Diagnostic} :
    d ∈ e.diagnostics ↔ ∃ path, e.LeafAt path d := by
  constructor
  · intro hmem
    induction e using treeInduction with
    | diagnostic d' =>
      rw [diagnostics, List.mem_singleton] at hmem
      exact ⟨[], hmem ▸ .diagnostic d⟩
    | plain message =>
      rw [diagnostics] at hmem
      cases hmem
    | wrapped context inner ih =>
      rw [diagnostics] at hmem
      obtain ⟨path, hleaf⟩ := ih hmem
      exact ⟨path, .wrapped context hleaf⟩
    | joined parts ih =>
      rw [diagnostics, joinedDiagnostics_eq, List.mem_flatMap] at hmem
      obtain ⟨part, hpart, hmem⟩ := hmem
      obtain ⟨path, hleaf⟩ := ih part hpart hmem
      obtain ⟨index, hindex⟩ := List.mem_iff_getElem?.mp hpart
      exact ⟨index :: path, .joined hindex hleaf⟩
  · rintro ⟨path, hleaf⟩
    induction hleaf with
    | diagnostic d =>
      rw [diagnostics]
      exact List.mem_singleton_self d
    | wrapped context _ ih =>
      rw [diagnostics]
      exact ih
    | joined hpart _ ih =>
      rw [diagnostics, joinedDiagnostics_eq, List.mem_flatMap]
      exact ⟨_, List.mem_of_getElem? hpart, ih⟩

theorem LeafAt.unique {e : ErrorTree} {path : List Nat} {d d' : Diagnostic} (h : e.LeafAt path d)
    (h' : e.LeafAt path d') :
    d = d' := by
  induction h with
  | diagnostic d =>
    cases h'
    rfl
  | wrapped context _ ih =>
    cases h' with
    | wrapped _ h' => exact ih h'
  | joined hpart _ ih =>
    cases h' with
    | joined hpart' h' =>
      rw [hpart] at hpart'
      obtain rfl := Option.some.inj hpart'
      exact ih h'

/-! ### The first leaf of a kind -/

/-- The leaf that is met first among the wanted ones. -/
structure First (wanted : Diagnostic → Bool) (e : ErrorTree) (path : List Nat)
    (d : Diagnostic) : Prop where
  leaf : e.LeafAt path d
  isWanted : wanted d = true
  first : ∀ path' d', e.LeafAt path' d' → wanted d' = true → path = path' ∨ Precedes path path'

theorem exists_first_of_find? {wanted : Diagnostic → Bool} {e : ErrorTree} {d : Diagnostic}
    (h : e.diagnostics.find? wanted = some d) : ∃ path, First wanted e path d := by
  induction e using treeInduction with
  | diagnostic d' =>
    rw [diagnostics] at h
    obtain rfl : d' = d := List.mem_singleton.mp (List.mem_of_find?_eq_some h) |>.symm
    refine ⟨[], .diagnostic d', List.find?_some h, ?_⟩
    intro path' _ hleaf _
    cases hleaf
    exact Or.inl rfl
  | plain message =>
    rw [diagnostics] at h
    cases h
  | wrapped context inner ih =>
    rw [diagnostics] at h
    obtain ⟨path, hfirst⟩ := ih h
    refine ⟨path, .wrapped context hfirst.leaf, hfirst.isWanted, ?_⟩
    intro path' d' hleaf hwanted
    cases hleaf with
    | wrapped _ hleaf => exact hfirst.first path' d' hleaf hwanted
  | joined parts ih =>
    rw [diagnostics, joinedDiagnostics_eq, List.find?_flatMap, List.findSome?_eq_some_iff] at h
    obtain ⟨left, part, right, rfl, hpart, hleft⟩ := h
    obtain ⟨path, hfirst⟩ := ih part (by simp) hpart
    refine ⟨left.length :: path, .joined (by simp) hfirst.leaf, hfirst.isWanted, ?_⟩
    intro path' d' hleaf hwanted
    cases hleaf with
    | @joined _ index part' path' _ hpart' hleaf =>
      rcases Nat.lt_trichotomy index left.length with hlt | rfl | hgt
      · -- there is no such leaf in the parts before
        rw [List.getElem?_append_left hlt] at hpart'
        have hnone := List.find?_eq_none.mp (hleft part' (List.mem_of_getElem? hpart'))
        exact absurd hwanted (hnone d' (mem_diagnostics_iff.mpr ⟨path', hleaf⟩))
      · obtain rfl : part = part' := by simpa using hpart'
        rcases hfirst.first path' d' hleaf hwanted with rfl | hprecedes
        · exact Or.inl rfl
        · exact Or.inr (.cons hprecedes)
      · exact Or.inr (.rel hgt)

/-- The first leaf of a stage is foremost if no leaf comes from an earlier stage. -/
theorem First.foremost {wanted : Diagnostic → Bool} {e : ErrorTree} {path : List Nat}
    {d : Diagnostic} (h : First wanted e path d)
    (hwanted : ∀ d' ∈ e.diagnostics, d'.rank = d.rank → wanted d' = true)
    (hleast : ∀ d' ∈ e.diagnostics, d.rank ≤ d'.rank) : e.Foremost path d := by
  refine ⟨h.leaf, ?_⟩
  intro path' d' hleaf
  have hmem : d' ∈ e.diagnostics := mem_diagnostics_iff.mpr ⟨path', hleaf⟩
  rcases Nat.lt_or_eq_of_le (hleast d' hmem) with hlt | heq
  · exact Or.inl hlt
  · exact Or.inr ⟨heq, h.first path' d' hleaf (hwanted d' hmem heq.symm)⟩

/-! ### The foremost leaf -/

theorem Foremost.unique {e : ErrorTree} {path path' : List Nat} {d d' : Diagnostic}
    (h : e.Foremost path d) (h' : e.Foremost path' d') : path' = path ∧ d' = d := by
  have hpath : path' = path := by
    rcases h.first path' d' h'.leaf with hlt | ⟨heq, hpath | hprecedes⟩
    · rcases h'.first path d h.leaf with hlt' | ⟨heq', -⟩
      · exact absurd hlt' (Nat.lt_asymm hlt)
      · omega
    · exact hpath.symm
    · rcases h'.first path d h.leaf with hlt' | ⟨-, hpath | hprecedes'⟩
      · omega
      · exact hpath
      · exact absurd hprecedes' (List.lt_asymm hprecedes)
  subst hpath
  exact ⟨rfl, h'.leaf.unique h.leaf⟩

theorem foremost?_eq_none_iff {e : ErrorTree} :
    e.foremost? = none ↔ ∀ path d, ¬ e.LeafAt path d := by
  have hempty : e.foremost? = none ↔ e.diagnostics = [] := by
    rw [foremost?, Option.orElse_eq_none, Option.orElse_eq_none, List.head?_eq_none_iff]
    constructor
    · exact fun h => h.2.2
    · intro h
      rw [h]
      exact ⟨rfl, rfl, rfl⟩
  rw [hempty, List.eq_nil_iff_forall_not_mem]
  simp only [mem_diagnostics_iff, not_exists]
  exact forall_comm

theorem exists_foremost_of_foremost? {e : ErrorTree} {d : Diagnostic} (h : e.foremost? = some d) :
    ∃ path, e.Foremost path d := by
  rw [foremost?, Option.orElse_eq_some, Option.orElse_eq_some] at h
  -- a stage is searched only after the stages before it have been searched in vain
  rcases h with hlexical | ⟨hnone, hsyntactic | ⟨hnone', hhead⟩⟩
  · obtain ⟨path, hfirst⟩ := exists_first_of_find? hlexical
    have hrank : d.rank = 0 := Diagnostic.isLexical_iff.mp hfirst.isWanted
    refine ⟨path, hfirst.foremost ?_ ?_⟩
    · intro d' _ heq
      exact Diagnostic.isLexical_iff.mpr (heq.trans hrank)
    · intro d' _
      rw [hrank]
      exact Nat.zero_le _
  · obtain ⟨path, hfirst⟩ := exists_first_of_find? hsyntactic
    have hrank : d.rank = 1 := Diagnostic.isSyntactic_iff.mp hfirst.isWanted
    refine ⟨path, hfirst.foremost ?_ ?_⟩
    · intro d' _ heq
      exact Diagnostic.isSyntactic_iff.mpr (heq.trans hrank)
    · intro d' hmem
      have hlexical := List.find?_eq_none.mp hnone d' hmem
      rw [Diagnostic.isLexical_iff] at hlexical
      omega
  · have hfind : e.diagnostics.find? (fun _ => true) = some d := by
      obtain ⟨tail, htail⟩ := List.head?_eq_some_iff.mp hhead
      rw [htail]
      rfl
    obtain ⟨path, hfirst⟩ := exists_first_of_find? hfind
    refine ⟨path, hfirst.foremost (fun _ _ _ => rfl) ?_⟩
    intro d' hmem
    have hlexical := List.find?_eq_none.mp hnone d' hmem
    have hsyntactic := List.find?_eq_none.mp hnone' d' hmem
    rw [Diagnostic.isLexical_iff] at hlexical
    rw [Diagnostic.isSyntactic_iff] at hsyntactic
    have hrank := d.rank_le
    omega

/-- There is a foremost leaf wherever there is a leaf at all, and it is the one that is found. -/
theorem foremost?_eq_some_iff {e : ErrorTree} {d : Diagnostic} :
    e.foremost? = some d ↔ ∃ path, e.Foremost path d := by
  constructor
  · exact exists_foremost_of_foremost?
  · rintro ⟨path, hforemost⟩
    cases hfound : e.foremost? with
    | some d' =>
      obtain ⟨path', hforemost'⟩ := exists_foremost_of_foremost? hfound
      rw [(hforemost.unique hforemost').2]
    | none =>
      have hempty := foremost?_eq_none_iff.mp hfound
      exact absurd hforemost.leaf (hempty path d)

/-! ### What is put around a tree -/

theorem describe_of_foremost {e : ErrorTree} {path : List Nat} {d : Diagnostic}
    (h : e.Foremost path d) (source : Bytes) :
    e.describe source = d.render source := by
  rw [describe, foremost?_eq_some_iff.mpr ⟨path, h⟩]

theorem exists_foremost {e : ErrorTree} {path : List Nat} {d : Diagnostic} (h : e.LeafAt path d) :
    ∃ path d, e.Foremost path d := by
  cases hfound : e.foremost? with
  | some d' =>
    obtain ⟨path', hforemost⟩ := foremost?_eq_some_iff.mp hfound
    exact ⟨path', d', hforemost⟩
  | none => exact absurd h (foremost?_eq_none_iff.mp hfound path d)

theorem Foremost.wrapped {e : ErrorTree} {path : List Nat} {d : Diagnostic} (h : e.Foremost path d)
    (contexts : List Bytes) :
    (contexts.foldr ErrorTree.wrapped e).Foremost path d := by
  induction contexts with
  | nil => exact h
  | cons context contexts ih =>
    refine ⟨.wrapped context ih.leaf, ?_⟩
    intro path' d' hleaf
    cases hleaf with
    | wrapped _ hleaf => exact ih.first path' d' hleaf

/-- The foremost leaf of a part stays foremost if no part before it has a leaf of its stage or an
earlier one, and no part behind it a leaf of an earlier stage. -/
theorem Foremost.joined {e : ErrorTree} {path : List Nat} {d : Diagnostic} (h : e.Foremost path d)
    {left right : List ErrorTree}
    (hleft : ∀ part ∈ left, ∀ path' d', part.LeafAt path' d' → d.rank < d'.rank)
    (hright : ∀ part ∈ right, ∀ path' d', part.LeafAt path' d' → d.rank ≤ d'.rank) :
    (ErrorTree.joined (left ++ e :: right)).Foremost (left.length :: path) d := by
  refine ⟨.joined (by simp) h.leaf, ?_⟩
  intro path' d' hleaf
  cases hleaf with
  | @joined _ index part path' _ hpart hleaf =>
    rcases Nat.lt_trichotomy index left.length with hlt | rfl | hgt
    · rw [List.getElem?_append_left hlt] at hpart
      exact Or.inl (hleft part (List.mem_of_getElem? hpart) path' d' hleaf)
    · obtain rfl : e = part := by simpa using hpart
      rcases h.first path' d' hleaf with hearlier | ⟨heq, rfl | hprecedes⟩
      · exact Or.inl hearlier
      · exact Or.inr ⟨heq, Or.inl rfl⟩
      · exact Or.inr ⟨heq, Or.inr (.cons hprecedes)⟩
    · have hmem : part ∈ right := by
        rw [List.getElem?_append_right (Nat.le_of_lt hgt),
          ← Nat.succ_pred (Nat.sub_ne_zero_of_lt hgt), List.getElem?_cons_succ] at hpart
        exact List.mem_of_getElem? hpart
      rcases Nat.lt_or_eq_of_le (hright part hmem path' d' hleaf) with hearlier | heq
      · exact Or.inl hearlier
      · exact Or.inr ⟨heq, Or.inr (.rel hgt)⟩

/-- **The foremost diagnostic is shown.**  If a tree has diagnostics, exactly one of them is
foremost: none comes from an earlier stage, and of those from its own stage it is met first.  The
report on the tree is the report on it.  A tree without diagnostics is reported by its message.  So
wrapping a tree with diagnostics in whatever context does not change the report, and joining it with
others does so only if one before it has a diagnostic of the same or an earlier stage, or one behind
it of an earlier stage. -/
theorem foremost_diagnostic_is_shown (e : ErrorTree) (source : Bytes) :
    ((∃ path d, e.LeafAt path d) →
      ∃ path d, e.Foremost path d ∧ (∀ path' d', e.Foremost path' d' → path' = path ∧ d' = d) ∧
        e.describe source = d.render source) ∧
    ((∀ path d, ¬ e.LeafAt path d) → e.describe source = e.message) ∧
    (∀ contexts : List Bytes, (∃ path d, e.LeafAt path d) →
      (contexts.foldr ErrorTree.wrapped e).describe source = e.describe source) ∧
    ∀ (left right : List ErrorTree) (path : List Nat) (d : Diagnostic), e.Foremost path d →
      (ErrorTree.joined (left ++ e :: right)).describe source ≠ e.describe source →
      (∃ part ∈ left, ∃ path' d', part.LeafAt path' d' ∧ d'.rank ≤ d.rank) ∨
        ∃ part ∈ right, ∃ path' d', part.LeafAt path' d' ∧ d'.rank < d.rank := by
  refine ⟨?_, ?_, ?_, ?_⟩
  · rintro ⟨path, d, hleaf⟩
    obtain ⟨path, d, hforemost⟩ := exists_foremost hleaf
    exact ⟨path, d, hforemost, fun _ _ => hforemost.unique, describe_of_foremost hforemost source⟩
  · intro hnone
    rw [describe, foremost?_eq_none_iff.mpr hnone]
  · rintro contexts ⟨path, d, hleaf⟩
    obtain ⟨path, d, hforemost⟩ := exists_foremost hleaf
    rw [describe_of_foremost (hforemost.wrapped contexts), describe_of_foremost hforemost]
  · intro left right path d hforemost hchanged
    by_contra hothers
    rw [not_or] at hothers
    have hleft : ∀ part ∈ left, ∀ path' d', part.LeafAt path' d' → d.rank < d'.rank := by
      intro part hpart path' d' hleaf
      by_contra hle
      exact hothers.1 ⟨part, hpart, path', d', hleaf, Nat.not_lt.mp hle⟩
    have hright : ∀ part ∈ right, ∀ path' d', part.LeafAt path' d' → d.rank ≤ d'.rank := by
      intro part hpart path' d' hleaf
      by_contra hlt
      exact hothers.2 ⟨part, hpart, path', d', hleaf, Nat.not_le.mp hlt⟩
    apply hchanged
    rw [describe_of_foremost (hforemost.joined hleft hright), describe_of_foremost hforemost]

/-- A complaint of the parser is shown through two wrappings, but not where a complaint of the
scanner is joined behind it. -/
theorem foremost_diagnostic_is_shown_before_lexical :
    let d : Diagnostic := .syntactic ⟨1, 0, 1⟩ (bytes "m")
    let later : ErrorTree := .wrapped (bytes "c") (.diagnostic (.lexical ⟨1, 0, 1⟩ (bytes "x")))
    ([bytes "b", bytes "a"].foldr ErrorTree.wrapped (.diagnostic d)).describe (bytes "x") =
        (ErrorTree.diagnostic d).describe (bytes "x") ∧
      (ErrorTree.joined ([.plain []] ++ .diagnostic d :: [later])).describe (bytes "x") ≠
        (ErrorTree.diagnostic d).describe (bytes "x") ∧
      ∃ part ∈ [later], ∃ path' d', part.LeafAt path' d' ∧ d'.rank < d.rank := by
  intro d later
  obtain ⟨-, -, hwrapped, hjoined⟩ := foremost_diagnostic_is_shown (.diagnostic d) (bytes "x")
  have hleaf : (ErrorTree.diagnostic d).LeafAt [] d := .diagnostic d
  have hforemost : (ErrorTree.diagnostic d).Foremost [] d := by
    refine ⟨hleaf, ?_⟩
    intro path' d' hleaf'
    cases hleaf'
    exact Or.inr ⟨rfl, Or.inl rfl⟩
  have hchanged :
    (ErrorTree.joined ([.plain []] ++ .diagnostic d :: [later])).describe (bytes "x") ≠
      (ErrorTree.diagnostic d).describe (bytes "x") := by decide +kernel
  refine ⟨hwrapped _ ⟨[], d, hleaf⟩, hchanged, ?_⟩
  rcases hjoined [.plain []] [later] [] d hforemost hchanged with
    ⟨part, hpart, path', d', hleaf', -⟩ | hright
  · rw [List.mem_singleton.mp hpart] at hleaf'
    cases hleaf'
  · exact hright

end ErrorTree

end BufferMachine
