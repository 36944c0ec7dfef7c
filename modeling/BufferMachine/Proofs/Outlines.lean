import BufferMachine.Program.Outline
import BufferMachine.Proofs.Outcome

/-!
# Outlines are balanced

Whoever visits nodes by hand has to close them again; a walk does both.  How deep an outline is can
therefore be told from the calls alone, as the visits of nodes less the calls without a node
(`Call.depth`): the walks do not matter, however many nodes they show on their way.  Whether a call
is refused depends on that number and on its node, and on nothing else the outline has been through.

A node may have no place, or it may be one that nobody can show: a reference to nothing, or a
foreign node that does not tell its value or is of a type without elements to be called after.

One call is `Outline.perform_cases`; a whole sequence of them is `Outline.performAll_cases`, by
induction along the calls.
-/

namespace BufferMachine

namespace Node

/-- A node that a visit can show. -/
def Shown : Node → Prop
  | .program _ | .statement _ => True
  | .missing => False
  | .foreign node => node.value ≠ none ∧ ∃ element, node.type = .compound element

/-- A part of a program that lacks nothing, which a walk can show. -/
def Whole : Node → Prop
  | .program statements => none ∉ statements
  | .statement _ => True
  | .missing | .foreign _ => False

/-- The nodes that a walk visits from some depth on, in order, each with its own depth. -/
def visited (depth : Nat) : Node → List (Nat × Node)
  | .program statements =>
    (depth, .program statements) :: statements.map fun s => (depth + 1, ofStatement s)
  | node => [(depth, node)]

end Node

namespace Outline

/-- The lines of nodes at their depths, if all of them can be shown. -/
def entries (nodes : List (Nat × Node)) : Except Misuse (List Bytes) :=
  nodes.mapM fun visited => entry visited.1 visited.2

theorem entries_nil : entries [] = .ok [] := rfl

theorem entries_cons {depth : Nat} {node : Node} {text : Bytes}
    (hnode : entry depth node = .ok text) {nodes : List (Nat × Node)} {texts : List Bytes}
    (hnodes : entries nodes = .ok texts) :
    entries ((depth, node) :: nodes) = .ok (text :: texts) := by
  rw [entries] at hnodes ⊢
  rw [List.mapM_cons, hnode, Outcome.ok_bind, hnodes]
  rfl

theorem entries_statements (depth : Nat) (ss : List Statement) :
    entries ((ss.map some).map fun s => (depth, .ofStatement s)) =
      .ok (ss.map fun s => line depth (bytes "Statement") s.label) := by
  induction ss with
  | nil => rfl
  | cons s ss ih => exact entries_cons rfl ih

theorem entry_cases (depth : Nat) (node : Node) :
    (node.Shown ∧ ∃ text, entry depth node = .ok text) ∨
      (¬ node.Shown ∧ ∃ m, entry depth node = .error m) := by
  cases node with
  | program statements => exact Or.inl ⟨trivial, _, rfl⟩
  | statement s => exact Or.inl ⟨trivial, _, rfl⟩
  | missing => exact Or.inr ⟨id, _, rfl⟩
  | foreign node =>
    obtain ⟨type, value⟩ := node
    cases value with
    | none => exact Or.inr ⟨fun h => h.1 rfl, _, rfl⟩
    | some value =>
      cases type with
      | compound element => exact Or.inl ⟨⟨by simp, element, rfl⟩, _, rfl⟩
      | plain name => exact Or.inr ⟨by simp [Node.Shown], _, rfl⟩

namespace Call

/-- The node that is to be visited or walked. -/
def node? : Call → Option Node
  | .visit node => node
  | .walk node => node

/-- Is a node visited, which nothing closes by itself? -/
def opens : Call → Bool
  | .visit (some _) => true
  | _ => false

def closes (call : Call) : Bool := call.node?.isNone

/-- How deep some calls leave an outline: the visits of nodes, less the calls without a node. -/
def depth (calls : List Call) : Int := calls.countP opens - calls.countP closes

/-- A call that has a node at a depth where there is no place for it, or walks what is no part of a
program. -/
def Misplaced (depth : Int) (call : Call) : Prop :=
  (call.node? ≠ none ∧ depth < 0) ∨ ∃ node, call = .walk (some (.foreign node))

/-- A call that cannot be answered at a depth: it is misplaced, or it comes to a node that nobody
can show. -/
def Refused (depth : Int) (call : Call) : Prop :=
  call.Misplaced depth ∨ (∃ node, call.node? = some node ∧ ¬ node.Shown) ∨
    ∃ statements, call = .walk (some (.program statements)) ∧ none ∈ statements

theorem depth_nil : depth [] = 0 := rfl

theorem depth_cons (call : Call) (calls : List Call) :
    depth (call :: calls) = depth [call] + depth calls := by
  simp only [depth, List.countP_cons, List.countP_nil]
  omega

theorem depth_walk (node : Node) : depth [.walk (some node)] = 0 := rfl

theorem depth_visit (node : Node) : depth [.visit (some node)] = 1 := rfl

theorem refused_of_neg {depth : Int} (h : depth < 0) {call : Call} {node : Node}
    (hnode : call.node? = some node) : call.Refused depth :=
  Or.inl (Or.inl ⟨by simp [hnode], h⟩)

theorem not_refused_of_none {call : Call} (h : call.node? = none) (depth : Int) :
    ¬ call.Refused depth := by
  rintro ((⟨hnode, -⟩ | ⟨node, rfl⟩) | ⟨node, hnode, -⟩ | ⟨statements, rfl, -⟩)
  · exact hnode h
  · cases h
  · rw [h] at hnode
    cases hnode
  · cases h

theorem refused_visit_iff {depth : Int} (h : 0 ≤ depth) (node : Node) :
    Refused depth (.visit (some node)) ↔ ¬ node.Shown := by
  constructor
  · rintro ((⟨-, hneg⟩ | ⟨node, hwalk⟩) | ⟨node, hnode, hshown⟩ | ⟨statements, hwalk, -⟩)
    · exact absurd hneg (Int.not_lt.mpr h)
    · cases hwalk
    · cases hnode
      exact hshown
    · cases hwalk
  · intro hshown
    exact Or.inr (Or.inl ⟨node, rfl, hshown⟩)

theorem refused_walk_iff {depth : Int} (h : 0 ≤ depth) (node : Node) :
    Refused depth (.walk (some node)) ↔ ¬ node.Whole := by
  constructor
  · rintro ((⟨-, hneg⟩ | ⟨node, hwalk⟩) | ⟨node, hnode, hshown⟩ | ⟨statements, hwalk, hmissing⟩)
    · exact absurd hneg (Int.not_lt.mpr h)
    · cases hwalk
      exact id
    · cases hnode
      cases node with
      | program statements => exact absurd trivial hshown
      | statement s => exact absurd trivial hshown
      | missing => exact id
      | foreign node => exact id
    · cases hwalk
      exact fun hwhole => hwhole hmissing
  · intro hwhole
    cases node with
    | program statements =>
      exact Or.inr (Or.inr ⟨statements, rfl, Classical.not_not.mp hwhole⟩)
    | statement s => exact absurd trivial hwhole
    | missing => exact Or.inr (Or.inl ⟨.missing, rfl, id⟩)
    | foreign node => exact Or.inl (Or.inr ⟨node, rfl⟩)

end Call

/-! ### One call -/

variable {o : Outline}

theorem visit_of_neg (h : o.depth < 0) (node : Node) :
    o.visit node = .error .negativeIndentation := if_pos h

theorem visit_of_entry (h : 0 ≤ o.depth) {node : Node} {text : Bytes}
    (hentry : entry o.depth.toNat node = .ok text) :
    o.visit node = .ok ⟨o.output ++ text, o.depth + 1⟩ := by
  rw [visit, if_neg (Int.not_lt.mpr h), hentry]
  rfl

theorem visit_of_entry_error (h : 0 ≤ o.depth) {node : Node} {m : Misuse}
    (hentry : entry o.depth.toNat node = .error m) : o.visit node = .error m := by
  rw [visit, if_neg (Int.not_lt.mpr h), hentry]
  rfl

theorem walk_of_visit_error {node : Node} {m : Misuse} (h : o.visit node = .error m) :
    o.walk node = .error m := by
  rw [walk, h]
  rfl

theorem walkStatement_of_nonneg (h : 0 ≤ o.depth) (s : Statement) :
    o.walkStatement (some s) =
      .ok ⟨o.output ++ line o.depth.toNat (bytes "Statement") s.label, o.depth⟩ := by
  rw [walkStatement, Node.ofStatement, visit_of_entry h rfl, Outcome.ok_bind]
  simp [close, pure, Except.pure]

/-- Statement after statement is shown, all at the same depth. -/
theorem foldlM_walkStatement (h : 0 ≤ o.depth) {statements : List (Option Statement)}
    (hwhole : none ∉ statements) :
    ∃ texts, entries (statements.map fun s => (o.depth.toNat, .ofStatement s)) = .ok texts ∧
      statements.foldlM walkStatement o = .ok ⟨o.output ++ texts.flatten, o.depth⟩ := by
  induction statements generalizing o with
  | nil => exact ⟨[], rfl, by simp [pure, Except.pure]⟩
  | cons s statements ih =>
    rw [List.mem_cons, not_or] at hwhole
    obtain ⟨s, rfl⟩ := Option.ne_none_iff_exists'.mp (Ne.symm hwhole.1)
    let text := line o.depth.toNat (bytes "Statement") s.label
    obtain ⟨texts, hentries, hrest⟩ := ih (o := ⟨o.output ++ text, o.depth⟩) h hwhole.2
    refine ⟨text :: texts, entries_cons rfl hentries, ?_⟩
    rw [List.foldlM_cons, walkStatement_of_nonneg h, Outcome.ok_bind, hrest]
    simp [text]

theorem foldlM_walkStatement_of_missing (h : 0 ≤ o.depth) {statements : List (Option Statement)}
    (hmissing : none ∈ statements) : ∃ m, statements.foldlM walkStatement o = .error m := by
  induction statements generalizing o with
  | nil => cases hmissing
  | cons s statements ih =>
    rw [List.foldlM_cons]
    cases s with
    | none =>
      refine ⟨.missingNode, ?_⟩
      rw [walkStatement, Node.ofStatement, visit_of_entry_error h rfl]
      rfl
    | some s =>
      rw [walkStatement_of_nonneg h, Outcome.ok_bind]
      exact ih h (by simpa using hmissing)

/-- A walk shows every node that it visits, and closes all that it opens. -/
theorem walk_of_whole (h : 0 ≤ o.depth) {node : Node} (hnode : node.Whole) :
    ∃ texts, entries (node.visited o.depth.toNat) = .ok texts ∧
      o.walk node = .ok ⟨o.output ++ texts.flatten, o.depth⟩ := by
  cases node with
  | missing => cases hnode
  | foreign node => cases hnode
  | statement s =>
    refine ⟨_, entries_cons rfl entries_nil, ?_⟩
    rw [walk, visit_of_entry h rfl, Outcome.ok_bind, walkInside, Outcome.ok_bind]
    simp [close, pure, Except.pure]
  | program statements =>
    have hopen : 0 ≤ o.depth + 1 := by omega
    have hdepth : (o.depth + 1).toNat = o.depth.toNat + 1 := by omega
    obtain ⟨text, htext⟩ : ∃ text, entry o.depth.toNat (.program statements) = .ok text := ⟨_, rfl⟩
    obtain ⟨texts, hentries, hinside⟩ :=
      foldlM_walkStatement (o := ⟨o.output ++ text, o.depth + 1⟩) hopen hnode
    rw [hdepth] at hentries
    refine ⟨text :: texts, entries_cons htext hentries, ?_⟩
    rw [walk, visit_of_entry h htext, Outcome.ok_bind, walkInside, hinside, Outcome.ok_bind]
    simp [close, pure, Except.pure]

theorem walk_of_not_whole (h : 0 ≤ o.depth) {node : Node} (hnode : ¬ node.Whole) :
    ∃ m, o.walk node = .error m := by
  cases node with
  | statement s => exact absurd trivial hnode
  | missing => exact ⟨_, walk_of_visit_error (visit_of_entry_error h rfl)⟩
  | program statements =>
    have hopen : 0 ≤ o.depth + 1 := by omega
    have hmissing : none ∈ statements := Classical.not_not.mp hnode
    obtain ⟨m, hinside⟩ := foldlM_walkStatement_of_missing (o := ⟨_, o.depth + 1⟩) hopen hmissing
    refine ⟨m, ?_⟩
    rw [walk, visit_of_entry h rfl, Outcome.ok_bind, walkInside, hinside]
    rfl
  | foreign node =>
    rcases entry_cases o.depth.toNat (.foreign node) with ⟨-, text, htext⟩ | ⟨-, m, herror⟩
    · refine ⟨.foreignNode, ?_⟩
      rw [walk, visit_of_entry h htext]
      rfl
    · exact ⟨m, walk_of_visit_error (visit_of_entry_error h herror)⟩

theorem visit_cases (o : Outline) (node : Node) :
    (Call.Refused o.depth (.visit (some node)) ∧ ∃ m, o.visit node = .error m) ∨
      (¬ Call.Refused o.depth (.visit (some node)) ∧
        ∃ text, o.visit node = .ok ⟨o.output ++ text, o.depth + 1⟩) := by
  rcases Int.lt_or_le o.depth 0 with hneg | hnonneg
  · exact Or.inl ⟨Call.refused_of_neg hneg rfl, _, visit_of_neg hneg node⟩
  · rw [Call.refused_visit_iff hnonneg, Classical.not_not]
    rcases entry_cases o.depth.toNat node with ⟨hshown, text, htext⟩ | ⟨hhidden, m, herror⟩
    · exact Or.inr ⟨hshown, text, visit_of_entry hnonneg htext⟩
    · exact Or.inl ⟨hhidden, m, visit_of_entry_error hnonneg herror⟩

theorem walk_cases (o : Outline) (node : Node) :
    (Call.Refused o.depth (.walk (some node)) ∧ ∃ m, o.walk node = .error m) ∨
      (¬ Call.Refused o.depth (.walk (some node)) ∧
        ∃ text, o.walk node = .ok ⟨o.output ++ text, o.depth⟩) := by
  rcases Int.lt_or_le o.depth 0 with hneg | hnonneg
  · exact Or.inl ⟨Call.refused_of_neg hneg rfl, _, walk_of_visit_error (visit_of_neg hneg node)⟩
  · rw [Call.refused_walk_iff hnonneg, Classical.not_not]
    by_cases hwhole : node.Whole
    · obtain ⟨texts, -, hwalk⟩ := walk_of_whole hnonneg hwhole
      exact Or.inr ⟨hwhole, texts.flatten, hwalk⟩
    · exact Or.inl ⟨hwhole, walk_of_not_whole hnonneg hwhole⟩

theorem perform_of_none {call : Call} (h : call.node? = none) :
    o.perform call = .ok ⟨o.output ++ [], o.depth + Call.depth [call]⟩ := by
  rw [List.append_nil]
  cases call with
  | visit node =>
    obtain rfl : node = none := h
    rfl
  | walk node =>
    obtain rfl : node = none := h
    rfl

/-- All that can come of a call. -/
theorem perform_cases (o : Outline) (call : Call) :
    (call.Refused o.depth ∧ ∃ m, o.perform call = .error m) ∨
      (¬ call.Refused o.depth ∧
        ∃ text, o.perform call = .ok ⟨o.output ++ text, o.depth + Call.depth [call]⟩) := by
  cases call with
  | visit node =>
    cases node with
    | none => exact Or.inr ⟨Call.not_refused_of_none rfl _, [], perform_of_none rfl⟩
    | some node =>
      rw [Call.depth_visit]
      exact o.visit_cases node
  | walk node =>
    cases node with
    | none => exact Or.inr ⟨Call.not_refused_of_none rfl _, [], perform_of_none rfl⟩
    | some node =>
      rw [Call.depth_walk, Int.add_zero]
      exact o.walk_cases node

theorem perform_eq_error_iff (o : Outline) (call : Call) :
    (∃ m, o.perform call = .error m) ↔ call.Refused o.depth := by
  rcases o.perform_cases call with ⟨hrefused, herror⟩ | ⟨hfine, text, hok⟩
  · exact iff_of_true herror hrefused
  · refine iff_of_false ?_ hfine
    rintro ⟨m, herror⟩
    rw [hok] at herror
    cases herror

/-! ### Calls one after the other -/

/-- All that can come of a sequence of calls. -/
theorem performAll_cases (o : Outline) (calls : List Call) :
    ((∃ before call after, calls = before ++ call :: after ∧
          call.Refused (o.depth + Call.depth before)) ∧
        ∃ m, o.performAll calls = .error m) ∨
      ((∀ before call after, calls = before ++ call :: after →
          ¬ call.Refused (o.depth + Call.depth before)) ∧
        ∃ text, o.performAll calls = .ok ⟨o.output ++ text, o.depth + Call.depth calls⟩) := by
  induction calls generalizing o with
  | nil =>
    refine Or.inr ⟨?_, [], by simp [performAll, Call.depth_nil]⟩
    intro before call after heq
    simp at heq
  | cons call calls ih =>
    rcases o.perform_cases call with ⟨hrefused, m, herror⟩ | ⟨hfine, shown, hok⟩
    · refine Or.inl ⟨⟨[], call, calls, rfl, ?_⟩, m, ?_⟩
      · rwa [Call.depth_nil, Int.add_zero]
      · rw [performAll, herror]
        rfl
    · -- the calls behind meet the outline at the depth where this one leaves it
      have hdepth (before : List Call) :
          o.depth + Call.depth [call] + Call.depth before =
            o.depth + Call.depth (call :: before) := by
        rw [Call.depth_cons call before, Int.add_assoc]
      rw [performAll, hok, Outcome.ok_bind]
      rcases ih ⟨o.output ++ shown, o.depth + Call.depth [call]⟩ with
        ⟨⟨before, call', after, rfl, hrefused⟩, herror⟩ | ⟨hfine', text, hrest⟩
      · rw [hdepth] at hrefused
        exact Or.inl ⟨⟨call :: before, call', after, rfl, hrefused⟩, herror⟩
      · refine Or.inr ⟨?_, shown ++ text, ?_⟩
        · intro before call' after heq
          cases before with
          | nil =>
            obtain ⟨rfl, rfl⟩ := List.cons.inj heq
            rwa [Call.depth_nil, Int.add_zero]
          | cons first before =>
            obtain ⟨rfl, rfl⟩ := List.cons.inj heq
            rw [← hdepth]
            exact hfine' before call' after rfl
        · rw [hrest, hdepth, List.append_assoc]

/-- What a walk shows in a fresh outline it shows at depth zero of any. -/
theorem walk_of_outline (h : o.depth = 0) {node : Node} (hnode : node.Whole) :
    ∃ texts, entries (node.visited 0) = .ok texts ∧ node.outline = .ok texts.flatten ∧
      o.walk node = .ok ⟨o.output ++ texts.flatten, 0⟩ := by
  obtain ⟨texts, htexts, hfresh⟩ := walk_of_whole (o := {}) (Int.le_refl 0) hnode
  obtain ⟨texts', htexts', hwalk⟩ := walk_of_whole (Int.le_of_eq h.symm) hnode
  rw [h] at htexts' hwalk
  obtain rfl : texts = texts' := Except.ok.inj (htexts.symm.trans htexts')
  refine ⟨texts, htexts, ?_, hwalk⟩
  rw [Node.outline, hfresh]
  rfl

/-- Walks in a row show what each of them shows alone. -/
theorem performAll_walks (h : o.depth = 0) {nodes : List Node}
    (hnodes : ∀ node ∈ nodes, node.Whole) :
    ∃ texts, nodes.mapM Node.outline = .ok texts ∧
      o.performAll (nodes.map fun node => .walk (some node)) =
        .ok ⟨o.output ++ texts.flatten, 0⟩ := by
  induction nodes generalizing o with
  | nil => exact ⟨[], rfl, by simp [performAll, ← h]⟩
  | cons node nodes ih =>
    rw [List.forall_mem_cons] at hnodes
    obtain ⟨shown, -, houtline, hwalk⟩ := walk_of_outline h hnodes.1
    obtain ⟨texts, htexts, hrest⟩ := ih (o := ⟨o.output ++ shown.flatten, 0⟩) rfl hnodes.2
    refine ⟨shown.flatten :: texts, ?_, ?_⟩
    · rw [List.mapM_cons, houtline, Outcome.ok_bind, htexts]
      rfl
    · rw [List.map_cons, performAll, perform, hwalk, Outcome.ok_bind, hrest]
      simp

end Outline

namespace Node

theorem whole_ofProgram (p : Program) : (ofProgram p).Whole := by simp [ofProgram, Whole]

theorem outline_ofProgram (p : Program) : (ofProgram p).outline = .ok p.outline := by
  obtain ⟨texts, hvisited, houtline, -⟩ :=
    Outline.walk_of_outline (o := {}) rfl (whole_ofProgram p)
  have hstatements := Outline.entries_statements 1 p.statements
  rw [ofProgram, visited, Outline.entries_cons rfl hstatements] at hvisited
  rw [houtline, ← Except.ok.inj hvisited, List.flatten_cons, ← List.flatMap_def, List.length_map]
  rfl

theorem outline_statement (s : Statement) : outline (.statement s) = .ok s.outline := rfl

end Node

/-- **Outlines are balanced.**  Make any calls of an outline, whatever it shows already.  One of
them is refused if and only if some call has a node although more nodes have been closed than
opened before it, or walks a foreign node, or has a node that nobody can show, or walks a program
that lacks a statement.  If none is, the outline is as deep as the calls say, and a further call is
refused under the same condition.  A walk of a whole part of a program from there adds the lines of
the nodes that it visits, in order, and leaves the outline as deep as it was; in a row of such walks
of a fresh outline, none is refused and the text of each is the one that it has alone. -/
theorem outlines_are_balanced :
    (∀ (text : Bytes) (calls : List Outline.Call),
      ((∃ m, ({ output := text } : Outline).performAll calls = .error m) ↔
        ∃ before call after, calls = before ++ call :: after ∧
          call.Refused (Outline.Call.depth before)) ∧
      ∀ o, ({ output := text } : Outline).performAll calls = .ok o →
        o.depth = Outline.Call.depth calls ∧
        (∀ call, (∃ m, o.perform call = .error m) ↔ call.Refused (Outline.Call.depth calls)) ∧
        ∀ node depth, node.Whole → Outline.Call.depth calls = (depth : Nat) →
          ∃ texts, (node.visited depth).mapM (fun visited => Outline.entry visited.1 visited.2) =
              .ok texts ∧
            o.perform (.walk (some node)) = .ok ⟨o.output ++ texts.flatten, depth⟩) ∧
    (∀ nodes : List Node, (∀ node ∈ nodes, node.Whole) →
      ∃ texts, nodes.mapM Node.outline = .ok texts ∧
        ({} : Outline).performAll (nodes.map fun node => .walk (some node)) =
          .ok ⟨texts.flatten, 0⟩) ∧
    (∀ p : Program, (Node.ofProgram p).Whole ∧ (Node.ofProgram p).outline = .ok p.outline) ∧
    ∀ s : Statement, Node.Whole (.statement s) ∧ Node.outline (.statement s) = .ok s.outline := by
  refine ⟨?_, fun nodes hnodes => Outline.performAll_walks rfl hnodes,
    fun p => ⟨Node.whole_ofProgram p, Node.outline_ofProgram p⟩,
    fun s => ⟨trivial, Node.outline_statement s⟩⟩
  intro text calls
  have hcases := Outline.performAll_cases { output := text } calls
  simp only [Int.zero_add] at hcases
  constructor
  · constructor
    · rintro ⟨m, herror⟩
      rcases hcases with ⟨hrefused, -⟩ | ⟨-, more, hok⟩
      · exact hrefused
      · rw [herror] at hok
        cases hok
    · rintro ⟨before, call, after, hcalls, hrefused⟩
      rcases hcases with ⟨-, herror⟩ | ⟨hfine, -⟩
      · exact herror
      · exact absurd hrefused (hfine before call after hcalls)
  · intro o ho
    have hdepth : o.depth = Outline.Call.depth calls := by
      rcases hcases with ⟨-, m, herror⟩ | ⟨-, more, hok⟩
      · rw [ho] at herror
        cases herror
      · rw [ho] at hok
        rw [Except.ok.inj hok]
    refine ⟨hdepth, ?_, ?_⟩
    · intro call
      rw [← hdepth]
      exact o.perform_eq_error_iff call
    · intro node depth hnode hcalls
      have hplace : o.depth = depth := hdepth.trans hcalls
      have hwalk := Outline.walk_of_whole (o := o) (by omega) hnode
      rwa [hplace, Int.toNat_natCast] at hwalk

/-- A program walked inside a foreign node that is visited behind a closed one stands one level
deep, and once more is closed than opened there is no place for a node. -/
theorem outlines_are_balanced_inside_visit :
    let p : Program := ⟨some [⟨[⟨some .keyword, bytes "write", ⟨2, 8, 13⟩⟩], {}⟩, {}]⟩
    let leaf : Node := .foreign ⟨.compound (bytes "leaf"), some (bytes "green")⟩
    (∃ o, ({} : Outline).performAll
        [.visit (some (.ofProgram p)), .walk none, .visit (some leaf)] = .ok o ∧
      o.perform (.walk (some (.ofProgram p))) =
        .ok ⟨bytes "Program[2 statements]\nleaf[green]\n" ++ bytes "    Program[2 statements]\n" ++
          bytes "        Statement[line 2: write]\n" ++ bytes "        Statement[]\n", 1⟩) ∧
    (∃ m, ({} : Outline).performAll [.walk none, .visit none, .walk (some (.ofProgram p))] =
      .error m) ∧
    ∃ texts, [Node.ofProgram p, .statement {}].mapM Node.outline = .ok texts ∧
      ({} : Outline).performAll [.walk (some (.ofProgram p)), .walk (some (.statement {}))] =
        .ok ⟨texts.flatten, 0⟩ := by
  intro p leaf
  obtain ⟨hcalls, hwalks, hprograms, hstatements⟩ := outlines_are_balanced
  refine ⟨⟨_, rfl, ?_⟩, ?_, hwalks [.ofProgram p, .statement {}] ?_⟩
  · have hvisits :=
      (hcalls [] [.visit (some (.ofProgram p)), .walk none, .visit (some leaf)]).2 _ rfl
    obtain ⟨texts, hvisited, hwalk⟩ := hvisits.2.2 (.ofProgram p) 1 (hprograms p).1 rfl
    rw [hwalk, ← Except.ok.inj hvisited]
    exact congrArg Except.ok (by decide +kernel)
  · rw [(hcalls [] _).1]
    refine ⟨[.walk none, .visit none], _, [], rfl, Or.inl (Or.inl ⟨?_, by decide⟩)⟩
    simp [Outline.Call.node?]
  · simpa using ⟨(hprograms p).1, (hstatements {}).1⟩

/-- A foreign node of a type without elements is refused by a visit, and has a place there. -/
theorem visit_refused_with_place :
    ¬ ∀ (calls : List Outline.Call) (o : Outline), ({} : Outline).performAll calls = .ok o →
      ∀ call, (∃ m, o.perform call = .error m) ↔ call.Misplaced (Outline.Call.depth calls) := by
  intro h
  let leaf : Node := .foreign ⟨.plain (bytes "tree.leaf"), some (bytes "green")⟩
  rcases (h [] {} rfl (.visit (some leaf))).mp ⟨_, rfl⟩ with ⟨-, hneg⟩ | ⟨node, hwalk⟩
  · exact absurd hneg (by decide)
  · cases hwalk

end BufferMachine
