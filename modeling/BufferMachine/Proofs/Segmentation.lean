import BufferMachine.Proofs.Stages

/-!
# Cutting tokens into statements

Parsing undoes flattening.  Statements that end at their first terminator are put one behind the
other with their terminators, and a token list comes of it; parsing the list gives the statements
back, and there are no others that come to the same list.  A list comes of statements in this way
exactly if it is empty or ends with a terminator.

`segment_eq_iff` says this of the function that cuts a list, together with the tokens that it leaves
over.  The rest reads off from it what a parser does from any position on, in particular where it
stands when it has failed.
-/

namespace BufferMachine

/-- The tokens of some statements, each statement with its terminator. -/
def Statement.flatten (ss : List Statement) : List Token :=
  ss.flatMap fun s => s.tokens ++ [s.terminator]

/-- The statement ends with a terminator, and at the first one. -/
structure Statement.EndsAtTerminator (s : Statement) : Prop where
  inside : ∀ t ∈ s.tokens, t.isTerminator = false
  terminator : s.terminator.isTerminator = true

namespace Statement

theorem flatten_cons_append (s : Statement) (ss : List Statement) (ts : List Token) :
    flatten (s :: ss) ++ ts = s.tokens ++ s.terminator :: (flatten ss ++ ts) := by
  simp [flatten]

theorem flatten_concat (ss : List Statement) (s : Statement) :
    flatten (ss ++ [s]) = flatten ss ++ s.tokens ++ [s.terminator] := by
  simp [flatten]

end Statement

/-- **Cutting undoes flattening.**  A token list is cut into the statements that it is the
flattening of, up to what is left over behind the last terminator. -/
theorem segment_eq_iff {ts dangling : List Token} {ss : List Statement} :
    segment ts = (ss, dangling) ↔
      ts = Statement.flatten ss ++ dangling ∧ (∀ s ∈ ss, s.EndsAtTerminator) ∧
        ∀ t ∈ dangling, t.isTerminator = false := by
  constructor
  · intro h
    refine ⟨segment_flatten h, ?_⟩
    induction ss generalizing ts with
    | nil =>
      rcases terminator_cases ts with hnone | ⟨us, t, rest, rfl, hus, ht⟩
      · rw [segment_no_terminator hnone, Prod.mk.injEq] at h
        obtain ⟨-, rfl⟩ := h
        exact ⟨by simp, hnone⟩
      · rw [segment_append_terminator hus ht] at h
        cases h
    | cons s ss ih =>
      rcases terminator_cases ts with hnone | ⟨us, t, rest, rfl, hus, ht⟩
      · rw [segment_no_terminator hnone] at h
        cases h
      · rw [segment_append_terminator hus ht, Prod.mk.injEq, List.cons.injEq] at h
        obtain ⟨⟨rfl, hss⟩, hdangling⟩ := h
        obtain ⟨hcut, hnone⟩ := ih (Prod.ext hss hdangling)
        exact ⟨List.forall_mem_cons.mpr ⟨⟨hus, ht⟩, hcut⟩, hnone⟩
  · rintro ⟨rfl, hcut, hnone⟩
    induction ss with
    | nil => exact segment_no_terminator hnone
    | cons s ss ih =>
      obtain ⟨hs, hcut⟩ := List.forall_mem_cons.mp hcut
      rw [Statement.flatten_cons_append, segment_append_terminator hs.inside hs.terminator, ih hcut]

theorem Statement.exists_getLast?_flatten {ss : List Statement}
    (hcut : ∀ s ∈ ss, s.EndsAtTerminator) (hne : ss ≠ []) :
    ∃ t, (flatten ss).getLast? = some t ∧ t.isTerminator = true := by
  obtain ⟨front, s, rfl⟩ := (List.eq_nil_or_concat ss).resolve_left hne
  rw [List.concat_eq_append, flatten_concat, List.getLast?_concat]
  exact ⟨s.terminator, rfl, (hcut s (by simp)).terminator⟩

theorem dangling_eq_nil_iff {ts dangling : List Token} {ss : List Statement}
    (h : segment ts = (ss, dangling)) :
    dangling = [] ↔ ts = [] ∨ ∃ t, ts.getLast? = some t ∧ t.isTerminator = true := by
  obtain ⟨rfl, hcut, hnone⟩ := segment_eq_iff.mp h
  constructor
  · rintro rfl
    rw [List.append_nil]
    by_cases hne : ss = []
    · subst hne
      exact Or.inl rfl
    · exact Or.inr (Statement.exists_getLast?_flatten hcut hne)
  · rintro (hempty | ⟨t, hlast, ht⟩)
    · exact (List.append_eq_nil_iff.mp hempty).2
    · by_contra hne
      rw [List.getLast?_append_of_ne_nil _ hne] at hlast
      have hfalse := hnone t (List.mem_of_getLast? hlast)
      rw [ht] at hfalse
      cases hfalse

theorem statements_unique {ss ss' : List Statement} (hcut : ∀ s ∈ ss, s.EndsAtTerminator)
    (hcut' : ∀ s ∈ ss', s.EndsAtTerminator) (h : Statement.flatten ss = Statement.flatten ss') :
    ss = ss' := by
  have hfirst : segment (Statement.flatten ss) = (ss, []) :=
    segment_eq_iff.mpr ⟨(List.append_nil _).symm, hcut, by simp⟩
  have hsecond : segment (Statement.flatten ss) = (ss', []) :=
    segment_eq_iff.mpr ⟨by rw [h, List.append_nil], hcut', by simp⟩
  exact congrArg Prod.fst (hfirst.symm.trans hsecond)

/-! ### Parsers -/

namespace Parser

/-- The tokens from the position on. -/
def ahead (p : Parser) : List Token := p.tokens.drop p.pos.toNat

/-- A position just behind the last terminator from another position on; it is that position if
there is none. -/
structure BehindLastTerminator (tokens : List Token) (start stop : Int) : Prop where
  start_le : start ≤ stop
  before : stop = start ∨ start < stop ∧ ∃ t, tokens[(stop - 1).toNat]? = some t ∧
    t.isTerminator = true
  behind : ∀ (index : Nat) (t : Token), stop ≤ index → tokens[index]? = some t →
    t.isTerminator = false

theorem parse_eq {p : Parser} (hpos : 0 ≤ p.pos) {ss : List Statement} {dangling : List Token}
    (h : segment p.ahead = (ss, dangling)) :
    p.parse = .ok
      (Program.ofTokens p.ahead, { p with pos := p.pos + (Statement.flatten ss).length }) := by
  have hparse : p.parse = .ok (Program.ofTokens p.ahead,
      { p with pos := p.pos + (p.ahead.length - (segment p.ahead).2.length) }) :=
        if_neg (Int.not_lt.mpr hpos)
  have hlength := congrArg List.length (segment_eq_iff.mp h).1
  rw [List.length_append] at hlength
  rw [hparse, h, hlength, Int.natCast_add, Int.add_sub_cancel]

theorem behindLastTerminator_append (before : List Token) {dangling : List Token}
    {ss : List Statement} (hcut : ∀ s ∈ ss, s.EndsAtTerminator)
    (hnone : ∀ t ∈ dangling, t.isTerminator = false) :
    BehindLastTerminator (before ++ Statement.flatten ss ++ dangling) before.length
      (before ++ Statement.flatten ss).length where
  start_le := by
    rw [List.length_append]
    omega
  before := by
    by_cases hne : ss = []
    · left
      simp [hne, Statement.flatten]
    · right
      obtain ⟨t, hlast, ht⟩ := Statement.exists_getLast?_flatten hcut hne
      have hpos : 0 < (Statement.flatten ss).length := by
        rw [List.length_pos_iff]
        rintro hempty
        rw [hempty] at hlast
        cases hlast
      have hindex : (((before ++ Statement.flatten ss).length : Int) - 1).toNat =
          (before ++ Statement.flatten ss).length - 1 := by omega
      refine ⟨?_, t, ?_, ht⟩
      · rw [List.length_append]
        omega
      · rw [hindex, List.getElem?_append_left, ← List.getLast?_eq_getElem?,
          List.getLast?_append_of_ne_nil _ (List.length_pos_iff.mp hpos)]
        · exact hlast
        · rw [List.length_append]
          omega
  behind := by
    intro index t hindex ht
    rw [List.getElem?_append_right (by omega)] at ht
    exact hnone t (List.mem_of_getElem? ht)

theorem pos_add_length_ahead {p : Parser} (hpos : 0 ≤ p.pos) :
    p.pos + p.ahead.length = max p.pos p.tokens.length := by
  rw [ahead, List.length_drop]
  omega

/-- If there is something ahead, the position lies inside the tokens. -/
theorem exists_before {p : Parser} (hpos : 0 ≤ p.pos) {ss : List Statement} {dangling : List Token}
    (hahead : p.ahead = Statement.flatten ss ++ dangling) (hne : dangling ≠ []) :
    ∃ before : List Token, (before.length : Int) = p.pos ∧
      p.tokens = before ++ Statement.flatten ss ++ dangling := by
  have hlength := congrArg List.length hahead
  have hdangling := List.length_pos_iff.mpr hne
  rw [ahead, List.length_drop, List.length_append] at hlength
  refine ⟨p.tokens.take p.pos.toNat, ?_, ?_⟩
  · rw [List.length_take]
    omega
  · rw [List.append_assoc, ← hahead, ahead, List.take_append_drop]

/-- **Parsing undoes flattening.**  From every position that is not negative a parser succeeds
exactly if there are no tokens ahead or the last of them is a terminator.  It then has cut them into
the only statements that they are the flattening of, and stands at the end, or where it stood if
that is further on.  If it fails, it stands just behind the last terminator ahead, or where it stood
if there is none, and complains about the tokens from there to the end. -/
theorem parse_undoes_flattening (p : Parser) (hpos : 0 ≤ p.pos) :
    ∃ result after, p.parse = .ok (result, after) ∧ after.tokens = p.tokens ∧
      ((∃ program, result = .ok program) ↔
        p.ahead = [] ∨ ∃ t, p.ahead.getLast? = some t ∧ t.isTerminator = true) ∧
      (∀ program, result = .ok program → after.pos = max p.pos p.tokens.length ∧
        ∃ ss, program = ⟨some ss⟩ ∧ (∀ s ∈ ss, s.EndsAtTerminator) ∧
          Statement.flatten ss = p.ahead ∧
          ∀ ss', (∀ s ∈ ss', s.EndsAtTerminator) → Statement.flatten ss' = p.ahead → ss' = ss) ∧
      ∀ e, result = .error e → BehindLastTerminator p.tokens p.pos after.pos ∧
        ∃ first last, p.tokens[after.pos.toNat]? = some first ∧ p.tokens.getLast? = some last ∧
          e = .syntactic ⟨first.location.line, first.location.start, last.location.stop⟩
            (bytes "missing statement terminator ';'") := by
  rcases hsegment : segment p.ahead with ⟨ss, dangling⟩
  obtain ⟨hahead, hcut, hnone⟩ := segment_eq_iff.mp hsegment
  have haccepts := dangling_eq_nil_iff hsegment
  have hparse := parse_eq hpos hsegment
  by_cases hne : dangling = []
  · subst hne
    rw [List.append_nil] at hahead
    rw [Program.ofTokens_eq_ok.mpr ⟨ss, hsegment, rfl⟩] at hparse
    refine ⟨_, _, hparse, rfl, iff_of_true ⟨_, rfl⟩ (haccepts.mp rfl), ?_, ?_⟩
    · intro program hprogram
      cases hprogram
      refine ⟨?_, ss, rfl, hcut, hahead.symm, ?_⟩
      · rw [← hahead]
        exact pos_add_length_ahead hpos
      · intro ss' hcut' hahead'
        exact statements_unique hcut' hcut (hahead'.trans hahead)
    · intro e he
      cases he
  · rw [Program.ofTokens_of_dangling hsegment hne] at hparse
    refine ⟨_, _, hparse, rfl, iff_of_false ?_ (mt haccepts.mpr hne), ?_, ?_⟩
    · rintro ⟨program, hprogram⟩
      cases hprogram
    · intro program hprogram
      cases hprogram
    · intro e he
      obtain rfl := Except.error.inj he
      obtain ⟨before, hbefore, htokens⟩ := exists_before hpos hahead hne
      have hstop : p.pos + (Statement.flatten ss).length =
          (before ++ Statement.flatten ss).length := by
        rw [List.length_append, Int.natCast_add, hbefore]
      simp only [hstop]
      rw [← hbefore, htokens]
      obtain ⟨first, more, rfl⟩ := List.exists_cons_of_ne_nil hne
      refine ⟨behindLastTerminator_append before hcut hnone, first, (first :: more).getLast hne,
        ?_, ?_, rfl⟩
      · rw [Int.toNat_natCast, List.getElem?_append_right (Nat.le_refl _), Nat.sub_self]
        rfl
      · rw [List.getLast?_append_of_ne_nil _ hne, List.getLast?_eq_some_getLast hne]

/-- From the second of four tokens, one of them without a kind, the parser gets past the terminator
there and complains about the two behind it. -/
theorem parse_undoes_flattening_from_second :
    let p : Parser :=
      ⟨[⟨some .number, bytes "7", ⟨1, 0, 1⟩⟩, ⟨some .punctuation, bytes ";", ⟨1, 1, 2⟩⟩,
        ⟨none, bytes "x", ⟨9, -3, 40⟩⟩, ⟨some (.unknown 6), [], ⟨2, 5, 8⟩⟩], 1⟩
    0 ≤ p.pos ∧
      p.parse = .ok (.error (.syntactic ⟨9, -3, 8⟩ (bytes "missing statement terminator ';'")),
        { p with pos := 2 }) ∧
      BehindLastTerminator p.tokens p.pos 2 := by
  intro p
  have hpos : 0 ≤ p.pos := by decide
  have hrun : p.parse =
      .ok (.error (.syntactic ⟨9, -3, 8⟩ (bytes "missing statement terminator ';'")),
        { p with pos := 2 }) := by decide
  obtain ⟨result, after, hparse, -, -, -, herror⟩ := parse_undoes_flattening p hpos
  obtain ⟨rfl, rfl⟩ := Prod.mk.inj (Except.ok.inj (hparse.symm.trans hrun))
  exact ⟨hpos, hrun, (herror _ rfl).1⟩

end Parser

end BufferMachine
