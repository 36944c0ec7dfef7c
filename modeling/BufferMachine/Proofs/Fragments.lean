import BufferMachine.Proofs.ByteReading
import BufferMachine.Proofs.Concatenation

/-!
# Scanning from any place and in parts

A scanner looks neither back nor at where it stands.  Put at any place of a text, it finds in the
rest what a fresh scanner finds there, moved by the place and by the lines that it has counted so
far.  And a text can be scanned in parts, if the parts are cut where no lexeme could go on: the
second part is not even looked at if the first one fails.

Both come from `Cursor.scan_displace`; the second one needs `Cursor.scan_append` besides, which says
where a text may be cut.
-/

namespace BufferMachine

/-- What a scan came to, with all places moved. -/
def Displacement.applyTo (d : Displacement) (result : Except Diagnostic (List Token)) :
    Except Diagnostic (List Token) :=
  (result.mapError (Diagnostic.displace d)).map (List.map (Token.displace d))

/-- A scan from some place on is a fresh scan that is moved. -/
theorem Cursor.scan_eq_applyTo (rule : KeywordRule) (text : Bytes) (offset newlines : Nat) :
    (Cursor.scan rule ⟨text, offset, newlines⟩).result =
      Displacement.applyTo ⟨newlines, offset⟩ (BufferMachine.scan rule text) := by
  have hmoved := Cursor.scan_displace ⟨newlines, offset⟩ rule text 0 0
  simp only [Nat.zero_add] at hmoved
  exact hmoved

theorem Scanner.scan_eq_applyTo (s : Scanner) (hpos : 0 ≤ s.pos ∧ s.pos ≤ s.input.length) :
    ∃ after, s.scan = .ok (Displacement.applyTo ⟨s.newlines, s.pos.toNat⟩
      (BufferMachine.scan s.rule (s.input.drop s.pos.toNat)), after) := by
  obtain ⟨after, hscan⟩ := s.scan_of_inside hpos
  refine ⟨after, ?_⟩
  rw [hscan, ← ByteReader.scan_eq_read, Cursor.scan_eq_applyTo]

theorem scan_append_of_error {rule : KeywordRule} {a : Bytes} {e : Diagnostic} (ha : Closed a)
    (he : scan rule a = .error e) (b : Bytes) : scan rule (a ++ b) = .error e := by
  unfold scan at he ⊢
  rw [Cursor.scan_append rule ha b 0 0, he]
  rfl

/-- **Scanning is local.**  From every place of every text, wherever the last lexeme began and
however many line feeds were counted, a scanner comes to what a fresh one comes to on the rest of
the text, with all places moved.  And behind a text that does not end with a word or operator byte,
scanning goes on as if it began there: if the first text fails, so does the whole, in the same way;
if not, its tokens are followed by what the second text comes to, moved behind the first. -/
theorem scanning_is_local :
    (∀ s : Scanner, 0 ≤ s.pos → s.pos ≤ s.input.length →
      ∃ after, s.scan = .ok (Displacement.applyTo ⟨s.newlines, s.pos.toNat⟩
        (scan s.rule (s.input.drop s.pos.toNat)), after)) ∧
    ∀ (rule : KeywordRule) (a b : Bytes), Closed a →
      (∀ e, scan rule a = .error e → scan rule (a ++ b) = .error e) ∧
      ∀ tokens, scan rule a = .ok tokens →
        scan rule (a ++ b) =
          (Displacement.applyTo (.behind a) (scan rule b)).map (tokens ++ ·) := by
  refine ⟨?_, ?_⟩
  · intro s hnonneg hle
    exact s.scan_eq_applyTo ⟨hnonneg, hle⟩
  · intro rule a b ha
    refine ⟨?_, ?_⟩
    · intro e he
      exact scan_append_of_error ha he b
    · intro tokens htokens
      rw [scan_append rule ha htokens b, Displacement.applyTo, Outcome.map_map]

/-- From inside an unknown word the scanner sees a keyword; behind a line it finds an unknown word
in the next one, and an unknown word in the first line is all that it finds. -/
theorem scanning_is_local_inside_word :
    (∃ after, ({ input := bytes "rewrite +\n;", start := -7, pos := 2, newlines := 4 } :
      Scanner).scan =
      .ok (.ok [Cursor.lexemeAt 2 4 .keyword (bytes "write"),
        Cursor.lexemeAt 8 4 .operator (bytes "+"),
          Cursor.lexemeAt 10 5 .punctuation (bytes ";")], after)) ∧
    Closed (bytes "do +;\n") ∧
    scan .exact (bytes "do +;\n" ++ bytes "3x") = .error (.lexical ⟨2, 7, 8⟩ (bytes "x")) ∧
    Closed (bytes "x;") ∧
      scan .exact (bytes "x;" ++ bytes "y") = .error (.lexical ⟨1, 0, 1⟩ (bytes "x")) := by
  have hrest : scan .substring (bytes "write +\n;") =
      .ok [Cursor.lexemeAt 0 0 .keyword (bytes "write"), Cursor.lexemeAt 6 0 .operator (bytes "+"),
        Cursor.lexemeAt 8 1 .punctuation (bytes ";")] := by
    rw [scan, ByteReader.scan_eq_read]
    decide
  have hline : scan .exact (bytes "do +;\n") =
      .ok [Cursor.lexemeAt 0 0 .keyword (bytes "do"), Cursor.lexemeAt 3 0 .operator (bytes "+"),
        Cursor.lexemeAt 4 0 .punctuation (bytes ";")] := by
    rw [scan, ByteReader.scan_eq_read]
    decide
  have hunknown : scan .exact (bytes "3x") = .error (.lexical ⟨1, 1, 2⟩ (bytes "x")) := by
    rw [scan, ByteReader.scan_eq_read]
    decide
  have hfirst : scan .exact (bytes "x;") = .error (.lexical ⟨1, 0, 1⟩ (bytes "x")) := by
    rw [scan, ByteReader.scan_eq_read]
    decide
  have hclosed : Closed (bytes "do +;\n") := by
    have hgap : IsGap [newline] := by decide
    rw [show bytes "do +;\n" = bytes "do +" ++ [terminator] ++ [newline] by decide]
    exact (closed_terminator _).append hgap.closed
  have hclosed' : Closed (bytes "x;") := closed_terminator (bytes "x")
  obtain ⟨hplaces, hparts⟩ := scanning_is_local
  refine ⟨?_, hclosed, ?_, hclosed', (hparts .exact _ (bytes "y") hclosed').1 _ hfirst⟩
  · obtain ⟨after, hscan⟩ :=
      hplaces { input := bytes "rewrite +\n;", start := -7, pos := 2, newlines := 4 }
        (by decide) (by decide)
    refine ⟨after, hscan.trans ?_⟩
    have hdrop : (bytes "rewrite +\n;").drop (2 : Int).toNat = bytes "write +\n;" := by decide
    simp only [hdrop, hrest]
    rfl
  · rw [(hparts .exact _ (bytes "3x") hclosed).2 _ hline, hunknown]
    rfl

end BufferMachine
