import BufferMachine.Proofs.KeywordRules
import Mathlib.Data.List.Infix

/-!
# The first word that is not accepted

Cut a text into its longest runs of word bytes and strip each run of the digits in front.  Scanning
fails exactly if one of the stripped runs is neither empty nor taken for a keyword, and it complains
about the leftmost of them.

The scanner never sees a run as a whole: it takes the digits in front for a number and looks at the
rest as an identifier of its own.  So a run with something left of it is an `Identifier`
(`WordRun.identifier`) and every identifier comes from a run (`WordRun.ofIdentifier`); what the
scanner makes of identifiers is `scan_cases`.
-/

namespace BufferMachine

/-! ### What is taken for a keyword -/

theorem Bytes.occursIn_iff {needle text : Bytes} :
    occursIn needle text = true ↔ needle <:+: text := by
  induction text with
  | nil => simp [occursIn]
  | cons b rest ih =>
    rw [occursIn, Bool.or_eq_true, List.isPrefixOf_iff_prefix, ih, List.infix_cons_iff]

/-- The word is a keyword or, under the lenient rule, has one inside. -/
def KeywordRule.Takes : KeywordRule → Bytes → Prop
  | .exact, word => word ∈ [bytes "write", bytes "for", bytes "do"]
  | .substring, word => ∃ keyword ∈ [bytes "write", bytes "for", bytes "do"], keyword <:+: word

theorem KeywordRule.accepts_iff_takes {rule : KeywordRule} {word : Bytes} :
    rule.accepts word = true ↔ rule.Takes word := by
  cases rule with
  | exact => exact accepts_exact
  | substring =>
    simp only [accepts, List.any_eq_true, Bytes.occursIn_iff]
    rfl

theorem KeywordRule.accepts_eq_false_iff {rule : KeywordRule} {word : Bytes} :
    rule.accepts word = false ↔ ¬ rule.Takes word := by
  rw [← accepts_iff_takes, Bool.not_eq_true]

/-! ### Runs of word bytes -/

/-- A longest run of word bytes of a text, with what stands before and after it. -/
structure WordRun (source : Bytes) where
  before : Bytes
  run : Bytes
  after : Bytes
  source_eq : source = before ++ run ++ after
  isRun : IsRun isWordByte run
  before_end : ∀ b, before.getLast? = some b → isWordByte b = false
  after_begin : ∀ b, after.head? = some b → isWordByte b = false

namespace WordRun

variable {source : Bytes}

/-- What is left of the run without the digits in front. -/
def stripped (r : WordRun source) : Bytes := r.run.dropWhile Decimal.isDigit

def start (r : WordRun source) : Nat := (r.before ++ r.run.takeWhile Decimal.isDigit).length

def location (r : WordRun source) : Location :=
  ⟨1 + (source.take r.start).count newline, r.start, r.start + r.stripped.length⟩

/-- Something is left of the run, and it is not taken for a keyword. -/
def Unacceptable (rule : KeywordRule) (r : WordRun source) : Prop :=
  r.stripped ≠ [] ∧ ¬ rule.Takes r.stripped

theorem isIdentifier_stripped (r : WordRun source) (h : r.stripped ≠ []) :
    IsIdentifier r.stripped := by
  refine ⟨?_, ?_⟩
  · intro b hb
    exact r.isRun.all b (List.dropWhile_sublist _ |>.subset hb)
  · obtain ⟨b, tail, hcons⟩ := List.exists_cons_of_ne_nil h
    have hhead : r.stripped.head? = some b := by rw [hcons]; rfl
    have hstop := List.head?_dropWhile_not Decimal.isDigit r.run
    rw [show r.run.dropWhile Decimal.isDigit = r.stripped from rfl, hhead] at hstop
    exact ⟨b, hhead, by simpa using hstop⟩

/-- A run with something left of it, as the scanner looks at it. -/
def identifier (r : WordRun source) (h : r.stripped ≠ []) : Identifier source where
  before := r.before
  digits := r.run.takeWhile Decimal.isDigit
  word := r.stripped
  after := r.after
  source_eq := by
    refine r.source_eq.trans ?_
    rw [stripped, List.append_assoc, List.append_assoc, ← List.append_assoc (List.takeWhile _ _),
      List.takeWhile_append_dropWhile]
  before_end := r.before_end
  all_digits := List.all_eq_true.mp List.all_takeWhile
  isIdentifier := r.isIdentifier_stripped h
  after_begin := r.after_begin

/-- The run that an identifier is left of. -/
def ofIdentifier (i : Identifier source) : WordRun source where
  before := i.before
  run := i.digits ++ i.word
  after := i.after
  source_eq := i.source_eq.trans (by rw [List.append_assoc, List.append_assoc, List.append_assoc])
  isRun := by
    refine ⟨List.append_ne_nil_of_right_ne_nil _ i.isIdentifier.ne_nil, ?_⟩
    intro b hb
    rcases List.mem_append.mp hb with hdigit | hword
    · exact isWordByte_of_isDigit (i.all_digits b hdigit)
    · exact i.isIdentifier.all_word b hword
  before_end := i.before_end
  after_begin := i.after_begin

variable (i : Identifier source)

theorem takeWhile_dropWhile_ofIdentifier :
    (ofIdentifier i).run.takeWhile Decimal.isDigit = i.digits ∧
      (ofIdentifier i).stripped = i.word := by
  have hstop : ∀ b, i.word.head? = some b → Decimal.isDigit b = false := by
    intro b hb
    obtain ⟨c, hc, hdigit⟩ := i.isIdentifier.head_not_digit
    obtain rfl : c = b := Option.some.inj (hc.symm.trans hb)
    exact hdigit
  exact CodeText.takeWhile_dropWhile_append i.all_digits hstop

theorem stripped_ofIdentifier : (ofIdentifier i).stripped = i.word :=
  (takeWhile_dropWhile_ofIdentifier i).2

theorem start_ofIdentifier : (ofIdentifier i).start = i.start := by
  rw [start, (takeWhile_dropWhile_ofIdentifier i).1]
  rfl

theorem location_ofIdentifier : (ofIdentifier i).location = i.location := by
  rw [location, start_ofIdentifier, stripped_ofIdentifier]
  rfl

theorem unacceptable_ofIdentifier {rule : KeywordRule} (h : rule.accepts i.word = false) :
    (ofIdentifier i).Unacceptable rule := by
  rw [Unacceptable, stripped_ofIdentifier]
  exact ⟨i.isIdentifier.ne_nil, KeywordRule.accepts_eq_false_iff.mp h⟩

/-- If the scanner has accepted all identifiers before a place, then no run before it is
unacceptable. -/
theorem not_unacceptable_of_accepts {rule : KeywordRule} {limit : Nat}
    (h : ∀ j : Identifier source, j.start < limit → rule.accepts j.word = true) (r : WordRun source)
    (hr : r.start < limit) : ¬ r.Unacceptable rule := by
  rintro ⟨hne, hrefused⟩
  exact hrefused (KeywordRule.accepts_iff_takes.mp (h (r.identifier hne) hr))

end WordRun

theorem scan_eq_error_iff {rule : KeywordRule} {source : Bytes} {e : Diagnostic} :
    scan rule source = .error e ↔ ∃ r : WordRun source, r.Unacceptable rule ∧
      (∀ r' : WordRun source, r'.Unacceptable rule → r.start ≤ r'.start) ∧
        e = .lexical r.location r.stripped := by
  constructor
  · intro herror
    obtain ⟨i, hi, hfirst, rfl⟩ := exists_refused_of_scan_error herror
    refine ⟨.ofIdentifier i, WordRun.unacceptable_ofIdentifier i hi, ?_, ?_⟩
    · intro r' hr'
      rw [WordRun.start_ofIdentifier]
      by_contra hlt
      exact WordRun.not_unacceptable_of_accepts hfirst r' (Nat.not_le.mp hlt) hr'
    · rw [WordRun.location_ofIdentifier, WordRun.stripped_ofIdentifier]
  · rintro ⟨r, ⟨hne, hrefused⟩, hleftmost, rfl⟩
    rcases scan_cases rule source with ⟨tokens, -, hall⟩ | ⟨i, hi, hfirst, herror⟩
    · exact absurd (KeywordRule.accepts_iff_takes.mp (hall (r.identifier hne))) hrefused
    · -- the two are leftmost both, so they start at one place and are the same word
      have hle : r.start ≤ i.start := by
        rw [← WordRun.start_ofIdentifier i]
        exact hleftmost _ (WordRun.unacceptable_ofIdentifier i hi)
      have hge : i.start ≤ r.start := by
        by_contra hlt
        exact WordRun.not_unacceptable_of_accepts hfirst r (Nat.not_le.mp hlt) ⟨hne, hrefused⟩
      have hstart : i.start = r.start := Nat.le_antisymm hge hle
      have hword : i.word = r.stripped := by
        have hidentifier := r.isIdentifier_stripped hne
        have hpos : 0 < r.stripped.length := List.length_pos_iff.mpr hne
        refine i.word_eq_of_start
          (r.identifier hne).source_eq hidentifier r.after_begin hstart.ge ?_
        rw [List.length_append]
        exact hstart ▸ Nat.lt_add_of_pos_right hpos
      rw [herror, Identifier.location, WordRun.location, hstart, hword]

/-- **Scanning fails at the leftmost unacceptable word.**  A fresh scanner fails exactly if some
longest run of word bytes, without the digits in front, is neither empty nor taken for a keyword.
What it returns is then the refusal of the leftmost such word, with its place, and no tokens. -/
theorem scan_fails_at_leftmost_word (rule : KeywordRule) (source : Bytes) :
    ((∃ e after, ({ input := source, rule := rule } : Scanner).scan = .ok (.error e, after)) ↔
      ∃ r : WordRun source, r.Unacceptable rule) ∧
    ∀ e, (∃ after, ({ input := source, rule := rule } : Scanner).scan = .ok (.error e, after)) ↔
      ∃ r : WordRun source, r.Unacceptable rule ∧
        (∀ r' : WordRun source, r'.Unacceptable rule → r.start ≤ r'.start) ∧
        e = .lexical ⟨1 + (source.take r.start).count newline, r.start, r.start + r.stripped.length⟩
          r.stripped := by
  obtain ⟨after, hfresh⟩ := Scanner.scan_fresh rule source
  -- a fresh scanner returns what scanning the text gives
  have hscan : ∀ e,
    (∃ after, ({ input := source, rule := rule } : Scanner).scan = .ok (.error e, after)) ↔
      scan rule source = .error e := by
    intro e
    rw [hfresh]
    constructor
    · rintro ⟨after', heq⟩
      exact congrArg Prod.fst (Except.ok.inj heq)
    · intro heq
      exact ⟨after, by rw [heq]⟩
  refine ⟨?_, ?_⟩
  · constructor
    · rintro ⟨e, herror⟩
      obtain ⟨r, hr, -⟩ := scan_eq_error_iff.mp ((hscan e).mp herror)
      exact ⟨r, hr⟩
    · rintro ⟨r, hne, hrefused⟩
      rcases scan_cases rule source with ⟨tokens, -, hall⟩ | ⟨i, -, -, herror⟩
      · exact absurd (KeywordRule.accepts_iff_takes.mp (hall (r.identifier hne))) hrefused
      · exact ⟨_, (hscan _).mpr herror⟩
  · intro e
    rw [hscan, scan_eq_error_iff]
    rfl

end BufferMachine
