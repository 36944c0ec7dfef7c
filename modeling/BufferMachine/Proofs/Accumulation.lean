import BufferMachine.Proofs.Chunks

/-!
# What an accumulator does with the lines

An accumulator may be fed and reset in any order.  Since it was last reset, all that it was fed is
in what it handed out and in what is pending, once and in order, but for blanks behind a terminator;
and it hands out a text as soon as there is a terminator, never earlier.

To say where the bytes of a line are, a text is taken apart into pieces, one for each call that it
has bytes of, and the pieces carry the number of their call (`Piece`).  A text is its pieces with a
newline between each two (`joined`), so that what two calls have brought to one text never touches.
`Provenance` says how the pieces of all texts make up the lines.  Each call keeps it
(`Ledger.Accounted.step`), whether it has a text handed out (`Provenance.cut`) or not
(`Provenance.keep`).
-/

namespace BufferMachine.Accumulator

/-! ### One line -/

theorem extended_eq_append (a : Accumulator) (text : Bytes) :
    a.extended text = a.extended [] ++ text := by
  unfold extended
  split
  · rfl
  · simp

theorem not_mem_extended_nil {a : Accumulator} (h : terminator ∉ a.pending) :
    terminator ∉ a.extended [] := by
  unfold extended
  split
  · exact List.not_mem_nil
  · rw [List.append_nil, List.mem_append, not_or]
    exact ⟨h, by decide⟩

/-- As long as there is no terminator in what is pending, a line is cut where its own last
terminator stands. -/
theorem feed_line_cases {a : Accumulator} (h : terminator ∉ a.pending) (line : Bytes) :
    (terminator ∉ a.extended line ∧ terminator ∉ line ∧ a.feed line = (none, ⟨a.extended line⟩)) ∨
      ∃ front margin back, line = front ++ (margin ++ back) ∧ front.getLast? = some terminator ∧
        (∀ b ∈ margin, isMargin b = true) ∧ (∀ b ∈ back.head?, isMargin b = false) ∧
        terminator ∉ back ∧ a.feed line = (some (a.extended front), ⟨back⟩) := by
  have hlead := not_mem_extended_nil h
  rcases a.feed_cases line with
    ⟨hnone, hfeed⟩ | ⟨chunk, margin, back, hsplit, hlast, hmargin, hhead, hback, hfeed⟩
  · have hline : terminator ∉ line := by
      intro hmem
      rw [extended_eq_append] at hnone
      exact hnone (List.mem_append_right _ hmem)
    exact Or.inl ⟨hnone, hline, hfeed⟩
  · refine Or.inr ?_
    rw [extended_eq_append, List.append_eq_append_iff] at hsplit
    rcases hsplit with ⟨front, rfl, hline⟩ | ⟨rest, hchunk, -⟩
    · have hne : front ≠ [] := by
        rintro rfl
        rw [List.append_nil] at hlast
        exact hlead (List.mem_of_getLast? hlast)
      rw [List.getLast?_append_of_ne_nil _ hne] at hlast
      refine ⟨front, margin, back, hline, hlast, hmargin, hhead, hback, ?_⟩
      rw [a.extended_eq_append front]
      exact hfeed
    · -- the terminator that is handed out last would have been pending
      have hmem : terminator ∈ a.extended [] := by
        rw [hchunk]
        exact List.mem_append_left _ (List.mem_of_getLast? hlast)
      exact absurd hmem hlead

theorem not_mem_pending_feed {a : Accumulator} (h : terminator ∉ a.pending) (line : Bytes) :
    terminator ∉ (a.feed line).2.pending := by
  rcases feed_line_cases h line with ⟨hnone, -, hfeed⟩ | ⟨_, _, back, -, -, -, -, hback, hfeed⟩
  · rw [hfeed]
    exact hnone
  · rw [hfeed]
    exact hback

theorem isSome_feed_iff {a : Accumulator} (h : terminator ∉ a.pending) (line : Bytes) :
    (a.feed line).1.isSome = true ↔ terminator ∈ line := by
  rcases feed_line_cases h line with ⟨-, hline, hfeed⟩ | ⟨front, _, _, rfl, hlast, -, -, -, hfeed⟩
  · rw [hfeed]
    exact iff_of_false (by simp) hline
  · rw [hfeed]
    exact iff_of_true rfl (List.mem_append_left _ (List.mem_of_getLast? hlast))

/-- A text without its blanks. -/
def solid (text : Bytes) : Bytes := text.filter fun b => !isMargin b

theorem solid_append (a b : Bytes) : solid (a ++ b) = solid a ++ solid b :=
  List.filter_append ..

theorem solid_eq_nil {text : Bytes} (h : ∀ b ∈ text, isMargin b = true) : solid text = [] := by
  rw [solid, List.filter_eq_nil_iff]
  intro b hb
  simp [h b hb]

theorem solid_extended (a : Accumulator) (text : Bytes) :
    solid (a.extended text) = solid a.pending ++ solid text := by
  unfold extended
  split
  · next hempty => rw [List.isEmpty_iff.mp hempty]; rfl
  · have hnewline : solid [newline] = [] := by decide
    rw [solid_append, solid_append, hnewline, List.append_nil]

theorem solid_feed {a : Accumulator} (h : terminator ∉ a.pending) (line : Bytes) :
    solid ((a.feed line).1.toList.flatten ++ (a.feed line).2.pending) =
      solid a.pending ++ solid line := by
  rcases feed_line_cases h line with
    ⟨-, -, hfeed⟩ | ⟨front, margin, back, rfl, -, hmargin, -, -, hfeed⟩
  · rw [hfeed]
    exact solid_extended a line
  · rw [hfeed]
    simp [solid_append, solid_extended, solid_eq_nil hmargin]

/-! ### Pieces of lines -/

/-- What a text has of the line of one call. -/
structure Piece where
  call : Nat
  text : Bytes

/-- The text that pieces make up: there is a newline between each two. -/
def joined (pieces : List Piece) : Bytes := List.intercalate [newline] (pieces.map Piece.text)

theorem joined_singleton (p : Piece) : joined [p] = p.text := by
  simp [joined]

theorem joined_concat {pieces : List Piece} (h : pieces ≠ []) (p : Piece) :
    joined (pieces ++ [p]) = joined pieces ++ [newline] ++ p.text := by
  obtain ⟨q, pieces, rfl⟩ := List.exists_cons_of_ne_nil h
  have hsplit : (q.text :: (pieces ++ [p]).map Piece.text).flatMap (newline :: ·) =
      (q.text :: pieces.map Piece.text).flatMap (newline :: ·) ++ newline :: p.text := by simp
  rw [flatMap_newline_cons, flatMap_newline_cons, List.cons_append, List.cons.injEq] at hsplit
  rw [List.append_assoc]
  exact hsplit.2

/-- A text as a piece of its own; there is none if the text is empty. -/
def lone (call : Nat) (text : Bytes) : List Piece := if text = [] then [] else [⟨call, text⟩]

theorem joined_lone (call : Nat) (text : Bytes) : joined (lone call text) = text := by
  unfold lone
  split
  · next hempty => rw [hempty]; rfl
  · exact joined_singleton _

theorem flatMap_text_lone (call : Nat) (text : Bytes) :
    (lone call text).flatMap Piece.text = text := by
  unfold lone
  split
  · next hempty => rw [hempty]; rfl
  · simp

theorem call_of_mem_lone {call : Nat} {text : Bytes} {p : Piece} (hp : p ∈ lone call text) :
    p.call = call := by
  unfold lone at hp
  split at hp
  · cases hp
  · rw [List.mem_singleton.mp hp]

theorem pairwise_lone (R : Piece → Piece → Prop) (call : Nat) (text : Bytes) :
    (lone call text).Pairwise R := by
  unfold lone
  split
  · exact .nil
  · exact List.pairwise_singleton _ _

/-- All that some pieces have of the line of one call. -/
def share (call : Nat) (pieces : List Piece) : Bytes :=
  (pieces.filter fun p => p.call = call).flatMap Piece.text

theorem share_append (call : Nat) (ps qs : List Piece) :
    share call (ps ++ qs) = share call ps ++ share call qs := by
  simp [share]

theorem share_of_forall_eq {call : Nat} {pieces : List Piece} (h : ∀ p ∈ pieces, p.call = call) :
    share call pieces = pieces.flatMap Piece.text := by
  rw [share, List.filter_eq_self.mpr]
  simpa using h

theorem share_of_forall_ne {call : Nat} {pieces : List Piece} (h : ∀ p ∈ pieces, p.call ≠ call) :
    share call pieces = [] := by
  rw [share, List.filter_eq_nil_iff.mpr]
  · rfl
  · simpa using h

/-- What is kept of a line: nothing is lost but blanks behind a terminator. -/
def Keeps (line kept : Bytes) : Prop :=
  ∃ front margin back, line = front ++ (margin ++ back) ∧ kept = front ++ back ∧
    (∀ b ∈ margin, isMargin b = true) ∧ (margin ≠ [] → front.getLast? = some terminator)

theorem keeps_self (line : Bytes) : Keeps line line :=
  ⟨line, [], [], by simp, by simp, by simp, fun h => absurd rfl h⟩

/-- The pieces are all that is kept of some lines, in the order of the calls that brought the
lines. -/
structure MakeUp (lines : List Bytes) (pieces : List Piece) : Prop where
  ordered : pieces.Pairwise (·.call ≤ ·.call)
  call_lt : ∀ p ∈ pieces, p.call < lines.length
  keeps : ∀ call line, lines[call]? = some line → Keeps line (share call pieces)

theorem makeUp_nil : MakeUp [] [] where
  ordered := .nil
  call_lt := by simp
  keeps := by simp

theorem MakeUp.append {lines : List Bytes} {pieces new : List Piece} {line : Bytes}
    (h : MakeUp lines pieces) (hcall : ∀ p ∈ new, p.call = lines.length)
    (hkeeps : Keeps line (new.flatMap Piece.text)) :
    MakeUp (lines ++ [line]) (pieces ++ new) where
  ordered := by
    refine List.pairwise_append.mpr ⟨h.ordered, ?_, ?_⟩
    · apply List.pairwise_of_forall_mem_list
      intro p hp q hq
      rw [hcall p hp, hcall q hq]
    · intro p hp q hq
      rw [hcall q hq]
      exact (h.call_lt p hp).le
  call_lt := by
    intro p hp
    rw [List.length_append, List.length_singleton]
    rcases List.mem_append.mp hp with hp | hp
    · exact Nat.lt_succ_of_lt (h.call_lt p hp)
    · exact Nat.lt_succ_of_le (hcall p hp).le
  keeps := by
    intro call text htext
    rw [share_append]
    rcases Nat.lt_or_ge call lines.length with hlt | hge
    · rw [List.getElem?_append_left hlt] at htext
      have hnew : share call new = [] := share_of_forall_ne fun p hp => hcall p hp ▸ hlt.ne'
      rw [hnew, List.append_nil]
      exact h.keeps call text htext
    · rw [List.getElem?_append_right hge, List.getElem?_singleton] at htext
      split at htext
      · next hzero =>
        obtain rfl : call = lines.length := by omega
        obtain rfl := Option.some.inj htext
        rw [share_of_forall_ne fun p hp => (h.call_lt p hp).ne, share_of_forall_eq hcall]
        exact hkeeps
      · cases htext

/-! ### All calls -/

inductive Call where
  | feed (line : Bytes)
  | reset

/-- An accumulator, with what it was fed and what it handed out since it was last reset. -/
structure Ledger where
  accumulator : Accumulator := {}
  fed : List Bytes := []
  released : List Bytes := []

namespace Ledger

def step (l : Ledger) : Call → Ledger
  | .feed line =>
    { accumulator := (l.accumulator.feed line).2
      fed := l.fed ++ [line]
      released := l.released ++ (l.accumulator.feed line).1.toList }
  | .reset => { accumulator := l.accumulator.reset }

def ofCalls (calls : List Call) : Ledger := calls.foldl step {}

/-- The texts of a ledger in pieces. -/
structure Provenance (l : Ledger) (handedOut : List (List Piece))
    (waiting : List Piece) : Prop where
  released_eq : l.released = handedOut.map joined
  pending_eq : l.accumulator.pending = joined waiting
  waiting_eq_nil : l.accumulator.pending = [] → waiting = []
  makeUp : MakeUp l.fed (handedOut.flatten ++ waiting)
  calls_differ : ∀ pieces ∈ waiting :: handedOut, pieces.Pairwise (·.call < ·.call)

namespace Provenance

variable {l : Ledger} {handedOut : List (List Piece)} {waiting : List Piece}

theorem fresh (a : Accumulator) (ha : a.pending = []) : Provenance { accumulator := a } [] [] where
  released_eq := rfl
  pending_eq := ha
  waiting_eq_nil := fun _ => rfl
  makeUp := makeUp_nil
  calls_differ := by simp

theorem extended_eq (hp : Provenance l handedOut waiting) (p : Piece) :
    l.accumulator.extended p.text = joined (waiting ++ [p]) := by
  unfold extended
  split
  · next hempty =>
    rw [hp.waiting_eq_nil (List.isEmpty_iff.mp hempty), List.nil_append, joined_singleton]
  · next hempty =>
    have hne : waiting ≠ [] := by
      rintro rfl
      exact hempty (List.isEmpty_iff.mpr hp.pending_eq)
    rw [joined_concat hne, hp.pending_eq]

theorem pairwise_concat (hp : Provenance l handedOut waiting) {p : Piece}
    (hcall : p.call = l.fed.length) :
    (waiting ++ [p]).Pairwise (·.call < ·.call) := by
  refine List.pairwise_append.mpr
    ⟨hp.calls_differ waiting List.mem_cons_self, List.pairwise_singleton _ _, ?_⟩
  intro q hq r hr
  rw [List.mem_singleton.mp hr, hcall]
  exact hp.makeUp.call_lt q (List.mem_append_right _ hq)

/-- Nothing of the calls before is pending any more. -/
theorem of_lone {call : Nat} {text : Bytes} (hreleased : l.released = handedOut.map joined)
    (hpending : l.accumulator.pending = text)
    (hmakeUp : MakeUp l.fed (handedOut.flatten ++ lone call text))
    (hdiffer : ∀ pieces ∈ handedOut, pieces.Pairwise (·.call < ·.call)) :
    Provenance l handedOut (lone call text) where
  released_eq := hreleased
  pending_eq := by rw [hpending, joined_lone]
  waiting_eq_nil := by
    intro hempty
    rw [← hpending, hempty]
    rfl
  makeUp := hmakeUp
  calls_differ := List.forall_mem_cons.mpr ⟨pairwise_lone _ _ _, hdiffer⟩

theorem keep (hp : Provenance l handedOut waiting) {line : Bytes}
    (hfeed : l.accumulator.feed line = (none, ⟨l.accumulator.extended line⟩)) :
    ∃ waiting', Provenance (l.step (.feed line)) handedOut waiting' := by
  have hreleased : (l.step (.feed line)).released = handedOut.map joined := by
    simp [step, hfeed, hp.released_eq]
  have hpending :
      (l.step (.feed line)).accumulator.pending = joined (waiting ++ [⟨l.fed.length, line⟩]) := by
    rw [← hp.extended_eq]
    simp [step, hfeed]
  have hdiffer := List.forall_mem_cons.mp hp.calls_differ
  -- an empty line that comes first leaves nothing pending, and no newline will be put behind it
  by_cases hwaiting : waiting = []
  · subst hwaiting
    refine ⟨lone l.fed.length line,
      of_lone hreleased (hpending.trans (joined_singleton _)) ?_ hdiffer.2⟩
    have hmakeUp := hp.makeUp
    rw [List.append_nil] at hmakeUp
    apply hmakeUp.append
    · exact fun p hp => call_of_mem_lone hp
    · rw [flatMap_text_lone]
      exact keeps_self line
  · refine ⟨waiting ++ [⟨l.fed.length, line⟩], hreleased, hpending, ?_, ?_, ?_⟩
    · rw [hpending, joined_concat hwaiting]
      simp
    · rw [← List.append_assoc]
      apply hp.makeUp.append
      · simp
      · simpa using keeps_self line
    · exact List.forall_mem_cons.mpr ⟨hp.pairwise_concat rfl, hdiffer.2⟩

theorem cut (hp : Provenance l handedOut waiting) {front margin back : Bytes}
    (hlast : front.getLast? = some terminator) (hmargin : ∀ b ∈ margin, isMargin b = true)
    (hfeed : l.accumulator.feed (front ++ (margin ++ back)) =
      (some (l.accumulator.extended front), ⟨back⟩)) :
    Provenance (l.step (.feed (front ++ (margin ++ back))))
      (handedOut ++ [waiting ++ [⟨l.fed.length, front⟩]])
      (lone l.fed.length back) := by
  have hextended := hp.extended_eq ⟨l.fed.length, front⟩
  apply of_lone
  · simp [step, hfeed, hp.released_eq, hextended]
  · simp [step, hfeed]
  · have hmakeUp : MakeUp (l.fed ++ [front ++ (margin ++ back)])
        (handedOut.flatten ++ waiting ++ (⟨l.fed.length, front⟩ :: lone l.fed.length back)) := by
      apply hp.makeUp.append
      · exact List.forall_mem_cons.mpr ⟨rfl, fun p hp => call_of_mem_lone hp⟩
      · rw [List.flatMap_cons, flatMap_text_lone]
        exact ⟨front, margin, back, rfl, rfl, hmargin, fun _ => hlast⟩
    simpa [step] using hmakeUp
  · have hdiffer := List.forall_mem_cons.mp hp.calls_differ
    exact List.forall_mem_append.mpr
      ⟨hdiffer.2, List.forall_mem_singleton.mpr (hp.pairwise_concat rfl)⟩

end Provenance

/-- Nothing that was fed is lost, and nothing complete is withheld. -/
structure Accounted (l : Ledger) : Prop where
  not_mem_pending : terminator ∉ l.accumulator.pending
  solid_eq : solid (l.released.flatten ++ l.accumulator.pending) = solid l.fed.flatten
  provenance : ∃ handedOut waiting, Provenance l handedOut waiting

theorem accounted_fresh (a : Accumulator) (ha : a.pending = []) :
    Accounted { accumulator := a } where
  not_mem_pending := by rw [ha]; exact List.not_mem_nil
  solid_eq := by rw [ha]; rfl
  provenance := ⟨[], [], .fresh a ha⟩

theorem Accounted.feed {l : Ledger} (h : Accounted l) (line : Bytes) :
    Accounted (l.step (.feed line)) where
  not_mem_pending := not_mem_pending_feed h.not_mem_pending line
  solid_eq := by
    have hbefore := h.solid_eq
    have hline := solid_feed h.not_mem_pending line
    simp only [step, List.flatten_append, List.flatten_singleton, solid_append] at hbefore hline ⊢
    rw [← hbefore, List.append_assoc, List.append_assoc, hline]
  provenance := by
    obtain ⟨handedOut, waiting, hp⟩ := h.provenance
    rcases feed_line_cases h.not_mem_pending line with
      ⟨-, -, hfeed⟩ | ⟨front, margin, back, rfl, hlast, hmargin, -, -, hfeed⟩
    · obtain ⟨waiting', hkept⟩ := hp.keep hfeed
      exact ⟨handedOut, waiting', hkept⟩
    · exact ⟨_, _, hp.cut hlast hmargin hfeed⟩

theorem Accounted.step {l : Ledger} (h : Accounted l) (call : Call) : Accounted (l.step call) := by
  cases call with
  | feed line => exact h.feed line
  | reset => exact accounted_fresh _ rfl

theorem accounted_ofCalls (calls : List Call) : Accounted (ofCalls calls) :=
  List.foldlRecOn calls Ledger.step (accounted_fresh {} rfl) fun _ h call _ => h.step call

end Ledger

/-- **An accumulator loses nothing and hands out nothing early.**  After any calls there is no
terminator in what is pending; the next line has a text handed out exactly if there is a terminator
in it, the text ends with a terminator, and what stays pending does not begin with a blank.  Since
the last reset, all that was fed is in what was handed out and in what is pending, but for blanks;
and each of these texts is made up of pieces of different calls, with a newline put between each
two. -/
theorem feeding_loses_nothing (calls : List Call) :
    terminator ∉ (Ledger.ofCalls calls).accumulator.pending ∧
      (∀ line, ((Ledger.ofCalls calls).accumulator.feed line).1.isSome = true ↔ terminator ∈ line) ∧
      (∀ line chunk, ((Ledger.ofCalls calls).accumulator.feed line).1 = some chunk →
        chunk.getLast? = some terminator ∧
          ∀ b ∈ ((Ledger.ofCalls calls).accumulator.feed line).2.pending.head?,
            isMargin b = false) ∧
      solid ((Ledger.ofCalls calls).released.flatten ++
        (Ledger.ofCalls calls).accumulator.pending) =
        solid (Ledger.ofCalls calls).fed.flatten ∧
      ∃ handedOut waiting, Ledger.Provenance (Ledger.ofCalls calls) handedOut waiting := by
  have h := Ledger.accounted_ofCalls calls
  refine ⟨h.not_mem_pending, isSome_feed_iff h.not_mem_pending, ?_, h.solid_eq, h.provenance⟩
  intro line chunk hchunk
  refine ⟨getLast?_of_feed hchunk, ?_⟩
  rcases feed_line_cases h.not_mem_pending line with
    ⟨-, -, hfeed⟩ | ⟨_, _, back, -, -, -, hhead, -, hfeed⟩
  · rw [hfeed] at hchunk
    cases hchunk
  · rw [hfeed]
    exact hhead

example : (Ledger.ofCalls [.feed (bytes "do +"), .feed (bytes ";  wri"),
    .feed (bytes "te")]).released = [bytes "do +\n;"] ∧
    (Ledger.ofCalls
      [.feed (bytes "do +"), .feed (bytes ";  wri"), .feed (bytes "te")]).accumulator.pending =
      bytes "wri\nte" := by decide

end BufferMachine.Accumulator
