import BufferMachine.Metrics.Exposition
import BufferMachine.Proofs.Characters
import BufferMachine.Proofs.Tallies

/-!
# What the store tells of events

Events recorded one after the other on an empty store, in any order.  An event belongs to one
series: the counter of an outcome, the histogram of tokens or of statements, or the histogram of a
stage.

The argument goes series by series.  `Store.only` is the store with one series in it.  An event
changes its own series as if that were alone in the store (`Store.only_add_self`) and leaves all
others as they are (`Store.only_add_of_ne`), so each series is what its own events make of it
(`Store.only_after`), and this is known from their amounts (`Store.after_map_event`).  A store is
known from its series (`Store.Ordered.ext_only`); so where the order of amounts does not matter,
that is for all but the sums, the order of the events does not matter either (`Store.sumless_perm`).
-/

namespace BufferMachine

/-! ### Histograms as they are written -/

namespace Histogram

open Metrics

/-- The buckets as they are written, each with the text of its bound; the last one has no bound. -/
def buckets (h : Histogram) : List (Bytes × Nat) :=
  (h.cumulative.map fun p => (Double.text p.1, p.2)) ++ [(bytes "+Inf", h.count)]

/-- The lines of a histogram: its buckets, its sum and its count. -/
def lines (h : Histogram) (name : Bytes) (labels : List Label) : Bytes :=
  (h.buckets.flatMap fun p =>
    sample (name ++ bytes "_bucket") (labels ++ [(bytes "le", p.1)]) p.2) ++
    sample (name ++ bytes "_sum") labels h.sum ++ sample (name ++ bytes "_count") labels h.count

theorem histogramSamples_eq_lines (name : Bytes) (labels : List Label) (h : Histogram) :
    histogramSamples name labels h = h.lines name labels := by
  simp only [histogramSamples, lines, buckets, List.flatMap_append, List.flatMap_map,
    List.flatMap_singleton]

/-- What a histogram tells of the given observations: at every bound how many do not exceed it,
whether they are compared as they are or in double precision, and in the last bucket how many there
are. -/
structure Tells (h : Histogram) (bounds : List Nat) (observations : List Int) :
    Prop extends h.Shows bounds observations where
  increasing : (h.buckets.map Prod.snd).Pairwise (· ≤ ·)
  unbounded : h.buckets.getLast? = some (bytes "+Inf", h.count)
  rounded : ∀ bound ∈ bounds, observations.countP (fun n => Double.round n ≤ (bound : Int)) =
    observations.countP fun n => n ≤ (bound : Int)

variable {h : Histogram} {bounds : List Nat} {observations : List Int}

theorem Shows.map_snd_buckets (hs : h.Shows bounds observations) : h.buckets.map Prod.snd =
    (bounds.map fun bound : Nat => observations.countP fun n => n ≤ (bound : Int)) ++
      [observations.length] := by
  simp [buckets, hs.cumulative_eq, hs.count_eq, Function.comp_def]

theorem Shows.increasing (hs : h.Shows bounds observations) (hbounds : bounds.Pairwise (· ≤ ·)) :
    (h.buckets.map Prod.snd).Pairwise (· ≤ ·) := by
  rw [hs.map_snd_buckets, List.pairwise_append, List.pairwise_map]
  refine ⟨?_, List.pairwise_singleton _ _, ?_⟩
  · apply hbounds.imp
    intro low high hle
    apply List.countP_mono_left
    intro n _ hn
    have hlow : n ≤ (low : Int) := of_decide_eq_true hn
    exact decide_eq_true (by omega)
  · intro total htotal last hlast
    obtain ⟨bound, -, rfl⟩ := List.mem_map.mp htotal
    obtain rfl := List.mem_singleton.mp hlast
    exact List.countP_le_length

theorem tells_foldl_observe (hbounds : bounds.Pairwise (· ≤ ·))
    (hexact : ∀ bound ∈ bounds, bound < Nat.pow 2 Double.precision) (ns : List Int) :
    (ns.foldl observe (empty bounds)).Tells bounds ns := by
  have hshows := (shows_empty bounds).observeAll hbounds ns
  refine ⟨hshows, hshows.increasing hbounds, List.getLast?_concat, ?_⟩
  intro bound hbound
  simp only [Double.round_le_iff (hexact bound hbound)]

end Histogram

namespace Metrics

/-! ### Events and their series -/

/-- What events are counted in: a counter for every outcome of a compilation, the histograms of
tokens and of statements, and a histogram for every stage. -/
inductive Series where
  | compilations (outcome : Bytes)
  | tokens
  | statements
  | stage (name : Bytes)
deriving DecidableEq, Repr

namespace Series

def family : Series → Bytes
  | compilations _ => bytes "bufc_compilations"
  | tokens => bytes "bufc_tokens"
  | statements => bytes "bufc_statements"
  | stage _ => bytes "bufc_stage_ns"

def labels : Series → List Label
  | compilations outcome => [(bytes "result", outcome)]
  | tokens => []
  | statements => []
  | stage name => [(bytes "stage", name)]

/-- The bounds of the buckets: powers of four for sizes, multiples of two microseconds for times. -/
def bounds : Series → List Nat
  | compilations _ => []
  | tokens => (List.range 10).map (Nat.pow 4)
  | statements => (List.range 10).map (Nat.pow 4)
  | stage _ => (List.range' 1 19).map (2000 * ·)

theorem bounds_increasing (series : Series) : series.bounds.Pairwise (· ≤ ·) := by
  cases series <;> (rw [bounds]; decide)

theorem bounds_exact (series : Series) :
    ∀ bound ∈ series.bounds, bound < Nat.pow 2 Double.precision := by
  cases series <;> (rw [bounds]; decide)

def event : Series → Int → Event
  | compilations outcome, _ => .compilation outcome
  | tokens, n => .tokens n
  | statements, n => .statements n
  | stage name, n => .stage name n

end Series

/-- The label is the encoding of some characters. -/
def IsText (label : Bytes) : Prop := ∃ cs : List Char, label = cs.flatMap String.utf8EncodeChar

namespace Event

def series : Event → Series
  | compilation outcome => .compilations outcome
  | tokens _ => .tokens
  | statements _ => .statements
  | stage name _ => .stage name

/-- What is observed; a compilation counts as one. -/
def amount : Event → Int
  | compilation _ => 1
  | tokens n => n
  | statements n => n
  | stage _ n => n

def WellLabelled : Event → Prop
  | compilation outcome => IsText outcome
  | tokens _ => True
  | statements _ => True
  | stage name _ => IsText name

theorem event_series (e : Event) : e.series.event e.amount = e := by
  cases e <;> rfl

theorem series_eq_compilations {e : Event} {outcome : Bytes} :
    e.series = .compilations outcome ↔ e = .compilation outcome := by
  cases e <;> simp [series]

end Event

namespace Series

/-- The events of the series. -/
def own (series : Series) (events : List Event) : List Event := events.filter (·.series = series)

/-- The amounts of the events of the series, in order. -/
def amounts (series : Series) (events : List Event) : List Int :=
  (series.own events).map Event.amount

theorem own_cons (series : Series) (e : Event) (events : List Event) :
    series.own (e :: events) = if e.series = series then e :: series.own events
      else series.own events := by
  simp only [own, List.filter_cons, decide_eq_true_eq]

theorem own_eq_map (series : Series) (events : List Event) :
    series.own events = (series.amounts events).map series.event := by
  rw [amounts, List.map_map]
  refine (List.map_id _).symm.trans (List.map_congr_left ?_)
  intro e he
  obtain rfl : e.series = series := of_decide_eq_true (List.mem_filter.mp he).2
  exact e.event_series.symm

theorem amounts_ne_nil {series : Series} {events : List Event} :
    series.amounts events ≠ [] ↔ ∃ e ∈ events, e.series = series := by
  simp [amounts, own]

theorem length_amounts_compilations (outcome : Bytes) (events : List Event) :
    ((compilations outcome).amounts events).length = events.count (.compilation outcome) := by
  rw [amounts, List.length_map, own, ← List.countP_eq_length_filter, List.count]
  apply List.countP_congr
  intro e _
  simp [Event.series_eq_compilations]

end Series

/-! ### Recording events -/

namespace Store

/-- The store with one more event, whose label is known to be well-formed. -/
def add (s : Store) : Event → Store
  | .compilation outcome => s.countCompilation outcome
  | .tokens n => s.observeTokens n
  | .statements n => s.observeStatements n
  | .stage name nanoseconds => s.observeStage name nanoseconds

/-- The store after the given events. -/
def after (events : List Event) : Store := events.foldl add {}

theorem checkLabel_of_isText {label : Bytes} (h : IsText label) : checkLabel label = .ok () :=
  if_pos (Utf8.isValid_iff.mpr h)

theorem record_eq_add (s : Store) {e : Event} (h : e.WellLabelled) :
    s.record e = .ok (s.add e) := by
  cases e with
  | compilation outcome =>
    rw [record, checkLabel_of_isText h]
    rfl
  | tokens n => rfl
  | statements n => rfl
  | stage name n =>
    rw [record, checkLabel_of_isText h]
    rfl

theorem foldlM_record_eq_foldl (s : Store) {events : List Event}
    (h : ∀ e ∈ events, e.WellLabelled) :
    events.foldlM record s = .ok (events.foldl add s) := by
  induction events generalizing s with
  | nil => rfl
  | cons e events ih =>
    rw [List.forall_mem_cons] at h
    rw [List.foldlM_cons, record_eq_add s h.1]
    exact ih (s.add e) h.2

/-- Both families are in the order of their labels. -/
structure Ordered (s : Store) : Prop where
  compilations : s.compilations.Ordered
  stages : s.stages.Ordered

theorem Ordered.add {s : Store} (h : s.Ordered) (e : Event) : (s.add e).Ordered := by
  cases e with
  | compilation outcome => exact ⟨h.compilations.update _ _ _, h.stages⟩
  | tokens n => exact ⟨h.compilations, h.stages⟩
  | statements n => exact ⟨h.compilations, h.stages⟩
  | stage name n => exact ⟨h.compilations, h.stages.update _ _ _⟩

theorem Ordered.addAll {s : Store} (h : s.Ordered) (events : List Event) :
    (events.foldl Store.add s).Ordered := by
  induction events generalizing s with
  | nil => exact h
  | cons e events ih => exact ih (h.add e)

theorem ordered_empty : ({} : Store).Ordered := ⟨List.Pairwise.nil, List.Pairwise.nil⟩

theorem ordered_after (events : List Event) : (after events).Ordered := ordered_empty.addAll events

/-! ### One series at a time -/

/-- The store with one series in it. -/
def only (s : Store) : Series → Store
  | .compilations outcome => { compilations := s.compilations.only outcome }
  | .tokens => { tokens := s.tokens }
  | .statements => { statements := s.statements }
  | .stage name => { stages := s.stages.only name }

theorem only_add_self {s : Store} (h : s.Ordered) (e : Event) :
    (s.add e).only e.series = (s.only e.series).add e := by
  cases e with
  | compilation outcome =>
    exact congrArg (fun family => ({ compilations := family } : Store))
      (Family.only_update_self _ _ outcome h.compilations)
  | tokens n => rfl
  | statements n => rfl
  | stage name n =>
    exact congrArg (fun family => ({ stages := family } : Store))
      (Family.only_update_self _ _ name h.stages)

/-- **An event changes no series but its own.** -/
theorem only_add_of_ne {s : Store} (h : s.Ordered) {e : Event} {series : Series}
    (hne : series ≠ e.series) :
    (s.add e).only series = s.only series := by
  cases e with
  | compilation outcome =>
    cases series with
    | compilations other =>
      have hother : other ≠ outcome := fun heq => hne (congrArg Series.compilations heq)
      exact congrArg (fun family => ({ compilations := family } : Store))
        (Family.only_update_of_ne _ _ h.compilations hother)
    | tokens => rfl
    | statements => rfl
    | stage name => rfl
  | tokens n =>
    cases series with
    | compilations outcome => rfl
    | tokens => exact absurd rfl hne
    | statements => rfl
    | stage name => rfl
  | statements n =>
    cases series with
    | compilations outcome => rfl
    | tokens => rfl
    | statements => exact absurd rfl hne
    | stage name => rfl
  | stage name n =>
    cases series with
    | compilations outcome => rfl
    | tokens => rfl
    | statements => rfl
    | stage other =>
      have hother : other ≠ name := fun heq => hne (congrArg Series.stage heq)
      exact congrArg (fun family => ({ stages := family } : Store))
        (Family.only_update_of_ne _ _ h.stages hother)

theorem only_foldl_add {s : Store} (h : s.Ordered) (events : List Event) (series : Series) :
    (events.foldl add s).only series = (series.own events).foldl add (s.only series) := by
  induction events generalizing s with
  | nil => rfl
  | cons e events ih =>
    rw [List.foldl_cons, ih (h.add e), Series.own_cons]
    -- an event of another series is dropped on the right, and not seen on the left
    by_cases he : e.series = series
    · subst he
      rw [only_add_self h, if_pos rfl, List.foldl_cons]
    · rw [only_add_of_ne h (Ne.symm he), if_neg he]

/-- **Each series is what its own events make of it.** -/
theorem only_after (events : List Event) (series : Series) :
    (after events).only series = after (series.own events) := by
  have hempty : ({} : Store).only series = {} := by cases series <;> rfl
  rw [after, only_foldl_add ordered_empty, hempty, after]

/-- The store with given amounts in one series. -/
def ofAmounts : Series → List Int → Store
  | .compilations outcome, ns =>
    { compilations := .single outcome (Family.replay 0 (fun count _ => count + 1) ns) }
  | .tokens, ns => { tokens := ns.foldl Histogram.observe (.empty sizeBounds) }
  | .statements, ns => { statements := ns.foldl Histogram.observe (.empty sizeBounds) }
  | .stage name, ns =>
    { stages := .single name (Family.replay (.empty timeBounds) Histogram.observe ns) }

theorem ofAmounts_concat (series : Series) (ns : List Int) (n : Int) :
    ofAmounts series (ns ++ [n]) = (ofAmounts series ns).add (series.event n) := by
  cases series with
  | compilations outcome =>
    rw [ofAmounts, Family.replay_concat, ← Family.update_single 0 (· + 1)]
    rfl
  | tokens =>
    rw [ofAmounts, List.foldl_concat]
    rfl
  | statements =>
    rw [ofAmounts, List.foldl_concat]
    rfl
  | stage name =>
    rw [ofAmounts, Family.replay_concat, ← Family.update_single _ (Histogram.observe · n)]
    rfl

theorem foldl_add_ofAmounts (series : Series) (ms ns : List Int) :
    (ns.map series.event).foldl add (ofAmounts series ms) = ofAmounts series (ms ++ ns) := by
  induction ns generalizing ms with
  | nil =>
    rw [List.append_nil]
    rfl
  | cons n ns ih =>
    rw [List.map_cons, List.foldl_cons, ← ofAmounts_concat, ih, List.append_assoc]
    rfl

theorem after_map_event (series : Series) (ns : List Int) :
    after (ns.map series.event) = ofAmounts series ns := by
  have hempty : ofAmounts series [] = {} := by cases series <;> rfl
  rw [after, ← hempty, foldl_add_ofAmounts, List.nil_append]

theorem only_after_eq_ofAmounts (events : List Event) (series : Series) :
    (after events).only series = ofAmounts series (series.amounts events) := by
  rw [only_after, series.own_eq_map, after_map_event]

theorem compilations_after (events : List Event) (outcome : Bytes) :
    (after events).compilations.get? outcome =
    Family.replay 0 (fun count _ => count + 1) ((Series.compilations outcome).amounts events) := by
  have honly := congrArg Store.compilations (only_after_eq_ofAmounts events (.compilations outcome))
  rw [← Family.get?_only]
  exact (congrArg (Family.get? outcome) honly).trans (Family.get?_single outcome _)

theorem stages_after (events : List Event) (name : Bytes) : (after events).stages.get? name =
    Family.replay (.empty timeBounds) Histogram.observe ((Series.stage name).amounts events) := by
  have honly := congrArg Store.stages (only_after_eq_ofAmounts events (.stage name))
  rw [← Family.get?_only]
  exact (congrArg (Family.get? name) honly).trans (Family.get?_single name _)

theorem counter_isSome_iff (events : List Event) (outcome : Bytes) :
    ((after events).compilations.get? outcome).isSome ↔ .compilation outcome ∈ events := by
  rw [compilations_after, Family.isSome_replay, Series.amounts_ne_nil]
  simp [Event.series_eq_compilations]

theorem stage_isSome_iff (events : List Event) (name : Bytes) :
    ((after events).stages.get? name).isSome ↔ ∃ n, .stage name n ∈ events := by
  rw [stages_after, Family.isSome_replay, Series.amounts_ne_nil]
  constructor
  · rintro ⟨e, he, hseries⟩
    rw [← e.event_series, hseries] at he
    exact ⟨e.amount, he⟩
  · rintro ⟨n, hn⟩
    exact ⟨_, hn, rfl⟩

/-- The histogram of a series; a stage that was never observed has none. -/
def histogram? (s : Store) : Series → Option Histogram
  | .compilations _ => none
  | .tokens => some s.tokens
  | .statements => some s.statements
  | .stage name => s.stages.get? name

theorem histogram?_only (s : Store) (series : Series) :
    (s.only series).histogram? series = s.histogram? series := by
  cases series with
  | compilations outcome => rfl
  | tokens => rfl
  | statements => rfl
  | stage name => exact Family.get?_only name s.stages

theorem eq_of_histogram?_ofAmounts {series : Series} {ns : List Int} {h : Histogram}
    (hh : (ofAmounts series ns).histogram? series = some h) :
    h = ns.foldl Histogram.observe (.empty series.bounds) := by
  cases series with
  | compilations outcome => cases hh
  | tokens => exact (Option.some.inj hh).symm
  | statements => exact (Option.some.inj hh).symm
  | stage name =>
    simp only [ofAmounts, histogram?, Family.get?_single, Family.replay] at hh
    split at hh
    · cases hh
    · exact (Option.some.inj hh).symm

theorem tells_after {events : List Event} {series : Series} {h : Histogram}
    (hh : (after events).histogram? series = some h) :
    h.Tells series.bounds (series.amounts events) := by
  rw [← histogram?_only, only_after_eq_ofAmounts] at hh
  obtain rfl := eq_of_histogram?_ofAmounts hh
  exact Histogram.tells_foldl_observe series.bounds_increasing series.bounds_exact _

/-! ### The order of events -/

/-- **A store is known from its series.** -/
theorem Ordered.ext_only {s t : Store} (hs : s.Ordered) (ht : t.Ordered)
    (h : ∀ series, s.only series = t.only series) :
    s = t := by
  have hcompilations : s.compilations = t.compilations := by
    apply hs.compilations.ext ht.compilations
    intro outcome
    have honly : s.compilations.only outcome = t.compilations.only outcome :=
      congrArg Store.compilations (h (.compilations outcome))
    rw [← Family.get?_only, honly, Family.get?_only]
  have hstages : s.stages = t.stages := by
    apply hs.stages.ext ht.stages
    intro name
    have honly : s.stages.only name = t.stages.only name := congrArg Store.stages (h (.stage name))
    rw [← Family.get?_only, honly, Family.get?_only]
  have htokens : (s.only .tokens).tokens = (t.only .tokens).tokens :=
    congrArg Store.tokens (h .tokens)
  have hstatements : (s.only .statements).statements = (t.only .statements).statements :=
    congrArg Store.statements (h .statements)
  cases s
  cases t
  exact Store.mk.injEq .. ▸ ⟨hcompilations, htokens, hstatements, hstages⟩

/-- The store with all sums left aside. -/
def sumless (s : Store) : Store :=
  { compilations := s.compilations
    tokens := s.tokens.sumless
    statements := s.statements.sumless
    stages := s.stages.mapValues Histogram.sumless }

theorem Ordered.sumless {s : Store} (h : s.Ordered) : s.sumless.Ordered :=
  ⟨h.compilations, h.stages.mapValues _⟩

theorem sumless_only (s : Store) (series : Series) :
    s.sumless.only series = (s.only series).sumless := by
  cases series with
  | compilations outcome => rfl
  | tokens => rfl
  | statements => rfl
  | stage name =>
    have hstages : (s.stages.mapValues Histogram.sumless).only name =
        (s.stages.only name).mapValues Histogram.sumless := by
      rw [Family.only, Family.get?_mapValues, Family.only, Family.mapValues_single]
    exact congrArg (fun family => ({ stages := family } : Store)) hstages

theorem sumless_ofAmounts_perm (series : Series) {ns ms : List Int} (h : ns.Perm ms) :
    (ofAmounts series ns).sumless = (ofAmounts series ms).sumless := by
  cases series with
  | compilations outcome =>
    have hlength :
        ns.foldl (fun count _ => count + 1) 0 = ms.foldl (fun count _ => count + 1) 0 := by
      rw [List.foldl_add_const, List.foldl_add_const, h.length_eq]
    have hcounter := Family.map_replay_perm id h hlength
    rw [Option.map_id_apply, Option.map_id_apply] at hcounter
    exact congrArg
      (fun counter => ({ compilations := Family.single outcome counter } : Store)) hcounter
  | tokens =>
    exact congrArg (fun histogram => ({ tokens := histogram } : Store))
      (Histogram.sumless_foldl_perm _ h)
  | statements =>
    exact congrArg (fun histogram => ({ statements := histogram } : Store))
      (Histogram.sumless_foldl_perm _ h)
  | stage name =>
    have htimes :=
      Family.map_replay_perm Histogram.sumless h
        (Histogram.sumless_foldl_perm (.empty timeBounds) h)
    change ({ stages := Family.mapValues Histogram.sumless (Family.single name _) } : Store) =
      { stages := Family.mapValues Histogram.sumless (Family.single name _) }
    rw [Family.mapValues_single, Family.mapValues_single, htimes]

/-- **The order of events shows in the sums at most.** -/
theorem sumless_perm {events others : List Event} (h : events.Perm others) :
    (after events).sumless = (after others).sumless := by
  apply (ordered_after events).sumless.ext_only (ordered_after others).sumless
  intro series
  -- in each series another order of the events is another order of the amounts
  rw [sumless_only, sumless_only, only_after_eq_ofAmounts, only_after_eq_ofAmounts]
  apply sumless_ofAmounts_perm
  exact (h.filter _).map _

/-! ### Families and their text -/

theorem map_fst_families (s : Store) : s.families.map Prod.fst =
    (if s.compilations.isEmpty then [] else [compilationsName]) ++
      (if s.stages.isEmpty then [] else [stagesName]) ++ [statementsName, tokensName] := by
  unfold families
  split <;> split <;> rfl

theorem map_fst_families_sumless (s : Store) :
    s.sumless.families.map Prod.fst = s.families.map Prod.fst := by
  rw [map_fst_families, map_fst_families]
  simp [sumless, Family.mapValues]

theorem families_sorted (s : Store) :
    (s.families.map Prod.fst).Pairwise fun a b => a ≤ b ∧ a ≠ b := by
  simp only [map_fst_families, ← Bytes.notAfter_iff]
  split <;> split <;> decide

theorem mem_map_fst_families (s : Store) (name : Bytes) :
    name ∈ s.families.map Prod.fst ↔ name = tokensName ∨ name = statementsName ∨
      (s.compilations ≠ [] ∧ name = compilationsName) ∨ s.stages ≠ [] ∧ name = stagesName := by
  rw [map_fst_families]
  by_cases hcompilations : s.compilations = [] <;> by_cases hstages : s.stages = [] <;>
    simp [hcompilations, hstages, or_comm, or_left_comm]

theorem mem_families_after (events : List Event) (name : Bytes) :
    name ∈ (after events).families.map Prod.fst ↔
      name = Series.tokens.family ∨ name = Series.statements.family ∨
        ∃ e ∈ events, e.series.family = name := by
  rw [mem_map_fst_families, Family.ne_nil_iff, Family.ne_nil_iff]
  simp only [counter_isSome_iff, stage_isSome_iff]
  constructor
  · rintro (htokens | hstatements | ⟨⟨outcome, he⟩, hname⟩ | ⟨⟨stage, n, he⟩, hname⟩)
    · exact .inl htokens
    · exact .inr (.inl hstatements)
    · exact .inr (.inr ⟨_, he, hname.symm⟩)
    · exact .inr (.inr ⟨_, he, hname.symm⟩)
  · rintro (htokens | hstatements | ⟨e, he, rfl⟩)
    · exact .inl htokens
    · exact .inr (.inl hstatements)
    · cases e with
      | compilation outcome => exact .inr (.inr (.inl ⟨⟨outcome, he⟩, rfl⟩))
      | tokens n => exact .inl rfl
      | statements n => exact .inr (.inl rfl)
      | stage stage n => exact .inr (.inr (.inr ⟨⟨stage, n, he⟩, rfl⟩))

/-- The lines stand in the text of the family that the series belongs to. -/
def Writes (s : Store) (series : Series) (lines : Bytes) : Prop :=
  ∃ text, (series.family, text) ∈ s.families ∧ lines <:+: text

theorem isInfix_append_flatMap {α : Type} {a : α} {as : List α} (h : a ∈ as) (front : Bytes)
    (text : α → Bytes) :
    text a <:+: front ++ as.flatMap text := by
  apply (List.infix_of_mem_flatten (List.mem_map_of_mem h)).trans
  exact (List.suffix_append front _).isInfix

theorem counter_written {s : Store} (hs : s.Ordered) {outcome : Bytes} {n : Nat}
    (h : s.compilations.get? outcome = some n) :
    s.Writes (.compilations outcome)
      (sample (bytes "bufc_compilations") [(bytes "result", outcome)] n) := by
  have hmem := (Family.get?_eq_some_iff hs.compilations outcome n).mp h
  refine ⟨s.compilationsText, ?_, ?_⟩
  · simp [families, List.ne_nil_of_mem hmem, Series.family, compilationsName]
  · exact isInfix_append_flatMap hmem _ fun p : Bytes × Nat =>
      sample compilationsName [(bytes "result", p.1)] p.2

theorem histogram_written {s : Store} (hs : s.Ordered) {series : Series} {h : Histogram}
    (hh : s.histogram? series = some h) :
    s.Writes series (h.lines series.family series.labels) := by
  rw [← Histogram.histogramSamples_eq_lines]
  cases series with
  | compilations outcome => cases hh
  | tokens =>
    obtain rfl := Option.some.inj hh
    refine ⟨s.tokensText, ?_, (List.suffix_append _ _).isInfix⟩
    simp [families, Series.family, tokensName]
  | statements =>
    obtain rfl := Option.some.inj hh
    refine ⟨s.statementsText, ?_, (List.suffix_append _ _).isInfix⟩
    simp [families, Series.family, statementsName]
  | stage name =>
    have hmem := (Family.get?_eq_some_iff hs.stages name h).mp hh
    refine ⟨s.stagesText, ?_, ?_⟩
    · simp [families, List.ne_nil_of_mem hmem, Series.family, stagesName]
    · exact isInfix_append_flatMap hmem _ fun p : Bytes × Histogram =>
        histogramSamples stagesName [(bytes "stage", p.1)] p.2

/-- The store sums up the events.  A counter shows how often its outcome was counted, and a
histogram tells of the amounts of its own events; counters and stages come into being with their
events only, and so do families where a label tells the series apart.  What the store shows is
written in the text of the families. -/
structure Summarizes (s : Store) (events : List Event) : Prop where
  counter_eq : ∀ outcome, s.compilations.value outcome = events.count (.compilation outcome)
  counter_iff : ∀ outcome, (s.compilations.get? outcome).isSome ↔ .compilation outcome ∈ events
  histogram_tells : ∀ series h, s.histogram? series = some h →
    h.Tells series.bounds (series.amounts events)
  stage_iff : ∀ name, (s.stages.get? name).isSome ↔ ∃ n, .stage name n ∈ events
  families_sorted : (s.families.map Prod.fst).Pairwise fun a b => a ≤ b ∧ a ≠ b
  mem_families : ∀ name, name ∈ s.families.map Prod.fst ↔
    name = Series.tokens.family ∨ name = Series.statements.family ∨
      ∃ e ∈ events, e.series.family = name
  counter_written : ∀ outcome n, s.compilations.get? outcome = some n →
    s.Writes (.compilations outcome)
      (sample (bytes "bufc_compilations") [(bytes "result", outcome)] n)
  histogram_written : ∀ series h, s.histogram? series = some h →
    s.Writes series (h.lines series.family series.labels)

theorem summarizes_after (events : List Event) : (after events).Summarizes events where
  counter_eq := by
    intro outcome
    rw [Family.value, compilations_after, Family.getD_replay, List.foldl_add_const, Nat.zero_add,
      Nat.one_mul, Series.length_amounts_compilations]
  counter_iff := counter_isSome_iff events
  histogram_tells := fun _ _ => tells_after
  stage_iff := stage_isSome_iff events
  families_sorted := families_sorted _
  mem_families := mem_families_after events
  counter_written := fun _ _ => counter_written (ordered_after events)
  histogram_written := fun _ _ => histogram_written (ordered_after events)

end Store

/-- **The store is a faithful summary of the events, in whatever order they come.**  Events with
well-formed labels and any amounts can all be recorded.  The store then sums them up; each of its
series is what the events of that series alone would have left, sum included; and the same events in
another order leave the same store, sums apart, with the same families. -/
theorem store_summarizes_events (events : List Event) (hlabels : ∀ e ∈ events, e.WellLabelled) :
    ∃ s : Store, events.foldlM Store.record {} = .ok s ∧ s.Summarizes events ∧
      (∀ series : Series, (series.own events).foldlM Store.record {} = .ok (s.only series)) ∧
      ∀ others : List Event, others.Perm events →
        ∃ t : Store, others.foldlM Store.record {} = .ok t ∧
        t.sumless = s.sumless ∧ t.families.map Prod.fst = s.families.map Prod.fst := by
  refine ⟨Store.after events, Store.foldlM_record_eq_foldl {} hlabels,
    Store.summarizes_after events, ?_, ?_⟩
  · intro series
    have hown : ∀ e ∈ series.own events, e.WellLabelled :=
      fun e he => hlabels e (List.mem_filter.mp he).1
    rw [Store.foldlM_record_eq_foldl {} hown, Store.only_after, Store.after]
  · intro others hperm
    have hothers : ∀ e ∈ others, e.WellLabelled := fun e he => hlabels e (hperm.mem_iff.mp he)
    have hsumless := Store.sumless_perm hperm
    refine ⟨Store.after others, Store.foldlM_record_eq_foldl {} hothers, hsumless, ?_⟩
    rw [← Store.map_fst_families_sumless, hsumless, Store.map_fst_families_sumless]

/-- Observations on a bound, below zero and above all bounds, with a label outside ASCII among the
stages. -/
theorem store_summarizes_events_on_bounds :
    let events : List Event :=
      [.tokens 4, .compilation (bytes "ok"), .stage (bytes "λ-lifting") 2000, .tokens (-3),
        .compilation (bytes "lex_error"), .tokens 262145, .compilation (bytes "ok"),
        .stage (bytes "λ-lifting") 38001]
    (∀ e ∈ events, e.WellLabelled) ∧ ∃ s : Store, events.foldlM Store.record {} = .ok s ∧
      s.compilations.value (bytes "ok") = 2 ∧ s.tokens.count = 3 ∧
      s.tokens.buckets.map Prod.snd = [1, 2, 2, 2, 2, 2, 2, 2, 2, 2, 3] ∧
      (∃ h, s.stages.get? (bytes "λ-lifting") = some h ∧
        h.cumulative.map Prod.snd = List.replicate 19 1 ∧ h.count = 2) ∧
      [Event.stage (bytes "λ-lifting") 2000, .stage (bytes "λ-lifting") 38001].foldlM
        Store.record {} =
        .ok (s.only (.stage (bytes "λ-lifting"))) ∧
      ∃ t : Store, events.reverse.foldlM Store.record {} = .ok t ∧ t.sumless = s.sumless := by
  intro events
  have hlabels : ∀ e ∈ events, e.WellLabelled := by
    simp only [events, List.forall_mem_cons]
    exact ⟨trivial, ⟨_, rfl⟩, ⟨_, rfl⟩, trivial, ⟨_, rfl⟩, trivial, ⟨_, rfl⟩, ⟨_, rfl⟩,
      List.forall_mem_nil _⟩
  obtain ⟨s, hs, hsum, hown, hperm⟩ := store_summarizes_events events hlabels
  have htokens := hsum.histogram_tells .tokens s.tokens rfl
  obtain ⟨h, hh⟩ :=
    Option.isSome_iff_exists.mp ((hsum.stage_iff (bytes "λ-lifting")).mpr ⟨2000, by decide⟩)
  have htimes := hsum.histogram_tells (.stage (bytes "λ-lifting")) h hh
  obtain ⟨t, ht, hsumless, -⟩ := hperm events.reverse events.reverse_perm
  refine ⟨hlabels, s, hs, ?_, ?_, ?_, ⟨h, hh, ?_, ?_⟩, hown (.stage (bytes "λ-lifting")), t,
    ht, hsumless⟩
  · rw [hsum.counter_eq]
    decide
  · rw [htokens.count_eq]
    decide
  · rw [htokens.map_snd_buckets]
    decide
  · rw [htimes.cumulative_eq]
    decide
  · rw [htimes.count_eq]
    decide

end Metrics

end BufferMachine
