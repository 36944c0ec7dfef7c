import BufferMachine.Metrics.Store
import Mathlib.Data.List.Sort

/-!
# Counting in series and in buckets

The two ways in which events are counted.  A family has one series for every label; it is kept in
the order of the labels, and an update changes the series of its label and no other
(`Family.get?_update`).  A histogram keeps its observations in buckets, one bucket for each
observation; shown cumulatively, an observation is counted at every bound that it does not exceed
(`Histogram.cumulative_observe`), so that in the end each bound tells how many observations do not
exceed it.  For buckets the order of the observations does not matter
(`Histogram.sumless_foldl_perm`), nor does it that they are made in double precision
(`Double.round_le_iff`).
-/

namespace BufferMachine

theorem Bytes.notAfter_iff {a b : Bytes} : a.notAfter b = true ↔ a ≤ b := by
  induction a generalizing b with
  | nil => simp [notAfter]
  | cons x a ih =>
    cases b with
    | nil => simp [notAfter]
    | cons y b =>
      rw [List.cons_le_cons_iff, notAfter]
      split
      · next heq => simp [heq, ih]
      · next hne => simp [hne]

/-! ### Families -/

namespace Metrics.Family

variable {α : Type}

/-- The series stand in the order of their labels, and no label occurs twice. -/
def Ordered (family : Family α) : Prop :=
  family.Pairwise fun a b => a.1 ≤ b.1 ∧ a.1 ≠ b.1

/-- What a counter shows; a series that has not come into being shows nothing counted. -/
def value (label : Bytes) (family : Family Nat) : Nat := (family.get? label).getD 0

/-- The sum over all series. -/
def total : Family Nat → Nat
  | [] => 0
  | (_, n) :: rest => n + total rest

theorem get?_cons (l label : Bytes) (a : α) (rest : Family α) :
    get? l ((label, a) :: rest) = if l = label then some a else get? l rest := by
  simp only [get?, List.lookup_cons]
  split <;> simp_all

theorem get?_eq_none {label : Bytes} {family : Family α} (h : ∀ s ∈ family, s.1 ≠ label) :
    get? label family = none := by
  induction family with
  | nil => rfl
  | cons s rest ih =>
    rw [List.forall_mem_cons] at h
    rw [show s :: rest = (s.1, s.2) :: rest from rfl, get?_cons, if_neg (Ne.symm h.1), ih h.2]

/-- A label that belongs before the first series of a family has no series in it. -/
theorem ne_of_le {label l : Bytes} {a : α} {rest : Family α} (h : Ordered ((l, a) :: rest))
    (hne : l ≠ label) (hlabel : label ≤ l) : ∀ s ∈ (l, a) :: rest, s.1 ≠ label := by
  intro s hs
  rcases List.mem_cons.mp hs with rfl | hs
  · exact hne
  · rintro rfl
    have hafter := ((List.pairwise_cons.mp h).1 s hs).1
    exact hne (List.le_antisymm hafter hlabel)

/-- **An update changes one series.** -/
theorem get?_update (start : α) (change : α → α) (label : Bytes) {family : Family α}
    (h : Ordered family) (l : Bytes) :
    get? l (update start change label family) =
      if l = label then some (change ((get? label family).getD start)) else get? l family := by
  induction family with
  | nil => simp [update, get?_cons]; rfl
  | cons s rest ih =>
    obtain ⟨first, a⟩ := s
    unfold update
    by_cases hfirst : first = label
    · subst hfirst
      simp only [if_true, get?_cons]
      split
      · rfl
      · rfl
    · by_cases hbefore : label.notAfter first = true
      · have hnone := get?_eq_none (ne_of_le h hfirst (Bytes.notAfter_iff.mp hbefore))
        rw [if_neg hfirst, if_pos hbefore, get?_cons, hnone]
        rfl
      · have hrest := ih (List.pairwise_cons.mp h).2
        rw [if_neg hfirst, if_neg hbefore, get?_cons, get?_cons, get?_cons,
          if_neg (Ne.symm hfirst), hrest]
        by_cases hl : l = first
        · rw [if_pos hl, if_pos hl, if_neg (hl ▸ hfirst)]
        · rw [if_neg hl, if_neg hl]

theorem fst_of_mem_update {start : α} {change : α → α} {label : Bytes} {family : Family α}
    {s : Bytes × α} (h : s ∈ update start change label family) :
    s.1 = label ∨ ∃ s' ∈ family, s.1 = s'.1 := by
  induction family with
  | nil =>
    rw [update, List.mem_singleton] at h
    exact Or.inl (congrArg Prod.fst h)
  | cons first rest ih =>
    unfold update at h
    split at h
    · rcases List.mem_cons.mp h with rfl | hs
      · exact Or.inr ⟨first, List.mem_cons_self, rfl⟩
      · exact Or.inr ⟨s, List.mem_cons_of_mem first hs, rfl⟩
    · split at h
      · rcases List.mem_cons.mp h with rfl | hs
        · exact Or.inl rfl
        · exact Or.inr ⟨s, hs, rfl⟩
      · rcases List.mem_cons.mp h with rfl | hs
        · exact Or.inr ⟨first, List.mem_cons_self, rfl⟩
        · rcases ih hs with hlabel | ⟨s', hs', heq⟩
          · exact Or.inl hlabel
          · exact Or.inr ⟨s', List.mem_cons_of_mem first hs', heq⟩

theorem Ordered.update {family : Family α} (h : Ordered family) (start : α) (change : α → α)
    (label : Bytes) :
    Ordered (update start change label family) := by
  induction family with
  | nil => exact List.pairwise_singleton _ _
  | cons s rest ih =>
    obtain ⟨first, a⟩ := s
    have hpairs := List.pairwise_cons.mp h
    unfold Family.update
    split
    · exact List.pairwise_cons.mpr hpairs
    · next hfirst =>
      split
      · next hbefore =>
        rw [Bytes.notAfter_iff] at hbefore
        refine List.pairwise_cons.mpr ⟨?_, h⟩
        intro s hs
        refine ⟨?_, (ne_of_le h hfirst hbefore s hs).symm⟩
        rcases List.mem_cons.mp hs with rfl | hs
        · exact hbefore
        · exact List.le_trans hbefore (hpairs.1 s hs).1
      · next hafter =>
        rw [Bytes.notAfter_iff] at hafter
        refine List.pairwise_cons.mpr ⟨?_, ih hpairs.2⟩
        intro s hs
        rcases fst_of_mem_update hs with heq | ⟨s', hs', heq⟩
        · rw [heq]
          exact ⟨(List.le_total label first).resolve_left hafter, hfirst⟩
        · rw [heq]
          exact hpairs.1 s' hs'

/-- One more event is one more in the sum, whatever its label. -/
theorem total_update (label : Bytes) (family : Family Nat) :
    total (update 0 (· + 1) label family) = total family + 1 := by
  induction family with
  | nil => rfl
  | cons s rest ih =>
    obtain ⟨first, n⟩ := s
    unfold update
    split
    · simp only [total]
      omega
    · split
      · simp only [total]
        omega
      · simp only [total, ih]
        omega

theorem value_update {family : Family Nat} (h : Ordered family) (label l : Bytes) :
    value l (update 0 (· + 1) label family) = value l family + if l = label then 1 else 0 := by
  rw [value, get?_update 0 _ label h]
  split
  · next heq =>
    subst heq
    rfl
  · rfl

theorem get?_eq_some_iff {family : Family α} (h : Ordered family) (label : Bytes) (a : α) :
    get? label family = some a ↔ (label, a) ∈ family := by
  induction family with
  | nil => simp [get?]
  | cons s rest ih =>
    obtain ⟨first, b⟩ := s
    have hpairs := List.pairwise_cons.mp h
    rw [get?_cons, List.mem_cons, Prod.mk.injEq]
    by_cases hlabel : label = first
    · subst hlabel
      have hrest : (label, a) ∉ rest := fun hmem => (hpairs.1 (label, a) hmem).2 rfl
      simp [hrest, eq_comm]
    · simp [hlabel, ih hpairs.2]

/-- **A family is known from its series.** -/
theorem Ordered.ext {family other : Family α} (h : Ordered family) (hother : Ordered other)
    (hget : ∀ label, get? label family = get? label other) : family = other := by
  have hmem : ∀ s, s ∈ family ↔ s ∈ other := by
    intro s
    rw [← get?_eq_some_iff h s.1 s.2, hget, get?_eq_some_iff hother]
  -- the order of the labels is strict, so the members of an ordered family leave no choice of their
  -- order
  have hirrefl : Std.Irrefl fun a b : Bytes × α => a.1 ≤ b.1 ∧ a.1 ≠ b.1 := ⟨fun _ hlt => hlt.2 rfl⟩
  have hantisymm : Std.Antisymm fun a b : Bytes × α => a.1 ≤ b.1 ∧ a.1 ≠ b.1 :=
    ⟨fun _ _ hab hba => absurd (List.le_antisymm hab.1 hba.1) hab.2⟩
  exact List.Pairwise.eq_of_mem_iff h hother hmem

theorem ne_nil_iff {family : Family α} : family ≠ [] ↔ ∃ label, (get? label family).isSome := by
  constructor
  · intro h
    obtain ⟨⟨label, a⟩, rest, rfl⟩ := List.exists_cons_of_ne_nil h
    exact ⟨label, by rw [get?_cons, if_pos rfl]; rfl⟩
  · rintro ⟨label, h⟩ rfl
    cases h

/-! A single series, and what its events make of it. -/

/-- The family with one series at most. -/
def single (label : Bytes) : Option α → Family α
  | none => []
  | some a => [(label, a)]

@[simp] theorem get?_single (label : Bytes) (a : Option α) : get? label (single label a) = a := by
  cases a with
  | none => rfl
  | some a => rw [single, get?_cons, if_pos rfl]

theorem update_single (start : α) (change : α → α) (label : Bytes) (a : Option α) :
    update start change label (single label a) = single label (some (change (a.getD start))) := by
  cases a with
  | none => rfl
  | some a => rw [single, update, if_pos rfl]; rfl

/-- The family with the series of one label alone. -/
def only (label : Bytes) (family : Family α) : Family α := single label (get? label family)

@[simp] theorem get?_only (label : Bytes) (family : Family α) :
    get? label (only label family) = get? label family :=
  get?_single label _

theorem only_update_self (start : α) (change : α → α) (label : Bytes) {family : Family α}
    (h : Ordered family) :
    only label (update start change label family) =
      update start change label (only label family) := by
  rw [only, only, get?_update start change label h, if_pos rfl, update_single]

theorem only_update_of_ne (start : α) (change : α → α) {label l : Bytes} {family : Family α}
    (h : Ordered family) (hl : l ≠ label) :
    only l (update start change label family) = only l family := by
  rw [only, only, get?_update start change label h, if_neg hl]

/-- The values of all series changed alike. -/
def mapValues {β : Type} (f : α → β) (family : Family α) : Family β :=
  family.map fun s => (s.1, f s.2)

theorem get?_mapValues {β : Type} (f : α → β) (label : Bytes) (family : Family α) :
    get? label (mapValues f family) = (get? label family).map f := by
  induction family with
  | nil => rfl
  | cons s rest ih =>
    obtain ⟨first, a⟩ := s
    change get? label ((first, f a) :: mapValues f rest) = _
    rw [get?_cons, get?_cons, ih]
    split <;> rfl

theorem mapValues_single {β : Type} (f : α → β) (label : Bytes) (a : Option α) :
    mapValues f (single label a) = single label (a.map f) := by cases a <;> rfl

theorem Ordered.mapValues {β : Type} {family : Family α} (h : Ordered family) (f : α → β) :
    Ordered (mapValues f family) := List.pairwise_map.mpr h

/-- What events with the given amounts make of a series, which comes into being with the first of
them. -/
def replay (start : α) (step : α → Int → α) (ns : List Int) : Option α :=
  if ns = [] then none else some (ns.foldl step start)

theorem isSome_replay (start : α) (step : α → Int → α) (ns : List Int) :
    (replay start step ns).isSome ↔ ns ≠ [] := by
  unfold replay
  split <;> simp_all

theorem getD_replay (start : α) (step : α → Int → α) (ns : List Int) :
    (replay start step ns).getD start = ns.foldl step start := by
  unfold replay
  split
  · next hns => rw [hns]; rfl
  · rfl

theorem replay_concat (start : α) (step : α → Int → α) (ns : List Int) (n : Int) :
    replay start step (ns ++ [n]) = some (step ((replay start step ns).getD start) n) := by
  rw [getD_replay, replay, if_neg (List.append_ne_nil_of_right_ne_nil ns (List.cons_ne_nil n [])),
    List.foldl_concat]

theorem map_replay_perm {β : Type} (f : α → β) {start : α} {step : α → Int → α} {ns ms : List Int}
    (h : ns.Perm ms) (hf : f (ns.foldl step start) = f (ms.foldl step start)) :
    (replay start step ns).map f = (replay start step ms).map f := by
  unfold replay
  by_cases hns : ns = []
  · subst hns
    obtain rfl := h.nil_eq
    rfl
  · have hms : ms ≠ [] := fun hms => hns (hms ▸ h).eq_nil
    rw [if_neg hns, if_neg hms, Option.map_some, Option.map_some, hf]

end Metrics.Family

/-! ### Double precision -/

namespace Double

/-- A number that is too large to be exact stays so large when it is rounded. -/
theorem le_roundNat {n : Nat} (h : Nat.pow 2 precision ≤ n) : Nat.pow 2 precision ≤ roundNat n := by
  have hn : n ≠ 0 := Nat.ne_of_gt (Nat.lt_of_lt_of_le (by decide) h)
  have hlog : precision ≤ n.log2 := (Nat.le_log2 hn).mpr h
  -- the quotient has all the significant bits, the first of which is set
  have hsplit : 52 + (n.log2 + 1 - precision) = n.log2 := by
    simp only [precision] at hlog ⊢
    omega
  have hunit : Nat.pow 2 52 * Nat.pow 2 (n.log2 + 1 - precision) = Nat.pow 2 n.log2 :=
    (Nat.pow_add 2 52 _).symm.trans (congrArg (Nat.pow 2) hsplit)
  have hquotient : Nat.pow 2 52 ≤ n / Nat.pow 2 (n.log2 + 1 - precision) :=
    (Nat.le_div_iff_mul_le (Nat.pow_pos Nat.two_pos)).mpr (hunit.trans_le (Nat.log2_self_le hn))
  have hdown : Nat.pow 2 precision ≤ n / Nat.pow 2 (n.log2 + 1 - precision) *
    Nat.pow 2 (n.log2 + 1 - precision) :=
    calc Nat.pow 2 precision ≤ Nat.pow 2 n.log2 := Nat.pow_le_pow_right (by decide) hlog
      _ = Nat.pow 2 52 * Nat.pow 2 (n.log2 + 1 - precision) := hunit.symm
      _ ≤ _ := Nat.mul_le_mul_right _ hquotient
  unfold roundNat
  rw [if_neg (Nat.not_lt.mpr h)]
  dsimp only
  split
  · exact Nat.le_trans hdown (Nat.mul_le_mul_right _ (Nat.le_succ _))
  · exact hdown

/-- **Rounding moves no number across a bound** that is small enough to be exact itself. -/
theorem round_le_iff {bound : Nat} (hbound : bound < Nat.pow 2 precision) (n : Int) :
    round n ≤ bound ↔ n ≤ bound := by
  cases n with
  | negSucc n =>
    have hround : round (.negSucc n) ≤ 0 := Int.neg_nonpos_of_nonneg (Int.natCast_nonneg _)
    omega
  | ofNat n =>
    change (roundNat n : Int) ≤ bound ↔ (n : Int) ≤ bound
    by_cases hn : n < Nat.pow 2 precision
    · rw [roundNat, if_pos hn]
    · have hround := le_roundNat (Nat.not_lt.mp hn)
      omega

end Double

/-! ### Histograms -/

namespace Histogram

theorem runningTotals_succ (total : Nat) (ts : List Nat) :
    runningTotals (total + 1) ts = (runningTotals total ts).map (· + 1) := by
  induction ts generalizing total with
  | nil => rfl
  | cons t ts ih =>
    simp only [runningTotals, List.map_cons]
    rw [Nat.add_right_comm, ih]

/-- One more in the bucket of an observation is one more at every bound from there on, and these are
just the bounds that the observation does not exceed, for the bounds increase. -/
theorem runningTotals_tally (n : Int) {bounds ts : List Nat} (hbounds : bounds.Pairwise (· ≤ ·))
    (total : Nat) :
    bounds.zip (runningTotals total (tally n bounds ts)) =
      (bounds.zip (runningTotals total ts)).map fun p =>
        (p.1, p.2 + if n ≤ (p.1 : Int) then 1 else 0) := by
  induction bounds generalizing ts total with
  | nil => simp
  | cons bound bounds ih =>
    rw [List.pairwise_cons] at hbounds
    cases ts with
    | nil => rfl
    | cons t ts =>
      by_cases hn : n ≤ bound
      · have hlater : ∀ p ∈ bounds.zip (runningTotals (total + t) ts), n ≤ (p.1 : Int) := by
          intro p hp
          have hle := hbounds.1 p.1 (List.of_mem_zip hp).1
          omega
        rw [tally, if_pos hn, runningTotals, runningTotals, List.zip_cons_cons, List.zip_cons_cons,
          List.map_cons, if_pos hn, ← Nat.add_assoc, runningTotals_succ, List.zip_map_right]
        congr 1
        apply List.map_congr_left
        intro p hp
        simp [Prod.map, hlater p hp]
      · rw [tally, if_neg hn, runningTotals, runningTotals, List.zip_cons_cons, List.zip_cons_cons,
          List.map_cons, if_neg hn, ih hbounds.2]
        rfl

/-- **An observation is counted at every bound that it does not exceed.** -/
theorem cumulative_observe (h : Histogram) (hbounds : h.bounds.Pairwise (· ≤ ·)) (n : Int) :
    (h.observe n).cumulative = h.cumulative.map fun p =>
      (p.1, p.2 + if n ≤ (p.1 : Int) then 1 else 0) :=
  runningTotals_tally n hbounds 0

/-- The histogram shows just the given observations, in any order. -/
structure Shows (h : Histogram) (bounds : List Nat) (observations : List Int) : Prop where
  bounds_eq : h.bounds = bounds
  count_eq : h.count = observations.length
  cumulative_eq : h.cumulative = bounds.map fun bound : Nat =>
    (bound, observations.countP fun n => n ≤ (bound : Int))

theorem shows_empty (bounds : List Nat) : Shows (empty bounds) bounds [] := by
  refine ⟨rfl, rfl, ?_⟩
  change bounds.zip (runningTotals 0 (bounds.map fun _ => 0)) = bounds.map fun bound => (bound, 0)
  induction bounds with
  | nil => rfl
  | cons bound bounds ih =>
    simp only [List.map_cons, runningTotals, Nat.add_zero, List.zip_cons_cons, ih]

theorem Shows.observe {h : Histogram} {bounds : List Nat} {observations : List Int}
    (hs : Shows h bounds observations) (hbounds : bounds.Pairwise (· ≤ ·)) (n : Int) :
    Shows (h.observe n) bounds (observations ++ [n]) := by
  refine ⟨hs.bounds_eq, ?_, ?_⟩
  · simp [Histogram.observe, hs.count_eq]
  · rw [cumulative_observe h (hs.bounds_eq ▸ hbounds), hs.cumulative_eq, List.map_map]
    apply List.map_congr_left
    intro bound _
    simp [List.countP_append, List.countP_singleton]

theorem Shows.observeAll {h : Histogram} {bounds : List Nat} {observations : List Int}
    (hs : Shows h bounds observations) (hbounds : bounds.Pairwise (· ≤ ·)) (ns : List Int) :
    Shows (ns.foldl Histogram.observe h) bounds (observations ++ ns) := by
  induction ns generalizing h observations with
  | nil => simpa using hs
  | cons n ns ih => simpa using ih (hs.observe hbounds n)

/-- It does not matter to buckets which of two observations comes first. -/
theorem tally_comm (m n : Int) (bounds ts : List Nat) :
    tally m bounds (tally n bounds ts) = tally n bounds (tally m bounds ts) := by
  induction bounds generalizing ts with
  | nil => rfl
  | cons bound bounds ih =>
    cases ts with
    | nil => rfl
    | cons t ts =>
      by_cases hm : m ≤ bound <;> by_cases hn : n ≤ bound <;> simp [tally, hm, hn, ih]

/-- The histogram with its sum left aside: in double precision a sum depends on the order of what is
added. -/
def sumless (h : Histogram) : Histogram := { h with sum := 0 }

theorem sumless_foldl_observe (h : Histogram) (ns : List Int) :
    (ns.foldl observe h).sumless = ns.foldl (fun h n => (h.observe n).sumless) h.sumless := by
  induction ns generalizing h with
  | nil => rfl
  | cons n ns ih => exact ih (h.observe n)

/-- **The order of observations shows in the sum at most.** -/
theorem sumless_foldl_perm (h : Histogram) {ns ms : List Int} (hperm : ns.Perm ms) :
    (ns.foldl observe h).sumless = (ms.foldl observe h).sumless := by
  rw [sumless_foldl_observe, sumless_foldl_observe]
  -- with the sum dropped after every step, two steps can change places
  apply hperm.foldl_eq'
  intro m _ n _ h
  simp only [observe, sumless, tally_comm]

end Histogram

end BufferMachine
