import BufferMachine.Text.Bytes

/-!
# Taking outcomes apart

A stage either gives a value or refuses its input.  These lemmas say what follows from the outcome
of a composed stage about the outcomes of its parts, so that later proofs need not unfold the
composition.
-/

namespace BufferMachine.Outcome

variable {ε α β γ : Type}

theorem map_eq_ok {result : Except ε α} {f : α → β} {y : β} :
    result.map f = .ok y ↔ ∃ x, result = .ok x ∧ f x = y := by
  cases result with
  | error e => simp [Except.map]
  | ok x => simp [Except.map]

theorem map_map (result : Except ε α) (f : α → β) (g : β → γ) :
    (result.map f).map g = result.map fun x => g (f x) := by
  cases result with
  | error e => rfl
  | ok x => rfl

theorem map_eq_error {result : Except ε α} {f : α → β} {e : ε} :
    result.map f = .error e ↔ result = .error e := by
  cases result with
  | error e' => simp [Except.map]
  | ok x => simp [Except.map]

theorem ok_bind (x : α) (f : α → Except ε β) : ((.ok x : Except ε α) >>= f) = f x := rfl

theorem bind_eq_ok {result : Except ε α} {f : α → Except ε β} {y : β} :
    (result >>= f) = .ok y ↔ ∃ x, result = .ok x ∧ f x = .ok y := by
  cases result with
  | error e => simp [bind, Except.bind]
  | ok x => simp [bind, Except.bind]

theorem bind_eq_error {result : Except ε α} {f : α → Except ε β} {e : ε} :
    (result >>= f) = .error e ↔ result = .error e ∨ ∃ x, result = .ok x ∧ f x = .error e := by
  cases result with
  | error e' => simp [bind, Except.bind]
  | ok x => simp [bind, Except.bind]

theorem bind_cases {result : Except ε α} {f : α → Except ε β} {outcome : Except ε β}
    (h : (result >>= f) = outcome) :
    (∃ e, result = .error e ∧ outcome = .error e) ∨ ∃ x, result = .ok x ∧ f x = outcome := by
  cases result with
  | error e => exact Or.inl ⟨e, rfl, h.symm⟩
  | ok x => exact Or.inr ⟨x, rfl, h⟩

theorem mapError_bind (result : Except ε α) (f : α → Except ε β) (g : ε → ε) :
    (result >>= f).mapError g = result.mapError g >>= fun x => (f x).mapError g := by
  cases result with
  | error e => rfl
  | ok x => rfl

/-- A step that goes along with a change of its input does so along a whole list. -/
theorem mapM_mapError {f : α → Except ε β} {g : α → α} {h : ε → ε}
    (hf : ∀ x, f (g x) = (f x).mapError h) (xs : List α) :
    (xs.map g).mapM f = (xs.mapM f).mapError h := by
  induction xs with
  | nil => rfl
  | cons x xs ih =>
    rw [List.map_cons, List.mapM_cons, List.mapM_cons, mapError_bind, hf, ih]
    simp only [mapError_bind]
    rfl

/-- A step that fails along a list fails at the first element that it fails at. -/
theorem exists_of_mapM_eq_error {f : α → Except ε β} {xs : List α} {e : ε}
    (h : xs.mapM f = .error e) :
    ∃ done x rest, xs = done ++ x :: rest ∧ (∀ y ∈ done, ∃ z, f y = .ok z) ∧ f x = .error e := by
  induction xs with
  | nil => cases h
  | cons x xs ih =>
    rw [List.mapM_cons, bind_eq_error] at h
    rcases h with hx | ⟨y, hy, hrest⟩
    · exact ⟨[], x, xs, rfl, by simp, hx⟩
    · rw [bind_eq_error] at hrest
      rcases hrest with hxs | ⟨ys, -, hpure⟩
      · obtain ⟨done, x', rest, rfl, hdone, hx'⟩ := ih hxs
        refine ⟨x :: done, x', rest, rfl, ?_, hx'⟩
        intro z hz
        rcases List.mem_cons.mp hz with rfl | hz
        · exact ⟨y, hy⟩
        · exact hdone z hz
      · cases hpure

theorem mapM_eq_error_of_first {f : α → Except ε β} {done rest : List α} {x : α} {e : ε}
    (hdone : ∀ y ∈ done, ∃ z, f y = .ok z) (hx : f x = .error e) :
    (done ++ x :: rest).mapM f = .error e := by
  induction done with
  | nil =>
    rw [List.nil_append, List.mapM_cons, hx]
    rfl
  | cons y done ih =>
    rw [List.forall_mem_cons] at hdone
    obtain ⟨⟨z, hz⟩, hdone⟩ := hdone
    rw [List.cons_append, List.mapM_cons, hz, ok_bind, ih hdone]
    rfl

theorem mapM_eq_ok_of_forall {f : α → Except ε β} {g : α → β} {xs : List α}
    (h : ∀ x ∈ xs, f x = .ok (g x)) :
    xs.mapM f = .ok (xs.map g) := by
  induction xs with
  | nil => rfl
  | cons x xs ih =>
    rw [List.forall_mem_cons] at h
    rw [List.mapM_cons, h.1, ok_bind, ih h.2]
    rfl

/-! ### Steps with a state -/

section

variable {σ : Type}

theorem run_bind_ok {m : ExceptT ε (StateM σ) α} {f : α → ExceptT ε (StateM σ) β} {s s' : σ} {x : α}
    (h : m.run.run s = (.ok x, s')) : (m >>= f).run.run s = (f x).run.run s' := by
  simp only [ExceptT.run_bind, StateT.run_bind, h]
  rfl

theorem run_bind_error {m : ExceptT ε (StateM σ) α} {f : α → ExceptT ε (StateM σ) β}
    {s s' : σ} {e : ε} (h : m.run.run s = (.error e, s')) :
    (m >>= f).run.run s = (.error e, s') := by
  simp only [ExceptT.run_bind, StateT.run_bind, h]
  rfl

theorem run_get_bind (f : σ → ExceptT ε (StateM σ) α) (s : σ) :
    (get >>= f : ExceptT ε (StateM σ) α).run.run s = (f s).run.run s := rfl

end

end BufferMachine.Outcome
