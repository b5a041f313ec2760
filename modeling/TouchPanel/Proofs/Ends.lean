import TouchPanel.Paint

/-!
# How computations end

A theorem about a painting computation rarely speaks of the events that it reports. `Paint.Ends`
leaves them out: `m.Ends s a t` says that `m`, run on the surface `s`, comes to an end without a
fault, with the value `a` and the surface `t`.

Every construct of the monad has one equivalence here, so that a computation can be taken apart
(what follows from its end) and put together (that it has one) by the same lemmas:

* `ends_bind`    — a sequence ends when both of its parts do.
* `ends_lift`    — a value or a fault taken over.
* `ends_forEach_append` — a repetition can be cut anywhere.
* `Ends.unique`  — there is one end at most.
-/

namespace TouchPanel.Paint

variable {σ α β : Type} {s t u : σ} {a b : α}

/-- Run on `s`, the computation ends without a fault, with the value `a` and the surface `t`. -/
def Ends (m : Paint σ α) (s : σ) (a : α) (t : σ) : Prop :=
  ∃ events, m.run s = .done a t events

theorem Ends.of_run {m : Paint σ α} {events : List Event} (h : m.run s = .done a t events) :
    m.Ends s a t :=
  ⟨events, h⟩

theorem exists_run_of_value? {m : Paint σ α} (h : (m.run s).value? = some a) :
    ∃ t events, m.run s = .done a t events := by
  cases hRun : m.run s with
  | done b t events =>
    rw [hRun] at h
    cases h
    exact ⟨t, events, rfl⟩
  | faulted fault t events =>
    rw [hRun] at h
    cases h

/-- What the value of a run looks like is known of an end. -/
theorem exists_ends_of_value? {m : Paint σ α} {look : α → β} {b : β}
    (h : (m.run s).value?.map look = some b) : ∃ a t, m.Ends s a t ∧ look a = b := by
  obtain ⟨a, hValue, hLook⟩ := Option.map_eq_some_iff.mp h
  obtain ⟨t, _, hRun⟩ := exists_run_of_value? hValue
  exact ⟨a, t, .of_run hRun, hLook⟩

/-- A computation has one end at most. -/
theorem Ends.unique {m : Paint σ α} (h₁ : m.Ends s a t) (h₂ : m.Ends s b u) :
    b = a ∧ u = t := by
  obtain ⟨_, h₁⟩ := h₁
  obtain ⟨_, h₂⟩ := h₂
  rw [h₁] at h₂
  injection h₂ with ha ht
  exact ⟨ha.symm, ht.symm⟩

-- ---------------------------------------------------------------------------
-- Primitive computations
-- ---------------------------------------------------------------------------

/-- A run that is known to be done has this one end. -/
theorem ends_iff_of_run {m : Paint σ α} {events : List Event}
    (h : m.run s = .done a t events) : m.Ends s b u ↔ b = a ∧ u = t := by
  constructor
  · intro hEnds
    exact (Ends.of_run h).unique hEnds
  · intro hSame
    obtain ⟨rfl, rfl⟩ := hSame
    exact Ends.of_run h

/-- A run that faulted has no end. -/
theorem not_ends_of_run {m : Paint σ α} {fault : Fault} {events : List Event}
    (h : m.run s = .faulted fault u events) : ¬m.Ends s a t := by
  intro hEnds
  obtain ⟨_, hDone⟩ := hEnds
  rw [h] at hDone
  cases hDone

theorem ends_pure : (pure a : Paint σ α).Ends s b t ↔ b = a ∧ t = s :=
  ends_iff_of_run (run_pure a s)

theorem ends_report {events : List Event} {r : Unit} :
    (report events : Paint σ Unit).Ends s r t ↔ t = s := by
  rw [ends_iff_of_run (run_report events s)]
  simp

theorem ends_read {look : σ → α} : (read look).Ends s a t ↔ a = look s ∧ t = s :=
  ends_iff_of_run (run_read look s)

theorem ends_update {change : σ → σ} {r : Unit} :
    (update change).Ends s r t ↔ t = change s := by
  rw [ends_iff_of_run (run_update change s)]
  simp

theorem ends_lift {x : Except Fault α} :
    (lift x : Paint σ α).Ends s a t ↔ x = .ok a ∧ t = s := by
  cases x with
  | ok v =>
    rw [ends_iff_of_run (run_lift_ok v s), Except.ok.injEq, eq_comm]
  | error fault =>
    exact iff_of_false (not_ends_of_run (run_lift_error fault s)) fun ⟨h, _⟩ => nomatch h

-- ---------------------------------------------------------------------------
-- Sequences and repetitions
-- ---------------------------------------------------------------------------

theorem ends_bind {m : Paint σ α} {f : α → Paint σ β} {c : β} :
    (m >>= f).Ends s c u ↔ ∃ a t, m.Ends s a t ∧ (f a).Ends t c u := by
  constructor
  · intro hEnds
    obtain ⟨_, h⟩ := hEnds
    obtain ⟨a, t, _, _, hm, hf, -⟩ := run_bind_eq_done_iff.mp h
    exact ⟨a, t, Ends.of_run hm, Ends.of_run hf⟩
  · intro hParts
    obtain ⟨a, t, ⟨earlier, hm⟩, ⟨later, hf⟩⟩ := hParts
    exact ⟨earlier ++ later, run_bind_eq_done_iff.mpr ⟨a, t, _, _, hm, hf, rfl⟩⟩

theorem ends_map {m : Paint σ α} {f : α → β} {c : β} :
    (f <$> m).Ends s c t ↔ ∃ a, m.Ends s a t ∧ c = f a := by
  rw [← bind_pure_comp, ends_bind]
  simp only [ends_pure]
  constructor
  · intro hEnds
    obtain ⟨a, _, hm, rfl, rfl⟩ := hEnds
    exact ⟨a, hm, rfl⟩
  · intro hParts
    obtain ⟨a, hm, rfl⟩ := hParts
    exact ⟨a, t, hm, rfl, rfl⟩

theorem ends_discard {m : Paint σ α} {r : Unit} :
    (discard m).Ends s r t ↔ ∃ a, m.Ends s a t := by
  rw [discard, map_const, Function.comp, ends_map]
  simp

theorem ends_forEach_nil {f : α → Paint σ Unit} {r : Unit} :
    (forEach [] f).Ends s r t ↔ t = s := by
  rw [forEach_nil, ends_pure]
  simp

theorem ends_forEach_cons {f : α → Paint σ Unit} {rest : List α} {r : Unit} :
    (forEach (a :: rest) f).Ends s r u ↔
      ∃ t, (f a).Ends s () t ∧ (forEach rest f).Ends t r u := by
  rw [forEach_cons, ends_bind]
  constructor
  · intro hEnds
    obtain ⟨_, t, hHead, hRest⟩ := hEnds
    exact ⟨t, hHead, hRest⟩
  · intro hParts
    obtain ⟨t, hHead, hRest⟩ := hParts
    exact ⟨(), t, hHead, hRest⟩

/-- A repetition that ends does so for each of its items. -/
theorem exists_ends_of_ends_forEach {f : α → Paint σ Unit} {items : List α} {r : Unit}
    (h : (forEach items f).Ends s r u) (ha : a ∈ items) : ∃ v w, (f a).Ends v () w := by
  induction items generalizing s with
  | nil => exact absurd ha List.not_mem_nil
  | cons first rest ih =>
    obtain ⟨t, hFirst, hRest⟩ := ends_forEach_cons.mp h
    rcases List.mem_cons.mp ha with rfl | hLater
    · exact ⟨s, t, hFirst⟩
    · exact ih hRest hLater

/-- A repetition can be cut anywhere. -/
theorem ends_forEach_append {f : α → Paint σ Unit} {first second : List α} {r : Unit} :
    (forEach (first ++ second) f).Ends s r u ↔
      ∃ t, (forEach first f).Ends s () t ∧ (forEach second f).Ends t r u := by
  induction first generalizing s with
  | nil =>
    simp only [List.nil_append, ends_forEach_nil]
    constructor
    · intro hSecond
      exact ⟨s, rfl, hSecond⟩
    · intro hEnds
      obtain ⟨_, rfl, hSecond⟩ := hEnds
      exact hSecond
  | cons a rest ih =>
    simp only [List.cons_append, ends_forEach_cons, ih]
    constructor
    · intro hEnds
      obtain ⟨t, hHead, v, hRest, hSecond⟩ := hEnds
      exact ⟨v, ⟨t, hHead, hRest⟩, hSecond⟩
    · intro hParts
      obtain ⟨v, ⟨t, hHead, hRest⟩, hSecond⟩ := hParts
      exact ⟨t, hHead, v, hRest, hSecond⟩

end TouchPanel.Paint
