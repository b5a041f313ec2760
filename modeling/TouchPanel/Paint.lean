import TouchPanel.Event

/-!
# Painting

A value of `Paint σ α` works on a surface of type `σ`, reports events, and ends with a value of
type `α` or with a fault. The surface is kept in both cases: what was painted before a fault
stays painted. Events are only written, so nothing that is painted can depend on the events
reported before.
-/

namespace TouchPanel

/-- The end of a computation on a surface: the surface and the events so far, and a value or a
fault. -/
inductive Painted (σ α : Type) where
  | done (value : α) (surface : σ) (events : List Event)
  | faulted (fault : Fault) (surface : σ) (events : List Event)

namespace Painted

variable {σ α : Type}

/-- The surface at the end. -/
def surface : Painted σ α → σ
  | done _ surface _ => surface
  | faulted _ surface _ => surface

/-- The events reported on the way, the oldest first. -/
def events : Painted σ α → List Event
  | done _ _ events => events
  | faulted _ _ events => events

/-- The value, unless there was a fault. -/
def value? : Painted σ α → Option α
  | done value _ _ => some value
  | faulted _ _ _ => none

/-- The same end, with events reported before. -/
def following (earlier : List Event) : Painted σ α → Painted σ α
  | done value surface events => .done value surface (earlier ++ events)
  | faulted fault surface events => .faulted fault surface (earlier ++ events)

@[simp] theorem following_nil (o : Painted σ α) : o.following [] = o := by
  cases o <;> rfl

@[simp] theorem following_following (o : Painted σ α) (first second : List Event) :
    (o.following second).following first = o.following (first ++ second) := by
  cases o <;> simp [following]

@[simp] theorem surface_following (o : Painted σ α) (earlier : List Event) :
    (o.following earlier).surface = o.surface := by
  cases o <;> rfl

theorem following_eq_done_iff {o : Painted σ α} {earlier events : List Event} {a : α} {s : σ} :
    o.following earlier = .done a s events ↔
      ∃ later, o = .done a s later ∧ events = earlier ++ later := by
  cases o with
  | done b t later =>
    constructor
    · rintro ⟨⟩
      exact ⟨later, rfl, rfl⟩
    · rintro ⟨_, ⟨⟩, rfl⟩
      rfl
  | faulted fault t later =>
    constructor
    · rintro ⟨⟩
    · rintro ⟨_, ⟨⟩, _⟩

end Painted

/-- A computation that paints on a surface. -/
def Paint (σ α : Type) : Type := σ → Painted σ α

namespace Paint

variable {σ τ α β : Type}

/-- Runs a computation on a surface. -/
def run (m : Paint σ α) (surface : σ) : Painted σ α := m surface

@[ext] theorem ext {m n : Paint σ α} (h : ∀ s, m.run s = n.run s) : m = n := funext h

instance : Monad (Paint σ) where
  pure a := fun s => .done a s []
  bind m f := fun s =>
    match m s with
    | .done a s events => (f a s).following events
    | .faulted fault s events => .faulted fault s events

/-! ## Primitive computations -/

/-- Reports events, the first first. -/
def report (events : List Event) : Paint σ Unit := fun s => .done () s events

/-- Stops with a fault. -/
def fault (fault : Fault) : Paint σ α := fun s => .faulted fault s []

/-- Takes over a value or a fault. -/
def lift : Except Fault α → Paint σ α
  | .ok a => pure a
  | .error fault => .fault fault

instance : MonadLift (Except Fault) (Paint σ) := ⟨lift⟩

/-- Looks at the surface. -/
def read (look : σ → α) : Paint σ α := fun s => .done (look s) s []

/-- Changes the surface. -/
def update (change : σ → σ) : Paint σ Unit := fun s => .done () (change s) []

/-! ## Running them -/

@[simp] theorem run_pure (a : α) (s : σ) : (pure a : Paint σ α).run s = .done a s [] := rfl

@[simp] theorem run_report (events : List Event) (s : σ) :
    (report events : Paint σ Unit).run s = .done () s events := rfl

@[simp] theorem run_lift_ok (a : α) (s : σ) :
    (lift (.ok a) : Paint σ α).run s = .done a s [] := rfl

@[simp] theorem run_lift_error (fault : Fault) (s : σ) :
    (lift (.error fault) : Paint σ α).run s = .faulted fault s [] := rfl

/-- A value or a fault met between painting steps is taken over by `lift`. -/
@[simp] theorem liftM_eq_lift (x : Except Fault α) : (liftM x : Paint σ α) = lift x := rfl

@[simp] theorem run_read (look : σ → α) (s : σ) :
    (read look).run s = .done (look s) s [] := rfl

@[simp] theorem run_update (change : σ → σ) (s : σ) :
    (update change).run s = .done () (change s) [] := rfl

theorem run_bind_of_done {m : Paint σ α} {f : α → Paint σ β} {s t : σ} {a : α}
    {events : List Event} (h : m.run s = .done a t events) :
    (m >>= f).run s = ((f a).run t).following events := by
  simp only [bind, run] at h ⊢
  rw [h]

theorem run_bind_of_faulted {m : Paint σ α} {f : α → Paint σ β} {s t : σ} {fault : Fault}
    {events : List Event} (h : m.run s = .faulted fault t events) :
    (m >>= f).run s = .faulted fault t events := by
  simp only [bind, run] at h ⊢
  rw [h]

/-- A sequence is done exactly when both of its parts are. -/
theorem run_bind_eq_done_iff {m : Paint σ α} {f : α → Paint σ β} {s u : σ} {b : β}
    {events : List Event} :
    (m >>= f).run s = .done b u events ↔
      ∃ a t earlier later, m.run s = .done a t earlier ∧ (f a).run t = .done b u later ∧
        events = earlier ++ later := by
  cases h : m.run s with
  | done a t earlier =>
    rw [run_bind_of_done h, Painted.following_eq_done_iff]
    constructor
    · rintro ⟨later, hf, rfl⟩
      exact ⟨a, t, earlier, later, rfl, hf, rfl⟩
    · rintro ⟨_, _, _, later, ⟨⟩, hf, rfl⟩
      exact ⟨later, hf, rfl⟩
  | faulted fault t earlier =>
    rw [run_bind_of_faulted h]
    constructor
    · rintro ⟨⟩
    · rintro ⟨_, _, _, _, ⟨⟩, _, _⟩

instance : LawfulMonad (Paint σ) := LawfulMonad.mk' (Paint σ)
  (by
    intro α m
    ext s
    cases h : m.run s with
    | done a t events =>
      exact (run_bind_of_done h).trans (by simp [Painted.following, run, Function.comp])
    | faulted fault t events => exact run_bind_of_faulted h)
  (by
    intro α β a f
    ext s
    rw [run_bind_of_done (run_pure a s), Painted.following_nil])
  (by
    intro α β γ m f g
    ext s
    cases h : m.run s with
    | faulted fault t events =>
      rw [run_bind_of_faulted h, run_bind_of_faulted (run_bind_of_faulted h)]
    | done a t events =>
      rw [run_bind_of_done h]
      cases hf : (f a).run t with
      | faulted fault u later =>
        rw [run_bind_of_faulted hf]
        exact run_bind_of_faulted ((run_bind_of_done h).trans (by rw [hf]; rfl))
      | done b u later =>
        rw [run_bind_of_done hf, Painted.following_following]
        exact run_bind_of_done ((run_bind_of_done h).trans (by rw [hf]; rfl)))

/-! ## Repetition -/

/-- Runs a computation for every item of a list after the given events, in order, until one of
them faults. Carrying the events along keeps the stack flat. -/
def forEachAfter (f : α → Paint σ Unit) : List α → List Event → Paint σ Unit
  | [], events => fun s => .done () s events
  | a :: rest, events => fun s =>
      match f a s with
      | .done _ s later => forEachAfter f rest (events ++ later) s
      | .faulted fault s later => .faulted fault s (events ++ later)

/-- Runs a computation for every item of a list, in order, until one of them faults. -/
def forEach (items : List α) (f : α → Paint σ Unit) : Paint σ Unit :=
  forEachAfter f items []

@[simp] theorem forEach_nil (f : α → Paint σ Unit) : forEach [] f = pure () := rfl

theorem run_forEachAfter (f : α → Paint σ Unit) (items : List α) (events : List Event)
    (s : σ) :
    (forEachAfter f items events).run s = ((forEach items f).run s).following events := by
  induction items generalizing events s with
  | nil => simp [forEach, forEachAfter, run, Painted.following]
  | cons a rest ih =>
    simp only [run, forEach, forEachAfter] at ih ⊢
    cases f a s with
    | faulted fault t later => rfl
    | done u t later =>
      simp only [List.nil_append]
      rw [ih (events ++ later), ih later, Painted.following_following]

theorem forEach_cons (f : α → Paint σ Unit) (a : α) (rest : List α) :
    forEach (a :: rest) f = f a >>= fun _ => forEach rest f := by
  ext s
  cases h : (f a).run s with
  | faulted fault t later =>
    rw [run_bind_of_faulted h]
    simp only [run, forEach, forEachAfter] at h ⊢
    rw [h]
    rfl
  | done u t later =>
    rw [run_bind_of_done h, ← run_forEachAfter]
    simp only [run, forEach, forEachAfter] at h ⊢
    rw [h]
    rfl

end Paint

end TouchPanel
