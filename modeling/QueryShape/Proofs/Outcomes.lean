import Mathlib.Data.List.Forall2
import QueryShape.Query.Run

/-!
# Outcomes of runs

A computation that may fail succeeds when each of its parts does, and a run of
operations ends without failure when each operation does.  These are the inversion
lemmas that later proofs use instead of opening the binds.
-/

namespace QueryShape

variable {ε α β σ : Type}

theorem bind_eq_ok_iff {x : Except ε α} {f : α → Except ε β} {b : β} :
    x >>= f = .ok b ↔ ∃ a, x = .ok a ∧ f a = .ok b := by
  cases x with
  | error e => simp [bind, Except.bind]
  | ok a => simp [bind, Except.bind]

theorem map_eq_ok_iff {x : Except ε α} {f : α → β} {b : β} :
    x.map f = .ok b ↔ ∃ a, x = .ok a ∧ f a = b := by
  cases x with
  | error e => simp [Except.map]
  | ok a => simp [Except.map]

theorem map_eq_error_iff {x : Except ε α} {f : α → β} {e : ε} :
    x.map f = .error e ↔ x = .error e := by
  cases x with
  | error e' => simp [Except.map]
  | ok a => simp [Except.map]

theorem map_bind_eq {γ : Type} (x : Except ε α) (f : α → Except ε β) (g : β → γ) :
    (x >>= f).map g = x >>= fun a => (f a).map g := by
  cases x <;> rfl

theorem pure_eq_ok_iff {a b : α} :
    (pure a : Except ε α) = .ok b ↔ a = b := by
  simp [pure, Except.pure]

theorem functor_map_eq_ok_iff {x : Except ε α} {f : α → β} {b : β} :
    f <$> x = .ok b ↔ ∃ a, x = .ok a ∧ f a = b :=
  map_eq_ok_iff

theorem mapM_eq_ok_iff {read : α → Except ε β} {items : List α} {values : List β} :
    items.mapM read = .ok values ↔
      List.Forall₂ (fun item value => read item = .ok value) items values := by
  induction items generalizing values with
  | nil =>
      rw [List.mapM_nil, pure_eq_ok_iff, List.forall₂_nil_left_iff]
      exact eq_comm
  | cons item rest ih =>
      simp only [List.mapM_cons, bind_eq_ok_iff, pure_eq_ok_iff, ih, List.forall₂_cons_left_iff]
      constructor
      · rintro ⟨value, hvalue, later, hlater, rfl⟩
        exact ⟨value, later, hvalue, hlater, rfl⟩
      · rintro ⟨value, later, hvalue, hlater, rfl⟩
        exact ⟨value, hvalue, later, hlater, rfl⟩

theorem mapM_cons_eq_ok {read : α → Except ε β} {item : α} {items : List α} {value : β}
    {values : List β} (hitem : read item = .ok value) (hitems : items.mapM read = .ok values) :
    (item :: items).mapM read = .ok (value :: values) :=
  mapM_eq_ok_iff.mpr (.cons hitem (mapM_eq_ok_iff.mp hitems))

/-- Items that are read alike give the same list or the same first failure. -/
theorem mapM_congr_of_forall₂ {read : α → Except ε β} {items others : List α}
    (h : List.Forall₂ (fun item other => read item = read other) items others) :
    items.mapM read = others.mapM read := by
  induction h with
  | nil => rfl
  | cons hitem _ ih => rw [List.mapM_cons, List.mapM_cons, hitem, ih]

theorem forM_eq_ok_iff {check : α → Except ε Unit} {items : List α} {done : Unit} :
    items.forM check = .ok done ↔ ∀ item ∈ items, check item = .ok done := by
  rw [List.forM_eq_forM]
  induction items with
  | nil => simp [pure_eq_ok_iff]
  | cons item rest ih =>
      simp only [List.forM_cons, bind_eq_ok_iff, ih, List.forall_mem_cons]
      constructor
      · rintro ⟨_, hitem, hrest⟩
        exact ⟨hitem, hrest⟩
      · rintro ⟨hitem, hrest⟩
        exact ⟨done, hitem, hrest⟩

/-! ## Failures -/

/-- The error that a computation fails with. -/
def failure? {α : Type} : Except Error α → Option Error
  | .ok _ => none
  | .error e => some e

theorem failure?_ok (a : α) : failure? (.ok a) = none := rfl

theorem failure?_bind (x : Except Error α) (f : α → Except Error β) :
    failure? (x >>= f) =
      match x with
      | .ok a => failure? (f a)
      | .error e => some e := by
  cases x <;> rfl

theorem failure?_forM (check : α → Except Error Unit) (items : List α) :
    failure? (items.forM check) = items.findSome? fun item => failure? (check item) := by
  induction items with
  | nil => rfl
  | cons item rest ih =>
      rw [List.findSome?_cons, ← ih]
      cases hitem : check item with
      | ok done => simp [List.forM_cons, hitem, failure?, bind, Except.bind]
      | error e => simp [List.forM_cons, hitem, failure?, bind, Except.bind]

/-! ## Runs -/

namespace Run

theorem result_eq_ok_iff {run : Run σ} {state : σ} :
    run.result = .ok state ↔ run = .done state := by
  obtain ⟨reached, failure⟩ := run
  cases failure with
  | none => simp [result, done]
  | some e => simp [result, done]

theorem result_eq_error_iff {run : Run σ} {e : Error} :
    run.result = .error e ↔ run.failure = some e := by
  obtain ⟨reached, failure⟩ := run
  cases failure <;> simp [result]

theorem eq_done_iff {run : Run σ} {state : σ} :
    run = .done state ↔ run.state = state ∧ run.failure = none := by
  obtain ⟨reached, failure⟩ := run
  simp [done]

theorem failure_eq_none_iff {run : Run σ} :
    run.failure = none ↔ ∃ state, run = .done state := by
  simp [eq_done_iff]

theorem step_eq_done_iff {state next : σ} {operation : σ → Except Error σ} :
    step state operation = .done next ↔ operation state = .ok next := by
  cases h : operation state with
  | ok reached => simp [step, h, done]
  | error e => simp [step, h, done]

theorem failure_step (state : σ) (operation : σ → Except Error σ) :
    (step state operation).failure = failure? (operation state) := by
  cases h : operation state <;> simp [step, h, failure?]

theorem failure?_result (run : Run σ) :
    failure? run.result = run.failure := by
  obtain ⟨reached, failure⟩ := run
  cases failure <;> rfl

theorem state_step_of_failure {state : σ} {operation : σ → Except Error σ} {e : Error}
    (h : (step state operation).failure = some e) :
    (step state operation).state = state := by
  cases hop : operation state with
  | ok next => simp [step, hop] at h
  | error e => simp [step, hop]

theorem andThen_of_failure {run : Run σ} {next : σ → Run σ} {e : Error}
    (h : run.failure = some e) :
    run.andThen next = run := by
  simp [andThen, h]

theorem andThen_eq_done_iff {run : Run σ} {next : σ → Run σ} {state : σ} :
    run.andThen next = .done state ↔
      ∃ middle, run = .done middle ∧ next middle = .done state := by
  obtain ⟨reached, failure⟩ := run
  cases failure with
  | none => simp [andThen, done]
  | some e => simp [andThen, done]

theorem failure_andThen (run : Run σ) (next : σ → Run σ) :
    (run.andThen next).failure = run.failure.or (next run.state).failure := by
  obtain ⟨reached, failure⟩ := run
  cases failure <;> rfl

/-- What a run reached and the next one keeps, both reach. -/
theorem andThen_state_eq {kept : σ → α} {run : Run σ} {next : σ → Run σ} {a : α}
    (hrun : kept run.state = a)
    (hnext : ∀ state, kept state = a → kept (next state).state = a) :
    kept (run.andThen next).state = a := by
  obtain ⟨state, failure⟩ := run
  cases failure with
  | none => exact hnext state hrun
  | some e => exact hrun

/-! ### Steps of a list -/

/-- Takes the step of each item in turn, up to the first that fails. -/
def stepEach (operation : α → σ → Except Error σ) : List α → σ → Run σ
  | [], state => .done state
  | item :: rest, state => (step state (operation item)).andThen (stepEach operation rest)

/-- The items before the one whose step fails make up a run of their own, and it fails on what they
left. -/
theorem exists_faulty_of_stepEach {operation : α → σ → Except Error σ} {items : List α}
    {state : σ} {e : Error} (h : (stepEach operation items state).failure = some e) :
    ∃ sound faulty rest,
      items = sound ++ faulty :: rest ∧
        stepEach operation sound state = .done (stepEach operation items state).state ∧
          stepEach operation [faulty] (stepEach operation items state).state =
            ⟨(stepEach operation items state).state, some e⟩ := by
  induction items generalizing state with
  | nil => cases h
  | cons item rest ih =>
      rw [stepEach] at h ⊢
      cases hitem : operation item state with
      | error error =>
          rw [state_step_of_error hitem] at h ⊢
          cases h
          have halone : stepEach operation [item] state = ⟨state, some e⟩ := by
            rw [stepEach, state_step_of_error hitem]
            rfl
          exact ⟨[], item, rest, rfl, rfl, halone⟩
      | ok next =>
          rw [step_of_ok hitem] at h ⊢
          obtain ⟨sound, faulty, later, hrest, hsound, hfaulty⟩ := ih h
          refine ⟨item :: sound, faulty, later, by rw [hrest, List.cons_append], ?_, hfaulty⟩
          rw [stepEach, step_of_ok hitem]
          exact hsound

end Run

end QueryShape
