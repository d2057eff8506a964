import QueryShape.Error

/-!
# Runs

A run of operations on a state ends at the first failure.  It gives the state that
was reached and the failure, if there was one.
-/

namespace QueryShape

structure Run (σ : Type) where
  state : σ
  failure : Option Error

namespace Run

variable {σ : Type}

def done (state : σ) : Run σ :=
  ⟨state, none⟩

/-- One operation, which leaves the state alone when it fails. -/
def step (state : σ) (operation : σ → Except Error σ) : Run σ :=
  match operation state with
  | .ok next => ⟨next, none⟩
  | .error failure => ⟨state, some failure⟩

def andThen (run : Run σ) (next : σ → Run σ) : Run σ :=
  match run.failure with
  | none => next run.state
  | some _ => run

def result (run : Run σ) : Except Error σ :=
  match run.failure with
  | none => .ok run.state
  | some failure => .error failure

@[simp] theorem andThen_done (state : σ) (next : σ → Run σ) :
    (done state).andThen next = next state := rfl

theorem state_step_of_error {state : σ} {operation : σ → Except Error σ} {failure : Error}
    (h : operation state = .error failure) : step state operation = ⟨state, some failure⟩ := by
  simp [step, h]

theorem step_of_ok {state next : σ} {operation : σ → Except Error σ}
    (h : operation state = .ok next) : step state operation = ⟨next, none⟩ := by
  simp [step, h]

end Run

end QueryShape
