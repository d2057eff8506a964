import Mathlib.Data.List.Forall2
import QueryShape.Error

/-!
# Limits of nesting as guards

A reader with a limit of nesting is guarded when it gives a value that fits and reports the
limit for one that does not.  Guarded readers stay guarded when one is run after another
and when the items of a list are read in turn, whichever of them breaks the limit first.
-/

namespace QueryShape

/-- A value is given if it fits; otherwise the limit of nesting is reported. -/
def guarded {α : Type} (limit : Nat) (fits : Prop) [Decidable fits] (value : α) :
    Except Error α :=
  if fits then .ok value else .error (.nestingTooDeep limit)

section

variable {α β : Type} {limit : Nat} {fits more : Prop} [Decidable fits] [Decidable more]

theorem guarded_of_fits (h : fits) (value : α) :
    guarded limit fits value = .ok value :=
  if_pos h

theorem guarded_of_not_fits (h : ¬ fits) (value : α) :
    guarded limit fits value = .error (.nestingTooDeep limit) :=
  if_neg h

theorem guarded_eq_ok_iff {value result : α} :
    guarded limit fits value = .ok result ↔ fits ∧ value = result := by
  unfold guarded
  split
  next h => simp [h]
  next h => simp [h]

theorem guarded_congr (h : fits ↔ more) (value : α) :
    guarded limit fits value = guarded limit more value := by
  unfold guarded
  simp only [h]

theorem map_guarded (f : α → β) (value : α) :
    f <$> guarded limit fits value = guarded limit fits (f value) := by
  unfold guarded
  split
  next => rfl
  next => rfl

theorem guarded_bind {value : α} {next : α → Except Error β} {result : β}
    (h : next value = .ok result) :
    guarded limit fits value >>= next = guarded limit fits result := by
  unfold guarded
  split
  next => exact h
  next => rfl

theorem guarded_bind_guarded (value : α) {next : α → Except Error β} {result : β}
    (h : next value = guarded limit more result) :
    guarded limit fits value >>= next = guarded limit (fits ∧ more) result := by
  by_cases hfits : fits
  · rw [guarded_of_fits hfits, guarded_congr (and_iff_right hfits)]
    exact h
  · rw [guarded_of_not_fits hfits, guarded_of_not_fits (fun hboth => hfits hboth.1)]
    rfl

/-- A list is read as a whole if each item fits, whatever the order of the faults. -/
theorem mapM_guarded {read : α → Except Error β} {fits : β → Prop} [DecidablePred fits]
    {items : List α} {values : List β}
    (h : List.Forall₂ (fun item value => read item = guarded limit (fits value) value)
      items values) :
    items.mapM read = guarded limit (∀ value ∈ values, fits value) values := by
  induction h with
  | nil => exact (guarded_of_fits (by simp) []).symm
  | @cons item value rest later hitem hrest ih =>
      have hnext :
          (do
            let values ← rest.mapM read
            return value :: values) =
            guarded limit (∀ other ∈ later, fits other) (value :: later) := by
        rw [ih]
        exact map_guarded (value :: ·) later
      rw [List.mapM_cons, hitem, guarded_bind_guarded value hnext]
      exact guarded_congr (by simp) _

end

end QueryShape
