/-!
# Named values in order

A list of named values is read by the first entry of a name.  `put` keeps the place
of a name that is there and appends a new one, so names stay in the order in which
they first occurred; `putByName` keeps a list that is sorted by name sorted.
-/

namespace QueryShape

abbrev Fields (α : Type) : Type := List (String × α)

namespace Fields

variable {α : Type}

def get? : Fields α → String → Option α
  | [], _ => none
  | (name, value) :: rest, key => if name = key then some value else get? rest key

def put : Fields α → String → α → Fields α
  | [], key, value => [(key, value)]
  | (name, old) :: rest, key, value =>
    if name = key then (name, value) :: rest else (name, old) :: put rest key value

def putByName : Fields α → String → α → Fields α
  | [], key, value => [(key, value)]
  | (name, old) :: rest, key, value =>
    if name = key then (name, value) :: rest
    else if name < key then (name, old) :: putByName rest key value
    else (key, value) :: (name, old) :: rest

def putAll (fields : Fields α) (more : Fields α) : Fields α :=
  more.foldl (fun acc entry => put acc entry.1 entry.2) fields

/-- A repeated name keeps its first place and takes its last value. -/
def ofEntries (entries : List (String × α)) : Fields α :=
  putAll [] entries

def byName (entries : List (String × α)) : Fields α :=
  entries.foldl (fun acc entry => putByName acc entry.1 entry.2) []

def names (fields : Fields α) : List String :=
  fields.map Prod.fst

@[simp] theorem get?_nil (key : String) : get? ([] : Fields α) key = none := rfl

theorem get?_put (fields : Fields α) (key other : String) (value : α) :
    get? (put fields key value) other = if key = other then some value else get? fields other := by
  induction fields with
  | nil => simp [put, get?]
  | cons entry rest ih =>
    obtain ⟨name, old⟩ := entry
    by_cases h : name = key
    · subst h
      by_cases ho : name = other <;> simp [put, get?, ho]
    · by_cases ho : name = other
      · subst ho
        simp [put, get?, h, Ne.symm h]
      · simp [put, get?, h, ho, ih]

theorem get?_putByName (fields : Fields α) (key other : String) (value : α) :
    get? (putByName fields key value) other =
      if key = other then some value else get? fields other := by
  induction fields with
  | nil => simp [putByName, get?]
  | cons entry rest ih =>
    obtain ⟨name, old⟩ := entry
    by_cases h : name = key
    · subst h
      by_cases ho : name = other <;> simp [putByName, get?, ho]
    · by_cases hlt : name < key
      · by_cases ho : name = other
        · subst ho
          simp [putByName, get?, h, hlt, Ne.symm h]
        · simp [putByName, get?, h, hlt, ho, ih]
      · by_cases ho : key = other
        · subst ho
          simp [putByName, get?, h, hlt]
        · simp [putByName, get?, h, hlt, ho]

theorem names_put (fields : Fields α) (key : String) (value : α) :
    names (put fields key value) =
      if key ∈ names fields then names fields else names fields ++ [key] := by
  induction fields with
  | nil => simp [put, names]
  | cons entry rest ih =>
    obtain ⟨name, old⟩ := entry
    by_cases h : name = key
    · subst h
      simp [put, names]
    · simp only [put, h, if_false, names, List.map_cons, List.mem_cons] at ih ⊢
      by_cases hm : key ∈ List.map Prod.fst rest
      · simp [ih, hm]
      · simp [ih, hm, Ne.symm h]

end Fields

end QueryShape
