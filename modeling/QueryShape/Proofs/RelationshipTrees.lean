import QueryShape.Relationship.Basic

/-!
# Trees of relationships

A list of relationships has a height, and the filters of all the relationships in it
have a greatest depth.  The depth is also the least one that bounds the filter of every
relationship within the list.
-/

namespace QueryShape

/-! ## Height and depth -/

mutual

/-- Levels of relationships below a relationship. -/
def Relationship.levels : Relationship → Nat
  | .short _ _ => 0
  | .full _ _ _ nested => Relationship.height nested

/-- Levels of relationships in a list. -/
def Relationship.height : List Relationship → Nat
  | [] => 0
  | relationship :: rest => max (relationship.levels + 1) (Relationship.height rest)

end

mutual

/-- The depth of the deepest filter of a relationship and of those below it. -/
def Relationship.filterDepth : Relationship → Nat
  | .short _ _ => 0
  | .full _ _ filter nested => max filter.depth (Relationship.filterDepths nested)

def Relationship.filterDepths : List Relationship → Nat
  | [] => 0
  | relationship :: rest => max relationship.filterDepth (Relationship.filterDepths rest)

end

/-- A relationship stands in a list or below one of its relationships. -/
inductive Relationship.Within (relationship : Relationship) : List Relationship → Prop
  | here {relationships : List Relationship} (h : relationship ∈ relationships) :
      Within relationship relationships
  | nested {relationships : List Relationship} {parent : Relationship}
      (hparent : parent ∈ relationships) (h : Within relationship parent.nested) :
      Within relationship relationships

/-! ## Filters within a list -/

namespace Relationship

section

variable {limit : Nat}

theorem filterDepth_le_of_mem {relationship : Relationship} {relationships : List Relationship}
    (h : relationship ∈ relationships) :
    relationship.filterDepth ≤ filterDepths relationships := by
  induction relationships with
  | nil => cases h
  | cons first rest ih =>
      rw [filterDepths]
      rcases List.mem_cons.mp h with rfl | hrest
      · exact Nat.le_max_left _ _
      · exact Nat.le_trans (ih hrest) (Nat.le_max_right _ _)

theorem filterDepths_nested_le (relationship : Relationship) :
    filterDepths relationship.nested ≤ relationship.filterDepth := by
  cases relationship with
  | short => exact Nat.zero_le _
  | full =>
      rw [filterDepth]
      exact Nat.le_max_right _ _

theorem Within.filter_depth_le {relationship : Relationship} {relationships : List Relationship}
    (h : Within relationship relationships) {filter : Filter}
    (hfilter : relationship.filter? = some filter) :
    filter.depth ≤ filterDepths relationships := by
  induction h with
  | here hmem =>
      refine Nat.le_trans ?_ (filterDepth_le_of_mem hmem)
      cases relationship with
      | short => cases hfilter
      | full =>
          cases hfilter
          rw [filterDepth]
          exact Nat.le_max_left _ _
  | nested hparent _ ih =>
      exact Nat.le_trans ih
        (Nat.le_trans (filterDepths_nested_le _) (filterDepth_le_of_mem hparent))

theorem Within.mono {relationship : Relationship} {relationships more : List Relationship}
    (h : Within relationship relationships) (hsubset : relationships ⊆ more) :
    Within relationship more := by
  cases h with
  | here hmem => exact .here (hsubset hmem)
  | nested hparent h => exact .nested (hsubset hparent) h

mutual

theorem filterDepth_le :
    ∀ relationship : Relationship,
      (∀ other, Within other [relationship] → ∀ filter, other.filter? = some filter →
        filter.depth ≤ limit) →
      relationship.filterDepth ≤ limit
  | .short _ _, _ => Nat.zero_le limit
  | .full name columns filter nested, h => by
      have hself := h _ (.here List.mem_cons_self) filter rfl
      have hnested := filterDepths_le nested fun other hother =>
        h other (.nested List.mem_cons_self hother)
      rw [filterDepth]
      exact Nat.max_le.mpr ⟨hself, hnested⟩

theorem filterDepths_le :
    ∀ relationships : List Relationship,
      (∀ other, Within other relationships → ∀ filter, other.filter? = some filter →
        filter.depth ≤ limit) →
      filterDepths relationships ≤ limit
  | [], _ => Nat.zero_le limit
  | relationship :: rest, h => by
      have hfirst := filterDepth_le relationship fun other hother =>
        h other (hother.mono (List.cons_subset_cons relationship (List.nil_subset rest)))
      have hrest := filterDepths_le rest fun other hother =>
        h other (hother.mono (List.subset_cons_self relationship rest))
      rw [filterDepths]
      exact Nat.max_le.mpr ⟨hfirst, hrest⟩

end

theorem filterDepths_le_iff {relationships : List Relationship} :
    filterDepths relationships ≤ limit ↔
      ∀ relationship, Within relationship relationships →
        ∀ filter, relationship.filter? = some filter → filter.depth ≤ limit := by
  constructor
  · intro h relationship hwithin filter hfilter
    exact Nat.le_trans (hwithin.filter_depth_le hfilter) h
  · exact filterDepths_le relationships

end

/-! ## The room of a list -/

/-- The limits that a list keeps to when it is read with some room for its tree. -/
def Fits (limit room : Nat) (relationships : List Relationship) : Prop :=
  height relationships ≤ room ∧ filterDepths relationships ≤ limit

/-- The same for one relationship, whose own level is counted by its list. -/
def EntryFits (limit room : Nat) (relationship : Relationship) : Prop :=
  relationship.levels ≤ room ∧ relationship.filterDepth ≤ limit

instance (limit room : Nat) (relationships : List Relationship) :
    Decidable (Fits limit room relationships) :=
  inferInstanceAs (Decidable (_ ∧ _))

instance (limit room : Nat) (relationship : Relationship) :
    Decidable (EntryFits limit room relationship) :=
  inferInstanceAs (Decidable (_ ∧ _))

theorem fits_succ_iff {limit room : Nat} {relationships : List Relationship} :
    Fits limit (room + 1) relationships ↔
      ∀ relationship ∈ relationships, EntryFits limit room relationship := by
  unfold Fits EntryFits
  induction relationships with
  | nil => simp [height, filterDepths]
  | cons relationship rest ih =>
      rw [List.forall_mem_cons, ← ih, height, filterDepths]
      omega

end Relationship

end QueryShape
