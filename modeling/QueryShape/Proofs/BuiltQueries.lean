import QueryShape.Proofs.WellFormedQuery

/-!
# Built queries

A query is built when builder calls lead to it from a new query on its model.  Every load
that is registered on the way has a query that was built in the same manner, so the queries
of loads are built too, at every level.  What is known of a new query and kept by the calls
is thereby known of all of them.  Whatever is left of a request that was applied to a built
query is built as well.
-/

namespace QueryShape

namespace ModelQuery

def Built (schema : Schema) (query : ModelQuery) : Prop :=
  ∃ model fresh, ofModel schema model = .ok fresh ∧
    (Backend.relational schema).Reaches fresh query

/-- The query itself or one of its loads, at any level. -/
inductive Nests : ModelQuery → ModelQuery → Prop
  | self (query : ModelQuery) : Nests query query
  | load {query inner : ModelQuery} {load : EagerLoad ModelQuery} (hload : load ∈ query.eager)
      (hinner : Nests load.query inner) : Nests query inner

end ModelQuery

variable {schema : Schema}

/-- The calls leave the loads alone, but for the one that registers another. -/
theorem Backend.Reaches.built_loads {start query : ModelQuery}
    (hreach : (Backend.relational schema).Reaches start query)
    (hstart : ∀ load ∈ start.eager, load.query.Built schema) :
    ∀ load ∈ query.eager, load.query.Built schema := by
  induction hreach with
  | refl query => exact hstart
  | project _ h ih | compare _ h ih | null _ h ih | isIn _ h ih | related _ h ih =>
      simp only [Backend.project, Backend.compare, Backend.null, Backend.isIn, Backend.related,
        bind_eq_ok_iff, pure_eq_ok_iff] at h
      obtain ⟨_, _, rfl⟩ := h
      exact ih hstart
  | group _ _ h ih _ =>
      simp only [Backend.group, bind_eq_ok_iff, pure_eq_ok_iff] at h
      obtain ⟨_, _, rfl⟩ := h
      exact ih hstart
  | load _ hbuild h ih _ =>
      obtain ⟨load, _, _, ⟨related, hrelated, hbuilt⟩, rfl⟩ := ModelQuery.load_eq_ok_iff.mp h
      intro other hother
      rcases List.mem_append.mp hother with hkept | hadded
      · exact ih hstart other (List.mem_filter.mp hkept).1
      · rw [List.mem_singleton.mp hadded]
        exact ⟨_, related, hrelated, hbuild related load.query hbuilt⟩

namespace ModelQuery

variable {query inner : ModelQuery}

theorem built_runAll {model : String} {fresh : ModelQuery}
    (hfresh : ofModel schema model = .ok fresh) (steps : List BuildStep) :
    (BuildStep.runAll (.relational schema) steps fresh).state.Built schema :=
  ⟨model, fresh, hfresh, Backend.reaches_runAll (Backend.relational_lawful schema) steps fresh⟩

theorem Built.load (h : query.Built schema) {load : EagerLoad ModelQuery}
    (hload : load ∈ query.eager) :
    load.query.Built schema := by
  obtain ⟨model, fresh, hfresh, hreach⟩ := h
  rw [eq_of_ofModel hfresh] at hreach
  exact hreach.built_loads (List.forall_mem_nil _) load hload

theorem Built.of_nests (h : query.Built schema) (hinner : query.Nests inner) :
    inner.Built schema := by
  induction hinner with
  | self query => exact h
  | load hload _ ih => exact ih (h.load hload)

theorem Built.wellFormed (h : query.Built schema) :
    query.WellFormed schema := by
  obtain ⟨model, fresh, hfresh, hreach⟩ := h
  exact (hreach.wellFormed (wellFormed_of_ofModel hfresh)).2

/-- Every query starts on a model whose name was checked, and the calls do not change it. -/
theorem Built.isIdentifier_model (h : query.Built schema) :
    isIdentifier query.model := by
  obtain ⟨model, fresh, hfresh, hreach⟩ := h
  obtain ⟨_, hname, rfl⟩ := ofModel_eq_ok_iff.mp hfresh
  rw [(hreach.wellFormed (wellFormed_of_ofModel hfresh)).1]
  exact hname

end ModelQuery

/-! ## Requests -/

theorem Backend.reaches_columns {Q : Type} (backend : Backend Q) (columns : List String)
    (query : Q) :
    backend.Reaches query (backend.columns columns query).state := by
  unfold Backend.columns
  split
  next => exact .refl query
  next => exact .state_step fun _ h => .project (.refl query) h

mutual

theorem Relationship.reaches_constrain (schema : Schema) (limit : Nat) :
    ∀ (relationship : Relationship) (room : Nat) (query : ModelQuery),
      (Backend.relational schema).Reaches query
        (relationship.constrain schema limit room query).state
  | .short _ columns, _, query => (Backend.relational schema).reaches_columns columns query
  | .full _ columns filter nested, room, query =>
      (((Backend.relational schema).reaches_columns columns query).state_andThen
        (Backend.reaches_filter (Backend.relational_lawful schema) limit filter)).state_andThen
          (Relationship.reaches_registerAll schema limit nested room)

theorem Relationship.reaches_registerAll (schema : Schema) (limit : Nat) :
    ∀ (relationships : List Relationship) (room : Nat) (query : ModelQuery),
      (Backend.relational schema).Reaches query
        (Relationship.registerAll schema limit room relationships query).state
  | [], _, query => .refl query
  | _ :: _, 0, query => .refl query
  | relationship :: rest, room + 1, query => by
      have hload : (Backend.relational schema).Reaches query
          (Run.step query (ModelQuery.load schema relationship.name fun related =>
            (relationship.constrain schema limit room related).result)).state :=
        .state_step fun _ h =>
          .load (.refl query)
            (fun related _ hbuilt =>
              (Relationship.reaches_constrain schema limit relationship room related).of_result
                hbuilt)
            h
      exact hload.state_andThen (Relationship.reaches_registerAll schema limit rest (room + 1))

end

theorem Request.reaches_apply (schema : Schema) (limit : Nat) (request : Request)
    (query : ModelQuery) :
    (Backend.relational schema).Reaches query (request.apply schema limit query).state := by
  refine .state_andThen (.state_andThen ?_ ?_) ?_
  · exact (Backend.relational schema).reaches_columns request.columns query
  · intro query
    split
    next filter _ =>
      exact Backend.reaches_filter (Backend.relational_lawful schema) limit filter query
    next => exact .refl query
  · exact Relationship.reaches_registerAll schema limit request.relationships limit

theorem ModelQuery.built_apply {model : String} {fresh query : ModelQuery} {limit : Nat}
    {request : Request} (hfresh : ofModel schema model = .ok fresh)
    (h : (request.apply schema limit fresh).result = .ok query) :
    query.Built schema :=
  ⟨model, fresh, hfresh, (request.reaches_apply schema limit fresh).of_result h⟩

end QueryShape
