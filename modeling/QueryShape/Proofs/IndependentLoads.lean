import Mathlib.Data.List.Nodup
import Mathlib.Data.List.Perm.Basic
import Mathlib.Data.String.Basic
import QueryShape.Proofs.RegisteredLoads
import QueryShape.Proofs.ListAnswers

/-!
# Loads onto a record do not disturb each other

What a relationship loads onto a record depends on the model and the attributes of the record
only, and it is written under its own name only.  So relationships with different names can be
loaded in any order, onto the record as it is or onto any other one that agrees with it in model
and attributes, and nothing else of the record changes.

A list is loaded from left to right until one of its relationships fails.  Then the record has
what the relationships before that one loaded and nothing more.
-/

namespace QueryShape

/-- Entries under different names go to places of their own, whichever is put first. -/
theorem Fields.putByName_comm {α : Type} (fields : Fields α) {key other : String}
    (h : key ≠ other) (value new : α) :
    putByName (putByName fields key value) other new =
      putByName (putByName fields other new) key value := by
  wlog hlt : key < other generalizing key other value new
  · have hgt : other < key := lt_of_le_of_ne (not_lt.mp hlt) h.symm
    exact (this h.symm new value hgt).symm
  have hnot : ¬ other < key := String.lt_asymm hlt
  induction fields with
  | nil => simp [putByName, h, h.symm, hlt, hnot]
  | cons entry rest ih =>
      obtain ⟨name, old⟩ := entry
      by_cases hkey : name = key
      · subst hkey
        simp [putByName, h, hlt]
      · by_cases hbefore : name < key
        · have hname : name < other := String.lt_trans hbefore hlt
          simp [putByName, hkey, hbefore, hname, String.ne_of_lt hname, ih]
        · -- The first entry stays behind `key`, wherever `other` goes.
          by_cases hother : name = other
          · subst hother
            simp [putByName, h, hkey, hlt, hnot]
          · by_cases hname : name < other
            · simp [putByName, hkey, hbefore, hother, hname, h, hlt]
            · simp [putByName, hkey, hbefore, hother, hname, h, h.symm, hlt, hnot]

/-! ## Attaching loads -/

namespace EagerLoad

variable {store : Store}

theorem relation?_attach (load : EagerLoad ModelQuery) (record : Record) :
    (attach store record load).relation? load.name = some (load.pick store record) := by
  simp [attach, Record.setRelation, Record.relation?, Fields.get?_putByName]

theorem attach_comm {load other : EagerLoad ModelQuery} (h : load.name ≠ other.name)
    (record : Record) :
    attach store (attach store record load) other =
      attach store (attach store record other) load := by
  have hload :
      load.pick store (attach store record other) = load.pick store record :=
    load.pick_congr store rfl
  have hother :
      other.pick store (attach store record load) = other.pick store record :=
    other.pick_congr store rfl
  have hrelations :=
    Fields.putByName_comm record.relations h (load.pick store record) (other.pick store record)
  rw [attach, hother, attach, attach, hload, attach]
  simp only [Record.setRelation, hrelations]

theorem attachAll_perm {loads others : List (EagerLoad ModelQuery)} (hperm : loads.Perm others)
    (hnames : (loads.map name).Nodup) (record : Record) :
    attachAll store loads record = attachAll store others record := by
  apply hperm.foldl_eq'
  intro load hload other hother record
  by_cases hname : load.name = other.name
  · have hsame : load = other := List.inj_on_of_nodup_map hnames hload hother hname
    rw [hsame]
  · exact attach_comm hname record

theorem relation?_attachAll_of_not_mem {loads : List (EagerLoad ModelQuery)} {name : String}
    (h : name ∉ loads.map EagerLoad.name) (record : Record) :
    (attachAll store loads record).relation? name = record.relation? name := by
  rw [← names_named, ← Fields.last?_eq_none_iff] at h
  rw [relation?_attachAll, h]
  rfl

/-- Every load of a list decides what is under its name, whatever was there. -/
theorem relation?_attachAll_congr {loads : List (EagerLoad ModelQuery)} {name : String}
    (h : name ∈ loads.map EagerLoad.name) {record other : Record}
    (hattributes : record.attributes = other.attributes) :
    (attachAll store loads record).relation? name =
      (attachAll store loads other).relation? name := by
  have hlast : (named loads).last? name ≠ none := by
    rw [← names_named] at h
    exact fun hnone => Fields.last?_eq_none_iff.mp hnone h
  obtain ⟨load, hload⟩ := Option.ne_none_iff_exists'.mp hlast
  rw [relation?_attachAll, relation?_attachAll, hload, Option.map_some, Option.map_some,
    load.pick_congr store hattributes]
  rfl

theorem relation?_attachAll_of_mem {loads : List (EagerLoad ModelQuery)}
    {load : EagerLoad ModelQuery} (hnames : (loads.map name).Nodup) (hload : load ∈ loads)
    (record : Record) :
    (attachAll store loads record).relation? load.name = some (load.pick store record) := by
  rw [relation?_attachAll, last?_named_of_mem hnames hload]
  rfl

end EagerLoad

/-! ## Loading lists -/

namespace Relationship

/-- Reordered relationships become the reordered loads. -/
theorem exists_builds_of_perm {schema : Schema} {limit room : Nat} {model : String}
    {relationships others : List Relationship} {loads : List (EagerLoad ModelQuery)}
    (hperm : others.Perm relationships)
    (hbuilds : List.Forall₂ (Builds schema limit room model) relationships loads) :
    ∃ reordered, List.Forall₂ (Builds schema limit room model) others reordered ∧
      reordered.Perm loads :=
  List.perm_comp_forall₂ hperm hbuilds

theorem exists_builds_of_mem {schema : Schema} {limit room : Nat} {model : String}
    {relationships : List Relationship} {loads : List (EagerLoad ModelQuery)}
    {relationship : Relationship}
    (hbuilds : List.Forall₂ (Builds schema limit room model) relationships loads)
    (hmem : relationship ∈ relationships) :
    ∃ load ∈ loads, relationship.Builds schema limit room model load := by
  induction hbuilds with
  | nil => cases hmem
  | cons hfirst _ ih =>
      rcases List.mem_cons.mp hmem with rfl | hrest
      · exact ⟨_, List.mem_cons_self, hfirst⟩
      · obtain ⟨load, hload, hbuild⟩ := ih hrest
        exact ⟨load, List.mem_cons_of_mem _ hload, hbuild⟩

/-- What is left of a record onto which all relationships of a list have been loaded. -/
structure LoadsApart (store : Store) (limit : Nat) (relationships : List Relationship)
    (record next : Record) : Prop where
  model_eq : next.model = record.model
  attributes_eq : next.attributes = record.attributes
  kept : ∀ name, name ∉ relationships.map Relationship.name →
    next.relation? name = record.relation? name
  reordered : ∀ others : List Relationship, others.Perm relationships →
    loadOnto store limit others record = .done next
  alone : ∀ relationship ∈ relationships, ∃ single,
    loadOnto store limit [relationship] record = .done single ∧
      next.relation? relationship.name = single.relation? relationship.name
  elsewhere : ∀ other : Record,
    other.model = record.model → other.attributes = record.attributes → ∃ loaded,
      loadOnto store limit relationships other = .done loaded ∧
        ∀ name ∈ relationships.map Relationship.name,
          loaded.relation? name = next.relation? name

theorem loadsApart_of_loadOnto {store : Store} {limit : Nat} {relationships : List Relationship}
    {record next : Record} (hnames : (relationships.map name).Nodup)
    (h : loadOnto store limit relationships record = .done next) :
    LoadsApart store limit relationships record next := by
  obtain ⟨hready, loads, hbuilds, rfl⟩ := loadOnto_eq_done_iff.mp h
  have hloads : loads.map EagerLoad.name = relationships.map name := names_of_builds hbuilds
  have hdistinct : (loads.map EagerLoad.name).Nodup := hloads ▸ hnames
  constructor
  case model_eq => exact EagerLoad.model_attachAll store loads record
  case attributes_eq => exact EagerLoad.attributes_attachAll store loads record
  case kept =>
    intro name hname
    rw [← hloads] at hname
    exact EagerLoad.relation?_attachAll_of_not_mem hname record
  case reordered =>
    intro others hperm
    obtain ⟨reordered, hreordered, hloadsPerm⟩ := exists_builds_of_perm hperm hbuilds
    have hattach :
        EagerLoad.attachAll store loads record = EagerLoad.attachAll store reordered record :=
      EagerLoad.attachAll_perm hloadsPerm.symm hdistinct record
    rw [loadOnto_eq_done_iff]
    refine ⟨?_, reordered, hreordered, hattach⟩
    intro hne
    apply hready
    intro hnil
    rw [hnil] at hperm
    exact hne hperm.eq_nil
  case alone =>
    intro relationship hmem
    obtain ⟨load, hload, hbuild⟩ := exists_builds_of_mem hbuilds hmem
    refine ⟨EagerLoad.attach store record load, ?_, ?_⟩
    · rw [loadOnto_eq_done_iff]
      have hready := hready (List.ne_nil_of_mem hmem)
      exact ⟨fun _ => hready, [load], .cons hbuild .nil, rfl⟩
    · rw [← hbuild.name_eq, EagerLoad.relation?_attachAll_of_mem hdistinct hload,
        EagerLoad.relation?_attach]
  case elsewhere =>
    intro other hmodel hattributes
    refine ⟨EagerLoad.attachAll store loads other, ?_, ?_⟩
    · rw [loadOnto_eq_done_iff, hmodel]
      exact ⟨hready, loads, hbuilds, rfl⟩
    · intro name hname
      rw [← hloads] at hname
      exact EagerLoad.relation?_attachAll_congr hname hattributes

theorem loadEach_eq_stepEach (store : Store) (limit room : Nat)
    (relationships : List Relationship) (record : Record) :
    loadEach store limit room relationships record =
      Run.stepEach (fun relationship => store.loadRelation relationship.name fun query =>
        (relationship.constrain store.schema limit room query).result) relationships record := by
  induction relationships generalizing record with
  | nil => rfl
  | cons relationship rest ih => rw [loadEach, Run.stepEach, funext ih]

/-- The relationships before the one that fails have been loaded, and it fails on what they left. -/
theorem exists_faulty_of_loadOnto {store : Store} {limit : Nat}
    {relationships : List Relationship} {record : Record} {e : Error}
    (h : (loadOnto store limit relationships record).failure = some e) :
    ∃ sound faulty rest,
      relationships = sound ++ faulty :: rest ∧
        loadOnto store limit sound record =
            .done (loadOnto store limit relationships record).state ∧
          loadOnto store limit [faulty] (loadOnto store limit relationships record).state =
            ⟨(loadOnto store limit relationships record).state, some e⟩ := by
  cases limit with
  | zero =>
      cases relationships with
      | nil => simp [loadOnto_nil, Run.done] at h
      | cons relationship rest =>
          have he : Error.nestingTooDeep 0 = e := Option.some.inj h
          subst he
          exact ⟨[], relationship, rest, rfl, rfl, rfl⟩
  | succ room =>
      simp only [loadOnto_succ, loadEach_eq_stepEach] at h ⊢
      exact Run.exists_faulty_of_stepEach h

end Relationship

/-- Relationships with different names are loaded onto a record apart from each other, in any order
with the same outcome.  A list that fails leaves behind what the relationships before the failing
one have loaded. -/
theorem record_loads_are_independent (store : Store) (limit : Nat)
    (relationships : List Relationship) (record : Record) :
    let run := Relationship.loadOnto store limit relationships record
    ((relationships.map Relationship.name).Nodup → ∀ next, run = .done next →
        Relationship.LoadsApart store limit relationships record next) ∧
      ∀ e, run.failure = some e → ∃ sound faulty rest,
        relationships = sound ++ faulty :: rest ∧
          Relationship.loadOnto store limit sound record = .done run.state ∧
            Relationship.loadOnto store limit [faulty] run.state = ⟨run.state, some e⟩ := by
  intro run
  constructor
  · intro hnames next hnext
    exact Relationship.loadsApart_of_loadOnto hnames hnext
  · intro e hfailure
    exact Relationship.exists_faulty_of_loadOnto hfailure

/-- People with the one that leads them and those that they lead. -/
def staffStore : Store where
  schema :=
    { models :=
      [("people",
        { relations :=
          [("lead", ⟨.belongsTo, "people", "lead_id", "id"⟩),
            ("team", ⟨.hasMany, "people", "lead_id", "id"⟩)] })] }
  tables :=
    [("people",
      [[("id", .number (.int 1)), ("lead_id", .null)],
        [("id", .number (.int 2)), ("lead_id", .number (.int 1))],
        [("id", .number (.int 3)), ("lead_id", .number (.int 2))]])]

def leadOfStaff : Relationship := .short "lead" ["id"]

def teamOfStaff : Relationship := .full "team" [] .empty [.short "lead" ["id"]]

/-- The second one, with something under the name of a relation already. -/
def staffRecord : Record where
  model := "people"
  attributes := [("id", .number (.int 2)), ("lead_id", .number (.int 1))]
  relations := [("lead", .nothing), ("notes", .many [])]

theorem staff_loads_are_independent :
    let unknown : Relationship := .short "rank" []
    let failing :=
      Relationship.loadOnto staffStore 2 [teamOfStaff, unknown, leadOfStaff] staffRecord
    (∃ next,
      Relationship.loadOnto staffStore 2 [leadOfStaff, teamOfStaff] staffRecord = .done next ∧
        Relationship.loadOnto staffStore 2 [teamOfStaff, leadOfStaff] staffRecord = .done next ∧
          next.relation? "lead" =
              some (.one { model := "people", attributes := [("id", .number (.int 1))] }) ∧
            next.relation? "notes" = staffRecord.relation? "notes") ∧
      failing.failure = some (.unknownRelation "people" "rank") ∧
        ∃ sound faulty rest, [teamOfStaff, unknown, leadOfStaff] = sound ++ faulty :: rest ∧
          Relationship.loadOnto staffStore 2 sound staffRecord = .done failing.state ∧
            Relationship.loadOnto staffStore 2 [faulty] failing.state =
              ⟨failing.state, some (.unknownRelation "people" "rank")⟩ := by
  have hloaded :
      ∃ next,
        Relationship.loadOnto staffStore 2 [leadOfStaff, teamOfStaff] staffRecord = .done next ∧
          next.relation? "lead" =
            some (.one { model := "people", attributes := [("id", .number (.int 1))] }) :=
    ⟨_, rfl, rfl⟩
  obtain ⟨next, hnext, hlead⟩ := hloaded
  have hapart :=
    (record_loads_are_independent staffStore 2 [leadOfStaff, teamOfStaff] staffRecord).1
      (by decide) next hnext
  have hreordered :
      Relationship.loadOnto staffStore 2 [teamOfStaff, leadOfStaff] staffRecord = .done next :=
    hapart.reordered [teamOfStaff, leadOfStaff] (List.Perm.swap leadOfStaff teamOfStaff [])
  have hnotes : next.relation? "notes" = staffRecord.relation? "notes" :=
    hapart.kept "notes" (by decide)
  intro unknown failing
  have hfailure : failing.failure = some (.unknownRelation "people" "rank") := by
    decide +kernel
  exact ⟨⟨next, hnext, hreordered, hlead, hnotes⟩, hfailure,
    (record_loads_are_independent staffStore 2 [teamOfStaff, unknown, leadOfStaff]
      staffRecord).2 _ hfailure⟩

end QueryShape
