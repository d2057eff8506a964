import QueryShape.CommandLine.Answer
import QueryShape.Proofs.ListAndRecord
import QueryShape.Proofs.ScalarTexts

/-!
# Ids on the command line

The id of a record is given as a text.  A number between spaces stands for the number, and a
text that is no JSON is a string.  A text that is another JSON value stands for that value, so
a row whose key is that very text is not found by it: a row with a string as its key is found
by the text of its key exactly if the text is a number or no JSON at all.

The id can be given after an equals sign, whatever its text, or as an argument of its own,
which must not look like an option.
-/

namespace QueryShape

/-! ## Arguments -/

namespace Arguments

def withId (args : Arguments) (id : String) : Arguments :=
  { args with id := some id }

theorem give?_withId {args next : Arguments} {name value : String}
    (h : args.give? name value = some next) (hid : next.id = none) (id : String) :
    args.id = none ∧ (args.withId id).give? name value = some (next.withId id) := by
  unfold give? at h ⊢
  split at h
  case h_5 =>
    split at h
    next => cases h
    next =>
      cases h
      cases hid
  case h_6 => cases h
  all_goals
    split at h
    next => cases h
    next hnew =>
      cases h
      exact ⟨hid, if_neg hnew⟩

theorem invocation?_withId {args : Arguments} {lookup : Lookup}
    (h : args.invocation? = some (.answer lookup)) (hid : lookup.id = none) (id : String) :
    args.id = none ∧
      (args.withId id).invocation? = some (.answer { lookup with id := some id }) := by
  unfold invocation? at h ⊢
  by_cases hinit : args.initConfig = true
  · simp [hinit] at h
  · obtain ⟨config, init, data, model, params, given⟩ := args
    simp at hinit
    subst hinit
    simp [Option.bind_eq_some_iff] at h
    obtain ⟨d, rfl, m, rfl, rfl⟩ := h
    exact ⟨hid, rfl⟩

/-- The induction follows the arguments: the id is not among them, and no other option reads it. -/
theorem readFrom?_withId {args : Arguments} {arguments : List String} {lookup : Lookup}
    (h : args.readFrom? arguments = some (.answer lookup)) (hid : lookup.id = none) (id : String) :
    args.id = none ∧
      (args.withId id).readFrom? arguments = some (.answer { lookup with id := some id }) := by
  fun_induction readFrom? args arguments with
  | case1 args => exact invocation?_withId h hid id
  | case2 args arg rest harg hrest =>
      obtain ⟨hnone, hinvocation⟩ := invocation?_withId h hid id
      refine ⟨hnone, ?_⟩
      simp only [readFrom?, harg, hrest, if_true, hinvocation]
  | case4 args arg rest chars hchars harg name first value hvalue ih =>
      obtain ⟨next, hnext, hread⟩ := Option.bind_eq_some_iff.mp h
      obtain ⟨hnone, hrest⟩ := ih next hread
      obtain ⟨hargs, hgive⟩ := give?_withId hnext hnone id
      refine ⟨hargs, ?_⟩
      simp only [readFrom?, harg, hvalue]
      exact Option.bind_eq_some_iff.mpr ⟨_, hgive, hrest⟩
  | case8 args arg rest chars hchars harg name hvalue hhelp hversion hinit hfirst ih =>
      obtain ⟨hnone, hrest⟩ := ih h
      have hstill : ¬(args.withId id).initConfig = true := hfirst
      refine ⟨hnone, ?_⟩
      simp only [readFrom?, harg, hvalue]
      rw [if_neg hhelp, if_neg hversion, if_pos hinit, if_neg hstill]
      exact hrest
  | case10 args arg chars hchars harg name hvalue hhelp hversion hinit htakes value rest hlooks
      ih =>
      obtain ⟨next, hnext, hread⟩ := Option.bind_eq_some_iff.mp h
      obtain ⟨hnone, hrest⟩ := ih next hread
      obtain ⟨hargs, hgive⟩ := give?_withId hnext hnone id
      refine ⟨hargs, ?_⟩
      simp only [readFrom?, harg, hvalue]
      rw [if_neg hhelp, if_neg hversion, if_neg hinit, if_pos htakes, if_neg hlooks]
      exact Option.bind_eq_some_iff.mpr ⟨_, hgive, hrest⟩
  | case13 args arg rest c chars hdash harg =>
      unfold short? at h
      split at h <;> cases h
  | _ => cases h

theorem toList_idOption (id : String) :
    ("--id=" ++ id).toList = '-' :: '-' :: 'i' :: 'd' :: '=' :: id.toList := by
  rw [String.toList_append]
  rfl

/-- An id that is given first is read before all other arguments. -/
theorem read?_idOption_cons (id : String) (arguments : List String) :
    read? (("--id=" ++ id) :: arguments) = (withId {} id).readFrom? arguments := by
  have hname : List.takeWhile (· != '=') ('i' :: 'd' :: '=' :: id.toList) = ['i', 'd'] := rfl
  have hvalue :
      List.dropWhile (· != '=') ('i' :: 'd' :: '=' :: id.toList) = '=' :: id.toList := rfl
  have hgive : give? {} (String.ofList ['i', 'd']) id = some (withId {} id) := rfl
  simp only [read?, readFrom?, toList_idOption, hname, hvalue, String.ofList_toList, hgive]
  rfl

theorem read?_id_cons_cons (id : String) (arguments : List String) :
    read? ("--id" :: id :: arguments) =
      if looksLikeOption id then none else (withId {} id).readFrom? arguments := by
  rfl

end Arguments

/-! ## The meaning of an id -/

theorem Json.text_equals_text_iff {s t : String} :
    (Json.text s).equals (.text t) = true ↔ s = t := by
  simp [Json.equals, Json.compare?]

/-- A string equals the value that it spells exactly if that is a number. -/
theorem Json.text_equals_idOfText_iff {s : String} :
    (Json.text s).equals (idOfText s) = true ↔
      Json.ofText? s = none ∨ ∃ n : JsonNumber, n.SpelledBy s := by
  simp only [← Json.ofText?_eq_number_iff, idOfText]
  cases hvalue : Json.ofText? s with
  | none => simp [Json.text_equals_text_iff]
  | some value =>
      cases value with
      | number n =>
          have hspelled := Json.ofText?_eq_number_iff.mp hvalue
          simp [Json.equals, Json.compare?, JsonNumber.compareText, hspelled.ofChars?_trim,
            JsonNumber.compare_self]
      | text t =>
          have hne : s ≠ t := by
            rintro rfl
            exact absurd (Json.length_of_ofText?_eq_text hvalue) (Nat.lt_irrefl _)
          simp [Json.text_equals_text_iff, hne]
      | null | bool | array | object => simp [Json.equals, Json.compare?, Json.alike, Json.normal]

/-- The keys that a text finds are those that equal its value. -/
theorem Model.identifies_text_iff {definition : Model} {row : Row} {id : String}
    (h : row.get? definition.primaryKey = some (.text id)) :
    definition.identifies (idOfText id) row = true ↔
      Json.ofText? id = none ∨ ∃ n : JsonNumber, n.SpelledBy id := by
  rw [Model.identifies, h, Option.getD_some]
  exact Json.text_equals_idOfText_iff

theorem idOfText_of_spelledBy {n : JsonNumber} {id : String} (h : n.SpelledBy id) :
    idOfText id = .number n := by
  rw [idOfText, Json.ofText?_eq_number_iff.mpr h, Option.getD_some]

/-! ## Outcomes -/

/-- What is printed for the answer of a service. -/
def Outcome.ofAnswer : Except Error Json → Outcome
  | .ok answer => .printed 0 answer
  | .error failure => .printed 1 failure.response

namespace Lookup

/-- What a lookup reads from its files and its parameters. -/
structure Reads (lookup : Lookup) (config data : Option String) (service : Service)
    (store : Store) (params : Json) : Prop where
  store : data.map Store.ofText = some (.ok store)
  params : Json.ofText? lookup.params = some params
  service : Service.build (some (Config.load config)) (some lookup.model) = .ok service

theorem outcome_of_reads {lookup : Lookup} {config data : Option String} {service : Service}
    {store : Store} {params : Json} (h : lookup.Reads config data service store params) :
    lookup.outcome config data = .ofAnswer (lookup.respond service store params) := by
  rw [outcome, h.store, h.params, h.service]
  dsimp only
  cases lookup.respond service store params <;> rfl

theorem outcome_of_not_reads {lookup : Lookup} {config data : Option String}
    (h : ∀ service store params, ¬lookup.Reads config data service store params) :
    lookup.outcome config data = .failed := by
  unfold outcome
  split
  next store params service hstore hparams hservice =>
    exact absurd ⟨hstore, hparams, hservice⟩ (h service store params)
  next => rfl

theorem outcome_of_id {lookup : Lookup} {config data : Option String} {service : Service}
    {store : Store} {params : Json} {id : String} (hid : lookup.id = some id)
    (h : lookup.Reads config data service store params) :
    lookup.outcome config data = .ofAnswer (service.answerOne store (idOfText id) params) := by
  rw [outcome_of_reads h, respond, hid]

end Lookup

namespace Service

/-- The answer with a row, under a request. -/
def answerRow (service : Service) (store : Store) (request : Request) (row : Row) :
    Except Error Json :=
  (Relationship.loadOnto store service.config.maxDepth request.relationships
      { model := service.model, attributes := row }).result.map fun record =>
    answer (.object (record.shape request.columns request.relationships))

theorem answerOne_eq_answerRow {service : Service} {store : Store} {params id : Json}
    {request : Request} {definition : Model} {row : Row}
    (hrequest : service.parse params = .ok request)
    (hdefinition : store.schema.model service.model = .ok definition)
    (hrow : (store.rows service.model).find? (definition.identifies id) = some row) :
    service.answerOne store id params = service.answerRow store request row := by
  have hfind :
      store.find service.model id =
        .ok (some { model := service.model, attributes := row }) := by
    rw [Store.find_eq hdefinition, hrow]
    rfl
  rw [answerOne, hrequest, answerRow]
  simp only [bind, Except.bind, hfind]
  cases (Relationship.loadOnto store service.config.maxDepth request.relationships
    { model := service.model, attributes := row }).result <;> rfl

end Service

/-- What a lookup answers whose id is a text. -/
structure Lookup.AnswersText (lookup : Lookup) (id : String) (config data : Option String) :
    Prop where
  unread : (∀ service store params, ¬lookup.Reads config data service store params) →
    lookup.outcome config data = .failed
  number : ∀ service store params, lookup.Reads config data service store params →
    ∀ n : JsonNumber, n.SpelledBy id →
      lookup.outcome config data = .ofAnswer (service.answerOne store (.number n) params)
  string : ∀ service store params, lookup.Reads config data service store params →
    Json.ofText? id = none →
      lookup.outcome config data = .ofAnswer (service.answerOne store (.text id) params)
  value : ∀ service store params, lookup.Reads config data service store params →
    ∀ value, Json.ofText? id = some value →
      lookup.outcome config data = .ofAnswer (service.answerOne store value params)
  row : ∀ service store params, lookup.Reads config data service store params →
    (Json.ofText? id = none ∨ ∃ n : JsonNumber, n.SpelledBy id) →
      ∀ request definition before row after,
        service.parse params = .ok request →
          store.schema.model service.model = .ok definition →
            store.rows service.model = before ++ row :: after →
              row.get? definition.primaryKey = some (.text id) →
                (∀ earlier ∈ before, definition.identifies (idOfText id) earlier = false) →
                  lookup.outcome config data = .ofAnswer (service.answerRow store request row)
  missed : ∀ value, Json.ofText? id = some value → (∀ n, value ≠ .number n) →
    ∀ (definition : Model) (row : Row), row.get? definition.primaryKey = some (.text id) →
      definition.identifies value row = false

theorem Lookup.answersText {lookup : Lookup} {id : String} (hid : lookup.id = some id)
    (config data : Option String) :
    lookup.AnswersText id config data where
  unread := outcome_of_not_reads
  number service store params hreads n hspelled := by
    rw [outcome_of_id hid hreads, idOfText_of_spelledBy hspelled]
  string service store params hreads hnone := by
    rw [outcome_of_id hid hreads, idOfText, hnone, Option.getD_none]
  value service store params hreads value hvalue := by
    rw [outcome_of_id hid hreads, idOfText, hvalue, Option.getD_some]
  row service store params hreads htext request definition before row after hrequest hdefinition
      hrows hkey hbefore := by
    have hfound :
        (store.rows service.model).find? (definition.identifies (idOfText id)) = some row := by
      rw [hrows, List.find?_append, List.find?_eq_none.mpr, Option.none_or,
        List.find?_cons_of_pos ((Model.identifies_text_iff hkey).mpr htext)]
      intro earlier hearlier
      rw [hbefore earlier hearlier]
      exact Bool.false_ne_true
    rw [outcome_of_id hid hreads, Service.answerOne_eq_answerRow hrequest hdefinition hfound]
  missed value hvalue hother definition row hkey := by
    have hsame : idOfText id = value := by rw [idOfText, hvalue, Option.getD_some]
    rw [← hsame, Bool.eq_false_iff]
    intro hidentifies
    rcases (Model.identifies_text_iff hkey).mp hidentifies with hnone | ⟨n, hspelled⟩
    · rw [hvalue] at hnone
      cases hnone
    · rw [Json.ofText?_eq_number_iff.mpr hspelled] at hvalue
      exact hother n (Option.some.inj hvalue).symm

/-- An id is read in either form unless it looks like an option.  A number finds the rows of the
number and a text that is no JSON those of the string; any other value finds its own rows, and not
the row whose key is the text. -/
theorem id_text_answers (id : String) :
    (∀ arguments lookup, Arguments.read? arguments = some (.answer lookup) → lookup.id = none →
        Arguments.read? (("--id=" ++ id) :: arguments) =
            some (.answer { lookup with id := some id }) ∧
          Arguments.read? ("--id" :: id :: arguments) =
            if Arguments.looksLikeOption id then none
            else some (.answer { lookup with id := some id })) ∧
      ∀ lookup : Lookup, lookup.id = some id → ∀ config data,
        lookup.AnswersText id config data := by
  constructor
  · intro arguments lookup hread hid
    obtain ⟨_, hwith⟩ := Arguments.readFrom?_withId hread hid id
    rw [Arguments.read?_idOption_cons, Arguments.read?_id_cons_cons, hwith]
    exact ⟨rfl, rfl⟩
  · intro lookup hid config data
    exact Lookup.answersText hid config data

deriving instance DecidableEq for Store

/-- Flags under the texts of their names. -/
def flagsText : String :=
  "\x7b\"schema\":\x7b\"flags\":\x7b\x7d\x7d,\"data\":\x7b\"flags\":[" ++
    "\x7b\"id\":\"on\",\"set\":1\x7d,\x7b\"id\":\"true\",\"set\":2\x7d]\x7d\x7d"

def flagsStore : Store where
  schema := { models := [("flags", {})] }
  tables :=
    [("flags",
      [[("id", .text "on"), ("set", .number (.int 1))],
        [("id", .text "true"), ("set", .number (.int 2))]])]

theorem flagsText_reads (config : String) (id : Option String) :
    Lookup.Reads ⟨config, "flags.json", "flags", "\x7b\x7d", id⟩ none (some flagsText)
      ⟨{}, "flags"⟩ flagsStore (.object []) where
  store := congrArg some (by decide +kernel)
  params := by
    have hparams : Json.ofText? "\x7b\x7d" = some (.object []) := by decide +kernel
    exact hparams
  service := by
    have hname : isIdentifier "flags" := by decide +kernel
    exact bind_eq_ok_iff.mpr ⟨"flags", identifier_eq_ok_iff.mpr ⟨hname, rfl⟩, rfl⟩

/-- The text of a key finds its row, and an option-like text is read behind an equals sign only. -/
theorem flag_found_by_text :
    let lookup : Lookup := ⟨defaultConfigPath, "flags.json", "flags", "\x7b\x7d", some "on"⟩
    let arguments : List String := ["--data", "flags.json", "--model", "flags"]
    let on : Json := .object [("id", .text "on"), ("set", .number (.int 1))]
    Arguments.read? ("--id" :: "on" :: arguments) = some (.answer lookup) ∧
      lookup.outcome none (some flagsText) = .ofAnswer (.ok (Service.answer on)) ∧
        Arguments.read? ("--id" :: "-1" :: arguments) = none ∧
          Arguments.read? ("--id=-1" :: arguments) =
            some (.answer { lookup with id := some "-1" }) := by
  intro lookup arguments on
  have hlist : Arguments.read? arguments = some (.answer { lookup with id := none }) := by
    decide +kernel
  obtain ⟨hreads, hanswers⟩ := id_text_answers "on"
  obtain ⟨hreadsNumber, _⟩ := id_text_answers "-1"
  have htext : Json.ofText? "on" = none := by decide +kernel
  have hfound := (hanswers lookup rfl none (some flagsText)).row _ _ _
    (flagsText_reads defaultConfigPath (some "on")) (.inl htext) {} {} [] _ _ rfl rfl rfl rfl nofun
  exact ⟨(hreads arguments _ hlist rfl).2, hfound, (hreadsNumber arguments _ hlist rfl).2,
    (hreadsNumber arguments _ hlist rfl).1⟩

/-- The text of the key is no number, and still its row is not found. -/
theorem flag_true_not_found :
    let lookup : Lookup := ⟨defaultConfigPath, "flags.json", "flags", "\x7b\x7d", some "true"⟩
    let service : Service := ⟨{}, "flags"⟩
    let on : Json := .object [("id", .text "true"), ("set", .number (.int 2))]
    (∀ n : JsonNumber, ¬n.SpelledBy "true") ∧
      service.answerOne flagsStore (.text "true") (.object []) = .ok (Service.answer on) ∧
        lookup.outcome none (some flagsText) =
            .ofAnswer (.error (.notFound "flags" (.bool true))) ∧
          lookup.outcome none (some flagsText) ≠
            .ofAnswer (service.answerOne flagsStore (.text "true") (.object [])) := by
  intro lookup service on
  have htext : Json.ofText? "true" = some (.bool true) := by decide +kernel
  have hspelled : ∀ n : JsonNumber, ¬n.SpelledBy "true" := by
    intro n hn
    rw [← Json.ofText?_eq_number_iff, htext] at hn
    cases hn
  have hstring :
      service.answerOne flagsStore (.text "true") (.object []) = .ok (Service.answer on) := by
    rfl
  have houtcome : lookup.outcome none (some flagsText) =
      .ofAnswer (.error (.notFound "flags" (.bool true))) := by
    rw [Lookup.outcome_of_id rfl (flagsText_reads defaultConfigPath (some "true")), idOfText,
      htext]
    rfl
  refine ⟨hspelled, hstring, houtcome, ?_⟩
  rw [houtcome, hstring]
  intro hsame
  exact absurd (congrArg Outcome.exitCode hsame) Nat.one_ne_zero

end QueryShape
