import Mathlib.Data.List.Basic
import Mathlib.Data.List.Induction
import QueryShape.Fields

/-!
# Repeated names

A list of entries may name a value more than once.  When the entries are put into
named values one after another, the first entry of a name decides its place and the
last one its value.  So the list can be read name by name, each name once and in the
order in which it is first written.
-/

namespace QueryShape

theorem eraseDups_concat (names : List String) (name : String) :
    (names ++ [name]).eraseDups =
      if name ∈ names then names.eraseDups else names.eraseDups ++ [name] := by
  by_cases h : name ∈ names <;>
    simp [List.eraseDups_append, List.removeAll, List.eraseDups_cons, h]

theorem nodup_eraseDups (names : List String) :
    names.eraseDups.Nodup := by
  induction names using List.reverseRecOn with
  | nil => exact List.nodup_nil
  | append_singleton names name ih =>
      rw [eraseDups_concat]
      split
      next => exact ih
      next hnew =>
        refine List.nodup_append.mpr ⟨ih, by simp, ?_⟩
        intro other hother last hlast
        rw [List.mem_singleton.mp hlast]
        exact ne_of_mem_of_not_mem (List.mem_eraseDups.mp hother) hnew

namespace Fields

variable {α : Type}

/-- The value of the last entry of a name. -/
def last? : Fields α → String → Option α
  | [], _ => none
  | (name, value) :: rest, key => (last? rest key).or (if name = key then some value else none)

def putSome (fields : Fields α) (name : String) : Option α → Fields α
  | some value => fields.put name value
  | none => fields

/-! ## Putting values -/

theorem names_cons (entry : String × α) (fields : Fields α) :
    names (entry :: fields) = entry.1 :: names fields :=
  rfl

theorem mem_of_get? {fields : Fields α} {key : String} {value : α}
    (h : get? fields key = some value) :
    (key, value) ∈ fields := by
  induction fields with
  | nil => cases h
  | cons entry rest ih =>
      obtain ⟨name, first⟩ := entry
      rw [get?] at h
      split at h
      next hname =>
        cases h
        rw [hname]
        exact List.mem_cons_self
      next => exact List.mem_cons_of_mem _ (ih h)

theorem get?_eq_none_iff {fields : Fields α} {key : String} :
    get? fields key = none ↔ key ∉ names fields := by
  induction fields with
  | nil => simp [names]
  | cons entry rest ih =>
      obtain ⟨name, value⟩ := entry
      rw [get?, names_cons, List.mem_cons, not_or]
      by_cases hname : name = key
      · simp [hname]
      · simp [hname, Ne.symm hname, ih]

/-- Distinct names and their values determine named values. -/
theorem eq_of_get?_eq {fields other : Fields α} (hnames : names fields = names other)
    (hdistinct : (names fields).Nodup) (hget : ∀ key, get? fields key = get? other key) :
    fields = other := by
  induction fields generalizing other with
  | nil =>
      cases other with
      | nil => rfl
      | cons entry rest => cases hnames
  | cons entry rest ih =>
      cases other with
      | nil => cases hnames
      | cons first others =>
          obtain ⟨name, value⟩ := entry
          obtain ⟨_, found⟩ := first
          rw [names_cons, names_cons, List.cons.injEq] at hnames
          obtain ⟨rfl, hrest⟩ := hnames
          rw [names_cons, List.nodup_cons] at hdistinct
          have hvalue : value = found := by
            simpa [get?] using hget name
          rw [hvalue, ih hrest hdistinct.2]
          intro key
          by_cases hkey : name = key
          · -- Neither rest has an entry of the first name.
            rw [← hkey, get?_eq_none_iff.mpr hdistinct.1, get?_eq_none_iff.mpr]
            rw [← hrest]
            exact hdistinct.1
          · simpa [get?, hkey] using hget key

theorem put_eq_self {fields : Fields α} {key : String} {value : α}
    (h : get? fields key = some value) :
    put fields key value = fields := by
  induction fields with
  | nil => cases h
  | cons entry rest ih =>
      obtain ⟨name, old⟩ := entry
      rw [get?] at h
      rw [put]
      split at h
      next hname => rw [if_pos hname, Option.some.inj h]
      next hname => rw [if_neg hname, ih h]

theorem put_of_not_mem {fields : Fields α} {key : String} (h : key ∉ names fields) (value : α) :
    put fields key value = fields ++ [(key, value)] := by
  induction fields with
  | nil => rfl
  | cons entry rest ih =>
      obtain ⟨name, old⟩ := entry
      simp only [names, List.map_cons, List.mem_cons, not_or] at h ih
      rw [put, if_neg (Ne.symm h.1), ih h.2, List.cons_append]

theorem put_put (fields : Fields α) (key : String) (old new : α) :
    put (put fields key old) key new = put fields key new := by
  induction fields with
  | nil => simp [put]
  | cons entry rest ih =>
      obtain ⟨name, value⟩ := entry
      by_cases hname : name = key
      · simp [put, hname]
      · simp [put, hname, ih]

-- Two new names would be appended in the order in which they are put.
theorem put_comm {fields : Fields α} {key other : String} (hmem : key ∈ names fields)
    (hne : key ≠ other) (value new : α) :
    put (put fields key value) other new = put (put fields other new) key value := by
  induction fields with
  | nil => cases hmem
  | cons entry rest ih =>
      obtain ⟨name, old⟩ := entry
      by_cases hname : name = key
      · subst hname
        simp [put, hne]
      · have hrest : key ∈ names rest := by
          rcases List.mem_cons.mp hmem with heq | hrest
          · exact absurd heq.symm hname
          · exact hrest
        by_cases hother : name = other
        · subst hother
          simp [put, hname]
        · simp [put, hname, hother, ih hrest]

theorem mem_names_put_self (fields : Fields α) (key : String) (value : α) :
    key ∈ names (put fields key value) := by
  rw [names_put]
  split
  next hmem => exact hmem
  next => simp

theorem mem_names_put {fields : Fields α} {key : String} (h : key ∈ names fields)
    (other : String) (value : α) :
    key ∈ names (put fields other value) := by
  rw [names_put]
  split
  next => exact h
  next => exact List.mem_append_left _ h

/-! ## Last entries -/

theorem last?_append (entries more : Fields α) (key : String) :
    last? (entries ++ more) key = (last? more key).or (last? entries key) := by
  induction entries with
  | nil => simp [last?]
  | cons entry rest ih =>
      obtain ⟨name, value⟩ := entry
      rw [List.cons_append, last?, last?, ih, Option.or_assoc]

theorem last?_eq_none_iff {entries : Fields α} {key : String} :
    last? entries key = none ↔ key ∉ names entries := by
  induction entries with
  | nil => simp [last?, names]
  | cons entry rest ih =>
      obtain ⟨name, value⟩ := entry
      simp only [last?, Option.or_eq_none_iff, ih, names, List.map_cons, List.mem_cons, not_or]
      by_cases hname : name = key <;> simp [hname, Ne.symm, eq_comm]

theorem last?_cons_of_mem {entries : Fields α} {key : String} (h : key ∈ names entries)
    (entry : String × α) :
    last? (entry :: entries) key = last? entries key := by
  rw [last?]
  cases hlast : last? entries key with
  | none => exact absurd h (last?_eq_none_iff.mp hlast)
  | some value => rfl

theorem mem_of_last? {entries : Fields α} {key : String} {value : α}
    (h : last? entries key = some value) :
    (key, value) ∈ entries := by
  induction entries with
  | nil => cases h
  | cons entry rest ih =>
      obtain ⟨name, first⟩ := entry
      rw [last?] at h
      cases hlast : last? rest key with
      | some found =>
          rw [hlast, Option.some_or] at h
          exact List.mem_cons_of_mem _ (ih (hlast.trans h))
      | none =>
          rw [hlast, Option.none_or] at h
          split at h
          next hname =>
            rw [← hname, ← Option.some.inj h]
            exact List.mem_cons_self
          next => cases h

theorem get?_putAll (more fields : Fields α) (key : String) :
    get? (putAll fields more) key = (last? more key).or (get? fields key) := by
  induction more generalizing fields with
  | nil => rfl
  | cons entry rest ih =>
      obtain ⟨name, value⟩ := entry
      have hput : putAll fields ((name, value) :: rest) = putAll (put fields name value) rest := rfl
      rw [hput, ih, get?_put, last?, Option.or_assoc]
      by_cases hname : name = key <;> simp [hname]

theorem get?_ofEntries (entries : Fields α) (key : String) :
    get? (ofEntries entries) key = last? entries key := by
  rw [ofEntries, get?_putAll, get?_nil, Option.or_none]

/-! ## Each name once -/

theorem get?_map_of_mem (f : String → α) {columns : List String} {column : String}
    (h : column ∈ columns) :
    get? (columns.map fun column => (column, f column)) column = some (f column) := by
  induction columns with
  | nil => cases h
  | cons first rest ih =>
      rw [List.map_cons, get?]
      split
      next heq => rw [heq]
      next hne => exact ih ((List.mem_cons.mp h).resolve_left (Ne.symm hne))

theorem ofEntries_map (f : String → α) (columns : List String) :
    ofEntries (columns.map fun column => (column, f column)) =
      columns.eraseDups.map fun column => (column, f column) := by
  induction columns using List.reverseRecOn with
  | nil => rfl
  | append_singleton columns column ih =>
      have hput :
          ofEntries ((columns ++ [column]).map fun column => (column, f column)) =
            put (ofEntries (columns.map fun column => (column, f column))) column (f column) := by
        simp [ofEntries, putAll]
      have hnames :
          names (columns.eraseDups.map fun column => (column, f column)) = columns.eraseDups := by
        simp [names, Function.comp_def]
      rw [hput, ih, eraseDups_concat]
      by_cases hmem : column ∈ columns
      · rw [if_pos hmem]
        exact put_eq_self (get?_map_of_mem f (List.mem_eraseDups.mpr hmem))
      · rw [if_neg hmem, put_of_not_mem, List.map_append, List.map_singleton]
        rwa [hnames, List.mem_eraseDups]

theorem get?_putSome (fields : Fields α) (name key : String) (value : Option α) :
    get? (fields.putSome name value) key =
      if name = key then value.or (get? fields key) else get? fields key := by
  cases value with
  | none => simp [putSome]
  | some value => simp [putSome, get?_put]

theorem get?_foldl_putSome (f : String → Option α) {columns : List String} {key : String}
    {value : α} (hvalue : f key = some value) {fields : Fields α}
    (h : key ∈ columns ∨ get? fields key = some value) :
    get? (columns.foldl (fun fields name => fields.putSome name (f name)) fields) key =
      some value := by
  induction columns generalizing fields with
  | nil => exact h.resolve_left List.not_mem_nil
  | cons first rest ih =>
      rw [List.foldl_cons]
      apply ih
      rw [get?_putSome]
      by_cases hfirst : first = key
      · subst hfirst
        simp [hvalue]
      · rw [if_neg hfirst]
        exact h.imp_left fun hmem => (List.mem_cons.mp hmem).resolve_left (Ne.symm hfirst)

theorem foldl_putSome_eraseDups (f : String → Option α) (columns : List String)
    (fields : Fields α) :
    columns.eraseDups.foldl (fun fields name => fields.putSome name (f name)) fields =
      columns.foldl (fun fields name => fields.putSome name (f name)) fields := by
  induction columns using List.reverseRecOn with
  | nil => rfl
  | append_singleton columns column ih =>
      rw [eraseDups_concat, List.foldl_append, List.foldl_cons, List.foldl_nil]
      by_cases hmem : column ∈ columns
      · rw [if_pos hmem, ih]
        cases hvalue : f column with
        | none => rfl
        | some value => exact (put_eq_self (get?_foldl_putSome f hvalue (.inl hmem))).symm
      · rw [if_neg hmem, List.foldl_append, List.foldl_cons, List.foldl_nil, ih]

/-- Puts entries one after another, where some names may come without a value. -/
def putEach (fields : Fields α) (entries : Fields (Option α)) : Fields α :=
  entries.foldl (fun fields entry => fields.putSome entry.1 entry.2) fields

/-- Puts each name once, in the order of the first entries, with the value of its last entry. -/
def putLast (fields : Fields α) (entries : Fields (Option α)) : Fields α :=
  (names entries).eraseDups.foldl
    (fun fields name => fields.putSome name (entries.last? name).join) fields

theorem putEach_cons (fields : Fields α) (entry : String × Option α)
    (entries : Fields (Option α)) :
    fields.putEach (entry :: entries) = (fields.putSome entry.1 entry.2).putEach entries :=
  rfl

theorem putEach_append (fields : Fields α) (entries more : Fields (Option α)) :
    fields.putEach (entries ++ more) = (fields.putEach entries).putEach more :=
  List.foldl_append

theorem get?_putEach_of_none {entries : Fields (Option α)} {key : String}
    (h : ∀ entry ∈ entries, entry.1 = key → entry.2 = none) (fields : Fields α) :
    get? (fields.putEach entries) key = get? fields key := by
  induction entries generalizing fields with
  | nil => rfl
  | cons entry rest ih =>
      obtain ⟨hentry, hrest⟩ := List.forall_mem_cons.mp h
      rw [putEach_cons, ih hrest, get?_putSome]
      split
      next hname => rw [hentry hname, Option.none_or]
      next => rfl

theorem get?_putEach_of_not_mem {entries : Fields (Option α)} {key : String}
    (h : key ∉ names entries) (fields : Fields α) :
    get? (fields.putEach entries) key = get? fields key :=
  get?_putEach_of_none (fun _ hentry hname => absurd (hname ▸ List.mem_map_of_mem hentry) h) fields

/-- The last value of a name stays. -/
theorem get?_putEach_of_last {before after : Fields (Option α)} {key : String}
    (h : key ∉ names after) (value : α) (fields : Fields α) :
    get? (fields.putEach (before ++ (key, some value) :: after)) key = some value := by
  rw [putEach_append, putEach_cons, get?_putEach_of_not_mem h, get?_putSome, if_pos rfl,
    Option.some_or]

/-- The names that are new follow, each at its first entry that has a value. -/
theorem names_putEach (fields : Fields α) (entries : Fields (Option α)) :
    names (fields.putEach entries) =
      names fields ++
        ((names (entries.filter (·.2.isSome))).filter (· ∉ names fields)).eraseDups := by
  induction entries generalizing fields with
  | nil => simp [putEach, names]
  | cons entry rest ih =>
      obtain ⟨name, value⟩ := entry
      rw [putEach_cons, ih]
      cases value with
      | none => rfl
      | some value =>
          rw [List.filter_cons_of_pos rfl, names_cons, putSome, names_put]
          by_cases hmem : name ∈ names fields
          · rw [if_pos hmem, List.filter_cons_of_neg (by simpa using hmem)]
          · -- A new name is appended, and its later entries are new no more.
            rw [if_neg hmem, List.filter_cons_of_pos (by simpa using hmem), List.eraseDups_cons,
              List.filter_filter, List.append_assoc, List.singleton_append]
            congr 4
            funext other
            simp [Bool.and_comm, beq_eq_decide]

theorem get?_putLast_of_not_mem {entries : Fields (Option α)} {key : String}
    (h : key ∉ names entries) (fields : Fields α) :
    get? (fields.putLast entries) key = get? fields key := by
  let once : Fields (Option α) :=
    (names entries).eraseDups.map fun name => (name, (entries.last? name).join)
  have hputLast : fields.putLast entries = fields.putEach once := by
    rw [putEach, List.foldl_map]
    rfl
  have honce : key ∉ names once := by
    simpa [once, names] using h
  rw [hputLast, get?_putEach_of_not_mem honce]

/-- A value does not matter when its name is given another one later. -/
theorem putEach_put {entries : Fields (Option α)} {key : String}
    (hpresent : ∀ entry ∈ entries, entry.1 = key → entry.2.isSome)
    (hmem : key ∈ names entries) {fields : Fields α} (hkey : key ∈ names fields) (value : α) :
    (fields.put key value).putEach entries = fields.putEach entries := by
  induction entries generalizing fields with
  | nil => cases hmem
  | cons entry rest ih =>
      obtain ⟨name, given⟩ := entry
      have hlater : ∀ entry ∈ rest, entry.1 = key → entry.2.isSome := fun entry h =>
        hpresent entry (List.mem_cons_of_mem _ h)
      rw [putEach_cons, putEach_cons]
      by_cases hname : name = key
      · subst hname
        obtain ⟨new, rfl⟩ := Option.isSome_iff_exists.mp (hpresent _ List.mem_cons_self rfl)
        simp only [putSome, put_put]
      · have hrest : key ∈ names rest := (List.mem_cons.mp hmem).resolve_left (Ne.symm hname)
        cases given with
        | none => exact ih hlater hrest hkey
        | some new =>
            simp only [putSome]
            rw [put_comm hkey (Ne.symm hname)]
            exact ih hlater hrest (mem_names_put hkey name new)

theorem putEach_putSome_last {entries : Fields (Option α)} {present : String → Bool}
    (h : ∀ entry ∈ entries, entry.2.isSome = present entry.1) {name : String} {value : Option α}
    (hvalue : value.isSome = present name) (fields : Fields α) :
    (fields.putSome name (last? ((name, value) :: entries) name).join).putEach entries =
      (fields.putSome name value).putEach entries := by
  by_cases hmem : name ∈ names entries
  · rw [last?_cons_of_mem hmem]
    cases hlast : last? entries name with
    | none => exact absurd hmem (last?_eq_none_iff.mp hlast)
    | some last =>
        have hsame : last.isSome = value.isSome := by
          rw [h _ (mem_of_last? hlast), hvalue]
        rw [Option.join_some]
        -- The last value comes later, so it may overwrite the first one already now.
        cases value with
        | none =>
            have hnone : last = none := Option.not_isSome_iff_eq_none.mp (by simp [hsame])
            rw [hnone]
        | some old =>
            obtain ⟨new, rfl⟩ := Option.isSome_iff_exists.mp hsame
            have hpresent : ∀ entry ∈ entries, entry.1 = name → entry.2.isSome := by
              rintro entry hentry rfl
              rw [h entry hentry, ← hvalue, Option.isSome_some]
            have hkey : name ∈ names (fields.put name old) := mem_names_put_self fields name old
            have hput : (fields.put name old).put name new = fields.put name new :=
              put_put fields name old new
            simp only [putSome]
            rw [← hput, putEach_put hpresent hmem hkey]
  · rw [last?, last?_eq_none_iff.mpr hmem, if_pos rfl, Option.none_or, Option.join_some]

/-- The entries act as their last ones do if the name decides whether there is a value. -/
theorem putEach_eq_putLast {entries : Fields (Option α)} {present : String → Bool}
    (h : ∀ entry ∈ entries, entry.2.isSome = present entry.1) (fields : Fields α) :
    fields.putEach entries = fields.putLast entries := by
  rw [putLast, foldl_putSome_eraseDups]
  induction entries generalizing fields with
  | nil => rfl
  | cons entry rest ih =>
      obtain ⟨name, value⟩ := entry
      have hvalue : value.isSome = present name := h _ List.mem_cons_self
      have hrest : ∀ entry ∈ rest, entry.2.isSome = present entry.1 := fun entry hmem =>
        h entry (List.mem_cons_of_mem _ hmem)
      rw [putEach_cons, ← putEach_putSome_last hrest hvalue, ih hrest, names_cons,
        List.foldl_cons]
      apply List.foldl_ext
      intro shown other hother
      rw [last?_cons_of_mem hother]

end Fields

end QueryShape
