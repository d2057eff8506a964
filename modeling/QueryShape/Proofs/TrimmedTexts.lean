import Mathlib.Data.List.DropRight
import Mathlib.Data.List.TakeWhile
import QueryShape.Text.Blank

/-!
# Trimmed texts

Trimming a text leaves a part of it around which there are only blanks.  This part is empty if
the text is blank, and otherwise it has no blank at either end; no other part of the text is like
that.
-/

namespace QueryShape

structure Trimmed (text : List Char) : Prop where
  nonempty : text ≠ []
  first : ∀ c, text.head? = some c → isBlank c = false
  last : ∀ c, text.getLast? = some c → isBlank c = false

/-- A text with nothing but blanks around it. -/
def Padded (text cs : List Char) : Prop :=
  ∃ before after, cs = before ++ text ++ after ∧
    (∀ c ∈ before, isBlank c = true) ∧ ∀ c ∈ after, isBlank c = true

theorem trimmed_iff {text : List Char} :
    Trimmed text ↔
      text ≠ [] ∧ text.head?.all (!isBlank ·) = true ∧ text.getLast?.all (!isBlank ·) = true := by
  rw [Option.all_eq_true, Option.all_eq_true]
  simp only [Bool.not_eq_true']
  constructor
  · intro h
    exact ⟨h.nonempty, h.first, h.last⟩
  · intro h
    exact ⟨h.1, h.2.1, h.2.2⟩

-- The characters of the text are looked at, not all there are.
instance (text : List Char) : Decidable (Trimmed text) :=
  decidable_of_iff' _ trimmed_iff

theorem Trimmed.of_forall {text : List Char} (hne : text ≠ [])
    (h : ∀ c ∈ text, isBlank c = false) :
    Trimmed text where
  nonempty := hne
  first c hc := h c (List.mem_of_head? hc)
  last c hc := h c (List.mem_of_getLast? hc)

/-! ## Blanks at the start and at the end -/

theorem trimStart_append {blanks text : List Char} (h : ∀ c ∈ blanks, isBlank c = true) :
    trimStart (blanks ++ text) = trimStart text := by
  unfold trimStart
  exact List.dropWhile_append_of_pos h

theorem trimEnd_append {text blanks : List Char} (h : ∀ c ∈ blanks, isBlank c = true) :
    trimEnd (text ++ blanks) = trimEnd text := by
  have hreverse : ∀ c ∈ blanks.reverse, isBlank c = true := by simpa using h
  rw [trimEnd, trimEnd, List.reverse_append, trimStart_append hreverse]

theorem isBlank_of_trimStart {cs rest : List Char} {c : Char} (h : trimStart cs = c :: rest) :
    isBlank c = false := by
  have hhead := List.head?_dropWhile_not isBlank cs
  rw [trimStart] at h
  rw [h] at hhead
  exact hhead

theorem trimStart_eq_self {text : List Char}
    (h : ∀ c, text.head? = some c → isBlank c = false) :
    trimStart text = text := by
  cases text with
  | nil => rfl
  | cons c rest => exact trimStart_cons_of_not_isBlank (h c rfl)

theorem trimEnd_eq_self {text : List Char}
    (h : ∀ c, text.getLast? = some c → isBlank c = false) :
    trimEnd text = text := by
  rw [trimEnd, trimStart_eq_self, List.reverse_reverse]
  intro c hc
  rw [List.head?_reverse] at hc
  exact h c hc

theorem exists_trimStart (cs : List Char) :
    ∃ blanks, cs = blanks ++ trimStart cs ∧ ∀ c ∈ blanks, isBlank c = true := by
  refine ⟨cs.takeWhile isBlank, List.takeWhile_append_dropWhile.symm, ?_⟩
  intro c hc
  exact List.mem_takeWhile_imp hc

theorem exists_trimEnd (cs : List Char) :
    ∃ blanks, cs = trimEnd cs ++ blanks ∧ ∀ c ∈ blanks, isBlank c = true := by
  obtain ⟨blanks, hsplit, hblanks⟩ := exists_trimStart cs.reverse
  refine ⟨blanks.reverse, ?_, by simpa using hblanks⟩
  rw [trimEnd, ← List.reverse_append, ← hsplit, List.reverse_reverse]

/-! ## Blanks on both sides -/

theorem Padded.refl (text : List Char) :
    Padded text text :=
  ⟨[], [], (List.append_nil text).symm, List.forall_mem_nil _, List.forall_mem_nil _⟩

theorem padded_trim (cs : List Char) :
    Padded (trim cs) cs := by
  obtain ⟨before, hstart, hbefore⟩ := exists_trimStart cs
  obtain ⟨after, hend, hafter⟩ := exists_trimEnd (trimStart cs)
  refine ⟨before, after, ?_, hbefore, hafter⟩
  rw [trim, List.append_assoc, ← hend, ← hstart]

theorem Padded.trim_eq {text cs : List Char} (h : Padded text cs) (htext : Trimmed text) :
    trim cs = text := by
  obtain ⟨before, after, rfl, hbefore, hafter⟩ := h
  obtain ⟨c, rest, rfl⟩ := List.exists_cons_of_ne_nil htext.nonempty
  have hstart : trimStart (c :: rest ++ after) = c :: rest ++ after :=
    trimStart_cons_of_not_isBlank (htext.first c rfl)
  calc trim (before ++ (c :: rest) ++ after)
      = trimEnd (trimStart (c :: rest ++ after)) := by
        rw [trim, List.append_assoc, trimStart_append hbefore]
    _ = trimEnd (c :: rest) := by rw [hstart, trimEnd_append hafter]
    _ = c :: rest := trimEnd_eq_self htext.last

theorem trim_eq_nil_iff {cs : List Char} :
    trim cs = [] ↔ ∀ c ∈ cs, isBlank c = true := by
  constructor
  · intro h
    obtain ⟨before, after, hsplit, hbefore, hafter⟩ := padded_trim cs
    rw [h, List.append_nil] at hsplit
    rw [hsplit]
    exact List.forall_mem_append.mpr ⟨hbefore, hafter⟩
  · intro h
    have hstart : trimStart cs = [] := List.dropWhile_eq_nil_iff.mpr h
    rw [trim, hstart]
    rfl

theorem trim_ne_nil {cs rest : List Char} {c : Char} (h : trimStart cs = c :: rest) :
    trim cs ≠ [] := by
  intro hnil
  have hblanks : trimStart cs = [] := List.dropWhile_eq_nil_iff.mpr (trim_eq_nil_iff.mp hnil)
  rw [hblanks] at h
  cases h

theorem trimStart_trim (cs : List Char) :
    trimStart (trim cs) = trim cs := by
  obtain ⟨after, hend, _⟩ := exists_trimEnd (trimStart cs)
  apply trimStart_eq_self
  intro c hc
  obtain ⟨rest, htrim⟩ := List.head?_eq_some_iff.mp hc
  have hstart : trimStart cs = c :: (rest ++ after) := by
    rw [hend, ← trim, htrim, List.cons_append]
  exact isBlank_of_trimStart hstart

theorem trimEnd_trim (cs : List Char) :
    trimEnd (trim cs) = trim cs :=
  List.rdropWhile_idempotent isBlank (trimStart cs)

theorem trim_trim (cs : List Char) :
    trim (trim cs) = trim cs := by
  rw [trim, trimStart_trim, trimEnd_trim]

theorem trimmed_trim {cs : List Char} (h : trim cs ≠ []) :
    Trimmed (trim cs) where
  nonempty := h
  first c hc := by
    obtain ⟨rest, htrim⟩ := List.head?_eq_some_iff.mp hc
    have hstart : trimStart (trim cs) = c :: rest := by rw [trimStart_trim, htrim]
    exact isBlank_of_trimStart hstart
  last c hc := by
    have hreverse : trimStart (trim cs).reverse = (trim cs).reverse := by
      rw [← List.reverse_inj, List.reverse_reverse]
      exact trimEnd_trim cs
    rw [← List.head?_reverse] at hc
    obtain ⟨rest, htrim⟩ := List.head?_eq_some_iff.mp hc
    rw [htrim] at hreverse
    exact isBlank_of_trimStart hreverse

end QueryShape
