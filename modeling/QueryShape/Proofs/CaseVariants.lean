import Mathlib.Data.List.Chain
import QueryShape.Text.CaseFold

/-!
# Case variants

A character in a run of the table folds to the one at the same place from the target of the run
on, and a character in no run folds to itself.  Two characters are case variants of each other if
they fold to the same one.  The runs do not overlap, so the first run that has a character is the
only one, and looking it up in the table finds what the character folds to.
-/

namespace QueryShape

/-- A character at a place in a run, and the one at this place from the target on. -/
inductive FoldsTo (c d : Char) : Prop
  | place {run : FoldRun} (hrun : run ∈ simpleFoldings) (k : Nat)
      (hfirst : c.toNat = run.first + k * run.step) (hlast : c.toNat ≤ run.last)
      (htarget : d.toNat = run.target + k * run.step)

inductive Folding (c : Char) : Char → Prop
  | run {d : Char} (h : FoldsTo c d) : Folding c d
  | itself (h : ∀ d, ¬ FoldsTo c d) : Folding c c

def SameUpToCase (c d : Char) : Prop :=
  ∃ folded, Folding c folded ∧ Folding d folded

/-! ## Runs -/

theorem FoldRun.apply?_eq_some_iff {run : FoldRun} {n m : Nat} :
    run.apply? n = some m ↔
      ∃ k, n = run.first + k * run.step ∧ n ≤ run.last ∧ m = run.target + k * run.step := by
  unfold FoldRun.apply?
  constructor
  · intro h
    split at h
    next hplace =>
      obtain ⟨hfirst, hlast, hstep⟩ := hplace
      have hdistance : (n - run.first) / run.step * run.step = n - run.first :=
        Nat.div_mul_cancel (Nat.dvd_of_mod_eq_zero hstep)
      cases h
      exact ⟨(n - run.first) / run.step, by omega, hlast, by omega⟩
    next => cases h
  · rintro ⟨k, rfl, hlast, rfl⟩
    have hdistance : run.first + k * run.step - run.first = k * run.step := by omega
    rw [hdistance, if_pos ⟨by omega, hlast, Nat.mul_mod_left k run.step⟩]

def FoldRun.Before (run next : FoldRun) : Prop :=
  run.last < next.first ∧ next.first ≤ next.last

instance (run next : FoldRun) : Decidable (run.Before next) :=
  inferInstanceAs (Decidable (_ ∧ _))

theorem FoldRun.Before.trans {run next later : FoldRun} (h : run.Before next)
    (hnext : next.Before later) :
    run.Before later := by
  obtain ⟨hlast, hfirst⟩ := h
  obtain ⟨hlater, hbounds⟩ := hnext
  exact ⟨by omega, hbounds⟩

instance : Trans FoldRun.Before FoldRun.Before FoldRun.Before where
  trans := FoldRun.Before.trans

theorem pairwise_simpleFoldings :
    simpleFoldings.Pairwise FoldRun.Before :=
  List.isChain_iff_pairwise.mp (by decide +kernel)

/-- Of runs that do not overlap the first one that has a number is the one that has it. -/
theorem findSome?_eq_some_iff_of_pairwise {runs : List FoldRun} {n m : Nat}
    (h : runs.Pairwise FoldRun.Before) :
    runs.findSome? (fun run => run.apply? n) = some m ↔ ∃ run ∈ runs, run.apply? n = some m := by
  constructor
  · exact List.exists_of_findSome?_eq_some
  · rintro ⟨run, hrun, happly⟩
    induction runs with
    | nil => cases hrun
    | cons first rest ih =>
        rw [List.pairwise_cons] at h
        rw [List.findSome?_cons]
        rcases List.mem_cons.mp hrun with rfl | hrest
        · rw [happly]
        · have hnone : first.apply? n = none := by
            have hlast : first.last < run.first := (h.1 run hrest).1
            obtain ⟨k, hn, _⟩ := FoldRun.apply?_eq_some_iff.mp happly
            exact if_neg fun hplace => by omega
          rw [hnone]
          exact ih h.2 hrest

/-- What a run folds to are code points. -/
theorem isValidChar_target :
    ∀ run ∈ simpleFoldings, ∀ n, run.target ≤ n → n ≤ run.target + (run.last - run.first) →
      n.isValidChar := by
  have hbounds : ∀ run ∈ simpleFoldings,
      run.target + (run.last - run.first) < 0xD800 ∨
        0xE000 ≤ run.target ∧ run.target + (run.last - run.first) < 0x110000 := by
    decide +kernel
  intro run hrun n hlow hhigh
  have hbound := hbounds run hrun
  unfold Nat.isValidChar
  omega

/-! ## Foldings -/

theorem foldsTo_iff {c d : Char} :
    FoldsTo c d ↔ simpleFoldings.findSome? (fun run => run.apply? c.toNat) = some d.toNat := by
  rw [findSome?_eq_some_iff_of_pairwise pairwise_simpleFoldings]
  simp only [FoldRun.apply?_eq_some_iff]
  constructor
  · intro h
    cases h with
    | place hrun k hfirst hlast htarget => exact ⟨_, hrun, k, hfirst, hlast, htarget⟩
  · rintro ⟨run, hrun, k, hfirst, hlast, htarget⟩
    exact .place hrun k hfirst hlast htarget

theorem toNat_ofNat_of_findSome? {n m : Nat}
    (h : simpleFoldings.findSome? (fun run => run.apply? n) = some m) :
    (Char.ofNat m).toNat = m := by
  obtain ⟨run, hrun, happly⟩ := List.exists_of_findSome?_eq_some h
  obtain ⟨k, hfirst, hlast, htarget⟩ := FoldRun.apply?_eq_some_iff.mp happly
  have hvalid : m.isValidChar := isValidChar_target run hrun m (by omega) (by omega)
  rw [Char.ofNat, dif_pos hvalid]
  rfl

theorem folding_iff {c d : Char} :
    Folding c d ↔ foldCase c = d := by
  unfold foldCase
  cases hfind : simpleFoldings.findSome? (fun run => run.apply? c.toNat) with
  | none =>
      have hnone : ∀ e, ¬ FoldsTo c e := by
        intro e he
        rw [foldsTo_iff, hfind] at he
        cases he
      constructor
      · intro h
        cases h with
        | run h => exact absurd h (hnone d)
        | itself => rfl
      · rintro rfl
        exact .itself hnone
  | some m =>
      have hfolds : FoldsTo c (Char.ofNat m) := by
        rw [foldsTo_iff, hfind, toNat_ofNat_of_findSome? hfind]
      constructor
      · intro h
        cases h with
        | run h =>
            rw [foldsTo_iff, hfind, Option.some.injEq] at h
            rw [h]
            exact Char.ofNat_toNat d
        | itself h => exact absurd hfolds (h _)
      · rintro rfl
        exact .run hfolds

theorem sameUpToCase_iff {c d : Char} :
    SameUpToCase c d ↔ foldCase c = foldCase d := by
  unfold SameUpToCase
  simp only [folding_iff]
  constructor
  · rintro ⟨folded, hc, hd⟩
    rw [hc, hd]
  · intro h
    exact ⟨foldCase d, h, rfl⟩

/-- An ASCII character is in the run of the capital letters or in none. -/
theorem folding_toLower {c : Char} (hc : c.toNat < 128) :
    Folding c c.toLower := by
  have hlower : ∀ n < 128, (Char.ofNat n).toLower.toNat =
      if 0x41 ≤ n ∧ n ≤ 0x5A then n + 0x20 else n := by
    decide +kernel
  have hcapitals : ∀ run ∈ simpleFoldings, run.first < 128 →
      run.first = 0x41 ∧ run.last = 0x5A := by
    decide +kernel
  have htoLower := hlower c.toNat hc
  rw [Char.ofNat_toNat] at htoLower
  by_cases hcapital : 0x41 ≤ c.toNat ∧ c.toNat ≤ 0x5A
  · rw [if_pos hcapital] at htoLower
    have hmem : ⟨0x41, 0x5A, 1, 0x61⟩ ∈ simpleFoldings := List.mem_cons_self
    have hplace : c.toNat = 0x41 + (c.toNat - 0x41) * 1 := by omega
    have htarget : c.toLower.toNat = 0x61 + (c.toNat - 0x41) * 1 := by omega
    exact .run (.place hmem _ hplace hcapital.2 htarget)
  · rw [if_neg hcapital] at htoLower
    rw [Char.toNat_inj.mp htoLower]
    apply Folding.itself
    intro d hd
    cases hd with
    | place hrun k hfirst hlast _ =>
        obtain ⟨hlow, hhigh⟩ := hcapitals _ hrun (by omega)
        omega

/-- Among ASCII characters the variants are the two cases of a letter. -/
theorem sameUpToCase_iff_of_ascii {c d : Char} (hc : c.toNat < 128) (hd : d.toNat < 128) :
    SameUpToCase c d ↔ c.toLower = d.toLower := by
  rw [sameUpToCase_iff, folding_iff.mp (folding_toLower hc), folding_iff.mp (folding_toLower hd)]

instance (c d : Char) : Decidable (SameUpToCase c d) :=
  decidable_of_iff' _ sameUpToCase_iff

end QueryShape
