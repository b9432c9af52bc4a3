import Mathlib.Data.List.Sort

/-!
# Sorting by a comparison

A sort that is given a comparison and no more, such as `std::sort`: what it promises when the
comparison is a strict weak order on the elements, and nothing about the order of elements that
compare equal. An element below all others comes first, however the sort treats the rest. The
insertion sort is an instance.
-/

namespace StdSort

variable {α : Type}

/-- The comparison is a strict weak order on the elements of `l`. -/
structure StrictWeakOn (less : α → α → Bool) (l : List α) : Prop where
  /-- Nothing is below itself. -/
  irrefl : ∀ a ∈ l, less a a = false
  /-- Being below is transitive. -/
  trans : ∀ a ∈ l, ∀ b ∈ l, ∀ c ∈ l, less a b = true → less b c = true → less a c = true
  /-- Not being below is transitive. -/
  not_trans : ∀ a ∈ l, ∀ b ∈ l, ∀ c ∈ l, less b a = false → less c b = false → less c a = false

/-- The promise of a sort. A single element is not compared with anything. -/
structure IsSort (sort : (α → α → Bool) → List α → List α) : Prop where
  /-- A single element stays. -/
  single : ∀ less a, sort less [a] = [a]
  /-- The elements are the same ones. -/
  perm : ∀ less l, StrictWeakOn less l → (sort less l).Perm l
  /-- None is below one before it. -/
  pairwise : ∀ less l, StrictWeakOn less l → (sort less l).Pairwise fun a b => less b a = false

/-- A comparison of numbers that are assigned to the elements is a strict weak order. -/
theorem strictWeakOn_of_rank {less : α → α → Bool} {l : List α} (rank : α → ℕ)
    (h : ∀ a ∈ l, ∀ b ∈ l, less a b = decide (rank a < rank b)) : StrictWeakOn less l where
  irrefl a ha := by simp [h a ha a ha]
  trans a ha b hb c hc := by
    simp only [h a ha b hb, h b hb c hc, h a ha c hc, decide_eq_true_eq]
    omega
  not_trans a ha b hb c hc := by
    simp only [h b hb a ha, h c hc b hb, h c hc a ha, decide_eq_false_iff_not]
    omega

/-- An element that is below all others comes first. -/
theorem IsSort.head_eq_of_least {sort : (α → α → Bool) → List α → List α} (hs : IsSort sort)
    {less : α → α → Bool} {l : List α} (hw : StrictWeakOn less l) {a : α} (ha : a ∈ l)
    (hleast : ∀ b ∈ l, b ≠ a → less a b = true) : ∃ rest, sort less l = a :: rest := by
  have hp := hs.perm less l hw
  have hsorted := hs.pairwise less l hw
  generalize sort less l = sorted at hp hsorted
  cases sorted with
  | nil =>
    rw [hp.symm.eq_nil] at ha
    cases ha
  | cons b rest =>
    have hb : b ∈ l := hp.mem_iff.1 List.mem_cons_self
    by_cases e : b = a
    · exact ⟨rest, by rw [e]⟩
    -- Otherwise `a` is behind `b`, and below it.
    · have har : a ∈ rest := by
        rcases List.mem_cons.1 (hp.mem_iff.2 ha) with h | h
        · exact absurd h.symm e
        · exact h
      have hnot := (List.pairwise_cons.1 hsorted).1 a har
      rw [hleast b hb e] at hnot
      cases hnot

/-- Of two elements, at most one is below the other. -/
theorem StrictWeakOn.asymm {less : α → α → Bool} {l : List α} (hw : StrictWeakOn less l) {a b : α}
    (ha : a ∈ l) (hb : b ∈ l) (h : less a b = true) : less b a = false := by
  by_contra hba
  have haa := hw.trans a ha b hb a ha h (Bool.eq_true_of_not_eq_false hba)
  rw [hw.irrefl a ha] at haa
  cases haa

/-- A list stays in which each element is below all that come after it. -/
theorem IsSort.eq_self {sort : (α → α → Bool) → List α → List α} (hs : IsSort sort)
    {less : α → α → Bool} {l : List α} (hw : StrictWeakOn less l)
    (h : l.Pairwise fun a b => less a b = true) : sort less l = l := by
  have hp := hs.perm less l hw
  have hsorted : l.Pairwise fun a b => less b a = false :=
    h.imp_of_mem fun ha hb hab => hw.asymm ha hb hab
  -- Two elements of which neither is below the other are one.
  have heq : ∀ a ∈ l, ∀ b ∈ l, less b a = false → less a b = false → a = b := by
    refine List.Pairwise.forall_of_forall_of_flip (fun _ _ _ _ => rfl) (h.imp ?_) (h.imp ?_)
    · intro a b hab _ hnot
      rw [hab] at hnot
      cases hnot
    · intro a b hab hnot _
      rw [hab] at hnot
      cases hnot
  exact hp.eq_of_pairwise (fun a b ha hb => heq a (hp.mem_iff.1 ha) b hb)
    (hs.pairwise less l hw) hsorted

/-- A list that stays is in its order. -/
theorem IsSort.pairwise_of_eq_self {sort : (α → α → Bool) → List α → List α} (hs : IsSort sort)
    {less : α → α → Bool} {l : List α} (hw : StrictWeakOn less l) (h : sort less l = l) :
    l.Pairwise fun a b => less b a = false := by
  have hsorted := hs.pairwise less l hw
  rwa [h] at hsorted

/-- A comparison of numbers that are assigned to the elements sorts by them. -/
theorem IsSort.sorted_of_rank {sort : (α → α → Bool) → List α → List α} (hs : IsSort sort)
    {less : α → α → Bool} {l : List α} (rank : α → ℕ)
    (h : ∀ a ∈ l, ∀ b ∈ l, less a b = decide (rank a < rank b)) :
    (sort less l).Perm l ∧ (sort less l).Pairwise fun a b => rank a ≤ rank b := by
  have hw := strictWeakOn_of_rank rank h
  have hp := hs.perm less l hw
  refine ⟨hp, (hs.pairwise less l hw).imp_of_mem fun {a b} ha hb hab => ?_⟩
  rw [h b (hp.mem_iff.1 hb) a (hp.mem_iff.1 ha), decide_eq_false_iff_not] at hab
  omega

/-- When no two elements have the same number, the result does not depend on the order in which they
were given, nor on the sort. -/
theorem eq_of_perm_of_rank {l l' : List α} (rank : α → ℕ) (hp : l.Perm l')
    (h : l.Pairwise fun a b => rank a ≤ rank b) (h' : l'.Pairwise fun a b => rank a ≤ rank b)
    (hd : (l.map rank).Nodup) : l = l' := by
  refine hp.eq_of_pairwise (fun a b ha hb hab hba => ?_) h h'
  exact List.inj_on_of_nodup_map hd ha (hp.mem_iff.2 hb) (by omega)

/-- On the elements of `l`, the insertion sort follows a total preorder. -/
theorem pairwise_insertionSort_of_strictWeakOn {less : α → α → Bool} {l : List α}
    (hw : StrictWeakOn less l) :
    (l.insertionSort fun a b => !less b a).Pairwise fun a b => less b a = false := by
  -- The order is one on the elements of `l` only, so they are sorted with their membership.
  let r (a b : {x // x ∈ l}) : Prop := (!less b a) = true
  have : Std.Total r := by
    refine ⟨fun a b => ?_⟩
    by_contra hn
    simp only [r, Bool.not_eq_true', not_or, Bool.not_eq_false] at hn
    have := hw.asymm b.2 a.2 hn.1
    rw [hn.2] at this
    cases this
  have : IsTrans {x // x ∈ l} r := by
    refine ⟨fun a b c hab hbc => ?_⟩
    simp only [r, Bool.not_eq_true'] at hab hbc ⊢
    exact hw.not_trans a a.2 b b.2 c c.2 hab hbc
  have hmap := List.map_insertionSort r (fun a b : α => (!less b a) = true) Subtype.val l.attach
    (fun a _ b _ => Iff.rfl)
  rw [List.attach_map_subtype_val] at hmap
  rw [← hmap, List.pairwise_map]
  refine (List.pairwise_insertionSort r l.attach).imp ?_
  intro a b hab
  simpa [r] using hab

/-- The insertion sort keeps the promise. -/
theorem isSort_insertionSort :
    IsSort fun (less : α → α → Bool) => List.insertionSort fun a b => !less b a where
  single _ _ := rfl
  perm _ l _ := List.perm_insertionSort _ l
  pairwise _ _ hw := pairwise_insertionSort_of_strictWeakOn hw

end StdSort
