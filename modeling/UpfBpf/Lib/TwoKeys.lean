import Mathlib.Logic.Function.Basic
import Mathlib.Tactic.Common

/-!
# A table kept under two keys

A registry `R` gives each owner a key and a value, and an index `I` gives each key a value. The two
are written separately, and `Mirrors I R` says that they agree: the index holds the keys and values
of the registry, and no others. An insertion writes the key and the value of an owner into both. It
keeps them in agreement exactly when it `Fits`, that is when the owner had that key before or none,
and no other owner had it (`Mirrors.insert`, `Mirrors.fits`). A removal always does.

The values tell the owners apart (`ValueInj`), and an insertion brings a value that is `Fresh`.
-/

namespace TwoKeys

open Function

variable {A K V : Type*} {I : K → Option V} {R : A → Option (K × V)}
  {a b : A} {k l : K} {v w : V}

/-- The index holds the keys and values of the registry. -/
def Mirrors (I : K → Option V) (R : A → Option (K × V)) : Prop :=
  ∀ k v, I k = some v ↔ ∃ a, R a = some (k, v)

/-- No two owners have one value. -/
def ValueInj (R : A → Option (K × V)) : Prop :=
  ∀ ⦃a b k l v⦄, R a = some (k, v) → R b = some (l, v) → a = b

/-- No owner has the value. -/
def Fresh (R : A → Option (K × V)) (v : V) : Prop := ∀ a k, R a ≠ some (k, v)

/-- The owner `a` has the key `k` or none, and no other owner has it. -/
def Fits (R : A → Option (K × V)) (a : A) (k : K) : Prop :=
  ∀ ⦃b l v⦄, R b = some (l, v) → (b = a ↔ l = k)

/-- In agreement with the index, no two owners have one key. -/
theorem Mirrors.key_inj (h : Mirrors I R) (hv : ValueInj R) (ha : R a = some (k, v))
    (hb : R b = some (k, w)) : a = b := by
  have hv' : I k = some v := (h k v).2 ⟨a, ha⟩
  have hw : I k = some w := (h k w).2 ⟨b, hb⟩
  rw [hv'] at hw
  cases hw
  exact hv ha hb

variable [DecidableEq A]

theorem ValueInj.insert (hv : ValueInj R) (hf : Fresh R v) :
    ValueInj (update R a (some (k, v))) := by
  intro b c k' l' w hb hc
  rw [update_apply] at hb hc
  split_ifs at hb hc with h1 h2 h2
  · rw [h1, h2]
  · cases hb
    exact absurd hc (hf c l')
  · cases hc
    exact absurd hb (hf b k')
  · exact hv hb hc

theorem ValueInj.erase (hv : ValueInj R) : ValueInj (update R a none) := by
  intro b c k' l' w hb hc
  rw [update_apply] at hb hc
  split_ifs at hb hc
  exact hv hb hc

variable [DecidableEq K]

/-- An insertion that fits keeps the two in agreement. -/
theorem Mirrors.insert (h : Mirrors I R) (hf : Fits R a k) :
    Mirrors (update I k (some v)) (update R a (some (k, v))) := by
  intro l w
  by_cases hl : l = k
  · -- The new key: only the new owner has it.
    subst hl
    rw [update_self]
    constructor
    · intro e
      cases e
      exact ⟨a, update_self a _ R⟩
    · rintro ⟨b, hb⟩
      rw [update_apply] at hb
      split_ifs at hb with hba
      · cases hb
        rfl
      · exact absurd ((hf hb).2 rfl) hba
  · -- Another key: its owner is another one, since the new owner had no other key.
    rw [update_of_ne hl, h]
    constructor
    · rintro ⟨b, hb⟩
      have hba : b ≠ a := fun e => hl ((hf hb).1 e)
      exact ⟨b, by rw [update_of_ne hba, hb]⟩
    · rintro ⟨b, hb⟩
      rw [update_apply] at hb
      split_ifs at hb with hba
      · cases hb
        exact absurd rfl hl
      · exact ⟨b, hb⟩

/-- When an insertion of a fresh value leaves the two in agreement, it fits. -/
theorem Mirrors.fits (h : Mirrors I R) (hv : ValueInj R) (hfresh : Fresh R v)
    (h' : Mirrors (update I k (some v)) (update R a (some (k, v)))) : Fits R a k := by
  intro b l w hb
  have hw : w ≠ v := by
    rintro rfl
    exact hfresh b l hb
  constructor
  · -- The owner had another key: the index still holds it, and nobody has it any more.
    rintro rfl
    by_contra hl
    obtain ⟨c, hc⟩ := (h' l w).1 (by rw [update_of_ne hl]; exact (h l w).2 ⟨b, hb⟩)
    rw [update_apply] at hc
    split_ifs at hc with hcb
    · cases hc
      exact hl rfl
    · exact hcb (hv hc hb)
  · -- Another owner has the key: the index holds the new value for it.
    rintro rfl
    by_contra hba
    have hi := (h' l w).2 ⟨b, by rw [update_of_ne hba, hb]⟩
    rw [update_self] at hi
    cases hi
    exact hw rfl

/-- A removal keeps the two in agreement. -/
theorem Mirrors.erase (h : Mirrors I R) (hv : ValueInj R) (ha : R a = some (k, v)) :
    Mirrors (update I k none) (update R a none) := by
  intro l w
  by_cases hl : l = k
  · subst hl
    rw [update_self]
    refine iff_of_false (by simp) ?_
    rintro ⟨b, hb⟩
    rw [update_apply] at hb
    split_ifs at hb with hba
    exact hba (h.key_inj hv hb ha)
  · rw [update_of_ne hl, h]
    constructor
    · rintro ⟨b, hb⟩
      have hba : b ≠ a := by
        rintro rfl
        rw [ha] at hb
        cases hb
        exact hl rfl
      exact ⟨b, by rw [update_of_ne hba, hb]⟩
    · rintro ⟨b, hb⟩
      rw [update_apply] at hb
      split_ifs at hb
      exact ⟨b, hb⟩

end TwoKeys
