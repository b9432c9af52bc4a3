import Mathlib.Data.Multiset.AddSub
import Mathlib.Data.Multiset.Count
import UpfBpf.Lib.Run

/-!
# Bags of names

A store that keeps its entries in a list and never compares their names holds a bag of names: a name
is in it as often as an entry was added under it, and a removal takes one of them out. `Store` is a
machine whose states hold such a bag, and whose inputs add a name, remove one, or leave the bag. The
first section is about the names in a list when one of its entries is changed or erased.

One expects of a removal that the name is gone until it is added again. `removalsFinal_iff` says
that the removals of a run keep to this exactly when each of them takes the only copy, and
`single_of_fresh` that they do when no name is added that is there already.
-/

namespace Bag

section Names

variable {α β : Type}

/-- An entry that is changed under its name leaves the names. -/
theorem map_modify (name : α → β) {f : α → α} (h : ∀ a, name (f a) = name a) (l : List α) (i : ℕ) :
    (l.modify i f).map name = l.map name := by
  refine List.ext_getElem? fun j => ?_
  rw [List.getElem?_map, List.getElem?_map]
  by_cases hj : i = j
  · subst hj
    rw [List.getElem?_modify_eq]
    cases l[i]? with
    | none => rfl
    | some a => exact congrArg some (h a)
  · rw [List.getElem?_modify_ne _ _ hj]

/-- When the first entry with a name is erased, so is the first copy of the name. -/
theorem map_eraseP [DecidableEq β] (name : α → β) {p : α → Bool} {b : β}
    (h : ∀ a, p a = true ↔ name a = b) (l : List α) :
    (l.eraseP p).map name = (l.map name).erase b := by
  have hp : p = (fun c => c == b) ∘ name := by
    funext a
    rw [Bool.eq_iff_iff, h a, Function.comp_apply, beq_iff_eq]
  rw [List.erase_eq_eraseP', List.eraseP_map, ← hp]

end Names

/-- What an input does to the bag. -/
inductive Effect (α : Type)
  /-- The name is added. -/
  | add (a : α)
  /-- One copy of the name is removed. -/
  | remove (a : α)
  /-- The bag stays. -/
  | keep
  deriving DecidableEq, Repr

/-- The bag afterwards. -/
def Effect.apply {α : Type} [DecidableEq α] (m : Multiset α) : Effect α → Multiset α
  | .add a => a ::ₘ m
  | .remove a => m.erase a
  | .keep => m

/-- A machine that holds a bag of names, in every state that meets its invariant. -/
structure Store (σ ε α : Type) [DecidableEq α] where
  /-- The machine. -/
  step : σ → ε → σ
  /-- The names in a state. -/
  bag : σ → Multiset α
  /-- What an input does in a state. -/
  effect : σ → ε → Effect α
  /-- The invariant. -/
  Inv : σ → Prop
  /-- Every input keeps it. -/
  inv_step : ∀ s e, Inv s → Inv (step s e)
  /-- The bag follows the effects. -/
  bag_step : ∀ s e, Inv s → bag (step s e) = (effect s e).apply (bag s)

namespace Store

variable {σ ε α : Type} [DecidableEq α] (S : Store σ ε α) {s : σ} {e : ε} {a : α} {es : List ε}

/-- Every removal of the run is final: after it, and as long as the name is not added again, the
name is not in the bag. -/
def RemovalsFinal (s : σ) (es : List ε) : Prop :=
  ∀ pre e mid post, es = pre ++ e :: (mid ++ post) → ∀ a,
    S.effect (pre.foldl S.step s) e = .remove a →
    Run.Along S.step (fun t e => S.effect t e ≠ .add a) (S.step (pre.foldl S.step s) e) mid →
    a ∉ S.bag (mid.foldl S.step (S.step (pre.foldl S.step s) e))

/-- A name that is not in the bag stays away from it, if it is not added. -/
theorem notMem_step (hI : S.Inv s) (ha : a ∉ S.bag s) (he : S.effect s e ≠ .add a) :
    a ∉ S.bag (S.step s e) := by
  rw [S.bag_step s e hI]
  cases h : S.effect s e with
  | add b =>
    have hne : a ≠ b := by
      rintro rfl
      exact he h
    rw [Effect.apply, Multiset.mem_cons, not_or]
    exact ⟨hne, ha⟩
  | remove b => exact fun hmem => ha (Multiset.mem_of_mem_erase hmem)
  | keep => exact ha

/-- So it does in a run that does not add it. -/
theorem notMem_foldl (hI : S.Inv s) (ha : a ∉ S.bag s)
    (h : Run.Along S.step (fun t e => S.effect t e ≠ .add a) s es) :
    a ∉ S.bag (es.foldl S.step s) := by
  have hinv := h.invariant (I := fun t => S.Inv t ∧ a ∉ S.bag t) ⟨hI, ha⟩
    fun t e ht he => ⟨S.inv_step t e ht.1, S.notMem_step ht.1 ht.2 he⟩
  exact hinv.2

/-- A removal leaves one copy less, so that the name is gone exactly when there was one at most. -/
theorem notMem_step_of_remove (hI : S.Inv s) (he : S.effect s e = .remove a) :
    a ∉ S.bag (S.step s e) ↔ (S.bag s).count a ≤ 1 := by
  have hcount : (S.bag (S.step s e)).count a = (S.bag s).count a - 1 := by
    rw [S.bag_step s e hI, he, Effect.apply, Multiset.count_erase_self]
  rw [← Multiset.count_eq_zero, hcount]
  omega

/-- The removals of a run are final exactly when each of them takes the only copy. -/
theorem removalsFinal_iff (hI : S.Inv s) :
    S.RemovalsFinal s es ↔
      Run.Along S.step (fun t e => ∀ a, S.effect t e = .remove a → (S.bag t).count a ≤ 1) s es := by
  have hpre : ∀ pre : List ε, S.Inv (pre.foldl S.step s) := Run.invariant hI S.inv_step
  rw [Run.along_iff_split]
  constructor
  · -- Right after the removal.
    intro h pre e post hes a he
    have hgone := h pre e [] post hes a he trivial
    exact (S.notMem_step_of_remove (hpre pre) he).1 hgone
  · intro h pre e mid post hes a he hmid
    have hone := h pre e (mid ++ post) hes a he
    have hgone := (S.notMem_step_of_remove (hpre pre) he).2 hone
    exact S.notMem_foldl (S.inv_step _ _ (hpre pre)) hgone hmid

/-- A bag stays without duplicates as long as only new names are added. -/
theorem nodup_step (hI : S.Inv s) (hn : (S.bag s).Nodup)
    (he : ∀ a, S.effect s e = .add a → a ∉ S.bag s) : (S.bag (S.step s e)).Nodup := by
  rw [S.bag_step s e hI]
  cases h : S.effect s e with
  | add a => exact Multiset.nodup_cons.2 ⟨he a h, hn⟩
  | remove a => exact hn.erase a
  | keep => exact hn

/-- Then every removal takes the only copy. -/
theorem single_of_fresh (hI : S.Inv s) (hn : (S.bag s).Nodup)
    (h : Run.Along S.step (fun t e => ∀ a, S.effect t e = .add a → a ∉ S.bag t) s es) :
    Run.Along S.step (fun t e => ∀ a, S.effect t e = .remove a → (S.bag t).count a ≤ 1) s es := by
  rw [Run.along_iff_split]
  rintro pre e post rfl a -
  have hpre := (Run.along_append.1 h).1
  have hinv := hpre.invariant (I := fun t => S.Inv t ∧ (S.bag t).Nodup) ⟨hI, hn⟩
    fun t e ht he => ⟨S.inv_step t e ht.1, S.nodup_step ht.1 ht.2 he⟩
  exact Multiset.nodup_iff_count_le_one.1 hinv.2 a

end Store

end Bag
