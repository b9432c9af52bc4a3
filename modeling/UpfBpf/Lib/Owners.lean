import Mathlib.Data.List.Nodup
import Mathlib.Logic.Function.Basic
import Mathlib.Tactic.Common
import UpfBpf.Lib.Run

/-!
# Registries that own objects

Objects are made one after the other and named by their number. A registry holds some of them, each
under a key, and is the only one to hold them: an object that leaves the registry is released. An
object that is made and never gets into the registry is lost.

`released_once_iff` is the balance at the end of a run that leaves the registry empty: every object
was released exactly once if and only if none was lost.
-/

namespace Owners

variable {K : Type}

/-- A registry and its objects. -/
structure Table (K : Type) where
  /-- How many objects were made. -/
  made : ℕ := 0
  /-- The object under each key. -/
  held : K → Option ℕ := fun _ => none
  /-- The objects that were released, in their order. -/
  released : List ℕ := []

/-- What happens to it. -/
inductive Event (K : Type)
  /-- Nothing. -/
  | idle
  /-- An object is made and lost. -/
  | lose
  /-- An object is made and put under the key; the one that was there is released. -/
  | put (k : K)
  /-- The object under the key is released. -/
  | drop (k : K)

/-- The registry after an event. -/
def Table.step [DecidableEq K] (t : Table K) : Event K → Table K
  | .idle => t
  | .lose => { t with made := t.made + 1 }
  | .put k =>
    { made := t.made + 1
      held := Function.update t.held k (some t.made)
      released := t.released ++ (t.held k).toList }
  | .drop k =>
    { t with
      held := Function.update t.held k none
      released := t.released ++ (t.held k).toList }

section Ext

variable {t t' : Table K}

/-- A table by its three parts. -/
theorem table_ext (hm : t.made = t'.made) (hh : t.held = t'.held)
    (hr : t.released = t'.released) : t = t' := by
  obtain ⟨made, held, released⟩ := t
  obtain ⟨made', held', released'⟩ := t'
  simp only at hm hh hr
  rw [hm, hh, hr]

variable [DecidableEq K] {k : K}

/-- When a table is another one after an object was put under a key. -/
theorem eq_step_put (hm : t'.made = t.made + 1)
    (hh : ∀ a, t'.held a = if a = k then some t.made else t.held a)
    (hr : t'.released = t.released ++ (t.held k).toList) : t' = t.step (.put k) := by
  refine table_ext hm (funext fun a => ?_) hr
  rw [hh a]
  exact (Function.update_apply ..).symm

/-- When a table is another one after what is under a key was released. -/
theorem eq_step_drop (hm : t'.made = t.made)
    (hh : ∀ a, t'.held a = if a = k then none else t.held a)
    (hr : t'.released = t.released ++ (t.held k).toList) : t' = t.step (.drop k) := by
  refine table_ext hm (funext fun a => ?_) hr
  rw [hh a]
  exact (Function.update_apply ..).symm

end Ext

/-- An object is in one place: under one key, or released once, or lost. -/
structure Proper (t : Table K) : Prop where
  held_lt : ∀ k r, t.held k = some r → r < t.made
  held_inj : ∀ k k' r, t.held k = some r → t.held k' = some r → k = k'
  held_not_released : ∀ k r, t.held k = some r → r ∉ t.released
  released_lt : ∀ r ∈ t.released, r < t.made
  released_nodup : t.released.Nodup

theorem proper_empty : Proper ({} : Table K) where
  held_lt := by simp
  held_inj := by simp
  held_not_released := by simp
  released_lt := by simp
  released_nodup := List.nodup_nil

variable {t : Table K} {e : Event K} {k : K} {r : ℕ}

/-- Releasing what is under a key. -/
theorem Proper.release (h : Proper t) (k : K) :
    (t.released ++ (t.held k).toList).Nodup ∧
      (∀ r ∈ t.released ++ (t.held k).toList, r < t.made) ∧
      ∀ k' r, k' ≠ k → t.held k' = some r → r ∉ t.released ++ (t.held k).toList := by
  cases hk : t.held k with
  | none =>
    simp only [Option.toList_none, List.append_nil]
    exact ⟨h.released_nodup, h.released_lt, fun k' r _ hr => h.held_not_released k' r hr⟩
  | some r₀ =>
    have hnot := h.held_not_released k r₀ hk
    simp only [Option.toList_some, List.mem_append, List.mem_singleton]
    refine ⟨?_, ?_, ?_⟩
    · rw [← List.concat_eq_append]
      exact h.released_nodup.concat hnot
    · rintro r (hr | rfl)
      · exact h.released_lt r hr
      · exact h.held_lt k r hk
    · rintro k' r hne hr (hrel | rfl)
      · exact h.held_not_released k' r hr hrel
      · exact hne (h.held_inj k' k r hr hk)

section Steps

variable [DecidableEq K]

/-- Every event keeps it so. -/
theorem Proper.step (h : Proper t) (e : Event K) : Proper (t.step e) := by
  cases e with
  | idle => exact h
  | lose =>
    exact { h with
      held_lt := fun k r hr => Nat.lt_succ_of_lt (h.held_lt k r hr)
      released_lt := fun r hr => Nat.lt_succ_of_lt (h.released_lt r hr) }
  | put k =>
    obtain ⟨hnodup, hlt, hnot⟩ := h.release k
    -- The new object is not one of the old ones.
    have hnew : ∀ k' r, Function.update t.held k (some t.made) k' = some r →
        k' = k ∧ r = t.made ∨ k' ≠ k ∧ t.held k' = some r ∧ r < t.made := by
      intro k' r hr
      rw [Function.update_apply] at hr
      split_ifs at hr with hk
      · exact .inl ⟨hk, (Option.some.inj hr).symm⟩
      · exact .inr ⟨hk, hr, h.held_lt k' r hr⟩
    refine ⟨fun k' r hr => ?_, fun k₁ k₂ r h₁ h₂ => ?_, fun k' r hr hrel => ?_, fun r hr => ?_,
      hnodup⟩
    · show r < t.made + 1
      rcases hnew k' r hr with ⟨-, rfl⟩ | ⟨-, -, hlt'⟩ <;> omega
    · rcases hnew k₁ r h₁ with ⟨rfl, rfl⟩ | ⟨-, h₁', hlt₁⟩
      · rcases hnew k₂ _ h₂ with ⟨rfl, -⟩ | ⟨-, -, hlt₂⟩
        · rfl
        · exact absurd hlt₂ (Nat.lt_irrefl _)
      · rcases hnew k₂ r h₂ with ⟨-, rfl⟩ | ⟨-, h₂', -⟩
        · exact absurd hlt₁ (Nat.lt_irrefl _)
        · exact h.held_inj k₁ k₂ r h₁' h₂'
    · rcases hnew k' r hr with ⟨-, rfl⟩ | ⟨hne, hr', -⟩
      · exact absurd (hlt _ hrel) (Nat.lt_irrefl _)
      · exact hnot k' r hne hr' hrel
    · exact Nat.lt_succ_of_lt (hlt r hr)
  | drop k =>
    obtain ⟨hnodup, hlt, hnot⟩ := h.release k
    have hold : ∀ k' r, Function.update t.held k none k' = some r →
        k' ≠ k ∧ t.held k' = some r := by
      intro k' r hr
      rw [Function.update_apply] at hr
      split_ifs at hr with hk
      exact ⟨hk, hr⟩
    refine ⟨fun k' r hr => h.held_lt k' r (hold k' r hr).2, fun k₁ k₂ r h₁ h₂ => ?_,
      fun k' r hr => ?_, hlt, hnodup⟩
    · exact h.held_inj k₁ k₂ r (hold k₁ r h₁).2 (hold k₂ r h₂).2
    · exact hnot k' r (hold k' r hr).1 (hold k' r hr).2

/-! ## The balance -/

/-- The object was made, and is neither held nor released. -/
structure Lost (t : Table K) (r : ℕ) : Prop where
  made : r < t.made
  not_held : ∀ k, t.held k ≠ some r
  not_released : r ∉ t.released

/-- What was released stays so. -/
theorem released_subset_step (hr : r ∈ t.released) : r ∈ (t.step e).released := by
  cases e with
  | idle => exact hr
  | lose => exact hr
  | put k => exact List.mem_append_left _ hr
  | drop k => exact List.mem_append_left _ hr

/-- What an event releases was held. -/
theorem mem_released_step (hr : r ∈ (t.step e).released) :
    r ∈ t.released ∨ ∃ k, t.held k = some r := by
  cases e with
  | idle => exact .inl hr
  | lose => exact .inl hr
  | put k =>
    rcases List.mem_append.1 hr with h | h
    · exact .inl h
    · exact .inr ⟨k, Option.mem_toList.1 h⟩
  | drop k =>
    rcases List.mem_append.1 hr with h | h
    · exact .inl h
    · exact .inr ⟨k, Option.mem_toList.1 h⟩

/-- What is held after an event was held before, or is the object that was made. -/
theorem held_step (hk : (t.step e).held k = some r) : t.held k = some r ∨ r = t.made := by
  cases e with
  | idle => exact .inl hk
  | lose => exact .inl hk
  | put k' =>
    have hk' : Function.update t.held k' (some t.made) k = some r := hk
    rw [Function.update_apply] at hk'
    split_ifs at hk'
    · exact .inr (Option.some.inj hk').symm
    · exact .inl hk'
  | drop k' =>
    have hk' : Function.update t.held k' none k = some r := hk
    rw [Function.update_apply] at hk'
    split_ifs at hk'
    exact .inl hk'

/-- What was held still is when a place is written, or it was in that place. -/
theorem held_or_released_of_update (hk : t.held k = some r) (k' : K) (o : Option ℕ) :
    Function.update t.held k' o k = some r ∨ r ∈ t.released ++ (t.held k').toList := by
  by_cases h : k = k'
  · refine .inr (List.mem_append_right _ ?_)
    rw [← h, hk]
    simp
  · exact .inl ((Function.update_of_ne h _ _).trans hk)

/-- What was held is held after an event, or released by it. -/
theorem held_or_released_step (hk : t.held k = some r) :
    (t.step e).held k = some r ∨ r ∈ (t.step e).released := by
  cases e with
  | idle => exact .inl hk
  | lose => exact .inl hk
  | put k' => exact held_or_released_of_update hk k' (some t.made)
  | drop k' => exact held_or_released_of_update hk k' none

/-- The objects that there are stay, and at most one is made. -/
theorem made_step (e : Event K) : t.made ≤ (t.step e).made := by
  cases e <;> simp [Table.step]

/-- What is lost stays so. -/
theorem Lost.step (h : Lost t r) (e : Event K) : Lost (t.step e) r where
  made := Nat.lt_of_lt_of_le h.made (made_step e)
  not_held k hk := by
    rcases held_step hk with hk' | rfl
    · exact h.not_held k hk'
    · exact Nat.lt_irrefl _ h.made
  not_released hr := by
    rcases mem_released_step hr with hr' | ⟨k, hk⟩
    · exact h.not_released hr'
    · exact h.not_held k hk

/-- Only `lose` makes something lost. -/
theorem lost_of_lost_step (h : Lost (t.step e) r) (he : e ≠ .lose) : Lost t r where
  made := by
    have hmade := h.made
    cases e with
    | idle => exact hmade
    | lose => exact absurd rfl he
    | put k =>
      -- The object that is made is held.
      have hne : r ≠ t.made := by
        rintro rfl
        exact h.not_held k (Function.update_self k _ _)
      have hlt : r < t.made + 1 := hmade
      omega
    | drop k => exact hmade
  not_held k hk := by
    rcases held_or_released_step (e := e) hk with hk' | hr
    · exact h.not_held k hk'
    · exact h.not_released hr
  not_released hr := h.not_released (released_subset_step hr)

/-- `lose` loses the object that it makes. -/
theorem Proper.lost_lose (h : Proper t) : Lost (t.step .lose) t.made where
  made := Nat.lt_succ_self _
  not_held k hk := Nat.lt_irrefl _ (h.held_lt k _ hk)
  not_released hr := Nat.lt_irrefl _ (h.released_lt _ hr)

end Steps

/-! ## Machines with a registry -/

section Machine

variable [DecidableEq K] {σ α : Type*} {step : σ → α → σ} {table : σ → Table K}
  {event : σ → α → Event K} (hsim : ∀ s a, table (step s a) = (table s).step (event s a))

include hsim

theorem proper_foldl {s : σ} (h : Proper (table s)) (as : List α) :
    Proper (table (as.foldl step s)) := by
  refine Run.invariant (I := fun s => Proper (table s)) h (fun s a hs => ?_) as
  rw [hsim]
  exact hs.step _

/-- In a run, an object is lost exactly when an input loses one. -/
theorem not_exists_lost_foldl_iff {s : σ} (h : Proper (table s)) (hs : ∀ r, ¬ Lost (table s) r)
    (as : List α) :
    (∀ r, ¬ Lost (table (as.foldl step s)) r) ↔
      Run.Along step (fun s a => event s a ≠ .lose) s as := by
  constructor
  · intro hnot
    rw [Run.along_iff_split]
    rintro pre a post rfl he
    -- What is lost there is lost at the end.
    have hpre := proper_foldl hsim h pre
    have hlost : Lost (table (step (pre.foldl step s) a)) (table (pre.foldl step s)).made := by
      rw [hsim, he]
      exact hpre.lost_lose
    refine hnot (table (pre.foldl step s)).made ?_
    rw [List.foldl_append, List.foldl_cons]
    refine Run.invariant (I := fun s' => Lost (table s') _) hlost (fun s' a' hs' => ?_) post
    rw [hsim]
    exact hs'.step _
  · intro hal
    refine hal.invariant (I := fun s' => ∀ r, ¬ Lost (table s') r) hs fun s' a' hs' he r hr => ?_
    rw [hsim] at hr
    exact hs' r (lost_of_lost_step hr he)

/-- The balance of a run that leaves the registry empty: every object was released exactly once if
and only if none was lost. -/
theorem released_once_iff {s : σ} (h : Proper (table s)) (hs : ∀ r, ¬ Lost (table s) r)
    (as : List α) (hempty : ∀ k, (table (as.foldl step s)).held k = none) :
    (∀ r, r < (table (as.foldl step s)).made → (table (as.foldl step s)).released.count r = 1) ↔
      Run.Along step (fun s a => event s a ≠ .lose) s as := by
  rw [← not_exists_lost_foldl_iff hsim h hs as]
  have hp := proper_foldl hsim h as
  constructor
  · intro hall r hr
    have hone := hall r hr.made
    rw [List.count_eq_zero_of_not_mem hr.not_released] at hone
    omega
  · intro hnone r hr
    refine List.count_eq_one_of_mem hp.released_nodup ?_
    by_contra hnot
    exact hnone r ⟨hr, fun k => by simp [hempty], hnot⟩

end Machine

end Owners
