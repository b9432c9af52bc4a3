import Mathlib.Data.List.Count
import Mathlib.Tactic.Common

/-!
# Ledgers of handles

A handle is something that is acquired, used, and released once. A ledger is the list of the
operations that were applied, each with the handle that it was applied to, or with none. `Sound`
says that the handles were used as they may be: each is released at most once, nothing is applied to
a handle after its release, and nothing is applied without a handle.

A ledger only grows. `sound_append_singleton` is what one more operation may do, and `Sound.left`
says that an operation that was wrong stays wrong.
-/

namespace Ledger

variable {O H : Type}

/-- An operation, and the handle that it was applied to. -/
structure Entry (O H : Type) where
  /-- The operation. -/
  op : O
  /-- The handle, or none. -/
  handle : Option H
  deriving DecidableEq, Repr

/-- The handle was released. -/
def Released (release : O) (l : List (Entry O H)) (h : H) : Prop := ⟨release, some h⟩ ∈ l

/-- The handles were used as they may be. -/
structure Sound [DecidableEq O] [DecidableEq H] (release : O) (l : List (Entry O H)) : Prop where
  /-- Each is released at most once. -/
  once : ∀ h, l.count ⟨release, some h⟩ ≤ 1
  /-- Nothing is applied to one that was released. -/
  live : ∀ pre e post h, l = pre ++ e :: post → e.handle = some h → ¬ Released release pre h
  /-- Nothing is applied without one. -/
  some_handle : ∀ e ∈ l, e.handle ≠ none

variable {release : O} {l l' : List (Entry O H)} {e : Entry O H} {h : H}

@[simp] theorem not_released_nil : ¬ Released release ([] : List (Entry O H)) h := by
  simp [Released]

theorem released_append_singleton :
    Released release (l ++ [e]) h ↔ Released release l h ∨ e = ⟨release, some h⟩ := by
  unfold Released
  rw [List.mem_append, List.mem_singleton, eq_comm (a := e)]

section Sound

variable [DecidableEq O] [DecidableEq H]

theorem sound_nil : Sound release ([] : List (Entry O H)) where
  once h := by simp
  live pre e post h heq := by simp at heq
  some_handle e he := by simp at he

/-- What was wrong stays wrong. -/
theorem Sound.left (hs : Sound release (l ++ l')) : Sound release l where
  once h := by
    have hle := hs.once h
    rw [List.count_append] at hle
    omega
  live pre e post h heq := by
    apply hs.live pre e (post ++ l') h
    rw [heq, List.append_assoc, List.cons_append]
  some_handle e he := hs.some_handle e (List.mem_append_left l' he)

/-- One more operation has to have a handle that was not released. -/
theorem sound_append_singleton :
    Sound release (l ++ [e]) ↔
      Sound release l ∧ ∃ h, e.handle = some h ∧ ¬ Released release l h := by
  constructor
  · intro hs
    obtain ⟨h, hh⟩ := Option.ne_none_iff_exists'.1 (hs.some_handle e (by simp))
    exact ⟨hs.left, h, hh, hs.live l e [] h rfl hh⟩
  · rintro ⟨hs, h, hh, hnot⟩
    refine ⟨fun k => ?_, fun pre e' post k heq hk => ?_, fun e' he' => ?_⟩
    · rw [List.count_append, List.count_singleton]
      split_ifs with hek
      · -- The operation is the release of `k`, and the first one.
        have hkh : e.handle = some k := by rw [beq_iff_eq.1 hek]
        have hkeq : h = k := Option.some.inj (hh.symm.trans hkh)
        have hzero : l.count ⟨release, some k⟩ = 0 := by
          rw [List.count_eq_zero, ← hkeq]
          exact hnot
        omega
      · have := hs.once k
        omega
    · rcases List.eq_nil_or_concat post with rfl | ⟨post', x, rfl⟩
      · -- The last operation.
        obtain ⟨hpre, he⟩ := List.append_inj' heq rfl
        rw [List.cons.injEq] at he
        have hkeq : h = k := by
          rw [← he.1, hh] at hk
          exact Option.some.inj hk
        rw [← hpre, ← hkeq]
        exact hnot
      · -- One of those before it.
        rw [List.concat_eq_append, ← List.cons_append, ← List.append_assoc] at heq
        exact hs.live pre e' post' k (List.append_inj' heq rfl).1 hk
    · rcases List.mem_append.1 he' with hl | he
      · exact hs.some_handle e' hl
      · rw [List.mem_singleton.1 he, hh]
        exact Option.some_ne_none h

/-- A use of a handle that was not released. -/
theorem Sound.append_use (hs : Sound release l) (hn : ¬ Released release l h) {op : O}
    (hop : op ≠ release) :
    Sound release (l ++ [⟨op, some h⟩]) ∧ ¬ Released release (l ++ [⟨op, some h⟩]) h := by
  refine ⟨sound_append_singleton.2 ⟨hs, h, rfl, hn⟩, ?_⟩
  rw [released_append_singleton, not_or]
  exact ⟨hn, fun e => hop (congrArg Entry.op e)⟩

/-- The release of a handle that was not released. -/
theorem Sound.append_release (hs : Sound release l) (hn : ¬ Released release l h) :
    Sound release (l ++ [⟨release, some h⟩]) ∧ Released release (l ++ [⟨release, some h⟩]) h :=
  ⟨sound_append_singleton.2 ⟨hs, h, rfl, hn⟩, released_append_singleton.2 (.inr rfl)⟩

/-- Nothing may be applied to a handle that was released. -/
theorem not_sound_of_released (hr : Released release l h) (heh : e.handle = some h) :
    ¬ Sound release (l ++ e :: l') := by
  intro hs
  exact hs.live l e l' h rfl heh hr

/-- Nothing may be applied without a handle. -/
theorem not_sound_of_none (he : e.handle = none) : ¬ Sound release (l ++ e :: l') := by
  intro hs
  exact hs.some_handle e (by simp) he

end Sound

end Ledger
