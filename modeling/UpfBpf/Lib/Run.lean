import Mathlib.Data.List.Induction
import Mathlib.Tactic.Common

/-!
# Runs of a state machine

A machine is a step function on states, and the state after a list of inputs is `foldl step`. A run
may be restricted by what its inputs do in the states they meet: `Along step P s as` says that every
input meets `P` there. Three rules carry an argument about one step to whole runs:
`Along.invariant` is the invariant rule, `exists_last_cause` finds the last input that made a
property of the final state true, and `rel_foldl_filter` compares a run with the one that some of
its inputs are left out of.
-/

namespace Run

variable {σ α : Type*} {step : σ → α → σ} {P Q : σ → α → Prop} {s : σ} {a : α} {as bs : List α}

/-- Every input of the run meets `P` in the state in which it is taken. -/
def Along (step : σ → α → σ) (P : σ → α → Prop) : σ → List α → Prop
  | _, [] => True
  | s, a :: as => P s a ∧ Along step P (step s a) as

@[simp] theorem along_nil : Along step P s [] := trivial

@[simp] theorem along_cons : Along step P s (a :: as) ↔ P s a ∧ Along step P (step s a) as :=
  Iff.rfl

/-- A run in two parts. -/
theorem along_append :
    Along step P s (as ++ bs) ↔ Along step P s as ∧ Along step P (as.foldl step s) bs := by
  induction as generalizing s with
  | nil => simp
  | cons a as ih => simp [ih, and_assoc]

/-- A run in terms of its inputs: each one meets `P` in the state that the inputs before it lead
to. -/
theorem along_iff_split :
    Along step P s as ↔ ∀ pre a post, as = pre ++ a :: post → P (pre.foldl step s) a := by
  constructor
  · rintro h pre a post rfl
    exact (along_cons.1 (along_append.1 h).2).1
  · intro h
    induction as generalizing s with
    | nil => trivial
    | cons b as ih =>
      refine ⟨h [] b as rfl, ih ?_⟩
      intro pre a post e
      exact h (b :: pre) a post (by rw [e]; rfl)

/-- Two conditions on the inputs of one run. -/
theorem Along.and (hP : Along step P s as) (hQ : Along step Q s as) :
    Along step (fun s a => P s a ∧ Q s a) s as := by
  induction as generalizing s with
  | nil => trivial
  | cons a as ih => exact ⟨⟨hP.1, hQ.1⟩, ih hP.2 hQ.2⟩

/-- A weaker condition on the inputs of a run. -/
theorem Along.mono (h : Along step P s as) (hPQ : ∀ s a, P s a → Q s a) : Along step Q s as := by
  induction as generalizing s with
  | nil => trivial
  | cons a as ih => exact ⟨hPQ s a h.1, ih h.2⟩

/-- The invariant rule: what holds first, and is kept by every step that the run takes, holds
last. -/
theorem Along.invariant {I : σ → Prop} (h : Along step P s as) (h0 : I s)
    (hstep : ∀ s a, I s → P s a → I (step s a)) : I (as.foldl step s) := by
  induction as generalizing s with
  | nil => exact h0
  | cons a as ih => exact ih h.2 (hstep s a h0 h.1)

/-- The invariant rule for runs without restriction. -/
theorem invariant {I : σ → Prop} (h0 : I s) (hstep : ∀ s a, I s → I (step s a))
    (as : List α) : I (as.foldl step s) := by
  induction as generalizing s with
  | nil => exact h0
  | cons a as ih => exact ih (hstep s a h0)

/-- The invariant rule for a machine whose steps may be undefined. -/
theorem invariant_foldlM {next : σ → α → Option σ} {I : σ → Prop} {s' : σ} (h0 : I s)
    (hstep : ∀ s a s', I s → next s a = some s' → I s') (h : as.foldlM next s = some s') :
    I s' := by
  induction as generalizing s with
  | nil =>
    cases h
    exact h0
  | cons a as ih =>
    rw [List.foldlM_cons] at h
    obtain ⟨s₁, h₁, h₂⟩ := Option.bind_eq_some_iff.1 h
    exact ih (hstep s a s₁ h0 h₁) h₂

/-- The last cause of a property `D` that does not hold at first and holds at last. A step of the
run after which `D` holds either causes it (`C`) or finds it and keeps it (`E`). Then some input
causes `D`, and every input after it keeps it. -/
theorem Along.exists_last_cause {D : σ → Prop} {C E : σ → α → Prop} (h : Along step P s as)
    (h0 : ¬ D s) (hstep : ∀ s a, P s a → D (step s a) → C s a ∨ D s ∧ E s a)
    (hD : D (as.foldl step s)) :
    ∃ pre a post, as = pre ++ a :: post ∧ C (pre.foldl step s) a ∧
      Along step E (step (pre.foldl step s) a) post := by
  induction as using List.reverseRecOn with
  | nil => exact absurd hD h0
  | append_singleton as b ih =>
    rw [List.foldl_append, List.foldl_cons, List.foldl_nil] at hD
    obtain ⟨hpre, hb, -⟩ := along_append.1 h
    rcases hstep _ _ hb hD with hC | ⟨hD', hE⟩
    · exact ⟨as, b, [], rfl, hC, trivial⟩
    · -- `b` only keeps `D`, so the cause lies before it.
      obtain ⟨pre, a, post, rfl, hC, hpost⟩ := ih hpre hD'
      refine ⟨pre, a, post ++ [b], by simp, hC, along_append.2 ⟨hpost, ?_, trivial⟩⟩
      rw [List.foldl_append, List.foldl_cons] at hE
      exact hE

/-- The last cause in a run without restriction. -/
theorem exists_last_cause {D : σ → Prop} {C E : σ → α → Prop} (h0 : ¬ D s)
    (hstep : ∀ s a, D (step s a) → C s a ∨ D s ∧ E s a) (hD : D (as.foldl step s)) :
    ∃ pre a post, as = pre ++ a :: post ∧ C (pre.foldl step s) a ∧
      Along step E (step (pre.foldl step s) a) post := by
  have htrue : Along step (fun _ _ => True) s as :=
    along_iff_split.2 fun _ _ _ _ => trivial
  exact htrue.exists_last_cause h0 (fun s a _ => hstep s a) hD

/-- A run beside the one that only takes the inputs to `keep`. An input that is left out must keep
the relation on one side, and one that is kept on both; either may use what holds of the two states
(`C`) where the runs meet it. -/
theorem rel_foldl_filter {R : σ → σ → Prop} {keep : α → Bool} {C : σ → σ → α → Prop} {t : σ}
    (h0 : R s t)
    (hC : ∀ pre a post, as = pre ++ a :: post →
      C (pre.foldl step s) ((pre.filter keep).foldl step t) a)
    (hdrop : ∀ s t a, R s t → C s t a → keep a = false → R (step s a) t)
    (hkeep : ∀ s t a, R s t → C s t a → keep a = true → R (step s a) (step t a)) :
    R (as.foldl step s) ((as.filter keep).foldl step t) := by
  induction as generalizing s t with
  | nil => exact h0
  | cons a as ih =>
    have ha : C s t a := hC [] a as rfl
    rw [List.foldl_cons]
    cases hk : keep a with
    | false =>
      -- The second run does not move.
      rw [List.filter_cons_of_neg (by simp [hk])]
      refine ih (hdrop s t a h0 ha hk) fun pre b post e => ?_
      have hb := hC (a :: pre) b post (by rw [e]; rfl)
      rwa [List.foldl_cons, List.filter_cons_of_neg (by simp [hk])] at hb
    | true =>
      rw [List.filter_cons_of_pos hk]
      refine ih (hkeep s t a h0 ha hk) fun pre b post e => ?_
      have hb := hC (a :: pre) b post (by rw [e]; rfl)
      rwa [List.foldl_cons, List.filter_cons_of_pos hk] at hb

end Run
