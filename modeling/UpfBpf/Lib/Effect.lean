import Mathlib.Tactic.Common

/-!
# Computations that throw and keep their state

`EStateM ε σ` is a computation on a state that may throw, and what it has done to the state until
then stays. `attempt` is an operation that may be refused, and `zoom` runs a computation on a part
of the state. The lemmas evaluate a sequence from its first computation: either it returns and the
rest goes on from the state that it left, or it throws and the rest is not run. `Ends` is what a
computation establishes, with a rule for sequences.
-/

namespace Effect

variable {ε σ τ α β : Type}

/-- Applies `f` to the state; throws `e` when the outside fails or `f` refuses. -/
def attempt (fails : Bool) (e : ε) (f : σ → Option σ) : EStateM ε σ Unit := fun s =>
  if fails then .error e s
  else match f s with
    | some s' => .ok () s'
    | none => .error e s

/-- Runs `x` on the part of the state that `g` finds, and puts the part back. Throws `e` when there
is no such part. -/
def zoom (g : σ → Option τ) (put : τ → σ → σ) (e : ε) (x : EStateM ε τ α) : EStateM ε σ α :=
  fun s => match g s with
    | none => .error e s
    | some t => match x t with
      | .ok a t' => .ok a (put t' s)
      | .error e t' => .error e (put t' s)

/-- The state that a computation leaves, returned from or thrown out of. -/
def final : EStateM.Result ε σ α → σ
  | .ok _ s => s
  | .error _ s => s

@[simp] theorem final_ok (a : α) (s : σ) : final (.ok a s : EStateM.Result ε σ α) = s := rfl

@[simp] theorem final_error (e : ε) (s : σ) : final (.error e s : EStateM.Result ε σ α) = s := rfl

/-- What a computation throws, if it does. -/
def thrown : EStateM.Result ε σ α → Option ε
  | .ok _ _ => none
  | .error e _ => some e

section Bind

variable {x : EStateM ε σ α} {f : α → EStateM ε σ β} {s s' : σ} {a : α} {e : ε}

/-- The rest goes on where the first computation returned. -/
theorem bind_of_ok (h : x s = .ok a s') : (x >>= f) s = f a s' := by
  simp only [bind, EStateM.bind, h]

/-- The rest is not run when the first computation throws. -/
theorem bind_of_error (h : x s = .error e s') : (x >>= f) s = .error e s' := by
  simp only [bind, EStateM.bind, h]

/-- A rest that cannot throw. -/
theorem thrown_bind_modify (x : EStateM ε σ α) (f : σ → σ) (s : σ) :
    thrown ((x >>= fun _ => modify f) s) = thrown (x s) := by
  cases h : x s with
  | ok a s' =>
    rw [bind_of_ok h]
    rfl
  | error e s' =>
    rw [bind_of_error h]
    rfl

/-- The rest goes on with the state. -/
theorem bind_get (f : σ → EStateM ε σ β) (s : σ) : (get >>= f) s = f s s := rfl

end Bind

section Ends

/-- What a computation establishes: `Q` where it returns, `E` with what it throws. -/
def Ends (Q : σ → Prop) (E : ε → σ → Prop) : EStateM.Result ε σ α → Prop
  | .ok _ s => Q s
  | .error e s => E e s

variable {Q R : σ → Prop} {E : ε → σ → Prop} {x : EStateM ε σ α} {f : α → EStateM ε σ β} {s : σ}

/-- The rest starts from what the first computation has established. -/
theorem Ends.bind (hx : Ends Q E (x s)) (hf : ∀ a s', Q s' → Ends R E (f a s')) :
    Ends R E ((x >>= f) s) := by
  cases h : x s with
  | ok a s' =>
    rw [h] at hx
    rw [bind_of_ok h]
    exact hf a s' hx
  | error e s' =>
    rw [h] at hx
    rw [bind_of_error h]
    exact hx

/-- A weaker statement of what is established. -/
theorem Ends.mono {Q' : σ → Prop} {E' : ε → σ → Prop} {r : EStateM.Result ε σ α} (h : Ends Q E r)
    (hQ : ∀ s, Q s → Q' s) (hE : ∀ e s, E e s → E' e s) : Ends Q' E' r := by
  cases r with
  | ok a s => exact hQ s h
  | error e s => exact hE e s h

/-- What is established either way. -/
theorem Ends.final {r : EStateM.Result ε σ α} (h : Ends Q E r) (hE : ∀ e s, E e s → Q s) :
    Q (final r) := by
  cases r with
  | ok a s => exact h
  | error e s => exact hE e s h

end Ends

section Attempt

variable {fails : Bool} {e : ε} {f : σ → Option σ} {s s' : σ}

theorem attempt_of_some (hf : fails = false) (h : f s = some s') :
    attempt fails e f s = .ok () s' := by
  simp [attempt, hf, h]

theorem attempt_of_refused (h : fails = true ∨ f s = none) :
    attempt fails e f s = .error e s := by
  unfold attempt
  rcases h with h | h
  · simp [h]
  · simp [h]

/-- An attempt on a part of the state: the part is replaced, or the state is left. -/
theorem attempt_map_cases (fails : Bool) (e : ε) (f : σ → Option τ) (put : τ → σ → σ) (s : σ) :
    (∃ t, fails = false ∧ f s = some t ∧
        attempt fails e (fun s => (f s).map fun t => put t s) s = .ok () (put t s)) ∨
      ((∀ t, ¬ (fails = false ∧ f s = some t)) ∧
        attempt fails e (fun s => (f s).map fun t => put t s) s = .error e s) := by
  cases fails with
  | true => exact .inr ⟨fun t h => Bool.false_ne_true h.1.symm, attempt_of_refused (.inl rfl)⟩
  | false =>
    cases h : f s with
    | none =>
      refine .inr ⟨fun t h => Option.some_ne_none t h.2.symm, attempt_of_refused (.inr ?_)⟩
      rw [h]
      rfl
    | some t =>
      refine .inl ⟨t, rfl, rfl, attempt_of_some rfl ?_⟩
      rw [h]
      rfl

end Attempt

section Zoom

variable {g : σ → Option τ} {put : τ → σ → σ} {e e' : ε} {x : EStateM ε τ α} {s : σ} {t t' : τ}
  {a : α}

theorem zoom_of_ok (hg : g s = some t) (h : x t = .ok a t') :
    zoom g put e x s = .ok a (put t' s) := by
  simp [zoom, hg, h]

theorem zoom_of_error (hg : g s = some t) (h : x t = .error e' t') :
    zoom g put e x s = .error e' (put t' s) := by
  simp [zoom, hg, h]

end Zoom

end Effect
