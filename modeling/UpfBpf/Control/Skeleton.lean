import UpfBpf.Lib.Run
import UpfBpf.Control.LifeCycle

/-!
# Who destroys the skeleton

The wrappers call `open`, `load`, `attach`, and then `link` any number of times, and stop at the
first exception; `tearDown` may come at any point, from a destructor or a signal handler (`Order`).
`sound_iff` says in which of these runs the skeleton is used as it may be. `load` and `attach` give
the skeleton back when they fail and leave `mState` as it is, and no method looks whether the
skeleton is still there, so the order of the calls decides. `Past` is what the order depends on.

The object is in one of four conditions (`Tracks`): without a skeleton, with one, with one that was
destroyed and a state that says so, or with one that was destroyed and a state that does not. A call
that the past admits leads from one of them to another (`Tracks.step`), and any other call misuses
the skeleton (`Tracks.not_sound_step`).
-/

namespace UpfBpf

open Effect Ledger

/-! ## The order of the calls -/

/-- How far a wrapper has got with its set-up. -/
inductive Phase
  | constructed
  | opened
  | loaded
  /-- Attached, and perhaps linked. -/
  | attached
  /-- Stopped by an exception. -/
  | stopped
  deriving DecidableEq, Repr

/-- The calls that a wrapper makes there. A tear-down may come at any point. -/
def Phase.Allows : Phase → LifeCycleCall → Prop
  | ph, .open' _ _ => ph = .constructed
  | ph, .load _ => ph = .opened
  | ph, .attach _ => ph = .loaded
  | ph, .link _ _ _ _ => ph = .attached
  | _, .tearDown _ => True
  | _, .destroy => True

/-- How far it has got after a call. -/
def Phase.next (sections : List String) (ph : Phase) : LifeCycleCall → Phase
  | .open' setrlimitFails _ => if setrlimitFails then .stopped else .opened
  | .load err => if err ≠ 0 then .stopped else .loaded
  | .attach err => if err ≠ 0 then .stopped else .attached
  | .link sectionName ifIndex linkFails _ =>
    if ifIndex = 0 ∨ sectionName ∉ sections ∨ linkFails then .stopped else .attached
  | .tearDown _ => ph
  | .destroy => ph

/-- The calls of a run come in the order of the wrappers. -/
def Order (sections : List String) (calls : List LifeCycleCall) : Prop :=
  Run.Along (Phase.next sections) Phase.Allows .constructed calls

/-- What the use of the skeleton depends on in the calls so far. -/
structure Past where
  /-- `mOpenFunc` has returned a skeleton. -/
  opened : Bool := false
  /-- The interfaces that were linked. -/
  linked : List UInt32 := []
  /-- `load` or `attach` has failed. -/
  failed : Bool := false
  /-- A `destroy`, or a `tearDown` that no interface stopped, came after the skeleton. -/
  tornDown : Bool := false

/-- The past after a call. -/
def Past.after (sections : List String) (past : Past) : LifeCycleCall → Past
  | .open' setrlimitFails returnsNull =>
    if setrlimitFails ∨ returnsNull then past else { past with opened := true }
  | .load err => if err ≠ 0 then { past with failed := true } else past
  | .attach err => if err ≠ 0 then { past with failed := true } else past
  | .link sectionName ifIndex linkFails _ =>
    if ifIndex = 0 ∨ sectionName ∉ sections ∨ linkFails then past
    else { past with linked := past.linked ++ [ifIndex] }
  | .tearDown unlinkFails =>
    if past.linked.any unlinkFails then past
    else { past with tornDown := past.tornDown || past.opened }
  | .destroy => { past with tornDown := past.tornDown || past.opened }

/-- The call uses the skeleton as it may be used: `mOpenFunc` returns one; a step of the set-up does
not come after a tear-down; and a tear-down does not come before `open`, unless the constructor has
left `IDLE`, nor after a `load` or an `attach` that failed. -/
def Past.Admits (init : ProgramState) (past : Past) : LifeCycleCall → Prop
  | .open' setrlimitFails returnsNull => setrlimitFails ∨ ¬ returnsNull
  | .load _ => ¬ past.tornDown
  | .attach _ => ¬ past.tornDown
  | .link _ ifIndex _ _ => ifIndex = 0 ∨ ¬ past.tornDown
  | .tearDown _ => (past.opened ∨ init = .IDLE) ∧ ¬ past.failed
  | .destroy => (past.opened ∨ init = .IDLE) ∧ ¬ past.failed

/-! ## What the calls leave -/

section Tracks

variable {sections : List String} {init : ProgramState} {ph : Phase} {past : Past}
  {s : ProgramLifeCycle} {c : LifeCycleCall} {k : ℕ}

/-- The object before a skeleton is opened, or when it could not be. -/
structure Unopened (init : ProgramState) (ph : Phase) (past : Past) (s : ProgramLifeCycle) :
    Prop where
  phase : ph = .constructed ∨ ph = .stopped
  not_opened : past.opened = false
  not_linked : past.linked = []
  not_failed : past.failed = false
  not_tornDown : past.tornDown = false
  state : s.mState = init
  skeleton : s.mpSkeleton = none
  links : s.mSectionLinkInterfacesMap = ∅
  applied : s.applied = []

/-- The object with a skeleton that is not destroyed. -/
structure Alive (sections : List String) (ph : Phase) (past : Past) (s : ProgramLifeCycle)
    (k : ℕ) : Prop where
  phase : ph ≠ .constructed
  opened : past.opened = true
  /-- Links are made once the program is attached. -/
  linked : ph = .opened ∨ ph = .loaded → past.linked = []
  not_failed : past.failed = false
  not_tornDown : past.tornDown = false
  state : s.mState ≠ .IDLE
  state_linked : s.mState = .LINKED ↔ past.linked ≠ []
  /-- What `tearDown` would unlink. -/
  links : ∀ i, i ∈ s.links sections ↔ i ∈ past.linked
  skeleton : s.mpSkeleton = some k
  not_released : ¬ Released .destroy s.applied k

/-- The object whose skeleton was destroyed, and whose state says so. -/
structure Gone (ph : Phase) (past : Past) (s : ProgramLifeCycle) (k : ℕ) : Prop where
  phase : ph ≠ .constructed
  opened : past.opened = true
  not_failed : past.failed = false
  /-- By a tear-down, or by a `link` that failed. -/
  tornDown : past.tornDown = true ∨ ph = .stopped
  state : s.mState = .IDLE
  skeleton : s.mpSkeleton = some k
  released : Released .destroy s.applied k

/-- The object whose skeleton was destroyed by a `load` or an `attach` that failed; its state does
not say so. -/
structure Failed (ph : Phase) (past : Past) (s : ProgramLifeCycle) (k : ℕ) : Prop where
  phase : ph = .stopped
  failed : past.failed = true
  state : s.mState ≠ .IDLE
  skeleton : s.mpSkeleton = some k
  released : Released .destroy s.applied k

/-- The object is in one of the four conditions, and its ledger is sound. -/
inductive Tracks (sections : List String) (init : ProgramState) (ph : Phase) (past : Past)
    (s : ProgramLifeCycle) : Prop
  | unopened (h : Unopened init ph past s)
  | alive (k : ℕ) (hs : Sound .destroy s.applied) (h : Alive sections ph past s k)
  | gone (k : ℕ) (hs : Sound .destroy s.applied) (h : Gone ph past s k)
  | failed (k : ℕ) (hs : Sound .destroy s.applied) (h : Failed ph past s k)

theorem tracks_init : Tracks sections init .constructed {} { mState := init } :=
  .unopened ⟨.inl rfl, rfl, rfl, rfl, rfl, rfl, rfl, rfl, rfl⟩

theorem Tracks.sound (h : Tracks sections init ph past s) : Sound .destroy s.applied := by
  cases h with
  | unopened h =>
    rw [h.applied]
    exact sound_nil
  | alive k hs h => exact hs
  | gone k hs h => exact hs
  | failed k hs h => exact hs

/-! ### Misuse -/

/-- The call applies a primitive to the skeleton that the object has. -/
def LifeCycleCall.Uses (s : ProgramLifeCycle) : LifeCycleCall → Prop
  | .open' _ _ => False
  | .load _ => True
  | .attach _ => True
  | .link _ ifIndex _ _ => ifIndex ≠ 0
  | .tearDown _ => s.mState ≠ .IDLE
  | .destroy => s.mState ≠ .IDLE

theorem applied_tornDown_of_ne (h : s.mState ≠ .IDLE) (unlinkFails : UInt32 → Bool) :
    ∃ p l, (s.tornDown sections unlinkFails).applied = s.applied ++ ⟨p, s.mpSkeleton⟩ :: l := by
  unfold ProgramLifeCycle.tornDown
  split_ifs
  · exact ⟨.forEachProgram, [], rfl⟩
  · obtain ⟨l, hl⟩ := (s.noted .forEachProgram).applied_destroyed
    exact ⟨.forEachProgram, l, hl.trans (List.append_assoc _ _ _)⟩
  · exact ⟨.destroy, [], ProgramLifeCycle.applied_destroyed_of_ne h⟩

/-- What such a call adds to the ledger starts with the skeleton. -/
theorem LifeCycleCall.Uses.applied (h : c.Uses s) (sections : List String) :
    ∃ p l, (s.step sections c).applied = s.applied ++ ⟨p, s.mpSkeleton⟩ :: l := by
  cases c with
  | open' r n => exact h.elim
  | load err =>
    rw [s.step_load]
    split_ifs
    · exact ⟨.load, _, List.append_assoc _ _ _⟩
    · exact ⟨.load, [], rfl⟩
  | attach err =>
    rw [s.step_attach]
    split_ifs
    · exact ⟨.attach, _, List.append_assoc _ _ _⟩
    · exact ⟨.attach, [], rfl⟩
  | link sectionName ifIndex linkFails unlinkFails =>
    rw [s.step_link, if_neg h]
    split_ifs
    · obtain ⟨l, hl⟩ := (s.noted .forEachProgram).applied_tornDown sections unlinkFails
      exact ⟨.forEachProgram, l, hl.trans (List.append_assoc _ _ _)⟩
    · exact ⟨.forEachProgram, [], rfl⟩
    · exact ⟨.forEachProgram, [], rfl⟩
  | tearDown unlinkFails =>
    rw [s.step_tearDown]
    exact applied_tornDown_of_ne h unlinkFails
  | destroy =>
    rw [s.step_destroy]
    exact ⟨.destroy, [], ProgramLifeCycle.applied_destroyed_of_ne h⟩

/-- A wrapper that has stopped only tears down. -/
theorem Phase.allows_stopped (ho : Phase.stopped.Allows c) :
    (∃ unlinkFails, c = .tearDown unlinkFails) ∨ c = .destroy := by
  cases c with
  | open' r n => cases ho
  | load err => cases ho
  | attach err => cases ho
  | link _ _ _ _ => cases ho
  | tearDown unlinkFails => exact .inl ⟨unlinkFails, rfl⟩
  | destroy => exact .inr rfl

/-- A wrapper that has only constructed the object may open it, too. -/
theorem Phase.allows_constructed (ho : Phase.constructed.Allows c) :
    (∃ setrlimitFails returnsNull, c = .open' setrlimitFails returnsNull) ∨
      (∃ unlinkFails, c = .tearDown unlinkFails) ∨ c = .destroy := by
  cases c with
  | open' r n => exact .inl ⟨r, n, rfl⟩
  | load err => cases ho
  | attach err => cases ho
  | link _ _ _ _ => cases ho
  | tearDown unlinkFails => exact .inr (.inl ⟨unlinkFails, rfl⟩)
  | destroy => exact .inr (.inr rfl)

/-- The calls that may come before a skeleton is opened. -/
theorem Unopened.allowed (h : Unopened init ph past s) (ho : ph.Allows c) :
    (∃ setrlimitFails returnsNull, c = .open' setrlimitFails returnsNull) ∨
      (∃ unlinkFails, c = .tearDown unlinkFails) ∨ c = .destroy := by
  rcases h.phase with rfl | rfl
  · exact Phase.allows_constructed ho
  · exact .inr (Phase.allows_stopped ho)

theorem not_sound_step_of_none (hs : s.mpSkeleton = none) (hc : c.Uses s) :
    ¬ Sound .destroy (s.step sections c).applied := by
  obtain ⟨p, l, e⟩ := hc.applied sections
  rw [e]
  exact not_sound_of_none hs

theorem not_sound_step_of_released (hs : s.mpSkeleton = some k)
    (hr : Released .destroy s.applied k) (hc : c.Uses s) :
    ¬ Sound .destroy (s.step sections c).applied := by
  obtain ⟨p, l, e⟩ := hc.applied sections
  rw [e]
  exact not_sound_of_released hr hs

/-- Without a skeleton, the calls that are not admitted are an `open` that returns none, and
tear-downs. -/
theorem Unopened.not_sound_step (h : Unopened init ph past s) (ho : ph.Allows c)
    (hc : ¬ past.Admits init c) : ¬ Sound .destroy (s.step sections c).applied := by
  -- `mState` is what the constructor left, so only `IDLE` keeps a tear-down from its primitives.
  have htear : ¬ ((past.opened ∨ init = .IDLE) ∧ ¬ past.failed) → s.mState ≠ .IDLE := by
    rw [h.state, h.not_opened, h.not_failed]
    simp
  obtain ⟨r, n, rfl⟩ | ⟨unlinkFails, rfl⟩ | rfl := h.allowed ho
  · -- `open` passes the null pointer on to `mDestroyFunc`.
    obtain ⟨hr, hn⟩ := not_or.1 hc
    rw [s.step_open, if_neg hr, if_pos (not_not.1 hn)]
    exact not_sound_of_none rfl
  · exact not_sound_step_of_none h.skeleton (htear hc)
  · exact not_sound_step_of_none h.skeleton (htear hc)

/-- With a skeleton that is not destroyed, every call is admitted. -/
theorem Alive.admits (h : Alive sections ph past s k) (ho : ph.Allows c) : past.Admits init c := by
  have hn : ¬ past.tornDown := by simp [h.not_tornDown]
  have ht : (past.opened ∨ init = .IDLE) ∧ ¬ past.failed := ⟨.inl h.opened, by simp [h.not_failed]⟩
  cases c with
  | open' r n => exact absurd ho h.phase
  | load err => exact hn
  | attach err => exact hn
  | link _ _ _ _ => exact .inr hn
  | tearDown unlinkFails => exact ht
  | destroy => exact ht

/-- Once it is destroyed and the state says so, the calls that are not admitted are those of a
set-up that goes on. -/
theorem Gone.not_sound_step (h : Gone ph past s k) (ho : ph.Allows c)
    (hc : ¬ past.Admits init c) : ¬ Sound .destroy (s.step sections c).applied := by
  have ht : (past.opened ∨ init = .IDLE) ∧ ¬ past.failed := ⟨.inl h.opened, by simp [h.not_failed]⟩
  cases c with
  | open' r n => exact absurd ho h.phase
  | load err => exact not_sound_step_of_released h.skeleton h.released trivial
  | attach err => exact not_sound_step_of_released h.skeleton h.released trivial
  | link _ _ _ _ => exact not_sound_step_of_released h.skeleton h.released (not_or.1 hc).1
  | tearDown unlinkFails => exact absurd ht hc
  | destroy => exact absurd ht hc

/-- Once it is destroyed and the state does not say so, only tear-downs may come, and they use
it. -/
theorem Failed.not_sound_step (h : Failed ph past s k) (ho : ph.Allows c) :
    ¬ Sound .destroy (s.step sections c).applied := by
  obtain rfl := h.phase
  obtain ⟨unlinkFails, rfl⟩ | rfl := Phase.allows_stopped ho
  · exact not_sound_step_of_released h.skeleton h.released h.state
  · exact not_sound_step_of_released h.skeleton h.released h.state

/-- A call that the past does not admit misuses the skeleton. -/
theorem Tracks.not_sound_step (h : Tracks sections init ph past s) (ho : ph.Allows c)
    (hc : ¬ past.Admits init c) : ¬ Sound .destroy (s.step sections c).applied := by
  cases h with
  | unopened h => exact h.not_sound_step ho hc
  | alive k hs h => exact absurd (h.admits ho) hc
  | gone k hs h => exact h.not_sound_step ho hc
  | failed k hs h => exact h.not_sound_step ho

/-! ### Use -/

theorem destroyed_of_idle (h : s.mState = .IDLE) : s.destroyed = s := by
  unfold ProgramLifeCycle.destroyed
  rw [if_pos h]

theorem tornDown_of_idle (h : s.mState = .IDLE) (unlinkFails : UInt32 → Bool) :
    s.tornDown sections unlinkFails = s := by
  have hl : s.mState ≠ .LINKED := by
    rw [h]
    decide
  unfold ProgramLifeCycle.tornDown
  rw [if_neg hl, destroyed_of_idle h]

/-- A skeleton is opened, with nothing done to it and nothing linked. -/
theorem Unopened.opens (h : Unopened init ph past s) :
    Tracks sections init .opened { past with opened := true }
      { s with mState := .OPENED, mpSkeleton := some s.opened, opened := s.opened + 1 } := by
  -- `tearDown` would unlink nothing.
  have hlinks : s.links sections = [] := by
    unfold ProgramLifeCycle.links
    rw [h.links]
    simp
  refine .alive s.opened ?_ ⟨by simp, by simp, fun _ => h.not_linked, h.not_failed,
    h.not_tornDown, by simp, ?_, ?_, rfl, ?_⟩
  · show Sound .destroy s.applied
    rw [h.applied]
    exact sound_nil
  · simp [h.not_linked]
  · intro i
    show i ∈ s.links sections ↔ _
    simp [hlinks, h.not_linked]
  · show ¬ Released .destroy s.applied s.opened
    rw [h.applied]
    exact not_released_nil

/-- Before a skeleton is opened, a tear-down is skipped. -/
theorem Unopened.step (h : Unopened init ph past s) (ho : ph.Allows c) (hc : past.Admits init c) :
    Tracks sections init (ph.next sections c) (past.after sections c) (s.step sections c) := by
  have hidle : (past.opened ∨ init = .IDLE) ∧ ¬ past.failed → s.mState = .IDLE := by
    rw [h.state, h.not_opened]
    simp only [Bool.false_eq_true, false_or]
    exact fun hi => hi.1
  -- A tear-down that destroys nothing is not one of the past.
  have htorn : (past.tornDown || past.opened) = false := by
    rw [h.not_tornDown, h.not_opened]
    rfl
  obtain ⟨r, n, rfl⟩ | ⟨unlinkFails, rfl⟩ | rfl := h.allowed ho
  · rw [s.step_open]
    simp only [Phase.next, Past.after]
    cases r with
    | true => exact .unopened { h with phase := .inr rfl }
    | false =>
      have hn : n = false := by simpa [Past.Admits] using hc
      subst hn
      exact h.opens
  · rw [s.step_tearDown, tornDown_of_idle (hidle hc)]
    simp only [Phase.next, Past.after]
    rw [h.not_linked]
    exact .unopened { h with not_tornDown := htorn, not_linked := rfl }
  · rw [s.step_destroy, destroyed_of_idle (hidle hc)]
    exact .unopened { h with not_tornDown := htorn }

/-- Once the skeleton is destroyed and the state says so, tear-downs are skipped, and the set-up
may only try an interface that is not there. -/
theorem Gone.step (hs : Sound .destroy s.applied) (h : Gone ph past s k) (ho : ph.Allows c)
    (hc : past.Admits init c) :
    Tracks sections init (ph.next sections c) (past.after sections c) (s.step sections c) := by
  -- A set-up that goes on was torn down.
  have htorn : ph ≠ .stopped → past.tornDown = true := fun hne => h.tornDown.resolve_right hne
  cases c with
  | open' r n => exact absurd ho h.phase
  | load err => exact absurd (htorn (by rw [show ph = _ from ho]; decide)) hc
  | attach err => exact absurd (htorn (by rw [show ph = _ from ho]; decide)) hc
  | link sectionName ifIndex linkFails unlinkFails =>
    have h0 : ifIndex = 0 := by
      refine hc.resolve_right fun hn => hn (htorn ?_)
      rw [show ph = _ from ho]
      decide
    rw [s.step_link, if_pos h0]
    simp only [Phase.next, Past.after]
    rw [if_pos (.inl h0), if_pos (.inl h0)]
    exact .gone k hs { h with phase := by decide, tornDown := .inr rfl }
  | tearDown unlinkFails =>
    rw [s.step_tearDown, tornDown_of_idle h.state]
    simp only [Phase.next, Past.after]
    split_ifs
    · exact .gone k hs h
    · exact .gone k hs { h with tornDown := .inl (by simp [h.opened]) }
  | destroy =>
    rw [s.step_destroy, destroyed_of_idle h.state]
    exact .gone k hs { h with tornDown := .inl (by simp [Past.after, h.opened]) }

/-- A section is linked to one more interface. -/
theorem Alive.addLink (h : Alive sections ph past s k) {sectionName : String}
    (hsec : sectionName ∈ sections) (ifIndex : UInt32) (hph : ph = .attached) :
    Alive sections ph { past with linked := past.linked ++ [ifIndex] }
      { s.addLink sectionName ifIndex with mState := .LINKED } k where
  phase := h.phase
  opened := h.opened
  linked := by simp [hph]
  not_failed := h.not_failed
  not_tornDown := h.not_tornDown
  state := by simp
  state_linked := by simp
  links i := by
    show i ∈ (s.addLink sectionName ifIndex).links sections ↔ _
    rw [s.mem_links_addLink hsec, h.links, List.mem_append, List.mem_singleton]
  skeleton := h.skeleton
  not_released := h.not_released

section Alive

variable (hs : Sound .destroy s.applied) (h : Alive sections ph past s k)

include hs h

/-- The skeleton is destroyed. -/
theorem Alive.noted_destroy :
    Sound .destroy (s.noted .destroy).applied ∧ Released .destroy (s.noted .destroy).applied k := by
  have happ : (s.noted .destroy).applied = s.applied ++ [⟨.destroy, some k⟩] := by
    rw [← h.skeleton]
    rfl
  rw [happ]
  exact hs.append_release h.not_released

/-- It is destroyed, and the state says so. -/
theorem Alive.destroyed :
    Sound .destroy s.destroyed.applied ∧ Released .destroy s.destroyed.applied k ∧
      s.destroyed.mState = .IDLE ∧ s.destroyed.mpSkeleton = some k := by
  obtain ⟨hs', hr⟩ := h.noted_destroy hs
  unfold ProgramLifeCycle.destroyed
  rw [if_neg h.state]
  exact ⟨hs', hr, rfl, h.skeleton⟩

/-- It is used. -/
theorem Alive.noted {p : Primitive} (hp : p ≠ .destroy) :
    Sound .destroy (s.noted p).applied ∧ Alive sections ph past (s.noted p) k := by
  obtain ⟨hs', hr⟩ := hs.append_use h.not_released hp
  have happ : (s.noted p).applied = s.applied ++ [⟨p, some k⟩] := by
    rw [← h.skeleton]
    rfl
  rw [happ]
  refine ⟨hs', { h with not_released := ?_ }⟩
  rw [happ]
  exact hr

/-- A tear-down is stopped by an interface that was linked, or destroys the skeleton. -/
theorem Alive.tornDown (unlinkFails : UInt32 → Bool) :
    (past.linked.any unlinkFails = true ∧ s.tornDown sections unlinkFails =
        s.noted .forEachProgram) ∨
      (past.linked.any unlinkFails = false ∧
        Sound .destroy (s.tornDown sections unlinkFails).applied ∧
        Released .destroy (s.tornDown sections unlinkFails).applied k ∧
        (s.tornDown sections unlinkFails).mState = .IDLE ∧
        (s.tornDown sections unlinkFails).mpSkeleton = some k) := by
  -- What `tearDown` unlinks is what was linked, in another order.
  have hany : (s.links sections).any unlinkFails = past.linked.any unlinkFails := by
    rw [Bool.eq_iff_iff, List.any_eq_true, List.any_eq_true]
    simp only [h.links]
  unfold ProgramLifeCycle.tornDown
  by_cases hl : s.mState = .LINKED
  · rw [if_pos hl, hany]
    cases hu : past.linked.any unlinkFails with
    | true => exact .inl ⟨rfl, rfl⟩
    | false =>
      obtain ⟨hs', h'⟩ := h.noted hs (p := .forEachProgram) (by decide)
      exact .inr ⟨rfl, h'.destroyed hs'⟩
  · have hnil : past.linked = [] := by
      by_contra hne
      exact hl (h.state_linked.2 hne)
    rw [if_neg hl, hnil]
    exact .inr ⟨rfl, h.destroyed hs⟩

/-- A `load` or an `attach` that fails destroys it, and the state does not say so. -/
theorem Alive.failed {p : Primitive} (hp : p ≠ .destroy) :
    Tracks sections init .stopped { past with failed := true } ((s.noted p).noted .destroy) := by
  obtain ⟨hs', h'⟩ := h.noted hs hp
  obtain ⟨hd, hr⟩ := h'.noted_destroy hs'
  exact .failed k hd ⟨rfl, rfl, h.state, h.skeleton, hr⟩

/-- One that succeeds moves on. -/
theorem Alive.advance {p : Primitive} (hp : p ≠ .destroy) (hnil : past.linked = []) {ph' : Phase}
    (hph : ph' ≠ .constructed) {state : ProgramState} (hi : state ≠ .IDLE)
    (hl : state ≠ .LINKED) :
    Tracks sections init ph' past { s.noted p with mState := state } := by
  obtain ⟨hs', h'⟩ := h.noted hs hp
  refine .alive k hs' { h' with
    phase := hph, linked := fun _ => hnil, state := hi, state_linked := ?_ }
  exact iff_of_false hl (not_not.2 hnil)

/-- A `link` that throws with the skeleton in place stops the set-up. -/
theorem Alive.stopped : Tracks sections init .stopped past s :=
  .alive k hs { h with phase := by decide, linked := by simp }

/-- A `link` of a section that the driver refuses: the tear-down is stopped, or destroys the
skeleton. -/
theorem Alive.refused (unlinkFails : UInt32 → Bool) :
    Tracks sections init .stopped past (s.tornDown sections unlinkFails) := by
  rcases h.tornDown hs unlinkFails with ⟨-, e⟩ | ⟨-, hs', hr, hst, hsk⟩
  · obtain ⟨hs', h'⟩ := h.noted hs (p := .forEachProgram) (by decide)
    rw [e]
    exact h'.stopped hs'
  · exact .gone k hs' ⟨by decide, h.opened, h.not_failed, .inr rfl, hst, hsk, hr⟩

/-- A `link`, in the order in which it can end. -/
theorem Alive.link (hph : ph = .attached) (sectionName : String) (ifIndex : UInt32)
    (linkFails : Bool) (unlinkFails : UInt32 → Bool) :
    Tracks sections init (ph.next sections (.link sectionName ifIndex linkFails unlinkFails))
      (past.after sections (.link sectionName ifIndex linkFails unlinkFails))
      (s.step sections (.link sectionName ifIndex linkFails unlinkFails)) := by
  obtain ⟨hs', h'⟩ := h.noted hs (p := .forEachProgram) (by decide)
  rw [s.step_link]
  simp only [Phase.next, Past.after]
  by_cases h0 : ifIndex = 0
  · -- `link` throws before it looks at the skeleton.
    rw [if_pos h0, if_pos (.inl h0), if_pos (.inl h0)]
    exact h.stopped hs
  by_cases hsec : sectionName ∈ sections
  · rw [if_neg h0, if_pos hsec]
    cases linkFails with
    | true =>
      rw [if_pos rfl, if_pos (.inr (.inr rfl)), if_pos (.inr (.inr rfl))]
      exact h'.refused hs' unlinkFails
    | false =>
      have hnot : ¬ (ifIndex = 0 ∨ sectionName ∉ sections ∨ (false = true)) := by
        simp [h0, hsec]
      rw [if_neg Bool.false_ne_true, if_neg hnot, if_neg hnot, ← hph]
      exact .alive k hs' (h'.addLink hsec ifIndex hph)
  · -- No section has the name, and `link` throws after the walk.
    rw [if_neg h0, if_neg hsec, if_pos (.inr (.inl hsec)), if_pos (.inr (.inl hsec))]
    exact h'.stopped hs'

/-- With a skeleton that is not destroyed. -/
theorem Alive.step (ho : ph.Allows c) :
    Tracks sections init (ph.next sections c) (past.after sections c) (s.step sections c) := by
  cases c with
  | open' r n => exact absurd ho h.phase
  | load err =>
    rw [s.step_load]
    simp only [Phase.next, Past.after]
    split_ifs
    · exact h.failed hs (by decide)
    · exact h.advance hs (by decide) (h.linked (.inl ho)) (by decide) (by decide) (by decide)
  | attach err =>
    rw [s.step_attach]
    simp only [Phase.next, Past.after]
    split_ifs
    · exact h.failed hs (by decide)
    · exact h.advance hs (by decide) (h.linked (.inr ho)) (by decide) (by decide) (by decide)
  | link sectionName ifIndex linkFails unlinkFails =>
    exact h.link hs ho sectionName ifIndex linkFails unlinkFails
  | tearDown unlinkFails =>
    rw [s.step_tearDown]
    simp only [Phase.next, Past.after]
    rcases h.tornDown hs unlinkFails with ⟨hu, e⟩ | ⟨hu, hs', hr, hst, hsk⟩
    · -- The skeleton is left.
      obtain ⟨hs', h'⟩ := h.noted hs (p := .forEachProgram) (by decide)
      rw [if_pos hu, e]
      exact .alive k hs' h'
    · rw [hu]
      exact .gone k hs' ⟨h.phase, h.opened, h.not_failed, .inl (by simp [h.opened]), hst, hsk, hr⟩
  | destroy =>
    obtain ⟨hs', hr, hst, hsk⟩ := h.destroyed hs
    rw [s.step_destroy]
    exact .gone k hs' ⟨h.phase, h.opened, h.not_failed, .inl (by simp [Past.after, h.opened]), hst,
      hsk, hr⟩

end Alive

/-- A call that the past admits uses the skeleton as it may be used. -/
theorem Tracks.step (h : Tracks sections init ph past s) (ho : ph.Allows c)
    (hc : past.Admits init c) :
    Tracks sections init (ph.next sections c) (past.after sections c) (s.step sections c) := by
  cases h with
  | unopened h => exact h.step ho hc
  | alive k hs h => exact h.step hs ho
  | gone k hs h => exact h.step hs ho hc
  | failed k hs h =>
    -- Only a tear-down may come, and none is admitted.
    obtain rfl := h.phase
    obtain ⟨unlinkFails, rfl⟩ | rfl := Phase.allows_stopped ho
    · exact absurd h.failed hc.2
    · exact absurd h.failed hc.2

/-- In a run that goes on from there, the ledger stays sound exactly when the past admits every
call. -/
theorem Tracks.sound_foldl_iff {calls : List LifeCycleCall} (h : Tracks sections init ph past s)
    (ho : Run.Along (Phase.next sections) Phase.Allows ph calls) :
    Sound .destroy (calls.foldl (ProgramLifeCycle.step sections) s).applied ↔
      Run.Along (Past.after sections) (Past.Admits init) past calls := by
  induction calls generalizing ph past s with
  | nil => exact iff_of_true h.sound trivial
  | cons c calls ih =>
    rw [List.foldl_cons, Run.along_cons]
    -- The ledger only grows, so a call that misuses the skeleton spoils the rest of the run.
    by_cases hc : past.Admits init c
    · rw [ih (h.step ho.1 hc) ho.2, and_iff_right hc]
    · refine iff_of_false (fun hs => ?_) (fun ha => hc ha.1)
      exact h.not_sound_step ho.1 hc (ProgramLifeCycle.sound_of_sound_foldl hs)

end Tracks

/-- In a run in the order of the wrappers, the skeleton is destroyed at most once and not used
without or after, exactly when `mOpenFunc` returns one, no step of the set-up comes after a
tear-down, and no tear-down comes before `open`, unless the constructor left `IDLE`, or after a
`load` or an `attach` that failed. -/
theorem sound_iff (sections : List String) (init : ProgramState) (calls : List LifeCycleCall)
    (ho : Order sections calls) :
    Sound .destroy (ProgramLifeCycle.run sections init calls).applied ↔
      Run.Along (Past.after sections) (Past.Admits init) {} calls :=
  tracks_init.sound_foldl_iff ho

/-- The whole life of the entry program: two links, and a tear-down twice. -/
def entryProgramLife : List LifeCycleCall :=
  [.open' false false, .load 0, .attach 0, .link "xdp_entry_point" 3 false (fun _ => false),
    .link "xdp_entry_point" 4 false (fun _ => false), .tearDown (fun _ => false),
    .tearDown (fun _ => false)]

theorem sound_iff_sample :
    Sound .destroy
      (ProgramLifeCycle.run ["xdp_entry_point"] (.indeterminate 77) entryProgramLife).applied := by
  have ho : Order ["xdp_entry_point"] entryProgramLife :=
    ⟨rfl, rfl, rfl, rfl, rfl, trivial, trivial, trivial⟩
  refine (sound_iff _ _ _ ho).2 ⟨?_, ?_, ?_, ?_, ?_, ?_, ?_, trivial⟩
  · exact .inr (by decide)
  · show ¬ _; decide
  · show ¬ _; decide
  · exact .inr (by decide)
  · exact .inr (by decide)
  · exact ⟨.inl (by decide), by decide⟩
  · exact ⟨.inl (by decide), by decide⟩

/-- A skeleton that cannot be loaded is destroyed by `load`, and again by the tear-down. -/
theorem not_sound_of_load_failure :
    Order ["xdp_entry_point"] [.open' false false, .load (-22), .tearDown (fun _ => false)] ∧
      (ProgramLifeCycle.run ["xdp_entry_point"] .IDLE
        [.open' false false, .load (-22), .tearDown (fun _ => false)]).applied =
          [⟨.load, some 0⟩, ⟨.destroy, some 0⟩, ⟨.destroy, some 0⟩] ∧
      ¬ Sound .destroy (ProgramLifeCycle.run ["xdp_entry_point"] .IDLE
        [.open' false false, .load (-22), .tearDown (fun _ => false)]).applied := by
  have happ : (ProgramLifeCycle.run ["xdp_entry_point"] .IDLE
      [.open' false false, .load (-22), .tearDown (fun _ => false)]).applied =
        [⟨.load, some 0⟩, ⟨.destroy, some 0⟩, ⟨.destroy, some 0⟩] := by decide
  refine ⟨⟨rfl, rfl, trivial, trivial⟩, happ, fun hs => ?_⟩
  have honce := hs.once 0
  rw [happ] at honce
  exact absurd honce (by decide)

end UpfBpf
