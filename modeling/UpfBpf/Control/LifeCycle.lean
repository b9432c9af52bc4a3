import Mathlib.Data.List.AList
import UpfBpf.Lib.Ledger
import UpfBpf.Control.Program

/-!
# The life cycle of a program

`ProgramLifeCycle` of `src/programs/ProgramLifeCycle.hpp` opens, loads, attaches, and links the
skeleton of a BPF program, and destroys it. The skeleton is a handle that is acquired by `mOpenFunc`
and released by `mDestroyFunc`, and the object keeps a ledger of the primitives that it has applied
to it. Each method is followed by the object that it leaves (`step_open` to `step_link`), and the
ledger only grows (`applied_step`).

`lifeCycle` of `Control.Program` is what the deployment of a session sees of a life cycle;
`lifeCycle_loaded_iff` and `not_loaded_tearDown` connect the two.
-/

namespace UpfBpf

open Effect Ledger

/-! ## The object -/

/-- `enum ProgramState`, and what else the field can hold: the constructor does not initialise
it. -/
inductive ProgramState
  | IDLE
  | OPENED
  | LOADED
  | ATTACHED
  | LINKED
  | DESTROYED
  /-- Bits that are no enumerator. -/
  | indeterminate (bits : UInt32)
  deriving DecidableEq, Repr

/-- What is applied to a skeleton. -/
inductive Primitive
  /-- `mLoadFunc`. -/
  | load
  /-- `mAttachFunc`. -/
  | attach
  /-- `bpf_object__for_each_program` on its object. -/
  | forEachProgram
  /-- `mDestroyFunc`. -/
  | destroy
  deriving DecidableEq, Repr

/-- What a life cycle throws. -/
inductive LifeCycleErr
  | rlimit
  | load (err : ℤ)
  | attach (err : ℤ)
  | noInterface
  | linkSet
  | noSection
  | unlink
  deriving DecidableEq, Repr

/-- The text of the exception. -/
def LifeCycleErr.what : LifeCycleErr → String
  | .rlimit => "Cannot change bpf limit program"
  | .load err => "Cannot load program - error" ++ toString err
  | .attach err => "Cannot attach program - error" ++ toString err
  | .noInterface => "Interface not found!"
  | .linkSet => "BPF program link set XDP failed"
  | .noSection => "Section not found"
  | .unlink => "BPF program cannot unlink"

/-- `ProgramLifeCycle`. A skeleton is numbered by the call of `mOpenFunc` that returned it. -/
structure ProgramLifeCycle where
  /-- The state. -/
  mState : ProgramState
  /-- The skeleton, or null. -/
  mpSkeleton : Option ℕ := none
  /-- The interfaces that each section is linked to. -/
  mSectionLinkInterfacesMap : AList fun _ : String => List UInt32 := ∅
  /-- The skeletons that `mOpenFunc` has returned. -/
  opened : ℕ := 0
  /-- What was applied to skeletons. -/
  applied : List (Entry Primitive ℕ) := []

namespace ProgramLifeCycle

/-- A primitive is applied to the skeleton. What it does with one that is null or destroyed is
undefined; the ledger has the call, and the method goes on. -/
def apply (primitive : Primitive) : EStateM LifeCycleErr ProgramLifeCycle Unit :=
  modify fun s => { s with applied := s.applied ++ [⟨primitive, s.mpSkeleton⟩] }

/-- Assigns `mState`. -/
def setState (state : ProgramState) : EStateM LifeCycleErr ProgramLifeCycle Unit :=
  modify fun s => { s with mState := state }

/-- `open`, with what `setrlimit` and `mOpenFunc` answer. -/
def open' (setrlimitFails returnsNull : Bool) :
    EStateM LifeCycleErr ProgramLifeCycle (Option ℕ) := do
  if setrlimitFails then throw .rlimit
  if returnsNull then
    modify fun s => { s with mpSkeleton := none }
    apply .destroy
  else
    modify fun s => { s with mpSkeleton := some s.opened, opened := s.opened + 1 }
  setState .OPENED
  return (← get).mpSkeleton

/-- `load`, with what `mLoadFunc` returns. -/
def load (err : ℤ) : EStateM LifeCycleErr ProgramLifeCycle Unit := do
  apply .load
  if err ≠ 0 then
    apply .destroy
    throw (.load err)
  setState .LOADED

/-- `attach`, with what `mAttachFunc` returns. -/
def attach (err : ℤ) : EStateM LifeCycleErr ProgramLifeCycle Unit := do
  apply .attach
  if err ≠ 0 then
    apply .destroy
    throw (.attach err)
  setState .ATTACHED

/-- `destroy`. -/
def destroy : EStateM LifeCycleErr ProgramLifeCycle Unit := do
  if (← get).mState ≠ .IDLE then apply .destroy
  setState .IDLE

/-- The interfaces that `tearDown` unlinks: for each program of the object, those of its section. -/
def links (sections : List String) (s : ProgramLifeCycle) : List UInt32 :=
  sections.flatMap fun sectionName => (s.mSectionLinkInterfacesMap.lookup sectionName).getD []

/-- `tearDown`. The skeleton's object has the programs of `sections`, and `unlinkFails` says which
interfaces `bpf_set_link_xdp_fd` fails to unlink. -/
def tearDown (sections : List String) (unlinkFails : UInt32 → Bool) :
    EStateM LifeCycleErr ProgramLifeCycle Unit := do
  if (← get).mState ≠ .IDLE then
    if (← get).mState = .LINKED then
      apply .forEachProgram
      if ((← get).links sections).any unlinkFails then throw .unlink
    destroy

/-- Records that the section is linked to the interface. -/
def addLink (sectionName : String) (ifIndex : UInt32) (s : ProgramLifeCycle) : ProgramLifeCycle :=
  let linkVector := (s.mSectionLinkInterfacesMap.lookup sectionName).getD []
  { s with
    mSectionLinkInterfacesMap :=
      s.mSectionLinkInterfacesMap.insert sectionName (linkVector ++ [ifIndex]) }

/-- `link`. `ifIndex` is what `if_nametoindex` answers, zero for no interface; `linkFails` is the
outcome of `bpf_set_link_xdp_fd`. -/
def link (sections : List String) (sectionName : String) (ifIndex : UInt32) (linkFails : Bool)
    (unlinkFails : UInt32 → Bool) : EStateM LifeCycleErr ProgramLifeCycle Unit := do
  if ifIndex = 0 then throw .noInterface
  apply .forEachProgram
  if sectionName ∉ sections then throw .noSection
  if linkFails then
    tearDown sections unlinkFails
    throw .linkSet
  modify (addLink sectionName ifIndex)
  setState .LINKED

end ProgramLifeCycle

/-! ## Calls -/

/-- A call, with what the primitives answer during it. -/
inductive LifeCycleCall
  | open' (setrlimitFails returnsNull : Bool)
  | load (err : ℤ)
  | attach (err : ℤ)
  | link (sectionName : String) (ifIndex : UInt32) (linkFails : Bool) (unlinkFails : UInt32 → Bool)
  | tearDown (unlinkFails : UInt32 → Bool)
  | destroy

/-- The method that is called. -/
def LifeCycleCall.exec (sections : List String) :
    LifeCycleCall → EStateM LifeCycleErr ProgramLifeCycle Unit
  | .open' setrlimitFails returnsNull => do
    let _ ← ProgramLifeCycle.open' setrlimitFails returnsNull
  | .load err => ProgramLifeCycle.load err
  | .attach err => ProgramLifeCycle.attach err
  | .link sectionName ifIndex linkFails unlinkFails =>
    ProgramLifeCycle.link sections sectionName ifIndex linkFails unlinkFails
  | .tearDown unlinkFails => ProgramLifeCycle.tearDown sections unlinkFails
  | .destroy => ProgramLifeCycle.destroy

/-- The object after a call, returned from or thrown out of. -/
def ProgramLifeCycle.step (sections : List String) (s : ProgramLifeCycle) (c : LifeCycleCall) :
    ProgramLifeCycle :=
  final (c.exec sections s)

/-- The object after a run. `init` is what the constructor leaves in `mState`. -/
def ProgramLifeCycle.run (sections : List String) (init : ProgramState)
    (calls : List LifeCycleCall) : ProgramLifeCycle :=
  calls.foldl (ProgramLifeCycle.step sections) { mState := init }

namespace ProgramLifeCycle

variable {sections : List String} (s : ProgramLifeCycle)

/-- The object with one more entry in its ledger. -/
def noted (primitive : Primitive) : ProgramLifeCycle :=
  { s with applied := s.applied ++ [⟨primitive, s.mpSkeleton⟩] }

theorem step_open (r n : Bool) :
    s.step sections (.open' r n) =
      if r then s
      else if n then
        { s with mpSkeleton := none, applied := s.applied ++ [⟨.destroy, none⟩], mState := .OPENED }
      else { s with mpSkeleton := some s.opened, opened := s.opened + 1, mState := .OPENED } := by
  cases r <;> cases n <;> rfl

theorem step_load (err : ℤ) :
    s.step sections (.load err) =
      if err ≠ 0 then (s.noted .load).noted .destroy
      else { s.noted .load with mState := .LOADED } := by
  unfold step LifeCycleCall.exec load
  by_cases h : err ≠ 0
  · simp only [if_pos h]
    rfl
  · simp only [if_neg h]
    rfl

theorem step_attach (err : ℤ) :
    s.step sections (.attach err) =
      if err ≠ 0 then (s.noted .attach).noted .destroy
      else { s.noted .attach with mState := .ATTACHED } := by
  unfold step LifeCycleCall.exec attach
  by_cases h : err ≠ 0
  · simp only [if_pos h]
    rfl
  · simp only [if_neg h]
    rfl

/-- The object once it is destroyed, unless it is idle. -/
def destroyed : ProgramLifeCycle :=
  if s.mState = .IDLE then s else { s.noted .destroy with mState := .IDLE }

theorem destroy_eq : destroy s = .ok () s.destroyed := by
  unfold destroy destroyed
  rw [bind_get]
  by_cases h : s.mState = .IDLE
  · -- `mState` is assigned all the same.
    rw [if_pos h, if_neg (not_not.2 h)]
    show EStateM.Result.ok () { s with mState := .IDLE } = .ok () s
    rw [← h]
  · rw [if_neg h, if_pos h]
    rfl

theorem step_destroy : s.step sections .destroy = s.destroyed := by
  show final (destroy s) = s.destroyed
  rw [destroy_eq, final_ok]

/-- The object after a tear-down: idle, or as it was if an interface could not be unlinked. -/
def tornDown (sections : List String) (unlinkFails : UInt32 → Bool) : ProgramLifeCycle :=
  if s.mState = .LINKED then
    if (s.links sections).any unlinkFails then s.noted .forEachProgram
    else (s.noted .forEachProgram).destroyed
  else s.destroyed

theorem tearDown_eq (sections : List String) (unlinkFails : UInt32 → Bool) :
    tearDown sections unlinkFails s =
      if s.mState = .LINKED ∧ (s.links sections).any unlinkFails then
        .error .unlink (s.tornDown sections unlinkFails)
      else .ok () (s.tornDown sections unlinkFails) := by
  unfold tearDown tornDown
  rw [bind_get]
  by_cases hi : s.mState = .IDLE
  · have hl : s.mState ≠ .LINKED := by rw [hi]; decide
    rw [if_neg (not_not.2 hi), if_neg (fun h => hl h.1), if_neg hl]
    unfold destroyed
    rw [if_pos hi]
    rfl
  · rw [if_pos hi]
    rw [bind_get]
    by_cases hl : s.mState = .LINKED
    · rw [if_pos hl, if_pos hl]
      have happly : apply .forEachProgram s = .ok () (s.noted .forEachProgram) := rfl
      have hlinks : (s.noted .forEachProgram).links sections = s.links sections := rfl
      -- The first interface that cannot be unlinked ends the walk, and the skeleton is left.
      rw [bind_of_ok happly, bind_get, hlinks]
      by_cases hu : (s.links sections).any unlinkFails
      · rw [if_pos hu, if_pos hu, if_pos ⟨hl, hu⟩]
        rfl
      · rw [if_neg hu, if_neg hu, if_neg (fun h => hu h.2)]
        exact destroy_eq _
    · rw [if_neg hl, if_neg hl, if_neg (fun h => hl h.1)]
      exact destroy_eq s

theorem step_tearDown (unlinkFails : UInt32 → Bool) :
    s.step sections (.tearDown unlinkFails) = s.tornDown sections unlinkFails := by
  show final (tearDown sections unlinkFails s) = _
  rw [tearDown_eq]
  split_ifs <;> rfl

theorem step_link (sectionName : String) (ifIndex : UInt32) (linkFails : Bool)
    (unlinkFails : UInt32 → Bool) :
    s.step sections (.link sectionName ifIndex linkFails unlinkFails) =
      if ifIndex = 0 then s
      else if sectionName ∈ sections then
        if linkFails then (s.noted .forEachProgram).tornDown sections unlinkFails
        else { (s.noted .forEachProgram).addLink sectionName ifIndex with mState := .LINKED }
      else s.noted .forEachProgram := by
  show final (link sections sectionName ifIndex linkFails unlinkFails s) = _
  unfold link
  by_cases h0 : ifIndex = 0
  · rw [if_pos h0, if_pos h0]
    rfl
  rw [if_neg h0, if_neg h0]
  by_cases hs : sectionName ∉ sections
  · rw [if_pos hs, if_neg hs]
    rfl
  rw [if_neg hs, if_pos (not_not.1 hs)]
  cases linkFails with
  | false => rfl
  | true =>
    -- Whether the tear-down throws or returns, `link` throws.
    show final ((tearDown sections unlinkFails >>= fun _ =>
      (throw .linkSet : EStateM LifeCycleErr ProgramLifeCycle Unit)) (s.noted .forEachProgram)) = _
    have htear := tearDown_eq (s.noted .forEachProgram) sections unlinkFails
    split_ifs at htear
    · rw [bind_of_error htear]
      rfl
    · rw [bind_of_ok htear]
      rfl

theorem applied_destroyed : ∃ l, s.destroyed.applied = s.applied ++ l := by
  unfold destroyed
  split_ifs
  · exact ⟨[], by simp⟩
  · exact ⟨_, rfl⟩

theorem applied_destroyed_of_ne {s : ProgramLifeCycle} (h : s.mState ≠ .IDLE) :
    s.destroyed.applied = s.applied ++ [⟨.destroy, s.mpSkeleton⟩] := by
  unfold destroyed
  rw [if_neg h]
  rfl

theorem applied_tornDown (sections : List String) (unlinkFails : UInt32 → Bool) :
    ∃ l, (s.tornDown sections unlinkFails).applied = s.applied ++ l := by
  unfold tornDown
  split_ifs
  · exact ⟨_, rfl⟩
  · obtain ⟨l, hl⟩ := applied_destroyed (s.noted .forEachProgram)
    exact ⟨_, hl.trans (List.append_assoc _ _ _)⟩
  · exact applied_destroyed s

/-- What is unlinked once a section has one more link. -/
theorem mem_links_addLink {sectionName : String} (hsec : sectionName ∈ sections)
    {ifIndex i : UInt32} :
    i ∈ (s.addLink sectionName ifIndex).links sections ↔ i ∈ s.links sections ∨ i = ifIndex := by
  -- Only the section's own list grows.
  have hlookup : ∀ name,
      ((s.addLink sectionName ifIndex).mSectionLinkInterfacesMap.lookup name).getD [] =
        (s.mSectionLinkInterfacesMap.lookup name).getD [] ++
          if name = sectionName then [ifIndex] else [] := by
    intro name
    unfold addLink
    split_ifs with hn
    · rw [hn, AList.lookup_insert]
      rfl
    · rw [AList.lookup_insert_ne hn, List.append_nil]
  unfold links
  simp only [hlookup, List.mem_flatMap, List.mem_append, and_or_left, exists_or]
  refine or_congr_right ⟨?_, ?_⟩
  · rintro ⟨name, -, hi⟩
    split_ifs at hi
    · exact List.mem_singleton.1 hi
    · exact absurd hi List.not_mem_nil
  · rintro rfl
    exact ⟨sectionName, hsec, by rw [if_pos rfl]; exact List.mem_singleton_self _⟩

/-- The ledger only grows. -/
theorem applied_step (sections : List String) (c : LifeCycleCall) :
    ∃ l, (s.step sections c).applied = s.applied ++ l := by
  cases c with
  | open' r n =>
    rw [step_open]
    split_ifs
    · exact ⟨[], by simp⟩
    · exact ⟨_, rfl⟩
    · exact ⟨[], by simp⟩
  | load err =>
    rw [step_load]
    split_ifs
    · exact ⟨_, List.append_assoc _ _ _⟩
    · exact ⟨_, rfl⟩
  | attach err =>
    rw [step_attach]
    split_ifs
    · exact ⟨_, List.append_assoc _ _ _⟩
    · exact ⟨_, rfl⟩
  | link sectionName ifIndex linkFails unlinkFails =>
    rw [step_link]
    split_ifs
    · exact ⟨[], by simp⟩
    · obtain ⟨l, hl⟩ := applied_tornDown (s.noted .forEachProgram) sections unlinkFails
      exact ⟨_, hl.trans (List.append_assoc _ _ _)⟩
    · exact ⟨_, rfl⟩
    · exact ⟨_, rfl⟩
  | tearDown unlinkFails =>
    rw [step_tearDown]
    exact applied_tornDown s sections unlinkFails
  | destroy =>
    rw [step_destroy]
    exact applied_destroyed s

/-- What was wrong in a run stays wrong. -/
theorem sound_of_sound_foldl {s : ProgramLifeCycle} {calls : List LifeCycleCall}
    (h : Sound .destroy (calls.foldl (step sections) s).applied) : Sound .destroy s.applied := by
  induction calls generalizing s with
  | nil => exact h
  | cons c calls ih =>
    obtain ⟨l, hl⟩ := applied_step s sections c
    have hstep := ih h
    rw [hl] at hstep
    exact hstep.left

end ProgramLifeCycle

/-! ## What a deployment sees of it -/

/-- The calls of `FARProgram::setup`, and the access to the skeleton between the first two. -/
def wrapperSetup (env : Env) : EStateM LifeCycleErr ProgramLifeCycle Bool := do
  let skeleton ← ProgramLifeCycle.open' env.setrlimitFails env.openFails
  -- `initializeMaps` reads through the pointer; without a skeleton the process ends here.
  if skeleton = none then return false
  ProgramLifeCycle.load env.loadErr
  ProgramLifeCycle.attach env.attachErr
  return true

/-- The program is loaded: its skeleton was, and is not destroyed. -/
def ProgramLifeCycle.Loaded (s : ProgramLifeCycle) : Prop :=
  ∃ k, s.mpSkeleton = some k ∧ ⟨.load, some k⟩ ∈ s.applied ∧ ¬ Released .destroy s.applied k

section Deployment

variable {env : Env} {init : ProgramState}

/-- The set-up of a life cycle that a deployment can go on with. -/
theorem wrapperSetup_of_loads (h : env.Loads) (init : ProgramState) :
    wrapperSetup env { mState := init } = .ok true
      { mState := .ATTACHED, mpSkeleton := some 0, opened := 1,
        applied := [⟨.load, some 0⟩, ⟨.attach, some 0⟩] } := by
  obtain ⟨h1, h2, h3, h4⟩ := h
  unfold wrapperSetup ProgramLifeCycle.load ProgramLifeCycle.attach
  rw [h1, h2, h3, h4]
  rfl

/-- One that it cannot go on with leaves no loaded program. -/
theorem not_loaded_wrapperSetup (h : ¬ env.Loads) (init : ProgramState) :
    ¬ (final (wrapperSetup env { mState := init })).Loaded := by
  -- In the order of the calls, the first failure ends the set-up.
  by_cases h1 : env.setrlimitFails
  · have e : final (wrapperSetup env { mState := init }) = { mState := init } := by
      simp only [wrapperSetup, ProgramLifeCycle.open', h1]
      rfl
    rw [e]
    rintro ⟨k, hk, -⟩
    cases hk
  by_cases h2 : env.openFails
  · have e : (final (wrapperSetup env { mState := init })).mpSkeleton = none := by
      simp only [wrapperSetup, ProgramLifeCycle.open', h1, h2]
      rfl
    rintro ⟨k, hk, -⟩
    rw [e] at hk
    cases hk
  -- From here on there is a skeleton, and what fails has destroyed it.
  suffices hd : (final (wrapperSetup env { mState := init })).mpSkeleton = some 0 ∧
      Released .destroy (final (wrapperSetup env { mState := init })).applied 0 by
    rintro ⟨k, hk, -, hr⟩
    rw [hd.1] at hk
    rw [← Option.some.inj hk] at hr
    exact hr hd.2
  have released_last : ∀ l : List (Entry Primitive ℕ),
      Released .destroy (l ++ [⟨.destroy, some 0⟩]) 0 :=
    fun l => released_append_singleton.2 (.inr rfl)
  by_cases h3 : env.loadErr ≠ 0
  · have e : final (wrapperSetup env { mState := init }) =
        { mState := .OPENED, mpSkeleton := some 0, opened := 1,
          applied := [⟨.load, some 0⟩] ++ [⟨.destroy, some 0⟩] } := by
      simp only [wrapperSetup, ProgramLifeCycle.open', ProgramLifeCycle.load, h1, h2, if_pos h3]
      rfl
    rw [e]
    exact ⟨rfl, released_last _⟩
  by_cases h4 : env.attachErr ≠ 0
  · have e : final (wrapperSetup env { mState := init }) =
        { mState := .LOADED, mpSkeleton := some 0, opened := 1,
          applied := [⟨.load, some 0⟩, ⟨.attach, some 0⟩] ++ [⟨.destroy, some 0⟩] } := by
      simp only [wrapperSetup, ProgramLifeCycle.open', ProgramLifeCycle.load,
        ProgramLifeCycle.attach, h1, h2, if_neg h3, if_pos h4]
      rfl
    rw [e]
    exact ⟨rfl, released_last _⟩
  rw [not_not] at h3 h4
  exact absurd ⟨by simpa using h1, by simpa using h2, h3, h4⟩ h

/-- The flag that a deployment keeps of a life cycle says whether the skeleton is loaded. -/
theorem lifeCycle_loaded_iff (env : Env) (init : ProgramState) (id : UInt32) :
    (final (lifeCycle env { mId := id })).loaded = true ↔
      (final (wrapperSetup env { mState := init })).Loaded := by
  by_cases h : env.Loads
  · rw [lifeCycle_of_loads h, wrapperSetup_of_loads h]
    exact iff_of_true rfl ⟨0, rfl, by decide, by unfold Released; decide⟩
  · obtain ⟨e, he⟩ := lifeCycle_of_not_loads h id
    rw [he]
    exact iff_of_false Bool.false_ne_true (not_loaded_wrapperSetup h init)

/-- A tear-down of a program that is not linked takes it away. -/
theorem not_loaded_tearDown {sections : List String} {s : ProgramLifeCycle}
    (hi : s.mState ≠ .IDLE) (hl : s.mState ≠ .LINKED) (unlinkFails : UInt32 → Bool) :
    ¬ (final (ProgramLifeCycle.tearDown sections unlinkFails s)).Loaded := by
  have he : final (ProgramLifeCycle.tearDown sections unlinkFails s) = s.destroyed := by
    rw [s.tearDown_eq, if_neg (fun h => hl h.1), final_ok, ProgramLifeCycle.tornDown, if_neg hl]
  rw [he]
  rintro ⟨k, hk, -, hr⟩
  have hsk : s.mpSkeleton = some k := by
    rw [← hk, ProgramLifeCycle.destroyed, if_neg hi]
    rfl
  rw [ProgramLifeCycle.applied_destroyed_of_ne hi, hsk] at hr
  exact hr (released_append_singleton.2 (.inr rfl))

end Deployment

end UpfBpf
