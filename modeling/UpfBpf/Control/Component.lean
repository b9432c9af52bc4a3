import UpfBpf.Control.LifeCycle
import UpfBpf.Control.Session

/-!
# The component

`UserPlaneComponent` with both generations of its session registries. `createBPFSession` and
`removeBPFSession` are those of `Control.Session`. Before them, there were `createSession` and
`removeSession`: `SessionProgramManager::create` sets a `SessionProgram` up for an SEID, in a
registry of its own, and refuses an SEID that it knows; `remove` tears the program down. Both
managers take the SEID as 32 bits.

`UserPlaneComponent::tearDown` tears the entry program down and lets `removeAll` tear down what it
finds in the older registry. `removeAll` notifies an observer of every program, through a pointer
that nothing sets, and does not look at the newer registry.

The objects that tear-downs are called on are logged: a FAR program is torn down by the destructor
of the `SessionPrograms` that owns it, a session program by `remove` and `removeAll`.
-/

namespace UpfBpf

open Effect

/-- What a call of the component throws. -/
inductive ComponentErr
  /-- An exception of `Err`. -/
  | call (e : Err)
  /-- `SessionProgramManager::create` on an SEID that it knows. -/
  | sessionExists
  /-- `ProgramLifeCycle::tearDown` of the entry program. -/
  | unlink
  /-- No exception: the process calls through a null pointer. -/
  | nullObserver
  deriving DecidableEq, Repr

/-- The text of the exception. -/
def ComponentErr.what : ComponentErr → Option String
  | .call e => e.what
  | .sessionExists => some "Cannot create a new program with key (seid)"
  | .unlink => some LifeCycleErr.unlink.what
  | .nullObserver => none

/-! ## Session programs -/

/-- `SessionProgram`, as far as the component writes it. -/
structure SessionProgram where
  /-- The skeleton is loaded, and not torn down yet. -/
  loaded : Bool := false
  /-- `getEgressInterfaceMap()`. -/
  m_redirect_interfaces : RedirectInterfaces := SlotArray.empty

namespace SessionProgram

variable (ifs : Interfaces) (env : Env)

/-- `SessionProgram::setup`: the life cycle, as in `FARProgram::setup`. A skeleton that cannot be
attached is destroyed, so that the program is loaded once all of it has succeeded. -/
def setup : EStateM Err SessionProgram Unit := do
  if env.setrlimitFails then throw .rlimit
  if env.openFails then throw .segfault
  if env.loadErr ≠ 0 then throw (.load env.loadErr)
  if env.attachErr ≠ 0 then throw (.attach env.attachErr)
  modify fun p => { p with loaded := true }

/-- An update of `getEgressInterfaceMap()`. -/
def updateEgressInterface (fails : Bool) (entry : FlowDirection) (ifIndex : UInt32) :
    EStateM Err SessionProgram Unit :=
  bpfMapUpdate fails fun p =>
    (p.m_redirect_interfaces.set entry.toNat (devmapEntry ifIndex)).map fun m =>
      { p with m_redirect_interfaces := m }

/-- What `SessionProgramManager::create` does with the program that it has instantiated. -/
def bringUp : EStateM Err SessionProgram Unit := do
  setup env
  updateEgressInterface env.uplinkFails .UPLINK ifs.udpInterfaceIndex
  updateEgressInterface env.downlinkFails .DOWNLINK ifs.gtpInterfaceIndex

variable {ifs env}

/-- The entries are inside the map, so an update only fails with the kernel. -/
theorem updateEgressInterface_eq (fails : Bool) (entry : FlowDirection) (ifIndex : UInt32)
    (p : SessionProgram) :
    ∃ p', updateEgressInterface fails entry ifIndex p =
      if fails then .error .mapUpdate p else .ok () p' := by
  have hlt : entry.toNat < 10 := by cases entry <;> decide
  obtain ⟨m, hm⟩ := SlotArray.exists_set_of_lt hlt p.m_redirect_interfaces (devmapEntry ifIndex)
  refine ⟨{ p with m_redirect_interfaces := m }, ?_⟩
  unfold updateEgressInterface bpfMapUpdate attempt
  dsimp only
  rw [hm]
  rfl

/-- A failure of the life cycle leaves the program as it was constructed. -/
theorem setup_of_not_loads (h : ¬ env.Loads) : ∃ e, setup env {} = .error e {} := by
  by_cases h1 : env.setrlimitFails
  · exact ⟨.rlimit, by simp only [setup, h1]; rfl⟩
  by_cases h2 : env.openFails
  · exact ⟨.segfault, by simp only [setup, h1, h2]; rfl⟩
  by_cases h3 : env.loadErr ≠ 0
  · exact ⟨.load env.loadErr, by simp only [setup, h1, h2, if_pos h3]; rfl⟩
  by_cases h4 : env.attachErr ≠ 0
  · exact ⟨.attach env.attachErr, by simp only [setup, h1, h2, if_neg h3, if_pos h4]; rfl⟩
  rw [not_not] at h3 h4
  exact absurd ⟨by simpa using h1, by simpa using h2, h3, h4⟩ h

/-- When a session program is set up. -/
theorem bringUp_returns_iff : (∃ a p, bringUp ifs env {} = .ok a p) ↔ env.SetsUp := by
  unfold bringUp
  by_cases hl : env.Loads
  · -- What is left are the two map updates, and the first to fail is thrown.
    obtain ⟨h1, h2, h3, h4⟩ := hl
    have hsetup : setup env {} = .ok () { loaded := true } := by
      simp only [setup, h1, h2, h3, h4]
      rfl
    rw [bind_of_ok hsetup]
    obtain ⟨p, hu⟩ := updateEgressInterface_eq env.uplinkFails .UPLINK ifs.udpInterfaceIndex
      { loaded := true }
    cases h5 : env.uplinkFails with
    | true =>
      rw [h5] at hu
      rw [bind_of_error hu]
      exact iff_of_false (by simp) fun h => absurd (h5.symm.trans h.uplink) (by decide)
    | false =>
      rw [h5] at hu
      rw [bind_of_ok hu]
      obtain ⟨p', hd⟩ := updateEgressInterface_eq env.downlinkFails .DOWNLINK ifs.gtpInterfaceIndex
        p
      rw [hd]
      cases h6 : env.downlinkFails with
      | true => exact iff_of_false (by simp) fun h => absurd (h6.symm.trans h.downlink) (by decide)
      | false => exact iff_of_true ⟨(), p', rfl⟩ ⟨⟨h1, h2, h3, h4⟩, h5, h6⟩
  · obtain ⟨e, he⟩ := setup_of_not_loads hl
    rw [bind_of_error he]
    exact iff_of_false (by simp) fun h => hl h.toLoads

end SessionProgram

/-! ## The state and the calls -/

/-- The state of the component. -/
structure Component where
  /-- `mpUPFProgram`, by its life cycle. -/
  mpUPFProgram : ProgramLifeCycle
  /-- What `createBPFSession` and `removeBPFSession` work on. -/
  bpf : State := {}
  /-- The registry of the session programs. -/
  mSessionProgramMap : AList (fun _ : UInt32 => ℕ) := ∅
  /-- The session programs, in the order of their construction. -/
  sessionPrograms : List SessionProgram := []
  /-- Whether the pointer to the observer is set. -/
  mpOnNewSessionProgramObserver : Bool := false
  /-- The FAR programs that `tearDown` was called on. -/
  farTearDowns : List ℕ := []
  /-- The session programs that `tearDown` was called on. -/
  sessionTearDowns : List ℕ := []

/-- The section of the entry program in its object. -/
def entrySections : List String := ["xdp_entry_point"]

/-- The calls of `UPFProgram::setup`, when none fails. -/
def entrySetup (ifs : LinkedInterfaces) : List LifeCycleCall :=
  [.open' false false, .load 0, .attach 0,
    .link "xdp_entry_point" ifs.udpInterfaceIndex false fun _ => false,
    .link "xdp_entry_point" ifs.gtpInterfaceIndex false fun _ => false]

/-- The component that `UserPlaneComponent::setup` leaves when it returns. `init` is what the
constructor of the life cycle left in `mState`. -/
def Component.setup (ifs : LinkedInterfaces) (init : ProgramState) : Component where
  mpUPFProgram := ProgramLifeCycle.run entrySections init (entrySetup ifs)

/-- `findSessionProgram`. -/
def findSessionProgram (s : Component) (seid : UInt32) : Option ℕ :=
  s.mSessionProgramMap.lookup seid

/-- `SessionProgram::tearDown`. It is never linked, so that its skeleton is just destroyed. -/
def Component.tearDownSession (s : Component) (pSessionProgram : ℕ) : Component :=
  { s with
    sessionPrograms := s.sessionPrograms.modify pSessionProgram fun p => { p with loaded := false }
    sessionTearDowns := s.sessionTearDowns ++ [pSessionProgram] }

/-- A call of the component. -/
abbrev CM : Type → Type := EStateM ComponentErr Component

/-- `createSession`, and `SessionProgramManager::create`. -/
def createSession (ifs : Interfaces) (env : Env) (seid : UInt64) : CM Unit := fun s =>
  if seid.toUInt32 ∈ s.mSessionProgramMap then .error .sessionExists s
  else
    match SessionProgram.bringUp ifs env {} with
    | .ok _ p => .ok () { s with
        sessionPrograms := s.sessionPrograms ++ [p]
        mSessionProgramMap := s.mSessionProgramMap.insert seid.toUInt32 s.sessionPrograms.length }
    | .error e p => .error (.call e) { s with sessionPrograms := s.sessionPrograms ++ [p] }

/-- `removeSession`, and `SessionProgramManager::remove`. -/
def removeSession (seid : UInt64) : CM Unit := fun s =>
  match findSessionProgram s seid.toUInt32 with
  | none => .error (.call .noSession) s
  | some pSessionProgram => .ok () { s.tearDownSession pSessionProgram with
      mSessionProgramMap := s.mSessionProgramMap.erase seid.toUInt32 }

/-- The FAR programs that a call tears down: that of the `SessionPrograms` whose last pointer it
drops, by assigning the registry's entry or by resetting it. -/
def Call.tearsDown (ifs : Interfaces) (s : State) : Call → List ℕ
  | .createBPFSession pSession env =>
    match (UpfBpf.createBPFSession ifs env pSession s).1 with
    | .ok _ _ =>
      ((s.mSessionProgramsMap.lookup pSession.seid.toUInt32).map (·.mpFARProgram)).toList
    | .error _ _ => []
  | .removeBPFSession seid =>
    if seid ∈ s.mSeidToSession then
      ((s.mSessionProgramsMap.lookup seid.toUInt32).map (·.mpFARProgram)).toList
    else []

/-- A call of the component's users. -/
inductive ComponentCall
  /-- `createBPFSession` or `removeBPFSession`. -/
  | bpf (c : Call)
  /-- Creates a session program for the SEID. -/
  | createSession (seid : UInt64) (env : Env)
  /-- Removes it. -/
  | removeSession (seid : UInt64)

/-- A call on the part of the state that it is about. -/
def onBpf (ifs : Interfaces) (c : Call) : CM Unit := fun s =>
  match c.result ifs s.bpf with
  | .ok _ bpf =>
    .ok () { s with bpf := bpf, farTearDowns := s.farTearDowns ++ c.tearsDown ifs s.bpf }
  | .error e bpf =>
    .error (.call e) { s with bpf := bpf, farTearDowns := s.farTearDowns ++ c.tearsDown ifs s.bpf }

/-- What a call ends with. -/
def ComponentCall.result (ifs : Interfaces) (s : Component) :
    ComponentCall → EStateM.Result ComponentErr Component Unit
  | .bpf c => onBpf ifs c s
  | .createSession seid env => UpfBpf.createSession ifs env seid s
  | .removeSession seid => UpfBpf.removeSession seid s

/-- The component after a call. -/
def Component.step (ifs : Interfaces) (s : Component) (c : ComponentCall) : Component :=
  final (c.result ifs s)

/-- The call returns, and does not throw. -/
def ComponentCall.Returns (ifs : Interfaces) (s : Component) (c : ComponentCall) : Prop :=
  ∃ s', c.result ifs s = .ok () s'

/-- The component after a run of calls, from what `setup` leaves. -/
def Component.run (ifs : LinkedInterfaces) (init : ProgramState) (calls : List ComponentCall) :
    Component :=
  calls.foldl (Component.step ifs) (Component.setup ifs init)

/-! ## What the calls leave -/

section Steps

variable {ifs : Interfaces} (s : Component)

theorem Component.step_bpf (c : Call) :
    s.step ifs (.bpf c) =
      { s with
        bpf := UpfBpf.step ifs s.bpf c
        farTearDowns := s.farTearDowns ++ c.tearsDown ifs s.bpf } := by
  show final (onBpf ifs c s) = _
  unfold onBpf UpfBpf.step
  cases c.result ifs s.bpf <;> rfl

theorem Component.step_createSession_of_mem {seid : UInt64} (env : Env)
    (h : seid.toUInt32 ∈ s.mSessionProgramMap) : s.step ifs (.createSession seid env) = s := by
  show final (createSession ifs env seid s) = s
  unfold createSession
  rw [if_pos h]
  rfl

/-- A new SEID gets a program, and the registry an entry if the program is set up. -/
theorem Component.step_createSession_of_notMem {seid : UInt64} (env : Env)
    (h : seid.toUInt32 ∉ s.mSessionProgramMap) :
    s.step ifs (.createSession seid env) =
      match SessionProgram.bringUp ifs env {} with
      | .ok _ p => { s with
          sessionPrograms := s.sessionPrograms ++ [p]
          mSessionProgramMap := s.mSessionProgramMap.insert seid.toUInt32 s.sessionPrograms.length }
      | .error _ p => { s with sessionPrograms := s.sessionPrograms ++ [p] } := by
  show final (createSession ifs env seid s) = _
  unfold createSession
  rw [if_neg h]
  cases SessionProgram.bringUp ifs env {} <;> rfl

theorem Component.step_removeSession_of_none {seid : UInt64}
    (h : findSessionProgram s seid.toUInt32 = none) : s.step ifs (.removeSession seid) = s := by
  show final (removeSession seid s) = s
  unfold removeSession
  rw [h]
  rfl

theorem Component.step_removeSession_of_some {seid : UInt64} {pSessionProgram : ℕ}
    (h : findSessionProgram s seid.toUInt32 = some pSessionProgram) :
    s.step ifs (.removeSession seid) =
      { s.tearDownSession pSessionProgram with
        mSessionProgramMap := s.mSessionProgramMap.erase seid.toUInt32 } := by
  show final (removeSession seid s) = _
  unfold removeSession
  rw [h]
  rfl

variable (ifs)

/-- Nothing has changed but the session programs and their registry. -/
structure Component.SameOutside (s s' : Component) : Prop where
  /-- The pipelines. -/
  bpf : s'.bpf = s.bpf
  /-- The FAR programs that were torn down. -/
  farTearDowns : s'.farTearDowns = s.farTearDowns
  /-- The entry program. -/
  mpUPFProgram : s'.mpUPFProgram = s.mpUPFProgram
  /-- The observer. -/
  observer : s'.mpOnNewSessionProgramObserver = s.mpOnNewSessionProgramObserver

/-- The calls of the older generation change nothing else. -/
theorem Component.sameOutside_createSession (seid : UInt64) (env : Env) :
    s.SameOutside (s.step ifs (.createSession seid env)) := by
  by_cases h : seid.toUInt32 ∈ s.mSessionProgramMap
  · rw [s.step_createSession_of_mem env h]
    exact ⟨rfl, rfl, rfl, rfl⟩
  · rw [s.step_createSession_of_notMem env h]
    cases SessionProgram.bringUp ifs env {} <;> exact ⟨rfl, rfl, rfl, rfl⟩

theorem Component.sameOutside_removeSession (seid : UInt64) :
    s.SameOutside (s.step ifs (.removeSession seid)) := by
  cases h : findSessionProgram s seid.toUInt32 with
  | none =>
    rw [s.step_removeSession_of_none h]
    exact ⟨rfl, rfl, rfl, rfl⟩
  | some pSessionProgram =>
    rw [s.step_removeSession_of_some h]
    exact ⟨rfl, rfl, rfl, rfl⟩

/-- No call touches the entry program or sets the observer. -/
theorem Component.step_keeps (c : ComponentCall) :
    (s.step ifs c).mpUPFProgram = s.mpUPFProgram ∧
      (s.step ifs c).mpOnNewSessionProgramObserver = s.mpOnNewSessionProgramObserver := by
  cases c with
  | bpf c =>
    rw [s.step_bpf]
    exact ⟨rfl, rfl⟩
  | createSession seid env =>
    have h := s.sameOutside_createSession ifs seid env
    exact ⟨h.mpUPFProgram, h.observer⟩
  | removeSession seid =>
    have h := s.sameOutside_removeSession ifs seid
    exact ⟨h.mpUPFProgram, h.observer⟩

end Steps

theorem Component.run_keeps (ifs : LinkedInterfaces) (init : ProgramState)
    (calls : List ComponentCall) :
    (Component.run ifs init calls).mpUPFProgram = (Component.setup ifs init).mpUPFProgram ∧
      (Component.run ifs init calls).mpOnNewSessionProgramObserver = false := by
  refine Run.invariant (I := fun s : Component =>
    s.mpUPFProgram = (Component.setup ifs init).mpUPFProgram ∧
      s.mpOnNewSessionProgramObserver = false) ⟨rfl, rfl⟩ (fun s c hs => ?_) calls
  obtain ⟨h1, h2⟩ := s.step_keeps ifs c
  rw [h1, h2]
  exact hs

/-- A run in two parts. -/
theorem Component.run_append (ifs : LinkedInterfaces) (init : ProgramState)
    (pre post : List ComponentCall) :
    Component.run ifs init (pre ++ post) =
      post.foldl (Component.step ifs) (Component.run ifs init pre) :=
  List.foldl_append

/-! ## Tear-down -/

/-- The loop of `removeAll`. -/
def removeEach : List ℕ → CM Unit
  | [] => pure ()
  | pSessionProgram :: rest => do
    modify fun s => s.tearDownSession pSessionProgram
    -- The observer takes the program out of a map of the entry program, which is gone already.
    if !(← get).mpOnNewSessionProgramObserver then throw .nullObserver
    removeEach rest

/-- The programs of the registry, in the order of their SEIDs. -/
def Component.registeredPrograms (s : Component) : List ℕ :=
  (s.mSessionProgramMap.keys.insertionSort (· ≤ ·)).filterMap s.mSessionProgramMap.lookup

/-- `removeAll`. -/
def removeAll : CM Unit := do
  removeEach (← get).registeredPrograms
  modify fun s => { s with mSessionProgramMap := ∅ }

/-- `UserPlaneComponent::tearDown`; `unlinkFails` says which interfaces cannot be unlinked. -/
def Component.tearDown (unlinkFails : UInt32 → Bool) : CM Unit := do
  fun s => match ProgramLifeCycle.tearDown entrySections unlinkFails s.mpUPFProgram with
    | .ok _ upf => .ok () { s with mpUPFProgram := upf }
    | .error _ upf => .error .unlink { s with mpUPFProgram := upf }
  removeAll

end UpfBpf
