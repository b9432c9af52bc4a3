import UpfBpf.Datapath.Far
import UpfBpf.Lib.Effect

/-!
# Setting up a rule program

`FARProgram::setup` (`src/programs/FARProgram.cpp`) opens, loads, and attaches the skeleton through
its life cycle (`src/programs/ProgramLifeCycle.hpp`) and fills the redirect interfaces. Everything
that it asks of libbpf and the kernel can fail. `Env` is what the outside answers during one call of
the control plane, and a computation that throws keeps the state that it has reached.
-/

namespace UpfBpf

open Effect

/-- What a call throws. -/
inductive Err
  /-- `createBPFSession` on a session without a PDR. -/
  | noPdr
  /-- `createBPFSession` when an element or the FAR is missing. -/
  | noFields
  /-- `ProgramLifeCycle::open` when the memory limit cannot be lifted. -/
  | rlimit
  /-- No exception: the process reads through a null pointer. The handler of `SIGSEGV` tears the
  user plane down and exits (`SignalHandler::tearDown`), so that the run ends there. The model lets
  it go on, and what holds of its runs holds of more than there are. -/
  | segfault
  /-- `ProgramLifeCycle::load`. -/
  | load (err : ℤ)
  /-- `ProgramLifeCycle::attach`. -/
  | attach (err : ℤ)
  /-- `BPFMap::update`. -/
  | mapUpdate
  /-- `BPFMap::remove`. -/
  | mapRemove
  /-- `removeBPFSession` and `removePipeline` without such a session. -/
  | noSession
  deriving DecidableEq, Repr

/-- The text of the exception. -/
def Err.what : Err → Option String
  | .noPdr => some "No PDR was found in session"
  | .noFields => some "No fields available"
  | .rlimit => some "Cannot change bpf limit program"
  | .segfault => none
  | .load err => some ("Cannot load program - error" ++ toString err)
  | .attach err => some ("Cannot attach program - error" ++ toString err)
  | .mapUpdate => some "The BPF map cannot be updated"
  | .mapRemove => some "The BPF map cannot be removed"
  | .noSession => some "The session does not exist. Cannot be removed"

/-- The interfaces of `UserPlaneComponent`, as `if_nametoindex` resolves their names. Zero is no
interface. -/
structure Interfaces where
  /-- The interface of the data network. -/
  udpInterfaceIndex : UInt32
  /-- The interface of the access network. -/
  gtpInterfaceIndex : UInt32

/-- The interfaces of an entry program that `UPFProgram::setup` has linked to both, so that neither
is unknown. -/
structure LinkedInterfaces extends Interfaces where
  /-- Zero is no interface. -/
  udp_ne : udpInterfaceIndex ≠ 0
  /-- Zero is no interface. -/
  gtp_ne : gtpInterfaceIndex ≠ 0

instance : Coe LinkedInterfaces Interfaces := ⟨LinkedInterfaces.toInterfaces⟩

/-- What the outside does during one call. -/
structure Env where
  /-- `std::sort`, which orders what compares equal as it likes. -/
  stdSort : (PfcpPdr → PfcpPdr → Bool) → List PfcpPdr → List PfcpPdr
  /-- What `comparePDR` reads for the precedence of a PDR that has none. -/
  uninitialised : PfcpPdr → PfcpPdr → UInt32 × UInt32 := fun _ _ => (0, 0)
  /-- `setrlimit` fails. -/
  setrlimitFails : Bool := false
  /-- `far_bpf_c__open` returns null. -/
  openFails : Bool := false
  /-- What `far_bpf_c__load` returns. -/
  loadErr : ℤ := 0
  /-- What `far_bpf_c__attach` returns. -/
  attachErr : ℤ := 0
  /-- The kernel fails the update of the UPLINK entry. -/
  uplinkFails : Bool := false
  /-- The kernel fails the update of the DOWNLINK entry. -/
  downlinkFails : Bool := false
  /-- The kernel fails the update of `m_next_rule_prog_index`, whatever is in it. -/
  indexFails : Bool := false
  /-- The kernel fails the update of `m_next_rule_prog`, whatever is in it. -/
  progFails : Bool := false
  /-- The kernel fails the update of `m_far`. -/
  farFails : Bool := false

/-- `BPFMap::update`: throws when the kernel fails or the map refuses. -/
def bpfMapUpdate {σ : Type} (fails : Bool) (update : σ → Option σ) : EStateM Err σ Unit :=
  attempt fails .mapUpdate update

section Setup

variable (ifs : Interfaces) (env : Env)

/-- `ProgramLifeCycle::open`, and the first access to the skeleton by `initializeMaps`. -/
def lifeCycleOpen : EStateM Err FARProgram Unit := do
  if env.setrlimitFails then throw .rlimit
  if env.openFails then throw .segfault

/-- `ProgramLifeCycle::load`. -/
def lifeCycleLoad : EStateM Err FARProgram Unit := do
  if env.loadErr ≠ 0 then throw (.load env.loadErr)
  modify fun p => { p with loaded := true }

/-- `ProgramLifeCycle::attach`; a skeleton that cannot be attached is destroyed. -/
def lifeCycleAttach : EStateM Err FARProgram Unit := do
  if env.attachErr ≠ 0 then
    modify fun p => { p with loaded := false }
    throw (.attach env.attachErr)

/-- The three calls of the life cycle by `FARProgram::setup`. -/
def lifeCycle : EStateM Err FARProgram Unit := do
  lifeCycleOpen env
  lifeCycleLoad env
  lifeCycleAttach env

/-- An update of `mpEgressInterfaceMap`. -/
def updateEgressInterface (fails : Bool) (entry : FlowDirection) (ifIndex : UInt32) :
    EStateM Err FARProgram Unit :=
  bpfMapUpdate fails fun p =>
    (p.m_redirect_interfaces.set entry.toNat (devmapEntry ifIndex)).map fun m =>
      { p with m_redirect_interfaces := m }

/-- `FARProgram::setup`. -/
def FARProgram.setup : EStateM Err FARProgram Unit := do
  lifeCycle env
  updateEgressInterface env.uplinkFails .UPLINK ifs.udpInterfaceIndex
  updateEgressInterface env.downlinkFails .DOWNLINK ifs.gtpInterfaceIndex

/-- An update of `getFARMap()` at index zero. -/
def FARProgram.updateFar (far : PfcpFarT) : EStateM Err FARProgram Unit :=
  bpfMapUpdate env.farFails fun p => (p.m_far.update 0 far).map fun m => { p with m_far := m }

end Setup

/-! ## What a set-up leaves -/

/-- The program gets loaded, and stays so. -/
structure Env.Loads (env : Env) : Prop where
  /-- The memory limit is lifted. -/
  setrlimit : env.setrlimitFails = false
  /-- There is a skeleton. -/
  open' : env.openFails = false
  /-- It is loaded. -/
  load : env.loadErr = 0
  /-- It is attached. -/
  attach : env.attachErr = 0

/-- The set-up returns. -/
structure Env.SetsUp (env : Env) : Prop extends env.Loads where
  /-- The UPLINK entry is written. -/
  uplink : env.uplinkFails = false
  /-- The DOWNLINK entry is written. -/
  downlink : env.downlinkFails = false

/-- The redirect interfaces of a program that is set up. -/
def redirectInterfaces (ifs : Interfaces) : RedirectInterfaces :=
  ⟨fun i => if i = 0 then devmapEntry ifs.gtpInterfaceIndex
    else if i = 1 then devmapEntry ifs.udpInterfaceIndex else none⟩

theorem get_redirectInterfaces (ifs : Interfaces) (i : ℕ) :
    (redirectInterfaces ifs).get i = if i = 0 then devmapEntry ifs.gtpInterfaceIndex
      else if i = 1 then devmapEntry ifs.udpInterfaceIndex else none := by
  unfold SlotArray.get redirectInterfaces
  by_cases hi : i < 10
  · simp [hi, Fin.ext_iff]
  · have h0 : i ≠ 0 := by omega
    have h1 : i ≠ 1 := by omega
    simp [hi, h0, h1]

/-- The UPLINK entry of a program that sends to the interfaces of the entry program. -/
theorem LinkedInterfaces.get_uplink (ifs : LinkedInterfaces) :
    (redirectInterfaces ifs).get FlowDirection.UPLINK.toNat = some ifs.udpInterfaceIndex :=
  (get_redirectInterfaces ifs _).trans (if_neg ifs.udp_ne)

/-- Its DOWNLINK entry. -/
theorem LinkedInterfaces.get_downlink (ifs : LinkedInterfaces) :
    (redirectInterfaces ifs).get FlowDirection.DOWNLINK.toNat = some ifs.gtpInterfaceIndex :=
  (get_redirectInterfaces ifs _).trans (if_neg ifs.gtp_ne)

/-- A program that is set up, before it is given a FAR. -/
def FARProgram.ready (ifs : Interfaces) (id : UInt32) : FARProgram where
  mId := id
  loaded := true
  m_redirect_interfaces := redirectInterfaces ifs

section SetupSpec

variable {ifs : Interfaces} {env : Env}

/-- A life cycle without failure. -/
theorem lifeCycle_of_loads (h : env.Loads) (p : FARProgram) :
    lifeCycle env p = .ok () { p with loaded := true } := by
  obtain ⟨h1, h2, h3, h4⟩ := h
  simp only [lifeCycle, lifeCycleOpen, lifeCycleLoad, lifeCycleAttach, h1, h2, h3, h4]
  rfl

/-- A failure before the program is loaded for good leaves it as it was constructed. -/
theorem lifeCycle_of_not_loads (h : ¬ env.Loads) (id : UInt32) :
    ∃ e, lifeCycle env { mId := id } = .error e { mId := id } := by
  -- In the order of the calls: the first failure is the one that is thrown.
  by_cases h1 : env.setrlimitFails
  · exact ⟨.rlimit, by simp only [lifeCycle, lifeCycleOpen, h1]; rfl⟩
  by_cases h2 : env.openFails
  · exact ⟨.segfault, by simp only [lifeCycle, lifeCycleOpen, h1, h2]; rfl⟩
  by_cases h3 : env.loadErr ≠ 0
  · refine ⟨.load env.loadErr, ?_⟩
    simp only [lifeCycle, lifeCycleOpen, lifeCycleLoad, h1, h2, if_pos h3]
    rfl
  by_cases h4 : env.attachErr ≠ 0
  · refine ⟨.attach env.attachErr, ?_⟩
    simp only [lifeCycle, lifeCycleOpen, lifeCycleLoad, lifeCycleAttach, h1, h2, if_neg h3,
      if_pos h4]
    rfl
  rw [not_not] at h3 h4
  exact absurd ⟨by simpa using h1, by simpa using h2, h3, h4⟩ h

/-- The entries are inside the map, so an update only fails with the kernel. -/
theorem updateEgressInterface_cases (fails : Bool) (entry : FlowDirection) (ifIndex : UInt32)
    (p : FARProgram) :
    (fails = false ∧ ∃ m,
        p.m_redirect_interfaces.set entry.toNat (devmapEntry ifIndex) = some m ∧
        updateEgressInterface fails entry ifIndex p =
          .ok () { p with m_redirect_interfaces := m }) ∨
      (fails = true ∧ updateEgressInterface fails entry ifIndex p = .error .mapUpdate p) := by
  have hlt : entry.toNat < 10 := by cases entry <;> decide
  obtain ⟨m, hm⟩ :=
    SlotArray.exists_set_of_lt hlt p.m_redirect_interfaces (devmapEntry ifIndex)
  cases fails with
  | false =>
    refine .inl ⟨rfl, m, hm, ?_⟩
    rw [updateEgressInterface, bpfMapUpdate, attempt_of_some rfl (by rw [hm]; rfl)]
  | true =>
    refine .inr ⟨rfl, ?_⟩
    rw [updateEgressInterface, bpfMapUpdate, attempt_of_refused (.inl rfl)]

/-- The redirect interfaces once both entries are written. -/
theorem set_set_empty {m m' : RedirectInterfaces}
    (h : SlotArray.empty.set FlowDirection.UPLINK.toNat (devmapEntry ifs.udpInterfaceIndex) =
      some m)
    (h' : m.set FlowDirection.DOWNLINK.toNat (devmapEntry ifs.gtpInterfaceIndex) = some m') :
    m' = redirectInterfaces ifs := by
  apply SlotArray.ext
  intro i
  rw [SlotArray.get_set h', SlotArray.get_set h, get_redirectInterfaces, SlotArray.get_empty]
  rfl

/-- A set-up without failure. -/
theorem setup_of_setsUp (h : env.SetsUp) (id : UInt32) :
    FARProgram.setup ifs env { mId := id } = .ok () (FARProgram.ready ifs id) := by
  rw [FARProgram.setup, bind_of_ok (lifeCycle_of_loads h.toLoads _)]
  rcases updateEgressInterface_cases env.uplinkFails .UPLINK ifs.udpInterfaceIndex
    { mId := id, loaded := true } with ⟨-, m, hm, hu⟩ | ⟨hf, -⟩
  · rw [bind_of_ok hu]
    rcases updateEgressInterface_cases env.downlinkFails .DOWNLINK ifs.gtpInterfaceIndex
      { mId := id, loaded := true, m_redirect_interfaces := m } with ⟨-, m', hm', hd⟩ | ⟨hf, -⟩
    · rw [hd, set_set_empty hm hm']
      rfl
    · exact absurd (h.downlink.symm.trans hf) (by decide)
  · exact absurd (h.uplink.symm.trans hf) (by decide)

/-- A set-up that throws: the program has no FAR, and it is loaded if it got that far. -/
theorem setup_of_not_setsUp (ifs : Interfaces) (h : ¬ env.SetsUp) (id : UInt32) :
    ∃ e p, FARProgram.setup ifs env { mId := id } = .error e p ∧ p.mId = id ∧ p.far = none ∧
      (p.loaded = true ↔ env.Loads) := by
  by_cases hl : env.Loads
  · -- One of the two updates fails, and the program stays loaded.
    rw [FARProgram.setup, bind_of_ok (lifeCycle_of_loads hl _)]
    rcases updateEgressInterface_cases env.uplinkFails .UPLINK ifs.udpInterfaceIndex
      { mId := id, loaded := true } with ⟨hf, m, -, hu⟩ | ⟨-, hu⟩
    · rw [bind_of_ok hu]
      rcases updateEgressInterface_cases env.downlinkFails .DOWNLINK ifs.gtpInterfaceIndex
        { mId := id, loaded := true, m_redirect_interfaces := m } with ⟨hf', -⟩ | ⟨-, hd⟩
      · exact absurd ⟨hl, hf, hf'⟩ h
      · exact ⟨_, _, hd, rfl, rfl, iff_of_true rfl hl⟩
    · exact ⟨_, _, bind_of_error hu, rfl, rfl, iff_of_true rfl hl⟩
  · obtain ⟨e, he⟩ := lifeCycle_of_not_loads hl id
    exact ⟨e, _, bind_of_error he, rfl, rfl, iff_of_false Bool.false_ne_true hl⟩

/-- The only FAR of a program fits into its map, so that the update only fails with the kernel. -/
theorem updateFar_cases (env : Env) (far : PfcpFarT) (p : FARProgram)
    (hp : p.m_far = BoundedMap.empty) :
    (env.farFails = false ∧ ∃ m, BoundedMap.empty.update 0 far = some m ∧
        FARProgram.updateFar env far p = .ok () { p with m_far := m }) ∨
      (env.farFails = true ∧ FARProgram.updateFar env far p = .error .mapUpdate p) := by
  obtain ⟨m, hm⟩ := BoundedMap.exists_update_of_size_lt
    (m := (BoundedMap.empty : BoundedMap 1 UInt8 PfcpFarT)) (by decide) 0 far
  cases hf : env.farFails with
  | false =>
    refine .inl ⟨rfl, m, hm, ?_⟩
    rw [FARProgram.updateFar, bpfMapUpdate, attempt_of_some hf (by rw [hp, hm]; rfl)]
  | true =>
    refine .inr ⟨rfl, ?_⟩
    rw [FARProgram.updateFar, bpfMapUpdate, attempt_of_refused (.inl hf)]

end SetupSpec

end UpfBpf
