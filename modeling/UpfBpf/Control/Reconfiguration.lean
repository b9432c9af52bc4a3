import UpfBpf.Control.Attachment
import UpfBpf.Control.Delivery

/-!
# Setting up again

`UserPlaneComponent::setup` may be called more than once: by every `POST /configure` of
`tests/api/Server.cpp`, and by the fixture of `tests/SessionManagerTests.cpp` between tear-downs.
Each call constructs a `UPFProgram` in the place of the one before, and neither the destructor of
that object nor the one of its life cycle unlinks or destroys anything. An entry program that was
not torn down stays on its interfaces, with the maps that it was loaded with, and nobody holds its
object any more. The session manager is a new one once `setup` returns, and the one before when it
throws, while the registry of the pipelines and the counter of the ids belong to the process.

A `setup` that throws may leave an entry program with maps: it does not destroy its skeleton when a
name is empty or no interface has it, on the first `link` or on the second, or when the first link
cannot be taken off after the second was refused. The session manager of an earlier `setup` goes on
with these maps, and the rule programs that it deploys then send to the interfaces of the new names,
or nowhere for a name that no interface has.

`UserPlane` is the process with all of its entry programs, numbered by the calls of `setup`. To an
object of `Control.Attachment`, the programs of the others are programs of somebody else
(`UserPlane.host`), so that what it does to the interfaces is `Host.setup` and `Host.tearDown`. The
names stand for the same interfaces until the next `setup`.

A run ends where a null pointer or freed memory would be used: at a tear-down before the first
`setup`, at a call of the session manager before a `setup` has returned, and at one that gets to the
maps of an entry program which was never opened, or is destroyed (by a tear-down that returned, by
`load` or `attach`, or by a `link` that was refused). A call that throws before it gets there is as
any other. What a life cycle does to a skeleton that is null or that it has destroyed already does
not end a run here, as in the other modules: the runs are more than there are.
-/

namespace UpfBpf

open Effect

/-! ## The process -/

/-- Whose program an interface carries. -/
inductive Carrier
  /-- The entry program of a call of `setup`. -/
  | entry (generation : ℕ)
  /-- A program of somebody else. -/
  | foreign (id : ℕ)
  deriving DecidableEq, Repr

/-- The maps of an entry program that lead to the rule programs. -/
structure EntryMaps where
  /-- The index of the program of a key. -/
  m_next_rule_prog_index : BoundedMap 10 NextRuleProgIndexKey UInt32 := BoundedMap.empty
  /-- The prog array. -/
  m_next_rule_prog : SlotArray 10 ℕ := SlotArray.empty

/-- The maps of the entry program that the state is about. -/
def State.maps (s : State) : EntryMaps := ⟨s.m_next_rule_prog_index, s.m_next_rule_prog⟩

/-- The state as another entry program sees it. -/
def State.withMaps (s : State) (m : EntryMaps) : State :=
  { s with
    m_next_rule_prog_index := m.m_next_rule_prog_index
    m_next_rule_prog := m.m_next_rule_prog }

/-- The process. -/
structure UserPlane where
  /-- What each interface carries. -/
  carries : UInt32 → Option Carrier
  /-- The maps of the entry programs whose objects are gone. -/
  earlier : List EntryMaps := []
  /-- `mpUPFProgram`, by its life cycle; null before the first `setup`. -/
  mpUPFProgram : Option ProgramLifeCycle := none
  /-- What `mUDPInterface` and `mGTPInterface` stand for. -/
  interfaces : Interfaces := ⟨0, 0⟩
  /-- Whether `mpSessionManager` is set. -/
  mpSessionManager : Bool := false
  /-- The maps of `mpUPFProgram`, the sessions of `mpSessionManager`, and what the process keeps. -/
  state : State := {}

/-- A call of `UserPlaneComponent::setup`, with what the outside does meanwhile. -/
structure SetupCall where
  /-- The name of the interface of the access network. -/
  gtpInterface : String
  /-- The name of the interface of the data network. -/
  udpInterface : String
  /-- What the constructor of the life cycle leaves in `mState`. -/
  init : ProgramState
  /-- What the skeleton answers. -/
  env : Env
  /-- The outside during the first `link`. -/
  udp : LinkEnv
  /-- The outside during the second `link`. -/
  gtp : LinkEnv

namespace SetupCall

/-- The index of the interface of the data network. -/
def udpIndex (a : SetupCall) : UInt32 := a.udp.if_nametoindex a.udpInterface

/-- The index of the interface of the access network. -/
def gtpIndex (a : SetupCall) : UInt32 := a.gtp.if_nametoindex a.gtpInterface

/-- The interfaces that the rule programs send to from now on. -/
def interfaces (a : SetupCall) : Interfaces := ⟨a.udpIndex, a.gtpIndex⟩

/-- The call is to link the interface. -/
def Names (a : SetupCall) (i : UInt32) : Prop := a.udpIndex = i ∨ a.gtpIndex = i

end SetupCall

/-- What is done with the user plane. -/
inductive UserPlaneCall
  /-- `UserPlaneComponent::setup`. -/
  | setup (a : SetupCall)
  /-- `UserPlaneComponent::tearDown`; `unlinkFails` says which interfaces cannot be unlinked. -/
  | tearDown (unlinkFails : UInt32 → Bool)
  /-- A call of the session manager. -/
  | session (c : Call)

/-- The object has a skeleton, and has not destroyed it. -/
def ProgramLifeCycle.holdsSkeleton (s : ProgramLifeCycle) : Bool :=
  s.mpSkeleton.any fun skeleton => ⟨.destroy, some skeleton⟩ ∉ s.applied

/-- The call gets to the maps of the entry program: `createPipeline` once its program is set up, and
`removePipeline` once it has found a pipeline. -/
def Call.reachesMaps (ifs : Interfaces) (s : State) : Call → Bool
  | .createBPFSession pSession env =>
    match extractPipeline (sortPdrs env pSession),
        FARProgram.setup ifs env { mId := s.sIdCounter } with
    | .ok _, .ok _ _ => true
    | _, _ => false
  | .removeBPFSession seid =>
    seid ∈ s.mSeidToSession ∧ seid.toUInt32 ∈ s.mSessionProgramsMap

/-- How an object sees a program: its own, or that of somebody else. -/
def Carrier.seen (generation : ℕ) : Carrier → XdpProgram
  | .entry n => if n = generation then .entry else .foreign n
  | .foreign id => .foreign id

namespace UserPlane

variable (u : UserPlane)

/-- The maps of all entry programs, in the order of the calls of `setup`. -/
def generations : List EntryMaps :=
  u.earlier ++ (u.mpUPFProgram.map fun _ => u.state.maps).toList

/-- What the interfaces carry, as the object of the last `setup` sees it. -/
def view (i : UInt32) : Option XdpProgram := (u.carries i).map (Carrier.seen u.earlier.length)

/-- The object of the last `setup`, and what it sees. -/
def host (mpLifeCycle : ProgramLifeCycle) : Host := ⟨mpLifeCycle, u.view⟩

/-- What the object has done to itself and to the interfaces. -/
def withHost (h : Host) : UserPlane :=
  { u with
    mpUPFProgram := some h.mpLifeCycle
    carries := fun i => match h.xdp i with
      | none => none
      | some .entry => some (.entry u.earlier.length)
      | some (.foreign _) => u.carries i }

/-- The names are assigned, and `mpUPFProgram = std::make_shared<UPFProgram>(…)`: a new object, with
maps of its own, takes the place of the old one. -/
def replaceProgram (a : SetupCall) : UserPlane :=
  { u with
    earlier := u.generations
    mpUPFProgram := some { mState := a.init }
    interfaces := a.interfaces
    state := u.state.withMaps {} }

/-- `UserPlaneComponent::setup`. The session manager is replaced at the end. -/
def setup (a : SetupCall) : EStateM.Result SetupErr UserPlane Unit :=
  let u := u.replaceProgram a
  match Host.setup a.env a.udp a.gtp a.gtpInterface a.udpInterface
      (u.host { mState := a.init }) with
  | .ok _ h => .ok () { u.withHost h with
      mpSessionManager := true
      state := { u.state with mSeidToSession := ∅ } }
  | .error e h => .error e (u.withHost h)

/-- `UserPlaneComponent::tearDown`, on an object. There are no session programs of the older
generation to tear down. -/
def tearDown (mpLifeCycle : ProgramLifeCycle) (unlinkFails : UInt32 → Bool) :
    EStateM.Result SetupErr UserPlane Unit :=
  match Host.tearDown entrySections unlinkFails (u.host mpLifeCycle) with
  | .ok _ h => .ok () (u.withHost h)
  | .error e h => .error e (u.withHost h)

/-- The maps of `mpUPFProgram` are there. -/
def hasMaps : Bool := u.mpUPFProgram.any ProgramLifeCycle.holdsSkeleton

/-- The process after a call, where it is defined. -/
def step : UserPlaneCall → Option UserPlane
  | .setup a => some (final (u.setup a))
  | .tearDown unlinkFails => do
    let mpLifeCycle ← u.mpUPFProgram
    return final (u.tearDown mpLifeCycle unlinkFails)
  | .session c =>
    if u.mpSessionManager ∧ (u.hasMaps ∨ ¬ c.reachesMaps u.interfaces u.state) then
      some { u with state := UpfBpf.step u.interfaces u.state c }
    else none

/-- Whether a call that is defined returns. -/
def returns : UserPlaneCall → Bool
  | .setup a => (thrown (u.setup a)).isNone
  | .tearDown unlinkFails => u.mpUPFProgram.any fun mpLifeCycle =>
    (thrown (u.tearDown mpLifeCycle unlinkFails)).isNone
  | .session c => (thrown (c.result u.interfaces u.state)).isNone

/-- The process before the first `setup`, on a host with programs of somebody else. -/
def init (foreign : UInt32 → Option ℕ) : UserPlane where
  carries i := (foreign i).map .foreign

/-- The process after calls, if all of them are defined. -/
def steps (calls : List UserPlaneCall) : Option UserPlane := calls.foldlM UserPlane.step u

/-- The process after a run of calls. -/
def run (foreign : UInt32 → Option ℕ) (calls : List UserPlaneCall) : Option UserPlane :=
  (init foreign).steps calls

end UserPlane

/-- A call that does not get to the maps throws. -/
theorem Call.not_returns_of_not_reachesMaps {ifs : Interfaces} {s : State} {c : Call}
    (h : ¬ c.reachesMaps ifs s) : ¬ c.Returns ifs s := by
  intro hret
  cases c with
  | createBPFSession pSession env =>
    obtain ⟨key, pFar, index, slots, p, he, hindex, -⟩ := create_returns hret
    refine h ?_
    rw [reachesMaps, he, setup_of_setsUp hindex.setsUp]
  | removeBPFSession seid =>
    obtain ⟨entry, index, hentry, -, -⟩ := remove_returns hret
    have hregistered : seid.toUInt32 ∈ s.mSessionProgramsMap :=
      AList.lookup_isSome.1 (Option.isSome_of_eq_some hentry)
    have hunknown : seid ∉ s.mSeidToSession := by
      intro hseid
      rw [reachesMaps, decide_eq_true_eq] at h
      exact h ⟨hseid, hregistered⟩
    rw [← AList.lookup_eq_none] at hunknown
    rw [Call.Returns, Call.result, UpfBpf.removeBPFSession, bind_get, hunknown] at hret
    exact hret

/-! ## What an object writes -/

namespace Host

variable {J : (UInt32 → Option XdpProgram) → Prop} {sections : List String}

/-- `J` is kept when an interface is cleared, and when it gets the entry program. -/
structure OwnWrites (J : (UInt32 → Option XdpProgram) → Prop) : Prop where
  /-- The interface is cleared. -/
  clear : ∀ xdp i, J xdp → J (Function.update xdp i none)
  /-- The interface gets the entry program. -/
  attach : ∀ xdp i, J xdp → J (Function.update xdp i (some .entry))

/-- The computation keeps what its own writes keep. -/
def Keeps (J : (UInt32 → Option XdpProgram) → Prop) {α : Type} (x : EStateM SetupErr Host α) :
    Prop :=
  ∀ h, J h.xdp → Ends (fun h' => J h'.xdp) (fun _ h' => J h'.xdp) (x h)

theorem Keeps.bind {α β : Type} {x : EStateM SetupErr Host α} {f : α → EStateM SetupErr Host β}
    (hx : Keeps J x) (hf : ∀ a, Keeps J (f a)) : Keeps J (x >>= f) :=
  fun h hj => (hx h hj).bind fun a h' hj' => hf a h' hj'

theorem keeps_pure {α : Type} (a : α) : Keeps J (pure a) := fun _ hj => hj

theorem keeps_throw {α : Type} (e : SetupErr) : Keeps J (throw e : EStateM SetupErr Host α) :=
  fun _ hj => hj

theorem keeps_get : Keeps J (get : EStateM SetupErr Host Host) := fun _ hj => hj

theorem keeps_onLifeCycle {α : Type} (x : EStateM LifeCycleErr ProgramLifeCycle α) :
    Keeps J (onLifeCycle x) := by
  intro h hj
  unfold onLifeCycle
  cases x h.mpLifeCycle with
  | ok a s => exact hj
  | error e s => exact hj

theorem keeps_unlinkAll (hJ : OwnWrites J) (unlinkFails : UInt32 → Bool) (links : List UInt32) :
    Keeps J (unlinkAll unlinkFails links) := by
  induction links with
  | nil => exact keeps_pure ()
  | cons linkEntry rest ih =>
    have hdetach : Keeps J (modify (detachXdp linkEntry) : EStateM SetupErr Host Unit) :=
      fun h hj => hJ.clear h.xdp linkEntry hj
    unfold unlinkAll
    by_cases hu : unlinkFails linkEntry
    · rw [if_pos hu]
      exact keeps_throw _
    · rw [if_neg hu]
      exact hdetach.bind fun _ => ih

theorem keeps_tearDown (hJ : OwnWrites J) (unlinkFails : UInt32 → Bool) :
    Keeps J (tearDown sections unlinkFails) := by
  unfold tearDown
  refine keeps_get.bind fun h₁ => ?_
  by_cases hi : h₁.mpLifeCycle.mState ≠ .IDLE
  · rw [if_pos hi]
    refine keeps_get.bind fun h₂ => ?_
    by_cases hl : h₂.mpLifeCycle.mState = .LINKED
    · rw [if_pos hl]
      refine (keeps_onLifeCycle _).bind fun _ => keeps_get.bind fun h₃ => ?_
      exact (keeps_unlinkAll hJ _ _).bind fun _ => keeps_onLifeCycle _
    · rw [if_neg hl]
      exact (keeps_onLifeCycle _)
  · rw [if_neg hi]
    exact keeps_pure ()

theorem keeps_link (hJ : OwnWrites J) (env : LinkEnv) (sectionName interface : String) :
    Keeps J (link sections env sectionName interface) := by
  intro h hj
  by_cases hi : env.if_nametoindex interface = 0
  · rw [link_of_no_interface h hi]
    exact hj
  by_cases hs : sectionName ∈ sections
  · rw [link_eq h hi hs]
    cases ha : attachXdp env.linkFails (env.if_nametoindex interface)
        ⟨h.mpLifeCycle.noted .forEachProgram, h.xdp⟩ with
    | none => exact (keeps_tearDown hJ env.unlinkFails).bind (fun _ => keeps_throw _) _ hj
    | some h' =>
      obtain ⟨-, rfl⟩ := attachXdp_eq_some ha
      exact hJ.attach _ _ hj
  · rw [link_of_no_section h hi hs]
    exact hj

theorem keeps_setup (hJ : OwnWrites J) (env : Env) (udp gtp : LinkEnv)
    (mGTPInterface mUDPInterface : String) :
    Keeps J (setup env udp gtp mGTPInterface mUDPInterface) := by
  unfold setup
  refine (keeps_onLifeCycle _).bind fun spSkeleton => ?_
  by_cases hn : spSkeleton = none
  · rw [if_pos hn]
    exact keeps_throw _
  rw [if_neg hn]
  refine (keeps_onLifeCycle _).bind fun _ => (keeps_onLifeCycle _).bind fun _ => ?_
  by_cases hd : mUDPInterface = "" ∨ mGTPInterface = ""
  · rw [if_pos hd]
    exact keeps_throw _
  rw [if_neg hd]
  exact (keeps_link hJ udp _ _).bind fun _ => keeps_link hJ gtp _ _

/-- A `link` that returns has found an interface that carried nothing when the object came. -/
theorem Held.link_free {xdp : UInt32 → Option XdpProgram} {h : Host} (hh : Held sections xdp h)
    (env : LinkEnv) (sectionName interface : String) :
    Ends (fun h' => Held sections xdp h' ∧ xdp (env.if_nametoindex interface) = none)
      (fun _ _ => True) (Host.link sections env sectionName interface h) := by
  have hlink := hh.link env sectionName interface
  by_cases hi : env.if_nametoindex interface = 0
  · rw [link_of_no_interface h hi]
    trivial
  by_cases hs : sectionName ∈ sections
  · rw [link_eq h hi hs] at hlink ⊢
    cases ha : attachXdp env.linkFails (env.if_nametoindex interface)
        ⟨h.mpLifeCycle.noted .forEachProgram, h.xdp⟩ with
    | none =>
      -- The tear-down is followed by an exception, if it does not throw one itself.
      have htear : Keeps (fun _ => True) (Host.tearDown sections env.unlinkFails) :=
        keeps_tearDown ⟨fun _ _ _ => trivial, fun _ _ _ => trivial⟩ env.unlinkFails
      exact (htear _ trivial).bind fun _ _ _ => trivial
    | some h' =>
      rw [ha] at hlink
      obtain ⟨hnone, -⟩ := attachXdp_eq_some ha
      refine ⟨hlink, ?_⟩
      by_cases hmem : env.if_nametoindex interface ∈ h.mpLifeCycle.links sections
      · exact hh.free _ hmem
      · rw [← hh.others _ hmem]
        exact hnone
  · rw [link_of_no_section h hi hs]
    trivial

/-- A `setup` that returns has found two of them. -/
theorem Untouched.setup_free {xdp : UInt32 → Option XdpProgram} {h : Host} (hu : Untouched xdp h)
    (env : Env) (udp gtp : LinkEnv) (mGTPInterface mUDPInterface : String) :
    Ends (fun _ => xdp (udp.if_nametoindex mUDPInterface) = none ∧
        xdp (gtp.if_nametoindex mGTPInterface) = none)
      (fun _ _ => True) (Host.setup env udp gtp mGTPInterface mUDPInterface h) := by
  have hcycle : ∀ {α : Type} {x : EStateM LifeCycleErr ProgramLifeCycle α} {h : Host},
      LeavesLinks x → Untouched xdp h →
        Ends (Untouched xdp) (fun _ _ => True) (Host.onLifeCycle x h) := by
    intro α x h hx hu
    have hends : Ends (Untouched xdp) (Failed entrySections xdp) (Host.onLifeCycle x h) :=
      hu.onLifeCycle hx
    exact hends.mono (fun _ h => h) fun _ _ _ => trivial
  unfold Host.setup
  refine (hcycle (leavesLinks_open _ _) hu).bind fun spSkeleton h1 hu1 => ?_
  by_cases hn : spSkeleton = none
  · rw [if_pos hn]
    trivial
  rw [if_neg hn]
  refine (hcycle (leavesLinks_load _) hu1).bind fun _ h2 hu2 => ?_
  refine (hcycle (leavesLinks_attach _) hu2).bind fun _ h3 hu3 => ?_
  by_cases hd : mUDPInterface = "" ∨ mGTPInterface = ""
  · rw [if_pos hd]
    trivial
  rw [if_neg hd]
  refine (hu3.held.link_free udp _ _).bind fun _ h4 hh4 => ?_
  exact (hh4.1.link_free gtp _ _).mono (fun _ hh => ⟨hh4.2, hh.2⟩) fun _ _ _ => trivial

end Host

/-! ## The interfaces of a process -/

/-- What an object that found `xdp` has made of it: it holds its links, and every program of
somebody else was there before. -/
structure Host.Owns (xdp : UInt32 → Option XdpProgram) (h : Host) : Prop where
  /-- The links. -/
  held : Host.Held entrySections xdp h
  /-- The programs of somebody else. -/
  foreign : ∀ i id, h.xdp i = some (.foreign id) → xdp i = some (.foreign id)

/-- The programs of somebody else are never written. -/
theorem Host.ownWrites_foreign (xdp : UInt32 → Option XdpProgram) :
    Host.OwnWrites fun xdp' =>
      ∀ i id, xdp' i = some (.foreign id) → xdp i = some (.foreign id) := by
  have hupdate : ∀ (xdp' : UInt32 → Option XdpProgram) (j : UInt32) (o : Option XdpProgram),
      (∀ id, o ≠ some (.foreign id)) →
      (∀ i id, xdp' i = some (.foreign id) → xdp i = some (.foreign id)) →
      ∀ i id, Function.update xdp' j o i = some (.foreign id) → xdp i = some (.foreign id) := by
    intro xdp' j o ho h i id hi
    rw [Function.update_apply] at hi
    split_ifs at hi
    · exact absurd hi (ho id)
    · exact h i id hi
  exact ⟨fun xdp' j => hupdate xdp' j none (by simp), fun xdp' j => hupdate xdp' j _ (by simp)⟩

/-- A program of somebody else stays. -/
theorem Host.Owns.xdp_eq {xdp : UInt32 → Option XdpProgram} {h h' : Host} (ho : h.Owns xdp)
    (ho' : h'.Owns xdp) {i : UInt32} {id : ℕ} (hi : h.xdp i = some (.foreign id)) :
    h'.xdp i = some (.foreign id) := by
  have hxdp : xdp i = some (.foreign id) := ho.foreign i id hi
  rw [ho'.held.foreign (by rw [hxdp]; simp), hxdp]

theorem Host.Owns.tearDown {xdp : UInt32 → Option XdpProgram} {h : Host} (ho : h.Owns xdp)
    (unlinkFails : UInt32 → Bool) :
    (final (Host.tearDown entrySections unlinkFails h)).Owns xdp := by
  refine ⟨?_, (Host.keeps_tearDown (Host.ownWrites_foreign xdp) unlinkFails h ho.foreign).final
    fun _ _ hE => hE⟩
  exact ((ho.held.tearDown unlinkFails).mono (fun _ hQ => hQ.1) fun _ _ hE => hE).final
    fun _ _ hE => hE.1

/-- A new object owns what it makes of the interfaces. -/
theorem Host.owns_setup (xdp : UInt32 → Option XdpProgram) (a : SetupCall) :
    (final (Host.setup a.env a.udp a.gtp a.gtpInterface a.udpInterface
      ⟨{ mState := a.init }, xdp⟩)).Owns xdp := by
  refine ⟨?_, (Host.keeps_setup (Host.ownWrites_foreign xdp) a.env a.udp a.gtp a.gtpInterface
    a.udpInterface _ fun _ _ h => h).final fun _ _ hE => hE⟩
  have hu : Host.Untouched xdp ⟨{ mState := a.init }, xdp⟩ := ⟨rfl, rfl⟩
  exact (hu.setup a.env a.udp a.gtp a.gtpInterface a.udpInterface).final fun _ _ hE => hE.1

namespace UserPlane

variable {u u' : UserPlane} {i : UInt32}

/-- What a `setup` leaves: what the object has made of the interfaces, the registry and the programs
as they were, and the session manager too, unless it returns. -/
theorem setup_eq (u : UserPlane) (a : SetupCall) :
    final (u.setup a) = { (u.replaceProgram a).withHost
        (final (Host.setup a.env a.udp a.gtp a.gtpInterface a.udpInterface
          ((u.replaceProgram a).host { mState := a.init }))) with
      mpSessionManager := u.returns (.setup a) || u.mpSessionManager
      state := { u.state.withMaps {} with
        mSeidToSession := if u.returns (.setup a) then ∅ else u.state.mSeidToSession } } := by
  cases hr : Host.setup a.env a.udp a.gtp a.gtpInterface a.udpInterface
      ((u.replaceProgram a).host { mState := a.init }) with
  | ok x h =>
    have hs : u.setup a = .ok () { (u.replaceProgram a).withHost h with
        mpSessionManager := true
        state := { (u.replaceProgram a).state with mSeidToSession := ∅ } } := by
      unfold setup
      dsimp only
      rw [hr]
    have hret : u.returns (.setup a) = true := by
      rw [returns, hs]
      rfl
    rw [hs, hret]
    rfl
  | error e h =>
    have hs : u.setup a = .error e ((u.replaceProgram a).withHost h) := by
      unfold setup
      dsimp only
      rw [hr]
    have hret : u.returns (.setup a) = false := by
      rw [returns, hs]
      rfl
    rw [hs, hret]
    rfl

/-- What a tear-down leaves. -/
theorem tearDown_eq (u : UserPlane) (mpLifeCycle : ProgramLifeCycle)
    (unlinkFails : UInt32 → Bool) :
    final (u.tearDown mpLifeCycle unlinkFails) =
      u.withHost (final (Host.tearDown entrySections unlinkFails (u.host mpLifeCycle))) := by
  unfold tearDown
  cases Host.tearDown entrySections unlinkFails (u.host mpLifeCycle) <;> rfl

/-- A call of the session manager that is defined has one to be called on. -/
theorem step_session_eq_some_iff {c : Call} :
    u.step (.session c) = some u' ↔
      (u.mpSessionManager = true ∧ (u.hasMaps = true ∨ ¬ c.reachesMaps u.interfaces u.state)) ∧
        u' = { u with state := UpfBpf.step u.interfaces u.state c } := by
  rw [step, Option.ite_none_right_eq_some, Option.some_inj, eq_comm (a := u')]

/-- A call of the session manager returns when it does not throw. -/
theorem returns_session_iff {c : Call} :
    u.returns (.session c) = true ↔ c.Returns u.interfaces u.state := by
  rw [returns, Call.Returns]
  cases c.result u.interfaces u.state with
  | ok a s => exact iff_of_true rfl trivial
  | error e s => exact iff_of_false Bool.false_ne_true id

/-- What a call does to the maps and the programs: a `setup` begins with new maps, and a tear-down
changes nothing. -/
theorem step_cases {c : UserPlaneCall} (h : u.step c = some u') :
    (∃ a sessions, c = .setup a ∧ u'.earlier = u.generations ∧
        u'.state = { u.state.withMaps {} with mSeidToSession := sessions }) ∨
      (∃ unlinkFails, c = .tearDown unlinkFails ∧ u'.earlier = u.earlier ∧ u'.state = u.state) ∨
      ∃ c', c = .session c' ∧ u' = { u with state := UpfBpf.step u.interfaces u.state c' } := by
  cases c with
  | setup a =>
    cases h
    refine .inl ⟨a, if u.returns (.setup a) then ∅ else u.state.mSeidToSession, rfl, ?_⟩
    rw [setup_eq]
    exact ⟨rfl, rfl⟩
  | tearDown unlinkFails =>
    obtain ⟨mpLifeCycle, -, hr⟩ := Option.bind_eq_some_iff.1 h
    cases hr
    refine .inr (.inl ⟨unlinkFails, rfl, ?_⟩)
    rw [tearDown_eq]
    exact ⟨rfl, rfl⟩
  | session c' => exact .inr (.inr ⟨c', rfl, (step_session_eq_some_iff.1 h).2⟩)

/-- The process sees what its object has left. -/
theorem view_withHost {h : Host}
    (hf : ∀ i id, h.xdp i = some (.foreign id) → u.view i = some (.foreign id)) :
    (u.withHost h).view = h.xdp := by
  funext i
  show ((u.withHost h).carries i).map (Carrier.seen u.earlier.length) = h.xdp i
  unfold withHost
  dsimp only
  cases hi : h.xdp i with
  | none => rfl
  | some program =>
    cases program with
    | entry => simp [Carrier.seen]
    | foreign id => exact hf i id hi

/-- What the process knows of its interfaces: they carry programs that were loaded, and the object
of the last `setup` owns its own. -/
structure Attached (u : UserPlane) : Prop where
  /-- The entry programs are those of calls of `setup`. -/
  bounded : ∀ i n, u.carries i = some (.entry n) → n < u.generations.length
  /-- The object. -/
  owns : ∀ mpLifeCycle, u.mpUPFProgram = some mpLifeCycle →
    ∃ xdp, (u.host mpLifeCycle).Owns xdp

/-- The interface carries a program that is not that of the object. -/
def Settled (u : UserPlane) (i : UInt32) : Prop := ∃ id, u.view i = some (.foreign id)

theorem attached_init (foreign : UInt32 → Option ℕ) : (init foreign).Attached where
  bounded i n h := by
    obtain ⟨id, -, hid⟩ := Option.map_eq_some_iff.1 h
    cases hid
  owns _ h := by cases h

/-- To a new object, every program is one of somebody else. -/
theorem Attached.settled_replaceProgram (hu : u.Attached) (a : SetupCall)
    (hi : u.carries i ≠ none) : (u.replaceProgram a).Settled i := by
  obtain ⟨carrier, hc⟩ := Option.ne_none_iff_exists'.1 hi
  have hview : (u.replaceProgram a).view i =
      some (Carrier.seen u.generations.length carrier) := by
    show (u.carries i).map _ = _
    rw [hc]
    rfl
  rw [Settled, hview]
  cases carrier with
  | foreign id => exact ⟨id, rfl⟩
  | entry n =>
    have hn : n ≠ u.generations.length := (hu.bounded i n hc).ne
    exact ⟨n, by rw [Carrier.seen, if_neg hn]⟩

/-- What an object sees is a matter of the interfaces and of the objects before it. -/
theorem view_congr (hcarries : u'.carries = u.carries) (hearlier : u'.earlier = u.earlier) :
    u'.view = u.view := by
  unfold view
  rw [hcarries, hearlier]

theorem Settled.congr (hi : u.Settled i) (hcarries : u'.carries = u.carries)
    (hearlier : u'.earlier = u.earlier) : u'.Settled i := by
  rw [Settled, view_congr hcarries hearlier]
  exact hi

/-- What the process knows of its interfaces is a matter of these and of its objects. -/
theorem Attached.congr (hu : u.Attached) (hcarries : u'.carries = u.carries)
    (hearlier : u'.earlier = u.earlier) (hprogram : u'.mpUPFProgram = u.mpUPFProgram) :
    u'.Attached := by
  have hlen : u'.generations.length = u.generations.length := by
    rw [generations, generations, hearlier, hprogram]
    cases u.mpUPFProgram <;> simp
  refine ⟨fun i n hi => ?_, fun lc hlc => ?_⟩
  · rw [hlen]
    exact hu.bounded i n (by rw [← hcarries, hi])
  · rw [host, view_congr hcarries hearlier]
    exact hu.owns lc (by rw [← hprogram, hlc])

/-- What an object owns after it has written to the interfaces, and what it has left alone. -/
theorem attached_withHost {h : Host} {xdp : UInt32 → Option XdpProgram}
    {mpLifeCycle : ProgramLifeCycle}
    (hb : ∀ i n, u.carries i = some (.entry n) → n ≤ u.earlier.length)
    (ho : (u.host mpLifeCycle).Owns xdp) (ho' : h.Owns xdp) :
    (u.withHost h).Attached ∧ ∀ i, u.Settled i →
      (u.withHost h).carries i = u.carries i ∧ (u.withHost h).Settled i := by
  -- A program of somebody else was there, and it was one of somebody else.
  have hf : ∀ i id, h.xdp i = some (.foreign id) → u.view i = some (.foreign id) :=
    fun i id hi => ho'.xdp_eq ho hi
  have hview : (u.withHost h).view = h.xdp := view_withHost hf
  refine ⟨⟨fun i n hi => ?_, fun lc hlc => ?_⟩, fun i hi => ?_⟩
  · have hlen : (u.withHost h).generations.length = u.earlier.length + 1 := by
      simp [generations, withHost]
    rw [hlen]
    unfold withHost at hi
    dsimp only at hi
    cases hx : h.xdp i with
    | none =>
      rw [hx] at hi
      cases hi
    | some program =>
      rw [hx] at hi
      cases program with
      | entry =>
        cases hi
        omega
      | foreign id => exact Nat.lt_succ_of_le (hb i n hi)
  · obtain rfl : h.mpLifeCycle = lc := Option.some.inj hlc
    refine ⟨xdp, ?_⟩
    have hhost : (u.withHost h).host h.mpLifeCycle = h := by
      rw [host, hview]
    rw [hhost]
    exact ho'
  · obtain ⟨id, hid⟩ := hi
    have hx : h.xdp i = some (.foreign id) := ho.xdp_eq ho' hid
    refine ⟨?_, id, by rw [hview, hx]⟩
    unfold withHost
    dsimp only
    rw [hx]

/-- A `setup` leaves every program that an interface carries, its own before it included. -/
theorem Attached.setup (hu : u.Attached) (a : SetupCall) :
    (final (u.setup a)).Attached ∧ ∀ i, u.carries i ≠ none →
      (final (u.setup a)).carries i = u.carries i ∧ (final (u.setup a)).Settled i := by
  have hself : ((u.replaceProgram a).host { mState := a.init }).Owns
    (u.replaceProgram a).view := ⟨Host.Untouched.held ⟨rfl, rfl⟩, fun _ _ h => h⟩
  have hb : ∀ i n, (u.replaceProgram a).carries i = some (.entry n) →
    n ≤ (u.replaceProgram a).earlier.length := fun i n h => (hu.bounded i n h).le
  obtain ⟨h, ho, hcarries, hearlier, hprogram⟩ : ∃ h : Host, h.Owns (u.replaceProgram a).view ∧
      (final (u.setup a)).carries = ((u.replaceProgram a).withHost h).carries ∧
      (final (u.setup a)).earlier = (u.replaceProgram a).earlier ∧
      (final (u.setup a)).mpUPFProgram = some h.mpLifeCycle := by
    rw [u.setup_eq a]
    exact ⟨_, Host.owns_setup _ a, rfl, rfl, rfl⟩
  obtain ⟨hatt, hset⟩ := attached_withHost hb hself ho
  refine ⟨hatt.congr hcarries hearlier hprogram, fun i hi => ?_⟩
  obtain ⟨hkept, hsettled⟩ := hset i (hu.settled_replaceProgram a hi)
  exact ⟨(congrFun hcarries i).trans hkept, hsettled.congr hcarries hearlier⟩

/-- A tear-down leaves the programs that are not the object's. -/
theorem Attached.tearDown (hu : u.Attached) {mpLifeCycle : ProgramLifeCycle}
    (hlc : u.mpUPFProgram = some mpLifeCycle) (unlinkFails : UInt32 → Bool) :
    (final (u.tearDown mpLifeCycle unlinkFails)).Attached ∧ ∀ i, u.Settled i →
      (final (u.tearDown mpLifeCycle unlinkFails)).carries i = u.carries i ∧
        (final (u.tearDown mpLifeCycle unlinkFails)).Settled i := by
  rw [u.tearDown_eq mpLifeCycle unlinkFails]
  obtain ⟨xdp, ho⟩ := hu.owns mpLifeCycle hlc
  have hlen : u.generations.length = u.earlier.length + 1 := by
    simp [generations, hlc]
  have hb : ∀ i n, u.carries i = some (.entry n) → n ≤ u.earlier.length := by
    intro i n h
    have := hu.bounded i n h
    omega
  exact attached_withHost hb ho (ho.tearDown unlinkFails)

/-- Every call leaves the programs that are not the object's. -/
theorem Attached.step (hu : u.Attached) {c : UserPlaneCall} (h : u.step c = some u') :
    u'.Attached ∧ ∀ i, u.Settled i → u'.carries i = u.carries i ∧ u'.Settled i := by
  cases c with
  | setup a =>
    cases h
    obtain ⟨hatt, hset⟩ := hu.setup a
    refine ⟨hatt, fun i hi => hset i ?_⟩
    rintro hnone
    obtain ⟨id, hid⟩ := hi
    rw [view, hnone] at hid
    cases hid
  | tearDown unlinkFails =>
    obtain ⟨mpLifeCycle, hlc, hr⟩ := Option.bind_eq_some_iff.1 h
    cases hr
    exact hu.tearDown hlc unlinkFails
  | session c =>
    obtain ⟨-, rfl⟩ := step_session_eq_some_iff.1 h
    exact ⟨hu.congr rfl rfl rfl, fun i hi => ⟨rfl, hi.congr rfl rfl⟩⟩

theorem Attached.steps (hu : u.Attached) {calls : List UserPlaneCall}
    (h : u.steps calls = some u') : u'.Attached :=
  Run.invariant_foldlM hu (fun _ _ _ hu hc => (hu.step hc).1) h

/-- What is settled is settled for good. -/
theorem Attached.carries_steps (hu : u.Attached) {calls : List UserPlaneCall}
    (h : u.steps calls = some u') (hi : u.Settled i) : u'.carries i = u.carries i := by
  have hinv : u'.Attached ∧ u'.Settled i ∧ u'.carries i = u.carries i :=
    Run.invariant_foldlM (I := fun v : UserPlane =>
      v.Attached ∧ v.Settled i ∧ v.carries i = u.carries i) ⟨hu, hi, rfl⟩
      (fun v c v' hv hc => by
        obtain ⟨hatt, hset⟩ := hv.1.step hc
        obtain ⟨hcarries, hsettled⟩ := hset i hv.2.1
        exact ⟨hatt, hsettled, hcarries.trans hv.2.2⟩) h
  exact hinv.2.2

/-- A `setup` that is to link an interface that carries a program throws. -/
theorem setup_throws {a : SetupCall} (ha : a.Names i) (hi : u.carries i ≠ none) :
    ∃ e u', u.setup a = .error e u' := by
  have hu : Host.Untouched (u.replaceProgram a).view
    ((u.replaceProgram a).host { mState := a.init }) := ⟨rfl, rfl⟩
  have hfree := hu.setup_free a.env a.udp a.gtp a.gtpInterface a.udpInterface
  have hview : (u.replaceProgram a).view i ≠ none := by
    show (u.carries i).map _ ≠ none
    rwa [ne_eq, Option.map_eq_none_iff]
  unfold setup
  dsimp only
  cases hr : Host.setup a.env a.udp a.gtp a.gtpInterface a.udpInterface
      ((u.replaceProgram a).host { mState := a.init }) with
  | error e h => exact ⟨e, _, rfl⟩
  | ok x h =>
    rw [hr] at hfree
    rcases ha with rfl | rfl
    · exact absurd hfree.1 hview
    · exact absurd hfree.2 hview

end UserPlane

end UpfBpf
