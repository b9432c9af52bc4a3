import UpfBpf.Control.Component

/-!
# The entry program on its interfaces

`UPFProgram::setup` (`src/programs/UPFProgram.cpp`) links the entry program to two interfaces, and
`tearDown` unlinks it. The kernel holds one XDP program for an interface, whoever attached it, and
the object holds the interfaces that it has linked, in `mSectionLinkInterfacesMap`. `Host` has both
sides; `mpLifeCycle_link` and `mpLifeCycle_tearDown` say that the object's side is the life cycle of
`Control.LifeCycle`, whose failures are now decided by what the interfaces carry.

`link` attaches with `XDP_FLAGS_UPDATE_IF_NOEXIST`, so that an interface is only recorded when it
carried nothing. This is the invariant (`Held`): what is recorded was free, everything else is as
it was, and without a record of being linked nothing is attached.
-/

namespace UpfBpf

open Effect

/-- What an interface carries. -/
inductive XdpProgram
  /-- The entry program. -/
  | entry
  /-- A program of somebody else. -/
  | foreign (id : ℕ)
  deriving DecidableEq, Repr

/-- What `UPFProgram::setup` and `tearDown` throw. -/
inductive SetupErr
  /-- An exception of the life cycle. -/
  | lifeCycle (e : LifeCycleErr)
  /-- An interface without a name. -/
  | notDefined
  /-- No exception: `initializeMaps` reads through a null pointer. The process is torn down and
  exits, as for `Err.segfault`. -/
  | segfault
  deriving DecidableEq, Repr

/-- The text of the exception. -/
def SetupErr.what : SetupErr → Option String
  | .lifeCycle e => some e.what
  | .notDefined => some "GTP or UDP interface not defined!"
  | .segfault => none

/-- What the outside answers during a `link`. -/
structure LinkEnv where
  /-- `if_nametoindex`, zero for no interface. -/
  if_nametoindex : String → UInt32
  /-- Attaching fails, whatever the interface carries. -/
  linkFails : Bool := false
  /-- The interfaces that cannot be unlinked if the call tears down. -/
  unlinkFails : UInt32 → Bool := fun _ => false

/-- The object, and what the interfaces carry. -/
structure Host where
  /-- The life cycle of the entry program. -/
  mpLifeCycle : ProgramLifeCycle
  /-- The XDP program of each interface. -/
  xdp : UInt32 → Option XdpProgram

namespace Host

/-- A method of the life cycle. -/
def onLifeCycle {α : Type} (x : EStateM LifeCycleErr ProgramLifeCycle α) :
    EStateM SetupErr Host α := fun h =>
  match x h.mpLifeCycle with
  | .ok a s => .ok a { h with mpLifeCycle := s }
  | .error e s => .error (.lifeCycle e) { h with mpLifeCycle := s }

/-- `bpf_set_link_xdp_fd(ifIndex, fd, mFlags)`: with `XDP_FLAGS_UPDATE_IF_NOEXIST`, an interface
that carries a program is refused. -/
def attachXdp (fails : Bool) (ifIndex : UInt32) (h : Host) : Option Host :=
  if fails || (h.xdp ifIndex).isSome then none
  else some { h with xdp := Function.update h.xdp ifIndex (some .entry) }

/-- `bpf_set_link_xdp_fd(linkEntry, -1, mFlags)`: whatever the interface carries is taken off. -/
def detachXdp (linkEntry : UInt32) (h : Host) : Host :=
  { h with xdp := Function.update h.xdp linkEntry none }

/-- The loop over the links of `tearDown`. -/
def unlinkAll (unlinkFails : UInt32 → Bool) : List UInt32 → EStateM SetupErr Host Unit
  | [] => pure ()
  | linkEntry :: rest => do
    if unlinkFails linkEntry then throw (.lifeCycle .unlink)
    modify (detachXdp linkEntry)
    unlinkAll unlinkFails rest

/-- `UPFProgram::tearDown`, which is `ProgramLifeCycle::tearDown`. -/
def tearDown (sections : List String) (unlinkFails : UInt32 → Bool) :
    EStateM SetupErr Host Unit := do
  if (← get).mpLifeCycle.mState ≠ .IDLE then
    if (← get).mpLifeCycle.mState = .LINKED then
      onLifeCycle (ProgramLifeCycle.apply .forEachProgram)
      unlinkAll unlinkFails ((← get).mpLifeCycle.links sections)
    onLifeCycle ProgramLifeCycle.destroy

/-- `ProgramLifeCycle::link`. -/
def link (sections : List String) (env : LinkEnv) (sectionName interface : String) :
    EStateM SetupErr Host Unit := do
  let ifIndex := env.if_nametoindex interface
  if ifIndex = 0 then throw (.lifeCycle .noInterface)
  onLifeCycle (ProgramLifeCycle.apply .forEachProgram)
  if sectionName ∉ sections then throw (.lifeCycle .noSection)
  match attachXdp env.linkFails ifIndex (← get) with
  | none =>
    tearDown sections env.unlinkFails
    throw (.lifeCycle .linkSet)
  | some h =>
    set h
    onLifeCycle (modify (ProgramLifeCycle.addLink sectionName ifIndex))
    onLifeCycle (ProgramLifeCycle.setState .LINKED)

/-- `UPFProgram::setup`. `env` is what the skeleton answers, `udp` and `gtp` what the outside
answers to the two calls of `link`. -/
def setup (env : Env) (udp gtp : LinkEnv) (mGTPInterface mUDPInterface : String) :
    EStateM SetupErr Host Unit := do
  let spSkeleton ← onLifeCycle (ProgramLifeCycle.open' env.setrlimitFails env.openFails)
  -- `initializeMaps` reads through the pointer.
  if spSkeleton = none then throw .segfault
  onLifeCycle (ProgramLifeCycle.load env.loadErr)
  onLifeCycle (ProgramLifeCycle.attach env.attachErr)
  if mUDPInterface = "" ∨ mGTPInterface = "" then throw .notDefined
  link entrySections udp "xdp_entry_point" mUDPInterface
  link entrySections gtp "xdp_entry_point" mGTPInterface

/-! ## What the methods leave -/

section Methods

variable {sections : List String} {unlinkFails : UInt32 → Bool} {links : List UInt32} (h : Host)

/-- A method of the life cycle leaves the interfaces. -/
theorem ends_onLifeCycle {α : Type} {x : EStateM LifeCycleErr ProgramLifeCycle α} {h : Host}
    {Q : Host → Prop} {E : SetupErr → Host → Prop}
    (hx : Ends (fun s => Q { h with mpLifeCycle := s })
      (fun e s => E (.lifeCycle e) { h with mpLifeCycle := s }) (x h.mpLifeCycle)) :
    Ends Q E (onLifeCycle x h) := by
  unfold onLifeCycle
  cases hr : x h.mpLifeCycle with
  | ok a s =>
    rw [hr] at hx
    exact hx
  | error e s =>
    rw [hr] at hx
    exact hx

theorem onLifeCycle_forEachProgram :
    onLifeCycle (ProgramLifeCycle.apply .forEachProgram) h =
      .ok () ⟨h.mpLifeCycle.noted .forEachProgram, h.xdp⟩ := rfl

/-- What the interfaces carry when some of them are unlinked. -/
def cleared (links : List UInt32) (xdp : UInt32 → Option XdpProgram) :
    UInt32 → Option XdpProgram :=
  fun i => if i ∈ links then none else xdp i

/-- One link is taken off, and the loop goes on with the rest. -/
theorem unlinkAll_cons {linkEntry : UInt32} (hl : ¬ unlinkFails linkEntry) :
    unlinkAll unlinkFails (linkEntry :: links) h =
      unlinkAll unlinkFails links (h.detachXdp linkEntry) := by
  have hmod : (modify (detachXdp linkEntry) : EStateM SetupErr Host Unit) h =
    .ok () (h.detachXdp linkEntry) := rfl
  rw [unlinkAll, if_neg hl]
  show (modify (detachXdp linkEntry) >>= fun _ => unlinkAll unlinkFails links) h = _
  rw [bind_of_ok hmod]

theorem unlinkAll_of_not_any (hu : ¬ links.any unlinkFails) :
    unlinkAll unlinkFails links h = .ok () { h with xdp := cleared links h.xdp } := by
  induction links generalizing h with
  | nil => rfl
  | cons linkEntry rest ih =>
    rw [List.any_cons, Bool.or_eq_true, not_or] at hu
    rw [unlinkAll_cons h hu.1, ih (h.detachXdp linkEntry) hu.2]
    -- The first link is taken off, then the rest.
    congr 2
    funext i
    unfold cleared detachXdp
    by_cases hi : i = linkEntry
    · simp [hi]
    · simp [hi]

/-- The first link that cannot be taken off ends the loop. -/
theorem unlinkAll_of_any (hu : links.any unlinkFails) :
    ∃ xdp, (∀ i, i ∉ links → xdp i = h.xdp i) ∧
      unlinkAll unlinkFails links h = .error (.lifeCycle .unlink) { h with xdp := xdp } := by
  induction links generalizing h with
  | nil => cases hu
  | cons linkEntry rest ih =>
    by_cases hl : unlinkFails linkEntry
    · refine ⟨h.xdp, fun i _ => rfl, ?_⟩
      rw [unlinkAll, if_pos hl]
      rfl
    · rw [List.any_cons, Bool.or_eq_true, or_iff_right hl] at hu
      obtain ⟨xdp, hxdp, hr⟩ := ih (h.detachXdp linkEntry) hu
      refine ⟨xdp, fun i hi => ?_, ?_⟩
      · rw [List.mem_cons, not_or] at hi
        rw [hxdp i hi.2]
        exact Function.update_of_ne hi.1 _ _
      · rw [unlinkAll_cons h hl, hr]
        rfl

/-- How `tearDown` ends: a link could not be taken off, or the object is torn down and all of its
links are. -/
theorem tearDown_cases (sections : List String) (unlinkFails : UInt32 → Bool) :
    (∃ xdp, (h.mpLifeCycle.mState = .LINKED ∧ (h.mpLifeCycle.links sections).any unlinkFails) ∧
        (∀ i, i ∉ h.mpLifeCycle.links sections → xdp i = h.xdp i) ∧
        tearDown sections unlinkFails h =
          .error (.lifeCycle .unlink) ⟨h.mpLifeCycle.tornDown sections unlinkFails, xdp⟩) ∨
      ¬ (h.mpLifeCycle.mState = .LINKED ∧ (h.mpLifeCycle.links sections).any unlinkFails) ∧
        tearDown sections unlinkFails h =
          .ok () ⟨h.mpLifeCycle.tornDown sections unlinkFails,
            if h.mpLifeCycle.mState = .LINKED then cleared (h.mpLifeCycle.links sections) h.xdp
            else h.xdp⟩ := by
  have hdestroy : ∀ g : Host, onLifeCycle ProgramLifeCycle.destroy g =
      .ok () ⟨g.mpLifeCycle.destroyed, g.xdp⟩ := by
    intro g
    rw [onLifeCycle, ProgramLifeCycle.destroy_eq]
  unfold tearDown ProgramLifeCycle.tornDown
  rw [bind_get]
  by_cases hi : h.mpLifeCycle.mState = .IDLE
  · have hl : h.mpLifeCycle.mState ≠ .LINKED := by rw [hi]; decide
    refine .inr ⟨fun hc => hl hc.1, ?_⟩
    rw [if_neg (not_not.2 hi), if_neg hl, if_neg hl, ProgramLifeCycle.destroyed, if_pos hi]
    rfl
  rw [if_pos hi, bind_get]
  by_cases hl : h.mpLifeCycle.mState = .LINKED
  · have hlinks : (h.mpLifeCycle.noted .forEachProgram).links sections =
      h.mpLifeCycle.links sections := rfl
    rw [if_pos hl, if_pos hl, if_pos hl, bind_of_ok h.onLifeCycle_forEachProgram, bind_get, hlinks]
    by_cases hu : (h.mpLifeCycle.links sections).any unlinkFails
    · obtain ⟨xdp, hxdp, hr⟩ :=
        unlinkAll_of_any ⟨h.mpLifeCycle.noted .forEachProgram, h.xdp⟩ hu
      refine .inl ⟨xdp, ⟨hl, hu⟩, hxdp, ?_⟩
      rw [bind_of_error hr, if_pos hu]
    · refine .inr ⟨fun hc => hu hc.2, ?_⟩
      rw [bind_of_ok (unlinkAll_of_not_any _ hu), if_neg hu]
      exact hdestroy _
  · refine .inr ⟨fun hc => hl hc.1, ?_⟩
    rw [if_neg hl, if_neg hl, if_neg hl]
    exact hdestroy h

/-- The object's side of `tearDown`. -/
theorem mpLifeCycle_tearDown (sections : List String) (unlinkFails : UInt32 → Bool) :
    (final (tearDown sections unlinkFails h)).mpLifeCycle =
      h.mpLifeCycle.step sections (.tearDown unlinkFails) := by
  rw [ProgramLifeCycle.step_tearDown]
  rcases h.tearDown_cases sections unlinkFails with ⟨xdp, -, -, hr⟩ | ⟨-, hr⟩
  · rw [hr, final_error]
  · rw [hr, final_ok]

theorem link_of_no_interface {env : LinkEnv} {sectionName interface : String}
    (hi : env.if_nametoindex interface = 0) :
    link sections env sectionName interface h = .error (.lifeCycle .noInterface) h := by
  unfold link
  dsimp only
  rw [if_pos hi]
  rfl

theorem link_of_no_section {env : LinkEnv} {sectionName interface : String}
    (hi : env.if_nametoindex interface ≠ 0) (hs : sectionName ∉ sections) :
    link sections env sectionName interface h =
      .error (.lifeCycle .noSection) ⟨h.mpLifeCycle.noted .forEachProgram, h.xdp⟩ := by
  unfold link
  dsimp only
  rw [if_neg hi]
  show (onLifeCycle (ProgramLifeCycle.apply .forEachProgram) >>= _) h = _
  rw [bind_of_ok h.onLifeCycle_forEachProgram, if_pos hs]
  rfl

/-- How `link` ends, once there is an interface and the section: `tearDown` and an exception when
the interface cannot be attached, and a record of the link when it can. -/
theorem link_eq {env : LinkEnv} {sectionName interface : String}
    (hi : env.if_nametoindex interface ≠ 0) (hs : sectionName ∈ sections) :
    link sections env sectionName interface h =
      match attachXdp env.linkFails (env.if_nametoindex interface)
          ⟨h.mpLifeCycle.noted .forEachProgram, h.xdp⟩ with
      | none => (tearDown sections env.unlinkFails >>= fun _ => throw (.lifeCycle .linkSet))
          ⟨h.mpLifeCycle.noted .forEachProgram, h.xdp⟩
      | some h' => .ok () ⟨{ h'.mpLifeCycle.addLink sectionName (env.if_nametoindex interface) with
          mState := .LINKED }, h'.xdp⟩ := by
  unfold link
  dsimp only
  rw [if_neg hi]
  show (onLifeCycle (ProgramLifeCycle.apply .forEachProgram) >>= _) h = _
  rw [bind_of_ok h.onLifeCycle_forEachProgram, if_neg (not_not.2 hs)]
  show (get >>= fun g => match attachXdp env.linkFails (env.if_nametoindex interface) g with
    | none => _
    | some h' => _ : EStateM SetupErr Host Unit) _ = _
  rw [bind_get]
  cases attachXdp env.linkFails (env.if_nametoindex interface)
      ⟨h.mpLifeCycle.noted .forEachProgram, h.xdp⟩ with
  | none => rfl
  | some h' => rfl

/-- The object's side of `link`: the outcome of attaching is what the interface decides. -/
theorem mpLifeCycle_link (env : LinkEnv) (sectionName interface : String) :
    (final (link sections env sectionName interface h)).mpLifeCycle =
      h.mpLifeCycle.step sections (.link sectionName (env.if_nametoindex interface)
        (env.linkFails || (h.xdp (env.if_nametoindex interface)).isSome) env.unlinkFails) := by
  rw [ProgramLifeCycle.step_link]
  by_cases hi : env.if_nametoindex interface = 0
  · rw [if_pos hi, link_of_no_interface h hi]
    rfl
  rw [if_neg hi]
  by_cases hs : sectionName ∈ sections
  · rw [if_pos hs, link_eq h hi hs, attachXdp]
    dsimp only
    split_ifs with hf
    · -- The exception of `tearDown`, if there is one, takes the place of that of `link`.
      rw [← ProgramLifeCycle.step_tearDown, ← mpLifeCycle_tearDown ⟨_, h.xdp⟩]
      cases hr : tearDown sections env.unlinkFails ⟨h.mpLifeCycle.noted .forEachProgram, h.xdp⟩ with
      | ok a s =>
        rw [bind_of_ok hr]
        rfl
      | error e s => rw [bind_of_error hr]
    · rfl
  · rw [if_neg hs, link_of_no_section h hi hs]
    rfl

end Methods

/-! ## What is recorded was free -/

/-- What holds of a host that started from `xdp`, while the object holds its links. -/
structure Held (sections : List String) (xdp : UInt32 → Option XdpProgram) (h : Host) : Prop where
  /-- A link is only recorded for an interface that carried nothing. -/
  free : ∀ i ∈ h.mpLifeCycle.links sections, xdp i = none
  /-- Every other interface is as it was. -/
  others : ∀ i, i ∉ h.mpLifeCycle.links sections → h.xdp i = xdp i
  /-- An object that is not linked has nothing attached. -/
  unlinked : h.mpLifeCycle.mState ≠ .LINKED → h.xdp = xdp

/-- What holds after an exception: the invariant, and an idle object if `link` has torn it down. -/
def Failed (sections : List String) (xdp : UInt32 → Option XdpProgram) (e : SetupErr) (h : Host) :
    Prop :=
  Held sections xdp h ∧ (e = .lifeCycle .linkSet → h.mpLifeCycle.mState = .IDLE)

/-- No link is recorded, and the interfaces are as they were. -/
structure Untouched (xdp : UInt32 → Option XdpProgram) (h : Host) : Prop where
  /-- No section has a link. -/
  links : h.mpLifeCycle.mSectionLinkInterfacesMap = ∅
  /-- The interfaces. -/
  xdp_eq : h.xdp = xdp

section Invariant

variable {sections : List String} {xdp : UInt32 → Option XdpProgram} {h : Host}

theorem Untouched.held (hu : Untouched xdp h) : Held sections xdp h := by
  have hlinks : h.mpLifeCycle.links sections = [] := by
    unfold ProgramLifeCycle.links
    rw [hu.links]
    exact List.flatMap_eq_nil_iff.2 fun _ _ => rfl
  refine ⟨fun i hi => ?_, fun i _ => by rw [hu.xdp_eq], fun _ => hu.xdp_eq⟩
  rw [hlinks] at hi
  cases hi

/-- An interface that somebody else has a program on is never written. -/
theorem Held.foreign (hh : Held sections xdp h) {i : UInt32} (hi : xdp i ≠ none) :
    h.xdp i = xdp i :=
  hh.others i fun hmem => hi (hh.free i hmem)

/-- Once all links are taken off, the interfaces are as they were. -/
theorem Held.cleared_eq (hh : Held sections xdp h) :
    cleared (h.mpLifeCycle.links sections) h.xdp = xdp := by
  funext i
  unfold cleared
  split_ifs with hi
  · exact (hh.free i hi).symm
  · exact hh.others i hi

/-- An object that is idle stays as it is. -/
theorem tearDown_of_idle (hi : h.mpLifeCycle.mState = .IDLE) (unlinkFails : UInt32 → Bool) :
    tearDown sections unlinkFails h = .ok () h := by
  unfold tearDown
  rw [bind_get, if_neg (not_not.2 hi)]
  rfl

/-- What `tearDown` establishes: an idle object when it returns, and the invariant either way. -/
theorem Held.tearDown (hh : Held sections xdp h) (unlinkFails : UInt32 → Bool) :
    Ends (fun h' => Held sections xdp h' ∧ h'.mpLifeCycle.mState = .IDLE)
      (fun e h' => Held sections xdp h' ∧ e = .lifeCycle .unlink)
      (Host.tearDown sections unlinkFails h) := by
  have hdestroyed : ∀ s : ProgramLifeCycle, s.destroyed.mState = .IDLE ∧
      s.destroyed.links sections = s.links sections := by
    intro s
    unfold ProgramLifeCycle.destroyed
    split_ifs with hs
    · exact ⟨hs, rfl⟩
    · exact ⟨rfl, rfl⟩
  rcases h.tearDown_cases sections unlinkFails with ⟨xdp', hf, hxdp', hr⟩ | ⟨hf, hr⟩
  · -- Some links are taken off, and the object holds all of them still.
    rw [hr]
    have htorn : h.mpLifeCycle.tornDown sections unlinkFails =
        h.mpLifeCycle.noted .forEachProgram := by
      rw [ProgramLifeCycle.tornDown, if_pos hf.1, if_pos hf.2]
    rw [htorn]
    refine ⟨⟨hh.free, fun i hi => ?_, fun hl => absurd hf.1 hl⟩, rfl⟩
    exact (hxdp' i hi).trans (hh.others i hi)
  · rw [hr]
    have htorn : (h.mpLifeCycle.tornDown sections unlinkFails).mState = .IDLE ∧
        (h.mpLifeCycle.tornDown sections unlinkFails).links sections =
          h.mpLifeCycle.links sections := by
      unfold ProgramLifeCycle.tornDown
      by_cases hl : h.mpLifeCycle.mState = .LINKED
      · rw [if_pos hl, if_neg fun hu => hf ⟨hl, hu⟩]
        exact hdestroyed (h.mpLifeCycle.noted .forEachProgram)
      · rw [if_neg hl]
        exact hdestroyed h.mpLifeCycle
    have hxdp : (if h.mpLifeCycle.mState = .LINKED then
        cleared (h.mpLifeCycle.links sections) h.xdp else h.xdp) = xdp := by
      split_ifs with hl
      · exact hh.cleared_eq
      · exact hh.unlinked hl
    rw [hxdp]
    refine ⟨⟨fun i hi => ?_, fun _ _ => rfl, fun _ => rfl⟩, htorn.1⟩
    rw [htorn.2] at hi
    exact hh.free i hi

/-- An interface that can be attached carries nothing. -/
theorem attachXdp_eq_some {fails : Bool} {ifIndex : UInt32} {h' : Host}
    (ha : attachXdp fails ifIndex h = some h') :
    h.xdp ifIndex = none ∧
      h' = ⟨h.mpLifeCycle, Function.update h.xdp ifIndex (some .entry)⟩ := by
  unfold attachXdp at ha
  split_ifs at ha with hf
  rw [Bool.or_eq_true, not_or, Option.not_isSome_iff_eq_none] at hf
  exact ⟨hf.2, (Option.some.inj ha).symm⟩

/-- A link that is recorded for an interface that carries nothing. -/
theorem Held.addLink (hh : Held sections xdp h) {sectionName : String} (hs : sectionName ∈ sections)
    {ifIndex : UInt32} (hi : h.xdp ifIndex = none) :
    Held sections xdp ⟨{ h.mpLifeCycle.addLink sectionName ifIndex with mState := .LINKED },
      Function.update h.xdp ifIndex (some .entry)⟩ := by
  -- The interface is a link already, or it carried nothing before.
  have hfree : xdp ifIndex = none := by
    by_cases hmem : ifIndex ∈ h.mpLifeCycle.links sections
    · exact hh.free _ hmem
    · rw [← hh.others _ hmem]
      exact hi
  have hmem : ∀ i, i ∈ ({ h.mpLifeCycle.addLink sectionName ifIndex with
      mState := .LINKED } : ProgramLifeCycle).links sections ↔
        i ∈ h.mpLifeCycle.links sections ∨ i = ifIndex :=
    fun i => ProgramLifeCycle.mem_links_addLink h.mpLifeCycle hs
  refine ⟨fun i hi => ?_, fun i hi => ?_, fun hl => absurd rfl hl⟩
  · rcases (hmem i).1 hi with hold | rfl
    · exact hh.free i hold
    · exact hfree
  · rw [hmem, not_or] at hi
    exact (Function.update_of_ne hi.2 _ _).trans (hh.others i hi.1)

/-- What `link` establishes: the invariant, and an idle object when it has torn down itself. -/
theorem Held.link (hh : Held sections xdp h) (env : LinkEnv) (sectionName interface : String) :
    Ends (Held sections xdp) (Failed sections xdp)
      (Host.link sections env sectionName interface h) := by
  have hnoted : Held sections xdp ⟨h.mpLifeCycle.noted .forEachProgram, h.xdp⟩ :=
    ⟨hh.free, hh.others, hh.unlinked⟩
  by_cases hi : env.if_nametoindex interface = 0
  · rw [link_of_no_interface h hi]
    exact ⟨hh, fun he => by cases he⟩
  by_cases hs : sectionName ∈ sections
  · rw [link_eq h hi hs]
    cases ha : attachXdp env.linkFails (env.if_nametoindex interface)
        ⟨h.mpLifeCycle.noted .forEachProgram, h.xdp⟩ with
    | none =>
      refine Ends.bind (Q := fun h' => Held sections xdp h' ∧ h'.mpLifeCycle.mState = .IDLE) ?_
        fun _ h' hQ => ⟨hQ.1, fun _ => hQ.2⟩
      refine (hnoted.tearDown env.unlinkFails).mono (fun h' hQ => hQ) fun e h' hE => ⟨hE.1, ?_⟩
      intro he
      rw [hE.2] at he
      cases he
    | some h' =>
      obtain ⟨hnone, rfl⟩ := attachXdp_eq_some ha
      exact hnoted.addLink hs hnone
  · rw [link_of_no_section h hi hs]
    exact ⟨hnoted, fun he => by cases he⟩

/-! ## Setting up -/

/-- The methods before `link` record no link. -/
def LeavesLinks {α : Type} (x : EStateM LifeCycleErr ProgramLifeCycle α) : Prop :=
  ∀ s, Ends (fun s' => s'.mSectionLinkInterfacesMap = s.mSectionLinkInterfacesMap)
    (fun e s' => s'.mSectionLinkInterfacesMap = s.mSectionLinkInterfacesMap ∧ e ≠ .linkSet) (x s)

theorem leavesLinks_open (setrlimitFails returnsNull : Bool) :
    LeavesLinks (ProgramLifeCycle.open' setrlimitFails returnsNull) := by
  intro s
  cases setrlimitFails with
  | true => exact ⟨rfl, by decide⟩
  | false => cases returnsNull <;> rfl

theorem leavesLinks_load (err : ℤ) : LeavesLinks (ProgramLifeCycle.load err) := by
  intro s
  unfold ProgramLifeCycle.load
  by_cases h : err ≠ 0
  · simp only [if_pos h]
    exact ⟨rfl, fun he => by cases he⟩
  · simp only [if_neg h]
    rfl

theorem leavesLinks_attach (err : ℤ) : LeavesLinks (ProgramLifeCycle.attach err) := by
  intro s
  unfold ProgramLifeCycle.attach
  by_cases h : err ≠ 0
  · simp only [if_pos h]
    exact ⟨rfl, fun he => by cases he⟩
  · simp only [if_neg h]
    rfl

theorem Untouched.onLifeCycle {α : Type} {x : EStateM LifeCycleErr ProgramLifeCycle α}
    (hu : Untouched xdp h) (hx : LeavesLinks x) :
    Ends (Untouched xdp) (Failed sections xdp) (Host.onLifeCycle x h) := by
  refine ends_onLifeCycle ((hx h.mpLifeCycle).mono (fun s hs => ?_)
    fun e s hs => ⟨?_, fun he => ?_⟩)
  · exact ⟨hs.trans hu.links, hu.xdp_eq⟩
  · exact Untouched.held ⟨hs.1.trans hu.links, hu.xdp_eq⟩
  · cases he
    exact absurd rfl hs.2

/-- What `setup` establishes, wherever it stops. -/
theorem Untouched.setup (hu : Untouched xdp h) (env : Env) (udp gtp : LinkEnv)
    (mGTPInterface mUDPInterface : String) :
    Ends (Held entrySections xdp) (Failed entrySections xdp)
      (Host.setup env udp gtp mGTPInterface mUDPInterface h) := by
  unfold Host.setup
  refine (hu.onLifeCycle (leavesLinks_open _ _)).bind fun spSkeleton h1 hu1 => ?_
  by_cases hn : spSkeleton = none
  · rw [if_pos hn]
    exact ⟨hu1.held, fun he => by cases he⟩
  rw [if_neg hn]
  refine (hu1.onLifeCycle (leavesLinks_load _)).bind fun _ h2 hu2 => ?_
  refine (hu2.onLifeCycle (leavesLinks_attach _)).bind fun _ h3 hu3 => ?_
  by_cases hd : mUDPInterface = "" ∨ mGTPInterface = ""
  · rw [if_pos hd]
    exact ⟨hu3.held, fun he => by cases he⟩
  rw [if_neg hd]
  -- From here on links may be recorded.
  refine (hu3.held.link udp _ _).bind fun _ h4 hh4 => ?_
  exact hh4.link gtp _ _

end Invariant

/-- The host after calls of `tearDown`, returned from or thrown out of. -/
def tearDowns (sections : List String) (h : Host) (attempts : List (UInt32 → Bool)) : Host :=
  attempts.foldl (fun h unlinkFails => final (tearDown sections unlinkFails h)) h

theorem Held.tearDowns {sections : List String} {xdp : UInt32 → Option XdpProgram} {h : Host}
    (hh : Held sections xdp h) (attempts : List (UInt32 → Bool)) :
    Held sections xdp (Host.tearDowns sections h attempts) :=
  Run.invariant hh (fun h unlinkFails hh => by
    have ht := (hh.tearDown unlinkFails).mono (fun _ hQ => hQ.1) (fun _ _ hE => hE)
    exact ht.final fun _ _ hE => hE.1) attempts

end Host

/-- Whatever `setup` ended with, and however often `tearDown` has thrown since: what carried a
program is untouched, a `tearDown` that returns leaves every interface as it was before `setup`, and
so does the one that `link` performs itself. A further one changes nothing. -/
theorem interfaces_restored (init : ProgramState) (xdp : UInt32 → Option XdpProgram) (env : Env)
    (udp gtp : LinkEnv) (mGTPInterface mUDPInterface : String) :
    let r := Host.setup env udp gtp mGTPInterface mUDPInterface ⟨{ mState := init }, xdp⟩
    (∀ attempts,
      (∀ i, xdp i ≠ none → (Host.tearDowns entrySections (final r) attempts).xdp i = xdp i) ∧
      ∀ unlinkFails h', Host.tearDown entrySections unlinkFails
          (Host.tearDowns entrySections (final r) attempts) = .ok () h' →
        h'.xdp = xdp ∧ ∀ further, Host.tearDown entrySections further h' = .ok () h') ∧
    (thrown r = some (.lifeCycle .linkSet) →
      (final r).xdp = xdp ∧
        ∀ further, Host.tearDown entrySections further (final r) = .ok () (final r)) := by
  intro r
  have hidle : ∀ h : Host, Host.Held entrySections xdp h → h.mpLifeCycle.mState = .IDLE →
      h.xdp = xdp ∧ ∀ further, Host.tearDown entrySections further h = .ok () h := by
    intro h hh hi
    refine ⟨hh.unlinked ?_, Host.tearDown_of_idle hi⟩
    rw [hi]
    decide
  have hr : Effect.Ends (Host.Held entrySections xdp) (Host.Failed entrySections xdp) r :=
    Host.Untouched.setup ⟨rfl, rfl⟩ env udp gtp mGTPInterface mUDPInterface
  have hheld : Host.Held entrySections xdp (final r) := hr.final fun _ _ hE => hE.1
  refine ⟨fun attempts => ⟨fun i hi => ?_, fun unlinkFails h' ht => ?_⟩, fun hthrown => ?_⟩
  · exact (hheld.tearDowns attempts).foreign hi
  · have hends := (hheld.tearDowns attempts).tearDown unlinkFails
    rw [ht] at hends
    exact hidle h' hends.1 hends.2
  · cases hres : r with
    | ok a h' =>
      rw [hres] at hthrown
      cases hthrown
    | error e h' =>
      rw [hres] at hthrown hr
      exact hidle h' hr.1 (hr.2 (Option.some.inj hthrown))

/-- Two interfaces beside one with a program of somebody else, linked and torn down; and one name
for both, where the second link is refused and the first is taken off again. -/
theorem interfaces_restored_sample :
    let xdp : UInt32 → Option XdpProgram := fun i => if i = 7 then some (.foreign 1) else none
    let env : LinkEnv := { if_nametoindex := fun name => if name = "veth0" then 3 else 4 }
    let r := Host.setup sampleEnv env env "veth0" "veth1" ⟨{ mState := .IDLE }, xdp⟩
    let r' := Host.setup sampleEnv env env "veth0" "veth0" ⟨{ mState := .IDLE }, xdp⟩
    ((final r).xdp 3 = some .entry ∧ (final r).xdp 4 = some .entry ∧
      ∃ h', Host.tearDown entrySections (fun _ => false) (final r) = .ok () h' ∧ h'.xdp = xdp) ∧
    thrown r' = some (.lifeCycle .linkSet) ∧ (final r').xdp = xdp := by
  intro xdp env r r'
  have hthrown : thrown r' = some (.lifeCycle .linkSet) := by decide
  have h := interfaces_restored .IDLE xdp sampleEnv env env "veth0" "veth1"
  have h' := interfaces_restored .IDLE xdp sampleEnv env env "veth0" "veth0"
  refine ⟨⟨by decide, by decide, _, rfl, ?_⟩, hthrown, (h'.2 hthrown).1⟩
  exact ((h.1 []).2 (fun _ => false) _ rfl).1

end UpfBpf
