import UpfBpf.Lib.Owners
import UpfBpf.Control.Component
import UpfBpf.Control.Registries

/-!
# What a tear-down leaves

Each registry owns the programs in it (`Lib.Owners`): a FAR program is released by the destructor of
its entry, a session program by `remove`. `farTable` and `sessionTable` are the two registries in
the terms of the library, and every call is an event of each of them. A program is lost when the
call that has constructed it throws.

`releasesAll_iff` is the balance of a run that ends with `UserPlaneComponent::tearDown`. The
tear-down itself releases nothing: its loop calls through a null pointer at the first session
program, and it does not look at the pipelines. So everything was released exactly when the run
itself has removed all its sessions and lost none, and the interfaces can be unlinked.
-/

namespace UpfBpf

open Effect Owners

section Tables

variable {ifs : Interfaces}

/-! ## The FAR programs -/

/-- The registry of the pipelines. -/
def farTable (s : Component) : Table UInt32 where
  made := s.bpf.programs.length
  held seid := (s.bpf.mSessionProgramsMap.lookup seid).map (·.mpFARProgram)
  released := s.farTearDowns

/-- An entry holds its program. -/
theorem held_farTable {s : Component} {seid : UInt32} {entry : SessionPrograms}
    (h : s.bpf.mSessionProgramsMap.lookup seid = some entry) :
    (farTable s).held seid = some entry.mpFARProgram := by
  show (s.bpf.mSessionProgramsMap.lookup seid).map _ = _
  rw [h]
  rfl

/-- What a call does to it. -/
def farEvent (ifs : Interfaces) (s : Component) : ComponentCall → Event UInt32
  | .bpf (.createBPFSession pSession env) =>
    match (createBPFSession ifs env pSession s.bpf).1, extractPipeline (sortPdrs env pSession) with
    | .ok _ _, _ => .put pSession.seid.toUInt32
    | .error _ _, .ok _ => .lose
    | .error _ _, .error _ => .idle
  | .bpf (.removeBPFSession seid) =>
    if seid ∈ s.bpf.mSeidToSession then .drop seid.toUInt32 else .idle
  | .createSession _ _ => .idle
  | .removeSession _ => .idle

section Create

variable {s : Component} {pSession : PfcpSession} {env : Env} {e : Err} {a : Unit} {s' : State}

/-- A deployment that returns puts its program into the registry. -/
theorem farTable_create_of_ok (h : (createBPFSession ifs env pSession s.bpf).1 = .ok a s') :
    farTable (s.step ifs (.bpf (.createBPFSession pSession env))) =
      (farTable s).step (.put pSession.seid.toUInt32) := by
  have hret : (Call.createBPFSession pSession env).Returns ifs s.bpf := by
    show Returned (createBPFSession ifs env pSession s.bpf).1
    rw [h]
    trivial
  obtain ⟨key, pFar, index, slots, p, he, -, -, -, -, -, -, hstep⟩ := create_returns hret
  have hself : (sortPdrs env pSession).seid = pSession.seid := rfl
  rw [s.step_bpf]
  refine eq_step_put (length_step_create ifs s.bpf he) (fun seid => ?_) ?_
  · show ((step ifs s.bpf _).mSessionProgramsMap.lookup seid).map _ = _
    rw [hstep, lookup_deploy, hself]
    split_ifs <;> rfl
  · show s.farTearDowns ++ Call.tearsDown ifs s.bpf _ = _
    simp only [Call.tearsDown, h]
    rfl

/-- One that throws after it has constructed its program loses it. -/
theorem farTable_create_of_error (h : (createBPFSession ifs env pSession s.bpf).1 = .error e s')
    {pipeline : Pipeline} (he : extractPipeline (sortPdrs env pSession) = .ok pipeline) :
    farTable (s.step ifs (.bpf (.createBPFSession pSession env))) = (farTable s).step .lose := by
  have hret : ¬ (Call.createBPFSession pSession env).Returns ifs s.bpf := by
    show ¬ Returned (createBPFSession ifs env pSession s.bpf).1
    rw [h]
    exact id
  rw [s.step_bpf]
  refine table_ext (length_step_create ifs s.bpf he) (funext fun seid => ?_) ?_
  · show ((step ifs s.bpf _).mSessionProgramsMap.lookup seid).map _ = _
    rw [(create_throws hret).1]
    rfl
  · show s.farTearDowns ++ Call.tearsDown ifs s.bpf _ = _
    simp only [Call.tearsDown, h, List.append_nil]
    rfl

/-- One that throws before that does nothing. -/
theorem farTable_create_of_rejected (h : (createBPFSession ifs env pSession s.bpf).1 = .error e s')
    {e' : Err} (he : extractPipeline (sortPdrs env pSession) = .error e') :
    farTable (s.step ifs (.bpf (.createBPFSession pSession env))) = (farTable s).step .idle := by
  have hstep : step ifs s.bpf (.createBPFSession pSession env) = s.bpf := by
    rcases step_create_cases ifs env s.bpf pSession with ⟨-, h'⟩ | ⟨key, pFar, -, -, he', -⟩
    · exact h'
    · rw [he] at he'
      cases he'
  have htears : (Call.createBPFSession pSession env).tearsDown ifs s.bpf = [] := by
    simp only [Call.tearsDown, h]
  rw [s.step_bpf, hstep, htears, List.append_nil]
  rfl

end Create

section Remove

variable {s : Component} {seid : UInt64}

/-- A removal takes the program of the SEID, if there is one, out of the registry. -/
theorem farTable_remove_of_mem (h : seid ∈ s.bpf.mSeidToSession) :
    farTable (s.step ifs (.bpf (.removeBPFSession seid))) =
      (farTable s).step (.drop seid.toUInt32) := by
  have htears : (Call.removeBPFSession seid).tearsDown ifs s.bpf =
      ((s.bpf.mSessionProgramsMap.lookup seid.toUInt32).map (·.mpFARProgram)).toList := by
    simp only [Call.tearsDown, if_pos h]
  rw [s.step_bpf, htears]
  refine eq_step_drop ?_ (fun a => ?_) rfl
  · show (step ifs s.bpf _).programs.length = s.bpf.programs.length
    exact length_step_remove ifs s.bpf seid
  · show ((step ifs s.bpf _).mSessionProgramsMap.lookup a).map _ = _
    rw [registry_remove h]
    split_ifs <;> rfl

end Remove

/-- Every call is an event of the registry of the pipelines. -/
theorem farTable_step (ifs : Interfaces) (s : Component) (c : ComponentCall) :
    farTable (s.step ifs c) = (farTable s).step (farEvent ifs s c) := by
  cases c with
  | bpf c =>
    cases c with
    | createBPFSession pSession env =>
      unfold farEvent
      dsimp only
      cases h : (createBPFSession ifs env pSession s.bpf).1 with
      | ok a s' => exact farTable_create_of_ok h
      | error e s' =>
        -- It has thrown with a program constructed, or before there was one.
        cases he : extractPipeline (sortPdrs env pSession) with
        | ok pipeline => exact farTable_create_of_error h he
        | error e' => exact farTable_create_of_rejected h he
    | removeBPFSession seid =>
      unfold farEvent
      dsimp only
      split_ifs with h
      · exact farTable_remove_of_mem h
      · have htears : (Call.removeBPFSession seid).tearsDown ifs s.bpf = [] := by
          simp only [Call.tearsDown, if_neg h]
        rw [s.step_bpf, step_remove_of_unknown h, htears, List.append_nil]
        rfl
  | createSession seid env =>
    obtain ⟨hb, hf, -, -⟩ := s.sameOutside_createSession ifs seid env
    unfold farTable
    rw [hb, hf]
    rfl
  | removeSession seid =>
    obtain ⟨hb, hf, -, -⟩ := s.sameOutside_removeSession ifs seid
    unfold farTable
    rw [hb, hf]
    rfl

/-! ## The session programs -/

/-- The registry of the session programs. -/
def sessionTable (s : Component) : Table UInt32 where
  made := s.sessionPrograms.length
  held := s.mSessionProgramMap.lookup
  released := s.sessionTearDowns

/-- What a call does to it. -/
def sessionEvent (ifs : Interfaces) (s : Component) : ComponentCall → Event UInt32
  | .bpf _ => .idle
  | .createSession seid env =>
    if seid.toUInt32 ∈ s.mSessionProgramMap then .idle
    else
      match SessionProgram.bringUp ifs env {} with
      | .ok _ _ => .put seid.toUInt32
      | .error _ _ => .lose
  | .removeSession seid => .drop seid.toUInt32

section Sessions

variable {s : Component} {seid : UInt64}

/-- What is released with nothing under the SEID. -/
theorem sessionTearDowns_of_none (h : s.mSessionProgramMap.lookup seid.toUInt32 = none) :
    s.sessionTearDowns =
      s.sessionTearDowns ++ (s.mSessionProgramMap.lookup seid.toUInt32).toList := by
  rw [h, Option.toList_none, List.append_nil]

/-- A new session puts its program into the registry, or loses it when it cannot be brought up. -/
theorem sessionTable_create (env : Env) (h : seid.toUInt32 ∉ s.mSessionProgramMap) :
    sessionTable (s.step ifs (.createSession seid env)) =
      (sessionTable s).step (match SessionProgram.bringUp ifs env {} with
        | .ok _ _ => .put seid.toUInt32
        | .error _ _ => .lose) := by
  rw [s.step_createSession_of_notMem env h]
  cases SessionProgram.bringUp ifs env {} with
  | error e p => exact table_ext List.length_append rfl rfl
  | ok a p =>
    refine eq_step_put List.length_append (fun a => ?_) ?_
    · show (s.mSessionProgramMap.insert _ _).lookup a = _
      split_ifs with ha
      · rw [ha, AList.lookup_insert]
        rfl
      · rw [AList.lookup_insert_ne ha]
        rfl
    · exact sessionTearDowns_of_none (AList.lookup_eq_none.2 h)

/-- A removal releases the program under the SEID, if there is one. -/
theorem sessionTable_remove (s : Component) (seid : UInt64) :
    sessionTable (s.step ifs (.removeSession seid)) =
      (sessionTable s).step (.drop seid.toUInt32) := by
  cases h : findSessionProgram s seid.toUInt32 with
  | none =>
    have hnone : s.mSessionProgramMap.lookup seid.toUInt32 = none := h
    rw [s.step_removeSession_of_none h]
    refine eq_step_drop rfl (fun a => ?_) (sessionTearDowns_of_none hnone)
    show s.mSessionProgramMap.lookup a = _
    split_ifs with ha
    · rw [ha, hnone]
    · rfl
  | some pSessionProgram =>
    have hsome : s.mSessionProgramMap.lookup seid.toUInt32 = some pSessionProgram := h
    rw [s.step_removeSession_of_some h]
    refine eq_step_drop (List.length_modify ..) (fun a => ?_) ?_
    · show (s.mSessionProgramMap.erase _).lookup a = _
      split_ifs with ha
      · rw [ha, AList.lookup_erase]
      · rw [AList.lookup_erase_ne ha]
        rfl
    · show s.sessionTearDowns ++ [pSessionProgram] =
        s.sessionTearDowns ++ (s.mSessionProgramMap.lookup _).toList
      rw [hsome]
      rfl

end Sessions

/-- Every call is an event of the registry of the session programs. -/
theorem sessionTable_step (ifs : Interfaces) (s : Component) (c : ComponentCall) :
    sessionTable (s.step ifs c) = (sessionTable s).step (sessionEvent ifs s c) := by
  cases c with
  | bpf c =>
    rw [s.step_bpf]
    rfl
  | createSession seid env =>
    unfold sessionEvent
    dsimp only
    split_ifs with h
    · rw [s.step_createSession_of_mem env h]
      rfl
    · exact sessionTable_create env h
  | removeSession seid => exact sessionTable_remove s seid

end Tables

/-! ## The log -/

section Log

variable {ifs : Interfaces} {s : State} {c : Call} {i : ℕ}

theorem getElem?_publish (p : FARProgram) (index : BoundedMap 10 NextRuleProgIndexKey UInt32)
    (slots : SlotArray 10 ℕ) (hi : i < s.programs.length) :
    (s.publish p index slots).programs[i]? = s.programs[i]? :=
  List.getElem?_append_left hi

/-- What is torn down is marked, and all else is left. -/
theorem getElem?_destroy (o : Option SessionPrograms) :
    (i ∈ (o.map (·.mpFARProgram)).toList →
        (s.destroy o).programs[i]? = s.programs[i]?.map FARProgram.core) ∧
      (i ∉ (o.map (·.mpFARProgram)).toList → (s.destroy o).programs[i]? = s.programs[i]?) := by
  cases o with
  | none => simp [State.destroy]
  | some entry =>
    simp only [State.destroy, State.tearDown, List.getElem?_modify, Option.map_some,
      Option.toList_some, List.mem_singleton]
    refine ⟨fun h => ?_, fun h => ?_⟩
    · simp only [h, if_true]
      rfl
    · simp [Ne.symm h]

/-- The log has the programs that a call tears down, and those alone: a program that is there is
marked as torn down when it is in the log, and else left as it is. -/
theorem getElem?_step (hi : i < s.programs.length) :
    (i ∈ c.tearsDown ifs s →
        (step ifs s c).programs[i]? = s.programs[i]?.map FARProgram.core) ∧
      (i ∉ c.tearsDown ifs s → (step ifs s c).programs[i]? = s.programs[i]?) := by
  cases c with
  | createBPFSession pSession env =>
    have ho := deploy_outcome ifs env s (sortPdrs env pSession)
    unfold step Call.result Call.tearsDown createBPFSession
    dsimp only
    generalize deploy ifs env (sortPdrs env pSession) s = r at ho ⊢
    cases ho with
    | rejected e h => simp [stateAfter]
    -- A pipeline that throws has only added its program.
    | threw key pFar e s' h hp => cases hp <;> simp [stateAfter, getElem?_publish _ _ _ hi]
    | returned key pFar s' h hp =>
      cases hp with
      | deployed index slots p hindex hslot hkernel hid hloaded hfar hm =>
        -- The entry that it replaces is destroyed.
        rw [← getElem?_publish p index slots hi]
        exact getElem?_destroy (s := s.publish p index slots) _
  | removeBPFSession seid =>
    unfold Call.tearsDown
    dsimp only
    split_ifs with hmem
    · rw [step, Call.result]
      have ho := removeBPFSession_outcome s seid
      generalize removeBPFSession seid s = r at ho ⊢
      cases ho with
      | unknown h =>
        rw [h.resolve_left (by rwa [AList.lookup_eq_none, not_not])]
        simp [stateAfter]
      | removed entry index h hd =>
        rw [h]
        exact getElem?_destroy (some entry)
      | halfRemoved entry h hd =>
        rw [h]
        exact getElem?_destroy (some entry)
    · simp [step_remove_of_unknown hmem]

end Log

/-! ## The balance -/

/-- The call constructs a program and cannot complete: something fails, or there is no room for the
pipeline. -/
def ComponentCall.Loses (s : Component) : ComponentCall → Prop
  | .bpf (.createBPFSession pSession env) => ∃ key pFar,
    extractPipeline (sortPdrs env pSession) = .ok ⟨key, pFar⟩ ∧
      ¬ (env.Faultless ∧ HasRoom s.bpf key)
  | .bpf (.removeBPFSession _) => False
  | .createSession seid env => seid.toUInt32 ∉ s.mSessionProgramMap ∧ ¬ env.SetsUp
  | .removeSession _ => False

section Loses

variable {ifs : Interfaces} {s : Component} {c : ComponentCall}

/-- A deployment loses its program when it has got one and throws. -/
theorem farEvent_create_eq_lose_iff {pSession : PfcpSession} {env : Env} :
    farEvent ifs s (.bpf (.createBPFSession pSession env)) = .lose ↔
      (∃ pipeline, extractPipeline (sortPdrs env pSession) = .ok pipeline) ∧
        ¬ (Call.createBPFSession pSession env).Returns ifs s.bpf := by
  rw [Call.Returns, Call.result]
  unfold farEvent
  dsimp only
  cases (createBPFSession ifs env pSession s.bpf).1 with
  | ok a s' => simp [Returned]
  | error e s' => cases extractPipeline (sortPdrs env pSession) <;> simp [Returned]

/-- It loses a program of one of the registries. -/
theorem loses_iff :
    c.Loses s ↔ farEvent ifs s c = .lose ∨ sessionEvent ifs s c = .lose := by
  cases c with
  | bpf c =>
    cases c with
    | createBPFSession pSession env =>
      rw [farEvent_create_eq_lose_iff, create_returns_iff]
      unfold ComponentCall.Loses sessionEvent
      dsimp only
      rw [or_iff_left (by simp)]
      constructor
      · rintro ⟨key, pFar, he, hnot⟩
        refine ⟨⟨⟨key, pFar⟩, he⟩, ?_⟩
        rintro ⟨henv, key', pFar', he', hroom⟩
        rw [he] at he'
        cases he'
        exact hnot ⟨henv, hroom⟩
      · rintro ⟨⟨⟨key, pFar⟩, he⟩, hnot⟩
        exact ⟨key, pFar, he, fun h => hnot ⟨h.1, key, pFar, he, h.2⟩⟩
    | removeBPFSession seid =>
      unfold ComponentCall.Loses farEvent sessionEvent
      dsimp only
      split_ifs <;> simp
  | createSession seid env =>
    unfold ComponentCall.Loses farEvent sessionEvent
    dsimp only
    by_cases h : seid.toUInt32 ∈ s.mSessionProgramMap
    · simp [h]
    · have hup : (∃ a p, SessionProgram.bringUp ifs env {} = .ok a p) ↔ env.SetsUp :=
        SessionProgram.bringUp_returns_iff
      rw [if_neg h, ← hup]
      cases SessionProgram.bringUp ifs env {} <;> simp [h]
  | removeSession seid => simp [ComponentCall.Loses, farEvent, sessionEvent]

/-- A run that loses nothing loses nothing of either registry. -/
theorem along_not_loses_iff {calls : List ComponentCall} :
    Run.Along (Component.step ifs) (fun s c => ¬ c.Loses s) s calls ↔
      Run.Along (Component.step ifs) (fun s c => farEvent ifs s c ≠ .lose) s calls ∧
        Run.Along (Component.step ifs) (fun s c => sessionEvent ifs s c ≠ .lose) s calls := by
  constructor
  · intro h
    exact ⟨h.mono fun s c hc he => hc (loses_iff.2 (.inl he)),
      h.mono fun s c hc he => hc (loses_iff.2 (.inr he))⟩
  · rintro ⟨hf, hs⟩
    exact (hf.and hs).mono fun s c hc hl => (loses_iff.1 hl).elim hc.1 hc.2

end Loses

/-- Everything is released: the tear-down completes, both registries are empty, and every program
was torn down exactly once, so that nothing is found any more. -/
structure ReleasesAll (r : EStateM.Result ComponentErr Component Unit) : Prop where
  /-- It completes, and so it does not call through a null pointer. -/
  completes : ∃ s, r = .ok () s
  /-- The registries are empty. -/
  empty : (final r).mSessionProgramMap = ∅ ∧ (final r).bpf.mSessionProgramsMap = ∅
  /-- The FAR programs. -/
  far : ∀ ref, ref < (final r).bpf.programs.length → (final r).farTearDowns.count ref = 1
  /-- The session programs. -/
  session : ∀ ref, ref < (final r).sessionPrograms.length →
    (final r).sessionTearDowns.count ref = 1
  /-- Nothing is found. -/
  finds : ∀ seid, findSessionProgram (final r) seid = none ∧
    findSessionPrograms (final r).bpf seid = none

/-! ## The tear-down -/

section TearDown

variable {ifs : Interfaces} {s : Component}

/-- After `setup` the entry program is linked to the two interfaces. -/
theorem setup_linked (ifs : LinkedInterfaces) (init : ProgramState) :
    (Component.setup ifs init).mpUPFProgram.mState = .LINKED ∧
      ∀ i, i ∈ (Component.setup ifs init).mpUPFProgram.links entrySections ↔
        i = ifs.udpInterfaceIndex ∨ i = ifs.gtpInterfaceIndex := by
  have hsec : "xdp_entry_point" ∈ entrySections := List.mem_singleton_self _
  unfold Component.setup ProgramLifeCycle.run entrySetup
  simp only [List.foldl_cons, List.foldl_nil, ProgramLifeCycle.step_link, if_neg ifs.udp_ne,
    if_neg ifs.gtp_ne, if_pos hsec, Bool.false_eq_true, if_false]
  refine ⟨trivial, fun i => ?_⟩
  -- Before the first link, no section is linked.
  refine (ProgramLifeCycle.mem_links_addLink _ hsec).trans (or_congr_left ?_)
  refine (ProgramLifeCycle.mem_links_addLink _ hsec).trans (or_iff_right ?_)
  rw [ProgramLifeCycle.step_open, ProgramLifeCycle.step_load, ProgramLifeCycle.step_attach]
  simp [ProgramLifeCycle.links, ProgramLifeCycle.noted]

/-- There is a program for every SEID of the registry. -/
theorem registeredPrograms_ne_nil (h : s.mSessionProgramMap ≠ ∅) : s.registeredPrograms ≠ [] := by
  obtain ⟨seid, hseid⟩ : ∃ seid, seid ∈ s.mSessionProgramMap := by
    by_contra hnone
    rw [not_exists] at hnone
    refine h (AList.ext (List.eq_nil_iff_forall_not_mem.2 fun entry hentry => ?_))
    exact hnone entry.1 (List.mem_map_of_mem hentry)
  obtain ⟨pSessionProgram, hp⟩ := Option.isSome_iff_exists.1 (AList.lookup_isSome.2 hseid)
  refine List.ne_nil_of_mem (a := pSessionProgram) (List.mem_filterMap.2 ⟨seid, ?_, hp⟩)
  rw [List.mem_insertionSort]
  exact hseid

theorem removeAll_of_empty (h : s.mSessionProgramMap = ∅) : removeAll s = .ok () s := by
  have hnil : s.registeredPrograms = [] := by
    unfold Component.registeredPrograms
    rw [h]
    rfl
  unfold removeAll
  rw [bind_get, hnil]
  show EStateM.Result.ok () { s with mSessionProgramMap := ∅ } = .ok () s
  rw [← h]

/-- The observer is not set, and the first program of the registry asks for it. -/
theorem removeAll_of_ne (h : s.mSessionProgramMap ≠ ∅)
    (ho : s.mpOnNewSessionProgramObserver = false) :
    ∃ s', removeAll s = .error .nullObserver s' := by
  obtain ⟨pSessionProgram, rest, he⟩ :=
    List.exists_cons_of_ne_nil (registeredPrograms_ne_nil h)
  have heach : removeEach s.registeredPrograms s =
      .error .nullObserver (s.tearDownSession pSessionProgram) := by
    rw [he]
    unfold removeEach
    have hmod : (modify fun s => s.tearDownSession pSessionProgram : CM Unit) s =
        .ok () (s.tearDownSession pSessionProgram) := rfl
    have ho' : (s.tearDownSession pSessionProgram).mpOnNewSessionProgramObserver = false := ho
    rw [bind_of_ok hmod, bind_get, ho']
    rfl
  refine ⟨s.tearDownSession pSessionProgram, ?_⟩
  unfold removeAll
  rw [bind_get, bind_of_error heach]

/-- A tear-down that can unlink the entry program goes on with the session programs. -/
theorem tearDown_eq_removeAll {unlinkFails : UInt32 → Bool}
    (h : ¬ (s.mpUPFProgram.links entrySections).any unlinkFails) :
    Component.tearDown unlinkFails s =
      removeAll { s with mpUPFProgram := s.mpUPFProgram.tornDown entrySections unlinkFails } := by
  unfold Component.tearDown
  refine bind_of_ok (a := ()) ?_
  rw [s.mpUPFProgram.tearDown_eq, if_neg (fun hl => h hl.2)]

/-- Without session programs, it has touched the entry program alone. -/
theorem tearDown_of_empty {unlinkFails : UInt32 → Bool}
    (hu : ¬ (s.mpUPFProgram.links entrySections).any unlinkFails)
    (hm : s.mSessionProgramMap = ∅) :
    Component.tearDown unlinkFails s =
      .ok () { s with mpUPFProgram := s.mpUPFProgram.tornDown entrySections unlinkFails } :=
  (tearDown_eq_removeAll hu).trans (removeAll_of_empty hm)

theorem tearDown_of_linked {unlinkFails : UInt32 → Bool} (hl : s.mpUPFProgram.mState = .LINKED)
    (h : (s.mpUPFProgram.links entrySections).any unlinkFails) :
    ∃ s', Component.tearDown unlinkFails s = .error .unlink s' := by
  refine ⟨{ s with mpUPFProgram := s.mpUPFProgram.tornDown entrySections unlinkFails }, ?_⟩
  unfold Component.tearDown
  refine bind_of_error ?_
  rw [s.mpUPFProgram.tearDown_eq, if_pos ⟨hl, h⟩]

/-- When the tear-down completes. -/
theorem tearDown_completes_iff (unlinkFails : UInt32 → Bool)
    (hl : s.mpUPFProgram.mState = .LINKED) (ho : s.mpOnNewSessionProgramObserver = false) :
    (∃ s', Component.tearDown unlinkFails s = .ok () s') ↔
      ¬ (s.mpUPFProgram.links entrySections).any unlinkFails ∧ s.mSessionProgramMap = ∅ := by
  by_cases hu : (s.mpUPFProgram.links entrySections).any unlinkFails
  · obtain ⟨s', hs'⟩ := tearDown_of_linked hl hu
    rw [hs']
    exact iff_of_false (by simp) fun h => h.1 hu
  by_cases hm : s.mSessionProgramMap = ∅
  · exact iff_of_true ⟨_, tearDown_of_empty hu hm⟩ ⟨hu, hm⟩
  · obtain ⟨s', hs'⟩ := removeAll_of_ne
      (s := { s with mpUPFProgram := s.mpUPFProgram.tornDown entrySections unlinkFails }) hm ho
    rw [tearDown_eq_removeAll hu, hs']
    exact iff_of_false (by simp) fun h => hm h.2

end TearDown

/-- The balance of a run that leaves both registries empty. -/
theorem released_iff {ifs : LinkedInterfaces} {init : ProgramState} {calls : List ComponentCall}
    (hs : (Component.run ifs init calls).mSessionProgramMap = ∅)
    (hb : (Component.run ifs init calls).bpf.mSessionProgramsMap = ∅) :
    ((∀ ref, ref < (Component.run ifs init calls).bpf.programs.length →
        (Component.run ifs init calls).farTearDowns.count ref = 1) ∧
      ∀ ref, ref < (Component.run ifs init calls).sessionPrograms.length →
        (Component.run ifs init calls).sessionTearDowns.count ref = 1) ↔
      Run.Along (Component.step ifs) (fun s c => ¬ c.Loses s) (Component.setup ifs init) calls := by
  have hfar := released_once_iff (farTable_step ifs) (s := Component.setup ifs init)
    proper_empty (fun ref h => Nat.not_lt_zero _ h.made) calls fun seid => by
      show (AList.lookup seid (Component.run ifs init calls).bpf.mSessionProgramsMap).map _ = none
      rw [hb]
      rfl
  have hsession := released_once_iff (sessionTable_step ifs)
    (s := Component.setup ifs init) proper_empty (fun ref h => Nat.not_lt_zero _ h.made) calls
    fun seid => by
      show AList.lookup seid (Component.run ifs init calls).mSessionProgramMap = none
      rw [hs]
      rfl
  rw [along_not_loses_iff, ← hfar, ← hsession]
  rfl

/-- Whatever was called after `setup`, the tear-down releases everything exactly when the interfaces
can be unlinked, the registries were empty before, and no call of the run lost a program. -/
theorem releasesAll_iff (ifs : LinkedInterfaces) (init : ProgramState)
    (calls : List ComponentCall) (unlinkFails : UInt32 → Bool) :
    ReleasesAll (Component.tearDown unlinkFails (Component.run ifs init calls)) ↔
      (unlinkFails ifs.udpInterfaceIndex = false ∧ unlinkFails ifs.gtpInterfaceIndex = false) ∧
        ((Component.run ifs init calls).mSessionProgramMap = ∅ ∧
          (Component.run ifs init calls).bpf.mSessionProgramsMap = ∅) ∧
        Run.Along (Component.step ifs) (fun s c => ¬ c.Loses s) (Component.setup ifs init)
          calls := by
  -- The calls leave the entry program and the observer as `setup` does.
  obtain ⟨hupf, ho⟩ := Component.run_keeps ifs init calls
  obtain ⟨hlinked, hlinks⟩ := setup_linked ifs init
  rw [← hupf] at hlinked hlinks
  have hunlink : ¬ ((Component.run ifs init calls).mpUPFProgram.links entrySections).any
      unlinkFails ↔
        unlinkFails ifs.udpInterfaceIndex = false ∧ unlinkFails ifs.gtpInterfaceIndex = false := by
    simp [hlinks]
  have hcompletes := tearDown_completes_iff unlinkFails hlinked ho
  rw [← hunlink]
  constructor
  · intro h
    -- What completes had no session program to remove, so the registries are those of the run.
    obtain ⟨hu, hs⟩ := hcompletes.1 h.completes
    rw [tearDown_of_empty hu hs] at h
    have hb : (Component.run ifs init calls).bpf.mSessionProgramsMap = ∅ := h.empty.2
    exact ⟨hu, ⟨hs, hb⟩, (released_iff hs hb).1 ⟨h.far, h.session⟩⟩
  · rintro ⟨hu, ⟨hs, hb⟩, hlose⟩
    obtain ⟨hfar, hsession⟩ := (released_iff hs hb).2 hlose
    rw [tearDown_of_empty hu hs]
    refine ⟨⟨_, rfl⟩, ⟨hs, hb⟩, hfar, hsession, fun seid => ⟨?_, ?_⟩⟩
    · show AList.lookup seid (Component.run ifs init calls).mSessionProgramMap = none
      rw [hs]
      rfl
    · show AList.lookup seid (Component.run ifs init calls).bpf.mSessionProgramsMap = none
      rw [hb]
      rfl

/-- A session of either generation that is not removed: the older one ends the process, and the
newer one is found after the tear-down. -/
theorem not_releasesAll_of_session :
    (¬ ∃ s, Component.tearDown (fun _ => false)
        (Component.run sampleInterfaces .IDLE [.createSession 1 sampleEnv]) = .ok () s) ∧
      ¬ ReleasesAll (Component.tearDown (fun _ => false)
        (Component.run sampleInterfaces .IDLE [.createSession 1 sampleEnv])) ∧
      ¬ ReleasesAll (Component.tearDown (fun _ => false)
        (Component.run sampleInterfaces .IDLE [.bpf (sampleCreate 1 100)])) := by
  have h1 : ¬ ∃ s, Component.tearDown (fun _ => false)
      (Component.run sampleInterfaces .IDLE [.createSession 1 sampleEnv]) = .ok () s := by
    rintro ⟨s, hs⟩
    cases hs
  have h2 : findSessionPrograms (final (Component.tearDown (fun _ => false)
      (Component.run sampleInterfaces .IDLE [.bpf (sampleCreate 1 100)]))).bpf 1 ≠ none := by
    decide
  exact ⟨h1, fun h => h1 h.completes, fun h => h2 (h.finds 1).2⟩

end UpfBpf
