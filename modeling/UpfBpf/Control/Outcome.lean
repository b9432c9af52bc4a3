import UpfBpf.Control.Session

/-!
# What a call can do

Every argument about runs starts from the same question: what states can a call leave, and with what
result? `PipelineOutcome` answers it for `createPipeline`, by how far it came, and `CreateOutcome`
and `RemoveOutcome` for the two calls of the session manager. Each outcome states its guards, so
that it also says when it is taken. No later proof unfolds a call.
-/

namespace UpfBpf

open Effect

/-- The state with one more program, and the two maps of the entry program as given. -/
def State.publish (s : State) (p : FARProgram)
    (index : BoundedMap 10 NextRuleProgIndexKey UInt32) (slots : SlotArray 10 ℕ) : State :=
  { s with
    programs := s.programs ++ [p]
    sIdCounter := s.sIdCounter + 1
    m_next_rule_prog_index := index
    m_next_rule_prog := slots }

/-! ## Programs -/

/-- A method of the program that was constructed last. -/
theorem onProgram_publish {α : Type} {s : State} {p p' : FARProgram}
    {index : BoundedMap 10 NextRuleProgIndexKey UInt32} {slots : SlotArray 10 ℕ}
    {x : EStateM Err FARProgram α} {a : α} (h : x p = .ok a p') :
    onProgram s.programs.length x (s.publish p index slots) = .ok a (s.publish p' index slots) := by
  have hg : (s.publish p index slots).programs[s.programs.length]? = some p := by
    simp [State.publish]
  exact (zoom_of_ok (g := fun t : State => t.programs[s.programs.length]?) hg h).trans
    (by simp [State.publish])

/-- A method of the program that was constructed last, when it throws. -/
theorem onProgram_publish_error {α : Type} {s : State} {p p' : FARProgram}
    {index : BoundedMap 10 NextRuleProgIndexKey UInt32} {slots : SlotArray 10 ℕ}
    {x : EStateM Err FARProgram α} {e : Err} (h : x p = .error e p') :
    onProgram s.programs.length x (s.publish p index slots) =
      .error e (s.publish p' index slots) := by
  have hg : (s.publish p index slots).programs[s.programs.length]? = some p := by
    simp [State.publish]
  exact (zoom_of_error (g := fun t : State => t.programs[s.programs.length]?) hg h).trans
    (by simp [State.publish])

theorem getId_ready (ifs : Interfaces) (id : UInt32) :
    FARProgram.getId (FARProgram.ready ifs id) = .ok id (FARProgram.ready ifs id) := rfl

/-- The construction, in these terms. -/
theorem newFARProgram_eq (s : State) :
    newFARProgram s = .ok s.programs.length
      (s.publish { mId := s.sIdCounter } s.m_next_rule_prog_index s.m_next_rule_prog) := rfl

/-! ## Map updates -/

theorem updateNextProgRuleIndex_cases (fails : Bool) (key : NextRuleProgIndexKey) (id : UInt32)
    (s : State) :
    (∃ index, fails = false ∧ s.m_next_rule_prog_index.update key id = some index ∧
        updateNextProgRuleIndex fails key id s =
          .ok () { s with m_next_rule_prog_index := index }) ∨
      ((∀ index, ¬ (fails = false ∧ s.m_next_rule_prog_index.update key id = some index)) ∧
        updateNextProgRuleIndex fails key id s = .error .mapUpdate s) :=
  attempt_map_cases fails Err.mapUpdate (fun t : State => t.m_next_rule_prog_index.update key id)
    (fun m t => { t with m_next_rule_prog_index := m }) s

theorem updateNextProgRule_cases (fails : Bool) (id : UInt32) (fd : ℕ) (s : State) :
    (∃ slots, fails = false ∧ s.m_next_rule_prog.set id.toNat (some fd) = some slots ∧
        updateNextProgRule fails id fd s = .ok () { s with m_next_rule_prog := slots }) ∨
      ((∀ slots, ¬ (fails = false ∧ s.m_next_rule_prog.set id.toNat (some fd) = some slots)) ∧
        updateNextProgRule fails id fd s = .error .mapUpdate s) :=
  attempt_map_cases fails Err.mapUpdate (fun t : State => t.m_next_rule_prog.set id.toNat (some fd))
    (fun a t => { t with m_next_rule_prog := a }) s

theorem removeNextProgRuleIndex_cases (key : NextRuleProgIndexKey) (s : State) :
    (∃ index, s.m_next_rule_prog_index.delete key = some index ∧
        removeNextProgRuleIndex key s = .ok () { s with m_next_rule_prog_index := index }) ∨
      (s.m_next_rule_prog_index.delete key = none ∧
        removeNextProgRuleIndex key s = .error .mapRemove s) := by
  rcases attempt_map_cases false Err.mapRemove
      (fun t : State => t.m_next_rule_prog_index.delete key)
      (fun m t => { t with m_next_rule_prog_index := m }) s with ⟨index, -, hd, h⟩ | ⟨hnot, h⟩
  · exact .inl ⟨index, hd, h⟩
  · refine .inr ⟨?_, h⟩
    rw [Option.eq_none_iff_forall_ne_some]
    exact fun index hd => hnot index ⟨rfl, hd⟩

/-! ## Pipelines -/

section Pipeline

variable (ifs : Interfaces) (env : Env) (s : State) (seid : UInt32) (key : NextRuleProgIndexKey)
  (pFar : PfcpFar)

/-- The index is written: the set-up returns, and neither the kernel nor the map refuses. -/
structure IndexWritten (index : BoundedMap 10 NextRuleProgIndexKey UInt32) : Prop where
  /-- The program is set up. -/
  setsUp : env.SetsUp
  /-- The kernel does not fail. -/
  kernel : env.indexFails = false
  /-- The map takes the key. -/
  update_eq : s.m_next_rule_prog_index.update key s.sIdCounter = some index

/-- The slot of the new program is written. -/
structure SlotWritten (slots : SlotArray 10 ℕ) : Prop where
  /-- The kernel does not fail. -/
  kernel : env.progFails = false
  /-- The id is an index of the array. -/
  set_eq : s.m_next_rule_prog.set s.sIdCounter.toNat (some s.programs.length) = some slots

/-- How `createPipeline` ends in the state `s`, by how far it comes. -/
inductive PipelineOutcome : EStateM.Result Err State Unit → Prop
  /-- The index is not written. -/
  | unpublished (e : Err) (p : FARProgram) (hid : p.mId = s.sIdCounter) (hfar : p.far = none)
      (hloaded : p.loaded = true ↔ env.Loads) (hnot : ∀ index, ¬ IndexWritten env s key index) :
      PipelineOutcome (.error e (s.publish p s.m_next_rule_prog_index s.m_next_rule_prog))
  /-- The index is written, and the slot is not. -/
  | indexed (index : BoundedMap 10 NextRuleProgIndexKey UInt32)
      (hindex : IndexWritten env s key index) (hnot : ∀ slots, ¬ SlotWritten env s slots) :
      PipelineOutcome (.error .mapUpdate
        (s.publish (FARProgram.ready ifs s.sIdCounter) index s.m_next_rule_prog))
  /-- The slot is written, and the FAR is not. -/
  | slotted (index : BoundedMap 10 NextRuleProgIndexKey UInt32) (slots : SlotArray 10 ℕ)
      (hindex : IndexWritten env s key index) (hslot : SlotWritten env s slots)
      (hnot : env.farFails = true) :
      PipelineOutcome (.error .mapUpdate
        (s.publish (FARProgram.ready ifs s.sIdCounter) index slots))
  /-- The pipeline is deployed. -/
  | deployed (index : BoundedMap 10 NextRuleProgIndexKey UInt32) (slots : SlotArray 10 ℕ)
      (p : FARProgram) (hindex : IndexWritten env s key index) (hslot : SlotWritten env s slots)
      (hkernel : env.farFails = false) (hid : p.mId = s.sIdCounter) (hloaded : p.loaded = true)
      (hfar : p.far = some (farOf pFar)) (hm : p.m_redirect_interfaces = redirectInterfaces ifs) :
      PipelineOutcome (.ok () ((s.publish p index slots).register seid ⟨key, s.programs.length⟩))

variable {ifs env s seid key pFar}

/-- A program that is set up. -/
theorem bringUp_of_setsUp (s : State) (h : env.SetsUp) :
    bringUp ifs env s = .ok (s.programs.length, s.sIdCounter)
      (s.publish (FARProgram.ready ifs s.sIdCounter) s.m_next_rule_prog_index
        s.m_next_rule_prog) := by
  rw [bringUp, bind_of_ok (newFARProgram_eq s),
    bind_of_ok (onProgram_publish (setup_of_setsUp h _)),
    bind_of_ok (onProgram_publish (getId_ready _ _))]
  rfl

/-- A program that is not set up. -/
theorem bringUp_of_not_setsUp (ifs : Interfaces) (s : State) (h : ¬ env.SetsUp) :
    ∃ e p, p.mId = s.sIdCounter ∧ p.far = none ∧ (p.loaded = true ↔ env.Loads) ∧
      bringUp ifs env s =
        .error e (s.publish p s.m_next_rule_prog_index s.m_next_rule_prog) := by
  obtain ⟨e, p, he, hid, hfar, hl⟩ := setup_of_not_setsUp ifs h s.sIdCounter
  refine ⟨e, p, hid, hfar, hl, ?_⟩
  rw [bringUp, bind_of_ok (newFARProgram_eq s), bind_of_error (onProgram_publish_error he)]

/-- How the first part of `createPipeline` ends. -/
theorem publishIndex_cases (ifs : Interfaces) (env : Env) (s : State) (key : NextRuleProgIndexKey) :
    (∃ index, IndexWritten env s key index ∧ publishIndex ifs env key s =
        .ok (s.programs.length, s.sIdCounter)
          (s.publish (FARProgram.ready ifs s.sIdCounter) index s.m_next_rule_prog)) ∨
      (∃ e p, p.mId = s.sIdCounter ∧ p.far = none ∧ (p.loaded = true ↔ env.Loads) ∧
        (∀ index, ¬ IndexWritten env s key index) ∧ publishIndex ifs env key s =
          .error e (s.publish p s.m_next_rule_prog_index s.m_next_rule_prog)) := by
  by_cases hs : env.SetsUp
  · rw [publishIndex, bind_of_ok (bringUp_of_setsUp s hs)]
    -- The update is tried with the program in place, but the map is still that of `s`.
    rcases updateNextProgRuleIndex_cases env.indexFails key s.sIdCounter
        (s.publish (FARProgram.ready ifs s.sIdCounter) s.m_next_rule_prog_index s.m_next_rule_prog)
      with ⟨index, hk, hi, hu⟩ | ⟨hnot, hu⟩
    · exact .inl ⟨index, ⟨hs, hk, hi⟩, bind_of_ok hu⟩
    · refine .inr ⟨_, _, rfl, rfl, iff_of_true rfl hs.toLoads, ?_, bind_of_error hu⟩
      exact fun index h => hnot index ⟨h.kernel, h.update_eq⟩
  · obtain ⟨e, p, hid, hfar, hl, hb⟩ := bringUp_of_not_setsUp ifs s hs
    exact .inr ⟨e, p, hid, hfar, hl, fun index h => hs h.setsUp, bind_of_error hb⟩

/-- How `createPipeline` ends. -/
theorem createPipeline_outcome (ifs : Interfaces) (env : Env) (s : State) (seid : UInt32)
    (key : NextRuleProgIndexKey) (pFar : PfcpFar) :
    PipelineOutcome ifs env s seid key pFar (createPipeline ifs env seid key pFar s) := by
  rcases publishIndex_cases ifs env s key with ⟨index, hindex, hp⟩ | ⟨e, p, hid, hfar, hl, hnot, hp⟩
  · -- The index is written: the slot is next, under the id that the index has got.
    rw [createPipeline, bind_of_ok hp]
    dsimp only
    rcases updateNextProgRule_cases env.progFails s.sIdCounter s.programs.length
        (s.publish (FARProgram.ready ifs s.sIdCounter) index s.m_next_rule_prog)
      with ⟨slots, hk, hs, hu⟩ | ⟨hnot, hu⟩
    · have hu' : updateNextProgRule env.progFails s.sIdCounter s.programs.length
          (s.publish (FARProgram.ready ifs s.sIdCounter) index s.m_next_rule_prog) =
            .ok () (s.publish (FARProgram.ready ifs s.sIdCounter) index slots) := hu
      rw [bind_of_ok hu']
      -- The program has no FAR yet, so that only the kernel can refuse this one.
      rcases updateFar_cases env (farOf pFar) (FARProgram.ready ifs s.sIdCounter) rfl
        with ⟨hk', m, hm, hf⟩ | ⟨hk', hf⟩
      · rw [bind_of_ok (onProgram_publish hf)]
        exact .deployed index slots _ hindex ⟨hk, hs⟩ hk' rfl rfl
          (BoundedMap.lookup_update_self hm) rfl
      · rw [bind_of_error (onProgram_publish_error hf)]
        exact .slotted index slots hindex ⟨hk, hs⟩ hk'
    · rw [bind_of_error hu]
      exact .indexed index hindex fun slots h => hnot slots ⟨h.kernel, h.set_eq⟩
  · rw [createPipeline, bind_of_error hp]
    exact .unpublished e p hid hfar hl hnot

/-- The first part of `createPipeline` returns exactly when it writes the index. -/
theorem returned_publishIndex_iff :
    Returned (publishIndex ifs env key s) ↔ ∃ index, IndexWritten env s key index := by
  rcases publishIndex_cases ifs env s key with ⟨index, hindex, hp⟩ | ⟨e, p, -, -, -, hnot, hp⟩
  · rw [hp]
    exact iff_of_true trivial ⟨index, hindex⟩
  · rw [hp]
    exact iff_of_false id fun ⟨index, h⟩ => hnot index h

end Pipeline

/-! ## Calls -/

section Calls

variable (ifs : Interfaces) (env : Env) (s : State)

/-- How `createBPFSession` ends, for the sorted session. -/
inductive CreateOutcome (pSession : PfcpSession) : EStateM.Result Err State Unit → Prop
  /-- The session has no pipeline. -/
  | rejected (e : Err) (h : extractPipeline pSession = .error e) :
      CreateOutcome pSession (.error e s)
  /-- The pipeline is not deployed. -/
  | threw (key : NextRuleProgIndexKey) (pFar : PfcpFar) (e : Err) (s' : State)
      (h : extractPipeline pSession = .ok ⟨key, pFar⟩)
      (hp : PipelineOutcome ifs env s pSession.seid.toUInt32 key pFar (.error e s')) :
      CreateOutcome pSession (.error e s')
  /-- The pipeline is deployed. -/
  | returned (key : NextRuleProgIndexKey) (pFar : PfcpFar) (s' : State)
      (h : extractPipeline pSession = .ok ⟨key, pFar⟩)
      (hp : PipelineOutcome ifs env s pSession.seid.toUInt32 key pFar (.ok () s')) :
      CreateOutcome pSession
        (.ok () { s' with mSeidToSession := s'.mSeidToSession.insert pSession.seid pSession })

theorem deploy_outcome (pSession : PfcpSession) :
    CreateOutcome ifs env s pSession (deploy ifs env pSession s) := by
  unfold deploy
  cases h : extractPipeline pSession with
  | error e => exact .rejected e h
  | ok pipeline =>
    obtain ⟨key, pFar⟩ := pipeline
    have ho := createPipeline_outcome ifs env s pSession.seid.toUInt32 key pFar
    cases hr : createPipeline ifs env pSession.seid.toUInt32 key pFar s with
    | ok a s' =>
      rw [hr] at ho
      dsimp only
      rw [bind_of_ok hr]
      exact .returned key pFar s' h ho
    | error e s' =>
      rw [hr] at ho
      dsimp only
      rw [bind_of_error hr]
      exact .threw key pFar e s' h ho

/-- How `removeBPFSession` ends. -/
inductive RemoveOutcome (seid : UInt64) : EStateM.Result Err State Unit → Prop
  /-- The session manager or the registry does not know the SEID. -/
  | unknown (h : s.mSeidToSession.lookup seid = none ∨
      s.mSessionProgramsMap.lookup seid.toUInt32 = none) :
      RemoveOutcome seid (.error .noSession s)
  /-- The pipeline is removed. -/
  | removed (entry : SessionPrograms) (index : BoundedMap 10 NextRuleProgIndexKey UInt32)
      (h : s.mSessionProgramsMap.lookup seid.toUInt32 = some entry)
      (hd : s.m_next_rule_prog_index.delete entry.mKey = some index) :
      RemoveOutcome seid (.ok ()
        { s.unregister seid.toUInt32 entry with m_next_rule_prog_index := index })
  /-- The entry is gone, and its key was not in the index. -/
  | halfRemoved (entry : SessionPrograms)
      (h : s.mSessionProgramsMap.lookup seid.toUInt32 = some entry)
      (hd : s.m_next_rule_prog_index.lookup entry.mKey = none) :
      RemoveOutcome seid (.error .mapRemove (s.unregister seid.toUInt32 entry))

theorem removeBPFSession_outcome (seid : UInt64) :
    RemoveOutcome s seid (removeBPFSession seid s) := by
  have hget : (get : M State) s = .ok s s := rfl
  -- Both tables are asked, the first by the SEID and the second by its lower half.
  rw [removeBPFSession, bind_of_ok hget]
  cases hs : s.mSeidToSession.lookup seid with
  | none => exact .unknown (.inl hs)
  | some pSession =>
    dsimp only
    rw [removePipeline, bind_of_ok hget]
    cases h : s.mSessionProgramsMap.lookup seid.toUInt32 with
    | none => exact .unknown (.inr h)
    | some entry =>
      have hmod : (modify fun t => t.unregister seid.toUInt32 entry : M Unit) s =
        .ok () (s.unregister seid.toUInt32 entry) := rfl
      dsimp only
      -- The entry is gone before its key is looked for.
      rw [bind_of_ok hmod]
      rcases removeNextProgRuleIndex_cases entry.mKey (s.unregister seid.toUInt32 entry)
        with ⟨index, hd, hr⟩ | ⟨hd, hr⟩
      · rw [hr]
        exact .removed entry index h hd
      · rw [hr]
        exact .halfRemoved entry h (BoundedMap.delete_eq_none_iff.1 hd)

/-! ## Calls as steps -/

/-- A `createBPFSession` as a step: without a pipeline nothing happens, and otherwise what
`createPipeline` has done stays, whether it returned or threw. -/
theorem step_create_cases (pSession : PfcpSession) :
    ((∀ pipeline, extractPipeline (sortPdrs env pSession) ≠ .ok pipeline) ∧
        step ifs s (.createBPFSession pSession env) = s) ∨
      ∃ key pFar r sessions, extractPipeline (sortPdrs env pSession) = .ok ⟨key, pFar⟩ ∧
        PipelineOutcome ifs env s pSession.seid.toUInt32 key pFar r ∧
        step ifs s (.createBPFSession pSession env) =
          { stateAfter r with mSeidToSession := sessions } := by
  have ho := deploy_outcome ifs env s (sortPdrs env pSession)
  rw [step, Call.result, createBPFSession]
  generalize deploy ifs env (sortPdrs env pSession) s = r at ho ⊢
  cases ho with
  | rejected e h =>
    refine .inl ⟨fun pipeline h' => ?_, rfl⟩
    rw [h] at h'
    cases h'
  | threw key pFar e s' h hp => exact .inr ⟨key, pFar, _, s'.mSeidToSession, h, hp, rfl⟩
  | returned key pFar s' h hp => exact .inr ⟨key, pFar, _, _, h, hp, rfl⟩

/-- A `removeBPFSession` as a step: nothing happens, or an entry is gone. Its key is gone too,
unless it was not there. -/
theorem step_remove_cases (seid : UInt64) :
    step ifs s (.removeBPFSession seid) = s ∨
      ∃ entry index, s.mSessionProgramsMap.lookup seid.toUInt32 = some entry ∧
        (s.m_next_rule_prog_index.delete entry.mKey = some index ∧
            (Call.removeBPFSession seid).Returns ifs s ∨
          index = s.m_next_rule_prog_index) ∧
        step ifs s (.removeBPFSession seid) =
          { s.unregister seid.toUInt32 entry with m_next_rule_prog_index := index } := by
  have ho := removeBPFSession_outcome s seid
  rw [step, Call.Returns, Call.result]
  generalize removeBPFSession seid s = r at ho ⊢
  cases ho with
  | unknown h => exact .inl rfl
  | removed entry index h hd => exact .inr ⟨entry, index, h, .inl ⟨hd, trivial⟩, rfl⟩
  | halfRemoved entry h hd => exact .inr ⟨entry, _, h, .inr rfl, rfl⟩

/-! ## Calls that return -/

/-- The state after a deployment. -/
def State.deploy (s : State) (p : FARProgram) (index : BoundedMap 10 NextRuleProgIndexKey UInt32)
    (slots : SlotArray 10 ℕ) (key : NextRuleProgIndexKey) (pSession : PfcpSession) : State :=
  { (s.publish p index slots).register pSession.seid.toUInt32 ⟨key, s.programs.length⟩ with
    mSeidToSession := s.mSeidToSession.insert pSession.seid pSession }

variable {ifs env s}

/-- A `createBPFSession` that returns has written everything. -/
theorem create_returns {pSession : PfcpSession}
    (h : (Call.createBPFSession pSession env).Returns ifs s) :
    ∃ key pFar index slots p, extractPipeline (sortPdrs env pSession) = .ok ⟨key, pFar⟩ ∧
      IndexWritten env s key index ∧ SlotWritten env s slots ∧ p.mId = s.sIdCounter ∧
      p.loaded = true ∧ p.far = some (farOf pFar) ∧
      p.m_redirect_interfaces = redirectInterfaces ifs ∧
      step ifs s (.createBPFSession pSession env) =
        s.deploy p index slots key (sortPdrs env pSession) := by
  have ho := deploy_outcome ifs env s (sortPdrs env pSession)
  rw [Call.Returns, Call.result, createBPFSession] at h
  rw [step, Call.result, createBPFSession]
  generalize deploy ifs env (sortPdrs env pSession) s = r at ho h ⊢
  cases ho with
  | rejected e h' => exact h.elim
  | threw key pFar e s' h' hp => exact h.elim
  | returned key pFar s' h' hp =>
    cases hp with
    | deployed index slots p hindex hslot hkernel hid hloaded hfar hm =>
      refine ⟨key, pFar, index, slots, p, h', hindex, hslot, hid, hloaded, hfar, hm, ?_⟩
      -- The old entry of the SEID, if there is one, is destroyed on either side.
      rw [State.deploy, stateAfter, State.register]
      cases (s.publish p index slots).mSessionProgramsMap.lookup
        (sortPdrs env pSession).seid.toUInt32
        <;> rfl

/-- A `createBPFSession` that throws has registered nothing. -/
theorem create_throws {pSession : PfcpSession}
    (h : ¬ (Call.createBPFSession pSession env).Returns ifs s) :
    (step ifs s (.createBPFSession pSession env)).mSessionProgramsMap = s.mSessionProgramsMap ∧
      (step ifs s (.createBPFSession pSession env)).mSeidToSession = s.mSeidToSession := by
  have ho := deploy_outcome ifs env s (sortPdrs env pSession)
  rw [Call.Returns, Call.result, createBPFSession] at h
  rw [step, Call.result, createBPFSession]
  generalize deploy ifs env (sortPdrs env pSession) s = r at ho h ⊢
  cases ho with
  | rejected e h' => exact ⟨rfl, rfl⟩
  | threw key pFar e s' h' hp => cases hp <;> exact ⟨rfl, rfl⟩
  | returned key pFar s' h' hp => exact absurd trivial h

/-- A `removeBPFSession` of an SEID that both tables know takes its entry out of the registry,
whether it returns or throws. -/
theorem remove_registered {seid : UInt64} (hs : seid ∈ s.mSeidToSession)
    (hr : seid.toUInt32 ∈ s.mSessionProgramsMap) :
    (step ifs s (.removeBPFSession seid)).mSessionProgramsMap =
        s.mSessionProgramsMap.erase seid.toUInt32 ∧
      (step ifs s (.removeBPFSession seid)).mSeidToSession = s.mSeidToSession := by
  have ho := removeBPFSession_outcome s seid
  rw [step, Call.result]
  generalize removeBPFSession seid s = r at ho ⊢
  cases ho with
  | unknown h =>
    rw [AList.lookup_eq_none, AList.lookup_eq_none] at h
    tauto
  | removed entry index h hd => exact ⟨rfl, rfl⟩
  | halfRemoved entry h hd => exact ⟨rfl, rfl⟩

/-- A `removeBPFSession` of an SEID that the registry does not know throws, and does nothing. -/
theorem remove_unregistered {seid : UInt64} (hr : seid.toUInt32 ∉ s.mSessionProgramsMap) :
    ¬ (Call.removeBPFSession seid).Returns ifs s ∧ step ifs s (.removeBPFSession seid) = s := by
  have ho := removeBPFSession_outcome s seid
  rw [← AList.lookup_eq_none] at hr
  rw [step, Call.Returns, Call.result]
  generalize removeBPFSession seid s = r at ho ⊢
  cases ho with
  | unknown h => exact ⟨id, rfl⟩
  | removed entry index h hd =>
    rw [hr] at h
    cases h
  | halfRemoved entry h hd =>
    rw [hr] at h
    cases h

/-- A removal of an SEID that the session manager does not know does nothing. -/
theorem step_remove_of_unknown {seid : UInt64} (h : seid ∉ s.mSeidToSession) :
    step ifs s (.removeBPFSession seid) = s := by
  rw [← AList.lookup_eq_none] at h
  rw [step, Call.result, removeBPFSession, bind_get, h]
  rfl

/-- When both tables know the SEID and the index its key, `removeBPFSession` returns. -/
theorem remove_returns_of_lookup {seid : UInt64} {entry : SessionPrograms}
    (hs : seid ∈ s.mSeidToSession) (hr : s.mSessionProgramsMap.lookup seid.toUInt32 = some entry)
    (hi : s.m_next_rule_prog_index.lookup entry.mKey ≠ none) :
    (Call.removeBPFSession seid).Returns ifs s := by
  have ho := removeBPFSession_outcome s seid
  rw [Call.Returns, Call.result]
  generalize removeBPFSession seid s = r at ho ⊢
  cases ho with
  | unknown h =>
    rw [AList.lookup_eq_none, hr] at h
    rcases h with h | h
    · exact absurd hs h
    · cases h
  | removed entry' index h hd => trivial
  | halfRemoved entry' h hd =>
    rw [hr] at h
    cases h
    exact absurd hd hi

/-- A `removeBPFSession` that returns has removed an entry and its key. -/
theorem remove_returns {seid : UInt64} (h : (Call.removeBPFSession seid).Returns ifs s) :
    ∃ entry index, s.mSessionProgramsMap.lookup seid.toUInt32 = some entry ∧
      s.m_next_rule_prog_index.delete entry.mKey = some index ∧
      step ifs s (.removeBPFSession seid) =
        { s.unregister seid.toUInt32 entry with m_next_rule_prog_index := index } := by
  have ho := removeBPFSession_outcome s seid
  rw [Call.Returns, Call.result] at h
  rw [step, Call.result]
  generalize removeBPFSession seid s = r at ho h ⊢
  cases ho with
  | unknown h' => exact h.elim
  | removed entry index h' hd => exact ⟨entry, index, h', hd, rfl⟩
  | halfRemoved entry h' hd => exact h.elim

end Calls

/-! ## The fields of the states that calls leave -/

section Fields

variable (s : State) (p : FARProgram) (index : BoundedMap 10 NextRuleProgIndexKey UInt32)
  (slots : SlotArray 10 ℕ) (key : NextRuleProgIndexKey) (pSession : PfcpSession)

@[simp] theorem index_deploy :
    (s.deploy p index slots key pSession).m_next_rule_prog_index = index := by
  rw [State.deploy, State.register]
  cases (s.publish p index slots).mSessionProgramsMap.lookup pSession.seid.toUInt32 <;> rfl

@[simp] theorem slots_deploy : (s.deploy p index slots key pSession).m_next_rule_prog = slots := by
  rw [State.deploy, State.register]
  cases (s.publish p index slots).mSessionProgramsMap.lookup pSession.seid.toUInt32 <;> rfl

/-- The registry after a deployment. -/
theorem lookup_deploy (a : UInt32) :
    (s.deploy p index slots key pSession).mSessionProgramsMap.lookup a =
      if a = pSession.seid.toUInt32 then some ⟨key, s.programs.length⟩
      else s.mSessionProgramsMap.lookup a := by
  rw [State.deploy, State.register]
  dsimp only
  split_ifs with h
  · rw [h, AList.lookup_insert]
  · rw [AList.lookup_insert_ne h]
    rfl

/-- The registry after a removal. -/
theorem lookup_unregister (seid : UInt32) (entry : SessionPrograms) (a : UInt32) :
    (s.unregister seid entry).mSessionProgramsMap.lookup a =
      if a = seid then none else s.mSessionProgramsMap.lookup a := by
  rw [State.unregister]
  dsimp only
  split_ifs with h
  · rw [h, AList.lookup_erase]
  · rw [AList.lookup_erase_ne h]

end Fields

end UpfBpf
