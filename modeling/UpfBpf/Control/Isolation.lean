import UpfBpf.Control.Confinement

/-!
# Sessions side by side

`isolated_of` is what holds of two sessions as long as no SEID of a run shares its lower half with
one of theirs: the calls for one of them leave all that there is of the other, and the other's calls
end as they would without them. The first is `confined_step` of `Control.Confinement`. For the
second, the run is taken beside the one without the calls for the first session; `Alike` relates the
two.

The two runs do not have the same room: the maps of the entry program have ten entries, and a
program id is never given back. `RoomAlike` says where that makes no difference.
-/

namespace UpfBpf

open Effect Owners

/-! ## What a deployment throws -/

section Thrown

variable {ifs : Interfaces} {env : Env} {s t : State} {key : NextRuleProgIndexKey}
  {pFar : PfcpFar} {pSession : PfcpSession}

/-- What `FARProgram::setup` throws. -/
def Env.setupErr (env : Env) : Option Err :=
  if env.setrlimitFails then some .rlimit
  else if env.openFails then some .segfault
  else if env.loadErr ≠ 0 then some (.load env.loadErr)
  else if env.attachErr ≠ 0 then some (.attach env.attachErr)
  else if env.uplinkFails ∨ env.downlinkFails then some .mapUpdate
  else none

theorem thrown_setup (ifs : Interfaces) (env : Env) (id : UInt32) :
    thrown (FARProgram.setup ifs env { mId := id }) = env.setupErr := by
  unfold Env.setupErr FARProgram.setup
  by_cases hl : env.Loads
  · -- Only the egress interfaces are left to fail.
    obtain ⟨h1, h2, h3, h4⟩ := hl
    rw [bind_of_ok (lifeCycle_of_loads ⟨h1, h2, h3, h4⟩ _)]
    simp only [h1, h2, h3, h4, ne_eq, not_true_eq_false, Bool.false_eq_true, if_false]
    rcases updateEgressInterface_cases env.uplinkFails .UPLINK ifs.udpInterfaceIndex
      { mId := id, loaded := true } with ⟨hf, m, -, hu⟩ | ⟨hf, hu⟩
    · rw [bind_of_ok hu]
      rcases updateEgressInterface_cases env.downlinkFails .DOWNLINK ifs.gtpInterfaceIndex
        { mId := id, loaded := true, m_redirect_interfaces := m } with ⟨hf', m', -, hd⟩ | ⟨hf', hd⟩
      · rw [hd, hf, hf']
        rfl
      · rw [hd, if_pos (.inr hf')]
        rfl
    · rw [bind_of_error hu, if_pos (.inl hf)]
      rfl
  · -- The first failure is the one that is thrown.
    unfold lifeCycle lifeCycleOpen lifeCycleLoad lifeCycleAttach
    by_cases h1 : env.setrlimitFails
    · simp only [h1, if_true]
      rfl
    by_cases h2 : env.openFails
    · simp only [h1, h2, if_true]
      rfl
    by_cases h3 : env.loadErr ≠ 0
    · simp only [h1, h2, if_pos h3]
      rfl
    by_cases h4 : env.attachErr ≠ 0
    · simp only [h1, h2, if_neg h3, if_pos h4]
      rfl
    rw [not_not] at h3 h4
    exact absurd ⟨by simpa using h1, by simpa using h2, h3, h4⟩ hl

/-- The maps of the entry program have room for the key in both states, or in neither. -/
structure RoomAlike (s t : State) (key : NextRuleProgIndexKey) : Prop where
  /-- The index knows the key, or is not full. -/
  index : (s.m_next_rule_prog_index.lookup key ≠ none ∨ s.m_next_rule_prog_index.size < 10) ↔
    (t.m_next_rule_prog_index.lookup key ≠ none ∨ t.m_next_rule_prog_index.size < 10)
  /-- The next id is an index of the prog array. -/
  slot : s.sIdCounter.toNat < 10 ↔ t.sIdCounter.toNat < 10

theorem RoomAlike.hasRoom_iff (h : RoomAlike s t key) : HasRoom s key ↔ HasRoom t key :=
  ⟨fun hs => ⟨h.index.1 hs.index, h.slot.1 hs.slot⟩,
    fun ht => ⟨h.index.2 ht.index, h.slot.2 ht.slot⟩⟩

/-- The index is written in both states, or in neither. -/
theorem RoomAlike.indexWritten_iff (h : RoomAlike s t key) :
    (∃ index, IndexWritten env s key index) ↔ ∃ index, IndexWritten env t key index := by
  have hiff : ∀ s : State, (∃ index, IndexWritten env s key index) ↔
      env.SetsUp ∧ env.indexFails = false ∧
        (s.m_next_rule_prog_index.lookup key ≠ none ∨ s.m_next_rule_prog_index.size < 10) := by
    intro s
    rw [← not_le, ← not_and_or, ← BoundedMap.update_eq_none_iff (v := s.sIdCounter),
      ← Ne, Option.ne_none_iff_exists']
    constructor
    · rintro ⟨index, hi⟩
      exact ⟨hi.setsUp, hi.kernel, index, hi.update_eq⟩
    · rintro ⟨hs, hk, index, hu⟩
      exact ⟨index, hs, hk, hu⟩
  rw [hiff, hiff, h.index]

/-- A program that cannot be set up is the reason for what is thrown. -/
theorem thrown_createPipeline_of_not_setsUp (h : ¬ env.SetsUp) (seid : UInt32) :
    thrown (createPipeline ifs env seid key pFar s) = env.setupErr := by
  obtain ⟨e, p, he, -⟩ := setup_of_not_setsUp ifs h s.sIdCounter
  have hbring : bringUp ifs env s =
      .error e (s.publish p s.m_next_rule_prog_index s.m_next_rule_prog) := by
    rw [bringUp, bind_of_ok (newFARProgram_eq s), bind_of_error (onProgram_publish_error he)]
  unfold createPipeline publishIndex
  rw [bind_of_error (bind_of_error hbring), ← thrown_setup ifs env s.sIdCounter, he]
  rfl

/-- With a program that is set up, only a map can refuse. -/
theorem thrown_createPipeline_of_setsUp (h : env.SetsUp) (seid : UInt32) :
    thrown (createPipeline ifs env seid key pFar s) = none ∨
      thrown (createPipeline ifs env seid key pFar s) = some .mapUpdate := by
  by_cases hi : ∃ index, IndexWritten env s key index
  · -- The rest of the updates have no other error.
    obtain ⟨index, hindex⟩ := hi
    have ho := createPipeline_outcome ifs env s seid key pFar
    generalize createPipeline ifs env seid key pFar s = r at ho ⊢
    cases ho with
    | unpublished e p hid hfar hloaded hnot => exact absurd hindex (hnot index)
    | indexed index hindex hnot => exact .inr rfl
    | slotted index slots hindex hslot hnot => exact .inr rfl
    | deployed index slots p hindex hslot hkernel hid hloaded hfar hm => exact .inl rfl
  · -- The index has refused the key.
    right
    rcases updateNextProgRuleIndex_cases env.indexFails key s.sIdCounter
        (s.publish (FARProgram.ready ifs s.sIdCounter) s.m_next_rule_prog_index s.m_next_rule_prog)
      with ⟨index, hk, hu, -⟩ | ⟨-, hu⟩
    · exact absurd ⟨index, h, hk, hu⟩ hi
    · have hpub : publishIndex ifs env key s =
          .error .mapUpdate (s.publish (FARProgram.ready ifs s.sIdCounter)
            s.m_next_rule_prog_index s.m_next_rule_prog) := by
        rw [publishIndex, bind_of_ok (bringUp_of_setsUp s h)]
        exact bind_of_error hu
      rw [createPipeline, bind_of_error hpub]
      rfl

theorem returned_iff_thrown {r : EStateM.Result Err State Unit} : Returned r ↔ thrown r = none := by
  cases r <;> simp [Returned, thrown]

/-- The call deploys a session under a key that there is room for in both states or in neither, if
it deploys one. -/
def Call.RoomAlike (s t : State) : Call → Prop
  | .createBPFSession pSession env => ∀ key pFar,
    extractPipeline (sortPdrs env pSession) = .ok ⟨key, pFar⟩ → UpfBpf.RoomAlike s t key
  | .removeBPFSession _ => True

theorem create_returns_congr (ifs : Interfaces)
    (h : (Call.createBPFSession pSession env).RoomAlike s t) :
    (Call.createBPFSession pSession env).Returns ifs s ↔
      (Call.createBPFSession pSession env).Returns ifs t := by
  rw [create_returns_iff, create_returns_iff]
  exact and_congr_right fun _ => exists_congr fun key => exists_congr fun pFar =>
    and_congr_right fun he => (h key pFar he).hasRoom_iff

/-- A deployment throws the same in two states with room alike. -/
theorem thrown_create_congr (h : (Call.createBPFSession pSession env).RoomAlike s t) :
    thrown ((Call.createBPFSession pSession env).result ifs s) =
      thrown ((Call.createBPFSession pSession env).result ifs t) := by
  have hret := create_returns_congr ifs h
  rw [Call.Returns, Call.Returns, returned_iff_thrown, returned_iff_thrown] at hret
  unfold Call.result createBPFSession deploy at hret ⊢
  dsimp only at hret ⊢
  cases he : extractPipeline (sortPdrs env pSession) with
  | error e => rfl
  | ok pipeline =>
    obtain ⟨key, pFar⟩ := pipeline
    rw [he] at hret
    dsimp only at hret ⊢
    rw [thrown_bind_modify, thrown_bind_modify] at hret ⊢
    by_cases hs : env.SetsUp
    · -- There is one error left, so that what is thrown is told by whether anything is.
      rcases thrown_createPipeline_of_setsUp (s := s) hs _ with h1 | h1
      · rw [h1, hret.1 h1]
      · rcases thrown_createPipeline_of_setsUp (s := t) hs _ with h2 | h2
        · rw [h2, hret.2 h2]
        · rw [h1, h2]
    · rw [thrown_createPipeline_of_not_setsUp hs, thrown_createPipeline_of_not_setsUp hs]

end Thrown

/-! ## What the calls leave of the names -/

section Names

variable {ifs : Interfaces} {env : Env} {s : State} {pSession : PfcpSession} {seid : UInt64}
  {k : NextRuleProgIndexKey}

/-- The keys of the index after a removal. -/
theorem index_remove_ne_none_iff (h : seid ∈ s.mSeidToSession) :
    (step ifs s (.removeBPFSession seid)).m_next_rule_prog_index.lookup k ≠ none ↔
      s.m_next_rule_prog_index.lookup k ≠ none ∧
        (s.mSessionProgramsMap.lookup seid.toUInt32).map (·.mKey) ≠ some k := by
  by_cases hr : (Call.removeBPFSession seid).RemovesIndex ifs s k
  · rw [lookup_step_of_removesIndex hr]
    obtain ⟨-, entry, hentry, rfl⟩ := hr
    exact iff_of_false (by simp) fun hk => hk.2 (by rw [hentry]; rfl)
  · rw [lookup_step_eq id hr]
    refine ⟨fun hk => ⟨hk, fun he => hr ?_⟩, fun hk => hk.1⟩
    -- A key of the index that is the entry's is removed.
    obtain ⟨entry, hentry, rfl⟩ := Option.map_eq_some_iff.1 he
    exact ⟨remove_returns_of_lookup h hentry hk, entry, hentry, rfl⟩

/-- What a removal throws. -/
theorem thrown_remove :
    thrown ((Call.removeBPFSession seid).result ifs s) =
      if seid ∈ s.mSeidToSession then
        match (s.mSessionProgramsMap.lookup seid.toUInt32).map (·.mKey) with
        | none => some .noSession
        | some k => if s.m_next_rule_prog_index.lookup k = none then some .mapRemove else none
      else some .noSession := by
  have ho := removeBPFSession_outcome s seid
  rw [Call.result]
  by_cases hs : seid ∈ s.mSeidToSession
  · rw [if_pos hs]
    rw [← not_not (a := seid ∈ _), ← AList.lookup_eq_none] at hs
    generalize removeBPFSession seid s = r at ho ⊢
    cases ho with
    | unknown h =>
      rw [h.resolve_left hs]
      rfl
    | removed entry index h hd =>
      -- The key could be deleted, so the index had it.
      have hne : s.m_next_rule_prog_index.lookup entry.mKey ≠ none := by
        rw [Ne, ← BoundedMap.delete_eq_none_iff, hd]
        simp
      rw [h]
      exact (if_neg hne).symm
    | halfRemoved entry h hd =>
      rw [h]
      exact (if_pos hd).symm
  · rw [if_neg hs, removeBPFSession, bind_get, AList.lookup_eq_none.2 hs]
    rfl

end Names

/-! ## Two runs -/

/-- Two states that differ in what there is of a session, and in the ids and the places of programs:
the others have their SEIDs, their keys, and their session programs in both. -/
structure Alike (seid : UInt64) (key : NextRuleProgIndexKey) (s t : Component) : Prop where
  sessions : ∀ x, x ≠ seid → (x ∈ s.bpf.mSeidToSession ↔ x ∈ t.bpf.mSeidToSession)
  registry : ∀ y, y ≠ seid.toUInt32 → (s.bpf.mSessionProgramsMap.lookup y).map (·.mKey) =
    (t.bpf.mSessionProgramsMap.lookup y).map (·.mKey)
  index : ∀ k, k ≠ key → (s.bpf.m_next_rule_prog_index.lookup k ≠ none ↔
    t.bpf.m_next_rule_prog_index.lookup k ≠ none)
  sessionRegistry : ∀ y, y ≠ seid.toUInt32 →
    (y ∈ s.mSessionProgramMap ↔ y ∈ t.mSessionProgramMap)

/-- There is room alike for a deployment. -/
def ComponentCall.RoomAlike (s t : Component) : ComponentCall → Prop
  | .bpf c => c.RoomAlike s.bpf t.bpf
  | .createSession _ _ => True
  | .removeSession _ => True

section Alike

variable {ifs : Interfaces} {s t : Component} {seid : UInt64} {key : NextRuleProgIndexKey}

theorem alike_refl : Alike seid key s s where
  sessions _ _ := Iff.rfl
  registry _ _ := rfl
  index _ _ := Iff.rfl
  sessionRegistry _ _ := Iff.rfl

/-- What is confined to the session keeps the rest alike. -/
theorem Alike.of_confined {s' : Component} (h : Alike seid key s t) (hc : Confined seid key s s') :
    Alike seid key s' t where
  sessions x hx := by
    rw [← h.sessions x hx, ← not_iff_not, ← AList.lookup_eq_none, ← AList.lookup_eq_none,
      hc.sessions x hx]
  registry y hy := by rw [hc.registry y hy, h.registry y hy]
  index k hk := by rw [hc.index k hk, h.index k hk]
  sessionRegistry y hy := by
    rw [← h.sessionRegistry y hy, ← not_iff_not, ← AList.lookup_eq_none, ← AList.lookup_eq_none,
      hc.sessionRegistry y hy]

/-- A deployment of another session. -/
theorem Alike.create {pSession : PfcpSession} {env : Env} (h : Alike seid key s t)
    (hroom : (Call.createBPFSession pSession env).RoomAlike s.bpf t.bpf) :
    Alike seid key (s.step ifs (.bpf (.createBPFSession pSession env)))
      (t.step ifs (.bpf (.createBPFSession pSession env))) := by
  have hret := create_returns_congr ifs hroom
  -- A deployment that throws may have written the index, so this does not go by `hret`.
  have hindex : ∀ k, k ≠ key →
      ((step ifs s.bpf (.createBPFSession pSession env)).m_next_rule_prog_index.lookup k ≠ none ↔
        (step ifs t.bpf (.createBPFSession pSession env)).m_next_rule_prog_index.lookup k ≠
          none) := by
    intro k hk
    rw [index_create_ne_none_iff, index_create_ne_none_iff, h.index k hk, writesIndex_create_iff,
      writesIndex_create_iff]
    refine or_congr_left (exists_congr fun pFar => ?_)
    rw [exists_and_left, exists_and_left]
    exact and_congr_right fun he => (hroom k pFar he).indexWritten_iff
  rw [s.step_bpf, t.step_bpf]
  by_cases hs : (Call.createBPFSession pSession env).Returns ifs s.bpf
  · obtain ⟨key₁, pFar₁, index₁, slots₁, p₁, he₁, -, -, -, -, -, -, e₁⟩ := create_returns hs
    obtain ⟨key₂, pFar₂, index₂, slots₂, p₂, he₂, -, -, -, -, -, -, e₂⟩ :=
      create_returns (hret.1 hs)
    -- Both deploy the same key, with ids and programs of their own.
    rw [he₁] at he₂
    cases he₂
    refine ⟨fun x hx => ?_, fun y hy => ?_, hindex, h.sessionRegistry⟩
    · dsimp only
      rw [e₁, e₂]
      refine (AList.mem_insert _).trans (Iff.trans ?_ (AList.mem_insert _).symm)
      exact or_congr_right (h.sessions x hx)
    · dsimp only
      rw [e₁, e₂, lookup_deploy, lookup_deploy]
      split_ifs
      · rfl
      · exact h.registry y hy
  · obtain ⟨hr₁, hs₁⟩ := create_throws hs
    obtain ⟨hr₂, hs₂⟩ := create_throws fun ht => hs (hret.2 ht)
    refine ⟨fun x hx => ?_, fun y hy => ?_, hindex, h.sessionRegistry⟩
    · dsimp only
      rw [hs₁, hs₂]
      exact h.sessions x hx
    · dsimp only
      rw [hr₁, hr₂]
      exact h.registry y hy

/-- A removal of another session. -/
theorem Alike.remove {x : UInt64} (h : Alike seid key s t) (hx : x.toUInt32 ≠ seid.toUInt32) :
    Alike seid key (s.step ifs (.bpf (.removeBPFSession x)))
      (t.step ifs (.bpf (.removeBPFSession x))) := by
  have hmem := h.sessions x fun e => hx (by rw [e])
  rw [s.step_bpf, t.step_bpf]
  by_cases hs : x ∈ s.bpf.mSeidToSession
  · refine ⟨fun x' hx' => ?_, fun y hy => ?_, fun k hk => ?_, h.sessionRegistry⟩
    · dsimp only
      rw [sessions_remove, sessions_remove]
      exact h.sessions x' hx'
    · dsimp only
      rw [registry_remove hs, registry_remove (hmem.1 hs)]
      split_ifs
      · rfl
      · exact h.registry y hy
    · dsimp only
      rw [index_remove_ne_none_iff hs, index_remove_ne_none_iff (hmem.1 hs), h.index k hk,
        h.registry _ hx]
  · rw [step_remove_of_unknown hs, step_remove_of_unknown fun ht => hs (hmem.2 ht)]
    exact ⟨h.sessions, h.registry, h.index, h.sessionRegistry⟩

/-- A session program for another session. -/
theorem Alike.createSession {x : UInt64} (h : Alike seid key s t)
    (hx : x.toUInt32 ≠ seid.toUInt32) (env : Env) :
    Alike seid key (s.step ifs (.createSession x env)) (t.step ifs (.createSession x env)) := by
  have hmem := h.sessionRegistry _ hx
  by_cases hs : x.toUInt32 ∈ s.mSessionProgramMap
  · rw [s.step_createSession_of_mem env hs, t.step_createSession_of_mem env (hmem.1 hs)]
    exact h
  · rw [s.step_createSession_of_notMem env hs,
      t.step_createSession_of_notMem env fun ht => hs (hmem.2 ht)]
    cases SessionProgram.bringUp ifs env {} with
    | ok a p =>
      refine ⟨h.sessions, h.registry, h.index, fun y hy => ?_⟩
      dsimp only
      rw [AList.mem_insert, AList.mem_insert, h.sessionRegistry y hy]
    | error e p => exact ⟨h.sessions, h.registry, h.index, h.sessionRegistry⟩

/-- Another session has a session program in both states, or in neither. -/
theorem Alike.findSessionProgram_cases (h : Alike seid key s t) {y : UInt32}
    (hy : y ≠ seid.toUInt32) :
    findSessionProgram s y = none ∧ findSessionProgram t y = none ∨
      ∃ ref ref', findSessionProgram s y = some ref ∧ findSessionProgram t y = some ref' := by
  have hmem := h.sessionRegistry y hy
  rw [← AList.lookup_isSome, ← AList.lookup_isSome] at hmem
  unfold findSessionProgram
  cases hs : s.mSessionProgramMap.lookup y with
  | none =>
    rw [hs] at hmem
    exact .inl ⟨rfl, by simpa using hmem⟩
  | some ref =>
    rw [hs] at hmem
    obtain ⟨ref', ht⟩ := Option.isSome_iff_exists.1 (hmem.1 rfl)
    exact .inr ⟨ref, ref', rfl, ht⟩

theorem Alike.removeSession {x : UInt64} (h : Alike seid key s t)
    (hx : x.toUInt32 ≠ seid.toUInt32) :
    Alike seid key (s.step ifs (.removeSession x)) (t.step ifs (.removeSession x)) := by
  rcases h.findSessionProgram_cases hx with ⟨hs, ht⟩ | ⟨ref, ref', hs, ht⟩
  · rw [s.step_removeSession_of_none hs, t.step_removeSession_of_none ht]
    exact h
  · rw [s.step_removeSession_of_some hs, t.step_removeSession_of_some ht]
    refine ⟨h.sessions, h.registry, h.index, fun y hy => ?_⟩
    dsimp only
    rw [AList.mem_erase, AList.mem_erase, h.sessionRegistry y hy]

/-- A call for an SEID with another lower half, where there is room alike. -/
theorem Alike.step {c : ComponentCall} (h : Alike seid key s t)
    (hc : c.seid.toUInt32 ≠ seid.toUInt32) (hroom : c.RoomAlike s t) :
    Alike seid key (s.step ifs c) (t.step ifs c) := by
  cases c with
  | bpf c =>
    cases c with
    | createBPFSession pSession env => exact h.create hroom
    | removeBPFSession x => exact h.remove hc
  | createSession x env => exact h.createSession hc env
  | removeSession x => exact h.removeSession hc

/-- A removal of another session ends alike, unless it has the key of the session. -/
theorem Alike.thrown_remove {x : UInt64} {key' : NextRuleProgIndexKey} (h : Alike seid key s t)
    (hx : x.toUInt32 ≠ seid.toUInt32) (he : EntryKeyed x key' s) (hne : key' ≠ key) :
    thrown ((Call.removeBPFSession x).result ifs s.bpf) =
      thrown ((Call.removeBPFSession x).result ifs t.bpf) := by
  have hmem := h.sessions x fun e => hx (by rw [e])
  rw [UpfBpf.thrown_remove, UpfBpf.thrown_remove, ← h.registry _ hx]
  by_cases hs : x ∈ s.bpf.mSeidToSession
  · rw [if_pos hs, if_pos (hmem.1 hs)]
    cases hk : (s.bpf.mSessionProgramsMap.lookup x.toUInt32).map (·.mKey) with
    | none => rfl
    | some k =>
      obtain ⟨entry, hentry, rfl⟩ := Option.map_eq_some_iff.1 hk
      -- The entry has a key that the two indexes agree on.
      have hindex := h.index entry.mKey (by rw [he entry hentry]; exact hne)
      dsimp only
      rw [not_iff_not] at hindex
      simp only [hindex]
  · rw [if_neg hs, if_neg fun ht => hs (hmem.2 ht)]

/-- So does every call for it. -/
theorem Alike.thrown_eq {c : ComponentCall} {key' : NextRuleProgIndexKey} (h : Alike seid key s t)
    (hc : c.seid.toUInt32 ≠ seid.toUInt32) (hroom : c.RoomAlike s t)
    (he : EntryKeyed c.seid key' s) (hne : key' ≠ key) :
    thrown (c.result ifs s) = thrown (c.result ifs t) := by
  cases c with
  | bpf c =>
    -- The component throws what the call does.
    have hcall : ∀ u : Component, thrown (onBpf ifs c u) =
        (thrown (c.result ifs u.bpf)).map ComponentErr.call := by
      intro u
      unfold onBpf
      cases c.result ifs u.bpf <;> rfl
    show thrown (onBpf ifs c s) = thrown (onBpf ifs c t)
    rw [hcall, hcall]
    refine congrArg _ ?_
    cases c with
    | createBPFSession pSession env => exact thrown_create_congr hroom
    | removeBPFSession x => exact h.thrown_remove hc he hne
  | createSession x env =>
    have hmem : x.toUInt32 ∈ s.mSessionProgramMap ↔ x.toUInt32 ∈ t.mSessionProgramMap :=
      h.sessionRegistry _ hc
    show thrown (UpfBpf.createSession ifs env x s) = thrown (UpfBpf.createSession ifs env x t)
    unfold UpfBpf.createSession
    by_cases hs : x.toUInt32 ∈ s.mSessionProgramMap
    · rw [if_pos hs, if_pos (hmem.1 hs)]
      rfl
    · rw [if_neg hs, if_neg fun ht => hs (hmem.2 ht)]
      cases SessionProgram.bringUp ifs env {} <;> rfl
  | removeSession x =>
    show thrown (UpfBpf.removeSession x s) = thrown (UpfBpf.removeSession x t)
    unfold UpfBpf.removeSession
    rcases h.findSessionProgram_cases (y := x.toUInt32) hc with ⟨hs, ht⟩ | ⟨ref, ref', hs, ht⟩
    · rw [hs, ht]
      rfl
    · rw [hs, ht]
      rfl

end Alike

/-! ## Isolation -/

/-- All that there is of a session is the same in the second state. The prog array is looked at
unless the next id is the one that the session has: ids are 32 bits and come round. -/
structure Untouched (seid : UInt64) (key : NextRuleProgIndexKey) (s s' : Component) : Prop where
  /-- `findSessionProgram`. -/
  sessionProgram : findSessionProgram s' seid.toUInt32 = findSessionProgram s seid.toUInt32
  /-- `findSessionPrograms`. -/
  programs : findSessionPrograms s'.bpf seid.toUInt32 = findSessionPrograms s.bpf seid.toUInt32
  /-- The entry of the datapath. -/
  index : s'.bpf.m_next_rule_prog_index.lookup key = s.bpf.m_next_rule_prog_index.lookup key
  /-- The program that it leads to. -/
  tailCall : s.bpf.m_next_rule_prog_index.lookup key ≠ some s.bpf.sIdCounter →
    tailCallNextProg s'.bpf key = tailCallNextProg s.bpf key
  /-- The FAR program. -/
  farProgram : ∀ entry, findSessionPrograms s.bpf seid.toUInt32 = some entry →
    s'.bpf.programs[entry.mpFARProgram]? = s.bpf.programs[entry.mpFARProgram]?
  /-- The session program. -/
  loadedProgram : ∀ ref, findSessionProgram s seid.toUInt32 = some ref →
    s'.sessionPrograms[ref]? = s.sessionPrograms[ref]?

/-- The calls of a run but those for the SEID. -/
def without (seid : UInt64) (calls : List ComponentCall) : List ComponentCall :=
  calls.filter fun c => c.seid ≠ seid

/-- Every call of the run that is not for the SEID finds room where it does without those that
are. -/
def RoomWithout (ifs : LinkedInterfaces) (init : ProgramState) (seid : UInt64)
    (calls : List ComponentCall) : Prop :=
  ∀ pre c post, calls = pre ++ c :: post → c.seid ≠ seid →
    c.RoomAlike (Component.run ifs init pre) (Component.run ifs init (without seid pre))

/-- The session of the SEID `b` and the key does not notice the session of the SEID `a`: calls for
`a` leave all of it, and those for `b` end as they do without `a`. -/
structure Isolated (ifs : LinkedInterfaces) (init : ProgramState) (calls : List ComponentCall)
    (a b : UInt64) (key : NextRuleProgIndexKey) : Prop where
  untouched : ∀ pre c post, calls = pre ++ c :: post → c.seid = a →
    Untouched b key (Component.run ifs init pre) (Component.run ifs init (pre ++ [c]))
  unaffected : ∀ pre c post, calls = pre ++ c :: post → c.seid = b →
    RoomWithout ifs init a (pre ++ [c]) →
      thrown (c.result ifs (Component.run ifs init pre)) =
        thrown (c.result ifs (Component.run ifs init (without a pre)))

section Isolation

variable {ifs : LinkedInterfaces} {init : ProgramState} {calls : List ComponentCall} {a b : UInt64}
  {ka kb : NextRuleProgIndexKey} {s t : Component}

/-- What holds of a session in the states of a run. -/
structure Standalone (seid : UInt64) (key : NextRuleProgIndexKey) (s : Component) : Prop where
  far : Proper (farTable s)
  session : Proper (sessionTable s)
  entry : EntryKeyed seid key s

theorem standalone_setup : Standalone a ka (Component.setup ifs init) where
  far := proper_empty
  session := proper_empty
  entry _ h := by cases h

theorem Standalone.step {c : ComponentCall} (h : Standalone a ka s) (ha : c.TellsApart a)
    (hk : c.Keyed a ka) : Standalone a ka (s.step ifs c) where
  far := by
    rw [farTable_step]
    exact h.far.step _
  session := by
    rw [sessionTable_step]
    exact h.session.step _
  entry := entryKeyed_step h.entry ha hk

theorem standalone_run (ifs : LinkedInterfaces) (init : ProgramState)
    (ha : ∀ c ∈ calls, c.TellsApart a) (hk : ∀ c ∈ calls, c.Keyed a ka) :
    Standalone a ka (Component.run ifs init calls) := by
  -- The conditions are on the calls alone, whatever the states.
  have hal : Run.Along (Component.step ifs) (fun _ c => c.TellsApart a ∧ c.Keyed a ka)
      (Component.setup ifs init) calls := by
    rw [Run.along_iff_split]
    rintro pre c post rfl
    have hc : c ∈ pre ++ c :: post := by simp
    exact ⟨ha c hc, hk c hc⟩
  exact hal.invariant standalone_setup fun s c hs hc => hs.step hc.1 hc.2

/-- What is confined to `a` leaves `b`. -/
theorem Confined.untouched {s' : Component} (h : Confined a ka s s')
    (hne : a.toUInt32 ≠ b.toUInt32) (hkey : ka ≠ kb) : Untouched b kb s s' where
  sessionProgram := h.sessionRegistry _ hne.symm
  programs := h.registry _ hne.symm
  index := h.index kb hkey.symm
  tailCall hid := by
    unfold tailCallNextProg
    rw [h.index kb hkey.symm]
    cases hk : s.bpf.m_next_rule_prog_index.lookup kb with
    | none => rfl
    | some i =>
      -- The slot of its id is written only when the next id is this one.
      refine h.slots i ?_
      rintro rfl
      exact hid hk
  farProgram entry he := h.programs _ entry hne.symm he
  loadedProgram ref hr := h.sessionPrograms _ ref hne.symm hr

/-- A run beside the one without `a`. -/
theorem alike_run (ha : ∀ c ∈ calls, c.TellsApart a) (hk : ∀ c ∈ calls, c.Keyed a ka)
    (hroom : RoomWithout ifs init a calls) :
    Alike a ka (Component.run ifs init calls) (Component.run ifs init (without a calls)) := by
  refine (Run.rel_foldl_filter (R := fun s t => Standalone a ka s ∧ Alike a ka s t)
    (C := fun s t c => (c.TellsApart a ∧ c.Keyed a ka) ∧ (c.seid ≠ a → c.RoomAlike s t))
    ⟨standalone_setup, alike_refl⟩ ?_ ?_ ?_).2
  · rintro pre c post rfl
    have hc : c ∈ pre ++ c :: post := by simp
    exact ⟨⟨ha c hc, hk c hc⟩, hroom pre c post rfl⟩
  · -- A call for `a`.
    rintro s t c ⟨hs, hst⟩ ⟨⟨hca, hck⟩, -⟩ hdrop
    have hseid : c.seid = a := by simpa using hdrop
    exact ⟨hs.step hca hck, hst.of_confined (confined_step hs.far hs.session hs.entry hseid hck)⟩
  · -- A call for another session.
    rintro s t c ⟨hs, hst⟩ ⟨⟨hca, hck⟩, hcr⟩ hkeep
    have hseid : c.seid ≠ a := by simpa using hkeep
    exact ⟨hs.step hca hck, hst.step (fun e => hseid (hca e)) (hcr hseid)⟩

theorem isolated_of (hkey : ka ≠ kb) (hka : ∀ c ∈ calls, c.Keyed a ka)
    (hkb : ∀ c ∈ calls, c.Keyed b kb) (hne : a.toUInt32 ≠ b.toUInt32)
    (ha : ∀ c ∈ calls, c.TellsApart a) (hb : ∀ c ∈ calls, c.TellsApart b) :
    Isolated ifs init calls a b kb where
  untouched := by
    rintro pre c post rfl hc
    have hs : Standalone a ka (Component.run ifs init pre) := standalone_run ifs init
      (fun c hc => ha c (by simp [hc])) fun c hc => hka c (by simp [hc])
    rw [Component.run_append]
    exact (confined_step hs.far hs.session hs.entry hc (hka c (by simp))).untouched hne hkey
  unaffected := by
    rintro pre c post rfl hc hroom
    have hs : Standalone b kb (Component.run ifs init pre) := standalone_run ifs init
      (fun c hc => hb c (by simp [hc])) fun c hc => hkb c (by simp [hc])
    have hal : Alike a ka (Component.run ifs init pre)
        (Component.run ifs init (without a pre)) := alike_run
      (fun c hc => ha c (by simp [hc])) (fun c hc => hka c (by simp [hc]))
      fun pre' c' post' e => hroom pre' c' (post' ++ [c]) (by rw [e]; simp)
    have he : EntryKeyed c.seid kb (Component.run ifs init pre) := by
      rw [hc]
      exact hs.entry
    refine hal.thrown_eq ?_ ?_ he hkey.symm
    · rw [hc]
      exact hne.symm
    · -- The call is not for `a`, so it finds room alike.
      refine hroom pre c [] rfl ?_
      rintro rfl
      exact hne (by rw [hc])

/-- In every run that deploys the two sessions under different keys, and has no third SEID with the
lower half of one of theirs, neither of them notices the other. -/
def Independent (a b : UInt64) : Prop :=
  ∀ (ifs : LinkedInterfaces) (init : ProgramState) (calls : List ComponentCall)
    (ka kb : NextRuleProgIndexKey), ka ≠ kb →
    (∀ c ∈ calls, c.Keyed a ka) → (∀ c ∈ calls, c.Keyed b kb) →
    (∀ c ∈ calls, c.seid = a ∨ c.seid = b ∨
      c.seid.toUInt32 ≠ a.toUInt32 ∧ c.seid.toUInt32 ≠ b.toUInt32) →
    Isolated ifs init calls a b kb ∧ Isolated ifs init calls b a ka

end Isolation

/-! ## SEIDs that are one to the registries -/

section Collision

variable {a b : UInt64}

/-- The key of the sample session. -/
def sampleKey (teid : UInt32) : NextRuleProgIndexKey := ⟨teid, interfaceValueAccess, 0x0a0a0a0a⟩

theorem keyed_sampleCreate (seid : UInt64) (teid : UInt32) :
    (ComponentCall.bpf (sampleCreate seid teid)).Keyed seid (sampleKey teid) := by
  intro _ key pFar he
  cases he
  rfl

theorem keyed_sampleCreate_of_ne (h : b ≠ a) (teid : UInt32) (key : NextRuleProgIndexKey) :
    (ComponentCall.bpf (sampleCreate b teid)).Keyed a key :=
  fun hseid => absurd hseid h

/-- The first deployments of a run are in the registry. -/
theorem registry_sampleCreate (ifs : Interfaces) (calls : List Call)
    (hl : (run ifs calls).programs.length < 9) (seid : UInt64) (teid : UInt32) :
    findSessionPrograms (run ifs (calls ++ [sampleCreate seid teid])) seid.toUInt32 =
      some ⟨sampleKey teid, (run ifs calls).programs.length⟩ := by
  have hempty : IndexFits {} := Nat.le_refl 0
  have hfits : IndexFits (run ifs calls) :=
    Run.invariant hempty (fun s c hs => indexFits_step ifs hs c) calls
  have hret : (sampleCreate seid teid).Returns ifs (run ifs calls) :=
    create_returns_of_lt (numbered_run ifs calls) hfits hl
      ⟨⟨⟨rfl, rfl, rfl, rfl⟩, rfl, rfl⟩, rfl, rfl, rfl⟩ rfl
  obtain ⟨key, pFar, index, slots, p, he, -, -, -, -, -, -, hstep⟩ := create_returns hret
  cases he
  rw [run_append]
  show (step ifs (run ifs calls) (sampleCreate seid teid)).mSessionProgramsMap.lookup _ = _
  rw [sampleCreate, hstep, lookup_deploy]
  exact if_pos rfl

/-- A run of the newer generation. -/
theorem bpf_run_map (ifs : LinkedInterfaces) (init : ProgramState) (calls : List Call) :
    (Component.run ifs init (calls.map .bpf)).bpf = run ifs calls := by
  have hfold : ∀ s : Component, ((calls.map .bpf).foldl (Component.step ifs) s).bpf =
      calls.foldl (step ifs) s.bpf := by
    induction calls with
    | nil => exact fun s => rfl
    | cons c calls ih =>
      intro s
      rw [List.map_cons, List.foldl_cons, List.foldl_cons, ih, s.step_bpf]
  exact hfold _

/-- The session of `b`, and then that of `a`. -/
def collision (a b : UInt64) : List ComponentCall :=
  [.bpf (sampleCreate b 100), .bpf (sampleCreate a 200)]

/-- Each of them has its key. -/
theorem keyed_collision (hab : a ≠ b) :
    (∀ c ∈ collision a b, c.Keyed a (sampleKey 200)) ∧
      ∀ c ∈ collision a b, c.Keyed b (sampleKey 100) := by
  unfold collision
  simp only [List.mem_cons, List.not_mem_nil, or_false, forall_eq_or_imp, forall_eq]
  exact ⟨⟨keyed_sampleCreate_of_ne hab.symm 100 _, keyed_sampleCreate a 200⟩,
    keyed_sampleCreate b 100, keyed_sampleCreate_of_ne hab 200 _⟩

/-- With the lower half of `b`, the session of `a` takes its place in the registry. -/
theorem not_isolated_collision (ifs : LinkedInterfaces) (init : ProgramState)
    (h : a.toUInt32 = b.toUInt32) :
    ¬ Isolated ifs init (collision a b) a b (sampleKey 100) := by
  intro hiso
  have hu := (hiso.untouched [.bpf (sampleCreate b 100)] (.bpf (sampleCreate a 200)) [] rfl
    rfl).programs
  have h1 : (run ifs [sampleCreate b 100]).programs.length = 1 := by
    have he : extractPipeline (sortPdrs sampleEnv (sampleSession b 100)) =
      .ok ⟨sampleKey 100, sampleFar⟩ := rfl
    exact length_step_create ifs {} he
  have h0 : (run ifs []).programs.length = 0 := rfl
  have hb := registry_sampleCreate ifs [] (by rw [h0]; decide) b 100
  have ha := registry_sampleCreate ifs [sampleCreate b 100] (by rw [h1]; decide) a 200
  rw [← bpf_run_map ifs init, h, h1] at ha
  rw [← bpf_run_map ifs init, h0] at hb
  -- The one entry would be for the first program and for the second.
  have hsame : some (⟨sampleKey 200, 1⟩ : SessionPrograms) = some ⟨sampleKey 100, 0⟩ :=
    calc some ⟨sampleKey 200, 1⟩
        = findSessionPrograms (Component.run ifs init (collision a b)).bpf b.toUInt32 := ha.symm
      _ = findSessionPrograms (Component.run ifs init [.bpf (sampleCreate b 100)]).bpf
            b.toUInt32 := hu
      _ = some ⟨sampleKey 100, 0⟩ := hb
  exact absurd hsame (by decide)

/-- Sessions whose SEIDs differ in their lower halves are independent, and no others are. -/
theorem independent_iff (hab : a ≠ b) : Independent a b ↔ a.toUInt32 ≠ b.toUInt32 := by
  constructor
  · intro h heq
    have hkeys : sampleKey 200 ≠ sampleKey 100 := by decide
    obtain ⟨hka, hkb⟩ := keyed_collision hab
    have hothers : ∀ c ∈ collision a b, c.seid = a ∨ c.seid = b ∨
        c.seid.toUInt32 ≠ a.toUInt32 ∧ c.seid.toUInt32 ≠ b.toUInt32 := by
      unfold collision
      simp only [List.mem_cons, List.not_mem_nil, or_false, forall_eq_or_imp, forall_eq]
      exact ⟨.inr (.inl rfl), .inl rfl⟩
    have hiso := h sampleInterfaces .IDLE (collision a b) _ _ hkeys hka hkb hothers
    exact not_isolated_collision sampleInterfaces .IDLE heq hiso.1
  · intro hne ifs init calls ka kb hkey hka hkb hothers
    -- The calls tell both SEIDs apart from all others of the run.
    have ha : ∀ c ∈ calls, c.TellsApart a := by
      intro c hc heq
      rcases hothers c hc with hca | hcb | ⟨hca, -⟩
      · exact hca
      · rw [hcb] at heq
        exact absurd heq.symm hne
      · exact absurd heq hca
    have hb : ∀ c ∈ calls, c.TellsApart b := by
      intro c hc heq
      rcases hothers c hc with hca | hcb | ⟨-, hcb⟩
      · rw [hca] at heq
        exact absurd heq hne
      · exact hcb
      · exact absurd heq hcb
    exact ⟨isolated_of hkey hka hkb hne ha hb, isolated_of hkey.symm hkb hka hne.symm hb ha⟩

/-- The SEIDs 1 and 2. -/
theorem independent_iff_sample : (1 : UInt64) ≠ 2 ∧ Independent 1 2 :=
  ⟨by decide, (independent_iff (by decide)).2 (by decide)⟩

/-- The SEIDs 1 and 2^32 + 1, whose sessions have different keys. -/
theorem not_isolated_of_wide_seid :
    (0x100000001 : UInt64) ≠ 1 ∧ sampleKey 200 ≠ sampleKey 100 ∧
      (∀ c ∈ collision 0x100000001 1, c.Keyed 0x100000001 (sampleKey 200)) ∧
      (∀ c ∈ collision 0x100000001 1, c.Keyed 1 (sampleKey 100)) ∧
      ¬ Isolated sampleInterfaces .IDLE (collision 0x100000001 1) 0x100000001 1
        (sampleKey 100) := by
  have hab : (0x100000001 : UInt64) ≠ 1 := by decide
  obtain ⟨hka, hkb⟩ := keyed_collision hab
  exact ⟨hab, by decide, hka, hkb, not_isolated_collision _ _ (by decide)⟩

end Collision

end UpfBpf
