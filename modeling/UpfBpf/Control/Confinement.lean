import UpfBpf.Control.Release

/-!
# What a call writes

`SessionManager` takes an SEID as 64 bits and `SessionProgramManager` as 32, so that two SEIDs with
the same lower half are one to the registries. A call reads and writes under three names: the SEID,
its lower half, and the key of its session. `confined_step` says that it writes under no other, as
long as the lower half is not shared: what the registry has for it is then of the same session, and
has the session's key (`entryKeyed_step`).
-/

namespace UpfBpf

open Effect Owners

/-! ## Calls and keys -/

/-- The SEID that a call is about. -/
def ComponentCall.seid : ComponentCall → UInt64
  | .bpf c => c.seid
  | .createSession seid _ => seid
  | .removeSession seid => seid

/-- The call is about the SEID, or about one with another lower half. -/
def ComponentCall.TellsApart (seid : UInt64) (c : ComponentCall) : Prop :=
  c.seid.toUInt32 = seid.toUInt32 → c.seid = seid

/-- If the call deploys the session of the SEID, then under the key. -/
def ComponentCall.Keyed (seid : UInt64) (key : NextRuleProgIndexKey) : ComponentCall → Prop
  | .bpf (.createBPFSession pSession env) => pSession.seid = seid → ∀ key' pFar,
    extractPipeline (sortPdrs env pSession) = .ok ⟨key', pFar⟩ → key' = key
  | .bpf (.removeBPFSession _) => True
  | .createSession _ _ => True
  | .removeSession _ => True

/-- What the registry has for the SEID was deployed under the key. -/
def EntryKeyed (seid : UInt64) (key : NextRuleProgIndexKey) (s : Component) : Prop :=
  ∀ entry, s.bpf.mSessionProgramsMap.lookup seid.toUInt32 = some entry → entry.mKey = key

section Registry

variable {ifs : Interfaces} {s : State} {c : Call}

/-- What it has for the call's own is what it had, or it was registered by the call. -/
theorem registry_step_cases {entry : SessionPrograms}
    (h : (step ifs s c).mSessionProgramsMap.lookup c.seid.toUInt32 = some entry) :
    s.mSessionProgramsMap.lookup c.seid.toUInt32 = some entry ∨
      ∃ pSession env pFar, c = .createBPFSession pSession env ∧
        extractPipeline (sortPdrs env pSession) = .ok ⟨entry.mKey, pFar⟩ := by
  cases c with
  | createBPFSession pSession env =>
    by_cases hret : (Call.createBPFSession pSession env).Returns ifs s
    · obtain ⟨key, pFar, index, slots, p, he, -, -, -, -, -, -, e⟩ := create_returns hret
      -- The entry is the new one, under the key that was extracted.
      rw [e, lookup_deploy] at h
      have hentry : some ⟨key, s.programs.length⟩ = some entry := (if_pos rfl).symm.trans h
      cases hentry
      exact .inr ⟨pSession, env, pFar, rfl, he⟩
    · rw [(create_throws hret).1] at h
      exact .inl h
  | removeBPFSession seid' =>
    rcases step_remove_cases ifs s seid' with e | ⟨entry', index, -, -, e⟩
    · rw [e] at h
      exact .inl h
    · rw [e] at h
      have hnone := (lookup_unregister s seid'.toUInt32 entry' seid'.toUInt32).trans (if_pos rfl)
      exact absurd (hnone.symm.trans h) (by simp)

end Registry

/-- What a run keeps of an SEID that it tells apart and deploys under one key. -/
theorem entryKeyed_step {ifs : Interfaces} {s : Component} {c : ComponentCall} {seid : UInt64}
    {key : NextRuleProgIndexKey} (h : EntryKeyed seid key s) (ha : c.TellsApart seid)
    (hk : c.Keyed seid key) : EntryKeyed seid key (s.step ifs c) := by
  intro entry hentry
  cases c with
  | bpf c =>
    rw [s.step_bpf] at hentry
    by_cases hseid : seid.toUInt32 = c.seid.toUInt32
    · -- The registry cannot tell the two SEIDs apart, so they have to be one.
      have hself : c.seid = seid := ha hseid.symm
      rw [hseid] at hentry
      rcases registry_step_cases hentry with hold | ⟨pSession, env, pFar, rfl, he⟩
      · rw [← hseid] at hold
        exact h entry hold
      · exact hk hself entry.mKey pFar he
    · rw [registry_step_of_ne hseid] at hentry
      exact h entry hentry
  | createSession seid' env =>
    rw [(s.sameOutside_createSession ifs seid' env).bpf] at hentry
    exact h entry hentry
  | removeSession seid' =>
    rw [(s.sameOutside_removeSession ifs seid').bpf] at hentry
    exact h entry hentry

/-! ## What a call writes -/

/-- Between the two states, nothing was written but under the SEID, its lower half, and the key; and
of the prog array nothing but the slot of the next id. -/
structure Confined (seid : UInt64) (key : NextRuleProgIndexKey) (s s' : Component) : Prop where
  sessions : ∀ x, x ≠ seid → s'.bpf.mSeidToSession.lookup x = s.bpf.mSeidToSession.lookup x
  registry : ∀ y, y ≠ seid.toUInt32 →
    s'.bpf.mSessionProgramsMap.lookup y = s.bpf.mSessionProgramsMap.lookup y
  index : ∀ k, k ≠ key →
    s'.bpf.m_next_rule_prog_index.lookup k = s.bpf.m_next_rule_prog_index.lookup k
  slots : ∀ id, id ≠ s.bpf.sIdCounter →
    s'.bpf.m_next_rule_prog.get id.toNat = s.bpf.m_next_rule_prog.get id.toNat
  programs : ∀ y entry, y ≠ seid.toUInt32 → s.bpf.mSessionProgramsMap.lookup y = some entry →
    s'.bpf.programs[entry.mpFARProgram]? = s.bpf.programs[entry.mpFARProgram]?
  sessionRegistry : ∀ y, y ≠ seid.toUInt32 →
    s'.mSessionProgramMap.lookup y = s.mSessionProgramMap.lookup y
  sessionPrograms : ∀ y ref, y ≠ seid.toUInt32 → s.mSessionProgramMap.lookup y = some ref →
    s'.sessionPrograms[ref]? = s.sessionPrograms[ref]?

section Confined

variable {ifs : Interfaces} {s : Component} {seid : UInt64} {key : NextRuleProgIndexKey}

/-- A call tears down no program but that of its own lower half. -/
theorem tearsDown_subset {s : State} {c : Call} {ref : ℕ} (h : ref ∈ c.tearsDown ifs s) :
    ∃ entry, s.mSessionProgramsMap.lookup c.seid.toUInt32 = some entry ∧
      entry.mpFARProgram = ref := by
  have hmem :
      ref ∈ ((s.mSessionProgramsMap.lookup c.seid.toUInt32).map (·.mpFARProgram)).toList := by
    cases c with
    | createBPFSession pSession env =>
      unfold Call.tearsDown at h
      dsimp only at h
      split at h
      · exact h
      · exact absurd h List.not_mem_nil
    | removeBPFSession seid =>
      unfold Call.tearsDown at h
      dsimp only at h
      split_ifs at h
      · exact h
      · exact absurd h List.not_mem_nil
  exact Option.map_eq_some_iff.1 (Option.mem_toList.1 hmem)

/-- A deployment or a removal is confined. -/
theorem confined_step_bpf {c : Call} (hp : Proper (farTable s)) (he : EntryKeyed seid key s)
    (hseid : c.seid = seid) (hk : (ComponentCall.bpf c).Keyed seid key) :
    Confined seid key s (s.step ifs (.bpf c)) := by
  rw [s.step_bpf]
  refine ⟨fun x hx => ?_, fun y hy => ?_, fun k hne => ?_, fun i hi => ?_, fun y entry hy h => ?_,
    fun y hy => rfl, fun y ref hy h => rfl⟩
  · exact sessions_step_of_ne (by rw [hseid]; exact hx)
  · exact registry_step_of_ne (by rw [hseid]; exact hy)
  · -- The key of the call's session, and the key of its entry, are the one key.
    refine lookup_step_eq ?_ ?_
    · cases c with
      | createBPFSession pSession env =>
        rintro ⟨pFar, hx, -⟩
        exact hne (hk hseid k pFar hx)
      | removeBPFSession seid' => exact id
    · cases c with
      | createBPFSession pSession env => exact id
      | removeBPFSession seid' =>
        rintro ⟨-, entry, hentry, rfl⟩
        have hseid' : seid' = seid := hseid
        rw [hseid'] at hentry
        exact hne (he entry hentry)
  · refine slots_step_of_not_takesSlot ?_
    cases c with
    | createBPFSession pSession env =>
      rintro ⟨hcounter, -⟩
      exact hi hcounter.symm
    | removeBPFSession seid' => exact id
  · -- Another lower half has another program.
    have hheld := held_farTable h
    refine (getElem?_step (hp.held_lt y _ hheld)).2 fun hmem => ?_
    obtain ⟨entry', hentry', href⟩ := tearsDown_subset hmem
    have hheld' := held_farTable hentry'
    rw [href] at hheld'
    have hsame := hp.held_inj y _ _ hheld hheld'
    rw [hseid] at hsame
    exact hy hsame

/-- A call of the older generation leaves the pipelines, so that its own registry remains. -/
theorem confined_of_bpf_eq {s' : Component} (hb : s'.bpf = s.bpf)
    (hr : ∀ y, y ≠ seid.toUInt32 →
      s'.mSessionProgramMap.lookup y = s.mSessionProgramMap.lookup y)
    (hs : ∀ y ref, y ≠ seid.toUInt32 → s.mSessionProgramMap.lookup y = some ref →
      s'.sessionPrograms[ref]? = s.sessionPrograms[ref]?) : Confined seid key s s' := by
  refine ⟨?_, ?_, ?_, ?_, ?_, hr, hs⟩ <;> rw [hb] <;> intros <;> rfl

theorem confined_refl : Confined seid key s s :=
  confined_of_bpf_eq rfl (fun _ _ => rfl) fun _ _ _ _ => rfl

theorem confined_createSession (hp : Proper (sessionTable s)) (env : Env) :
    Confined seid key s (s.step ifs (.createSession seid env)) := by
  by_cases hm : seid.toUInt32 ∈ s.mSessionProgramMap
  · rw [s.step_createSession_of_mem env hm]
    exact confined_refl
  -- A program is appended, and at most the SEID's own entry is new.
  have hlt : ∀ y ref, s.mSessionProgramMap.lookup y = some ref →
      ref < s.sessionPrograms.length := hp.held_lt
  rw [s.step_createSession_of_notMem env hm]
  cases SessionProgram.bringUp ifs env {} with
  | ok a p =>
    exact confined_of_bpf_eq rfl (fun y hy => AList.lookup_insert_ne hy)
      fun y ref _ h => List.getElem?_append_left (hlt y ref h)
  | error e p =>
    exact confined_of_bpf_eq rfl (fun y _ => rfl)
      fun y ref _ h => List.getElem?_append_left (hlt y ref h)

theorem confined_removeSession (hp : Proper (sessionTable s)) :
    Confined seid key s (s.step ifs (.removeSession seid)) := by
  cases hf : findSessionProgram s seid.toUInt32 with
  | none =>
    rw [s.step_removeSession_of_none hf]
    exact confined_refl
  | some pSessionProgram =>
    rw [s.step_removeSession_of_some hf]
    refine confined_of_bpf_eq rfl (fun y hy => AList.lookup_erase_ne hy) fun y ref hy h => ?_
    have hne : pSessionProgram ≠ ref := by
      rintro rfl
      exact hy (hp.held_inj y _ _ h hf)
    exact (List.getElem?_modify ..).trans (by simp [hne])

/-- Every call for an SEID is confined to it. -/
theorem confined_step {c : ComponentCall} (hfar : Proper (farTable s))
    (hsession : Proper (sessionTable s)) (he : EntryKeyed seid key s) (hseid : c.seid = seid)
    (hk : c.Keyed seid key) : Confined seid key s (s.step ifs c) := by
  subst hseid
  cases c with
  | bpf c => exact confined_step_bpf hfar he rfl hk
  | createSession seid env => exact confined_createSession hsession env
  | removeSession seid => exact confined_removeSession hsession

end Confined

end UpfBpf
