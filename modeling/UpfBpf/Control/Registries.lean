import UpfBpf.Control.Standing

/-!
# The two registries

`SessionManager` keeps the sessions that it has deployed by their SEID (`mSeidToSession`), and
`SessionProgramManager` the pipelines by its lower half (`mSessionProgramsMap`). A deployment that
returns enters both, and one that throws neither. A removal takes the pipeline out, and leaves the
session where it is: `removeBPFSession` looks into `mSeidToSession` and never erases from it. So the
two agree as long as nothing that is deployed is removed, and `registries_iff` says that they agree
in no other run.
-/

namespace UpfBpf

/-- The two registries hold the same SEIDs. -/
def SameSeids (s : State) : Prop :=
  ∀ seid : UInt64, seid ∈ s.mSeidToSession ↔
    ∃ a : UInt32, a ∈ s.mSessionProgramsMap ∧ a.toUInt64 = seid

/-- The last call on the SEID that returned is a deployment, or it is a removal. -/
def LastReturned (ifs : Interfaces) (calls : List Call) (seid : UInt64) (create : Bool) : Prop :=
  ∃ pre c post, calls = pre ++ c :: post ∧ c.seid = seid ∧ isCreate c = create ∧
    c.Returns ifs (run ifs pre) ∧
    Run.Along (step ifs) (fun s c' => c'.seid = seid → ¬ c'.Returns ifs s)
      (step ifs (run ifs pre) c) post

/-- What the registries should be like after a run. -/
structure RegistriesAgree (ifs : Interfaces) (calls : List Call) : Prop where
  /-- They hold the same SEIDs. -/
  seids : SameSeids (run ifs calls)
  /-- A removal returns exactly when the last call that returned was a deployment. -/
  removable : ∀ seid : UInt64, seid.toNat < 2^32 →
    ((Call.removeBPFSession seid).Returns ifs (run ifs calls) ↔ LastReturned ifs calls seid true)
  /-- A session that was removed is not held any more. -/
  released : ∀ seid : UInt64, seid.toNat < 2^32 → LastReturned ifs calls seid false →
    seid ∉ (run ifs calls).mSeidToSession

/-- The call removes no session that is deployed. -/
def RemovesNothing (s : State) : Call → Prop
  | .createBPFSession _ _ => True
  | .removeBPFSession seid => seid.toUInt32 ∉ s.mSessionProgramsMap

/-! ## SEIDs and their lower halves -/

theorem toUInt64_toUInt32 {seid : UInt64} (h : seid.toNat < 2^32) :
    seid.toUInt32.toUInt64 = seid := by
  apply UInt64.toNat_inj.1
  rw [UInt32.toNat_toUInt64, UInt64.toNat_toUInt32]
  omega

/-- Below `2^32`, the lower half names the SEID. -/
theorem toUInt32_inj {seid seid' : UInt64} (h : seid.toNat < 2^32) (h' : seid'.toNat < 2^32)
    (e : seid.toUInt32 = seid'.toUInt32) : seid = seid' := by
  rw [← toUInt64_toUInt32 h, e, toUInt64_toUInt32 h']

/-! ## What a call leaves in them -/

section Tables

variable {ifs : Interfaces} {s : State} {c : Call} {seid : UInt64}

/-- No removal takes a session out of the session manager. -/
theorem sessions_remove :
    (step ifs s (.removeBPFSession seid)).mSeidToSession = s.mSeidToSession := by
  rcases step_remove_cases ifs s seid with e | ⟨entry, index, -, -, e⟩
  · rw [e]
  · rw [e]
    rfl

/-- One of an SEID that it knows takes the pipeline out of the registry, whether it returns or
throws. -/
theorem registry_remove (h : seid ∈ s.mSeidToSession) (y : UInt32) :
    (step ifs s (.removeBPFSession seid)).mSessionProgramsMap.lookup y =
      if y = seid.toUInt32 then none else s.mSessionProgramsMap.lookup y := by
  by_cases hr : seid.toUInt32 ∈ s.mSessionProgramsMap
  · rw [(remove_registered h hr).1]
    split_ifs with hy
    · rw [hy, AList.lookup_erase]
    · exact AList.lookup_erase_ne hy
  · rw [(remove_unregistered hr).2]
    split_ifs with hy
    · rw [hy, AList.lookup_eq_none.2 hr]
    · rfl

/-- A deployment that returns registers its pipeline. -/
theorem mem_registry_create {pSession : PfcpSession} {env : Env}
    (hret : (Call.createBPFSession pSession env).Returns ifs s) (a : UInt32) :
    a ∈ (step ifs s (.createBPFSession pSession env)).mSessionProgramsMap ↔
      a = pSession.seid.toUInt32 ∨ a ∈ s.mSessionProgramsMap := by
  obtain ⟨key, pFar, index, slots, p, -, -, -, -, -, -, -, hstep⟩ := create_returns hret
  have hself : (sortPdrs env pSession).seid = pSession.seid := rfl
  rw [hstep, ← not_iff_not, ← AList.lookup_eq_none, lookup_deploy, hself, not_or,
    ← AList.lookup_eq_none]
  split_ifs with ha
  · simp [ha]
  · simp [ha]

/-- It records its session. -/
theorem sessions_create {pSession : PfcpSession} {env : Env}
    (hret : (Call.createBPFSession pSession env).Returns ifs s) :
    (step ifs s (.createBPFSession pSession env)).mSeidToSession =
      s.mSeidToSession.insert pSession.seid (sortPdrs env pSession) := by
  obtain ⟨key, pFar, index, slots, p, -, -, -, -, -, -, -, hstep⟩ := create_returns hret
  rw [hstep]
  rfl

/-- The registry has the same for every lower half but the call's own. -/
theorem registry_step_of_ne {seid : UInt32} (h : seid ≠ c.seid.toUInt32) :
    (step ifs s c).mSessionProgramsMap.lookup seid = s.mSessionProgramsMap.lookup seid := by
  cases c with
  | createBPFSession pSession env =>
    by_cases hret : (Call.createBPFSession pSession env).Returns ifs s
    · obtain ⟨key, pFar, index, slots, p, -, -, -, -, -, -, -, e⟩ := create_returns hret
      rw [e, lookup_deploy]
      exact if_neg h
    · rw [(create_throws hret).1]
  | removeBPFSession seid' =>
    rcases step_remove_cases ifs s seid' with e | ⟨entry, index, -, -, e⟩
    · rw [e]
    · rw [e]
      exact (lookup_unregister s seid'.toUInt32 entry seid).trans (if_neg h)

/-- The session manager has the same for every SEID but the call's own. -/
theorem sessions_step_of_ne {seid : UInt64} (h : seid ≠ c.seid) :
    (step ifs s c).mSeidToSession.lookup seid = s.mSeidToSession.lookup seid := by
  cases c with
  | createBPFSession pSession env =>
    by_cases hret : (Call.createBPFSession pSession env).Returns ifs s
    · rw [sessions_create hret]
      exact AList.lookup_insert_ne h
    · rw [(create_throws hret).2]
  | removeBPFSession seid' =>
    rcases step_remove_cases ifs s seid' with e | ⟨entry, index, -, -, e⟩
    · rw [e]
    · rw [e]
      rfl

end Tables

/-! ## The invariant -/

/-- What holds while no deployed session is removed. -/
structure Kept (s : State) : Prop where
  /-- A session is held exactly when its pipeline is. -/
  sessions : ∀ seid, seid ∈ s.mSeidToSession ↔
    seid.toNat < 2^32 ∧ seid.toUInt32 ∈ s.mSessionProgramsMap
  /-- The keys of the pipelines are in the index. -/
  index : ∀ a entry, s.mSessionProgramsMap.lookup a = some entry →
    s.m_next_rule_prog_index.lookup entry.mKey ≠ none

theorem kept_init : Kept {} where
  sessions := by simp
  index := by simp

/-- The invariant says that the registries hold the same SEIDs. -/
theorem Kept.sameSeids {s : State} (h : Kept s) : SameSeids s := by
  intro seid
  rw [h.sessions]
  constructor
  · rintro ⟨hlt, hr⟩
    exact ⟨_, hr, toUInt64_toUInt32 hlt⟩
  · rintro ⟨a, ha, rfl⟩
    have hlt : a.toUInt64.toNat < 2^32 := by
      rw [UInt32.toNat_toUInt64]
      exact a.toNat_lt
    refine ⟨hlt, ?_⟩
    rw [UInt32.toUInt32_toUInt64]
    exact ha

section Steps

variable {ifs : Interfaces} {s : State} {c : Call} {seid : UInt64}

/-- The keys of the index after a deployment: it takes none out. -/
theorem index_create_ne_none_iff {pSession : PfcpSession} {env : Env}
    {k : NextRuleProgIndexKey} :
    (step ifs s (.createBPFSession pSession env)).m_next_rule_prog_index.lookup k ≠ none ↔
      (Call.createBPFSession pSession env).WritesIndex ifs s k ∨
        s.m_next_rule_prog_index.lookup k ≠ none := by
  by_cases hw : (Call.createBPFSession pSession env).WritesIndex ifs s k
  · rw [lookup_step_of_writesIndex hw]
    exact iff_of_true (by simp) (.inl hw)
  · rw [lookup_step_create hw]
    exact (or_iff_right hw).symm

/-- A deployment that returns keeps the invariant. -/
theorem Kept.create_of_returns (h : Kept s) {pSession : PfcpSession} {env : Env}
    (hseid : pSession.seid.toNat < 2^32)
    (hret : (Call.createBPFSession pSession env).Returns ifs s) :
    Kept (step ifs s (.createBPFSession pSession env)) := by
  constructor
  · intro seid
    rw [sessions_create hret, AList.mem_insert, mem_registry_create hret, h.sessions]
    constructor
    · rintro (rfl | ⟨hlt, hr⟩)
      · exact ⟨hseid, .inl rfl⟩
      · exact ⟨hlt, .inr hr⟩
    · rintro ⟨hlt, hr | hr⟩
      · exact .inl (toUInt32_inj hlt hseid hr)
      · exact .inr ⟨hlt, hr⟩
  · intro a entry hl
    obtain ⟨key, pFar, index, slots, p, -, hi, -, -, -, -, -, hstep⟩ := create_returns hret
    rw [hstep, lookup_deploy] at hl
    split_ifs at hl with ha
    · -- The new pipeline: its key was just written.
      cases hl
      rw [hstep, index_deploy, BoundedMap.lookup_update_self hi.update_eq]
      simp
    · exact index_create_ne_none_iff.2 (.inr (h.index a entry hl))

/-- So does one that throws. -/
theorem Kept.create_of_throws (h : Kept s) {pSession : PfcpSession} {env : Env}
    (hret : ¬ (Call.createBPFSession pSession env).Returns ifs s) :
    Kept (step ifs s (.createBPFSession pSession env)) := by
  obtain ⟨hr, hs⟩ := create_throws hret
  constructor
  · intro seid
    rw [hr, hs]
    exact h.sessions seid
  · intro a entry hl
    rw [hr] at hl
    exact index_create_ne_none_iff.2 (.inr (h.index a entry hl))

/-- A call that removes nothing keeps it. -/
theorem Kept.step (h : Kept s) (hseid : c.seid.toNat < 2^32) (hc : RemovesNothing s c) :
    Kept (step ifs s c) := by
  cases c with
  | createBPFSession pSession env =>
    by_cases hret : (Call.createBPFSession pSession env).Returns ifs s
    · exact h.create_of_returns hseid hret
    · exact h.create_of_throws hret
  | removeBPFSession seid =>
    rw [(remove_unregistered hc).2]
    exact h

/-- With the invariant, a removal returns exactly when the session is deployed. -/
theorem Kept.remove_returns_iff (h : Kept s) (hseid : seid.toNat < 2^32) :
    (Call.removeBPFSession seid).Returns ifs s ↔ seid.toUInt32 ∈ s.mSessionProgramsMap := by
  constructor
  · intro hret
    by_contra hnot
    exact (remove_unregistered hnot).1 hret
  · intro hr
    obtain ⟨entry, hl⟩ := Option.ne_none_iff_exists'.1 fun hn => AList.lookup_eq_none.1 hn hr
    exact remove_returns_of_lookup ((h.sessions seid).2 ⟨hseid, hr⟩) hl (h.index _ entry hl)

/-- After a call, a pipeline is deployed because the call deployed it, or because it was, and the
call did not return or is about another SEID. -/
theorem registered_of_registered_step (hseid : seid.toNat < 2^32) (hlt : c.seid.toNat < 2^32)
    (hc : RemovesNothing s c)
    (h : seid.toUInt32 ∈ (UpfBpf.step ifs s c).mSessionProgramsMap) :
    (c.seid = seid ∧ isCreate c = true ∧ c.Returns ifs s) ∨
      seid.toUInt32 ∈ s.mSessionProgramsMap ∧ (c.seid = seid → ¬ c.Returns ifs s) := by
  cases c with
  | removeBPFSession seid' =>
    obtain ⟨hnot, e⟩ : ¬ (Call.removeBPFSession seid').Returns ifs s ∧
      UpfBpf.step ifs s (.removeBPFSession seid') = s := remove_unregistered hc
    rw [e] at h
    exact .inr ⟨h, fun _ => hnot⟩
  | createBPFSession pSession env =>
    by_cases hret : (Call.createBPFSession pSession env).Returns ifs s
    · by_cases hs : pSession.seid = seid
      · exact .inl ⟨hs, rfl, hret⟩
      · -- Below `2^32` the two SEIDs have two lower halves.
        refine .inr ⟨?_, fun e => absurd e hs⟩
        have hne : seid.toUInt32 ≠ (Call.createBPFSession pSession env).seid.toUInt32 := fun e =>
          hs (toUInt32_inj hseid hlt e).symm
        rwa [← not_not (a := _ ∈ _), ← AList.lookup_eq_none, registry_step_of_ne hne,
          AList.lookup_eq_none, not_not] at h
    · rw [(create_throws hret).1] at h
      exact .inr ⟨h, fun _ => hret⟩

/-- A pipeline that is deployed stays so under a call that removes nothing. -/
theorem registered_step (hc : RemovesNothing s c) (h : seid.toUInt32 ∈ s.mSessionProgramsMap) :
    seid.toUInt32 ∈ (UpfBpf.step ifs s c).mSessionProgramsMap := by
  cases c with
  | removeBPFSession seid' =>
    rw [(remove_unregistered hc).2]
    exact h
  | createBPFSession pSession env =>
    by_cases hret : (Call.createBPFSession pSession env).Returns ifs s
    · obtain ⟨key, pFar, index, slots, p, -, -, -, -, -, -, -, hstep⟩ := create_returns hret
      rw [hstep, ← not_not (a := _ ∈ _), ← AList.lookup_eq_none, lookup_deploy]
      split_ifs
      · simp
      · rw [AList.lookup_eq_none, not_not]
        exact h
    · rw [(create_throws hret).1]
      exact h

/-- When the registries agree, a removal that does something makes them disagree. -/
theorem SameSeids.removesNothing (h : SameSeids s) (hseid : seid.toNat < 2^32)
    (hs : SameSeids (UpfBpf.step ifs s (.removeBPFSession seid))) :
    RemovesNothing s (.removeBPFSession seid) := by
  intro hr
  have hses : seid ∈ s.mSeidToSession := (h seid).2 ⟨_, hr, toUInt64_toUInt32 hseid⟩
  have hr' : (UpfBpf.step ifs s (.removeBPFSession seid)).mSessionProgramsMap =
    s.mSessionProgramsMap.erase seid.toUInt32 := (remove_registered hses hr).1
  have hs' : (UpfBpf.step ifs s (.removeBPFSession seid)).mSeidToSession = s.mSeidToSession :=
    (remove_registered hses hr).2
  -- The session is still held, so its pipeline would have to be, but it was erased.
  have hin : seid ∈ (UpfBpf.step ifs s (.removeBPFSession seid)).mSeidToSession := by
    rw [hs']
    exact hses
  obtain ⟨a, ha, e⟩ := (hs seid).1 hin
  rw [hr', AList.mem_erase] at ha
  have : a = seid.toUInt32 := by rw [← e, UInt32.toUInt32_toUInt64]
  exact ha.1 this

end Steps

/-! ## Runs -/

section Runs

variable {ifs : Interfaces} {calls : List Call}

/-- A run whose calls are about SEIDs below `2^32`, step by step. -/
theorem along_seid_lt (hseids : ∀ c ∈ calls, c.seid.toNat < 2^32) (s : State) :
    Run.Along (step ifs) (fun _ c => c.seid.toNat < 2^32) s calls := by
  rw [Run.along_iff_split]
  intro pre c post e
  exact hseids c (by rw [e]; simp)

/-- Runs that remove nothing keep the invariant. -/
theorem kept_run (hseids : ∀ c ∈ calls, c.seid.toNat < 2^32)
    (h : Run.Along (step ifs) RemovesNothing {} calls) : Kept (run ifs calls) :=
  (h.and (along_seid_lt hseids {})).invariant kept_init fun _ _ hs hc => hs.step hc.2 hc.1

/-- In such a run, a pipeline is deployed exactly when the last call that returned deployed it. -/
theorem registered_iff_lastReturned {seid : UInt64} (hseid : seid.toNat < 2^32)
    (hseids : ∀ c ∈ calls, c.seid.toNat < 2^32) (h : Run.Along (step ifs) RemovesNothing {} calls) :
    seid.toUInt32 ∈ (run ifs calls).mSessionProgramsMap ↔ LastReturned ifs calls seid true := by
  constructor
  · intro hr
    obtain ⟨pre, c, post, e, ⟨hs, hc, hret⟩, hpost⟩ :=
      (h.and (along_seid_lt hseids {})).exists_last_cause
        (D := fun t => seid.toUInt32 ∈ t.mSessionProgramsMap) (by simp)
        (fun s c hc hr => registered_of_registered_step hseid hc.2 hc.1 hr) hr
    exact ⟨pre, c, post, e, hs, hc, hret, hpost⟩
  · rintro ⟨pre, c, post, rfl, rfl, hc, hret, -⟩
    cases c with
    | removeBPFSession seid' => cases hc
    | createBPFSession pSession env =>
      -- Nothing after the deployment takes the pipeline out.
      obtain ⟨-, -, hpost⟩ := Run.along_append.1 h
      rw [run_append]
      exact hpost.invariant (I := fun t => pSession.seid.toUInt32 ∈ t.mSessionProgramsMap)
        ((mem_registry_create hret _).2 (.inl rfl)) fun s c ht hc' => registered_step hc' ht

/-- In such a run, no removal has returned. -/
theorem not_lastReturned_remove {seid : UInt64}
    (h : Run.Along (step ifs) RemovesNothing {} calls) : ¬ LastReturned ifs calls seid false := by
  rintro ⟨pre, c, post, rfl, rfl, hc, hret, -⟩
  cases c with
  | createBPFSession pSession env => cases hc
  | removeBPFSession seid =>
    obtain ⟨-, hnot, -⟩ := Run.along_append.1 h
    exact (remove_unregistered hnot).1 hret

/-- The registries agree in every state of a run exactly when the run removes no session that is
deployed. -/
theorem registries_iff (ifs : Interfaces) (calls : List Call)
    (hseids : ∀ c ∈ calls, c.seid.toNat < 2^32) :
    (∀ pre, pre <+: calls → RegistriesAgree ifs pre) ↔
      Run.Along (step ifs) RemovesNothing {} calls := by
  constructor
  · intro h
    rw [Run.along_iff_split]
    rintro pre c post rfl
    cases c with
    | createBPFSession pSession env => trivial
    | removeBPFSession seid =>
      -- The registries agree before the removal and after it, which leaves `mSeidToSession`.
      have hpre := (h pre ⟨_, rfl⟩).seids
      have hpost := (h (pre ++ [.removeBPFSession seid]) ⟨post, by simp⟩).seids
      rw [run_append] at hpost
      have hlt : seid.toNat < 2^32 := hseids (.removeBPFSession seid) (by simp)
      exact hpre.removesNothing hlt hpost
  · rintro h pre ⟨post, rfl⟩
    have hpre := (Run.along_append.1 h).1
    have hlt : ∀ c ∈ pre, c.seid.toNat < 2^32 := fun c hc => hseids c (List.mem_append_left post hc)
    have hkept := kept_run hlt hpre
    refine ⟨hkept.sameSeids, fun seid hseid => ?_, fun seid _ hl => ?_⟩
    · rw [hkept.remove_returns_iff hseid, registered_iff_lastReturned hseid hlt hpre]
    · exact absurd hl (not_lastReturned_remove hpre)

end Runs

/-- Two sessions that are deployed, and a removal of a third that is not. -/
theorem registries_iff_sample :
    RegistriesAgree sampleInterfaces
      [sampleCreate 1 100, sampleCreate 2 200, .removeBPFSession 3] := by
  have hseids : ∀ c ∈ [sampleCreate 1 100, sampleCreate 2 200, .removeBPFSession 3],
      c.seid.toNat < 2^32 := by
    decide
  have h : Run.Along (step sampleInterfaces) RemovesNothing {}
      [sampleCreate 1 100, sampleCreate 2 200, .removeBPFSession 3] :=
    ⟨trivial, trivial, by show _ ∉ _; decide, trivial⟩
  exact (registries_iff sampleInterfaces _ hseids).2 h _ List.prefix_rfl

/-- A session that is deployed and removed, both with success: it is still held. -/
theorem not_registriesAgree_of_removed :
    (sampleCreate 1 100).Returns sampleInterfaces {} ∧
      (Call.removeBPFSession 1).Returns sampleInterfaces
        (run sampleInterfaces [sampleCreate 1 100]) ∧
      ¬ RegistriesAgree sampleInterfaces [sampleCreate 1 100, .removeBPFSession 1] := by
  refine ⟨trivial, trivial, fun h => ?_⟩
  have hheld : (1 : UInt64) ∈
      (run sampleInterfaces [sampleCreate 1 100, .removeBPFSession 1]).mSeidToSession := by decide
  obtain ⟨a, ha, -⟩ := (h.seids 1).1 hheld
  have hempty : (run sampleInterfaces
      [sampleCreate 1 100, .removeBPFSession 1]).mSessionProgramsMap = ∅ := by rfl
  rw [hempty] at ha
  exact absurd ha (AList.notMem_empty a)

end UpfBpf
