import UpfBpf.Control.Standing

/-!
# Calls that throw

`createBPFSession` sorts the PDRs, loads a program, and writes three maps before it registers
anything, and none of this is taken back when a later step throws. What a call that throws leaves
unchanged is therefore decided by the first two: the sort must have left the PDRs as they were,
which it does for some lists only (`stdSort_keeps`), and the call must not have come past the life
cycle of the program, which is the last to release what it has taken.

`removeBPFSession` destroys the program and erases the entry before the one step that the kernel can
refuse, the removal of the key. Whether the key is there depends on the other sessions.
-/

namespace UpfBpf

/-- The call has changed nothing: the maps, the registries, the set of loaded programs, and the
order of the PDRs in the caller's session are the same. -/
structure Unchanged (s s' : State) (pSession pSession' : PfcpSession) : Prop where
  /-- `m_next_rule_prog_index`. -/
  index : s'.m_next_rule_prog_index = s.m_next_rule_prog_index
  /-- `m_next_rule_prog`. -/
  slots : s'.m_next_rule_prog = s.m_next_rule_prog
  /-- `mSessionProgramsMap`. -/
  registry : s'.mSessionProgramsMap = s.mSessionProgramsMap
  /-- `mSeidToSession`. -/
  sessions : s'.mSeidToSession = s.mSeidToSession
  /-- The programs that are loaded. -/
  loaded : ∀ ref, s'.Loaded ref ↔ s.Loaded ref
  /-- The order of the PDRs. -/
  pdrs : pSession'.pdrs = pSession.pdrs

/-- The call fails before a program is loaded for good: there is no pipeline to deploy, or the life
cycle of the program fails. -/
def FailsEarly (env : Env) (pSession : PfcpSession) : Prop :=
  (∀ pipeline, extractPipeline (sortPdrs env pSession) ≠ .ok pipeline) ∨ ¬ env.Loads

section Throws

variable {ifs : Interfaces} {env : Env} {s s' : State} {pSession pSession' : PfcpSession}
  {key : NextRuleProgIndexKey} {pFar : PfcpFar} {seid : UInt32} {e : Err}

/-- A program that stays loaded is a change. -/
theorem not_unchanged_of_loaded (h : s'.Loaded s.programs.length) :
    ¬ Unchanged s s' pSession pSession' := fun hu =>
  absurd ((hu.loaded _).1 h).lt (lt_irrefl _)

/-- A `createPipeline` that throws after its program is loaded has changed something. -/
theorem PipelineOutcome.not_unchanged (hp : PipelineOutcome ifs env s seid key pFar (.error e s'))
    (hl : env.Loads) : ¬ Unchanged s s' pSession pSession' := by
  apply not_unchanged_of_loaded
  cases hp with
  | unpublished _ p hid hfar hloaded hnot =>
    exact loaded_publish_iff.2 (.inr ⟨rfl, hloaded.2 hl⟩)
  | indexed index hindex hnot => exact loaded_publish_iff.2 (.inr ⟨rfl, rfl⟩)
  | slotted index slots hindex hslot hnot => exact loaded_publish_iff.2 (.inr ⟨rfl, rfl⟩)

/-- One that throws before has changed nothing but the counter. -/
theorem PipelineOutcome.unchanged (hp : PipelineOutcome ifs env s seid key pFar (.error e s'))
    (hl : ¬ env.Loads) (hpdrs : pSession'.pdrs = pSession.pdrs) :
    Unchanged s s' pSession pSession' := by
  cases hp with
  | unpublished _ p hid hfar hloaded hnot =>
    refine ⟨rfl, rfl, rfl, rfl, fun ref => ?_, hpdrs⟩
    rw [loaded_publish_iff, hloaded]
    exact or_iff_left fun h => hl h.2
  | indexed index hindex hnot => exact absurd hindex.setsUp.toLoads hl
  | slotted index slots hindex hslot hnot => exact absurd hindex.setsUp.toLoads hl

/-- Which PDRs a sorting `std::sort` leaves as they are: those in the order of their precedence
values, as long as no value comes twice, and none that are not in this order. What becomes of PDRs
in their order of which some have one value is up to the sort. -/
theorem stdSort_keeps (hs : StdSort.IsSort env.stdSort)
    (hpresent : ∀ pdr ∈ pSession.pdrs, pdr.precedence.1 = true) :
    (pSession.pdrs.Pairwise (fun a b => a.precedence.2 < b.precedence.2) →
        env.stdSort (comparePDR env) pSession.pdrs = pSession.pdrs) ∧
      (env.stdSort (comparePDR env) pSession.pdrs = pSession.pdrs →
        pSession.pdrs.Pairwise fun a b => a.precedence.2 ≤ b.precedence.2) := by
  have hw := strictWeakOn_comparePDR env hpresent
  have hcompare := comparePDR_of_present env hpresent
  constructor
  · intro h
    refine hs.eq_self hw (h.imp_of_mem fun {a b} ha hb hab => ?_)
    rw [hcompare a ha b hb, decide_eq_true_eq]
    exact hab
  · intro h
    refine (hs.pairwise_of_eq_self hw h).imp_of_mem fun {a b} ha hb hab => ?_
    rw [hcompare b hb a ha, decide_eq_false_iff_not, not_lt] at hab
    exact hab

/-- A `createBPFSession` that throws has changed nothing exactly when `std::sort` leaves the PDRs as
they are and the call fails before a program is loaded. -/
theorem unchanged_iff (h : (createBPFSession ifs env pSession s).1 = .error e s') :
    Unchanged s s' pSession (createBPFSession ifs env pSession s).2 ↔
      env.stdSort (comparePDR env) pSession.pdrs = pSession.pdrs ∧ FailsEarly env pSession := by
  have ho := deploy_outcome ifs env s (sortPdrs env pSession)
  have h' : deploy ifs env (sortPdrs env pSession) s = .error e s' := h
  have hs : (createBPFSession ifs env pSession s).2 = sortPdrs env pSession := rfl
  rw [hs]
  rw [h'] at ho
  cases ho with
  | rejected _ he =>
    -- Nothing was touched but the order of the PDRs.
    have hearly : FailsEarly env pSession := .inl fun pipeline hp => by
      rw [he] at hp
      cases hp
    rw [and_iff_left hearly]
    exact ⟨fun hu => hu.pdrs, fun hp => ⟨rfl, rfl, rfl, rfl, fun ref => Iff.rfl, hp⟩⟩
  | threw key pFar _ _ he hp =>
    have hearly : FailsEarly env pSession ↔ ¬ env.Loads :=
      ⟨fun hf => hf.resolve_left fun hn => hn _ he, .inr⟩
    rw [hearly]
    constructor
    · intro hu
      exact ⟨hu.pdrs, fun hl => hp.not_unchanged hl hu⟩
    · rintro ⟨hpdrs, hl⟩
      exact hp.unchanged hl hpdrs

end Throws

/-- A program that cannot be loaded: the call throws, and nothing has changed. -/
theorem unchanged_iff_sample : ∃ s',
    (createBPFSession sampleInterfaces { sampleEnv with loadErr := -1 }
        (sampleSession 1 100) {}).1 =
      .error (.load (-1)) s' ∧ Unchanged {} s' (sampleSession 1 100) (sampleSession 1 100) := by
  have h : ∃ s', (createBPFSession sampleInterfaces { sampleEnv with loadErr := -1 }
    (sampleSession 1 100) {}).1 = .error (.load (-1)) s' := ⟨_, rfl⟩
  obtain ⟨s', hs⟩ := h
  refine ⟨s', hs, (unchanged_iff hs).2 ⟨rfl, .inr fun h => ?_⟩⟩
  exact absurd h.load (by decide)

/-- A session that is deployed and removed nine times, and then throws: a program stays loaded. -/
theorem tenth_deployment_changes : ∃ e s',
    (createBPFSession sampleInterfaces sampleEnv (sampleSession 1 100)
      (run sampleInterfaces nineDeployments)).1 = .error e s' ∧
    ¬ Unchanged (run sampleInterfaces nineDeployments) s' (sampleSession 1 100)
      (createBPFSession sampleInterfaces sampleEnv (sampleSession 1 100)
        (run sampleInterfaces nineDeployments)).2 := by
  have hl : (run sampleInterfaces nineDeployments).programs.length = 9 := by
    rw [run, length_foldl_of_admissible (Run.along_append.1 admissible_tenDeployments).1]
    decide
  have hnot : ¬ (sampleCreate 1 100).Returns sampleInterfaces
      (run sampleInterfaces nineDeployments) :=
    not_returns_of_length_eq (numbered_run sampleInterfaces nineDeployments) hl
  have ho := deploy_outcome sampleInterfaces sampleEnv (run sampleInterfaces nineDeployments)
    (sortPdrs sampleEnv (sampleSession 1 100))
  rw [Call.Returns, sampleCreate, Call.result, createBPFSession] at hnot
  rw [createBPFSession]
  dsimp only at hnot ⊢
  generalize deploy sampleInterfaces sampleEnv (sortPdrs sampleEnv (sampleSession 1 100))
    (run sampleInterfaces nineDeployments) = r at ho hnot
  cases ho with
  | rejected e he => cases he
  | threw key pFar e s' he hp => exact ⟨e, s', rfl, hp.not_unchanged ⟨rfl, rfl, rfl, rfl⟩⟩
  | returned key pFar s' he hp => exact absurd trivial hnot

/-! ## Removals -/

/-- A removal has changed nothing: the registries, the index, and the set of loaded programs are the
same. -/
structure NothingRemoved (s s' : State) : Prop where
  /-- `mSessionProgramsMap`. -/
  registry : s'.mSessionProgramsMap = s.mSessionProgramsMap
  /-- `mSeidToSession`. -/
  sessions : s'.mSeidToSession = s.mSeidToSession
  /-- `m_next_rule_prog_index`. -/
  index : s'.m_next_rule_prog_index = s.m_next_rule_prog_index
  /-- The programs that are loaded. -/
  loaded : ∀ ref, s'.Loaded ref ↔ s.Loaded ref

/-- If `removeBPFSession` throws, it has changed nothing. -/
def FailedRemovalKeeps (ifs : Interfaces) (s : State) (seid : UInt64) : Prop :=
  ¬ (Call.removeBPFSession seid).Returns ifs s →
    NothingRemoved s (step ifs s (.removeBPFSession seid))

/-- The SEID has a pipeline, and the key of the pipeline is no longer in the index: another session
with the same key was removed. -/
def KeyMissing (s : State) (seid : UInt64) : Prop :=
  ∃ entry, seid ∈ s.mSeidToSession ∧ s.mSessionProgramsMap.lookup seid.toUInt32 = some entry ∧
    s.m_next_rule_prog_index.lookup entry.mKey = none

section Removal

variable {ifs : Interfaces} {s : State} {seid : UInt64}

/-- The key is missing: the call throws, and the entry is gone. -/
theorem KeyMissing.not_keeps (h : KeyMissing s seid) : ¬ FailedRemovalKeeps ifs s seid := by
  obtain ⟨entry, hs, hr, hi⟩ := h
  have hmem : seid.toUInt32 ∈ s.mSessionProgramsMap := by
    rw [← AList.lookup_isSome, hr]
    rfl
  have hthrows : ¬ (Call.removeBPFSession seid).Returns ifs s := by
    intro hret
    obtain ⟨entry', index, hr', hd, -⟩ := remove_returns hret
    rw [hr] at hr'
    cases hr'
    rw [BoundedMap.delete_eq_none_iff.2 hi] at hd
    cases hd
  intro hkeeps
  have hregistry := (hkeeps hthrows).registry
  rw [(remove_registered hs hmem).1] at hregistry
  rw [← hregistry] at hmem
  exact absurd hmem (by rw [AList.mem_erase]; exact fun h => h.1 rfl)

/-- Otherwise a call that throws has found no session, and returns before it does anything. -/
theorem failedRemovalKeeps_of_not_keyMissing (h : ¬ KeyMissing s seid) :
    FailedRemovalKeeps ifs s seid := by
  intro hthrows
  by_cases hr : seid.toUInt32 ∈ s.mSessionProgramsMap
  · obtain ⟨entry, hentry⟩ := Option.isSome_iff_exists.1 (AList.lookup_isSome.2 hr)
    by_cases hs : seid ∈ s.mSeidToSession
    · -- Both tables know the SEID and the key is in the index: this call returns.
      refine absurd (remove_returns_of_lookup hs hentry fun hi => ?_) hthrows
      exact h ⟨entry, hs, hentry, hi⟩
    · rw [step_remove_of_unknown hs]
      exact ⟨rfl, rfl, rfl, fun ref => Iff.rfl⟩
  · rw [(remove_unregistered hr).2]
    exact ⟨rfl, rfl, rfl, fun ref => Iff.rfl⟩

end Removal

/-- In every state that a run leads to, a removal that throws has changed nothing exactly when the
SEID has no pipeline whose key is missing from the index. -/
theorem failedRemovalKeeps_iff (ifs : Interfaces) (calls : List Call) (seid : UInt64) :
    FailedRemovalKeeps ifs (run ifs calls) seid ↔ ¬ KeyMissing (run ifs calls) seid := by
  constructor
  · intro hkeeps hmissing
    exact hmissing.not_keeps hkeeps
  · exact failedRemovalKeeps_of_not_keyMissing

/-- Two sessions with one key, and the first is removed. The removal of the second throws, and the
session is no longer deployed. -/
theorem not_failedRemovalKeeps_of_shared_key :
    ¬ FailedRemovalKeeps sampleInterfaces
      (run sampleInterfaces [sampleCreate 1 100, sampleCreate 2 100, .removeBPFSession 1]) 2 := by
  have hkey : (run sampleInterfaces
      [sampleCreate 1 100, sampleCreate 2 100, .removeBPFSession 1]).m_next_rule_prog_index.lookup
        ⟨100, interfaceValueAccess, 0x0a0a0a0a⟩ = none := by
    decide
  exact KeyMissing.not_keeps ⟨⟨⟨100, interfaceValueAccess, 0x0a0a0a0a⟩, 1⟩, by decide, rfl, hkey⟩

end UpfBpf
