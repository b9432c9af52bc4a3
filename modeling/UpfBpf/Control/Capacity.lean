import UpfBpf.Control.Mirror

/-!
# Capacity

The prog array has ten slots, and slot 0 is never used: the ids start at 1. A removal gives the key
back to the index, and neither the id nor the slot. So what a run can deploy is not bounded by what
is deployed at a time, but by what was ever deployed: `creates_return_iff` puts the bound at nine.
-/

namespace UpfBpf

/-- Nothing that the control plane asks of the outside fails. -/
structure Env.Faultless (env : Env) : Prop extends env.SetsUp where
  /-- The index can be updated. -/
  index : env.indexFails = false
  /-- The prog array can be updated. -/
  prog : env.progFails = false
  /-- The FAR can be stored. -/
  far : env.farFails = false

/-- A call of the runs in question. A deployment is of a complete session, with an SEID and a key
that are not deployed, and there are at most nine sessions with it. -/
def Admissible (s : State) : Call → Prop
  | .createBPFSession pSession env => env.Faultless ∧ ∃ key pFar,
    extractPipeline (sortPdrs env pSession) = .ok ⟨key, pFar⟩ ∧
      (∀ seid entry, s.mSessionProgramsMap.lookup seid = some entry →
        seid ≠ pSession.seid.toUInt32 ∧ entry.mKey ≠ key) ∧
      s.mSessionProgramsMap.keys.length + 1 ≤ 9
  | .removeBPFSession _ => True

/-- The call is no deployment, or one that returns. -/
def CreateReturns (ifs : Interfaces) (s : State) : Call → Prop
  | .createBPFSession pSession env => (Call.createBPFSession pSession env).Returns ifs s
  | .removeBPFSession _ => True

/-- The deployments of a run. -/
def isCreate : Call → Bool
  | .createBPFSession _ _ => true
  | .removeBPFSession _ => false

section Counting

variable {ifs : Interfaces} {s : State} {pSession : PfcpSession} {env : Env} {seid : UInt64}
  {key : NextRuleProgIndexKey} {pFar : PfcpFar}

/-- `createPipeline` constructs a program, however it ends. -/
theorem PipelineOutcome.length_programs {seid : UInt32} {r : EStateM.Result Err State Unit}
    (h : PipelineOutcome ifs env s seid key pFar r) :
    (stateAfter r).programs.length = s.programs.length + 1 := by
  rw [← length_cores]
  cases h with
  | unpublished e p hid hfar hloaded hnot => simp [stateAfter]
  | indexed index hindex hnot => simp [stateAfter]
  | slotted index slots hindex hslot hnot => simp [stateAfter]
  | deployed index slots p hindex hslot hkernel hid hloaded hfar hm => simp [stateAfter]

/-- A deployment of a complete session constructs a program. -/
theorem length_step_create (ifs : Interfaces) (s : State)
    (he : extractPipeline (sortPdrs env pSession) = .ok ⟨key, pFar⟩) :
    (step ifs s (.createBPFSession pSession env)).programs.length = s.programs.length + 1 := by
  rcases step_create_cases ifs env s pSession with ⟨hnot, -⟩ | ⟨key, pFar, r, sessions, -, hp, e⟩
  · exact absurd he (hnot _)
  · rw [e]
    exact hp.length_programs

/-- A removal constructs none. -/
theorem length_step_remove (ifs : Interfaces) (s : State) (seid : UInt64) :
    (step ifs s (.removeBPFSession seid)).programs.length = s.programs.length := by
  rcases step_remove_cases ifs s seid with e | ⟨entry, index, -, -, e⟩
  · rw [e]
  · rw [e]
    simp [State.unregister, State.tearDown]

/-- A run constructs a program for every deployment of it. -/
theorem length_foldl_of_admissible {calls : List Call}
    (ha : Run.Along (step ifs) Admissible s calls) :
    (calls.foldl (step ifs) s).programs.length = s.programs.length + calls.countP isCreate := by
  induction calls generalizing s with
  | nil => rfl
  | cons c calls ih =>
    rw [List.foldl_cons, ih ha.2]
    cases c with
    | removeBPFSession seid =>
      rw [length_step_remove, List.countP_cons_of_neg (by simp [isCreate])]
    | createBPFSession pSession env =>
      obtain ⟨-, key, pFar, he, -⟩ := ha.1
      rw [length_step_create ifs s he, List.countP_cons_of_pos (by rfl)]
      omega

/-- The index never holds more keys than programs were constructed. -/
def IndexFits (s : State) : Prop := s.m_next_rule_prog_index.size ≤ s.programs.length

theorem indexFits_step (ifs : Interfaces) (h : IndexFits s) (c : Call) :
    IndexFits (step ifs s c) := by
  rw [IndexFits] at h ⊢
  cases c with
  | createBPFSession pSession env =>
    rcases index_step_create ifs env s pSession with ⟨key, pFar, index, he, hi, e⟩ | ⟨-, e⟩
    · -- One key more, and one program more.
      have hsize := BoundedMap.size_update_le hi.update_eq
      rw [e, length_step_create ifs s he]
      omega
    · rw [e]
      exact h.trans (step_change ifs s _).length_le
  | removeBPFSession seid =>
    rw [length_step_remove]
    rcases step_remove_cases ifs s seid with e | ⟨entry, index, -, hd, e⟩
    · rw [e]
      exact h
    · rw [e]
      rcases hd with ⟨hd, -⟩ | rfl
      · have hsize := BoundedMap.size_delete hd
        dsimp only
        omega
      · exact h

/-- The two maps of the entry program take a pipeline under the key. -/
structure HasRoom (s : State) (key : NextRuleProgIndexKey) : Prop where
  /-- The index knows the key, or is not full. -/
  index : s.m_next_rule_prog_index.lookup key ≠ none ∨ s.m_next_rule_prog_index.size < 10
  /-- The next id is an index of the prog array. -/
  slot : s.sIdCounter.toNat < 10

/-- There is room exactly when neither map refuses. -/
theorem hasRoom_iff :
    HasRoom s key ↔ (∃ index, s.m_next_rule_prog_index.update key s.sIdCounter = some index) ∧
      ∃ slots, s.m_next_rule_prog.set s.sIdCounter.toNat (some s.programs.length) = some slots := by
  rw [← Option.ne_none_iff_exists', ← Option.ne_none_iff_exists', Ne, Ne,
    BoundedMap.update_eq_none_iff, SlotArray.set_eq_none_iff, not_and_or, not_le, not_le]
  exact ⟨fun h => ⟨h.index, h.slot⟩, fun h => ⟨h.1, h.2⟩⟩

/-- When a deployment returns: the session is complete, nothing fails, and there is room. -/
theorem create_returns_iff :
    (Call.createBPFSession pSession env).Returns ifs s ↔
      env.Faultless ∧ ∃ key pFar, extractPipeline (sortPdrs env pSession) = .ok ⟨key, pFar⟩ ∧
        HasRoom s key := by
  have ho := deploy_outcome ifs env s (sortPdrs env pSession)
  rw [Call.Returns, Call.result, createBPFSession]
  generalize deploy ifs env (sortPdrs env pSession) s = r at ho ⊢
  cases ho with
  | rejected e h =>
    refine iff_of_false id ?_
    rintro ⟨-, key, pFar, he, -⟩
    rw [he] at h
    cases h
  | returned key pFar s' h hp =>
    refine iff_of_true trivial ?_
    cases hp with
    | deployed index slots p hindex hslot hkernel hid hloaded hfar hm =>
      exact ⟨⟨hindex.setsUp, hindex.kernel, hslot.kernel, hkernel⟩, key, pFar, h,
        hasRoom_iff.2 ⟨⟨index, hindex.update_eq⟩, slots, hslot.set_eq⟩⟩
  | threw key pFar e s' h hp =>
    refine iff_of_false id ?_
    rintro ⟨henv, key', pFar', he, hroom⟩
    rw [he] at h
    cases h
    -- No map refuses, so the call has nowhere to throw.
    obtain ⟨⟨index, hu⟩, slots, hs⟩ := hasRoom_iff.1 hroom
    cases hp with
    | unpublished _ p hid hfar hloaded hnot => exact hnot index ⟨henv.toSetsUp, henv.index, hu⟩
    | indexed index' _ hnot => exact hnot slots ⟨henv.prog, hs⟩
    | slotted index' slots' _ _ hnot => exact absurd (henv.far.symm.trans hnot) (by decide)

/-- There is room as long as fewer than nine programs were constructed. -/
theorem create_returns_of_lt (hN : Numbered s) (hf : IndexFits s) (hl : s.programs.length < 9)
    (henv : env.Faultless) (he : extractPipeline (sortPdrs env pSession) = .ok ⟨key, pFar⟩) :
    (Call.createBPFSession pSession env).Returns ifs s := by
  rw [IndexFits] at hf
  refine create_returns_iff.2 ⟨henv, key, pFar, he, .inr (by omega), ?_⟩
  rw [hN.counter, idOf, UInt32.toNat_ofNat']
  omega

/-- Without a slot, it throws. -/
theorem not_returns_of_length_eq (hN : Numbered s) (hl : s.programs.length = 9) :
    ¬ (Call.createBPFSession pSession env).Returns ifs s := by
  intro h
  obtain ⟨key, pFar, index, slots, p, -, -, hs, -⟩ := create_returns h
  have := hN.lt_of_slotWritten (by omega) hs
  omega

/-- The bound from any state: what was constructed, and what is to be deployed. -/
theorem along_createReturns_iff (hN : Numbered s) (hf : IndexFits s) (hl : s.programs.length ≤ 9)
    {calls : List Call} (ha : Run.Along (step ifs) Admissible s calls) :
    Run.Along (step ifs) (CreateReturns ifs) s calls ↔
      s.programs.length + calls.countP isCreate ≤ 9 := by
  induction calls generalizing s with
  | nil => simpa using hl
  | cons c calls ih =>
    have hN' := (step_change ifs s c).numbered hN
    have hf' := indexFits_step ifs hf c
    rw [Run.along_cons]
    cases c with
    | removeBPFSession seid =>
      have hlen := length_step_remove ifs s seid
      rw [ih hN' hf' (by rw [hlen]; exact hl) ha.2, hlen]
      simp [CreateReturns, isCreate]
    | createBPFSession pSession env =>
      obtain ⟨henv, key, pFar, he, -⟩ := ha.1
      have hlen := length_step_create ifs s he
      rw [List.countP_cons_of_pos (by rfl)]
      rcases lt_or_eq_of_le hl with hlt | heq
      · -- A slot is left, and the rest of the run has one less.
        have hret : CreateReturns ifs s (.createBPFSession pSession env) :=
          create_returns_of_lt hN hf hlt henv he
        rw [ih hN' hf' (by omega) ha.2, hlen, and_iff_right hret]
        omega
      · -- The array is used up.
        refine iff_of_false (fun h => not_returns_of_length_eq hN heq h.1) ?_
        omega

end Counting

/-- In a run of admissible calls, no deployment throws exactly when there are at most nine of them,
however few sessions are deployed at a time. -/
theorem creates_return_iff (ifs : Interfaces) (calls : List Call)
    (ha : Run.Along (step ifs) Admissible {} calls) :
    Run.Along (step ifs) (CreateReturns ifs) {} calls ↔ calls.countP isCreate ≤ 9 := by
  rw [along_createReturns_iff numbered_init (Nat.le_refl 0) (Nat.zero_le 9) ha]
  simp

/-- With nothing deployed, the sample session can be. -/
theorem admissible_sampleCreate {s : State} (h : s.mSessionProgramsMap = ∅) :
    Admissible s (sampleCreate 1 100) := by
  refine ⟨⟨⟨⟨rfl, rfl, rfl, rfl⟩, rfl, rfl⟩, rfl, rfl, rfl⟩, _, _, rfl, ?_, ?_⟩
  · intro seid entry hl
    rw [h] at hl
    cases hl
  · rw [h]
    decide

/-- A deployment and a removal. -/
theorem creates_return_iff_sample :
    Run.Along (step sampleInterfaces) (CreateReturns sampleInterfaces) {}
      [sampleCreate 1 100, .removeBPFSession 1] :=
  (creates_return_iff sampleInterfaces [sampleCreate 1 100, .removeBPFSession 1]
    ⟨admissible_sampleCreate rfl, trivial, trivial⟩).2 (by decide)

/-- A session that is deployed and removed, nine times. -/
def nineDeployments : List Call :=
  (List.replicate 9 [sampleCreate 1 100, .removeBPFSession 1]).flatten

/-- And deployed once more. -/
def tenDeployments : List Call := nineDeployments ++ [sampleCreate 1 100]

/-- They are admissible: nothing is deployed before each of them. -/
theorem admissible_tenDeployments :
    Run.Along (step sampleInterfaces) Admissible {} tenDeployments := by
  have h : ∀ s, s.mSessionProgramsMap = ∅ → Admissible s (sampleCreate 1 100) := fun s =>
    admissible_sampleCreate
  exact ⟨h _ rfl, trivial, h _ rfl, trivial, h _ rfl, trivial, h _ rfl, trivial, h _ rfl, trivial,
    h _ rfl, trivial, h _ rfl, trivial, h _ rfl, trivial, h _ rfl, trivial, h _ rfl, trivial⟩

/-- One of them throws, with no other session deployed. -/
theorem tenth_deployment_throws :
    Run.Along (step sampleInterfaces) Admissible {} tenDeployments ∧
      ¬ Run.Along (step sampleInterfaces) (CreateReturns sampleInterfaces) {} tenDeployments := by
  refine ⟨admissible_tenDeployments, fun h => ?_⟩
  have hle := (along_createReturns_iff numbered_init (Nat.le_refl 0) (Nat.zero_le 9)
    admissible_tenDeployments).1 h
  exact absurd hle (by decide)

end UpfBpf
