import UpfBpf.Control.Outcome

/-!
# Delivery to the right program

Two maps and a counter lead from a frame to a program: the index gives an id for the key of the
frame, and the prog array a program for the id. Nothing is ever deleted from the array, and a call
that throws leaves what it has written. What holds all the same is `Numbered`: the ids are the order
of construction, the index only holds ids that were given out, and a slot only holds the program
with its own id. As long as the counter has not come round, an id names one program, and the frame
is handed to the program of the last call that wrote its key.
-/

namespace UpfBpf

open Bytes

/-! ## What a call leaves of the programs -/

/-- A program without its life cycle: what a tear-down does not change. -/
def FARProgram.core (p : FARProgram) : FARProgram := { p with loaded := false }

@[simp] theorem FARProgram.far_core (p : FARProgram) : p.core.far = p.far := rfl

/-- The programs without their life cycles. -/
def State.cores (s : State) : List FARProgram := s.programs.map FARProgram.core

@[simp] theorem length_cores (s : State) : s.cores.length = s.programs.length := by
  simp [State.cores]

@[simp] theorem cores_publish (s : State) (p : FARProgram)
    (index : BoundedMap 10 NextRuleProgIndexKey UInt32) (slots : SlotArray 10 ℕ) :
    (s.publish p index slots).cores = s.cores ++ [p.core] := by
  simp [State.cores, State.publish]

@[simp] theorem cores_tearDown (s : State) (ref : ℕ) : (s.tearDown ref).cores = s.cores := by
  apply List.ext_getElem?
  intro i
  simp only [State.cores, State.tearDown, List.getElem?_map, List.getElem?_modify]
  cases s.programs[i]? with
  | none => rfl
  | some p => by_cases h : ref = i <;> simp [h, FARProgram.core]

@[simp] theorem cores_destroy (s : State) (o : Option SessionPrograms) :
    (s.destroy o).cores = s.cores := by
  cases o with
  | none => rfl
  | some entry => exact cores_tearDown s entry.mpFARProgram

@[simp] theorem cores_register (s : State) (seid : UInt32) (entry : SessionPrograms) :
    (s.register seid entry).cores = s.cores :=
  cores_destroy s _

@[simp] theorem cores_unregister (s : State) (seid : UInt32) (entry : SessionPrograms) :
    (s.unregister seid entry).cores = s.cores :=
  cores_tearDown s _

@[simp] theorem cores_deploy (s : State) (p : FARProgram)
    (index : BoundedMap 10 NextRuleProgIndexKey UInt32) (slots : SlotArray 10 ℕ)
    (key : NextRuleProgIndexKey) (pSession : PfcpSession) :
    (s.deploy p index slots key pSession).cores = s.cores ++ [p.core] :=
  (cores_register (s.publish p index slots) pSession.seid.toUInt32 ⟨key, s.programs.length⟩).trans
    (cores_publish s p index slots)

theorem destroy_eq (s : State) (o : Option SessionPrograms) :
    s.destroy o = { s with programs := (s.destroy o).programs } := by
  cases o <;> rfl

/-- A call constructs no program, or one program, which takes the next id. -/
inductive Change (s s' : State) : Prop
  /-- No program is constructed. -/
  | keeps (hc : s'.cores = s.cores) (hn : s'.sIdCounter = s.sIdCounter)
      (hs : s'.m_next_rule_prog = s.m_next_rule_prog)
      (hi : ∀ k id, s'.m_next_rule_prog_index.lookup k = some id →
        s.m_next_rule_prog_index.lookup k = some id)
  /-- One program is constructed, and nothing but its id enters the maps. -/
  | grows (p : FARProgram) (hid : p.mId = s.sIdCounter) (hc : s'.cores = s.cores ++ [p])
      (hn : s'.sIdCounter = s.sIdCounter + 1)
      (hs : ∀ j ref, s'.m_next_rule_prog.get j = some ref →
        s.m_next_rule_prog.get j = some ref ∨ j = s.sIdCounter.toNat ∧ ref = s.programs.length)
      (hi : ∀ k id, s'.m_next_rule_prog_index.lookup k = some id →
        s.m_next_rule_prog_index.lookup k = some id ∨ id = s.sIdCounter)

/-- The sessions that were seen do not matter to it. -/
theorem Change.withSessions {s s' : State} (h : Change s s')
    (m : AList (fun _ : UInt64 => PfcpSession)) : Change s { s' with mSeidToSession := m } := by
  cases h with
  | keeps hc hn hs hi => exact .keeps hc hn hs hi
  | grows p hid hc hn hs hi => exact .grows p hid hc hn hs hi

section Change

variable {ifs : Interfaces} {env : Env} {s : State} {seid : UInt32} {key : NextRuleProgIndexKey}
  {pFar : PfcpFar}

/-- An index that was written. -/
theorem IndexWritten.lookup_cases {index : BoundedMap 10 NextRuleProgIndexKey UInt32}
    (h : IndexWritten env s key index) (k : NextRuleProgIndexKey) (id : UInt32)
    (hk : index.lookup k = some id) :
    s.m_next_rule_prog_index.lookup k = some id ∨ id = s.sIdCounter := by
  rw [BoundedMap.lookup_update h.update_eq] at hk
  split_ifs at hk
  · exact .inr (Option.some.inj hk).symm
  · exact .inl hk

/-- A prog array that was written. -/
theorem SlotWritten.get_cases {slots : SlotArray 10 ℕ} (h : SlotWritten env s slots) (j ref : ℕ)
    (hj : slots.get j = some ref) :
    s.m_next_rule_prog.get j = some ref ∨ j = s.sIdCounter.toNat ∧ ref = s.programs.length := by
  rw [SlotArray.get_set h.set_eq] at hj
  split_ifs at hj with e
  · exact .inr ⟨e, (Option.some.inj hj).symm⟩
  · exact .inl hj

/-- `createPipeline` constructs one program. -/
theorem PipelineOutcome.change {r : EStateM.Result Err State Unit}
    (h : PipelineOutcome ifs env s seid key pFar r) : Change s (stateAfter r) := by
  cases h with
  | unpublished e p hid hfar hloaded hnot =>
    -- The program is there, and nothing leads to it.
    exact .grows p.core hid (cores_publish s p _ _) rfl (fun j ref h => .inl h)
      (fun k id h => .inl h)
  | indexed index hindex hnot =>
    exact .grows _ rfl (cores_publish s _ _ _) rfl (fun j ref h => .inl h) hindex.lookup_cases
  | slotted index slots hindex hslot hnot =>
    exact .grows _ rfl (cores_publish s _ _ _) rfl hslot.get_cases hindex.lookup_cases
  | deployed index slots p hindex hslot hkernel hid hloaded hfar hm =>
    refine .grows p.core hid ?_ ?_ ?_ ?_
    · rw [stateAfter, cores_register, cores_publish]
    all_goals rw [stateAfter, State.register, destroy_eq]
    · rfl
    · exact hslot.get_cases
    · exact hindex.lookup_cases

end Change

/-- Every call is such a change. -/
theorem step_change (ifs : Interfaces) (s : State) (c : Call) : Change s (step ifs s c) := by
  have hrefl : Change s s := .keeps rfl rfl rfl fun k id h => h
  cases c with
  | createBPFSession pSession env =>
    rcases step_create_cases ifs env s pSession with ⟨-, e⟩ | ⟨key, pFar, r, sessions, -, hp, e⟩
    · rw [e]
      exact hrefl
    · rw [e]
      exact hp.change.withSessions sessions
  | removeBPFSession seid =>
    rcases step_remove_cases ifs s seid with e | ⟨entry, index, -, hd, e⟩
    · rw [e]
      exact hrefl
    · rw [e]
      refine .keeps (cores_unregister s seid.toUInt32 entry) rfl rfl fun k id hk => ?_
      -- The index has lost at most the entry's key.
      rcases hd with ⟨hd, -⟩ | rfl
      · rw [BoundedMap.lookup_delete hd] at hk
        split_ifs at hk
        exact hk
      · exact hk

/-! ## Programs and their ids -/

/-- The id of the program that is constructed as number `i`, from 0 on. -/
def idOf (i : ℕ) : UInt32 := UInt32.ofNat (1 + i)

theorem idOf_succ (i : ℕ) : idOf (i + 1) = idOf i + 1 := by
  simp [idOf, ← add_assoc, UInt32.ofNat_add]

/-- As long as the counter has not come round, an id names one program. -/
theorem idOf_inj {i j : ℕ} (hi : i < 2^32 - 1) (hj : j < 2^32 - 1) (h : idOf i = idOf j) :
    i = j := by
  have e := congrArg UInt32.toNat h
  rw [idOf, idOf, UInt32.toNat_ofNat', UInt32.toNat_ofNat'] at e
  omega

/-- The ids are the order of construction, and the maps only hold what was given out. -/
structure Numbered (s : State) : Prop where
  /-- The counter is the next id. -/
  counter : s.sIdCounter = idOf s.programs.length
  /-- A program has the id of its place. -/
  ids : ∀ i p, s.cores[i]? = some p → p.mId = idOf i
  /-- The index holds ids of programs. -/
  index : ∀ k id, s.m_next_rule_prog_index.lookup k = some id → ∃ i < s.programs.length, id = idOf i
  /-- A slot holds a program with its own id. -/
  slots : ∀ j ref, s.m_next_rule_prog.get j = some ref →
    ref < s.programs.length ∧ j = (idOf ref).toNat

theorem numbered_init : Numbered {} where
  counter := rfl
  ids := by simp [State.cores]
  index := by simp
  slots := by simp

theorem Change.numbered {s s' : State} (h : Change s s') (hN : Numbered s) : Numbered s' := by
  cases h with
  | keeps hc hn hs hi =>
    have hl : s'.programs.length = s.programs.length := by rw [← length_cores, hc, length_cores]
    refine ⟨by rw [hn, hN.counter, hl], by rw [hc]; exact hN.ids, ?_,
      by rw [hs, hl]; exact hN.slots⟩
    intro k id hk
    rw [hl]
    exact hN.index k id (hi k id hk)
  | grows p hid hc hn hs hi =>
    have hl : s'.programs.length = s.programs.length + 1 := by
      rw [← length_cores, hc, List.length_append, length_cores]; rfl
    refine ⟨by rw [hn, hN.counter, hl, idOf_succ], ?_, ?_, ?_⟩
    · -- The new program is in the last place, and its id is that of the place.
      intro i q hq
      rw [hc, List.getElem?_append] at hq
      split_ifs at hq with hlt
      · exact hN.ids i q hq
      · rw [List.getElem?_singleton] at hq
        split_ifs at hq with h0
        cases hq
        rw [length_cores] at hlt h0
        rw [hid, hN.counter]
        congr 1
        omega
    · intro k id hk
      rw [hl]
      rcases hi k id hk with h | rfl
      · obtain ⟨i, hlt, e⟩ := hN.index k id h
        exact ⟨i, by omega, e⟩
      · exact ⟨s.programs.length, by omega, hN.counter⟩
    · intro j ref hj
      rw [hl]
      rcases hs j ref hj with h | ⟨rfl, rfl⟩
      · obtain ⟨hlt, e⟩ := hN.slots j ref h
        exact ⟨by omega, e⟩
      · exact ⟨by omega, by rw [hN.counter]⟩

/-- Every run keeps the numbering. -/
theorem numbered_run (ifs : Interfaces) (calls : List Call) : Numbered (run ifs calls) :=
  Run.invariant numbered_init (fun s c hN => (step_change ifs s c).numbered hN) calls

/-- A program that was constructed stays in its place, with its maps. -/
theorem Change.cores_getElem? {s s' : State} (h : Change s s') {i : ℕ} {p : FARProgram}
    (hp : s.cores[i]? = some p) : s'.cores[i]? = some p := by
  cases h with
  | keeps hc hn hs hi => rw [hc, hp]
  | grows q hid hc hn hs hi =>
    have hlt : i < s.cores.length := (List.getElem?_eq_some_iff.1 hp).1
    rw [hc, List.getElem?_append_left hlt, hp]

/-- No call takes a program away. -/
theorem Change.length_le {s s' : State} (h : Change s s') :
    s.programs.length ≤ s'.programs.length := by
  rw [← length_cores, ← length_cores]
  cases h with
  | keeps hc hn hs hi => rw [hc]
  | grows q hid hc hn hs hi => rw [hc, List.length_append]; omega

/-- A call constructs one program at most. -/
theorem Change.length_le_succ {s s' : State} (h : Change s s') :
    s'.programs.length ≤ s.programs.length + 1 := by
  rw [← length_cores s, ← length_cores s']
  cases h with
  | keeps hc hn hs hi =>
    rw [hc]
    exact Nat.le_succ _
  | grows p hid hc hn hs hi => rw [hc, List.length_append, List.length_singleton]

/-- No run takes a program away. -/
theorem length_le_foldl (ifs : Interfaces) (s : State) (calls : List Call) :
    s.programs.length ≤ (calls.foldl (step ifs) s).programs.length :=
  Run.invariant (I := fun t => s.programs.length ≤ t.programs.length) le_rfl
    (fun t c h => h.trans (step_change ifs t c).length_le) calls

/-- A run leaves the programs that were constructed before. -/
theorem cores_foldl (ifs : Interfaces) {s : State} (calls : List Call) {i : ℕ} {p : FARProgram}
    (hp : s.cores[i]? = some p) : (calls.foldl (step ifs) s).cores[i]? = some p :=
  Run.invariant (I := fun t => t.cores[i]? = some p) hp
    (fun t c h => (step_change ifs t c).cores_getElem? h) calls

/-! ## The last call that wrote a key -/

section LastWriter

variable {ifs : Interfaces} {env : Env} {s : State} {c : Call} {seid : UInt32}
  {key : NextRuleProgIndexKey} {pFar : PfcpFar} {id : UInt32}

/-- The index after `createPipeline`. -/
theorem PipelineOutcome.index_eq {r : EStateM.Result Err State Unit}
    (h : PipelineOutcome ifs env s seid key pFar r) :
    (∃ index, IndexWritten env s key index ∧ (stateAfter r).m_next_rule_prog_index = index) ∨
      ((∀ index, ¬ IndexWritten env s key index) ∧
        (stateAfter r).m_next_rule_prog_index = s.m_next_rule_prog_index) := by
  cases h with
  | unpublished e p hid hfar hloaded hnot => exact .inr ⟨hnot, rfl⟩
  | indexed index hindex hnot => exact .inl ⟨index, hindex, rfl⟩
  | slotted index slots hindex hslot hnot => exact .inl ⟨index, hindex, rfl⟩
  | deployed index slots p hindex hslot hkernel hid hloaded hfar hm =>
    refine .inl ⟨index, hindex, ?_⟩
    rw [stateAfter, State.register, destroy_eq]
    rfl

/-- The index after `createBPFSession`. -/
theorem index_step_create (ifs : Interfaces) (env : Env) (s : State) (pSession : PfcpSession) :
    (∃ key pFar index, extractPipeline (sortPdrs env pSession) = .ok ⟨key, pFar⟩ ∧
        IndexWritten env s key index ∧
        (step ifs s (.createBPFSession pSession env)).m_next_rule_prog_index = index) ∨
      ((∀ key pFar index, extractPipeline (sortPdrs env pSession) = .ok ⟨key, pFar⟩ →
          ¬ IndexWritten env s key index) ∧
        (step ifs s (.createBPFSession pSession env)).m_next_rule_prog_index =
          s.m_next_rule_prog_index) := by
  rcases step_create_cases ifs env s pSession with ⟨hnot, e⟩ | ⟨key, pFar, r, sessions, h, hp, e⟩
  · exact .inr ⟨fun key pFar index h => absurd h (hnot _), by rw [e]⟩
  · rw [e]
    rcases hp.index_eq with ⟨index, hw, he⟩ | ⟨hnot, he⟩
    · exact .inl ⟨key, pFar, index, h, hw, he⟩
    · refine .inr ⟨fun key' pFar' index h' => ?_, he⟩
      -- The pipeline that is extracted is one.
      rw [h] at h'
      cases h'
      exact hnot index

/-- What it means to write a key, by the guards of the call. -/
theorem writesIndex_create_iff {pSession : PfcpSession} :
    (Call.createBPFSession pSession env).WritesIndex ifs s key ↔
      ∃ pFar index, extractPipeline (sortPdrs env pSession) = .ok ⟨key, pFar⟩ ∧
        IndexWritten env s key index := by
  simp only [Call.WritesIndex, returned_publishIndex_iff]
  constructor
  · rintro ⟨pFar, he, index, hi⟩
    exact ⟨pFar, index, he, hi⟩
  · rintro ⟨pFar, index, he, hi⟩
    exact ⟨pFar, he, index, hi⟩

/-- A call that writes a key writes the id of the program that it constructs. -/
theorem lookup_step_of_writesIndex (h : c.WritesIndex ifs s key) :
    (step ifs s c).m_next_rule_prog_index.lookup key = some s.sIdCounter := by
  cases c with
  | removeBPFSession seid => exact h.elim
  | createBPFSession pSession env =>
    obtain ⟨pFar, index, he, hi⟩ := writesIndex_create_iff.1 h
    rcases index_step_create ifs env s pSession with ⟨key', pFar', index', he', hi', e⟩ | ⟨hnot, -⟩
    · rw [he] at he'
      cases he'
      rw [e]
      exact BoundedMap.lookup_update_self hi'.update_eq
    · exact absurd hi (hnot key pFar index he)

/-- A deployment that does not write a key leaves what the index holds for it. -/
theorem lookup_step_create {pSession : PfcpSession}
    (h : ¬ (Call.createBPFSession pSession env).WritesIndex ifs s key) :
    (step ifs s (.createBPFSession pSession env)).m_next_rule_prog_index.lookup key =
      s.m_next_rule_prog_index.lookup key := by
  rcases index_step_create ifs env s pSession with ⟨key', pFar', index', he', hi', e⟩ | ⟨-, e⟩
  · have hne : key ≠ key' := by
      rintro rfl
      exact h (writesIndex_create_iff.2 ⟨pFar', index', he', hi'⟩)
    rw [e, BoundedMap.lookup_update_ne hi'.update_eq hne]
  · rw [e]

/-- A call that does not write a key leaves its id, or removes it. -/
theorem lookup_of_lookup_step (h : ¬ c.WritesIndex ifs s key)
    (hs : (step ifs s c).m_next_rule_prog_index.lookup key = some id) :
    s.m_next_rule_prog_index.lookup key = some id := by
  cases c with
  | createBPFSession pSession env => rwa [lookup_step_create h] at hs
  | removeBPFSession seid =>
    rcases step_remove_cases ifs s seid with e | ⟨entry, index, -, hd, e⟩
    · rwa [e] at hs
    · rw [e] at hs
      rcases hd with ⟨hd, -⟩ | rfl
      · rw [BoundedMap.lookup_delete hd] at hs
        split_ifs at hs
        exact hs
      · exact hs

/-- After a call, the index holds an id for a key because the call wrote it, or because it was there
and the call did not write the key. -/
theorem writesIndex_of_lookup_step (ifs : Interfaces) (key : NextRuleProgIndexKey) (ref : ℕ)
    (s : State) (c : Call)
    (h : (step ifs s c).m_next_rule_prog_index.lookup key = some (idOf ref)) :
    (c.WritesIndex ifs s key ∧ s.sIdCounter = idOf ref) ∨
      s.m_next_rule_prog_index.lookup key = some (idOf ref) ∧ ¬ c.WritesIndex ifs s key := by
  by_cases hw : c.WritesIndex ifs s key
  · rw [lookup_step_of_writesIndex hw] at h
    exact .inl ⟨hw, Option.some.inj h⟩
  · exact .inr ⟨lookup_of_lookup_step hw h, hw⟩

/-- A call that returns has stored its FAR in the program that it constructed. -/
theorem far_of_returns {pSession : PfcpSession}
    (he : extractPipeline (sortPdrs env pSession) = .ok ⟨key, pFar⟩)
    (h : (Call.createBPFSession pSession env).Returns ifs s) :
    ∃ p, (step ifs s (.createBPFSession pSession env)).cores[s.programs.length]? = some p ∧
      p.far = some (farOf pFar) := by
  obtain ⟨key', pFar', index, slots, p, he', -, -, -, -, hfar, -, hstep⟩ := create_returns h
  rw [he] at he'
  cases he'
  refine ⟨p.core, ?_, hfar⟩
  rw [hstep, cores_deploy, ← length_cores, List.getElem?_concat_length]

end LastWriter

/-- What a tail call says about the index: it holds the id of the program that is called. -/
theorem Numbered.lookup_of_tailCall {s : State} (hN : Numbered s) {key : NextRuleProgIndexKey}
    {ref : ℕ} (h : tailCallNextProg s key = some ref) :
    s.m_next_rule_prog_index.lookup key = some (idOf ref) ∧ ref < s.programs.length := by
  obtain ⟨id, hid, hslot⟩ := Option.bind_eq_some_iff.1 h
  obtain ⟨hlt, e⟩ := hN.slots _ ref hslot
  rw [hid, UInt32.toNat_inj.1 e]
  exact ⟨rfl, hlt⟩

/-- The keys that lead to a program: the index holds its id, and its slot holds it. -/
theorem Numbered.tailCallNextProg_eq_some_iff {s : State} (hN : Numbered s)
    {key : NextRuleProgIndexKey} {ref : ℕ} :
    tailCallNextProg s key = some ref ↔
      s.m_next_rule_prog_index.lookup key = some (idOf ref) ∧
        s.m_next_rule_prog.get (idOf ref).toNat = some ref := by
  constructor
  · intro h
    have hlook := (hN.lookup_of_tailCall h).1
    refine ⟨hlook, ?_⟩
    rw [tailCallNextProg, hlook] at h
    exact h
  · rintro ⟨hlook, hslot⟩
    rw [tailCallNextProg, hlook]
    exact hslot

/-- The program that a key leads to is the one that the last call that wrote the key constructed. -/
theorem exists_writer {ifs : Interfaces} {calls : List Call} {key : NextRuleProgIndexKey} {ref : ℕ}
    (hn : (run ifs calls).programs.length < 2^32 - 1)
    (h : tailCallNextProg (run ifs calls) key = some ref) :
    ∃ pre pSession env post pFar, calls = pre ++ .createBPFSession pSession env :: post ∧
      extractPipeline (sortPdrs env pSession) = .ok ⟨key, pFar⟩ ∧
      ref = (run ifs pre).programs.length ∧
      (Call.createBPFSession pSession env).WritesIndex ifs (run ifs pre) key ∧
      Run.Along (step ifs) (fun s c => ¬ c.WritesIndex ifs s key)
        (step ifs (run ifs pre) (.createBPFSession pSession env)) post := by
  obtain ⟨hlook, hlt⟩ := (numbered_run ifs calls).lookup_of_tailCall h
  -- The last call that made the index hold the id of the program.
  obtain ⟨pre, c, post, rfl, ⟨hw, hid⟩, hpost⟩ :=
    Run.exists_last_cause
      (D := fun t : State => t.m_next_rule_prog_index.lookup key = some (idOf ref))
      (by simp) (writesIndex_of_lookup_step ifs key ref) hlook
  cases c with
  | removeBPFSession seid => exact hw.elim
  | createBPFSession pSession env =>
    obtain ⟨pFar, index, he, hi⟩ := writesIndex_create_iff.1 hw
    -- The id that it wrote is that of the program called, and no other program has it.
    have hpre : (run ifs pre).programs.length < 2^32 - 1 := by
      refine lt_of_le_of_lt ?_ hn
      rw [run_append]
      exact length_le_foldl ifs _ _
    have href : ref = (run ifs pre).programs.length := by
      apply idOf_inj (hlt.trans hn) hpre
      rw [← (numbered_run ifs pre).counter]
      exact hid.symm
    exact ⟨pre, pSession, env, post, pFar, rfl, he, href, hw, hpost⟩

/-- A frame is only handed to the program of the last call that wrote its key, and that program
holds the FAR of the call, if the call returned. -/
theorem tailCall_last_writer (ifs : Interfaces) (calls : List Call)
    (hn : (run ifs calls).programs.length < 2^32 - 1) (mc_stats : McStats) (ctx : XdpMd) (ref : ℕ)
    (h : (entryPoint (tailCallNextProg (run ifs calls)) mc_stats ctx).1 = .tailCall ref) :
    ∃ key pre pSession env post pFar p,
      detect ctx = .tailCall key ∧
      calls = pre ++ .createBPFSession pSession env :: post ∧
      extractPipeline (sortPdrs env pSession) = .ok ⟨key, pFar⟩ ∧
      ref = (run ifs pre).programs.length ∧
      (Call.createBPFSession pSession env).WritesIndex ifs (run ifs pre) key ∧
      Run.Along (step ifs) (fun s c => ¬ c.WritesIndex ifs s key)
        (step ifs (run ifs pre) (.createBPFSession pSession env)) post ∧
      (run ifs calls).programs[ref]? = some p ∧
      ((Call.createBPFSession pSession env).Returns ifs (run ifs pre) →
        p.far = some (farOf pFar)) := by
  rw [entryPoint_fst, ethHandle_eq_tailCall_iff] at h
  obtain ⟨key, hkey, htail⟩ := h
  have hlt := ((numbered_run ifs calls).lookup_of_tailCall htail).2
  obtain ⟨pre, pSession, env, post, pFar, rfl, he, href, hw, hpost⟩ := exists_writer hn htail
  obtain ⟨p, hp⟩ : ∃ p, (run ifs (pre ++ .createBPFSession pSession env :: post)).programs[ref]? =
      some p := ⟨_, List.getElem?_eq_getElem hlt⟩
  refine ⟨key, pre, pSession, env, post, pFar, p, hkey, rfl, he, href, hw, hpost, hp,
    fun hret => ?_⟩
  obtain ⟨q, hq, hfar⟩ := far_of_returns he hret
  -- No later call reaches into the maps of the program.
  have hsplit : run ifs (pre ++ .createBPFSession pSession env :: post) =
      post.foldl (step ifs) (step ifs (run ifs pre) (.createBPFSession pSession env)) := by
    rw [run_append, List.foldl_cons]
  have hq' := cores_foldl ifs post hq
  rw [← hsplit, ← href, State.cores, List.getElem?_map, hp] at hq'
  rw [← hfar, ← Option.some.inj hq', FARProgram.far_core]

/-- A GTP-U frame of the sample session, with a packet of 20 bytes for 8.8.8.8 in it. -/
def sampleUplinkFrame (teid : UInt32) : List UInt8 :=
  ([2, 0, 0, 0, 0, 1] ++ [2, 0, 0, 0, 0, 2] ++ be16 0x0800) ++
    ([0x45, 0] ++ be16 56 ++ [0, 0, 0, 0, 64, 17, 0, 0] ++ le32 0x0a0a0a0a ++ le32 localIp) ++
    (be16 2152 ++ be16 2152 ++ be16 36 ++ [0, 0]) ++
    ([0x30, 255] ++ be16 20 ++ le32 teid) ++
    ([0x45, 0] ++ be16 20 ++ [0, 0, 0, 0, 64, 17, 0, 0] ++ le32 0x0a0a0a0a ++ le32 0x08080808)

/-- Of two sessions, the frame of the second is handed to the second program. -/
theorem tailCall_last_writer_sample :
    let calls := [sampleCreate 1 100, sampleCreate 2 200]
    (run sampleInterfaces calls).programs.length < 2^32 - 1 ∧
      (entryPoint (tailCallNextProg (run sampleInterfaces calls)) (fun _ => {})
        ⟨[], sampleUplinkFrame 200⟩).1 = .tailCall 1 ∧
      ∃ pre pSession env post, calls = pre ++ .createBPFSession pSession env :: post ∧
        (run sampleInterfaces pre).programs.length = 1 := by
  intro calls
  have hn : (run sampleInterfaces calls).programs.length < 2^32 - 1 := by decide
  have h : (entryPoint (tailCallNextProg (run sampleInterfaces calls)) (fun _ => {})
      ⟨[], sampleUplinkFrame 200⟩).1 = .tailCall 1 := by decide
  obtain ⟨key, pre, pSession, env, post, pFar, p, -, hc, -, href, -⟩ :=
    tailCall_last_writer sampleInterfaces calls hn _ _ 1 h
  exact ⟨hn, h, pre, pSession, env, post, hc, href.symm⟩

end UpfBpf
