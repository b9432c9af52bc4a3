import UpfBpf.Control.Delivery
import UpfBpf.Lib.TwoKeys

/-!
# The index and the registry

The registry knows the pipelines by their SEID, and the index by their key. A call that returns
writes both, and looks at neither before: an SEID that is deployed again leaves its old key in the
index, and a key that is deployed again leaves its old session in the registry. `Deployed` is the
invariant of the runs in which neither happens, and `inStep_iff` says that these are the runs in
which the two maps agree. The argument about the two maps is that of `TwoKeys`, with the SEID as the
owner, and the id of the program as the value.
-/

namespace UpfBpf

open TwoKeys

/-- The index and the registry agree. -/
structure InStep (s : State) : Prop where
  /-- The keys of the index are those of the registry, each with the id of the entry's program. -/
  mirror : ∀ k id, s.m_next_rule_prog_index.lookup k = some id ↔
    ∃ seid entry p, s.mSessionProgramsMap.lookup seid = some entry ∧ entry.mKey = k ∧
      s.programs[entry.mpFARProgram]? = some p ∧ p.mId = id
  /-- No packet is dispatched to a program that is torn down. -/
  dispatch : ∀ mc_stats ctx ref, (entryPoint (tailCallNextProg s) mc_stats ctx).1 = .tailCall ref →
    s.Loaded ref
  /-- No deployed session is missing from the index. -/
  complete : ∀ seid entry, s.mSessionProgramsMap.lookup seid = some entry →
    ∃ p, s.programs[entry.mpFARProgram]? = some p ∧
      s.m_next_rule_prog_index.lookup entry.mKey = some p.mId

/-- A deployment that keeps the maps in step: the SEID is registered under the key or not at all,
and no other SEID is. -/
def KeepsInStep (s : State) : Call → Prop
  | .createBPFSession pSession env => ∀ key pFar,
    extractPipeline (sortPdrs env pSession) = .ok ⟨key, pFar⟩ →
      ∀ seid entry, s.mSessionProgramsMap.lookup seid = some entry →
        (seid = pSession.seid.toUInt32 ↔ entry.mKey = key)
  | .removeBPFSession _ => True

/-! ## Loaded programs -/

theorem State.Loaded.lt {s : State} {ref : ℕ} (h : s.Loaded ref) : ref < s.programs.length := by
  obtain ⟨p, hp, -⟩ := h
  exact (List.getElem?_eq_some_iff.1 hp).1

theorem loaded_tearDown_iff {s : State} {ref i : ℕ} :
    (s.tearDown ref).Loaded i ↔ s.Loaded i ∧ i ≠ ref := by
  simp only [State.Loaded, State.tearDown, List.getElem?_modify]
  by_cases h : ref = i
  · subst h
    cases s.programs[ref]? <;> simp
  · cases s.programs[i]? <;> simp [h, Ne.symm h]

theorem loaded_destroy_iff {s : State} {o : Option SessionPrograms} {i : ℕ} :
    (s.destroy o).Loaded i ↔ s.Loaded i ∧ ∀ entry, o = some entry → i ≠ entry.mpFARProgram := by
  cases o with
  | none => simp [State.destroy]
  | some entry => simp [State.destroy, loaded_tearDown_iff]

theorem loaded_publish_iff {s : State} {p : FARProgram}
    {index : BoundedMap 10 NextRuleProgIndexKey UInt32} {slots : SlotArray 10 ℕ} {i : ℕ} :
    (s.publish p index slots).Loaded i ↔
      s.Loaded i ∨ i = s.programs.length ∧ p.loaded = true := by
  simp only [State.Loaded, State.publish, List.getElem?_append]
  split_ifs with h
  · have hne : i ≠ s.programs.length := by omega
    simp [hne]
  · rw [List.getElem?_singleton, List.getElem?_eq_none (not_lt.1 h)]
    by_cases h0 : i = s.programs.length
    · simp [h0]
    · have : ¬ i - s.programs.length = 0 := by omega
      simp [h0, this]

/-- The program of a place has the id of the place. -/
theorem Numbered.mId_eq {s : State} (hN : Numbered s) {i : ℕ} {p : FARProgram}
    (hp : s.programs[i]? = some p) : p.mId = idOf i := by
  have h : s.cores[i]? = some p.core := by rw [State.cores, List.getElem?_map, hp]; rfl
  exact hN.ids i p.core h

/-! ## The invariant -/

/-- The registry as a table of keys and ids. -/
def State.registered (s : State) (seid : UInt32) : Option (NextRuleProgIndexKey × UInt32) :=
  (s.mSessionProgramsMap.lookup seid).map fun entry => (entry.mKey, idOf entry.mpFARProgram)

theorem registered_eq_some_iff {s : State} {seid : UInt32} {k : NextRuleProgIndexKey}
    {id : UInt32} :
    s.registered seid = some (k, id) ↔ ∃ entry, s.mSessionProgramsMap.lookup seid = some entry ∧
      entry.mKey = k ∧ idOf entry.mpFARProgram = id := by
  simp [State.registered, Option.map_eq_some_iff]

/-- What holds in a run that keeps the maps in step. -/
structure Deployed (s : State) : Prop where
  /-- The ids are the order of construction. -/
  numbered : Numbered s
  /-- There is a slot for every program. -/
  few : s.programs.length < 10
  /-- The index mirrors the registry. -/
  mirrors : Mirrors s.m_next_rule_prog_index.lookup s.registered
  /-- No two entries have one program. -/
  valueInj : ValueInj s.registered
  /-- The programs of the registry are loaded. -/
  loaded : ∀ seid entry, s.mSessionProgramsMap.lookup seid = some entry →
    s.Loaded entry.mpFARProgram

theorem deployed_init : Deployed {} where
  numbered := numbered_init
  few := by decide
  mirrors := by simp [Mirrors, State.registered]
  valueInj := by simp [ValueInj, State.registered]
  loaded := by simp

/-- The invariant says that the maps are in step. -/
theorem Deployed.inStep {s : State} (h : Deployed s) : InStep s where
  mirror := by
    intro k id
    rw [h.mirrors]
    constructor
    · rintro ⟨seid, hr⟩
      obtain ⟨entry, he, hk, rfl⟩ := registered_eq_some_iff.1 hr
      obtain ⟨p, hp, -⟩ := h.loaded seid entry he
      exact ⟨seid, entry, p, he, hk, hp, h.numbered.mId_eq hp⟩
    · rintro ⟨seid, entry, p, he, hk, hp, rfl⟩
      exact ⟨seid, registered_eq_some_iff.2 ⟨entry, he, hk, (h.numbered.mId_eq hp).symm⟩⟩
  dispatch := by
    intro mc_stats ctx ref ht
    rw [entryPoint_fst, ethHandle_eq_tailCall_iff] at ht
    obtain ⟨key, -, htail⟩ := ht
    obtain ⟨hlook, hlt⟩ := h.numbered.lookup_of_tailCall htail
    -- The id in the index is that of an entry, whose program is then the one that is called.
    obtain ⟨seid, hr⟩ := (h.mirrors key _).1 hlook
    obtain ⟨entry, he, -, hid⟩ := registered_eq_some_iff.1 hr
    have hl := h.loaded seid entry he
    have hl' := hl.lt
    have hfew := h.few
    have href : entry.mpFARProgram = ref := idOf_inj (by omega) (by omega) hid
    rw [← href]
    exact hl
  complete := by
    intro seid entry he
    obtain ⟨p, hp, -⟩ := h.loaded seid entry he
    refine ⟨p, hp, ?_⟩
    rw [h.mirrors, h.numbered.mId_eq hp]
    exact ⟨seid, registered_eq_some_iff.2 ⟨entry, he, rfl, rfl⟩⟩

/-- Maps that are in step mirror each other. -/
theorem InStep.mirrors {s : State} (h : InStep s) (hN : Numbered s) :
    Mirrors s.m_next_rule_prog_index.lookup s.registered := by
  intro k id
  rw [h.mirror]
  constructor
  · rintro ⟨seid, entry, p, he, hk, hp, rfl⟩
    exact ⟨seid, registered_eq_some_iff.2 ⟨entry, he, hk, (hN.mId_eq hp).symm⟩⟩
  · rintro ⟨seid, hr⟩
    obtain ⟨entry, he, hk, rfl⟩ := registered_eq_some_iff.1 hr
    obtain ⟨p, hp, -⟩ := h.complete seid entry he
    exact ⟨seid, entry, p, he, hk, hp, hN.mId_eq hp⟩

/-! ## Steps -/

section Steps

variable {ifs : Interfaces} {s : State} {pSession : PfcpSession} {env : Env} {seid : UInt64}
  {p : FARProgram} {index : BoundedMap 10 NextRuleProgIndexKey UInt32} {slots : SlotArray 10 ℕ}
  {key : NextRuleProgIndexKey}

/-- The programs that are loaded after a deployment. -/
theorem loaded_deploy_iff {i : ℕ} :
    (s.deploy p index slots key pSession).Loaded i ↔
      (s.Loaded i ∨ i = s.programs.length ∧ p.loaded = true) ∧
        ∀ entry, s.mSessionProgramsMap.lookup pSession.seid.toUInt32 = some entry →
          i ≠ entry.mpFARProgram := by
  have hp : (s.publish p index slots).Loaded i ↔
      s.Loaded i ∨ i = s.programs.length ∧ p.loaded = true :=
    loaded_publish_iff
  rw [← hp]
  exact loaded_destroy_iff

/-- A deployment is an insertion into the registry. -/
theorem registered_deploy :
    (s.deploy p index slots key pSession).registered = Function.update s.registered
      pSession.seid.toUInt32 (some (key, idOf s.programs.length)) := by
  funext a
  rw [State.registered, lookup_deploy, Function.update_apply]
  split_ifs <;> rfl

/-- A removal is an erasure from it. -/
theorem registered_unregister (a : UInt32) (entry : SessionPrograms) :
    (s.unregister a entry).registered = Function.update s.registered a none := by
  funext b
  rw [State.registered, lookup_unregister, Function.update_apply]
  split_ifs <;> rfl

/-- An index that was written. -/
theorem IndexWritten.lookup_eq (h : IndexWritten env s key index) :
    index.lookup = Function.update s.m_next_rule_prog_index.lookup key (some s.sIdCounter) := by
  funext k
  rw [BoundedMap.lookup_update h.update_eq, Function.update_apply]

/-- What it means to keep the maps in step. -/
theorem keepsInStep_create_iff {pFar : PfcpFar}
    (he : extractPipeline (sortPdrs env pSession) = .ok ⟨key, pFar⟩) :
    KeepsInStep s (.createBPFSession pSession env) ↔
      Fits s.registered pSession.seid.toUInt32 key := by
  constructor
  · intro h a l id hr
    obtain ⟨entry, hl, rfl, -⟩ := registered_eq_some_iff.1 hr
    exact h key pFar he a entry hl
  · intro h key' pFar' he' a entry hl
    rw [he] at he'
    cases he'
    exact h (registered_eq_some_iff.2 ⟨entry, hl, rfl, rfl⟩)

/-- An id that has a slot. -/
theorem Numbered.lt_of_slotWritten (hN : Numbered s) (hfew : s.programs.length < 10)
    (hs : SlotWritten env s slots) : s.programs.length + 1 < 10 := by
  have hlt := SlotArray.lt_of_set hs.set_eq
  rw [hN.counter, idOf, UInt32.toNat_ofNat'] at hlt
  omega

/-- The id of the next program is new. -/
theorem Deployed.fresh (h : Deployed s) : Fresh s.registered (idOf s.programs.length) := by
  intro a k hr
  obtain ⟨entry, hl, -, hid⟩ := registered_eq_some_iff.1 hr
  have hlt := (h.loaded a entry hl).lt
  have hfew := h.few
  have := idOf_inj (by omega) (by omega) hid
  omega

/-- A deployment that returns keeps the invariant if it keeps the maps in step. -/
theorem Deployed.create (h : Deployed s)
    (hr : (Call.createBPFSession pSession env).Returns ifs s)
    (hk : KeepsInStep s (.createBPFSession pSession env)) :
    Deployed (step ifs s (.createBPFSession pSession env)) := by
  have hN := (step_change ifs s (.createBPFSession pSession env)).numbered h.numbered
  obtain ⟨key, pFar, index, slots, p, he, hi, hs, -, hl, -, -, hstep⟩ := create_returns hr
  have hlen := h.numbered.lt_of_slotWritten h.few hs
  have hfits := (keepsInStep_create_iff he).1 hk
  rw [hstep] at hN ⊢
  refine ⟨hN, ?_, ?_, ?_, ?_⟩
  · rw [← length_cores, cores_deploy]
    simpa using hlen
  · rw [index_deploy, hi.lookup_eq, h.numbered.counter, registered_deploy]
    exact h.mirrors.insert hfits
  · rw [registered_deploy]
    exact h.valueInj.insert h.fresh
  · intro a entry hlook
    rw [lookup_deploy] at hlook
    rw [loaded_deploy_iff]
    split_ifs at hlook with ha
    · -- The new program; the one that is torn down was there before.
      cases hlook
      refine ⟨.inr ⟨rfl, hl⟩, fun old hold => ?_⟩
      exact (h.loaded _ old hold).lt.ne'
    · -- Another entry: had it the program that is torn down, it would be the same entry.
      refine ⟨.inl (h.loaded a entry hlook), fun old hold href => ha ?_⟩
      exact h.valueInj (registered_eq_some_iff.2 ⟨entry, hlook, rfl, rfl⟩)
        (registered_eq_some_iff.2 ⟨old, hold, rfl, congrArg idOf href.symm⟩)

/-- A removal that returns keeps the invariant. -/
theorem Deployed.remove (h : Deployed s) (hr : (Call.removeBPFSession seid).Returns ifs s) :
    Deployed (step ifs s (.removeBPFSession seid)) := by
  have hN := (step_change ifs s (.removeBPFSession seid)).numbered h.numbered
  obtain ⟨entry, index, he, hd, hstep⟩ := remove_returns hr
  have hreg : s.registered seid.toUInt32 = some (entry.mKey, idOf entry.mpFARProgram) :=
    registered_eq_some_iff.2 ⟨entry, he, rfl, rfl⟩
  have hi : index.lookup = Function.update s.m_next_rule_prog_index.lookup entry.mKey none := by
    funext k
    rw [BoundedMap.lookup_delete hd, Function.update_apply]
  rw [hstep] at hN ⊢
  have hreg' := registered_unregister (s := s) seid.toUInt32 entry
  refine ⟨hN, ?_, ?_, ?_, ?_⟩
  · have hc : (s.unregister seid.toUInt32 entry).cores.length = s.cores.length := by
      rw [cores_unregister]
    rw [length_cores, length_cores] at hc
    exact hc ▸ h.few
  · change Mirrors index.lookup (s.unregister seid.toUInt32 entry).registered
    rw [hi, hreg']
    exact h.mirrors.erase h.valueInj hreg
  · change ValueInj (s.unregister seid.toUInt32 entry).registered
    rw [hreg']
    exact h.valueInj.erase
  · intro a e hlook
    have hlook' : (s.unregister seid.toUInt32 entry).mSessionProgramsMap.lookup a = some e := hlook
    rw [lookup_unregister] at hlook'
    split_ifs at hlook' with ha
    -- Every entry has a program of its own, so the others are not torn down.
    refine loaded_tearDown_iff.2 ⟨h.loaded a e hlook', fun href => ha ?_⟩
    exact h.valueInj (registered_eq_some_iff.2 ⟨e, hlook', rfl, rfl⟩)
      (registered_eq_some_iff.2 ⟨entry, he, rfl, congrArg idOf href.symm⟩)

/-- A step that returns keeps the invariant if it keeps the maps in step. -/
theorem Deployed.step (h : Deployed s) {c : Call} (hr : c.Returns ifs s) (hk : KeepsInStep s c) :
    Deployed (step ifs s c) := by
  cases c with
  | createBPFSession pSession env => exact h.create hr hk
  | removeBPFSession seid => exact h.remove hr

/-- A step that returns and leaves the maps in step keeps them in step. -/
theorem Deployed.keepsInStep (h : Deployed s) {c : Call} (hr : c.Returns ifs s)
    (hs : InStep (UpfBpf.step ifs s c)) : KeepsInStep s c := by
  cases c with
  | removeBPFSession seid => trivial
  | createBPFSession pSession env =>
    have hN := (step_change ifs s (.createBPFSession pSession env)).numbered h.numbered
    have hm := hs.mirrors hN
    -- Before and after, the index mirrors the registry, so the insertion fits.
    obtain ⟨key, pFar, index, slots, p, he, hi, -, -, -, -, -, hstep⟩ := create_returns hr
    rw [hstep, index_deploy, hi.lookup_eq, h.numbered.counter, registered_deploy] at hm
    rw [keepsInStep_create_iff he]
    exact h.mirrors.fits h.valueInj h.fresh hm

end Steps

/-- The run direction of `Deployed.keepsInStep`: the invariant is handed from state to state. -/
theorem along_keepsInStep {ifs : Interfaces} {s : State} (h : Deployed s) {calls : List Call}
    (hr : Run.Along (step ifs) (fun s c => c.Returns ifs s) s calls)
    (hs : ∀ pre, pre <+: calls → InStep (pre.foldl (step ifs) s)) :
    Run.Along (step ifs) KeepsInStep s calls := by
  induction calls generalizing s with
  | nil => trivial
  | cons c calls ih =>
    have hk : KeepsInStep s c := h.keepsInStep hr.1 (hs [c] (by simp))
    refine ⟨hk, ih (h.step hr.1 hk) hr.2 fun pre hpre => ?_⟩
    exact hs (c :: pre) (List.cons_prefix_cons.2 ⟨rfl, hpre⟩)

/-- In a run of calls that return, the index and the registry agree in every state exactly when
every deployment keeps them in step. -/
theorem inStep_iff (ifs : Interfaces) (calls : List Call)
    (hr : Run.Along (step ifs) (fun s c => c.Returns ifs s) {} calls) :
    (∀ pre, pre <+: calls → InStep (run ifs pre)) ↔
      Run.Along (step ifs) KeepsInStep {} calls := by
  constructor
  · exact along_keepsInStep deployed_init hr
  · rintro hk pre ⟨post, rfl⟩
    have hpre := (Run.along_append.1 (hr.and hk)).1
    exact (hpre.invariant deployed_init fun s c h hc => h.step hc.1 hc.2).inStep

/-- A session that is deployed, and then removed. -/
theorem inStep_iff_sample :
    InStep (run sampleInterfaces [sampleCreate 1 100]) ∧
      InStep (run sampleInterfaces [sampleCreate 1 100, .removeBPFSession 1]) := by
  have hk : Run.Along (step sampleInterfaces) KeepsInStep {}
      [sampleCreate 1 100, .removeBPFSession 1] := by
    refine ⟨?_, trivial, trivial⟩
    intro key pFar he seid entry hl
    cases hl
  have h := (inStep_iff sampleInterfaces [sampleCreate 1 100, .removeBPFSession 1]
    ⟨trivial, trivial, trivial⟩).2 hk
  exact ⟨h _ ⟨[.removeBPFSession 1], rfl⟩, h _ List.prefix_rfl⟩

/-- One SEID, deployed again with another TEID: both calls return, and the old key still leads to
the program that the second call has torn down. -/
theorem not_inStep_of_second_key :
    Run.Along (step sampleInterfaces) (fun s c => c.Returns sampleInterfaces s) {}
        [sampleCreate 1 100, sampleCreate 1 200] ∧
      ¬ InStep (run sampleInterfaces [sampleCreate 1 100, sampleCreate 1 200]) := by
  refine ⟨⟨trivial, trivial, trivial⟩, fun h => ?_⟩
  have ht : (entryPoint (tailCallNextProg (run sampleInterfaces
      [sampleCreate 1 100, sampleCreate 1 200])) (fun _ => {}) ⟨[], sampleUplinkFrame 100⟩).1 =
        .tailCall 0 := by decide
  obtain ⟨p, hp, hl⟩ := h.dispatch _ _ 0 ht
  have hd : ((run sampleInterfaces [sampleCreate 1 100, sampleCreate 1 200]).programs[0]?).map
      FARProgram.loaded = some false := by decide
  rw [hp, Option.map_some, hl] at hd
  cases hd

end UpfBpf
