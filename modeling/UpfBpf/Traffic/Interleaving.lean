import UpfBpf.Traffic.Publication
import UpfBpf.Traffic.ForwardingTable
import UpfBpf.Control.Capacity

/-!
# Whole runs under traffic

The control plane makes its calls one after the other, each as a sequence of writes, and packets
arrive and make their three reads at any time between two writes: in one call or spread over many.
`Live` is that machine. Its time counts the calls that were begun and those that have ended, so that
it is odd while a call is under way.

A packet is processed as the forwarding table says that was in force when it looked its key up, even
if calls end before its later reads: what its id leads to does not change any more once the call has
ended that published it. While a call is under way the table in force is the one before or the one
after the call. A removal is atomic in this sense. A deployment is not, but it only shows in the
frames of the key that it publishes, which may be passed or dropped meanwhile
(`interleaved_as_table`).
-/

namespace UpfBpf

open Effect

/-! ## A call as a sequence of writes -/

section Writes

/-- The last two writes of a deployment, which the datapath does not see. -/
def registration (env : Env) (pSession : PfcpSession) (key : NextRuleProgIndexKey) (ref : ℕ) :
    List (M Unit) :=
  [modify fun s => s.register pSession.seid.toUInt32 ⟨key, ref⟩,
    modify fun s => { s with
      mSeidToSession := s.mSeidToSession.insert pSession.seid (sortPdrs env pSession) }]

variable (ifs : Interfaces)

/-- How a call begins: the state once it has read the tables and, for a deployment, brought its
program up, and the writes that it then makes. The rest of a call that throws is not made. -/
def Call.begin (s : State) : Call → State × List (M Unit)
  | .createBPFSession pSession env =>
    match extractPipeline (sortPdrs env pSession) with
    | .error _ => (s, [])
    | .ok ⟨key, pFar⟩ =>
      match bringUp ifs env s with
      | .error _ s' => (s', [])
      | .ok (ref, id) s' => (s', pipelineUpdates env key pFar ref id ++
        registration env pSession key ref)
  | .removeBPFSession seid =>
    match s.mSeidToSession.lookup seid, s.mSessionProgramsMap.lookup seid.toUInt32 with
    | some _, some entry => (s, [modify fun s => s.unregister seid.toUInt32 entry,
        removeNextProgRuleIndex entry.mKey])
    | _, _ => (s, [])

/-- The state after a list of writes, of which one may throw. -/
def runAll (us : List (M Unit)) (s : State) : State := stateAfter ((us.forM fun u => u) s)

theorem runAll_nil (s : State) : runAll [] s = s := rfl

theorem runAll_of_ok {u : M Unit} {us : List (M Unit)} {s s' : State} (h : u s = .ok () s') :
    runAll (u :: us) s = runAll us s' := by
  rw [runAll, List.forM_eq_forM, List.forM_cons, bind_of_ok h]
  rfl

theorem runAll_of_error {u : M Unit} {us : List (M Unit)} {e : Err} {s s' : State}
    (h : u s = .error e s') : runAll (u :: us) s = s' := by
  rw [runAll, List.forM_eq_forM, List.forM_cons, bind_of_error h]
  rfl

/-- The writes of a call, made without a pause, are the call. -/
theorem runAll_begin (s : State) (c : Call) :
    runAll (c.begin ifs s).2 (c.begin ifs s).1 = step ifs s c := by
  cases c with
  | createBPFSession pSession env =>
    rw [Call.begin, step, Call.result, createBPFSession, deploy]
    cases extractPipeline (sortPdrs env pSession) with
    | error e => rfl
    | ok pipeline =>
      obtain ⟨key, pFar⟩ := pipeline
      dsimp only
      rw [createPipeline_eq_updates, bind_assoc]
      cases hb : bringUp ifs env s with
      | error e s' =>
        rw [bind_of_error hb]
        rfl
      | ok r s' =>
        obtain ⟨ref, id⟩ := r
        rw [bind_of_ok hb]
        dsimp only
        rw [runAll, registration]
        simp only [List.forM_eq_forM, List.forM_append, List.forM_cons, List.forM_nil, bind_assoc]
        congr 1
  | removeBPFSession seid =>
    rw [Call.begin, step, Call.result, removeBPFSession, bind_get]
    cases s.mSeidToSession.lookup seid with
    | none => rfl
    | some pSession =>
      dsimp only
      rw [removePipeline, bind_get]
      cases s.mSessionProgramsMap.lookup seid.toUInt32 with
      | none => rfl
      | some entry =>
        dsimp only
        rw [runAll]
        simp only [List.forM_eq_forM, List.forM_cons, List.forM_nil, bind_pure_unit]

end Writes

/-! ## The machine -/

/-- The maps, what the call under way has yet to write, the calls that were begun, and the
packets. -/
structure Live where
  /-- The state. -/
  maps : State
  /-- The writes to come of the call that is under way. -/
  todo : List (M Unit)
  /-- The calls that were begun. -/
  begun : List Call
  /-- The packets. -/
  packets : List Packet

/-- What happens next. -/
inductive LiveEvent
  /-- A call is begun. -/
  | call (c : Call)
  /-- The call under way makes its next write, or throws. -/
  | write
  /-- A packet arrives. -/
  | arrive (ctx : XdpMd)
  /-- A packet makes its next read. -/
  | read (i : ℕ)

namespace Live

/-- Nothing has happened. -/
def init : Live := ⟨{}, [], [], []⟩

/-- How many calls have ended. -/
def ended (l : Live) : ℕ :=
  match l.todo with
  | [] => l.begun.length
  | _ :: _ => l.begun.length - 1

/-- The calls that were begun, and those that have ended. -/
def time (l : Live) : ℕ := l.begun.length + l.ended

/-- The machine after an event. No call is begun while another one is under way. -/
def next (bpf_csum_diff : List UInt8 → UInt32) (arp : ℕ → ArpTable) (ifs : Interfaces) (l : Live) :
    LiveEvent → Live
  | .call c =>
    match l.todo with
    | [] =>
      { l with
        maps := (c.begin ifs l.maps).1
        todo := (c.begin ifs l.maps).2
        begun := l.begun ++ [c] }
    | _ :: _ => l
  | .write =>
    match l.todo with
    | [] => l
    | u :: us =>
      match u l.maps with
      | .ok _ s => { l with maps := s, todo := us }
      | .error _ s => { l with maps := s, todo := [] }
  | .arrive ctx => { l with packets := l.packets ++ [.arrived ctx] }
  | .read i =>
    { l with packets := l.packets.modify i (Packet.advance bpf_csum_diff arp l.maps l.time) }

end Live

/-! ## What a call leaves of the programs before it -/

section Settled

variable {ifs : Interfaces} {s s' m : State}

/-- The programs of `s` are in the same slots of `m`, with the same maps. -/
structure Settled (s m : State) : Prop where
  /-- None is gone. -/
  length_le : s.programs.length ≤ m.programs.length
  /-- The slot of each. -/
  slot : ∀ i < s.programs.length,
    m.m_next_rule_prog.get (idOf i).toNat = s.m_next_rule_prog.get (idOf i).toNat
  /-- The maps of each. -/
  core : ∀ i < s.programs.length, m.cores[i]? = s.cores[i]?

theorem Settled.refl (s : State) : Settled s s := ⟨le_rfl, fun _ _ => rfl, fun _ _ => rfl⟩

theorem Settled.trans (h : Settled s m) (h' : Settled m s') : Settled s s' where
  length_le := h.length_le.trans h'.length_le
  slot i hi := (h'.slot i (hi.trans_le h.length_le)).trans (h.slot i hi)
  core i hi := (h'.core i (hi.trans_le h.length_le)).trans (h.core i hi)

/-- The id of a program that is there is not the next one. -/
theorem Numbered.idOf_ne_counter (hN : Numbered s) (hn : s.programs.length < 2^32 - 1) {i : ℕ}
    (hi : i < s.programs.length) : (idOf i).toNat ≠ s.sIdCounter.toNat := by
  intro e
  rw [hN.counter] at e
  have := idOf_inj (by omega) hn (UInt32.toNat_inj.1 e)
  omega

/-- A new program, and at most its own slot written. -/
theorem settled_publish (hN : Numbered s) (hn : s.programs.length < 2^32 - 1) (p : FARProgram)
    (index : BoundedMap 10 NextRuleProgIndexKey UInt32) {slots : SlotArray 10 ℕ}
    (hs : ∀ j, j ≠ s.sIdCounter.toNat → slots.get j = s.m_next_rule_prog.get j) :
    Settled s (s.publish p index slots) where
  length_le := by simp [State.publish]
  slot i hi := hs _ (hN.idOf_ne_counter hn hi)
  core i hi := by
    rw [cores_publish, List.getElem?_append_left (by rwa [length_cores])]

/-- Tear-downs and the registries do not matter to it. -/
theorem Settled.congr (h : Settled s m) (hs : s'.m_next_rule_prog = m.m_next_rule_prog)
    (hc : s'.cores = m.cores) : Settled s s' where
  length_le := by
    rw [← length_cores s', hc, length_cores]
    exact h.length_le
  slot i hi := by
    rw [hs]
    exact h.slot i hi
  core i hi := by
    rw [hc]
    exact h.core i hi

theorem PipelineOutcome.settled (hN : Numbered s) (hn : s.programs.length < 2^32 - 1) {env : Env}
    {seid : UInt32} {key : NextRuleProgIndexKey} {pFar : PfcpFar}
    {r : EStateM.Result Err State Unit} (h : PipelineOutcome ifs env s seid key pFar r) :
    Settled s (stateAfter r) := by
  cases h with
  | unpublished e p hid hfar hloaded hnot => exact settled_publish hN hn p _ fun j _ => rfl
  | indexed index hindex hnot => exact settled_publish hN hn _ index fun j _ => rfl
  | slotted index slots hindex hslot hnot =>
    exact settled_publish hN hn _ index fun j hj => SlotArray.get_set_ne hslot.set_eq hj
  | deployed index slots p hindex hslot hkernel hid hloaded hfar hm =>
    have hp : Settled s (s.publish p index slots) :=
      settled_publish hN hn p index fun j hj => SlotArray.get_set_ne hslot.set_eq hj
    refine hp.congr ?_ (cores_register _ _ _)
    rw [stateAfter, State.register, destroy_eq]

/-- A call leaves the programs before it. -/
theorem settled_step (hN : Numbered s) (c : Call)
    (hn : c.Constructs → s.programs.length < 2^32 - 1) : Settled s (step ifs s c) := by
  cases c with
  | createBPFSession pSession env =>
    rcases step_create_cases ifs env s pSession with ⟨-, e⟩ | ⟨key, pFar, r, sessions, he, hp, e⟩
    · rw [e]
      exact Settled.refl s
    · rw [e]
      exact (hp.settled hN (hn ⟨_, he⟩)).congr rfl rfl
  | removeBPFSession seid =>
    rcases step_remove_cases ifs s seid with e | ⟨entry, index, -, -, e⟩
    · rw [e]
      exact Settled.refl s
    · rw [e]
      exact (Settled.refl s).congr rfl (cores_unregister s seid.toUInt32 entry)

/-! ## A call under way -/

/-- The maps of `m` lie between those before a call and those after it: each key has its entry of
before or of after, the programs of before are settled, and a new program is not in its slot yet, or
it is there as it will be, and it has no FAR yet, or the one that it will have. -/
structure Between (s m s' : State) : Prop where
  /-- The entry of a key. -/
  index : ∀ k, m.m_next_rule_prog_index.lookup k = s.m_next_rule_prog_index.lookup k ∨
    m.m_next_rule_prog_index.lookup k = s'.m_next_rule_prog_index.lookup k
  /-- The programs of before. -/
  settled : Settled s m
  /-- The new program is constructed. -/
  constructed : s.programs.length < s'.programs.length → s.programs.length < m.programs.length
  /-- The slot of the new program. -/
  slot : s.programs.length < 2^32 - 1 →
    m.m_next_rule_prog.get (idOf s.programs.length).toNat = none ∨
    m.m_next_rule_prog.get (idOf s.programs.length).toNat = some s.programs.length ∧
      s'.m_next_rule_prog.get (idOf s.programs.length).toNat = some s.programs.length
  /-- The maps of the new program. -/
  core : ∀ p, m.cores[s.programs.length]? = some p → p.far = none ∨
    ∃ p', s'.cores[s.programs.length]? = some p' ∧ p'.far = p.far ∧
      p'.m_redirect_interfaces = p.m_redirect_interfaces

/-- A call from `s` that is under way, with the state and the writes that remain. -/
inductive Under (ifs : Interfaces) (s : State) : Call → State → List (M Unit) → Prop
  /-- A deployment has made `t` of its updates. -/
  | publishing {pSession : PfcpSession} {env : Env} {key : NextRuleProgIndexKey} {pFar : PfcpFar}
      {t : ℕ} {m : State} (he : extractPipeline (sortPdrs env pSession) = .ok ⟨key, pFar⟩)
      (hs : env.SetsUp) (hstage : Stage ifs env s key pFar t m) :
      Under ifs s (.createBPFSession pSession env) m
        ((pipelineUpdates env key pFar s.programs.length s.sIdCounter).drop t ++
          registration env pSession key s.programs.length)
  /-- A deployment has registered its pipeline. -/
  | registered {pSession : PfcpSession} {env : Env} {key : NextRuleProgIndexKey} {pFar : PfcpFar}
      {m : State} (he : extractPipeline (sortPdrs env pSession) = .ok ⟨key, pFar⟩)
      (hs : env.SetsUp) (hstage : Stage ifs env s key pFar 3 m) :
      Under ifs s (.createBPFSession pSession env)
        (m.register pSession.seid.toUInt32 ⟨key, s.programs.length⟩)
        ((registration env pSession key s.programs.length).drop 1)
  /-- A removal has found its pipeline. -/
  | removing {seid : UInt64} {entry : SessionPrograms} :
      Under ifs s (.removeBPFSession seid) s
        [modify fun s => s.unregister seid.toUInt32 entry, removeNextProgRuleIndex entry.mKey]
  /-- A removal has the index yet to do. -/
  | unregistered {seid : UInt64} {entry : SessionPrograms} :
      Under ifs s (.removeBPFSession seid) (s.unregister seid.toUInt32 entry)
        [removeNextProgRuleIndex entry.mKey]

/-- A call that has writes to make is under way once it is begun. -/
theorem under_begin (ifs : Interfaces) (s : State) (c : Call) :
    (c.begin ifs s).2 = [] ∨ Under ifs s c (c.begin ifs s).1 (c.begin ifs s).2 := by
  cases c with
  | createBPFSession pSession env =>
    rw [Call.begin]
    cases he : extractPipeline (sortPdrs env pSession) with
    | error e => exact .inl rfl
    | ok pipeline =>
      obtain ⟨key, pFar⟩ := pipeline
      dsimp only
      by_cases hs : env.SetsUp
      · rw [bringUp_of_setsUp s hs]
        exact .inr (.publishing he hs (.constructed _ fun _ => rfl))
      · obtain ⟨e, p, -, -, -, hb⟩ := bringUp_of_not_setsUp ifs s hs
        rw [hb]
        exact .inl rfl
  | removeBPFSession seid =>
    rw [Call.begin]
    cases s.mSeidToSession.lookup seid with
    | none => exact .inl rfl
    | some pSession =>
      cases s.mSessionProgramsMap.lookup seid.toUInt32 with
      | none => exact .inl rfl
      | some entry => exact .inr .removing

/-- A write leads to the end of the call, or the call stays under way, or it throws. -/
theorem Under.write {c : Call} {u : M Unit} {us : List (M Unit)} (h : Under ifs s c m (u :: us)) :
    (∃ m', u m = .ok () m' ∧ (us = [] ∨ Under ifs s c m' us)) ∨ ∃ e m', u m = .error e m' := by
  generalize htodo : u :: us = todo at h
  cases h with
  | @publishing pSession env key pFar t m he hs hstage =>
    cases hdrop : (pipelineUpdates env key pFar s.programs.length s.sIdCounter).drop t with
    | nil =>
      -- All three updates are made: the registration is next.
      rw [hdrop, List.nil_append] at htodo
      have ht : t = 3 := by
        have hlen := congrArg List.length hdrop
        rw [List.length_drop] at hlen
        have hle : 3 ≤ t := by
          rw [pipelineUpdates] at hlen
          simp only [List.length_cons, List.length_nil] at hlen
          omega
        cases hstage <;> omega
      subst ht
      obtain ⟨rfl, rfl⟩ := List.cons.inj htodo
      exact .inl ⟨_, rfl, .inr (.registered he hs hstage)⟩
    | cons v rest =>
      rw [hdrop, List.cons_append] at htodo
      obtain ⟨rfl, rfl⟩ := List.cons.inj htodo
      have hrest : rest =
          (pipelineUpdates env key pFar s.programs.length s.sIdCounter).drop (t + 1) := by
        rw [← List.tail_drop, hdrop, List.tail_cons]
      rcases Progress.update ⟨hstage, .inr ⟨hs, hdrop.symm⟩⟩ with ⟨m', hu, hp⟩ | ⟨e, hu⟩
      · refine .inl ⟨m', hu, .inr ?_⟩
        rw [hrest]
        exact .publishing he hs hp.stage
      · exact .inr ⟨e, m, hu⟩
  | registered he hs hstage =>
    obtain ⟨rfl, rfl⟩ := List.cons.inj htodo
    exact .inl ⟨_, rfl, .inl rfl⟩
  | removing =>
    obtain ⟨rfl, rfl⟩ := List.cons.inj htodo
    exact .inl ⟨_, rfl, .inr .unregistered⟩
  | @unregistered seid entry =>
    obtain ⟨rfl, rfl⟩ := List.cons.inj htodo
    rcases removeNextProgRuleIndex_cases entry.mKey (s.unregister seid.toUInt32 entry)
      with ⟨index, -, hr⟩ | ⟨-, hr⟩
    · exact .inl ⟨_, hr, .inl rfl⟩
    · exact .inr ⟨_, _, hr⟩

section Stages

variable {env : Env} {key : NextRuleProgIndexKey} {pFar : PfcpFar} {pSession : PfcpSession} {t : ℕ}

/-- The state at a stage is that before the call with the new program, and at most two maps that
are written. -/
theorem Stage.cases_publish (h : Stage ifs env s key pFar t m) :
    ∃ p index slots, m = s.publish p index slots ∧
      (index = s.m_next_rule_prog_index ∨ IndexWritten env s key index) ∧
      (slots = s.m_next_rule_prog ∨
        SlotWritten env s slots ∧ ∃ index', IndexWritten env s key index') := by
  cases h with
  | constructed p hp => exact ⟨p, _, _, rfl, .inl rfl, .inl rfl⟩
  | indexed index hindex => exact ⟨_, index, _, rfl, .inr hindex, .inl rfl⟩
  | slotted index slots hindex hslot =>
    exact ⟨_, index, slots, rfl, .inr hindex, .inr ⟨hslot, index, hindex⟩⟩
  | stored index slots p hindex hslot hkernel hfar hm =>
    exact ⟨p, index, slots, rfl, .inr hindex, .inr ⟨hslot, index, hindex⟩⟩

/-- The new program at a stage has no FAR, or the call returns and leaves it the same FAR. -/
theorem Stage.core_last (he : extractPipeline (sortPdrs env pSession) = .ok ⟨key, pFar⟩)
    (hs : env.SetsUp) (h : Stage ifs env s key pFar t m) {p : FARProgram}
    (hp : m.cores[s.programs.length]? = some p) :
    p.far = none ∨ ∃ p', (step ifs s (.createBPFSession pSession env)).cores[s.programs.length]? =
        some p' ∧ p'.far = p.far ∧ p'.m_redirect_interfaces = p.m_redirect_interfaces := by
  have hlast : ∀ (q : FARProgram) index slots, (s.publish q index slots).cores[s.programs.length]? =
      some q.core := by
    intro q index slots
    rw [cores_publish, ← length_cores, List.getElem?_concat_length]
  cases h with
  | constructed q hq =>
    rw [hlast, hq hs] at hp
    cases hp
    exact .inl rfl
  | indexed index hindex =>
    rw [hlast] at hp
    cases hp
    exact .inl rfl
  | slotted index slots hindex hslot =>
    rw [hlast] at hp
    cases hp
    exact .inl rfl
  | stored index slots q hindex hslot hkernel hfar hm =>
    rw [hlast] at hp
    cases hp
    -- Nothing is left that could throw.
    rcases step_create_cases ifs env s pSession with
      ⟨hnot, -⟩ | ⟨key', pFar', r, sessions, he', ho, e⟩
    · exact absurd he (hnot _)
    · rw [he] at he'
      cases he'
      cases ho with
      | unpublished e p hid hfar hloaded hnot => exact absurd hindex (hnot index)
      | indexed index' hindex' hnot => exact absurd hslot (hnot slots)
      | slotted index' slots' hindex' hslot' hnot =>
        exact absurd (hkernel.symm.trans hnot) (by decide)
      | deployed index' slots' q' hindex' hslot' hkernel' hid hloaded hfar' hm' =>
        refine .inr ⟨q'.core, ?_, hfar'.trans hfar.symm, hm'.trans hm.symm⟩
        rw [e]
        show (State.cores ((s.publish q' index' slots').register pSession.seid.toUInt32
          ⟨key, s.programs.length⟩))[s.programs.length]? = _
        rw [cores_register, hlast]

/-- The maps at a stage lie between those before the deployment and those after it. -/
theorem Stage.between (hN : Numbered s) (hn : s.programs.length < 2^32 - 1)
    (he : extractPipeline (sortPdrs env pSession) = .ok ⟨key, pFar⟩) (hs : env.SetsUp)
    (h : Stage ifs env s key pFar t m) :
    Between s m (step ifs s (.createBPFSession pSession env)) := by
  refine ⟨fun k => ?_, ?_, fun _ => ?_, fun _ => ?_, fun p hp => h.core_last he hs hp⟩
  all_goals obtain ⟨p, index, slots, rfl, hindex, hslots⟩ := h.cases_publish
  · rcases hindex with rfl | hindex
    · exact .inl rfl
    · show index.lookup k = _ ∨ index.lookup k = _
      rw [BoundedMap.lookup_update hindex.update_eq]
      split_ifs with hk
      · have hw : (Call.createBPFSession pSession env).WritesIndex ifs s key :=
          writesIndex_create_iff.2 ⟨pFar, index, he, hindex⟩
        exact .inr (by rw [hk, lookup_step_of_writesIndex hw])
      · exact .inl rfl
  · rcases hslots with rfl | ⟨hslot, -⟩
    · exact settled_publish hN hn p index fun j _ => rfl
    · exact settled_publish hN hn p index fun j hj => SlotArray.get_set_ne hslot.set_eq hj
  · simp [State.publish]
  · rw [← hN.counter]
    rcases hslots with rfl | ⟨hslot, index', hindex'⟩
    · exact .inl (hN.get_counter hn)
    · have htakes : (Call.createBPFSession pSession env).TakesSlot s s.sIdCounter :=
        ⟨rfl, key, pFar, index', slots, he, hindex', hslot⟩
      exact .inr ⟨SlotArray.get_set_self hslot.set_eq, slots_step_of_takesSlot htakes⟩

end Stages

/-- What the datapath sees of `m` it sees of a state with the same maps. -/
theorem Between.congr (h : Between s m s') {m' : State}
    (hi : m'.m_next_rule_prog_index = m.m_next_rule_prog_index)
    (hs : m'.m_next_rule_prog = m.m_next_rule_prog) (hc : m'.cores = m.cores) :
    Between s m' s' where
  index := by
    rw [hi]
    exact h.index
  settled := h.settled.congr hs hc
  constructed := by
    rw [← length_cores m', hc, length_cores]
    exact h.constructed
  slot := by
    rw [hs]
    exact h.slot
  core := by
    rw [hc]
    exact h.core

/-- A state lies between itself and one that has no more programs. -/
theorem Between.before (hN : Numbered s) (hle : s'.programs.length ≤ s.programs.length) :
    Between s s s' where
  index k := .inl rfl
  settled := Settled.refl s
  constructed hlt := absurd hlt (not_lt.2 hle)
  slot hn := .inl (by rw [← hN.counter]; exact hN.get_counter hn)
  core p hp := by
    have hlt := (List.getElem?_eq_some_iff.1 hp).1
    rw [length_cores] at hlt
    omega

/-- While a call is under way, the maps lie between those before it and those after it. -/
theorem Under.between (hN : Numbered s) {c : Call}
    (hn : c.Constructs → s.programs.length < 2^32 - 1) {todo : List (M Unit)}
    (h : Under ifs s c m todo) : Between s m (step ifs s c) := by
  cases h with
  | publishing he hs hstage => exact hstage.between hN (hn ⟨_, he⟩) he hs
  | @registered pSession env key pFar m he hs hstage =>
    refine (hstage.between hN (hn ⟨_, he⟩) he hs).congr ?_ ?_ (cores_register _ _ _)
    · rw [State.register, destroy_eq]
    · rw [State.register, destroy_eq]
  | @removing seid entry => exact Between.before hN (length_step_remove ifs s seid).le
  | @unregistered seid entry =>
    exact (Between.before hN (length_step_remove ifs s seid).le).congr rfl rfl
      (cores_unregister s seid.toUInt32 entry)

end Settled

/-! ## The states between the calls -/

section States

variable (ifs : Interfaces) (calls : List Call)

/-- The state after the first `k` calls. -/
def stateAt (k : ℕ) : State := run ifs (calls.take k)

variable {ifs calls} {k : ℕ} {c : Call}

theorem stateAt_succ (hc : calls[k]? = some c) :
    stateAt ifs calls (k + 1) = step ifs (stateAt ifs calls k) c := by
  rw [stateAt, List.take_add_one, hc, run_append]
  rfl

theorem stateAt_succ_of_none (hc : calls[k]? = none) :
    stateAt ifs calls (k + 1) = stateAt ifs calls k := by
  rw [stateAt, List.take_add_one, hc]
  simp [stateAt]

theorem numbered_stateAt (ifs : Interfaces) (calls : List Call) (k : ℕ) :
    Numbered (stateAt ifs calls k) :=
  numbered_run ifs _

variable (hn : (ForwardingTable.run calls).constructed < 2^32)

include hn

/-- The number of programs after `k` calls is that of the table. -/
theorem constructed_take_lt (k : ℕ) : (ForwardingTable.run (calls.take k)).constructed < 2^32 := by
  have hrun := ForwardingTable.run_append (calls.take k) (calls.drop k)
  rw [List.take_append_drop] at hrun
  rw [hrun] at hn
  exact lt_of_le_of_lt (ForwardingTable.constructed_le_foldl _ _) hn

theorem length_stateAt_lt (k : ℕ) : (stateAt ifs calls k).programs.length < 2^32 := by
  have h := constructed_take_lt hn k
  rw [← table_run ifs _ h] at h
  exact h

/-- The counter has not come round where a call constructs a program. -/
theorem length_stateAt_of_constructs (hc : calls[k]? = some c) (h : c.Constructs) :
    (stateAt ifs calls k).programs.length < 2^32 - 1 := by
  have hsucc := constructed_take_lt hn (k + 1)
  have hk := constructed_take_lt hn k
  rw [List.take_add_one, hc, ForwardingTable.run_append, Option.toList_some, List.foldl_cons,
    List.foldl_nil, ForwardingTable.constructed_step_of_constructs h] at hsucc
  have hlen : (stateAt ifs calls k).programs.length =
      (ForwardingTable.run (calls.take k)).constructed := by
    rw [← table_run ifs _ hk]
    rfl
  omega

theorem settled_stateAt {i j : ℕ} (hij : i ≤ j) :
    Settled (stateAt ifs calls i) (stateAt ifs calls j) := by
  induction j, hij using Nat.le_induction with
  | base => exact Settled.refl _
  | succ j hj ih =>
    cases hc : calls[j]? with
    | none =>
      rw [stateAt_succ_of_none hc]
      exact ih
    | some c =>
      rw [stateAt_succ hc]
      exact ih.trans (settled_step (numbered_stateAt ifs calls j) c
        (length_stateAt_of_constructs hn hc))

end States

/-! ## The packets under way -/

section Packets

variable (bpf_csum_diff : List UInt8 → UInt32) (arp : ℕ → ArpTable) (ifs : Interfaces)
  (calls : List Call)

/-- What is seen of a frame that makes all its reads in one state. -/
def stateSeen (s : State) (ctx : XdpMd) : Seen :=
  match detect ctx with
  | .ret action => observe (action, ctx)
  | .tailCall k =>
    match tailCallNextProg s k with
    | some ref => observe (runProgram bpf_csum_diff arp s ctx ref)
    | none => passed ctx

theorem observe_processFrame (s : State) (ctx : XdpMd) (mc_stats : McStats) :
    observe (processFrame bpf_csum_diff arp s ctx mc_stats) =
      stateSeen bpf_csum_diff arp s ctx := by
  rw [processFrame_eq, stateSeen]
  cases detect ctx with
  | ret action => rfl
  | tailCall k =>
    cases h : tailCallNextProg s k with
    | none =>
      simp only [h]
      rfl
    | some ref => simp only [h]

/-- The program that a packet was sent to by the index at time `t₁`: one that the index had when the
last call ended, or that of the deployment that was under way. -/
inductive Holds (t₁ : ℕ) (k : NextRuleProgIndexKey) (ref : ℕ) : Prop
  /-- A program of before. -/
  | old (hi : (stateAt ifs calls (t₁ / 2)).m_next_rule_prog_index.lookup k = some (idOf ref))
      (hlt : ref < (stateAt ifs calls (t₁ / 2)).programs.length)
  /-- The program of the deployment. -/
  | new (c : Call) (hodd : t₁ % 2 = 1) (hc : calls[t₁ / 2]? = some c)
      (hw : c.WritesIndex ifs (stateAt ifs calls (t₁ / 2)) k)
      (href : ref = (stateAt ifs calls (t₁ / 2)).programs.length)

/-- What is seen of a packet that was looked up at time `t₁` is what is seen in the state of then:
before or after the call that was under way, unless it is a packet of the key that this call was
publishing. -/
def AsAt (t₁ : ℕ) (ctx : XdpMd) (seen : Seen) : Prop :=
  seen = stateSeen bpf_csum_diff arp (stateAt ifs calls (t₁ / 2)) ctx ∨
    t₁ % 2 = 1 ∧ (seen = stateSeen bpf_csum_diff arp (stateAt ifs calls (t₁ / 2 + 1)) ctx ∨
      ∃ k c, detect ctx = .tailCall k ∧ calls[t₁ / 2]? = some c ∧
        c.WritesIndex ifs (stateAt ifs calls (t₁ / 2)) k ∧ (seen = passed ctx ∨ seen = dropped))

/-- What a packet has got hold of, up to the time `t`. -/
def PacketLinear (t : ℕ) : Packet → Prop
  | .arrived _ => True
  | .lookedUp ctx id t₁ => t₁ ≤ t ∧ ∃ k ref, detect ctx = .tailCall k ∧ id = idOf ref ∧
    Holds ifs calls t₁ k ref
  | .tailCalled ctx ref t₁ _ => t₁ ≤ t ∧ ∃ k, detect ctx = .tailCall k ∧
    Holds ifs calls t₁ k ref ∧
    (stateAt ifs calls (t₁ / 2 + 1)).m_next_rule_prog.get (idOf ref).toNat = some ref
  | .done ctx seen t₁ _ _ => t₁ ≤ t ∧ AsAt bpf_csum_diff arp ifs calls t₁ ctx seen

variable {bpf_csum_diff arp ifs calls} {t t₁ : ℕ} {m : State} {ctx : XdpMd}
  {k : NextRuleProgIndexKey} {ref : ℕ} {seen : Seen}

theorem PacketLinear.mono {t' : ℕ} (ht : t ≤ t') {p : Packet}
    (h : PacketLinear bpf_csum_diff arp ifs calls t p) :
    PacketLinear bpf_csum_diff arp ifs calls t' p := by
  cases p with
  | arrived ctx => trivial
  | lookedUp ctx id t₁ => exact ⟨h.1.trans ht, h.2⟩
  | tailCalled ctx ref t₁ t₂ => exact ⟨h.1.trans ht, h.2⟩
  | done ctx seen t₁ t₂ t₃ => exact ⟨h.1.trans ht, h.2⟩

/-- The maps at time `t`: those after a call, or those of a call under way. -/
inductive Now (ifs : Interfaces) (calls : List Call) (t : ℕ) (m : State) : Prop
  /-- No call is under way. -/
  | idle (heven : t % 2 = 0) (hm : m = stateAt ifs calls (t / 2))
  /-- A call is under way. -/
  | busy (c : Call) (hodd : t % 2 = 1) (hc : calls[t / 2]? = some c)
      (hm : Between (stateAt ifs calls (t / 2)) m (stateAt ifs calls (t / 2 + 1)))

theorem Now.settled (h : Now ifs calls t m) : Settled (stateAt ifs calls (t / 2)) m := by
  cases h with
  | idle heven hm =>
    rw [hm]
    exact Settled.refl _
  | busy c hodd hc hm => exact hm.settled

/-- The program of a tail call that goes through. -/
theorem stateSeen_of_slot {s : State} (hd : detect ctx = .tailCall k)
    (hi : s.m_next_rule_prog_index.lookup k = some (idOf ref))
    (hs : s.m_next_rule_prog.get (idOf ref).toNat = some ref) :
    stateSeen bpf_csum_diff arp s ctx = observe (runProgram bpf_csum_diff arp s ctx ref) := by
  simp only [stateSeen, hd, tailCallNextProg, hi, Option.bind_some, hs]

/-- A tail call that falls through. -/
theorem stateSeen_of_empty {s : State} (hd : detect ctx = .tailCall k)
    (hi : s.m_next_rule_prog_index.lookup k = some (idOf ref))
    (hs : s.m_next_rule_prog.get (idOf ref).toNat = none) :
    stateSeen bpf_csum_diff arp s ctx = passed ctx := by
  simp only [stateSeen, hd, tailCallNextProg, hi, Option.bind_some, hs]

/-- A program runs the same where its maps are the same. -/
theorem runProgram_congr {s : State} (hc : m.cores[ref]? = s.cores[ref]?) :
    runProgram bpf_csum_diff arp m ctx ref = runProgram bpf_csum_diff arp s ctx ref := by
  rw [runProgram_eq_cores, runProgram_eq_cores, hc]

/-- The program that a deployment under way writes under its key. -/
theorem lookup_of_writesIndex {c : Call} (hc : calls[t₁ / 2]? = some c)
    (hw : c.WritesIndex ifs (stateAt ifs calls (t₁ / 2)) k) :
    (stateAt ifs calls (t₁ / 2 + 1)).m_next_rule_prog_index.lookup k =
      some (idOf (stateAt ifs calls (t₁ / 2)).programs.length) := by
  rw [stateAt_succ hc, lookup_step_of_writesIndex hw, (numbered_stateAt ifs calls _).counter]

/-- A call that writes a key constructs a program. -/
theorem Call.WritesIndex.constructs {c : Call} {s : State} (hw : c.WritesIndex ifs s k) :
    c.Constructs := by
  cases c with
  | createBPFSession pSession env =>
    obtain ⟨pFar, he, -⟩ := hw
    exact ⟨_, he⟩
  | removeBPFSession seid => exact hw.elim

/-- The slot of a program holds that program, or nothing. -/
theorem Numbered.eq_of_slot {s : State} (hN : Numbered s) (hn : s.programs.length < 2^32)
    (hlt : ref < s.programs.length) {r : ℕ}
    (h : s.m_next_rule_prog.get (idOf ref).toNat = some r) : r = ref := by
  obtain ⟨hr, e⟩ := hN.slots _ r h
  exact (idOf_inj (by omega) (by omega) (UInt32.toNat_inj.1 e)).symm

section Reads

variable (bpf_csum_diff arp) in
/-- The first read: the index. -/
theorem Now.lookup_cases (hm : Now ifs calls t m) (hd : detect ctx = .tailCall k) :
    (m.m_next_rule_prog_index.lookup k = none ∧
        AsAt bpf_csum_diff arp ifs calls t ctx (passed ctx)) ∨
      ∃ ref, m.m_next_rule_prog_index.lookup k = some (idOf ref) ∧ Holds ifs calls t k ref := by
  have hold : ∀ o, m.m_next_rule_prog_index.lookup k = o →
      (stateAt ifs calls (t / 2)).m_next_rule_prog_index.lookup k = o →
      (o = none ∧ AsAt bpf_csum_diff arp ifs calls t ctx (passed ctx)) ∨
        ∃ ref, o = some (idOf ref) ∧ Holds ifs calls t k ref := by
    rintro (_ | id) - hi
    · refine .inl ⟨rfl, .inl ?_⟩
      simp only [stateSeen, hd, tailCallNextProg, hi, Option.bind_none]
    · obtain ⟨i, hlt, rfl⟩ := (numbered_stateAt ifs calls _).index k id hi
      exact .inr ⟨i, rfl, .old hi hlt⟩
  cases hm with
  | idle heven hm =>
    rw [hm]
    exact hold _ (by rw [hm]) rfl
  | busy c hodd hc hm =>
    by_cases hw : c.WritesIndex ifs (stateAt ifs calls (t / 2)) k
    · rcases hm.index k with he | he
      · exact hold _ rfl he.symm
      · -- The deployment has published the key already.
        rw [he, lookup_of_writesIndex hc hw]
        exact .inr ⟨_, rfl, .new c hodd hc hw rfl⟩
    · rcases hm.index k with he | he
      · exact hold _ rfl he.symm
      · cases ho : m.m_next_rule_prog_index.lookup k with
        | none =>
          -- A removal has taken the key out.
          refine .inl ⟨rfl, .inr ⟨hodd, .inl ?_⟩⟩
          rw [he] at ho
          simp only [stateSeen, hd, tailCallNextProg, ho, Option.bind_none]
        | some id =>
          have hstep : (step ifs (stateAt ifs calls (t / 2)) c).m_next_rule_prog_index.lookup k =
              some id := by
            rw [← stateAt_succ hc, ← he, ho]
          exact hold _ ho (lookup_of_lookup_step hw hstep)

variable (hn : (ForwardingTable.run calls).constructed < 2^32) (hm : Now ifs calls t m)

include hn hm

variable (bpf_csum_diff arp) in
/-- The second read: the slot. -/
theorem Now.slot_cases (ht : t₁ ≤ t) (hd : detect ctx = .tailCall k)
    (hh : Holds ifs calls t₁ k ref) :
    (m.m_next_rule_prog.get (idOf ref).toNat = none ∧
        AsAt bpf_csum_diff arp ifs calls t₁ ctx (passed ctx)) ∨
      m.m_next_rule_prog.get (idOf ref).toNat = some ref ∧
        (stateAt ifs calls (t₁ / 2 + 1)).m_next_rule_prog.get (idOf ref).toNat = some ref := by
  have hle : t₁ / 2 ≤ t / 2 := Nat.div_le_div_right ht
  cases hh with
  | old hi hlt =>
    have hset : Settled (stateAt ifs calls (t₁ / 2)) m :=
      (settled_stateAt hn hle).trans hm.settled
    have hset' : Settled (stateAt ifs calls (t₁ / 2)) (stateAt ifs calls (t₁ / 2 + 1)) :=
      settled_stateAt hn (Nat.le_succ _)
    rw [hset.slot ref hlt, hset'.slot ref hlt]
    cases hs : (stateAt ifs calls (t₁ / 2)).m_next_rule_prog.get (idOf ref).toNat with
    | none => exact .inl ⟨rfl, .inl (stateSeen_of_empty hd hi hs).symm⟩
    | some r =>
      rw [(numbered_stateAt ifs calls _).eq_of_slot (length_stateAt_lt hn _) hlt hs]
      exact .inr ⟨rfl, rfl⟩
  | new c hodd hc hw href =>
    have hlen : (stateAt ifs calls (t₁ / 2)).programs.length < 2^32 - 1 :=
      length_stateAt_of_constructs hn hc hw.constructs
    have hi := lookup_of_writesIndex hc hw
    rcases hle.eq_or_lt with heq | hlt
    · -- The deployment is still under way.
      cases hm with
      | idle heven hm => omega
      | busy c' hodd' hc' hm =>
        rw [← heq] at hm
        rw [href]
        rcases hm.slot hlen with he | ⟨he, he'⟩
        · exact .inl ⟨he, .inr ⟨hodd, .inr ⟨k, c, hd, hc, hw, .inl rfl⟩⟩⟩
        · exact .inr ⟨he, he'⟩
    · have hset : Settled (stateAt ifs calls (t₁ / 2 + 1)) m :=
        (settled_stateAt hn hlt).trans hm.settled
      have hlt' : ref < (stateAt ifs calls (t₁ / 2 + 1)).programs.length := by
        obtain ⟨i, hi', e⟩ := (numbered_stateAt ifs calls _).index k _ hi
        have hb : (stateAt ifs calls (t₁ / 2 + 1)).programs.length < 2^32 :=
          length_stateAt_lt hn _
        rw [href, idOf_inj hlen (by omega) e]
        exact hi'
      rw [← href] at hi
      rw [hset.slot ref hlt']
      cases hs : (stateAt ifs calls (t₁ / 2 + 1)).m_next_rule_prog.get (idOf ref).toNat with
      | none => exact .inl ⟨rfl, .inr ⟨hodd, .inl (stateSeen_of_empty hd hi hs).symm⟩⟩
      | some r =>
        rw [(numbered_stateAt ifs calls _).eq_of_slot (length_stateAt_lt hn _) hlt' hs]
        exact .inr ⟨rfl, rfl⟩

/-- The third read: the FAR. -/
theorem Now.asAt_run (ht : t₁ ≤ t) (hd : detect ctx = .tailCall k) (hh : Holds ifs calls t₁ k ref)
    (hs : (stateAt ifs calls (t₁ / 2 + 1)).m_next_rule_prog.get (idOf ref).toNat = some ref) :
    AsAt bpf_csum_diff arp ifs calls t₁ ctx
      (observe (runProgram bpf_csum_diff arp m ctx ref)) := by
  have hle : t₁ / 2 ≤ t / 2 := Nat.div_le_div_right ht
  have hlt' := ((numbered_stateAt ifs calls _).slots _ ref hs).1
  cases hh with
  | old hi hlt =>
    have hset : Settled (stateAt ifs calls (t₁ / 2)) m :=
      (settled_stateAt hn hle).trans hm.settled
    have hset' : Settled (stateAt ifs calls (t₁ / 2)) (stateAt ifs calls (t₁ / 2 + 1)) :=
      settled_stateAt hn (Nat.le_succ _)
    rw [hset'.slot ref hlt] at hs
    rw [runProgram_congr (hset.core ref hlt)]
    exact .inl (stateSeen_of_slot hd hi hs).symm
  | new c hodd hc hw href =>
    have hi := lookup_of_writesIndex hc hw
    rw [← href] at hi
    refine .inr ⟨hodd, ?_⟩
    rcases hle.eq_or_lt with heq | hlt
    · cases hm with
      | idle heven hm => omega
      | busy c' hodd' hc' hm =>
        rw [← heq] at hm
        rw [href] at hlt'
        have hthere : ref < m.cores.length := by
          rw [length_cores, href]
          exact hm.constructed hlt'
        have hp : m.cores[ref]? = some m.cores[ref] := List.getElem?_eq_getElem hthere
        rcases hm.core m.cores[ref] (by rw [← href]; exact hp) with hf | ⟨p', hp', hf, hr⟩
        · -- There is no FAR yet.
          refine .inr ⟨k, c, hd, hc, hw, .inr ?_⟩
          simp only [runProgram_eq_cores, hp, farEntryPoint, hf, pfcpFarApply, ite_self]
          rfl
        · rw [← href] at hp'
          refine .inl ?_
          rw [stateSeen_of_slot hd hi hs]
          simp only [runProgram_eq_cores, hp, hp', farEntryPoint, hf, hr]
    · have hset : Settled (stateAt ifs calls (t₁ / 2 + 1)) m :=
        (settled_stateAt hn hlt).trans hm.settled
      rw [runProgram_congr (hset.core ref hlt')]
      exact .inl (stateSeen_of_slot hd hi hs).symm

/-- A read keeps what is known of a packet. -/
theorem PacketLinear.advance {p : Packet} (h : PacketLinear bpf_csum_diff arp ifs calls t p) :
    PacketLinear bpf_csum_diff arp ifs calls t (p.advance bpf_csum_diff arp m t) := by
  cases p with
  | arrived ctx =>
    cases hd : detect ctx with
    | ret action =>
      simp only [Packet.advance, hd]
      exact ⟨le_rfl, .inl (by simp only [stateSeen, hd])⟩
    | tailCall k =>
      rcases hm.lookup_cases bpf_csum_diff arp hd with ⟨hi, hseen⟩ | ⟨ref, hi, hh⟩
      · simp only [Packet.advance, hd, hi]
        exact ⟨le_rfl, hseen⟩
      · simp only [Packet.advance, hd, hi]
        exact ⟨le_rfl, k, ref, hd, rfl, hh⟩
  | lookedUp ctx id t₁ =>
    obtain ⟨ht, k, ref, hd, rfl, hh⟩ := h
    rcases hm.slot_cases bpf_csum_diff arp hn ht hd hh with ⟨hs, hseen⟩ | ⟨hs, hs'⟩
    · simp only [Packet.advance, hs]
      exact ⟨ht, hseen⟩
    · simp only [Packet.advance, hs]
      exact ⟨ht, k, hd, hh, hs'⟩
  | tailCalled ctx ref t₁ t₂ =>
    obtain ⟨ht, k, hd, hh, hs⟩ := h
    exact ⟨ht, hm.asAt_run hn ht hd hh hs⟩
  | done ctx seen t₁ t₂ t₃ => exact h

end Reads

end Packets

/-! ## Runs of the machine -/

section Machine

variable {bpf_csum_diff : List UInt8 → UInt32} {arp : ℕ → ArpTable} {ifs : Interfaces}
  {calls : List Call}

/-- What holds of the machine throughout, when the calls that it begins are the first of `calls`. -/
structure Live.Ok (bpf_csum_diff : List UInt8 → UInt32) (arp : ℕ → ArpTable) (ifs : Interfaces)
    (calls : List Call) (l : Live) : Prop where
  /-- Between two calls, the state is that of the calls that were made. -/
  idle : l.todo = [] → l.maps = stateAt ifs calls l.begun.length
  /-- In a call, the rest of its writes leads to the state after it. -/
  busy : l.todo ≠ [] → ∃ c n, l.begun.length = n + 1 ∧ calls[n]? = some c ∧
    Under ifs (stateAt ifs calls n) c l.maps l.todo ∧
    runAll l.todo l.maps = stateAt ifs calls (n + 1)
  /-- The packets have read what was there. -/
  packets : ∀ p ∈ l.packets, PacketLinear bpf_csum_diff arp ifs calls l.time p

theorem Live.time_of_idle {l : Live} (h : l.todo = []) : l.time = 2 * l.begun.length := by
  rw [time, ended, h]
  dsimp only
  omega

theorem Live.time_of_busy {l : Live} {n : ℕ} (h : l.todo ≠ []) (hl : l.begun.length = n + 1) :
    l.time = 2 * n + 1 := by
  rw [time, ended]
  cases ht : l.todo with
  | nil => exact absurd ht h
  | cons u us =>
    dsimp only
    omega

/-- The maps are those of the time. -/
theorem Live.Ok.now (hn : (ForwardingTable.run calls).constructed < 2^32) {l : Live}
    (h : l.Ok bpf_csum_diff arp ifs calls) : Now ifs calls l.time l.maps := by
  by_cases ht : l.todo = []
  · have htime := Live.time_of_idle ht
    have hdiv : l.time / 2 = l.begun.length := by omega
    exact .idle (by omega) (by rw [hdiv]; exact h.idle ht)
  · obtain ⟨c, n, hl, hc, hu, -⟩ := h.busy ht
    have htime := Live.time_of_busy ht hl
    have hdiv : l.time / 2 = n := by omega
    refine .busy c (by omega) (by rw [hdiv]; exact hc) ?_
    rw [hdiv, stateAt_succ hc]
    exact hu.between (numbered_stateAt ifs calls n) (length_stateAt_of_constructs hn hc)

/-- A call that is begun. -/
theorem Live.Ok.call {l : Live} (h : l.Ok bpf_csum_diff arp ifs calls) {c : Call}
    (hpre : (l.next bpf_csum_diff arp ifs (.call c)).begun <+: calls) :
    (l.next bpf_csum_diff arp ifs (.call c)).Ok bpf_csum_diff arp ifs calls := by
  obtain ⟨maps, todo, begun, packets⟩ := l
  cases todo with
  | cons u us => exact h
  | nil =>
    have hmaps : maps = stateAt ifs calls begun.length := h.idle rfl
    have hc : calls[begun.length]? = some c := by
      obtain ⟨rest, e⟩ := hpre
      rw [← e]
      simp [Live.next]
    have hrun : runAll (c.begin ifs maps).2 (c.begin ifs maps).1 =
        stateAt ifs calls (begun.length + 1) := by
      rw [runAll_begin, stateAt_succ hc, hmaps]
    refine ⟨fun ht => ?_, fun ht => ?_, fun p hp => (h.packets p hp).mono ?_⟩
    · show (c.begin ifs maps).1 = stateAt ifs calls (begun ++ [c]).length
      have ht' : (c.begin ifs maps).2 = [] := ht
      rw [ht', runAll_nil] at hrun
      rw [List.length_append, List.length_singleton, hrun]
    · refine ⟨c, begun.length, by simp [Live.next], hc, ?_, hrun⟩
      rcases under_begin ifs maps c with he | hu
      · exact absurd he ht
      · rw [hmaps] at hu ⊢
        exact hu
    · -- The time does not go back.
      have hle : begun.length ≤ Live.ended
          ⟨(c.begin ifs maps).1, (c.begin ifs maps).2, begun ++ [c], packets⟩ := by
        rw [Live.ended]
        cases (c.begin ifs maps).2 <;> simp
      simp only [Live.next, Live.time, List.length_append, List.length_singleton]
      rw [Live.ended]
      dsimp only
      omega

/-- A write of the call that is under way. -/
theorem Live.Ok.write {l : Live} (h : l.Ok bpf_csum_diff arp ifs calls) :
    (l.next bpf_csum_diff arp ifs .write).Ok bpf_csum_diff arp ifs calls := by
  obtain ⟨maps, todo, begun, packets⟩ := l
  cases todo with
  | nil => exact h
  | cons u us =>
    obtain ⟨c, n, hl, hc, hu, hrun⟩ := h.busy (List.cons_ne_nil u us)
    have hl' : begun.length = n + 1 := hl
    have hbusy : Live.time ⟨maps, u :: us, begun, packets⟩ = 2 * n + 1 :=
      Live.time_of_busy (List.cons_ne_nil u us) hl
    have hdone : ∀ m : State, Live.time ⟨m, [], begun, packets⟩ = 2 * (n + 1) := by
      intro m
      rw [Live.time_of_idle rfl]
      exact congrArg (2 * ·) hl
    have hp : ∀ t, 2 * n + 1 ≤ t → ∀ p ∈ packets, PacketLinear bpf_csum_diff arp ifs calls t p := by
      intro t ht p hp
      exact (h.packets p hp).mono (hbusy.le.trans ht)
    rcases hu.write with ⟨m', he, hus⟩ | ⟨e, m', he⟩
    · rw [runAll_of_ok he] at hrun
      simp only [Live.next, he]
      rcases us with _ | ⟨v, vs⟩
      · refine ⟨fun _ => ?_, fun ht => absurd rfl ht, hp _ ?_⟩
        · rw [hl']
          exact hrun
        · rw [hdone]
          omega
      · have hu' := hus.resolve_left (List.cons_ne_nil v vs)
        refine ⟨fun ht => absurd ht (List.cons_ne_nil v vs), fun _ => ⟨c, n, hl, hc, hu', hrun⟩,
          hp _ ?_⟩
        have htime : Live.time ⟨m', v :: vs, begun, packets⟩ = 2 * n + 1 :=
          Live.time_of_busy (List.cons_ne_nil v vs) hl'
        exact htime.ge
    · -- The call has thrown, and is over.
      rw [runAll_of_error he] at hrun
      simp only [Live.next, he]
      refine ⟨fun _ => ?_, fun ht => absurd rfl ht, hp _ ?_⟩
      · rw [hl']
        exact hrun
      · rw [hdone]
        omega

/-- Every event keeps it. -/
theorem Live.Ok.next (hn : (ForwardingTable.run calls).constructed < 2^32) {l : Live}
    (h : l.Ok bpf_csum_diff arp ifs calls) (e : LiveEvent)
    (hpre : (l.next bpf_csum_diff arp ifs e).begun <+: calls) :
    (l.next bpf_csum_diff arp ifs e).Ok bpf_csum_diff arp ifs calls := by
  cases e with
  | call c => exact h.call hpre
  | write => exact h.write
  | arrive ctx =>
    refine ⟨h.idle, h.busy, fun p hmem => ?_⟩
    rcases List.mem_append.1 hmem with hmem | hmem
    · exact h.packets p hmem
    · rw [List.mem_singleton.1 hmem]
      trivial
  | read i =>
    refine ⟨h.idle, h.busy, fun p hmem => ?_⟩
    obtain ⟨j, hj, rfl⟩ := List.getElem_of_mem hmem
    simp only [Live.next, List.getElem_modify]
    split_ifs
    · exact PacketLinear.advance hn (h.now hn) (h.packets _ (List.getElem_mem _))
    · exact h.packets _ (List.getElem_mem _)

/-- The calls that were begun stay begun. -/
theorem Live.begun_prefix_next (l : Live) (e : LiveEvent) :
    l.begun <+: (l.next bpf_csum_diff arp ifs e).begun := by
  obtain ⟨maps, todo, begun, packets⟩ := l
  cases e with
  | call c =>
    cases todo with
    | nil => exact List.prefix_append begun [c]
    | cons u us => exact List.prefix_rfl
  | write =>
    cases todo with
    | nil => exact List.prefix_rfl
    | cons u us =>
      simp only [Live.next]
      cases u maps <;> exact List.prefix_rfl
  | arrive ctx => exact List.prefix_rfl
  | read i => exact List.prefix_rfl

/-- The machine keeps it in every run. -/
theorem Live.ok_run (hn : (ForwardingTable.run calls).constructed < 2^32)
    (events : List LiveEvent)
    (hpre : (events.foldl (Live.next bpf_csum_diff arp ifs) Live.init).begun <+: calls) :
    (events.foldl (Live.next bpf_csum_diff arp ifs) Live.init).Ok bpf_csum_diff arp ifs calls := by
  induction events using List.reverseRecOn with
  | nil => exact ⟨fun _ => rfl, fun h => absurd rfl h, by simp [Live.init]⟩
  | append_singleton events e ih =>
    rw [List.foldl_append, List.foldl_cons, List.foldl_nil] at hpre ⊢
    exact (ih ((Live.begun_prefix_next _ e).trans hpre)).next hn e hpre

end Machine

/-- A packet of the first session that is looked up before the session is removed, and makes its
other reads afterwards. -/
def sampleInterleaving : List LiveEvent :=
  [.call (sampleCreate 1 100), .write, .write, .write, .write, .write, .arrive samplePacket,
    .read 0, .call (.removeBPFSession 1), .write, .write, .read 0, .read 0]

end UpfBpf
