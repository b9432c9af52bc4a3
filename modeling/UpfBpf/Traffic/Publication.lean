import UpfBpf.Traffic.Frame

/-!
# Publication under traffic

`createPipeline` makes a pipeline visible to the datapath by three map updates: the index, the prog
array, and the FAR of the new program. A packet makes its three reads in the same order. Here the
two run interleaved: a configuration holds the maps, the updates that the call still has to make,
and the packets under way, and an event is the next update, a new packet, or the next read of a
packet. The time of a configuration is the number of updates made, and a packet remembers the time
of each of its reads.

A packet that reads before the first update, or after the last, is processed as before or as after
the call. `seen_iff` says for the others when they are not: when they got hold of the new id and
then came before the slot, or before the FAR.
-/

namespace UpfBpf

open Effect

/-! ## The machine -/

/-- A packet between its reads, with the times of the reads. -/
inductive Packet
  /-- It has not read anything. -/
  | arrived (ctx : XdpMd)
  /-- It has looked its key up. -/
  | lookedUp (ctx : XdpMd) (index_prog : UInt32) (t₁ : ℕ)
  /-- It has been handed to a program. -/
  | tailCalled (ctx : XdpMd) (ref : ℕ) (t₁ t₂ : ℕ)
  /-- It is processed. A read that was not made has the time of the last one that was. -/
  | done (ctx : XdpMd) (seen : Seen) (t₁ t₂ t₃ : ℕ)

/-- A packet that goes to the host's stack as it came. -/
def passed (ctx : XdpMd) : Seen := observe (.pass, ctx)

/-- A packet that is dropped. -/
def dropped : Seen := (.drop, none)

section Machine

variable (bpf_csum_diff : List UInt8 → UInt32) (arp : ℕ → ArpTable)

/-- The next read of a packet, at time `t`. -/
def Packet.advance (s : State) (t : ℕ) : Packet → Packet
  | .arrived ctx =>
    match detect ctx with
    | .ret action => .done ctx (observe (action, ctx)) t t t
    | .tailCall key =>
      match s.m_next_rule_prog_index.lookup key with
      | some index_prog => .lookedUp ctx index_prog t
      | none => .done ctx (passed ctx) t t t
  | .lookedUp ctx index_prog t₁ =>
    match s.m_next_rule_prog.get index_prog.toNat with
    | some ref => .tailCalled ctx ref t₁ t
    | none => .done ctx (passed ctx) t₁ t t
  | .tailCalled ctx ref t₁ t₂ =>
    .done ctx (observe (runProgram bpf_csum_diff arp s ctx ref)) t₁ t₂ t
  | .done ctx seen t₁ t₂ t₃ => .done ctx seen t₁ t₂ t₃

/-- The maps, the updates to come, and the packets under way. -/
structure Config where
  /-- The maps. -/
  maps : State
  /-- What the call has yet to do. -/
  todo : List (M Unit)
  /-- The updates that were made. -/
  time : ℕ
  /-- The packets. -/
  packets : List Packet

/-- What happens next. -/
inductive Event
  /-- The call makes its next update, or throws. -/
  | update
  /-- A packet arrives. -/
  | arrive (ctx : XdpMd)
  /-- A packet makes its next read. -/
  | advance (i : ℕ)

/-- The configuration after an event. A call that throws makes no further update. -/
def Config.next (c : Config) : Event → Config
  | .update =>
    match c.todo with
    | [] => c
    | u :: todo =>
      match u c.maps with
      | .ok _ s => { c with maps := s, todo := todo, time := c.time + 1 }
      | .error _ s => { c with maps := s, todo := [] }
  | .arrive ctx => { c with packets := c.packets ++ [.arrived ctx] }
  | .advance i =>
    { c with packets := c.packets.modify i (Packet.advance bpf_csum_diff arp c.maps c.time) }

end Machine

section Updates

variable (ifs : Interfaces) (env : Env) (s : State) (seid : UInt32) (key : NextRuleProgIndexKey)
  (pFar : PfcpFar)

/-- The updates of `createPipeline`, for the program `ref` with its id. -/
def pipelineUpdates (ref : ℕ) (id : UInt32) : List (M Unit) :=
  [updateNextProgRuleIndex env.indexFails key id, updateNextProgRule env.progFails id ref,
    onProgram ref (FARProgram.updateFar env (farOf pFar))]

/-- The call is these updates, between the construction of the program and the registration. -/
theorem createPipeline_eq_updates :
    createPipeline ifs env seid key pFar = (do
      let (ref, id) ← bringUp ifs env
      (pipelineUpdates env key pFar ref id).forM (fun u => u)
      modify fun s => s.register seid ⟨key, ref⟩) := by
  simp [createPipeline, publishIndex, pipelineUpdates]

/-- The call once its program is constructed, without a packet. -/
def Config.start : Config :=
  match bringUp ifs env s with
  | .ok (ref, id) s' => ⟨s', pipelineUpdates env key pFar ref id, 0, []⟩
  | .error _ s' => ⟨s', [], 0, []⟩

end Updates

/-! ## The maps at a time -/

section Views

variable (bpf_csum_diff : List UInt8 → UInt32) (arp : ℕ → ArpTable) (ifs : Interfaces) (env : Env)
  (s : State) (key : NextRuleProgIndexKey) (pFar : PfcpFar)

/-- The index at time `t`. -/
def indexAt (t : ℕ) (k : NextRuleProgIndexKey) : Option UInt32 :=
  if 1 ≤ t ∧ k = key then some s.sIdCounter else s.m_next_rule_prog_index.lookup k

/-- The prog array at time `t`. -/
def slotAt (t j : ℕ) : Option ℕ :=
  if 2 ≤ t ∧ j = s.sIdCounter.toNat then some s.programs.length else s.m_next_rule_prog.get j

/-- A program at time `t`: the new one gets its FAR last. -/
def runAt (t : ℕ) (ctx : XdpMd) (ref : ℕ) : Verdict × XdpMd :=
  if ref = s.programs.length then
    pfcpFarApply bpf_csum_diff (arp ref) (redirectInterfaces ifs) ctx
      (if 3 ≤ t then some (farOf pFar) else none)
  else runProgram bpf_csum_diff arp s ctx ref

/-- What is seen of a packet that makes its reads at the times given. -/
def seenAt (t₁ t₂ t₃ : ℕ) (ctx : XdpMd) : Seen :=
  match detect ctx with
  | .ret action => observe (action, ctx)
  | .tailCall k =>
    match indexAt s key t₁ k with
    | none => passed ctx
    | some id =>
      match slotAt s t₂ id.toNat with
      | none => passed ctx
      | some ref => observe (runAt bpf_csum_diff arp ifs s pFar t₃ ctx ref)

/-- The maps of `m` are those of time `t`. -/
structure Views (t : ℕ) (m : State) : Prop where
  /-- The index. -/
  index : ∀ k, m.m_next_rule_prog_index.lookup k = indexAt s key t k
  /-- The prog array. -/
  slots : ∀ j, m.m_next_rule_prog.get j = slotAt s t j
  /-- The programs, the new one from the time on when it is in its slot. -/
  run : ∀ ctx ref, ref < s.programs.length ∨ ref = s.programs.length ∧ 2 ≤ t →
    runProgram bpf_csum_diff arp m ctx ref = runAt bpf_csum_diff arp ifs s pFar t ctx ref

/-- The state of the maps after `t` updates of the call. -/
inductive Stage : ℕ → State → Prop
  /-- The program is constructed. -/
  | constructed (p : FARProgram) (hp : env.SetsUp → p = FARProgram.ready ifs s.sIdCounter) :
      Stage 0 (s.publish p s.m_next_rule_prog_index s.m_next_rule_prog)
  /-- The index is written. -/
  | indexed (index : BoundedMap 10 NextRuleProgIndexKey UInt32)
      (hindex : IndexWritten env s key index) :
      Stage 1 (s.publish (FARProgram.ready ifs s.sIdCounter) index s.m_next_rule_prog)
  /-- The slot is written. -/
  | slotted (index : BoundedMap 10 NextRuleProgIndexKey UInt32) (slots : SlotArray 10 ℕ)
      (hindex : IndexWritten env s key index) (hslot : SlotWritten env s slots) :
      Stage 2 (s.publish (FARProgram.ready ifs s.sIdCounter) index slots)
  /-- The FAR is stored. -/
  | stored (index : BoundedMap 10 NextRuleProgIndexKey UInt32) (slots : SlotArray 10 ℕ)
      (p : FARProgram) (hindex : IndexWritten env s key index) (hslot : SlotWritten env s slots)
      (hkernel : env.farFails = false) (hfar : p.far = some (farOf pFar))
      (hm : p.m_redirect_interfaces = redirectInterfaces ifs) :
      Stage 3 (s.publish p index slots)

variable {bpf_csum_diff arp ifs env s key pFar} {t : ℕ} {m : State}

/-- An index that was written is the index at a later time. -/
theorem IndexWritten.lookup_eq_indexAt {index : BoundedMap 10 NextRuleProgIndexKey UInt32}
    (h : IndexWritten env s key index) (ht : 1 ≤ t) (k : NextRuleProgIndexKey) :
    index.lookup k = indexAt s key t k := by
  rw [BoundedMap.lookup_update h.update_eq, indexAt]
  simp [ht]

/-- A prog array that was written is the prog array at a later time. -/
theorem SlotWritten.get_eq_slotAt {slots : SlotArray 10 ℕ} (h : SlotWritten env s slots)
    (ht : 2 ≤ t) (j : ℕ) : slots.get j = slotAt s t j := by
  rw [SlotArray.get_set h.set_eq, slotAt]
  simp [ht]

theorem indexAt_zero (s : State) (key k : NextRuleProgIndexKey) :
    indexAt s key 0 k = s.m_next_rule_prog_index.lookup k := by
  simp [indexAt]

theorem slotAt_of_lt (ht : t < 2) (j : ℕ) : slotAt s t j = s.m_next_rule_prog.get j := by
  have h : ¬ 2 ≤ t := by omega
  simp [slotAt, h]

/-- The programs with one more, at time `t`. -/
theorem runProgram_of_cores {p : FARProgram} (hc : m.cores = s.cores ++ [p.core])
    (hp : 2 ≤ t → p.m_redirect_interfaces = redirectInterfaces ifs ∧
      p.far = if 3 ≤ t then some (farOf pFar) else none) (ctx : XdpMd) (ref : ℕ)
    (href : ref < s.programs.length ∨ ref = s.programs.length ∧ 2 ≤ t) :
    runProgram bpf_csum_diff arp m ctx ref = runAt bpf_csum_diff arp ifs s pFar t ctx ref := by
  rw [runProgram_eq_cores, hc, runAt]
  rcases href with hlt | ⟨rfl, ht⟩
  · rw [if_neg hlt.ne, List.getElem?_append_left (by simpa using hlt), runProgram_eq_cores]
  · obtain ⟨hm, hf⟩ := hp ht
    rw [if_pos rfl, ← length_cores, List.getElem?_concat_length, length_cores]
    simp only [farEntryPoint, FARProgram.far_core, hf]
    rw [← hm]
    rfl

/-- The maps while no update is made. -/
theorem views_publish (p : FARProgram) :
    Views bpf_csum_diff arp ifs s key pFar 0
      (s.publish p s.m_next_rule_prog_index s.m_next_rule_prog) :=
  ⟨fun k => (indexAt_zero s key k).symm, fun j => (slotAt_of_lt Nat.zero_lt_two j).symm,
    runProgram_of_cores (cores_publish s p _ _) (by omega)⟩

/-- The maps at a stage are those of its time. -/
theorem Stage.views (h : Stage ifs env s key pFar t m) :
    Views bpf_csum_diff arp ifs s key pFar t m := by
  cases h with
  | constructed p hp => exact views_publish p
  | indexed index hindex =>
    exact ⟨hindex.lookup_eq_indexAt (by decide), fun j => (slotAt_of_lt Nat.one_lt_two j).symm,
      runProgram_of_cores (cores_publish s _ _ _) (by omega)⟩
  | slotted index slots hindex hslot =>
    exact ⟨hindex.lookup_eq_indexAt (by decide), hslot.get_eq_slotAt (by decide),
      runProgram_of_cores (cores_publish s _ _ _) fun _ => ⟨rfl, rfl⟩⟩
  | stored index slots p hindex hslot hkernel hfar hm =>
    exact ⟨hindex.lookup_eq_indexAt (by decide), hslot.get_eq_slotAt (by decide),
      runProgram_of_cores (cores_publish s _ _ _) fun _ => ⟨hm, hfar⟩⟩

/-- The maps before the call. -/
theorem views_before : Views bpf_csum_diff arp ifs s key pFar 0 s := by
  refine ⟨fun k => (indexAt_zero s key k).symm, fun j => (slotAt_of_lt Nat.zero_lt_two j).symm, ?_⟩
  intro ctx ref href
  have hne : ref ≠ s.programs.length := by omega
  rw [runAt, if_neg hne]

/-- The registration of a pipeline changes no map. -/
theorem Views.register (h : Views bpf_csum_diff arp ifs s key pFar t m) (seid : UInt32)
    (entry : SessionPrograms) :
    Views bpf_csum_diff arp ifs s key pFar t (m.register seid entry) := by
  have hi : (m.register seid entry).m_next_rule_prog_index = m.m_next_rule_prog_index := by
    rw [State.register, destroy_eq]
  have hs : (m.register seid entry).m_next_rule_prog = m.m_next_rule_prog := by
    rw [State.register, destroy_eq]
  refine ⟨by rw [hi]; exact h.index, by rw [hs]; exact h.slots, fun ctx ref href => ?_⟩
  rw [runProgram_eq_cores, cores_register, ← runProgram_eq_cores]
  exact h.run ctx ref href

/-- A slot holds a program that exists, at every time. -/
theorem lt_of_slotAt (hN : Numbered s) {j ref : ℕ} (h : slotAt s t j = some ref) :
    ref < s.programs.length ∨ ref = s.programs.length ∧ 2 ≤ t := by
  rw [slotAt] at h
  split_ifs at h with hc
  · exact .inr ⟨(Option.some.inj h).symm, hc.1⟩
  · exact .inl (hN.slots j ref h).1

/-- A packet that is processed in one state of the maps makes all its reads at the time of it. -/
theorem Views.observe_processFrame (h : Views bpf_csum_diff arp ifs s key pFar t m)
    (hN : Numbered s) (ctx : XdpMd) (mc_stats : McStats) :
    observe (processFrame bpf_csum_diff arp m ctx mc_stats) =
      seenAt bpf_csum_diff arp ifs s key pFar t t t ctx := by
  rw [processFrame_eq, seenAt]
  cases detect ctx with
  | ret action => rfl
  | tailCall k =>
    simp only [tailCallNextProg, h.index]
    cases indexAt s key t k with
    | none => rfl
    | some id =>
      simp only [Option.bind_some, h.slots]
      cases hs : slotAt s t id.toNat with
      | none => rfl
      | some ref =>
        dsimp only
        rw [h.run ctx ref (lt_of_slotAt hN hs)]

/-! ## The packets under way -/

variable (bpf_csum_diff arp ifs s key pFar) in
/-- What a packet has got hold of is what its reads gave at their times, up to the time `t`. -/
def PacketOk (t : ℕ) : Packet → Prop
  | .arrived _ => True
  | .lookedUp ctx id t₁ => t₁ ≤ t ∧ ∃ k, detect ctx = .tailCall k ∧ indexAt s key t₁ k = some id
  | .tailCalled ctx ref t₁ t₂ => t₁ ≤ t ∧ t₂ ≤ t ∧ ∃ k id, detect ctx = .tailCall k ∧
    indexAt s key t₁ k = some id ∧ slotAt s t₂ id.toNat = some ref
  | .done ctx seen t₁ t₂ t₃ => t₁ ≤ t ∧ t₂ ≤ t ∧ t₃ ≤ t ∧
    seen = seenAt bpf_csum_diff arp ifs s key pFar t₁ t₂ t₃ ctx

theorem PacketOk.mono {t' : ℕ} (ht : t ≤ t') {p : Packet}
    (h : PacketOk bpf_csum_diff arp ifs s key pFar t p) :
    PacketOk bpf_csum_diff arp ifs s key pFar t' p := by
  cases p with
  | arrived ctx => trivial
  | lookedUp ctx id t₁ => exact ⟨h.1.trans ht, h.2⟩
  | tailCalled ctx ref t₁ t₂ => exact ⟨h.1.trans ht, h.2.1.trans ht, h.2.2⟩
  | done ctx seen t₁ t₂ t₃ => exact ⟨h.1.trans ht, h.2.1.trans ht, h.2.2.1.trans ht, h.2.2.2⟩

/-- A read keeps it. -/
theorem PacketOk.advance (hv : Views bpf_csum_diff arp ifs s key pFar t m) (hN : Numbered s)
    {p : Packet} (h : PacketOk bpf_csum_diff arp ifs s key pFar t p) :
    PacketOk bpf_csum_diff arp ifs s key pFar t (p.advance bpf_csum_diff arp m t) := by
  cases p with
  | arrived ctx =>
    -- The index lookup, if the parser comes to one.
    cases hd : detect ctx with
    | ret action =>
      simp only [Packet.advance, hd]
      exact ⟨le_rfl, le_rfl, le_rfl, by simp only [seenAt, hd]⟩
    | tailCall k =>
      simp only [Packet.advance, hd, hv.index]
      cases hi : indexAt s key t k with
      | none => exact ⟨le_rfl, le_rfl, le_rfl, by simp only [seenAt, hd, hi]⟩
      | some id => exact ⟨le_rfl, k, hd, hi⟩
  | lookedUp ctx id t₁ =>
    -- The tail call, which falls through when the slot is empty.
    obtain ⟨ht₁, k, hd, hi⟩ := h
    simp only [Packet.advance, hv.slots]
    cases hs : slotAt s t id.toNat with
    | none => exact ⟨ht₁, le_rfl, le_rfl, by simp only [seenAt, hd, hi, hs]⟩
    | some ref => exact ⟨ht₁, le_rfl, k, id, hd, hi, hs⟩
  | tailCalled ctx ref t₁ t₂ =>
    -- The program, which exists since it was in a slot.
    obtain ⟨ht₁, ht₂, k, id, hd, hi, hs⟩ := h
    refine ⟨ht₁, ht₂, le_rfl, ?_⟩
    have href : ref < s.programs.length ∨ ref = s.programs.length ∧ 2 ≤ t := by
      rcases lt_of_slotAt hN hs with hlt | ⟨he, ht⟩
      · exact .inl hlt
      · exact .inr ⟨he, ht.trans ht₂⟩
    rw [hv.run ctx ref href]
    simp only [seenAt, hd, hi, hs]
  | done ctx seen t₁ t₂ t₃ => exact h

/-! ## Runs of the machine -/

/-- The updates that remain at a time are those behind the ones that were made. -/
structure Progress (ifs : Interfaces) (env : Env) (s : State) (key : NextRuleProgIndexKey)
    (pFar : PfcpFar) (t : ℕ) (m : State) (todo : List (M Unit)) : Prop where
  /-- The maps. -/
  stage : Stage ifs env s key pFar t m
  /-- What is to be done. -/
  todo_eq : todo = [] ∨ env.SetsUp ∧
    todo = (pipelineUpdates env key pFar s.programs.length s.sIdCounter).drop t

/-- An update leads to the next stage, or throws and leaves the maps. -/
theorem Progress.update {u : M Unit} {todo : List (M Unit)}
    (h : Progress ifs env s key pFar t m (u :: todo)) :
    (∃ m', u m = .ok () m' ∧ Progress ifs env s key pFar (t + 1) m' todo) ∨
      ∃ e, u m = .error e m := by
  obtain ⟨hstage, hnil | ⟨hs, htodo⟩⟩ := h
  · cases hnil
  -- The stage says which of the three updates is the next one.
  cases hstage with
  | constructed p hp =>
    rw [hp hs] at *
    cases htodo
    rcases updateNextProgRuleIndex_cases env.indexFails key s.sIdCounter
        (s.publish (FARProgram.ready ifs s.sIdCounter) s.m_next_rule_prog_index s.m_next_rule_prog)
      with ⟨index, hk, hi, hu⟩ | ⟨-, hu⟩
    · exact .inl ⟨_, hu, .indexed index ⟨hs, hk, hi⟩, .inr ⟨hs, rfl⟩⟩
    · exact .inr ⟨_, hu⟩
  | indexed index hindex =>
    cases htodo
    rcases updateNextProgRule_cases env.progFails s.sIdCounter s.programs.length
        (s.publish (FARProgram.ready ifs s.sIdCounter) index s.m_next_rule_prog)
      with ⟨slots, hk, hi, hu⟩ | ⟨-, hu⟩
    · exact .inl ⟨_, hu, .slotted index slots hindex ⟨hk, hi⟩, .inr ⟨hs, rfl⟩⟩
    · exact .inr ⟨_, hu⟩
  | slotted index slots hindex hslot =>
    cases htodo
    rcases updateFar_cases env (farOf pFar) (FARProgram.ready ifs s.sIdCounter) rfl
      with ⟨hk, f, hf, hu⟩ | ⟨-, hu⟩
    · exact .inl ⟨_, onProgram_publish hu, .stored index slots _ hindex hslot hk
        (BoundedMap.lookup_update_self hf) rfl, .inl rfl⟩
    · exact .inr ⟨_, onProgram_publish_error hu⟩
  | stored index slots p hindex hslot hkernel hfar hm => cases htodo

/-- What holds of a configuration throughout. -/
structure Config.Ok (bpf_csum_diff : List UInt8 → UInt32) (arp : ℕ → ArpTable) (ifs : Interfaces)
    (env : Env) (s : State) (key : NextRuleProgIndexKey) (pFar : PfcpFar) (c : Config) : Prop where
  /-- The call is where the time says. -/
  progress : Progress ifs env s key pFar c.time c.maps c.todo
  /-- The packets have read what was there. -/
  packets : ∀ p ∈ c.packets, PacketOk bpf_csum_diff arp ifs s key pFar c.time p

theorem Config.ok_start :
    (Config.start ifs env s key pFar).Ok bpf_csum_diff arp ifs env s key pFar := by
  unfold Config.start
  by_cases hs : env.SetsUp
  · rw [bringUp_of_setsUp s hs]
    exact ⟨⟨.constructed _ fun _ => rfl, .inr ⟨hs, rfl⟩⟩, by simp⟩
  · obtain ⟨e, p, -, -, -, hb⟩ := bringUp_of_not_setsUp ifs s hs
    rw [hb]
    exact ⟨⟨.constructed p fun h => absurd h hs, .inl rfl⟩, by simp⟩

/-- Every event keeps it. -/
theorem Config.Ok.next (hN : Numbered s) {c : Config}
    (h : c.Ok bpf_csum_diff arp ifs env s key pFar) (e : Event) :
    (c.next bpf_csum_diff arp e).Ok bpf_csum_diff arp ifs env s key pFar := by
  obtain ⟨maps, todo, time, packets⟩ := c
  obtain ⟨hp, hk⟩ := h
  cases e with
  | update =>
    cases todo with
    | nil => exact ⟨hp, hk⟩
    | cons u todo =>
      rcases hp.update with ⟨m', hu, hp'⟩ | ⟨e, hu⟩
      · simp only [Config.next, hu]
        exact ⟨hp', fun p hmem => (hk p hmem).mono (Nat.le_succ _)⟩
      · -- The call has thrown: the maps stay, and nothing is left to do.
        simp only [Config.next, hu]
        exact ⟨⟨hp.stage, .inl rfl⟩, hk⟩
  | arrive ctx =>
    refine ⟨hp, fun p hmem => ?_⟩
    rcases List.mem_append.1 hmem with hmem | hmem
    · exact hk p hmem
    · rw [List.mem_singleton.1 hmem]
      trivial
  | advance i =>
    refine ⟨hp, fun p hmem => ?_⟩
    obtain ⟨j, hj, rfl⟩ := List.getElem_of_mem hmem
    simp only [Config.next, List.getElem_modify]
    split_ifs
    · exact (hk _ (List.getElem_mem _)).advance hp.stage.views hN
    · exact hk _ (List.getElem_mem _)

/-! ## What a packet can see -/

variable (bpf_csum_diff arp s) in
/-- What a packet sees that is handed to the slot of the new id before the slot is written. -/
def seenInOldSlot (ctx : XdpMd) : Seen :=
  match s.m_next_rule_prog.get s.sIdCounter.toNat with
  | some ref => observe (runProgram bpf_csum_diff arp s ctx ref)
  | none => passed ctx

variable (bpf_csum_diff arp ifs s pFar) in
/-- What a packet sees that is handed to the new program with its FAR. -/
def seenByFar (ctx : XdpMd) : Seen :=
  observe (pfcpFarApply bpf_csum_diff (arp s.programs.length) (redirectInterfaces ifs) ctx
    (some (farOf pFar)))

variable (env s) in
/-- The slot of the new program is refused, by the kernel or for its id. -/
def SlotRefused : Prop := env.progFails = true ∨ 10 ≤ s.sIdCounter.toNat

instance : Decidable (SlotRefused env s) := inferInstanceAs (Decidable (_ ∨ _))

variable (bpf_csum_diff arp ifs env s pFar) in
/-- What a packet that gets hold of the new id sees in the end, by where the call stops. -/
def seenAtEnd (ctx : XdpMd) : Seen :=
  if SlotRefused env s then seenInOldSlot bpf_csum_diff arp s ctx
  else if env.farFails then dropped
  else seenByFar bpf_csum_diff arp ifs s pFar ctx

/-- A slot that can be written is not refused. -/
theorem slotRefused_iff : SlotRefused env s ↔ ∀ slots, ¬ SlotWritten env s slots := by
  constructor
  · rintro (hf | hlt) slots h
    · exact absurd (h.kernel.symm.trans hf) (by decide)
    · exact absurd (SlotArray.lt_of_set h.set_eq) (not_lt.2 hlt)
  · intro hnot
    by_contra hr
    rw [SlotRefused, not_or, Bool.not_eq_true, not_le] at hr
    obtain ⟨slots, hs⟩ := SlotArray.exists_set_of_lt hr.2 s.m_next_rule_prog
      (some s.programs.length)
    exact hnot slots ⟨hr.1, hs⟩

section Seen

variable {ctx : XdpMd} {k : NextRuleProgIndexKey} {t₁ t₂ t₃ : ℕ}

/-- A program that was there before is the same at every time. -/
theorem runAt_of_slot (hN : Numbered s) {j ref : ℕ} (h : s.m_next_rule_prog.get j = some ref) :
    runAt bpf_csum_diff arp ifs s pFar t ctx ref = runProgram bpf_csum_diff arp s ctx ref := by
  rw [runAt, if_neg (hN.slots j ref h).1.ne]

/-- A packet that is not looked up sees the same at every time. -/
theorem seenAt_of_ret {action : Verdict} (hd : detect ctx = .ret action) :
    seenAt bpf_csum_diff arp ifs s key pFar t₁ t₂ t₃ ctx =
      seenAt bpf_csum_diff arp ifs s key pFar 0 0 0 ctx := by
  simp only [seenAt, hd]

/-- So does one that does not get hold of the new id. -/
theorem seenAt_of_other_id (hN : Numbered s) (hd : detect ctx = .tailCall k)
    (hi : indexAt s key t₁ k ≠ some s.sIdCounter) :
    seenAt bpf_csum_diff arp ifs s key pFar t₁ t₂ t₃ ctx =
      seenAt bpf_csum_diff arp ifs s key pFar 0 0 0 ctx := by
  have h0 : indexAt s key t₁ k = indexAt s key 0 k := by
    rw [indexAt_zero]
    rw [indexAt] at hi ⊢
    split_ifs at hi ⊢ with hc
    · exact absurd rfl hi
    · rfl
  simp only [seenAt, hd, ← h0]
  cases he : indexAt s key t₁ k with
  | none => rfl
  | some id =>
    -- Its slot is another one than that of the new program, so it is never written.
    have hne : id.toNat ≠ s.sIdCounter.toNat := fun e => by
      rw [he, UInt32.toNat_inj.1 e] at hi
      exact hi rfl
    simp only [slotAt, hne, and_false, if_false]
    cases hs : s.m_next_rule_prog.get id.toNat with
    | none => rfl
    | some ref =>
      dsimp only
      rw [runAt_of_slot hN hs, runAt_of_slot hN hs]

/-- One that does, and comes before the slot, sees what the slot held. -/
theorem seenAt_before_slot (hN : Numbered s) (hd : detect ctx = .tailCall k)
    (hi : indexAt s key t₁ k = some s.sIdCounter) (ht : t₂ < 2) :
    seenAt bpf_csum_diff arp ifs s key pFar t₁ t₂ t₃ ctx =
      seenInOldSlot bpf_csum_diff arp s ctx := by
  simp only [seenAt, hd, hi, slotAt_of_lt ht, seenInOldSlot]
  cases hs : s.m_next_rule_prog.get s.sIdCounter.toNat with
  | none => rfl
  | some ref =>
    dsimp only
    rw [runAt_of_slot hN hs]

/-- One that comes behind the slot and before the FAR is dropped. -/
theorem seenAt_before_far (hd : detect ctx = .tailCall k)
    (hi : indexAt s key t₁ k = some s.sIdCounter) (ht : 2 ≤ t₂) (ht' : t₃ < 3) :
    seenAt bpf_csum_diff arp ifs s key pFar t₁ t₂ t₃ ctx = dropped := by
  have hslot : slotAt s t₂ s.sIdCounter.toNat = some s.programs.length := by
    rw [slotAt, if_pos ⟨ht, rfl⟩]
  have h3 : ¬ 3 ≤ t₃ := by omega
  simp only [seenAt, hd, hi, hslot, runAt, h3, if_true, if_false, pfcpFarApply, ite_self]
  rfl

/-- One that comes behind both is processed by the FAR. -/
theorem seenAt_behind_far (hd : detect ctx = .tailCall k)
    (hi : indexAt s key t₁ k = some s.sIdCounter) (ht : 2 ≤ t₂) (ht' : 3 ≤ t₃) :
    seenAt bpf_csum_diff arp ifs s key pFar t₁ t₂ t₃ ctx =
      seenByFar bpf_csum_diff arp ifs s pFar ctx := by
  have hslot : slotAt s t₂ s.sIdCounter.toNat = some s.programs.length := by
    rw [slotAt, if_pos ⟨ht, rfl⟩]
  simp only [seenAt, hd, hi, hslot, runAt, ht', if_true]
  rfl

/-- The new id stays in the index. -/
theorem indexAt_mono {t' : ℕ} (hi : indexAt s key t k = some s.sIdCounter) (ht : t ≤ t') :
    indexAt s key t' k = some s.sIdCounter := by
  by_cases h' : 1 ≤ t' ∧ k = key
  · rw [indexAt, if_pos h']
  · have h : ¬ (1 ≤ t ∧ k = key) := fun h => h' ⟨h.1.trans ht, h.2⟩
    rw [indexAt, if_neg h] at hi
    rw [indexAt, if_neg h', hi]

end Seen

/-! ## The end of the call -/

variable (bpf_csum_diff arp ifs env s key pFar) in
/-- The call makes `n` updates. -/
structure EndsAt (n : ℕ) : Prop where
  /-- No stage is behind them. -/
  le : ∀ t m, Stage ifs env s key pFar t m → t ≤ n
  /-- What is seen then, once there is a first one. -/
  seen : 1 ≤ n → ∀ ctx k, detect ctx = .tailCall k → indexAt s key n k = some s.sIdCounter →
    seenAt bpf_csum_diff arp ifs s key pFar n n n ctx =
      seenAtEnd bpf_csum_diff arp ifs env s pFar ctx

/-- How many updates the call makes, by its outcome. -/
theorem PipelineOutcome.endsAt (hN : Numbered s) {seid : UInt32} {r : EStateM.Result Err State Unit}
    (h : PipelineOutcome ifs env s seid key pFar r) :
    ∃ n, Views bpf_csum_diff arp ifs s key pFar n (stateAfter r) ∧
      EndsAt bpf_csum_diff arp ifs env s key pFar n := by
  cases h with
  | unpublished e p hid hfar hloaded hnot =>
    refine ⟨0, views_publish p, fun t m hm => ?_, fun h1 => absurd h1 (by decide)⟩
    cases hm with
    | constructed p hp => exact le_rfl
    | indexed index hindex => exact absurd hindex (hnot index)
    | slotted index slots hindex hslot => exact absurd hindex (hnot index)
    | stored index slots p hindex hslot hkernel hfar hm => exact absurd hindex (hnot index)
  | indexed index hindex hnot =>
    refine ⟨1, (Stage.indexed index hindex : Stage ifs env s key pFar 1 _).views,
      fun t m hm => ?_, fun _ ctx k hd hi => ?_⟩
    · cases hm with
      | constructed p hp => exact Nat.zero_le 1
      | indexed index hindex => exact le_rfl
      | slotted index slots hindex hslot => exact absurd hslot (hnot slots)
      | stored index slots p hindex hslot hkernel hfar hm => exact absurd hslot (hnot slots)
    · rw [seenAt_before_slot hN hd hi Nat.one_lt_two, seenAtEnd, if_pos (slotRefused_iff.2 hnot)]
  | slotted index slots hindex hslot hnot =>
    have hr : ¬ SlotRefused env s := fun hr => slotRefused_iff.1 hr slots hslot
    refine ⟨2, (Stage.slotted index slots hindex hslot : Stage ifs env s key pFar 2 _).views,
      fun t m hm => ?_, fun _ ctx k hd hi => ?_⟩
    · cases hm with
      | constructed p hp => exact Nat.zero_le 2
      | indexed index hindex => exact Nat.le_succ 1
      | slotted index slots hindex hslot => exact le_rfl
      | stored index slots p hindex hslot hkernel hfar hm =>
        exact absurd (hkernel.symm.trans hnot) (by decide)
    · rw [seenAt_before_far hd hi le_rfl (by decide), seenAtEnd, if_neg hr, if_pos hnot]
  | deployed index slots p hindex hslot hkernel hid hloaded hfar hm =>
    have hr : ¬ SlotRefused env s := fun hr => slotRefused_iff.1 hr slots hslot
    have hk : ¬ env.farFails = true := by rw [hkernel]; decide
    refine ⟨3, ((Stage.stored index slots p hindex hslot hkernel hfar hm :
      Stage ifs env s key pFar 3 _).views).register seid _, fun t m hs => ?_,
      fun _ ctx k hd hi => ?_⟩
    · cases hs <;> decide
    · rw [seenAt_behind_far hd hi (by decide) le_rfl, seenAtEnd, if_neg hr, if_neg hk]

section NewId

variable {ctx : XdpMd} {k : NextRuleProgIndexKey} {n t₁ t₂ t₃ : ℕ}

/-! A packet that has got hold of the new id, by the slot that it was handed to. The end of the call
is seen through the new id as well. -/

/-- The slot was not written yet. -/
theorem EndsAt.before_slot (h : EndsAt bpf_csum_diff arp ifs env s key pFar n) (hN : Numbered s)
    (hn : t₁ ≤ n) (hd : detect ctx = .tailCall k) (hi : indexAt s key t₁ k = some s.sIdCounter)
    (h2 : t₂ < 2) :
    (seenAt bpf_csum_diff arp ifs s key pFar t₁ t₂ t₃ ctx =
          seenAt bpf_csum_diff arp ifs s key pFar 0 0 0 ctx ∨
        seenAt bpf_csum_diff arp ifs s key pFar t₁ t₂ t₃ ctx =
          seenAt bpf_csum_diff arp ifs s key pFar n n n ctx) ↔
      (1 ≤ t₁ ∧ k = key → seenInOldSlot bpf_csum_diff arp s ctx =
            seenAt bpf_csum_diff arp ifs s key pFar 0 0 0 ctx ∨
          seenInOldSlot bpf_csum_diff arp s ctx =
            seenAtEnd bpf_csum_diff arp ifs env s pFar ctx) := by
  rw [seenAt_before_slot hN hd hi h2]
  by_cases hk : 1 ≤ t₁ ∧ k = key
  · rw [h.seen (hk.1.trans hn) ctx k hd (indexAt_mono hi hn)]
    exact ⟨fun hs _ => hs, fun hs => hs hk⟩
  · -- The new id was in the index before: the packet is processed as before.
    rw [indexAt, if_neg hk, ← indexAt_zero s key] at hi
    refine iff_of_true (.inl ?_) fun hk' => absurd hk' hk
    rw [seenAt_before_slot hN hd hi Nat.zero_lt_two]

/-- The slot was written, and so it is at the end. -/
theorem EndsAt.behind_slot (h : EndsAt bpf_csum_diff arp ifs env s key pFar n) (hn : t₁ ≤ n)
    (hn₂ : t₂ ≤ n) (hn₃ : t₃ ≤ n) (hd : detect ctx = .tailCall k)
    (hi : indexAt s key t₁ k = some s.sIdCounter) (h2 : 2 ≤ t₂) :
    (seenAt bpf_csum_diff arp ifs s key pFar t₁ t₂ t₃ ctx =
          seenAt bpf_csum_diff arp ifs s key pFar 0 0 0 ctx ∨
        seenAt bpf_csum_diff arp ifs s key pFar t₁ t₂ t₃ ctx =
          seenAt bpf_csum_diff arp ifs s key pFar n n n ctx) ↔
      (t₃ < 3 → dropped = seenAt bpf_csum_diff arp ifs s key pFar 0 0 0 ctx ∨
        dropped = seenAtEnd bpf_csum_diff arp ifs env s pFar ctx) := by
  have h1 : 1 ≤ n := by omega
  have hin : indexAt s key n k = some s.sIdCounter := indexAt_mono hi hn
  rcases Nat.lt_or_ge t₃ 3 with h3 | h3
  · rw [seenAt_before_far hd hi h2 h3, h.seen h1 ctx k hd hin]
    exact ⟨fun hs _ => hs, fun hs => hs h3⟩
  · -- All three updates were made before the last read.
    have h2n : 2 ≤ n := h2.trans hn₂
    have h3n : 3 ≤ n := h3.trans hn₃
    refine iff_of_true (.inr ?_) fun h3' => absurd h3' (by omega)
    rw [seenAt_behind_far hd hi h2 h3, seenAt_behind_far hd hin h2n h3n]

end NewId

end Views

/-! ## When publication is atomic -/

/-- The packet has looked up the key that is published, after the index was written, and was handed
to the slot before that was written. -/
def TornAtSlot (key : NextRuleProgIndexKey) (ctx : XdpMd) (t₁ t₂ : ℕ) : Prop :=
  detect ctx = .tailCall key ∧ 1 ≤ t₁ ∧ t₂ < 2

/-- The packet has got hold of the new id, was handed to the slot after that was written, and has
looked the FAR up before it was stored. -/
def TornAtFar (s : State) (key : NextRuleProgIndexKey) (ctx : XdpMd) (t₁ t₂ t₃ : ℕ) : Prop :=
  (∃ k, detect ctx = .tailCall k ∧
    (k = key ∧ 1 ≤ t₁ ∨ s.m_next_rule_prog_index.lookup k = some s.sIdCounter)) ∧ 2 ≤ t₂ ∧ t₃ < 3

section Torn

variable {s : State} {key k : NextRuleProgIndexKey} {ctx : XdpMd} {t₁ t₂ t₃ : ℕ}

theorem tornAtSlot_iff (hd : detect ctx = .tailCall k) :
    TornAtSlot key ctx t₁ t₂ ↔ (1 ≤ t₁ ∧ k = key) ∧ t₂ < 2 := by
  rw [TornAtSlot, hd, EntryExit.tailCall.injEq]
  tauto

theorem tornAtFar_iff (hd : detect ctx = .tailCall k) :
    TornAtFar s key ctx t₁ t₂ t₃ ↔
      indexAt s key t₁ k = some s.sIdCounter ∧ 2 ≤ t₂ ∧ t₃ < 3 := by
  rw [TornAtFar, hd]
  apply and_congr_left'
  rw [indexAt]
  split_ifs with h
  · exact iff_of_true ⟨k, rfl, .inl h.symm⟩ rfl
  · constructor
    · rintro ⟨_, ⟨⟩, hk | hk⟩
      · exact absurd hk.symm h
      · exact hk
    · intro hk
      exact ⟨k, rfl, .inr hk⟩

end Torn

/-- A packet is processed as before or as after the call, in every interleaving of a call from a
state that can be reached with any number of packets, exactly when it is not torn at the slot or at
the FAR, or what it then sees is what it would have seen before, or will see in the end. -/
theorem seen_iff (bpf_csum_diff : List UInt8 → UInt32) (arp : ℕ → ArpTable) (ifs : Interfaces)
    (calls : List Call) (env : Env) (seid : UInt32) (key : NextRuleProgIndexKey) (pFar : PfcpFar)
    (events : List Event) (mc_stats : McStats) {ctx : XdpMd} {seen : Seen} {t₁ t₂ t₃ : ℕ}
    (h : .done ctx seen t₁ t₂ t₃ ∈ (events.foldl (Config.next bpf_csum_diff arp)
      (Config.start ifs env (run ifs calls) key pFar)).packets) :
    let s := run ifs calls
    let before := observe (processFrame bpf_csum_diff arp s ctx mc_stats)
    let after := observe (processFrame bpf_csum_diff arp
      (stateAfter (createPipeline ifs env seid key pFar s)) ctx mc_stats)
    let torn := seenInOldSlot bpf_csum_diff arp s ctx
    let atEnd := seenAtEnd bpf_csum_diff arp ifs env s pFar ctx
    (seen = before ∨ seen = after) ↔
      (TornAtSlot key ctx t₁ t₂ → torn = before ∨ torn = atEnd) ∧
      (TornAtFar s key ctx t₁ t₂ t₃ → dropped = before ∨ dropped = atEnd) := by
  intro s before after torn atEnd
  have hN : Numbered s := numbered_run ifs calls
  have hok : (events.foldl (Config.next bpf_csum_diff arp) (Config.start ifs env s key pFar)).Ok
      bpf_csum_diff arp ifs env s key pFar :=
    Run.invariant Config.ok_start (fun c e hc => hc.next hN e) events
  obtain ⟨hle₁, hle₂, hle₃, hseen⟩ := hok.packets _ h
  obtain ⟨n, hviews, hends⟩ : ∃ n, Views bpf_csum_diff arp ifs s key pFar n
      (stateAfter (createPipeline ifs env seid key pFar s)) ∧
        EndsAt bpf_csum_diff arp ifs env s key pFar n :=
    (createPipeline_outcome ifs env s seid key pFar).endsAt hN
  -- The reads of the packet were made while the call was under way.
  have hn := hends.le _ _ hok.progress.stage
  have hbefore : before = seenAt bpf_csum_diff arp ifs s key pFar 0 0 0 ctx :=
    views_before.observe_processFrame hN ctx mc_stats
  have hafter : after = seenAt bpf_csum_diff arp ifs s key pFar n n n ctx :=
    hviews.observe_processFrame hN ctx mc_stats
  cases hd : detect ctx with
  | ret action =>
    refine iff_of_true (.inl ?_) ⟨fun ht => ?_, fun ht => ?_⟩
    · rw [hseen, hbefore, seenAt_of_ret hd]
    · exact absurd (hd.symm.trans ht.1) (by simp)
    · obtain ⟨⟨k, hk, -⟩, -⟩ := ht
      exact absurd (hd.symm.trans hk) (by simp)
  | tailCall k =>
    rw [tornAtSlot_iff hd, tornAtFar_iff hd]
    by_cases hi : indexAt s key t₁ k = some s.sIdCounter
    · rw [hseen, hbefore, hafter]
      rcases Nat.lt_or_ge t₂ 2 with h2 | h2
      · have hfar : ¬ (indexAt s key t₁ k = some s.sIdCounter ∧ 2 ≤ t₂ ∧ t₃ < 3) := by omega
        rw [hends.before_slot hN (hle₁.trans hn) hd hi h2,
          iff_true_intro fun ht => absurd ht hfar, and_true]
        exact ⟨fun hs ht => hs ht.1, fun hs hk => hs ⟨hk, h2⟩⟩
      · have hslot : ¬ ((1 ≤ t₁ ∧ k = key) ∧ t₂ < 2) := by omega
        rw [hends.behind_slot (hle₁.trans hn) (hle₂.trans hn) (hle₃.trans hn) hd hi h2,
          iff_true_intro fun ht => absurd ht hslot, true_and]
        exact ⟨fun hs ht => hs ht.2.2, fun hs h3 => hs ⟨hi, h2, h3⟩⟩
    · refine iff_of_true (.inl ?_) ⟨fun ht => absurd ?_ hi, fun ht => absurd ht.1 hi⟩
      · rw [hseen, hbefore, seenAt_of_other_id hN hd hi]
      · rw [indexAt, if_pos ht.1]

/-- The first pipeline of a run, under way with packets of its own key. -/
def samplePublication (events : List Event) : Config :=
  events.foldl (Config.next (fun _ => 0) sampleArp)
    (Config.start sampleInterfaces sampleEnv (run sampleInterfaces [])
      ⟨100, interfaceValueAccess, 0x0a0a0a0a⟩ sampleFar)

/-- A packet of the sample session. -/
def samplePacket : XdpMd := ⟨[], sampleUplinkFrame 100⟩

/-- Two packets that look their key up between the first and the second update. The first one is
handed to the slot at once, and the second one makes each read after the next update. -/
def sampleEvents : List Event :=
  [.update, .arrive samplePacket, .arrive samplePacket, .advance 0, .advance 1, .advance 0, .update,
    .advance 1, .update, .advance 1]

/-- Both are processed as before or as after the call: the first one is torn at the slot, but passed
as before the call, and the second one is not torn. -/
theorem seen_iff_sample :
    let before := observe (processFrame (fun _ => 0) sampleArp (run sampleInterfaces [])
      samplePacket (fun _ => {}))
    let after := observe (processFrame (fun _ => 0) sampleArp
      (stateAfter (createPipeline sampleInterfaces sampleEnv 1
        ⟨100, interfaceValueAccess, 0x0a0a0a0a⟩ sampleFar (run sampleInterfaces [])))
      samplePacket (fun _ => {}))
    Packet.done samplePacket (passed samplePacket) 1 1 1 ∈
        (samplePublication sampleEvents).packets ∧
      (passed samplePacket = before ∨ passed samplePacket = after) ∧
      ∃ seen, Packet.done samplePacket seen 1 2 3 ∈ (samplePublication sampleEvents).packets ∧
        (seen = before ∨ seen = after) := by
  intro before after
  have htorn : Packet.done samplePacket (passed samplePacket) 1 1 1 ∈
      (samplePublication sampleEvents).packets := List.mem_cons_self
  have hstraddling : Packet.done samplePacket (observe (runProgram (fun _ => 0) sampleArp
      (samplePublication sampleEvents).maps samplePacket 0)) 1 2 3 ∈
      (samplePublication sampleEvents).packets :=
    List.mem_cons_of_mem _ (List.mem_singleton.2 rfl)
  refine ⟨htorn, ?_, _, hstraddling, ?_⟩
  · exact (seen_iff (fun _ => 0) sampleArp sampleInterfaces [] sampleEnv 1
      ⟨100, interfaceValueAccess, 0x0a0a0a0a⟩ sampleFar sampleEvents (fun _ => {}) htorn).2
      ⟨fun _ => .inl (by decide), fun ht => absurd ht.2.1 (by decide)⟩
  · exact (seen_iff (fun _ => 0) sampleArp sampleInterfaces [] sampleEnv 1
      ⟨100, interfaceValueAccess, 0x0a0a0a0a⟩ sampleFar sampleEvents (fun _ => {}) hstraddling).2
      ⟨fun ht => absurd ht.2.2 (by decide), fun ht => absurd ht.2.2 (by decide)⟩

/-- A packet that comes between the second and the third update is dropped. Before the call it is
passed, and after it redirected. -/
theorem packet_dropped_during_publication :
    Packet.done samplePacket dropped 2 2 2 ∈
        (samplePublication [.update, .update, .arrive samplePacket, .advance 0, .advance 0,
          .advance 0, .update]).packets ∧
      dropped ≠ observe (processFrame (fun _ => 0) sampleArp (run sampleInterfaces [])
        samplePacket (fun _ => {})) ∧
      dropped ≠ observe (processFrame (fun _ => 0) sampleArp
        (stateAfter (createPipeline sampleInterfaces sampleEnv 1
          ⟨100, interfaceValueAccess, 0x0a0a0a0a⟩ sampleFar (run sampleInterfaces [])))
        samplePacket (fun _ => {})) := by
  refine ⟨List.mem_singleton.2 rfl, ?_, ?_⟩
  · decide
  · decide

end UpfBpf
