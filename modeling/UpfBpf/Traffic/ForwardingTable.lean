import UpfBpf.Traffic.CreateRemove
import UpfBpf.Control.Standing
import Mathlib.Data.Set.Card

/-!
# The forwarding table

What the user plane is for, without the way in which it does it: a table that says for each key what
becomes of its frames, a second one that says which key each SEID has deployed last, the SEIDs that
were deployed at some time, and the number of programs that were constructed. A program is named by
the order of the constructions, and of the slots of the code only their number is left. There is no
id, no map of ids, and no counter that comes round. A deployment either enters its key, and then its
frames meet the FAR, are dropped, or go nowhere, or it leaves the keys as they were. A removal takes
the key of the SEID out of the table.

`State.table` reads the table off the state of the code. Every call of the session manager is a step
of the table (`table_step`), and a frame is processed as the table says (`process_table`), so that
`run_refines_table` reduces the traffic of whole runs to the table. What makes this go through is
that the id of a new program is in no map yet, up to the construction that brings the counter round.
-/

namespace UpfBpf

/-! ## The table -/

/-- The call comes to the construction of a program. -/
def Call.Constructs : Call → Prop
  | .createBPFSession pSession env => ∃ pipeline,
    extractPipeline (sortPdrs env pSession) = .ok pipeline
  | .removeBPFSession _ => False

/-- What a key leads to. -/
inductive Lead
  /-- To an empty slot: its frames go to the host's stack. -/
  | nowhere
  /-- To a program, which has a FAR or not. -/
  | program (ref : ℕ) (far : Option PfcpFarT)
  deriving DecidableEq

/-- The forwarding table. -/
structure ForwardingTable where
  /-- The programs that were constructed so far. -/
  constructed : ℕ
  /-- What becomes of the frames of a key. -/
  leads : NextRuleProgIndexKey → Option Lead
  /-- The key that an SEID has deployed, by its lower half. -/
  pipelines : UInt32 → Option NextRuleProgIndexKey
  /-- The SEIDs that were deployed at some time. -/
  sessions : Set UInt64

namespace ForwardingTable

/-- Nothing is deployed. -/
def init : ForwardingTable := ⟨0, fun _ => none, fun _ => none, ∅⟩

variable (t : ForwardingTable)

/-- The keys of the table. -/
def keys : Set NextRuleProgIndexKey := {k | t.leads k ≠ none}

/-- The key can be entered: the program is set up, the kernel does not refuse, and there is room. -/
structure Enters (env : Env) (key : NextRuleProgIndexKey) : Prop where
  /-- The program is set up. -/
  setsUp : env.SetsUp
  /-- The kernel does not fail. -/
  kernel : env.indexFails = false
  /-- The key is there, or there are fewer than ten. -/
  room : key ∈ t.keys ∨ t.keys.ncard < 10

/-- A deployment gets a slot: it is among the first nine constructions, and the kernel does not
refuse. -/
def GetsSlot (env : Env) : Prop := env.progFails = false ∧ t.constructed < 9

/-- What a deployment lets its key lead to. -/
noncomputable def newLead (env : Env) (far : PfcpFarT) : Lead :=
  open Classical in
  if t.GetsSlot env then .program t.constructed (if env.farFails then none else some far)
  else .nowhere

/-- The table with a key entered by the next program. -/
noncomputable def enter (env : Env) (key : NextRuleProgIndexKey) (far : PfcpFarT) :
    ForwardingTable :=
  { t with
    constructed := t.constructed + 1
    leads := Function.update t.leads key (some (t.newLead env far)) }

/-- The table with an SEID that has deployed a key. -/
noncomputable def register (seid : UInt64) (key : NextRuleProgIndexKey) : ForwardingTable :=
  { t with
    pipelines := Function.update t.pipelines seid.toUInt32 (some key)
    sessions := insert seid t.sessions }

/-- The table without the SEID's pipeline, and without its key. -/
noncomputable def unregister (seid : UInt64) (key : NextRuleProgIndexKey) : ForwardingTable :=
  { t with
    pipelines := Function.update t.pipelines seid.toUInt32 none
    leads := Function.update t.leads key none }

/-- The call does all that it is for. -/
def Succeeds : Call → Prop
  | .createBPFSession pSession env => ∃ pipeline,
    extractPipeline (sortPdrs env pSession) = .ok pipeline ∧ t.Enters env pipeline.key ∧
      t.GetsSlot env ∧ env.farFails = false
  | .removeBPFSession seid =>
    seid ∈ t.sessions ∧ ∃ key, t.pipelines seid.toUInt32 = some key ∧ key ∈ t.keys

open Classical in
/-- The table after a call. -/
noncomputable def step (t : ForwardingTable) (c : Call) : ForwardingTable :=
  match c with
  | .createBPFSession pSession env =>
    match extractPipeline (sortPdrs env pSession) with
    | .error _ => t
    | .ok ⟨key, pFar⟩ =>
      if t.Enters env key then
        if t.GetsSlot env ∧ env.farFails = false then
          (t.enter env key (farOf pFar)).register pSession.seid key
        else t.enter env key (farOf pFar)
      else { t with constructed := t.constructed + 1 }
  | .removeBPFSession seid =>
    if seid ∈ t.sessions then
      match t.pipelines seid.toUInt32 with
      | none => t
      | some key => t.unregister seid key
    else t

/-- The table after a run of calls. -/
noncomputable def run (calls : List Call) : ForwardingTable := calls.foldl step init

/-- The way of a frame. -/
def process (bpf_csum_diff : List UInt8 → UInt32) (arp : ℕ → ArpTable) (ifs : Interfaces)
    (ctx : XdpMd) : Verdict × XdpMd :=
  match detect ctx with
  | .ret action => (action, ctx)
  | .tailCall key =>
    match t.leads key with
    | some (.program ref far) =>
      pfcpFarApply bpf_csum_diff (arp ref) (redirectInterfaces ifs) ctx far
    | some .nowhere | none => (.pass, ctx)

end ForwardingTable

/-! ## The table of a state -/

section Abstraction

variable {ifs : Interfaces} {env : Env} {s s' : State} {key : NextRuleProgIndexKey} {id : UInt32}

/-- What an id leads to. -/
def State.lead (s : State) (id : UInt32) : Lead :=
  match s.m_next_rule_prog.get id.toNat with
  | none => .nowhere
  | some ref => .program ref (s.cores[ref]?.bind FARProgram.far)

/-- The table that a state implements. -/
def State.table (s : State) : ForwardingTable where
  constructed := s.programs.length
  leads k := (s.m_next_rule_prog_index.lookup k).map s.lead
  pipelines seid := (s.mSessionProgramsMap.lookup seid).map SessionPrograms.mKey
  sessions := {seid | seid ∈ s.mSeidToSession}

/-- Two tables are the same when they say the same. -/
theorem ForwardingTable.ext {t t' : ForwardingTable} (hc : t.constructed = t'.constructed)
    (hl : ∀ k, t.leads k = t'.leads k) (hp : ∀ seid, t.pipelines seid = t'.pipelines seid)
    (hs : ∀ seid, seid ∈ t.sessions ↔ seid ∈ t'.sessions) : t = t' := by
  obtain ⟨c, l, p, ss⟩ := t
  obtain ⟨c', l', p', ss'⟩ := t'
  obtain rfl : c = c' := hc
  obtain rfl : l = l' := funext hl
  obtain rfl : p = p' := funext hp
  obtain rfl : ss = ss' := Set.ext hs
  rfl

theorem table_init : State.table {} = ForwardingTable.init :=
  ForwardingTable.ext rfl (fun _ => rfl) (fun _ => rfl) (fun seid => by simp [State.table,
    ForwardingTable.init])

theorem mem_keys_table : key ∈ s.table.keys ↔ s.m_next_rule_prog_index.lookup key ≠ none := by
  simp [ForwardingTable.keys, State.table]

/-- The table has as many keys as the index. -/
theorem ncard_keys_table (s : State) : s.table.keys.ncard = s.m_next_rule_prog_index.size := by
  have hkeys : s.table.keys = ↑s.m_next_rule_prog_index.entries.keys.toFinset := by
    ext k
    rw [mem_keys_table, ← BoundedMap.mem_entries_iff, List.coe_toFinset, Set.mem_ofPred_eq,
      AList.mem_keys]
  rw [hkeys, Set.ncard_coe_finset, List.toFinset_card_of_nodup (AList.keys_nodup _)]
  rfl

/-- A key can be entered in the table exactly when the index is written. -/
theorem enters_table_iff : s.table.Enters env key ↔ ∃ index, IndexWritten env s key index := by
  constructor
  · rintro ⟨hs, hk, hroom⟩
    rw [mem_keys_table, ncard_keys_table] at hroom
    have hsome : s.m_next_rule_prog_index.update key s.sIdCounter ≠ none := by
      rw [ne_eq, BoundedMap.update_eq_none_iff]
      rintro ⟨hnone, hfull⟩
      rcases hroom with h | h
      · exact h hnone
      · omega
    obtain ⟨index, hi⟩ := Option.ne_none_iff_exists'.1 hsome
    exact ⟨index, hs, hk, hi⟩
  · rintro ⟨index, hs, hk, hi⟩
    refine ⟨hs, hk, ?_⟩
    rw [mem_keys_table, ncard_keys_table]
    by_contra hroom
    rw [not_or, not_not, not_lt] at hroom
    rw [BoundedMap.update_eq_none_iff.2 hroom] at hi
    cases hi

/-- The next id, as a number, while the counter has not come round. -/
theorem Numbered.toNat_counter (hN : Numbered s) (hn : s.programs.length < 2^32 - 1) :
    s.sIdCounter.toNat = s.programs.length + 1 := by
  rw [hN.counter, idOf, UInt32.toNat_ofNat']
  omega

/-- A deployment gets a slot in the table exactly when the slot is written. -/
theorem getsSlot_table_iff (hN : Numbered s) (hn : s.programs.length < 2^32 - 1) :
    s.table.GetsSlot env ↔ ∃ slots, SlotWritten env s slots := by
  have hid := hN.toNat_counter hn
  constructor
  · rintro ⟨hk, hlt⟩
    have hlt' : s.sIdCounter.toNat < 10 := by
      rw [hid]
      exact Nat.succ_lt_succ hlt
    obtain ⟨slots, hs⟩ := SlotArray.exists_set_of_lt hlt' s.m_next_rule_prog
      (some s.programs.length)
    exact ⟨slots, hk, hs⟩
  · rintro ⟨slots, hk, hs⟩
    have hlt := SlotArray.lt_of_set hs
    rw [hid] at hlt
    exact ⟨hk, Nat.lt_of_succ_lt_succ hlt⟩

/-! ## Calls as steps of the table -/

/-- An id that is in a map leads where it led, if its slot and the programs are kept. -/
theorem lead_congr (hN : Numbered s)
    (hslot : s'.m_next_rule_prog.get id.toNat = s.m_next_rule_prog.get id.toNat)
    (hc : ∀ (i : ℕ) p, s.cores[i]? = some p → s'.cores[i]? = some p) : s'.lead id = s.lead id := by
  rw [State.lead, State.lead, hslot]
  cases hs : s.m_next_rule_prog.get id.toNat with
  | none => rfl
  | some ref =>
    have hlt : ref < s.cores.length := by
      rw [length_cores]
      exact (hN.slots _ ref hs).1
    have hp : s.cores[ref]? = some s.cores[ref] := List.getElem?_eq_getElem hlt
    dsimp only
    rw [hc ref _ hp, hp]

/-- The programs that were there, with one more. -/
theorem getElem?_cores_publish (s : State) (p : FARProgram)
    (index : BoundedMap 10 NextRuleProgIndexKey UInt32) (slots : SlotArray 10 ℕ) {i : ℕ}
    {q : FARProgram} (hq : s.cores[i]? = some q) :
    (s.publish p index slots).cores[i]? = some q := by
  have hlt : i < s.cores.length := (List.getElem?_eq_some_iff.1 hq).1
  rw [cores_publish, List.getElem?_append_left hlt, hq]

section Publish

variable {p : FARProgram} {index : BoundedMap 10 NextRuleProgIndexKey UInt32}
  {slots : SlotArray 10 ℕ} (hN : Numbered s) (hn : s.programs.length < 2^32 - 1)

include hN hn

/-- The slot of the next id is empty. -/
theorem Numbered.get_counter : s.m_next_rule_prog.get s.sIdCounter.toNat = none := by
  rw [Option.eq_none_iff_forall_ne_some]
  intro ref hs
  obtain ⟨hlt, e⟩ := hN.slots _ ref hs
  rw [hN.counter] at e
  have := idOf_inj hn (by omega) (UInt32.toNat_inj.1 e)
  omega

/-- What the keys of the index led to is not touched by a new program, or by its slot. -/
theorem lead_publish_of_lookup
    (hs : ∀ j, j ≠ s.sIdCounter.toNat → slots.get j = s.m_next_rule_prog.get j)
    (h : s.m_next_rule_prog_index.lookup key = some id) :
    (s.publish p index slots).lead id = s.lead id :=
  lead_congr hN (hs _ (hN.lookup_ne_counter hn h))
    (fun _ _ hq => getElem?_cores_publish s p index slots hq)

/-- A new program that the index does not know changes no lead. -/
theorem table_publish_unpublished :
    (s.publish p s.m_next_rule_prog_index s.m_next_rule_prog).table =
      { s.table with constructed := s.table.constructed + 1 } := by
  refine ForwardingTable.ext ?_ (fun k => ?_) (fun seid => rfl) (fun seid => Iff.rfl)
  · simp [State.table, State.publish]
  · show (s.m_next_rule_prog_index.lookup k).map _ = (s.m_next_rule_prog_index.lookup k).map _
    cases hk : s.m_next_rule_prog_index.lookup k with
    | none => rfl
    | some id =>
      rw [Option.map_some, Option.map_some,
        lead_publish_of_lookup hN hn (fun j _ => rfl) hk]

/-- A new program whose id the index has got, under a key. -/
theorem table_publish_indexed (hi : IndexWritten env s key index)
    (hs : ∀ j, j ≠ s.sIdCounter.toNat → slots.get j = s.m_next_rule_prog.get j)
    {lead : Lead} (hl : (s.publish p index slots).lead s.sIdCounter = lead) :
    (s.publish p index slots).table =
      { s.table with
        constructed := s.table.constructed + 1
        leads := Function.update s.table.leads key (some lead) } := by
  refine ForwardingTable.ext ?_ (fun k => ?_) (fun seid => rfl) (fun seid => Iff.rfl)
  · simp [State.table, State.publish]
  · show (index.lookup k).map _ = Function.update s.table.leads key (some lead) k
    rw [BoundedMap.lookup_update hi.update_eq, Function.update_apply]
    split_ifs with hk
    · rw [Option.map_some, hl]
    · show _ = (s.m_next_rule_prog_index.lookup k).map _
      cases hk' : s.m_next_rule_prog_index.lookup k with
      | none => rfl
      | some id =>
        rw [Option.map_some, Option.map_some, lead_publish_of_lookup hN hn hs hk']

/-- The new program before its slot is written. -/
theorem lead_counter_of_empty :
    (s.publish p index s.m_next_rule_prog).lead s.sIdCounter = .nowhere := by
  have hget : (s.publish p index s.m_next_rule_prog).m_next_rule_prog.get s.sIdCounter.toNat =
    none := hN.get_counter hn
  rw [State.lead, hget]

omit hN hn in
/-- The new program once its slot is written. -/
theorem lead_counter_of_slotWritten (hs : SlotWritten env s slots) :
    (s.publish p index slots).lead s.sIdCounter = .program s.programs.length p.far := by
  have hget : (s.publish p index slots).m_next_rule_prog.get s.sIdCounter.toNat =
    some s.programs.length := SlotArray.get_set_self hs.set_eq
  rw [State.lead, hget]
  dsimp only
  rw [cores_publish, ← length_cores, List.getElem?_concat_length]
  rfl

end Publish

/-- The registration of a pipeline, in the table. -/
theorem table_register (s : State) (seid : UInt64) (pSession : PfcpSession)
    (key : NextRuleProgIndexKey) (ref : ℕ) :
    ({ s.register seid.toUInt32 ⟨key, ref⟩ with
        mSeidToSession := s.mSeidToSession.insert seid pSession } : State).table =
      s.table.register seid key := by
  have hd := destroy_eq s (s.mSessionProgramsMap.lookup seid.toUInt32)
  refine ForwardingTable.ext ?_ (fun k => ?_) (fun a => ?_) (fun a => ?_)
  · show (s.register seid.toUInt32 ⟨key, ref⟩).programs.length = s.programs.length
    rw [← length_cores, cores_register, length_cores]
  · -- The tear-down of an old program leaves its maps and its slot.
    have hlead : ∀ id, State.lead { s.register seid.toUInt32 ⟨key, ref⟩ with
        mSeidToSession := s.mSeidToSession.insert seid pSession } id = s.lead id := by
      intro id
      have hcores := cores_register s seid.toUInt32 ⟨key, ref⟩
      have hslots : (s.register seid.toUInt32 ⟨key, ref⟩).m_next_rule_prog =
          s.m_next_rule_prog := by
        rw [State.register, hd]
      rw [State.lead, State.lead]
      show (match (s.register seid.toUInt32 ⟨key, ref⟩).m_next_rule_prog.get id.toNat with
        | none => Lead.nowhere
        | some ref' => .program ref' ((s.register seid.toUInt32 ⟨key, ref⟩).cores[ref']?.bind
          FARProgram.far)) = _
      rw [hslots, hcores]
    have hindex : (s.register seid.toUInt32 ⟨key, ref⟩).m_next_rule_prog_index =
        s.m_next_rule_prog_index := by
      rw [State.register, hd]
    show ((s.register seid.toUInt32 ⟨key, ref⟩).m_next_rule_prog_index.lookup k).map _ =
      (s.m_next_rule_prog_index.lookup k).map _
    rw [hindex, funext hlead]
  · show ((s.mSessionProgramsMap.insert seid.toUInt32 ⟨key, ref⟩).lookup a).map _ =
      Function.update s.table.pipelines seid.toUInt32 (some key) a
    rw [Function.update_apply]
    split_ifs with ha
    · rw [ha, AList.lookup_insert]
      rfl
    · rw [AList.lookup_insert_ne ha]
      rfl
  · show a ∈ s.mSeidToSession.insert seid pSession ↔ a ∈ insert seid s.table.sessions
    rw [AList.mem_insert, Set.mem_insert_iff]
    rfl

/-- The removal of a pipeline, in the table. The key is out of the index, or it was not there. -/
theorem table_unregister {seid : UInt64} {entry : SessionPrograms}
    {index : BoundedMap 10 NextRuleProgIndexKey UInt32}
    (hi : ∀ k, index.lookup k = if k = entry.mKey then none
      else s.m_next_rule_prog_index.lookup k) :
    ({ s.unregister seid.toUInt32 entry with m_next_rule_prog_index := index } : State).table =
      s.table.unregister seid entry.mKey := by
  refine ForwardingTable.ext ?_ (fun k => ?_) (fun a => ?_) (fun a => Iff.rfl)
  · show (s.unregister seid.toUInt32 entry).programs.length = s.programs.length
    rw [← length_cores, cores_unregister, length_cores]
  · have hlead : ∀ id, State.lead { s.unregister seid.toUInt32 entry with
        m_next_rule_prog_index := index } id = s.lead id := by
      intro id
      have hcores : State.cores { s.unregister seid.toUInt32 entry with
        m_next_rule_prog_index := index } = s.cores := cores_unregister s seid.toUInt32 entry
      rw [State.lead, State.lead, hcores]
      rfl
    show (index.lookup k).map _ = Function.update s.table.leads entry.mKey none k
    rw [hi, Function.update_apply, funext hlead]
    split_ifs with hk
    · rfl
    · rfl
  · show ((s.unregister seid.toUInt32 entry).mSessionProgramsMap.lookup a).map _ =
      Function.update s.table.pipelines seid.toUInt32 none a
    rw [lookup_unregister, Function.update_apply]
    split_ifs with ha
    · rfl
    · rfl

/-- A `createPipeline` that throws, in the table: it has entered the key or not, and it is not the
case that everything was there. -/
theorem PipelineOutcome.table_error (hN : Numbered s) (hn : s.programs.length < 2^32 - 1)
    {seid : UInt32} {pFar : PfcpFar} {e : Err}
    (h : PipelineOutcome ifs env s seid key pFar (.error e s')) :
    (¬ s.table.Enters env key ∧
        s'.table = { s.table with constructed := s.table.constructed + 1 }) ∨
      (s.table.Enters env key ∧ ¬ (s.table.GetsSlot env ∧ env.farFails = false) ∧
        s'.table = s.table.enter env key (farOf pFar)) := by
  cases h with
  | unpublished e p hid hfar hloaded hnot =>
    refine .inl ⟨fun he => ?_, table_publish_unpublished hN hn⟩
    obtain ⟨index, hindex⟩ := enters_table_iff.1 he
    exact hnot index hindex
  | indexed index hindex hnot =>
    have hslot : ¬ s.table.GetsSlot env := fun hg => by
      obtain ⟨slots, hs⟩ := (getsSlot_table_iff hN hn).1 hg
      exact hnot slots hs
    refine .inr ⟨enters_table_iff.2 ⟨index, hindex⟩, fun h => hslot h.1, ?_⟩
    rw [table_publish_indexed hN hn hindex (fun j _ => rfl) (lead_counter_of_empty hN hn),
      ForwardingTable.enter, ForwardingTable.newLead, if_neg hslot]
  | slotted index slots hindex hslot hnot =>
    have hg : s.table.GetsSlot env := (getsSlot_table_iff hN hn).2 ⟨slots, hslot⟩
    refine .inr ⟨enters_table_iff.2 ⟨index, hindex⟩, fun h => ?_, ?_⟩
    · exact absurd (h.2.symm.trans hnot) (by decide)
    · rw [table_publish_indexed hN hn hindex (fun j hj => SlotArray.get_set_ne hslot.set_eq hj)
        (lead_counter_of_slotWritten hslot), ForwardingTable.enter, ForwardingTable.newLead,
        if_pos hg, if_pos hnot]
      rfl

/-- A `createPipeline` that returns, in the table. -/
theorem PipelineOutcome.table_ok (hN : Numbered s) (hn : s.programs.length < 2^32 - 1)
    {pSession : PfcpSession} {pFar : PfcpFar}
    (h : PipelineOutcome ifs env s pSession.seid.toUInt32 key pFar (.ok () s')) :
    s.table.Enters env key ∧ (s.table.GetsSlot env ∧ env.farFails = false) ∧
      ({ s' with
          mSeidToSession := s'.mSeidToSession.insert pSession.seid pSession } : State).table =
        (s.table.enter env key (farOf pFar)).register pSession.seid key := by
  cases h with
  | deployed index slots p hindex hslot hkernel hid hloaded hfar hm =>
    have hg : s.table.GetsSlot env := (getsSlot_table_iff hN hn).2 ⟨slots, hslot⟩
    refine ⟨enters_table_iff.2 ⟨index, hindex⟩, ⟨hg, hkernel⟩, ?_⟩
    have hsessions : ((s.publish p index slots).register pSession.seid.toUInt32
        ⟨key, s.programs.length⟩).mSeidToSession = (s.publish p index slots).mSeidToSession := by
      rw [State.register, destroy_eq]
    have hfails : ¬ env.farFails = true := by
      rw [hkernel]
      decide
    rw [hsessions, table_register, table_publish_indexed hN hn hindex
      (fun j hj => SlotArray.get_set_ne hslot.set_eq hj) (lead_counter_of_slotWritten hslot),
      ForwardingTable.enter, ForwardingTable.newLead, if_pos hg, if_neg hfails, hfar]
    rfl

/-- A `createBPFSession` is a step of the table, and returns exactly when the table says so. -/
theorem table_step_create (hN : Numbered s) (pSession : PfcpSession) (env : Env)
    (hn : (Call.createBPFSession pSession env).Constructs → s.programs.length < 2^32 - 1) :
    (step ifs s (.createBPFSession pSession env)).table =
        s.table.step (.createBPFSession pSession env) ∧
      ((Call.createBPFSession pSession env).Returns ifs s ↔
        s.table.Succeeds (.createBPFSession pSession env)) := by
  have ho := deploy_outcome ifs env s (sortPdrs env pSession)
  rw [Call.Returns, step, Call.result, createBPFSession, ForwardingTable.step,
    ForwardingTable.Succeeds]
  generalize deploy ifs env (sortPdrs env pSession) s = r at ho ⊢
  cases ho with
  | rejected e h =>
    rw [h]
    exact ⟨rfl, iff_of_false id (by simp)⟩
  | threw key pFar e s' h hp =>
    have hn := hn ⟨_, h⟩
    rw [h]
    dsimp only
    rcases hp.table_error hN hn with ⟨he, ht⟩ | ⟨he, hg, ht⟩
    · rw [if_neg he]
      refine ⟨ht, iff_of_false id ?_⟩
      rintro ⟨_, ⟨⟩, he', -⟩
      exact he he'
    · rw [if_pos he, if_neg hg]
      refine ⟨ht, iff_of_false id ?_⟩
      rintro ⟨_, -, -, hg'⟩
      exact hg hg'
  | returned key pFar s' h hp =>
    have hn := hn ⟨_, h⟩
    rw [h]
    dsimp only
    obtain ⟨he, hg, ht⟩ := hp.table_ok hN hn
    rw [if_pos he, if_pos hg]
    exact ⟨ht, iff_of_true trivial ⟨_, rfl, he, hg⟩⟩

/-- A `removeBPFSession` is a step of the table, and returns exactly when the table says so. -/
theorem table_step_remove (s : State) (seid : UInt64) :
    (step ifs s (.removeBPFSession seid)).table = s.table.step (.removeBPFSession seid) ∧
      ((Call.removeBPFSession seid).Returns ifs s ↔
        s.table.Succeeds (.removeBPFSession seid)) := by
  have hmem : seid ∈ s.table.sessions ↔ seid ∈ s.mSeidToSession := Iff.rfl
  have hpipe : s.table.pipelines seid.toUInt32 =
    (s.mSessionProgramsMap.lookup seid.toUInt32).map SessionPrograms.mKey := rfl
  by_cases hs : seid ∈ s.mSeidToSession
  · cases hr : s.mSessionProgramsMap.lookup seid.toUInt32 with
    | none =>
      have hnot : seid.toUInt32 ∉ s.mSessionProgramsMap := AList.lookup_eq_none.1 hr
      obtain ⟨hret, hstep⟩ : ¬ (Call.removeBPFSession seid).Returns ifs s ∧
        step ifs s (.removeBPFSession seid) = s := remove_unregistered hnot
      rw [hstep, ForwardingTable.step, ForwardingTable.Succeeds, if_pos (hmem.2 hs), hpipe, hr]
      exact ⟨rfl, iff_of_false hret (by simp)⟩
    | some entry =>
      have ho := removeBPFSession_outcome s seid
      rw [Call.Returns, step, Call.result, ForwardingTable.step, ForwardingTable.Succeeds,
        if_pos (hmem.2 hs), hpipe, hr]
      generalize removeBPFSession seid s = r at ho ⊢
      cases ho with
      | unknown h =>
        rw [AList.lookup_eq_none, hr] at h
        rcases h with h | h
        · exact absurd hs h
        · cases h
      | removed entry' index h hd =>
        rw [hr] at h
        cases h
        refine ⟨table_unregister (BoundedMap.lookup_delete hd), iff_of_true trivial
          ⟨hmem.2 hs, entry.mKey, rfl, ?_⟩⟩
        rw [mem_keys_table, ne_eq, ← BoundedMap.delete_eq_none_iff, hd]
        simp
      | halfRemoved entry' h hd =>
        rw [hr] at h
        cases h
        refine ⟨table_unregister fun k => ?_, iff_of_false id ?_⟩
        · split_ifs with hk
          · rw [hk]
            exact hd
          · rfl
        · rintro ⟨-, key, hkey, hin⟩
          cases hkey
          exact mem_keys_table.1 hin hd
  · have hstep : step ifs s (.removeBPFSession seid) = s := step_remove_of_unknown hs
    have hret : ¬ (Call.removeBPFSession seid).Returns ifs s := by
      intro hret
      rw [Call.Returns, Call.result, removeBPFSession, Effect.bind_get,
        AList.lookup_eq_none.2 hs] at hret
      exact hret
    rw [hstep, ForwardingTable.step, ForwardingTable.Succeeds, if_neg (mt hmem.1 hs)]
    exact ⟨rfl, iff_of_false hret fun h => hs (hmem.1 h.1)⟩

/-! ## Frames -/

/-- The program in a slot can send to both interfaces. -/
def Equipped (ifs : Interfaces) (s : State) : Prop :=
  ∀ j ref, s.m_next_rule_prog.get j = some ref →
    ∃ p, s.cores[ref]? = some p ∧ p.m_redirect_interfaces = redirectInterfaces ifs

/-- A slot that was written holds the program that was set up for it. -/
theorem Equipped.publish (h : Equipped ifs s) {p : FARProgram}
    (hp : p.m_redirect_interfaces = redirectInterfaces ifs)
    {index : BoundedMap 10 NextRuleProgIndexKey UInt32} {slots : SlotArray 10 ℕ}
    (hs : ∀ j ref, slots.get j = some ref →
      s.m_next_rule_prog.get j = some ref ∨ j = s.sIdCounter.toNat ∧ ref = s.programs.length) :
    Equipped ifs (s.publish p index slots) := by
  intro j ref hj
  rcases hs j ref hj with hold | ⟨-, rfl⟩
  · obtain ⟨q, hq, hm⟩ := h j ref hold
    exact ⟨q, getElem?_cores_publish s p index slots hq, hm⟩
  · refine ⟨p.core, ?_, hp⟩
    rw [cores_publish, ← length_cores, List.getElem?_concat_length]

/-- Tear-downs and registrations leave the slots and what is in them. -/
theorem Equipped.congr (h : Equipped ifs s) (hs : s'.m_next_rule_prog = s.m_next_rule_prog)
    (hc : s'.cores = s.cores) : Equipped ifs s' := by
  intro j ref hj
  rw [hs] at hj
  rw [hc]
  exact h j ref hj

theorem PipelineOutcome.equipped (h : Equipped ifs s) {seid : UInt32} {pFar : PfcpFar}
    {r : EStateM.Result Err State Unit} (hp : PipelineOutcome ifs env s seid key pFar r) :
    Equipped ifs (stateAfter r) := by
  cases hp with
  | unpublished e p hid hfar hloaded hnot =>
    -- Nothing is known of the program, but no slot has it.
    intro j ref hj
    obtain ⟨q, hq, hm⟩ := h j ref hj
    exact ⟨q, getElem?_cores_publish s p _ _ hq, hm⟩
  | indexed index hindex hnot => exact h.publish rfl fun j ref hj => .inl hj
  | slotted index slots hindex hslot hnot => exact h.publish rfl hslot.get_cases
  | deployed index slots p hindex hslot hkernel hid hloaded hfar hm =>
    have hpub : Equipped ifs (s.publish p index slots) := h.publish hm hslot.get_cases
    refine hpub.congr ?_ (cores_register _ _ _)
    rw [stateAfter, State.register, destroy_eq]

theorem Equipped.step (h : Equipped ifs s) (c : Call) : Equipped ifs (step ifs s c) := by
  cases c with
  | createBPFSession pSession env =>
    rcases step_create_cases ifs env s pSession with ⟨-, e⟩ | ⟨key, pFar, r, sessions, -, hp, e⟩
    · rw [e]
      exact h
    · rw [e]
      exact (hp.equipped h).congr rfl rfl
  | removeBPFSession seid =>
    rcases step_remove_cases ifs s seid with e | ⟨entry, index, -, -, e⟩
    · rw [e]
      exact h
    · rw [e]
      exact h.congr rfl (cores_unregister s seid.toUInt32 entry)

theorem equipped_run (ifs : Interfaces) (calls : List Call) : Equipped ifs (run ifs calls) :=
  Run.invariant (I := Equipped ifs) (fun j ref hj => by simp at hj) (fun _ c h => h.step c) calls

/-- A frame is processed as the table says. -/
theorem process_table (bpf_csum_diff : List UInt8 → UInt32) (arp : ℕ → ArpTable) (ctx : XdpMd)
    (mc_stats : McStats) (h : Equipped ifs s) :
    processFrame bpf_csum_diff arp s ctx mc_stats = s.table.process bpf_csum_diff arp ifs ctx := by
  rw [processFrame_eq, ForwardingTable.process]
  cases detect ctx with
  | ret action => rfl
  | tailCall key =>
    have hleads : s.table.leads key = (s.m_next_rule_prog_index.lookup key).map s.lead := rfl
    simp only [hleads, tailCallNextProg]
    cases s.m_next_rule_prog_index.lookup key with
    | none => rfl
    | some id =>
      simp only [Option.bind_some, Option.map_some, State.lead]
      cases hs : s.m_next_rule_prog.get id.toNat with
      | none => rfl
      | some ref =>
        obtain ⟨p, hp, hm⟩ := h _ ref hs
        simp only [runProgram_eq_cores, hp, Option.bind_some, farEntryPoint, hm]

end Abstraction

/-! ## Runs -/

namespace ForwardingTable

variable {t : ForwardingTable} {c : Call}

/-- A call that constructs a program counts. -/
theorem constructed_step_of_constructs (h : c.Constructs) :
    (t.step c).constructed = t.constructed + 1 := by
  cases c with
  | removeBPFSession seid => exact h.elim
  | createBPFSession pSession env =>
    obtain ⟨⟨key, pFar⟩, he⟩ := h
    rw [step, he]
    dsimp only
    split_ifs
    · rfl
    · rfl
    · rfl

/-- No other call does. -/
theorem constructed_step_of_not_constructs (h : ¬ c.Constructs) :
    (t.step c).constructed = t.constructed := by
  cases c with
  | removeBPFSession seid =>
    rw [step]
    split_ifs
    · cases t.pipelines seid.toUInt32 <;> rfl
    · rfl
  | createBPFSession pSession env =>
    rw [step]
    cases he : extractPipeline (sortPdrs env pSession) with
    | error e => rfl
    | ok pipeline => exact absurd ⟨pipeline, he⟩ h

theorem constructed_step_cases (t : ForwardingTable) (c : Call) :
    (t.step c).constructed = t.constructed + 1 ∨ (t.step c).constructed = t.constructed := by
  by_cases h : c.Constructs
  · exact .inl (constructed_step_of_constructs h)
  · exact .inr (constructed_step_of_not_constructs h)

/-- A run in two parts. -/
theorem run_append (pre post : List Call) :
    run (pre ++ post) = post.foldl step (run pre) := List.foldl_append

/-- What was constructed stays counted. -/
theorem constructed_le_foldl (t : ForwardingTable) (calls : List Call) :
    t.constructed ≤ (calls.foldl step t).constructed :=
  Run.invariant (I := fun t' : ForwardingTable => t.constructed ≤ t'.constructed) le_rfl
    (fun t' c h => by rcases constructed_step_cases t' c with e | e <;> omega) calls

/-- At most one program for each call. -/
theorem constructed_run_le (calls : List Call) : (run calls).constructed ≤ calls.length := by
  induction calls using List.reverseRecOn with
  | nil => exact le_rfl
  | append_singleton calls c ih =>
    rw [run_append, List.foldl_cons, List.foldl_nil, List.length_append, List.length_singleton]
    rcases constructed_step_cases (run calls) c with e | e <;> omega

end ForwardingTable

/-- Every call is a step of the table. -/
theorem table_step {ifs : Interfaces} {s : State} (hN : Numbered s) (c : Call)
    (hn : (s.table.step c).constructed < 2^32) :
    (step ifs s c).table = s.table.step c ∧ (c.Returns ifs s ↔ s.table.Succeeds c) := by
  cases c with
  | removeBPFSession seid => exact table_step_remove s seid
  | createBPFSession pSession env =>
    refine table_step_create hN pSession env fun hc => ?_
    rw [ForwardingTable.constructed_step_of_constructs hc] at hn
    have hlen : s.table.constructed = s.programs.length := rfl
    omega

/-- The table of a run, as long as the counter has not come round. -/
theorem table_run (ifs : Interfaces) (calls : List Call)
    (hn : (ForwardingTable.run calls).constructed < 2^32) :
    (run ifs calls).table = ForwardingTable.run calls := by
  induction calls using List.reverseRecOn with
  | nil => exact table_init
  | append_singleton calls c ih =>
    rw [ForwardingTable.run_append] at hn ⊢
    have ih := ih (lt_of_le_of_lt (ForwardingTable.constructed_le_foldl _ [c]) hn)
    rw [List.foldl_cons, List.foldl_nil, ← ih] at hn
    rw [run_append, List.foldl_cons, List.foldl_nil, List.foldl_cons, List.foldl_nil,
      (table_step (numbered_run ifs calls) c hn).1, ih]

/-- The user plane is its forwarding table: in every run of calls, with every failure that the
outside can bring about, every frame is processed as the table says, and every call returns or
throws as the table says, until more than `2^32 - 1` programs were constructed. -/
theorem run_refines_table (bpf_csum_diff : List UInt8 → UInt32) (arp : ℕ → ArpTable)
    (ifs : Interfaces) (calls : List Call)
    (hn : (ForwardingTable.run calls).constructed < 2^32) :
    (∀ ctx mc_stats, processFrame bpf_csum_diff arp (run ifs calls) ctx mc_stats =
        (ForwardingTable.run calls).process bpf_csum_diff arp ifs ctx) ∧
      ∀ pre c post, calls = pre ++ c :: post →
        (c.Returns ifs (run ifs pre) ↔ (ForwardingTable.run pre).Succeeds c) := by
  constructor
  · intro ctx mc_stats
    rw [process_table bpf_csum_diff arp ctx mc_stats (equipped_run ifs calls),
      table_run ifs calls hn]
  · rintro pre c post rfl
    rw [ForwardingTable.run_append, List.foldl_cons] at hn
    have hstep : ((ForwardingTable.run pre).step c).constructed < 2^32 :=
      lt_of_le_of_lt (ForwardingTable.constructed_le_foldl _ post) hn
    have hpre : (ForwardingTable.run pre).constructed < 2^32 := by
      rcases ForwardingTable.constructed_step_cases (ForwardingTable.run pre) c with e | e <;> omega
    rw [← table_run ifs pre hpre] at hstep ⊢
    exact (table_step (numbered_run ifs pre) c hstep).2

/-- Two sessions and the removal of the first. -/
theorem run_refines_table_sample :
    (∀ ctx mc_stats, processFrame (fun _ => 0) sampleArp
        (run sampleInterfaces [sampleCreate 1 100, sampleCreate 2 200, .removeBPFSession 1]) ctx
          mc_stats =
        (ForwardingTable.run [sampleCreate 1 100, sampleCreate 2 200, .removeBPFSession 1]).process
          (fun _ => 0) sampleArp sampleInterfaces ctx) ∧
      (ForwardingTable.run [sampleCreate 1 100, sampleCreate 2 200]).Succeeds
        (.removeBPFSession 1) := by
  have hn : (ForwardingTable.run
      [sampleCreate 1 100, sampleCreate 2 200, .removeBPFSession 1]).constructed < 2^32 :=
    lt_of_le_of_lt (ForwardingTable.constructed_run_le _) (by decide)
  obtain ⟨hframes, hcalls⟩ := run_refines_table (fun _ => 0) sampleArp sampleInterfaces _ hn
  have hremove := hcalls [sampleCreate 1 100, sampleCreate 2 200] (.removeBPFSession 1) [] rfl
  exact ⟨hframes, hremove.1 trivial⟩

/-! ## One call, one key -/

/-- The key that a call is about: that of its pipeline, or the one that its SEID has deployed. -/
def ForwardingTable.keyOf (t : ForwardingTable) : Call → Option NextRuleProgIndexKey
  | .createBPFSession pSession env =>
    match extractPipeline (sortPdrs env pSession) with
    | .error _ => none
    | .ok pipeline => some pipeline.key
  | .removeBPFSession seid => t.pipelines seid.toUInt32

/-- A call leaves what the other keys lead to. -/
theorem ForwardingTable.leads_step_of_ne {t : ForwardingTable} {c : Call}
    {k : NextRuleProgIndexKey} (h : t.keyOf c ≠ some k) : (t.step c).leads k = t.leads k := by
  cases c with
  | createBPFSession pSession env =>
    rw [keyOf] at h
    rw [step]
    cases he : extractPipeline (sortPdrs env pSession) with
    | error e => rfl
    | ok pipeline =>
      rw [he] at h
      have hne : k ≠ pipeline.key := fun e => h (by rw [e])
      dsimp only
      split_ifs
      · exact Function.update_of_ne hne _ _
      · exact Function.update_of_ne hne _ _
      · rfl
  | removeBPFSession seid =>
    rw [keyOf] at h
    rw [step]
    split_ifs
    · cases hp : t.pipelines seid.toUInt32 with
      | none => rfl
      | some key =>
        have hne : k ≠ key := fun e => h (by rw [hp, e])
        exact Function.update_of_ne hne _ _
    · rfl

/-- A call changes the way of the frames of one key at most, the one that it deploys or that its
SEID has deployed last, in every state that can be reached, whether it returns or throws. -/
theorem frames_of_other_keys (bpf_csum_diff : List UInt8 → UInt32) (arp : ℕ → ArpTable)
    (ifs : Interfaces) (calls : List Call) (c : Call)
    (hn : (ForwardingTable.run (calls ++ [c])).constructed < 2^32) (ctx : XdpMd)
    (mc_stats : McStats)
    (hkey : ∀ key, (ForwardingTable.run calls).keyOf c = some key → detect ctx ≠ .tailCall key) :
    processFrame bpf_csum_diff arp (run ifs (calls ++ [c])) ctx mc_stats =
      processFrame bpf_csum_diff arp (run ifs calls) ctx mc_stats := by
  have hcalls : (ForwardingTable.run calls).constructed < 2^32 := by
    rw [ForwardingTable.run_append] at hn
    exact lt_of_le_of_lt (ForwardingTable.constructed_le_foldl _ _) hn
  rw [process_table bpf_csum_diff arp ctx mc_stats (equipped_run ifs _),
    process_table bpf_csum_diff arp ctx mc_stats (equipped_run ifs _), table_run ifs _ hn,
    table_run ifs _ hcalls, ForwardingTable.run_append, List.foldl_cons, List.foldl_nil,
    ForwardingTable.process, ForwardingTable.process]
  cases hd : detect ctx with
  | ret action => rfl
  | tailCall k =>
    have hne : (ForwardingTable.run calls).keyOf c ≠ some k := fun e => hkey k e hd
    simp only [ForwardingTable.leads_step_of_ne hne]

/-- The removal of the second session does not show in a frame of the first. -/
theorem frames_of_other_keys_sample :
    processFrame (fun _ => 0) sampleArp
        (run sampleInterfaces [sampleCreate 1 100, sampleCreate 2 200, .removeBPFSession 2])
        ⟨[], sampleUplinkFrame 100⟩ (fun _ => {}) =
      processFrame (fun _ => 0) sampleArp
        (run sampleInterfaces [sampleCreate 1 100, sampleCreate 2 200])
        ⟨[], sampleUplinkFrame 100⟩ (fun _ => {}) := by
  have hn : (ForwardingTable.run [sampleCreate 1 100, sampleCreate 2 200,
      .removeBPFSession 2]).constructed < 2^32 :=
    lt_of_le_of_lt (ForwardingTable.constructed_run_le _) (by decide)
  have htwo : (ForwardingTable.run [sampleCreate 1 100, sampleCreate 2 200]).constructed < 2^32 :=
    lt_of_le_of_lt (ForwardingTable.constructed_run_le _) (by decide)
  refine frames_of_other_keys (fun _ => 0) sampleArp sampleInterfaces
    [sampleCreate 1 100, sampleCreate 2 200] (.removeBPFSession 2) hn _ _ fun key hk hd => ?_
  -- The key of SEID 2 has the TEID 200, and that of the frame the TEID 100.
  rw [← table_run sampleInterfaces _ htwo] at hk
  have hkey : (run sampleInterfaces [sampleCreate 1 100, sampleCreate 2 200]).table.keyOf
      (.removeBPFSession 2) = some ⟨200, interfaceValueAccess, 0x0a0a0a0a⟩ := rfl
  have hframe : detect ⟨[], sampleUplinkFrame 100⟩ =
      .tailCall ⟨100, interfaceValueAccess, 0x0a0a0a0a⟩ := by decide
  rw [hkey] at hk
  rw [hframe, ← Option.some.inj hk] at hd
  cases hd

end UpfBpf
