import UpfBpf.Control.Capacity
import UpfBpf.Lib.StdSort

/-!
# A deployment that stands

What a `createBPFSession` that returned has set up, and what it takes for later calls to leave it.
The key and the FAR are those of the PDR with the highest precedence, wherever it stands in the
session. A later call may touch the key or the SEID; one that does not leaves the way from the key
to the program, unless it takes the slot of the program. The counter of the ids has 32 bits and ids
are never given back, so that happens when it has come round.
-/

namespace UpfBpf

open Bytes

/-! ## The PDR with the highest precedence -/

/-- `pdr` has the highest precedence in the session: every other PDR has a higher value. -/
def PfcpSession.IsHighest (pSession : PfcpSession) (pdr : PfcpPdr) : Prop :=
  ∃ before after, pSession.pdrs = before ++ pdr :: after ∧
    ∀ other ∈ before ++ after, ∃ v w, Ie.get pdr.precedence = some v ∧
      Ie.get other.precedence = some w ∧ v < w

/-- The only PDR of a session. -/
theorem PfcpSession.isHighest_of_single {pSession : PfcpSession} {pdr : PfcpPdr}
    (h : pSession.pdrs = [pdr]) : pSession.IsHighest pdr :=
  ⟨[], [], h, by simp⟩

/-- With precedences, `comparePDR` compares them. -/
theorem comparePDR_eq {env : Env} {a b : PfcpPdr} {v w : UInt32} (ha : Ie.get a.precedence = some v)
    (hb : Ie.get b.precedence = some w) : comparePDR env a b = decide (v.toNat < w.toNat) := by
  rw [comparePDR, ha, hb]
  rfl

/-- Among PDRs that have one, it compares the values. -/
theorem comparePDR_of_present (env : Env) {pdrs : List PfcpPdr}
    (h : ∀ pdr ∈ pdrs, pdr.precedence.1 = true) :
    ∀ a ∈ pdrs, ∀ b ∈ pdrs,
      comparePDR env a b = decide (a.precedence.2.toNat < b.precedence.2.toNat) := by
  intro a ha b hb
  have hget : ∀ pdr ∈ pdrs, Ie.get pdr.precedence = some pdr.precedence.2 :=
    fun pdr hpdr => Ie.get_eq_some_iff.2 ⟨h pdr hpdr, rfl⟩
  exact comparePDR_eq (hget a ha) (hget b hb)

/-- It is a strict weak order on them. -/
theorem strictWeakOn_comparePDR (env : Env) {pdrs : List PfcpPdr}
    (h : ∀ pdr ∈ pdrs, pdr.precedence.1 = true) : StdSort.StrictWeakOn (comparePDR env) pdrs :=
  StdSort.strictWeakOn_of_rank (fun pdr => pdr.precedence.2.toNat) (comparePDR_of_present env h)

/-- The PDR with the highest precedence is the first one after the sort. -/
theorem head_sortPdrs {env : Env} (hs : StdSort.IsSort env.stdSort) {pSession : PfcpSession}
    {pdr : PfcpPdr} (h : pSession.IsHighest pdr) :
    ∃ rest, (sortPdrs env pSession).pdrs = pdr :: rest := by
  obtain ⟨before, after, hl, hother⟩ := h
  rw [sortPdrs]
  dsimp only
  rcases List.eq_nil_or_concat (before ++ after) with hnil | ⟨others, other, hmem⟩
  · -- A single PDR is not compared.
    obtain ⟨rfl, rfl⟩ := List.append_eq_nil_iff.1 hnil
    rw [hl, List.nil_append, hs.single]
    exact ⟨[], rfl⟩
  · obtain ⟨v, -, hv, -, -⟩ := hother other (by rw [hmem]; simp)
    -- Every PDR has a precedence, so the values order them.
    have hpresent : ∀ a ∈ pSession.pdrs, a.precedence.1 = true := by
      intro a ha
      rw [hl, List.mem_append, List.mem_cons] at ha
      by_cases e : a = pdr
      · rw [e]
        exact (Ie.get_eq_some_iff.1 hv).1
      · obtain ⟨-, w, -, hw, -⟩ := hother a (List.mem_append.2 (by tauto))
        exact (Ie.get_eq_some_iff.1 hw).1
    refine hs.head_eq_of_least (strictWeakOn_comparePDR env hpresent) (by rw [hl]; simp) ?_
    intro b hb hne
    rw [hl, List.mem_append, List.mem_cons] at hb
    obtain ⟨v, w, hv, hw, hlt⟩ := hother b (List.mem_append.2 (by tauto))
    rw [comparePDR_eq hv hw]
    exact decide_eq_true hlt

/-- The pipeline is that of the PDR with the highest precedence. -/
theorem extractPipeline_sortPdrs {env : Env} (hs : StdSort.IsSort env.stdSort)
    {pSession : PfcpSession} {pdr : PfcpPdr} {key : NextRuleProgIndexKey} {pFar : PfcpFar}
    (h : pSession.IsHighest pdr)
    (hkey : pdr.key = some key) (hfar : pSession.farOfPdr pdr = some pFar) :
    extractPipeline (sortPdrs env pSession) = .ok ⟨key, pFar⟩ := by
  obtain ⟨rest, hp⟩ := head_sortPdrs hs h
  have hfar' : (sortPdrs env pSession).farOfPdr pdr = some pFar := hfar
  simp only [extractPipeline, hp, hkey, hfar']

/-! ## Calls that leave a deployment -/

section Calls

variable (ifs : Interfaces) (s : State)

/-- The SEID that a call is about. -/
def Call.seid : Call → UInt64
  | .createBPFSession pSession _ => pSession.seid
  | .removeBPFSession seid => seid

/-- The call removed the key from `m_next_rule_prog_index`. -/
def Call.RemovesIndex (key : NextRuleProgIndexKey) : Call → Prop
  | .createBPFSession _ _ => False
  | .removeBPFSession seid => (Call.removeBPFSession seid).Returns ifs s ∧
    ∃ entry, s.mSessionProgramsMap.lookup seid.toUInt32 = some entry ∧ entry.mKey = key

/-- The call is about the SEID, or it wrote or removed the key. -/
def Call.Touches (seid : UInt64) (key : NextRuleProgIndexKey) (c : Call) : Prop :=
  c.seid = seid ∨ c.WritesIndex ifs s key ∨ c.RemovesIndex ifs s key

/-- The call wrote the slot of the id in `m_next_rule_prog`: it is a `createBPFSession` that came
past its second map update, when the counter was at the id. -/
def Call.TakesSlot (id : UInt32) : Call → Prop
  | .createBPFSession pSession env => s.sIdCounter = id ∧ ∃ key pFar index slots,
    extractPipeline (sortPdrs env pSession) = .ok ⟨key, pFar⟩ ∧ IndexWritten env s key index ∧
      SlotWritten env s slots
  | .removeBPFSession _ => False

variable {ifs s} {env : Env} {c : Call} {seid : UInt32} {key : NextRuleProgIndexKey}
  {pFar : PfcpFar}
  {id : UInt32} {ref : ℕ} {p : FARProgram}

/-- A deployment of another session touches neither its SEID nor its key. -/
theorem not_touches_create {pSession : PfcpSession} {seid : UInt64} {key' : NextRuleProgIndexKey}
    (hs : pSession.seid ≠ seid) (he : extractPipeline (sortPdrs env pSession) = .ok ⟨key', pFar⟩)
    (hne : key ≠ key') : ¬ (Call.createBPFSession pSession env).Touches ifs s seid key := by
  rintro (h | ⟨pFar', he', -⟩ | h)
  · exact hs h
  · rw [he] at he'
    cases he'
    exact hne rfl
  · exact h

/-- The index holds the same for a key that is neither written nor removed. -/
theorem lookup_step_eq (hw : ¬ c.WritesIndex ifs s key) (hr : ¬ c.RemovesIndex ifs s key) :
    (step ifs s c).m_next_rule_prog_index.lookup key = s.m_next_rule_prog_index.lookup key := by
  cases c with
  | createBPFSession pSession env => exact lookup_step_create hw
  | removeBPFSession seid' =>
    rcases step_remove_cases ifs s seid' with e | ⟨entry, index, he, hd, e⟩
    · rw [e]
    · rw [e]
      rcases hd with ⟨hd, hret⟩ | rfl
      · -- The key that was removed is another one.
        have hne : key ≠ entry.mKey := fun e => hr ⟨hret, entry, he, e.symm⟩
        exact BoundedMap.lookup_delete_ne hd hne
      · rfl

/-- A key that was removed is not in the index. -/
theorem lookup_step_of_removesIndex (h : c.RemovesIndex ifs s key) :
    (step ifs s c).m_next_rule_prog_index.lookup key = none := by
  cases c with
  | createBPFSession pSession env => exact h.elim
  | removeBPFSession seid' =>
    obtain ⟨hret, entry, he, rfl⟩ := h
    obtain ⟨entry', index, he', hd, hstep⟩ := remove_returns hret
    rw [he] at he'
    cases he'
    rw [hstep]
    exact BoundedMap.lookup_delete_self hd

/-- The prog array after `createPipeline`. -/
theorem PipelineOutcome.slots_eq {r : EStateM.Result Err State Unit}
    (h : PipelineOutcome ifs env s seid key pFar r) :
    (∃ index slots, IndexWritten env s key index ∧ SlotWritten env s slots ∧
        (stateAfter r).m_next_rule_prog = slots) ∨
      ((∀ index slots, IndexWritten env s key index → ¬ SlotWritten env s slots) ∧
        (stateAfter r).m_next_rule_prog = s.m_next_rule_prog) := by
  cases h with
  | unpublished e p hid hfar hloaded hnot =>
    exact .inr ⟨fun index slots hi => absurd hi (hnot index), rfl⟩
  | indexed index hindex hnot => exact .inr ⟨fun index slots _ => hnot slots, rfl⟩
  | slotted index slots hindex hslot hnot => exact .inl ⟨index, slots, hindex, hslot, rfl⟩
  | deployed index slots p hindex hslot hkernel hid hloaded hfar hm =>
    refine .inl ⟨index, slots, hindex, hslot, ?_⟩
    rw [stateAfter, State.register, destroy_eq]
    rfl

/-- The slot of an id holds the same after a call that does not take it. -/
theorem slots_step_of_not_takesSlot (h : ¬ c.TakesSlot s id) :
    (step ifs s c).m_next_rule_prog.get id.toNat = s.m_next_rule_prog.get id.toNat := by
  cases c with
  | createBPFSession pSession env =>
    rcases step_create_cases ifs env s pSession with ⟨-, e⟩ | ⟨key, pFar, r, sessions, he, hp, e⟩
    · rw [e]
    · rw [e]
      dsimp only
      rcases hp.slots_eq with ⟨index, slots, hi, hs, e'⟩ | ⟨-, e'⟩
      · -- The slot that was written is that of the counter, and the counter is not at the id.
        have hne : id.toNat ≠ s.sIdCounter.toNat := fun e =>
          h ⟨(UInt32.toNat_inj.1 e).symm, key, pFar, index, slots, he, hi, hs⟩
        rw [e', SlotArray.get_set_ne hs.set_eq hne]
      · rw [e']
  | removeBPFSession seid =>
    rcases step_remove_cases ifs s seid with e | ⟨entry, index, -, -, e⟩
    · rw [e]
    · rw [e]
      rfl

/-- A call that takes the slot puts its own program there. -/
theorem slots_step_of_takesSlot (h : c.TakesSlot s id) :
    (step ifs s c).m_next_rule_prog.get id.toNat = some s.programs.length := by
  cases c with
  | removeBPFSession seid => exact h.elim
  | createBPFSession pSession env =>
    obtain ⟨rfl, key, pFar, index, slots, he, hi, hs⟩ := h
    rcases step_create_cases ifs env s pSession with
      ⟨hnot, -⟩ | ⟨key', pFar', r, sessions, he', hp, e⟩
    · exact absurd he (hnot _)
    · rw [he] at he'
      cases he'
      rw [e]
      dsimp only
      rcases hp.slots_eq with ⟨index', slots', -, hs', e'⟩ | ⟨hnot, -⟩
      · rw [e']
        exact SlotArray.get_set_self hs'.set_eq
      · exact absurd hs (hnot index slots hi)

/-- A slot that holds a program constructed after `ref` never holds one from before again. -/
theorem slot_foldl_gt {r : ℕ} (hslot : s.m_next_rule_prog.get id.toNat = some r) (hr : ref < r)
    (hlt : ref < s.programs.length) (calls : List Call) :
    ∃ r', (calls.foldl (step ifs) s).m_next_rule_prog.get id.toNat = some r' ∧ ref < r' := by
  suffices hinv : ref < (calls.foldl (step ifs) s).programs.length ∧
      ∃ r', (calls.foldl (step ifs) s).m_next_rule_prog.get id.toNat = some r' ∧ ref < r' from
    hinv.2
  refine Run.invariant (I := fun t : State => ref < t.programs.length ∧
    ∃ r', t.m_next_rule_prog.get id.toNat = some r' ∧ ref < r') ⟨hlt, r, hslot, hr⟩ ?_ calls
  rintro t c ⟨ht, r', hr', hgt⟩
  have hle := (step_change ifs t c).length_le
  by_cases hc : c.TakesSlot t id
  · exact ⟨by omega, _, slots_step_of_takesSlot hc, ht⟩
  · exact ⟨by omega, r', (slots_step_of_not_takesSlot hc).trans hr', hgt⟩

/-- A slot that holds a program holds it at the end of a run exactly when no call has taken it. -/
theorem slot_foldl_eq_iff (hslot : s.m_next_rule_prog.get id.toNat = some ref)
    (hlt : ref < s.programs.length) {calls : List Call} :
    (calls.foldl (step ifs) s).m_next_rule_prog.get id.toNat = some ref ↔
      Run.Along (step ifs) (fun t c => ¬ c.TakesSlot t id) s calls := by
  constructor
  · intro h
    rw [Run.along_iff_split]
    rintro pre c post rfl htakes
    have hpre := length_le_foldl ifs s pre
    have hlen := (step_change ifs (pre.foldl (step ifs) s) c).length_le
    have htaken : (step ifs (pre.foldl (step ifs) s) c).m_next_rule_prog.get id.toNat =
      some (pre.foldl (step ifs) s).programs.length := slots_step_of_takesSlot htakes
    obtain ⟨r, hr, hgt⟩ := slot_foldl_gt htaken
      (by omega : ref < (pre.foldl (step ifs) s).programs.length) (by omega) post
    rw [List.foldl_append, List.foldl_cons, hr] at h
    have := Option.some.inj h
    omega
  · intro h
    exact h.invariant (I := fun t : State => t.m_next_rule_prog.get id.toNat = some ref) hslot
      fun t c ht hc => (slots_step_of_not_takesSlot hc).trans ht

/-- A key that is not written holds its id at the end of a run exactly when it held it at first and
no call has removed it. -/
theorem lookup_foldl_eq_some_iff {calls : List Call}
    (hw : Run.Along (step ifs) (fun t c => ¬ c.WritesIndex ifs t key) s calls) :
    (calls.foldl (step ifs) s).m_next_rule_prog_index.lookup key = some id ↔
      s.m_next_rule_prog_index.lookup key = some id ∧
        Run.Along (step ifs) (fun t c => ¬ c.RemovesIndex ifs t key) s calls := by
  induction calls generalizing s with
  | nil => simp
  | cons c calls ih =>
    rw [List.foldl_cons, ih hw.2, Run.along_cons]
    by_cases hr : c.RemovesIndex ifs s key
    · rw [lookup_step_of_removesIndex hr]
      simp [hr]
    · rw [lookup_step_eq hw.1 hr]
      simp [hr]

/-! ## What stands -/

/-- The key leads to the program, in the place where it was constructed, through its id. -/
structure Stands (s : State) (key : NextRuleProgIndexKey) (id : UInt32) (ref : ℕ) (p : FARProgram) :
    Prop where
  /-- The index holds the id. -/
  index : s.m_next_rule_prog_index.lookup key = some id
  /-- The slot holds the program. -/
  slot : s.m_next_rule_prog.get id.toNat = some ref
  /-- The program, without its life cycle. -/
  program : s.cores[ref]? = some p

theorem Stands.tailCall (h : Stands s key id ref p) : tailCallNextProg s key = some ref := by
  rw [tailCallNextProg, h.index]
  exact h.slot

/-- A call that returns makes its pipeline stand. -/
theorem stands_of_returns {pSession : PfcpSession}
    (he : extractPipeline (sortPdrs env pSession) = .ok ⟨key, pFar⟩)
    (h : (Call.createBPFSession pSession env).Returns ifs s) :
    ∃ p : FARProgram, p.far = some (farOf pFar) ∧ p.m_redirect_interfaces = redirectInterfaces ifs ∧
      Stands (step ifs s (.createBPFSession pSession env)) key s.sIdCounter s.programs.length
        p := by
  obtain ⟨key', pFar', index, slots, p, he', hi, hs, -, -, hfar, hm, hstep⟩ := create_returns h
  rw [he] at he'
  cases he'
  refine ⟨p.core, hfar, hm, ?_, ?_, ?_⟩
  · rw [hstep, index_deploy]
    exact BoundedMap.lookup_update_self hi.update_eq
  · rw [hstep, slots_deploy]
    exact SlotArray.get_set_self hs.set_eq
  · rw [hstep, cores_deploy, ← length_cores, List.getElem?_concat_length]

/-- It stands after a call that neither writes nor removes its key, and does not take its slot. -/
theorem Stands.step (h : Stands s key id ref p) (hw : ¬ c.WritesIndex ifs s key)
    (hr : ¬ c.RemovesIndex ifs s key) (hs : ¬ c.TakesSlot s id) :
    Stands (step ifs s c) key id ref p where
  index := (lookup_step_eq hw hr).trans h.index
  slot := (slots_step_of_not_takesSlot hs).trans h.slot
  program := (step_change ifs s c).cores_getElem? h.program

/-- It stands after a run of such calls. -/
theorem Stands.foldl {calls : List Call} (h : Stands s key id ref p)
    (ht : Run.Along (UpfBpf.step ifs)
      (fun s c => ¬ c.WritesIndex ifs s key ∧ ¬ c.RemovesIndex ifs s key) s calls)
    (hs : Run.Along (UpfBpf.step ifs) (fun s c => ¬ c.TakesSlot s id) s calls) :
    Stands (calls.foldl (UpfBpf.step ifs) s) key id ref p :=
  (ht.and hs).invariant (I := fun t => Stands t key id ref p) h
    fun _ _ h' hc => h'.step hc.1.1 hc.1.2 hc.2

end Calls

/-- A deployment and the calls around it: the PDR with the highest precedence has the key and the
FAR, the call returns, and no later call touches the key or the SEID. -/
structure Deployment (ifs : Interfaces) (pre : List Call) (pSession : PfcpSession) (env : Env)
    (post : List Call) (key : NextRuleProgIndexKey) (pFar : PfcpFar) : Prop where
  /-- `std::sort` sorts. -/
  sorts : StdSort.IsSort env.stdSort
  /-- The PDR and its elements. -/
  pdr : ∃ pdr, pSession.IsHighest pdr ∧ pdr.key = some key ∧ pSession.farOfPdr pdr = some pFar
  /-- The call returns. -/
  returns : (Call.createBPFSession pSession env).Returns ifs (run ifs pre)
  /-- The later calls leave it. -/
  untouched : Run.Along (step ifs) (fun s c => ¬ c.Touches ifs s pSession.seid key)
    (step ifs (run ifs pre) (.createBPFSession pSession env)) post

section Deployment

variable {ifs : Interfaces} {pre post : List Call} {pSession : PfcpSession} {env : Env}
  {key : NextRuleProgIndexKey} {pFar : PfcpFar}

theorem Deployment.extract (h : Deployment ifs pre pSession env post key pFar) :
    extractPipeline (sortPdrs env pSession) = .ok ⟨key, pFar⟩ := by
  obtain ⟨pdr, hp, hkey, hfar⟩ := h.pdr
  exact extractPipeline_sortPdrs h.sorts hp hkey hfar

/-- The deployment of a session with one PDR. -/
theorem Deployment.of_single {pdr : PfcpPdr} (hsort : StdSort.IsSort env.stdSort)
    (hpdr : pSession.pdrs = [pdr]) (hkey : pdr.key = some key)
    (hfar : pSession.farOfPdr pdr = some pFar)
    (hret : (Call.createBPFSession pSession env).Returns ifs (run ifs pre))
    (hpost : Run.Along (step ifs) (fun s c => ¬ c.Touches ifs s pSession.seid key)
      (step ifs (run ifs pre) (.createBPFSession pSession env)) post) :
    Deployment ifs pre pSession env post key pFar :=
  ⟨hsort, ⟨pdr, PfcpSession.isHighest_of_single hpdr, hkey, hfar⟩, hret, hpost⟩

/-- A deployment stands at the end of the run, unless its slot was taken. -/
theorem Deployment.stands (h : Deployment ifs pre pSession env post key pFar)
    (hs : Run.Along (step ifs) (fun s c => ¬ c.TakesSlot s (idOf (run ifs pre).programs.length))
      (step ifs (run ifs pre) (.createBPFSession pSession env)) post) :
    ∃ p : FARProgram, p.far = some (farOf pFar) ∧ p.m_redirect_interfaces = redirectInterfaces ifs ∧
      Stands (run ifs (pre ++ .createBPFSession pSession env :: post)) key
        (idOf (run ifs pre).programs.length) (run ifs pre).programs.length p := by
  obtain ⟨p, hfar, hm, hst⟩ := stands_of_returns h.extract h.returns
  rw [(numbered_run ifs pre).counter] at hst
  refine ⟨p, hfar, hm, ?_⟩
  rw [run_append, List.foldl_cons]
  refine hst.foldl (h.untouched.mono fun s c hc => ?_) hs
  rw [Call.Touches, not_or, not_or] at hc
  exact hc.2

end Deployment

/-! ## When the counter comes round -/

section ComesRound

variable {ifs : Interfaces} {s : State} {pSession : PfcpSession} {env : Env}
  {key key' : NextRuleProgIndexKey} {pFar : PfcpFar} {L : ℕ}

/-- Two of fewer than `2^32` programs in a row have different ids. -/
theorem idOf_ne {i j : ℕ} (hlt : i < j) (hle : j < i + 2^32) : idOf j ≠ idOf i := by
  intro h
  have e := congrArg UInt32.toNat h
  rw [idOf, idOf, UInt32.toNat_ofNat', UInt32.toNat_ofNat'] at e
  omega

/-- The slot of a program is not taken before `2^32` programs were constructed after it. -/
theorem along_not_takesSlot (hN : Numbered s) (hL : L < s.programs.length) {calls : List Call}
    (hle : (calls.foldl (step ifs) s).programs.length ≤ L + 2^32) :
    Run.Along (step ifs) (fun t c => ¬ c.TakesSlot t (idOf L)) s calls := by
  induction calls generalizing s with
  | nil => trivial
  | cons c calls ih =>
    have hc := step_change ifs s c
    refine ⟨fun ht => ?_, ih (hc.numbered hN) (hL.trans_le hc.length_le) hle⟩
    cases c with
    | removeBPFSession seid => exact ht
    | createBPFSession pSession env =>
      obtain ⟨hid, key, pFar, -, -, he, -⟩ := ht
      -- The call constructs a program itself, so there is still one to go.
      have hlen := length_step_create ifs s he
      have hrun := length_le_foldl ifs (step ifs s (.createBPFSession pSession env)) calls
      rw [List.foldl_cons] at hle
      rw [hN.counter] at hid
      exact idOf_ne hL (by omega) hid

/-- A call that takes the slot makes the key lead to its own program. -/
theorem stands_of_takesSlot (hk : s.m_next_rule_prog_index.lookup key = some s.sIdCounter)
    (he : extractPipeline (sortPdrs env pSession) = .ok ⟨key', pFar⟩) (hne : key ≠ key')
    (h : (Call.createBPFSession pSession env).Returns ifs s) :
    ∃ p : FARProgram, p.far = some (farOf pFar) ∧
      Stands (step ifs s (.createBPFSession pSession env)) key s.sIdCounter s.programs.length
        p := by
  obtain ⟨p, hfar, -, hst⟩ := stands_of_returns he h
  refine ⟨p, hfar, ?_, hst.slot, hst.program⟩
  rw [lookup_step_create, hk]
  rintro ⟨pFar', he', -⟩
  rw [he] at he'
  cases he'
  exact hne rfl

/-- A program that cannot be set up takes an id, and nothing else. -/
theorem step_of_not_setsUp (ifs : Interfaces) (s : State) (h : ¬ env.SetsUp)
    (he : extractPipeline (sortPdrs env pSession) = .ok ⟨key, pFar⟩) :
    ∃ p sessions, step ifs s (.createBPFSession pSession env) =
      { s.publish p s.m_next_rule_prog_index s.m_next_rule_prog with
        mSeidToSession := sessions } := by
  rcases step_create_cases ifs env s pSession with
    ⟨hnot, -⟩ | ⟨key', pFar', r, sessions, -, hp, hstep⟩
  · exact absurd he (hnot _)
  · -- Everything past the set-up needs one that returns.
    cases hp with
    | unpublished e p hid hfar hloaded hnot => exact ⟨p, sessions, hstep⟩
    | indexed index hindex hnot => exact absurd hindex.setsUp h
    | slotted index slots hindex hslot hnot => exact absurd hindex.setsUp h
    | deployed index slots p hindex hslot hkernel hid hloaded hfar hm =>
      exact absurd hindex.setsUp h

/-- So do `n` of them. -/
theorem foldl_replicate_of_not_setsUp (ifs : Interfaces) (h : ¬ env.SetsUp)
    (he : extractPipeline (sortPdrs env pSession) = .ok ⟨key, pFar⟩) (n : ℕ) (s : State) :
    let t := (List.replicate n (Call.createBPFSession pSession env)).foldl (step ifs) s
    t.m_next_rule_prog_index = s.m_next_rule_prog_index ∧
      t.sIdCounter = s.sIdCounter + UInt32.ofNat n := by
  induction n generalizing s with
  | zero => simp
  | succ n ih =>
    -- From the first of them on, as the counter is written in front.
    obtain ⟨p, sessions, hp⟩ := step_of_not_setsUp ifs s h he
    obtain ⟨hi, hc⟩ := ih (step ifs s (.createBPFSession pSession env))
    rw [List.replicate_succ, List.foldl_cons]
    refine ⟨by rw [hi, hp]; rfl, ?_⟩
    rw [hc, hp, State.publish, UInt32.ofNat_add, UInt32.add_comm (UInt32.ofNat n),
      ← UInt32.add_assoc]
    rfl

end ComesRound

/-- A deployment whose program cannot be loaded. -/
def failedCreate : Call :=
  .createBPFSession (sampleSession 2 200) { sampleEnv with loadErr := -1 }

/-- A FAR that does not forward. -/
def idleFar : PfcpFar := { sampleFar with apply_action := {} }

/-- A deployment with that FAR. -/
def idleCreate : Call :=
  .createBPFSession { sampleSession 3 300 with fars := [idleFar] } sampleEnv

/-- The calls that bring the counter from 2 round to 1, and take the slot there. -/
def comeRound : List Call := List.replicate (2^32 - 1) failedCreate ++ [idleCreate]

/-- After them, the key of the first deployment leads to a program that does not forward. -/
theorem stands_comeRound (ifs : Interfaces) {s : State} {key : NextRuleProgIndexKey}
    (hk : s.m_next_rule_prog_index.lookup key = some 1) (hc : s.sIdCounter = 2)
    (hi : s.m_next_rule_prog_index.size < 10)
    (hne : key ≠ ⟨300, interfaceValueAccess, 0x0a0a0a0a⟩) :
    ∃ ref p, p.far = some (farOf idleFar) ∧ Stands (comeRound.foldl (step ifs) s) key 1 ref p := by
  have hload : ¬ Env.SetsUp { sampleEnv with loadErr := -1 } := fun h => absurd h.load (by decide)
  obtain ⟨hindex, hcounter⟩ : let t := (List.replicate (2^32 - 1) failedCreate).foldl (step ifs) s
      t.m_next_rule_prog_index = s.m_next_rule_prog_index ∧
        t.sIdCounter = s.sIdCounter + UInt32.ofNat (2^32 - 1) :=
    foldl_replicate_of_not_setsUp ifs hload rfl (2^32 - 1) s
  rw [comeRound, List.foldl_append, List.foldl_cons, List.foldl_nil]
  generalize List.foldl (step ifs) s (List.replicate (2^32 - 1) failedCreate) = t
    at hindex hcounter ⊢
  -- The counter has come round, and there is room in both maps.
  have h1 : t.sIdCounter = 1 := by
    rw [hcounter, hc]
    decide
  have hret : idleCreate.Returns ifs t :=
    create_returns_iff.2 ⟨⟨⟨⟨rfl, rfl, rfl, rfl⟩, rfl, rfl⟩, rfl, rfl, rfl⟩, _, _, rfl,
      .inr (by rw [hindex]; exact hi), by rw [h1]; decide⟩
  have hlook : t.m_next_rule_prog_index.lookup key = some t.sIdCounter := by rw [hindex, hk, h1]
  obtain ⟨p, hfar, hst⟩ := stands_of_takesSlot hlook rfl hne hret
  rw [h1] at hst
  exact ⟨_, p, hfar, hst⟩

/-- They touch no key but their own two, and no SEID but 2 and 3. -/
theorem along_comeRound {ifs : Interfaces} {s : State} {key : NextRuleProgIndexKey}
    (h2 : key ≠ ⟨200, interfaceValueAccess, 0x0a0a0a0a⟩)
    (h3 : key ≠ ⟨300, interfaceValueAccess, 0x0a0a0a0a⟩) :
    Run.Along (step ifs) (fun s c => ¬ c.Touches ifs s 1 key) s comeRound := by
  rw [Run.along_iff_split]
  intro pre c post e
  have hmem : c ∈ comeRound := by rw [e]; simp
  rcases List.mem_append.1 hmem with hc | hc
  · rw [(List.mem_replicate.1 hc).2]
    exact not_touches_create (by decide) rfl h2
  · rw [List.mem_singleton.1 hc]
    exact not_touches_create (by decide) rfl h3

end UpfBpf
