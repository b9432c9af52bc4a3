import UpfBpf.Control.Standing
import UpfBpf.Establishment

/-!
# Detection

Which session's program a frame is handed to, from the side of the session. `Constructs` names the
call that constructed a program, and `Constructs.key_eq` says that no key but the one of that call
leads to the program, as long as the counter of the ids has not come round. Three properties that a
detector should have are then questions about the key that the parser makes of a frame:

* on the uplink, the address in the key is the tunnel's source, not that of the user's packet;
* on the downlink, the TEID in the key is zero, whatever F-TEID the session was given;
* the source interface in the key is read off the packet, not off the interface it came in on.
-/

namespace UpfBpf

open Bytes

/-! ## The call that constructed a program -/

/-- A call of the run constructed the program `ref`, for a pipeline with the key. -/
def Constructs (ifs : Interfaces) (calls : List Call) (ref : ℕ) (key : NextRuleProgIndexKey) :
    Prop :=
  ∃ pre pSession env post pFar, calls = pre ++ .createBPFSession pSession env :: post ∧
    extractPipeline (sortPdrs env pSession) = .ok ⟨key, pFar⟩ ∧
    ref = (run ifs pre).programs.length

section Constructs

variable {ifs : Interfaces} {calls pre post mid : List Call} {pSession : PfcpSession} {env : Env}
  {ref : ℕ} {key key' : NextRuleProgIndexKey} {pFar : PfcpFar}

/-- Behind a deployment there is one more program. -/
theorem length_run_lt (ifs : Interfaces)
    (he : extractPipeline (sortPdrs env pSession) = .ok ⟨key, pFar⟩)
    (pre mid : List Call) :
    (run ifs pre).programs.length <
      (run ifs (pre ++ .createBPFSession pSession env :: mid)).programs.length := by
  have hstep := length_step_create ifs (run ifs pre) he
  have hrun := length_le_foldl ifs (step ifs (run ifs pre) (.createBPFSession pSession env)) mid
  rw [run_append, List.foldl_cons]
  omega

/-- Of two deployments of a run, the second finds a program more, unless they are one. -/
theorem key_eq_of_append {pre' post' : List Call} {pSession' : PfcpSession} {env' : Env}
    {pFar' : PfcpFar} (he : extractPipeline (sortPdrs env pSession) = .ok ⟨key, pFar⟩)
    (he' : extractPipeline (sortPdrs env' pSession') = .ok ⟨key', pFar'⟩)
    (hpre : pre' = pre ++ mid)
    (hmid : Call.createBPFSession pSession env :: post =
      mid ++ .createBPFSession pSession' env' :: post')
    (hl : (run ifs pre).programs.length = (run ifs pre').programs.length) : key = key' := by
  cases mid with
  | nil =>
    cases hmid
    rw [he] at he'
    cases he'
    rfl
  | cons c mid =>
    rw [List.cons_append, List.cons.injEq] at hmid
    have hlt := length_run_lt ifs he pre mid
    rw [hmid.1, ← hpre] at hlt
    omega

/-- A program was constructed for one key. -/
theorem Constructs.unique (h : Constructs ifs calls ref key) (h' : Constructs ifs calls ref key') :
    key = key' := by
  obtain ⟨pre, pSession, env, post, pFar, hcalls, he, href⟩ := h
  obtain ⟨pre', pSession', env', post', pFar', hcalls', he', href'⟩ := h'
  rw [hcalls] at hcalls'
  rcases List.append_eq_append_iff.1 hcalls' with ⟨mid, hpre, hmid⟩ | ⟨mid, hpre, hmid⟩
  · exact key_eq_of_append he he' hpre hmid (href.symm.trans href')
  · exact (key_eq_of_append he' he hpre hmid (href'.symm.trans href)).symm

/-- Only the key that a program was constructed for leads to it. -/
theorem Constructs.key_eq (h : Constructs ifs calls ref key)
    (hn : (run ifs calls).programs.length < 2^32 - 1)
    (ht : tailCallNextProg (run ifs calls) key' = some ref) : key' = key := by
  obtain ⟨pre, pSession, env, post, pFar, hcalls, he, href, -⟩ := exists_writer hn ht
  have h' : Constructs ifs calls ref key' := ⟨pre, pSession, env, post, pFar, hcalls, he, href⟩
  exact h'.unique h

/-- The program of a deployment that returned is in its slot exactly when no later call has taken
the slot. -/
theorem slot_iff_of_returns
    (he : extractPipeline (sortPdrs env pSession) = .ok ⟨key, pFar⟩)
    (hret : (Call.createBPFSession pSession env).Returns ifs (run ifs pre)) :
    (run ifs (pre ++ .createBPFSession pSession env :: post)).m_next_rule_prog.get
          (idOf (run ifs pre).programs.length).toNat = some (run ifs pre).programs.length ↔
      Run.Along (step ifs) (fun s c => ¬ c.TakesSlot s (idOf (run ifs pre).programs.length))
        (step ifs (run ifs pre) (.createBPFSession pSession env)) post := by
  obtain ⟨p, -, -, hst⟩ := stands_of_returns he hret
  have hlen := length_step_create ifs (run ifs pre) he
  rw [(numbered_run ifs pre).counter] at hst
  rw [run_append, List.foldl_cons]
  exact slot_foldl_eq_iff hst.slot (by omega)

/-- The slot of a program is not taken while the counter has not come round. -/
theorem not_takesSlot_of_length_lt
    (he : extractPipeline (sortPdrs env pSession) = .ok ⟨key, pFar⟩)
    (hn : (run ifs (pre ++ .createBPFSession pSession env :: post)).programs.length < 2^32 - 1) :
    Run.Along (step ifs) (fun s c => ¬ c.TakesSlot s (idOf (run ifs pre).programs.length))
      (step ifs (run ifs pre) (.createBPFSession pSession env)) post := by
  have hN := (step_change ifs (run ifs pre) (.createBPFSession pSession env)).numbered
    (numbered_run ifs pre)
  have hlen := length_step_create ifs (run ifs pre) he
  rw [run_append, List.foldl_cons] at hn
  exact along_not_takesSlot hN (by omega) (by omega)

/-- The keys that lead to the program of a deployment that stands. -/
theorem Deployment.tailCall_iff (h : Deployment ifs pre pSession env post key pFar)
    (hn : (run ifs (pre ++ .createBPFSession pSession env :: post)).programs.length < 2^32 - 1) :
    tailCallNextProg (run ifs (pre ++ .createBPFSession pSession env :: post)) key' =
        some (run ifs pre).programs.length ↔ key' = key := by
  have hc : Constructs ifs (pre ++ .createBPFSession pSession env :: post)
      (run ifs pre).programs.length key :=
    ⟨pre, pSession, env, post, pFar, rfl, h.extract, rfl⟩
  constructor
  · exact hc.key_eq hn
  · rintro rfl
    obtain ⟨p, -, -, hst⟩ := h.stands (not_takesSlot_of_length_lt h.extract hn)
    exact hst.tailCall

end Constructs

/-- A frame with a key is handed to the program that its key leads to. -/
theorem entryPoint_eq_tailCall_iff {s : State} {mc_stats : McStats} {ctx : XdpMd} {ref : ℕ}
    {key : NextRuleProgIndexKey} (hkey : detect ctx = .tailCall key) :
    (entryPoint (tailCallNextProg s) mc_stats ctx).1 = .tailCall ref ↔
      tailCallNextProg s key = some ref := by
  rw [entryPoint_fst, ethHandle_eq_tailCall_iff, hkey]
  constructor
  · rintro ⟨key', e, ht⟩
    cases e
    exact ht
  · intro ht
    exact ⟨key, rfl, ht⟩

/-! ## The address on the uplink -/

/-- The source address of the user's packet inside the tunnel. -/
def innerSaddr (f : List UInt8) : UInt32 := load32 f 62

/-- A frame is handed to the program exactly when the user's packet comes from the address. -/
def DetectsUe (s : State) (ref : ℕ) (a : UInt32) (mc_stats : McStats) (ctx : XdpMd) : Prop :=
  (entryPoint (tailCallNextProg s) mc_stats ctx).1 = .tailCall ref ↔ innerSaddr ctx.data = a

/-- Detection is by the tunnel's source address: a G-PDU is detected by the user's address exactly
when the two addresses are the configured one or neither is, where a tunnel address under which
another session has the same id counts as the configured one, and a program whose slot was taken is
never reached. -/
theorem detectsUe_iff (mc_stats : McStats) {ifs : Interfaces} {pre post : List Call}
    {pSession : PfcpSession} {env : Env} {t a : UInt32} {pFar : PfcpFar} {ctx : XdpMd}
    (h : Deployment ifs pre pSession env post ⟨t, interfaceValueAccess, a⟩ pFar)
    (hf : IsGpduFrame t ctx.data) :
    DetectsUe (run ifs (pre ++ .createBPFSession pSession env :: post))
        (run ifs pre).programs.length a mc_stats ctx ↔
      ((outerSaddr ctx.data = a ∨
          (run ifs (pre ++ .createBPFSession pSession env :: post)).m_next_rule_prog_index.lookup
            ⟨t, interfaceValueAccess, outerSaddr ctx.data⟩ =
          some (idOf (run ifs pre).programs.length)) ∧
        Run.Along (step ifs)
          (fun s c => ¬ c.TakesSlot s (idOf (run ifs pre).programs.length))
          (step ifs (run ifs pre) (.createBPFSession pSession env)) post ↔
      innerSaddr ctx.data = a) := by
  unfold DetectsUe
  rw [entryPoint_eq_tailCall_iff (detect_of_isGpduFrame hf),
    (numbered_run ifs _).tailCallNextProg_eq_some_iff,
    slot_iff_of_returns h.extract h.returns]
  refine iff_congr (and_congr_left fun hslot => ?_) Iff.rfl
  -- Under the configured address, the index holds the id.
  refine (or_iff_right_of_imp fun ha => ?_).symm
  obtain ⟨p, -, -, hst⟩ := h.stands hslot
  rw [ha]
  exact hst.index

/-- As long as the counter has not come round, the tunnel's address and the user's are both the
configured one, or neither is. -/
theorem detectsUe_iff_of_length_lt (mc_stats : McStats) {ifs : Interfaces} {pre post : List Call}
    {pSession : PfcpSession} {env : Env} {t a : UInt32} {pFar : PfcpFar} {ctx : XdpMd}
    (h : Deployment ifs pre pSession env post ⟨t, interfaceValueAccess, a⟩ pFar)
    (hn : (run ifs (pre ++ .createBPFSession pSession env :: post)).programs.length < 2^32 - 1)
    (hf : IsGpduFrame t ctx.data) :
    DetectsUe (run ifs (pre ++ .createBPFSession pSession env :: post))
        (run ifs pre).programs.length a mc_stats ctx ↔
      (outerSaddr ctx.data = a ↔ innerSaddr ctx.data = a) := by
  have hkey : (⟨t, interfaceValueAccess, outerSaddr ctx.data⟩ : NextRuleProgIndexKey) =
      ⟨t, interfaceValueAccess, a⟩ ↔ outerSaddr ctx.data = a := by
    simp only [NextRuleProgIndexKey.mk.injEq, true_and]
  unfold DetectsUe
  rw [entryPoint_eq_tailCall_iff (detect_of_isGpduFrame hf), h.tailCall_iff hn, hkey]

/-- A G-PDU with the TEID 100 from the tunnel endpoint `outer`, with a packet of 20 bytes from
`inner` in it. -/
def tunnelFrame (outer inner : UInt32) : List UInt8 :=
  ([2, 0, 0, 0, 0, 1] ++ [2, 0, 0, 0, 0, 2] ++ be16 0x0800) ++
    ([0x45, 0] ++ be16 56 ++ [0, 0, 0, 0, 64, 17, 0, 0] ++ le32 outer ++ le32 0x0c0fa8c0) ++
    (be16 53 ++ be16 2152 ++ be16 36 ++ [0, 0]) ++
    ([0x30, 255] ++ be16 20 ++ le32 100) ++
    ([0x45, 0] ++ be16 20 ++ [0, 0, 0, 0, 64, 17, 0, 0] ++ le32 inner ++ le32 0x1b03010a)

/-- The frame is well formed, whatever its addresses. -/
theorem isGpduFrame_tunnelFrame (outer inner : UInt32) :
    IsGpduFrame 100 (tunnelFrame outer inner) where
  length_le := by show 42 ≤ 70; decide
  etherType := rfl
  versionIhl := rfl
  protocol := rfl
  dest := rfl
  message_type := rfl
  teid := rfl
  inner := by show 70 ≤ 70; decide
  version := by show 69 / 2^4 = 4; decide

/-- The first session of a run, for the UE at 10.10.10.10 with the TEID 100. -/
theorem deployment_first : Deployment sampleInterfaces [] (sampleSession 1 100) sampleEnv []
    ⟨100, interfaceValueAccess, 0x0a0a0a0a⟩ sampleFar :=
  .of_single StdSort.isSort_insertionSort rfl rfl rfl trivial trivial

/-- The addresses coincide, as in a benchmark without a base station. -/
theorem detectsUe_iff_sample :
    DetectsUe (run sampleInterfaces [sampleCreate 1 100]) 0 0x0a0a0a0a (fun _ => {})
      ⟨[], tunnelFrame 0x0a0a0a0a 0x0a0a0a0a⟩ :=
  (detectsUe_iff (fun _ => {}) deployment_first
    (isGpduFrame_tunnelFrame 0x0a0a0a0a 0x0a0a0a0a)).2
    (iff_of_true ⟨.inl (by decide), trivial⟩ (by decide))

/-- A packet of the UE at 10.10.10.10, tunnelled by the base station at 10.1.3.27, is not
detected. -/
theorem not_detectsUe_of_base_station :
    Deployment sampleInterfaces [] (sampleSession 1 100) sampleEnv []
        ⟨100, interfaceValueAccess, 0x0a0a0a0a⟩ sampleFar ∧
      IsGpduFrame 100 (tunnelFrame 0x1b03010a 0x0a0a0a0a) ∧
      ¬ DetectsUe (run sampleInterfaces [sampleCreate 1 100]) 0 0x0a0a0a0a (fun _ => {})
        ⟨[], tunnelFrame 0x1b03010a 0x0a0a0a0a⟩ := by
  refine ⟨deployment_first, isGpduFrame_tunnelFrame _ _, fun h => ?_⟩
  have hne : (entryPoint (tailCallNextProg (run sampleInterfaces [sampleCreate 1 100]))
      (fun _ => {}) ⟨[], tunnelFrame 0x1b03010a 0x0a0a0a0a⟩).1 ≠ .tailCall 0 := by decide
  exact hne (h.2 (by decide))

/-! ## The TEID on the downlink -/

/-- The call deploys a session for the address on the core side. -/
def Call.UsesCore (a : UInt32) : Call → Prop
  | .createBPFSession pSession env => ∃ key pFar,
    extractPipeline (sortPdrs env pSession) = .ok ⟨key, pFar⟩ ∧
      key.source_value = interfaceValueCore ∧ key.ipv4_address = a
  | .removeBPFSession _ => False

/-- A downlink session for the UE address `a`, with the F-TEID `teid`, in a run: its deployment
returns, and of the later calls none deploys the address on the core side again, and none removes
the session. -/
structure CoreDeployment (ifs : Interfaces) (pre : List Call) (pSession : PfcpSession) (env : Env)
    (post : List Call) (teid a : UInt32) : Prop where
  /-- `std::sort` sorts. -/
  sorts : StdSort.IsSort env.stdSort
  /-- The PDR with the highest precedence and its elements. -/
  pdr : ∃ pdr pFar, pSession.IsHighest pdr ∧ pdr.key = some ⟨teid, interfaceValueCore, a⟩ ∧
    pSession.farOfPdr pdr = some pFar
  /-- The call returns. -/
  returns : (Call.createBPFSession pSession env).Returns ifs (run ifs pre)
  /-- The later calls. -/
  later : ∀ c ∈ post, ¬ c.UsesCore a ∧ c ≠ .removeBPFSession pSession.seid

section CoreDeployment

variable {ifs : Interfaces} {pre post : List Call} {pSession : PfcpSession} {env : Env}
  {teid a : UInt32}

theorem CoreDeployment.extract (h : CoreDeployment ifs pre pSession env post teid a) :
    ∃ pFar, extractPipeline (sortPdrs env pSession) =
      .ok ⟨⟨teid, interfaceValueCore, a⟩, pFar⟩ := by
  obtain ⟨pdr, pFar, hp, hkey, hfar⟩ := h.pdr
  exact ⟨pFar, extractPipeline_sortPdrs h.sorts hp hkey hfar⟩

/-- None of the later calls writes a key of the address on the core side. -/
theorem CoreDeployment.along_not_writes (h : CoreDeployment ifs pre pSession env post teid a)
    (s : State) (teid' : UInt32) :
    Run.Along (step ifs)
      (fun t c => ¬ c.WritesIndex ifs t ⟨teid', interfaceValueCore, a⟩) s post := by
  rw [Run.along_iff_split]
  intro before c after e hw
  have hnot := (h.later c (by rw [e]; simp)).1
  cases c with
  | removeBPFSession seid => exact hw
  | createBPFSession pSession' env' =>
    obtain ⟨pFar, index, he, -⟩ := writesIndex_create_iff.1 hw
    exact hnot ⟨_, pFar, he, rfl, rfl⟩

/-- After the deployment, the index holds the id of the program without a TEID because the F-TEID is
zero, or because it did before. -/
theorem CoreDeployment.lookup_iff (h : CoreDeployment ifs pre pSession env post teid a) :
    (step ifs (run ifs pre) (.createBPFSession pSession env)).m_next_rule_prog_index.lookup
          ⟨0, interfaceValueCore, a⟩ = some (run ifs pre).sIdCounter ↔
      teid = 0 ∨ (run ifs pre).m_next_rule_prog_index.lookup ⟨0, interfaceValueCore, a⟩ =
        some (run ifs pre).sIdCounter := by
  obtain ⟨pFar, he⟩ := h.extract
  by_cases h0 : teid = 0
  · -- The key is the one that the call has written.
    subst h0
    obtain ⟨p, -, -, hst⟩ := stands_of_returns he h.returns
    exact iff_of_true hst.index (.inl rfl)
  · have hnot : ¬ (Call.createBPFSession pSession env).WritesIndex ifs (run ifs pre)
        ⟨0, interfaceValueCore, a⟩ := by
      rintro ⟨pFar', he', -⟩
      rw [he] at he'
      cases he'
      exact h0 rfl
    rw [lookup_step_create hnot]
    exact (or_iff_right h0).symm

end CoreDeployment

/-- A downlink session is reached by the packets for its UE exactly when its F-TEID is zero (or the
index held the id of its program without a TEID before), no later call removes that key along with
another session, and none takes the slot of the program. -/
theorem coreDeployment_reached_iff (mc_stats : McStats) {ifs : Interfaces} {pre post : List Call}
    {pSession : PfcpSession} {env : Env} {teid a : UInt32} {ctx : XdpMd}
    (h : CoreDeployment ifs pre pSession env post teid a) (hf : IsPlainUdpFrame a ctx.data) :
    (entryPoint (tailCallNextProg (run ifs (pre ++ .createBPFSession pSession env :: post)))
        mc_stats ctx).1 = .tailCall (run ifs pre).programs.length ↔
      (teid = 0 ∨ (run ifs pre).m_next_rule_prog_index.lookup ⟨0, interfaceValueCore, a⟩ =
          some (run ifs pre).sIdCounter) ∧
        Run.Along (step ifs) (fun s c => ¬ c.RemovesIndex ifs s ⟨0, interfaceValueCore, a⟩)
          (step ifs (run ifs pre) (.createBPFSession pSession env)) post ∧
        Run.Along (step ifs) (fun s c => ¬ c.TakesSlot s (idOf (run ifs pre).programs.length))
          (step ifs (run ifs pre) (.createBPFSession pSession env)) post := by
  obtain ⟨pFar, he⟩ := h.extract
  have hw := h.along_not_writes (step ifs (run ifs pre) (.createBPFSession pSession env)) 0
  -- The index and the slot, each followed from the deployment to the end of the run.
  have hindex := h.lookup_iff
  rw [(numbered_run ifs pre).counter] at hindex
  rw [entryPoint_eq_tailCall_iff (detect_of_isPlainUdpFrame hf),
    (numbered_run ifs _).tailCallNextProg_eq_some_iff, slot_iff_of_returns he h.returns,
    run_append, List.foldl_cons, lookup_foldl_eq_some_iff hw, hindex,
    (numbered_run ifs pre).counter, and_assoc]

/-- A downlink session as a session generator asks for it: PDR, FAR, and F-TEID have one number. -/
def coreSession (teid : UInt32) : PfcpSession where
  seid := 1
  pdrs := [{
    pdr_id := 101
    precedence := (true, 101)
    pdi := (true, {
      source_interface := (true, interfaceValueCore)
      local_fteid := (true, teid)
      ue_ip_address := (true, 0x0100010a) })
    far_id := (true, 101) }]
  fars := [{
    far_id := 101
    apply_action := { forw := true }
    forwarding_parameters := (true, {
      destination_interface := (true, interfaceValueAccess)
      outer_header_creation :=
        (true, ⟨outerHeaderCreationGtpuUdpIpv4, teid, 0x0100010a, 1234⟩) }) }]

/-- `pfcp_session::create` accepts it, whatever the F-TEID. -/
theorem built_coreSession (teid : UInt32) : (coreSession teid).Built := by
  have hpdr : PfcpSession.Built { coreSession teid with fars := [] } := .pdr
    { pdr_id := (true, 101)
      precedence := (true, 101)
      pdi := (true, {
        source_interface := (true, interfaceValueCore)
        local_fteid := (true, teid)
        ue_ip_address := (true, 0x0100010a) })
      far_id := (true, 101) } (.new 1) rfl
  exact .far
    { far_id := (true, 101)
      apply_action := (true, { forw := true })
      forwarding_parameters := (true, {
        destination_interface := (true, interfaceValueAccess)
        outer_header_creation :=
          (true, ⟨outerHeaderCreationGtpuUdpIpv4, teid, 0x0100010a, 1234⟩) }) } hpdr rfl

/-- The session is deployed, and nothing comes after it. -/
theorem coreDeployment_first (teid : UInt32) :
    CoreDeployment sampleInterfaces [] (coreSession teid) sampleEnv [] teid 0x0100010a where
  sorts := StdSort.isSort_insertionSort
  pdr := ⟨_, _, PfcpSession.isHighest_of_single rfl, rfl, rfl⟩
  returns := trivial
  later := by simp

/-- A packet of 28 bytes from 8.8.8.8 for the UE at 10.1.0.1. -/
def coreFrame : List UInt8 :=
  ([2, 0, 0, 0, 0, 1] ++ [2, 0, 0, 0, 0, 2] ++ be16 0x0800) ++
    ([0x45, 0] ++ be16 28 ++ [0, 0, 0, 0, 64, 17, 0, 0] ++ le32 0x08080808 ++ le32 0x0100010a) ++
    (be16 53 ++ be16 5000 ++ be16 8 ++ [0, 0])

theorem isPlainUdpFrame_coreFrame : IsPlainUdpFrame 0x0100010a coreFrame where
  length_le := by decide
  etherType := by decide
  versionIhl := by decide
  protocol := by decide
  daddr := by decide
  dest := by decide

/-- With the F-TEID zero, the packet reaches its session. -/
theorem coreDeployment_reached_iff_sample :
    (entryPoint (tailCallNextProg
        (run sampleInterfaces [.createBPFSession (coreSession 0) sampleEnv])) (fun _ => {})
      ⟨[], coreFrame⟩).1 = .tailCall 0 :=
  (coreDeployment_reached_iff (fun _ => {}) (coreDeployment_first 0)
    isPlainUdpFrame_coreFrame).2 ⟨.inl rfl, trivial, trivial⟩

/-- With the F-TEID 101, it does not. -/
theorem coreDeployment_not_reached :
    (coreSession 101).Built ∧
      CoreDeployment sampleInterfaces [] (coreSession 101) sampleEnv [] 101 0x0100010a ∧
      IsPlainUdpFrame 0x0100010a coreFrame ∧
      (entryPoint (tailCallNextProg
          (run sampleInterfaces [.createBPFSession (coreSession 101) sampleEnv])) (fun _ => {})
        ⟨[], coreFrame⟩).1 = .ret .pass :=
  ⟨built_coreSession 101, coreDeployment_first 101, isPlainUdpFrame_coreFrame, by decide⟩

/-! ## The interface that a frame comes in on -/

/-- The interfaces that `UPFProgram::setup` links `entry_point` to. -/
inductive Attachment
  /-- The interface of the data network (N6). -/
  | udpInterface
  /-- The interface of the access network (N3). -/
  | gtpInterface
  deriving DecidableEq, Repr

/-- What runs on a frame that comes in there: one program is linked to both, and it does not read
`ingress_ifindex`. -/
def entryPointOn {P : Type} (_interface : Attachment)
    (tail_call_next_prog : NextRuleProgIndexKey → Option P) (mc_stats : McStats) (ctx : XdpMd) :
    EntryExit P × McStats :=
  entryPoint tail_call_next_prog mc_stats ctx

/-- The source interface of the PDR whose program the frame is handed to is the one that it came in
on. -/
def HonoursSource (ifs : Interfaces) (calls : List Call) (interface : Attachment)
    (mc_stats : McStats) (ctx : XdpMd) : Prop :=
  ∀ ref key, (entryPointOn interface (tailCallNextProg (run ifs calls)) mc_stats ctx).1 =
      .tailCall ref → Constructs ifs calls ref key →
    (interface = .udpInterface → key.source_value ≠ interfaceValueAccess) ∧
      (interface = .gtpInterface → key.source_value ≠ interfaceValueCore)

/-- The source interface is matched with the headers of the packet: on either interface, a frame is
handed to a program of the access side only if it is a G-PDU, and to one of the core side only if
its UDP port is another one. -/
theorem source_of_headers (ifs : Interfaces) (calls : List Call)
    (hn : (run ifs calls).programs.length < 2^32 - 1) (interface : Attachment)
    (mc_stats : McStats) (ctx : XdpMd) (ref : ℕ) (key : NextRuleProgIndexKey)
    (h : (entryPointOn interface (tailCallNextProg (run ifs calls)) mc_stats ctx).1 =
      .tailCall ref)
    (hc : Constructs ifs calls ref key) :
    (key.source_value = interfaceValueAccess ∧ IsGpduAt ctx.data (ipv4Offset ctx.data)) ∨
      (key.source_value = interfaceValueCore ∧ IsPlainUdpAt ctx.data (ipv4Offset ctx.data)) := by
  rw [entryPointOn, entryPoint_fst, ethHandle_eq_tailCall_iff] at h
  obtain ⟨key', hdetect, ht⟩ := h
  rw [hc.key_eq hn ht] at hdetect
  obtain ⟨-, ⟨hg, hk⟩ | ⟨hp, hk⟩⟩ := detect_eq_tailCall_iff.1 hdetect
  · rw [hk]
    exact .inl ⟨rfl, hg⟩
  · rw [hk]
    exact .inr ⟨rfl, hp⟩

/-- The program of the sample session was constructed for its key. -/
theorem constructs_sample :
    Constructs sampleInterfaces [sampleCreate 1 100] 0 ⟨100, interfaceValueAccess, 0x0a0a0a0a⟩ :=
  ⟨[], _, _, [], sampleFar, rfl, rfl, rfl⟩

/-- A G-PDU that reaches the program of the sample session. -/
theorem source_of_headers_sample :
    IsGpduAt (tunnelFrame 0x0a0a0a0a 0x0a0a0a0a)
      (ipv4Offset (tunnelFrame 0x0a0a0a0a 0x0a0a0a0a)) := by
  rcases source_of_headers sampleInterfaces [sampleCreate 1 100] (by decide) .gtpInterface
    (fun _ => {}) ⟨[], tunnelFrame 0x0a0a0a0a 0x0a0a0a0a⟩ 0 _ (by decide) constructs_sample with
    ⟨-, h⟩ | ⟨h, -⟩
  · exact h
  · exact absurd h (by decide)

/-- The same frame, sent from the data network, is handed to the program of the access side. -/
theorem not_honoursSource_of_injected :
    ¬ HonoursSource sampleInterfaces [sampleCreate 1 100] .udpInterface (fun _ => {})
      ⟨[], tunnelFrame 0x0a0a0a0a 0x0a0a0a0a⟩ := by
  intro h
  exact (h 0 _ (by decide) constructs_sample).1 rfl rfl

end UpfBpf
