import UpfBpf.Datapath.Layout
import UpfBpf.Editing
import UpfBpf.Traffic.EndToEnd

/-!
# The actions of a rule

What the Apply Action and the forwarding parameters of a FAR come to once `createPipeline` has
deployed it. The octet of the Apply Action arrives as it is. Of the forwarding parameters the values
arrive, and the flags do not: an element that is absent is read as the value at its place, and an
interface value of zero is `INTERFACE_VALUE_ACCESS`. The control plane's own reader,
`pfcp_session::to_string`, looks at the flags first.

`pfcp_far_apply` asks the Apply Action for FORW, and a frame that is not forwarded is passed to the
host's stack, also when the Apply Action says to drop it. A frame that is passed, by either program,
is passed as it came.
-/

namespace UpfBpf

open Bytes

/-! ## Elements that are absent -/

/-- The interface value that a redirect to the entry asks for. -/
def FlowDirection.destination : FlowDirection → UInt8
  | .DOWNLINK => interfaceValueAccess
  | .UPLINK => interfaceValueCore

/-- The description of the outer header that a redirect to the entry asks for. -/
def FlowDirection.description : FlowDirection → UInt16
  | .DOWNLINK => outerHeaderCreationGtpuUdpIpv4
  | .UPLINK => outerHeaderCreationUdpIpv4

/-- The FAR orders the forwarding, by elements that it has. -/
structure PfcpFar.Orders (pFar : PfcpFar) (destination : UInt8) (description : UInt16) : Prop where
  /-- FORW is set. -/
  forw : pFar.apply_action.forw = true
  /-- There are forwarding parameters, and in them the two elements with their values. -/
  parameters : ∃ parameters creation, Ie.get pFar.forwarding_parameters = some parameters ∧
    Ie.get parameters.destination_interface = some destination ∧
    Ie.get parameters.outer_header_creation = some creation ∧
    creation.outer_header_creation_description = description

/-- The elements of the FAR that a redirect reads are present. -/
structure PfcpFar.ElementsPresent (pFar : PfcpFar) : Prop where
  /-- The forwarding parameters. -/
  parameters : pFar.forwarding_parameters.1 = true
  /-- The Destination Interface. -/
  destination : pFar.forwarding_parameters.2.destination_interface.1 = true
  /-- The Outer Header Creation. -/
  creation : pFar.forwarding_parameters.2.outer_header_creation.1 = true

/-- The program `ref` has the actions of the FAR, and only redirects what the FAR orders, for every
frame and every ARP table. -/
structure OnlyPresentForwards (s : State) (ref : ℕ) (pFar : PfcpFar) : Prop where
  /-- The five flags are those of the FAR. -/
  actions : ∃ p far, s.programs[ref]? = some p ∧ p.far = some far ∧
    far.apply_action = pFar.apply_action
  /-- A redirect is ordered by elements that are present. -/
  redirects : ∀ bpf_csum_diff arp ctx entry,
    (runProgram bpf_csum_diff arp s ctx ref).1 = .redirect entry →
      pFar.Orders entry.destination entry.description

section Elements

variable {ifs : Interfaces} {env : Env} {s s' : State} {seid : UInt32} {key : NextRuleProgIndexKey}
  {pFar : PfcpFar} {p : FARProgram} {entry : FlowDirection}

/-- An order is a FAR that forwards, with every element present. -/
theorem PfcpFar.orders_iff {destination : UInt8} {description : UInt16} :
    pFar.Orders destination description ↔
      pFar.Forwards destination description ∧ pFar.ElementsPresent := by
  constructor
  · rintro ⟨hforw, parameters, creation, hp, hd, hc, e⟩
    obtain ⟨hp1, rfl⟩ := Ie.get_eq_some_iff.1 hp
    obtain ⟨hd1, hd2⟩ := Ie.get_eq_some_iff.1 hd
    obtain ⟨hc1, rfl⟩ := Ie.get_eq_some_iff.1 hc
    exact ⟨⟨hforw, hd2, e⟩, hp1, hd1, hc1⟩
  · rintro ⟨⟨hforw, hd, hc⟩, h⟩
    exact ⟨hforw, _, _, Ie.get_eq_some_iff.2 ⟨h.parameters, rfl⟩,
      Ie.get_eq_some_iff.2 ⟨h.destination, hd⟩, Ie.get_eq_some_iff.2 ⟨h.creation, rfl⟩, hc⟩

/-- The copy of a FAR selects an entry by its values. -/
theorem selects_farOf_iff :
    (farOf pFar).Selects entry ↔ pFar.Forwards entry.destination entry.description := by
  cases entry with
  | DOWNLINK =>
    refine ⟨fun h => ?_, fun h => h.selectsEncap⟩
    exact ⟨by rw [← farOf_apply_action]; exact h.forw, h.destination, h.description⟩
  | UPLINK =>
    refine ⟨fun h => ?_, fun h => h.selectsDecap⟩
    exact ⟨by rw [← farOf_apply_action]; exact h.forw, h.destination, h.description⟩

/-- What `createPipeline` leaves in the place of its program, whatever is called afterwards. -/
theorem program_of_createPipeline (h : createPipeline ifs env seid key pFar s = .ok () s')
    (post : List Call) :
    ∃ p : FARProgram, (post.foldl (step ifs) s').cores[s.programs.length]? = some p ∧
      p.far = some (farOf pFar) ∧ p.m_redirect_interfaces = redirectInterfaces ifs := by
  have ho := createPipeline_outcome ifs env s seid key pFar
  rw [h] at ho
  cases ho with
  | deployed index slots p hindex hslot hkernel hid hloaded hfar hm =>
    refine ⟨p.core, cores_foldl ifs post ?_, hfar, hm⟩
    rw [cores_register, cores_publish, ← length_cores, List.getElem?_concat_length]

/-- Such a program redirects a frame to an entry exactly when the values of the FAR ask for it. -/
theorem exists_redirect_iff {ifs : LinkedInterfaces} (hfar : p.far = some (farOf pFar))
    (hm : p.m_redirect_interfaces = redirectInterfaces ifs) :
    (∃ bpf_csum_diff m_arp_table ctx,
        (farEntryPoint bpf_csum_diff m_arp_table p ctx).1 = .redirect entry) ↔
      pFar.Forwards entry.destination entry.description := by
  rw [← selects_farOf_iff]
  constructor
  · rintro ⟨bpf_csum_diff, m_arp_table, ctx, hr⟩
    obtain ⟨far, hp, hs, -⟩ := selects_of_redirect hr
    rw [hfar] at hp
    cases hp
    exact hs
  · intro hs
    -- Both entries have an interface.
    obtain ⟨ifIndex, hget⟩ : ∃ ifIndex,
        p.m_redirect_interfaces.get entry.toNat = some ifIndex := by
      rw [hm]
      cases entry with
      | DOWNLINK => exact ⟨_, ifs.get_downlink⟩
      | UPLINK => exact ⟨_, ifs.get_uplink⟩
    let ctx : XdpMd := ⟨[], List.replicate 70 0⟩
    let mac : Mac := ⟨[2, 0, 0, 0, 0, 1], rfl⟩
    obtain ⟨arp, harp, -⟩ := exists_arpTable (innerDaddr ctx.data) 0 mac
    refine ⟨fun _ => 0, arp, ctx, ?_⟩
    rw [farEntryPoint, hfar]
    cases entry with
    | DOWNLINK =>
      rw [pfcpFarApply_of_selectsEncap hs (by decide)]
      exact bpfRedirectMap_eq hget
    | UPLINK =>
      have hi : HasInner ctx.data := by
        unfold HasInner
        decide
      rw [pfcpFarApply_of_selectsDecap hs hi harp]
      exact bpfRedirectMap_eq hget

end Elements

/-- A deployed FAR only redirects by elements that it has exactly when its values do not ask for a
redirect, or all three elements are present. -/
theorem onlyPresentForwards_iff {ifs : LinkedInterfaces} {env : Env} {s s' : State} {seid : UInt32}
    {key : NextRuleProgIndexKey} {pFar : PfcpFar}
    (h : createPipeline ifs env seid key pFar s = .ok () s') (post : List Call) :
    OnlyPresentForwards (post.foldl (step ifs) s') s.programs.length pFar ↔
      ∀ entry : FlowDirection, pFar.Forwards entry.destination entry.description →
        pFar.ElementsPresent := by
  obtain ⟨p, hp, hfar, hm⟩ := program_of_createPipeline h post
  have hrun : ∀ bpf_csum_diff arp ctx,
      runProgram bpf_csum_diff arp (post.foldl (step ifs) s') ctx s.programs.length =
        farEntryPoint bpf_csum_diff (arp s.programs.length) p ctx := by
    intro bpf_csum_diff arp ctx
    rw [runProgram_eq_cores, hp]
  constructor
  · -- A FAR whose values ask for a redirect redirects some frame, so the elements are there.
    intro ho entry hf
    obtain ⟨bpf_csum_diff, m_arp_table, ctx, hr⟩ := (exists_redirect_iff hfar hm).2 hf
    rw [← hrun bpf_csum_diff (fun _ => m_arp_table) ctx] at hr
    exact (PfcpFar.orders_iff.1 (ho.redirects _ _ _ _ hr)).2
  · intro hc
    refine ⟨?_, fun bpf_csum_diff arp ctx entry hr => ?_⟩
    · rw [State.cores, List.getElem?_map, Option.map_eq_some_iff] at hp
      obtain ⟨q, hq, rfl⟩ := hp
      exact ⟨q, farOf pFar, hq, hfar, farOf_apply_action pFar⟩
    · rw [hrun] at hr
      have hf := (exists_redirect_iff hfar hm).1 ⟨_, _, _, hr⟩
      exact PfcpFar.orders_iff.2 ⟨hf, hc entry hf⟩

/-- A FAR with both elements, deployed and followed by another deployment. -/
theorem onlyPresentForwards_iff_sample :
    OnlyPresentForwards ([sampleCreate 2 200].foldl (step sampleInterfaces)
        (stateAfter (createPipeline sampleInterfaces sampleEnv 1 ⟨100, 0, 0⟩ sampleFar {}))) 0
      sampleFar ↔
      ∀ entry : FlowDirection, sampleFar.Forwards entry.destination entry.description →
        sampleFar.ElementsPresent := by
  have h : createPipeline sampleInterfaces sampleEnv 1 ⟨100, 0, 0⟩ sampleFar {} =
      .ok () (stateAfter (createPipeline sampleInterfaces sampleEnv 1 ⟨100, 0, 0⟩ sampleFar {})) :=
    rfl
  exact onlyPresentForwards_iff h [sampleCreate 2 200]

/-- A session with a FAR that has no Destination Interface, and whose outer header is GTP-U. -/
def absentDestination : List Edit :=
  [.createFar {
    far_id := (true, 11)
    apply_action := (true, { forw := true })
    forwarding_parameters := (true, {
      outer_header_creation := (true, ⟨outerHeaderCreationGtpuUdpIpv4, 100, 0x1b03010a, 2152⟩) }) }]

/-- Its FAR is deployed, and a frame is redirected towards the access network. -/
theorem not_onlyPresentForwards_of_absent_destination :
    ∃ pFar ∈ (edited 1 absentDestination).fars,
      pFar.forwarding_parameters.2.destination_interface.1 = false ∧
      ∃ s', createPipeline sampleInterfaces sampleEnv 1 ⟨100, 0, 0⟩ pFar {} = .ok () s' ∧
        (runProgram (fun _ => 0) sampleArp s' ⟨[], sampleDownlinkFrame⟩ 0).1 =
          .redirect .DOWNLINK ∧
        ¬ OnlyPresentForwards s' 0 pFar := by
  refine ⟨_, List.mem_cons_self, rfl, _, rfl, rfl, fun h => ?_⟩
  have ho := h.redirects (fun _ => 0) sampleArp ⟨[], sampleDownlinkFrame⟩ .DOWNLINK rfl
  exact absurd (PfcpFar.orders_iff.1 ho).2.destination (by decide)

/-! ## Frames of a rule that drops -/

/-- The Apply Action says to drop, and not to forward. -/
structure ApplyAction.IsDrop (a : ApplyAction) : Prop where
  /-- DROP is set. -/
  drop : a.drop = true
  /-- FORW is clear. -/
  forw : a.forw = false

section Drop

variable {ctx : XdpMd}

/-- A frame that is handed to a program has an Ethernet header. -/
theorem ethLen_le_of_detect {key : NextRuleProgIndexKey} (h : detect ctx = .tailCall key) :
    ethLen ≤ ctx.data.length :=
  (detect_eq_tailCall_iff.1 h).1.length_le

end Drop

/-- A rule that says to drop passes every frame of its session to the host's stack, after any later
calls, whatever its forwarding parameters are. -/
theorem drop_rule_passes (bpf_csum_diff : List UInt8 → UInt32) (arp : ℕ → ArpTable)
    (mc_stats : McStats) {ifs : Interfaces} {s : State} {pSession : PfcpSession} {env : Env}
    {key : NextRuleProgIndexKey} {pFar : PfcpFar} (post : List Call) {ctx : XdpMd}
    (he : extractPipeline (sortPdrs env pSession) = .ok ⟨key, pFar⟩)
    (hret : (Call.createBPFSession pSession env).Returns ifs s)
    (hdrop : pFar.apply_action.IsDrop) :
    let s' := post.foldl (step ifs) (step ifs s (.createBPFSession pSession env))
    (entryPoint (tailCallNextProg s') mc_stats ctx).1 = .tailCall s.programs.length →
      processFrame bpf_csum_diff arp s' ctx mc_stats = (.pass, ctx) ∧
        ¬ (processFrame bpf_csum_diff arp s' ctx mc_stats).1 = .drop := by
  intro s' hframe
  -- The program of the session still has its FAR.
  obtain ⟨p, hp, hfar⟩ := far_of_returns he hret
  have hp' : s'.cores[s.programs.length]? = some p := cores_foldl ifs post hp
  rw [entryPoint_fst, ethHandle_eq_tailCall_iff] at hframe
  obtain ⟨key', hd, ht⟩ := hframe
  have hnot : ∀ entry, ¬ (farOf pFar).Selects entry := by
    intro entry hs
    have hforw := hs.forw
    rw [farOf_apply_action, hdrop.forw] at hforw
    cases hforw
  have hpass : processFrame bpf_csum_diff arp s' ctx mc_stats = (.pass, ctx) := by
    rw [processFrame_of_tailCall bpf_csum_diff arp s' ctx mc_stats hd ht hp', farEntryPoint, hfar]
    exact pfcpFarApply_of_not_selects hnot (ethLen_le_of_detect hd)
  refine ⟨hpass, ?_⟩
  rw [hpass]
  intro e
  cases e

/-- The sample session with a FAR that drops, and the forwarding parameters of the other one. -/
def dropSession : PfcpSession :=
  { sampleSession 1 100 with fars := [{ sampleFar with apply_action := { drop := true } }] }

/-- It is deployed, and its frame is passed to the host's stack. -/
theorem drop_rule_passes_sample :
    processFrame (fun _ => 0) sampleArp
        (run sampleInterfaces [.createBPFSession dropSession sampleEnv, sampleCreate 2 200])
        ⟨[], sampleUplinkFrame 100⟩ (fun _ => {}) = (.pass, ⟨[], sampleUplinkFrame 100⟩) := by
  have hret : (Call.createBPFSession dropSession sampleEnv).Returns sampleInterfaces {} := trivial
  exact (drop_rule_passes (fun _ => 0) sampleArp (fun _ => {}) [sampleCreate 2 200] rfl hret
    ⟨rfl, rfl⟩ (by decide)).1

/-- The entry program hands the frame to the session's program, and the frame is not dropped. -/
theorem not_drop_of_drop_rule :
    (Call.createBPFSession dropSession sampleEnv).Returns sampleInterfaces {} ∧
      (∃ key pFar, extractPipeline (sortPdrs sampleEnv dropSession) = .ok ⟨key, pFar⟩ ∧
        pFar.apply_action.IsDrop) ∧
      (entryPoint (tailCallNextProg
          (run sampleInterfaces [.createBPFSession dropSession sampleEnv])) (fun _ => {})
        ⟨[], sampleUplinkFrame 100⟩).1 = .tailCall 0 ∧
      ¬ (processFrame (fun _ => 0) sampleArp
          (run sampleInterfaces [.createBPFSession dropSession sampleEnv])
          ⟨[], sampleUplinkFrame 100⟩ fun _ => {}).1 = .drop :=
  ⟨trivial, ⟨_, _, rfl, rfl, rfl⟩, by decide, by decide⟩

/-! ## Frames that are passed -/

/-- A program that ends with `XDP_PASS` leaves the frame. -/
theorem runProgram_of_pass {bpf_csum_diff : List UInt8 → UInt32} {arp : ℕ → ArpTable} {s : State}
    {ctx : XdpMd} {ref : ℕ} (h : (runProgram bpf_csum_diff arp s ctx ref).1 = .pass) :
    (runProgram bpf_csum_diff arp s ctx ref).2 = ctx := by
  rw [runProgram] at h ⊢
  cases hp : s.programs[ref]? with
  | none => rfl
  | some p =>
    rw [hp] at h
    dsimp only [farEntryPoint] at h ⊢
    rw [pfcpFarApply_eq_of_pass h]

/-- A frame that is passed to the host's stack is the one that came, with the same headroom in front
of it and the same bytes, whatever is deployed and whichever program passed it. -/
theorem passed_untouched (bpf_csum_diff : List UInt8 → UInt32) (arp : ℕ → ArpTable) (s : State)
    (ctx : XdpMd) (mc_stats : McStats)
    (h : (processFrame bpf_csum_diff arp s ctx mc_stats).1 = .pass) :
    (processFrame bpf_csum_diff arp s ctx mc_stats).2 = ctx := by
  rw [processFrame_eq] at h ⊢
  cases hd : detect ctx with
  | ret action => rfl
  | tailCall key =>
    rw [hd] at h
    dsimp only at h ⊢
    cases ht : tailCallNextProg s key with
    | none => rfl
    | some ref =>
      rw [ht] at h
      exact runProgram_of_pass h

/-- What becomes of a frame with the TEID where the session that drops is deployed. -/
def dropSessionFrame (teid : UInt32) : Verdict × XdpMd :=
  processFrame (fun _ => 0) sampleArp
    (run sampleInterfaces [.createBPFSession dropSession sampleEnv])
    ⟨[1, 2], sampleUplinkFrame teid⟩ fun _ => {}

/-- The rule of the session passes a frame of its own, and the entry program another one. -/
theorem passed_untouched_sample :
    dropSessionFrame 100 = (.pass, ⟨[1, 2], sampleUplinkFrame 100⟩) ∧
      dropSessionFrame 200 = (.pass, ⟨[1, 2], sampleUplinkFrame 200⟩) := by
  have hrule : (dropSessionFrame 100).1 = .pass := by decide
  have hmiss : (dropSessionFrame 200).1 = .pass := by decide
  exact ⟨Prod.ext hrule (passed_untouched _ _ _ _ _ hrule),
    Prod.ext hmiss (passed_untouched _ _ _ _ _ hmiss)⟩

end UpfBpf
