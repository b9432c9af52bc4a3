import UpfBpf.Control.Standing
import UpfBpf.Datapath.Forward
import UpfBpf.Traffic.Frame

/-!
# End to end

The way of a packet through a session that was deployed, in both directions: from `createBPFSession`
with its PDRs and FARs, over the maps that the call filled, to the bytes that leave on the other
interface. A deployment is followed through every run of later calls that do not touch its key or
its SEID. The frames are those of any length and content that the headers allow.

Both directions hold as long as no later call takes the slot of the program (`Call.TakesSlot`). When
the counter of the ids has come round, one can, and the packets of the session are then processed by
the rules of another.
-/

namespace UpfBpf

open Bytes

/-- The FAR of the control plane forwards to the destination, with an outer header of the
description. -/
structure PfcpFar.Forwards (pFar : PfcpFar) (destination : UInt8) (description : UInt16) :
    Prop where
  /-- FORW is set. -/
  forw : pFar.apply_action.forw = true
  /-- The Destination Interface. -/
  destination : pFar.forwarding_parameters.2.destination_interface.2 = destination
  /-- The kind of header. -/
  description :
    pFar.forwarding_parameters.2.outer_header_creation.2.outer_header_creation_description =
      description

/-- The copy of such a FAR selects the decapsulation. -/
theorem PfcpFar.Forwards.selectsDecap {pFar : PfcpFar}
    (h : pFar.Forwards interfaceValueCore outerHeaderCreationUdpIpv4) :
    (farOf pFar).SelectsDecap :=
  ⟨by rw [farOf_apply_action]; exact h.forw, h.destination, h.description⟩

/-- The copy of such a FAR selects the encapsulation. -/
theorem PfcpFar.Forwards.selectsEncap {pFar : PfcpFar}
    (h : pFar.Forwards interfaceValueAccess outerHeaderCreationGtpuUdpIpv4) :
    (farOf pFar).SelectsEncap :=
  ⟨by rw [farOf_apply_action]; exact h.forw, h.destination, h.description⟩

/-! ## Uplink -/

/-- A GTP-U frame from the UE address `a` with the TEID `t` and an inner IPv4 packet. -/
structure IsUplinkFrame (t a : UInt32) (f : List UInt8) : Prop extends IsUdpFrame f where
  /-- The outer source address. -/
  saddr : slice f 26 4 = le32 a
  /-- The UDP port is that of GTP-U. -/
  dest : slice f 36 2 = be16 2152
  /-- The message is a G-PDU. -/
  message_type : byte f 43 = 255
  /-- The stored TEID. -/
  teid : slice f 46 4 = le32 t
  /-- There is an inner header. -/
  inner : 70 ≤ f.length
  /-- Its version is 4. -/
  version : (byte f 50).toNat / 2^4 = 4

/-- The key of an uplink frame. -/
theorem detect_of_isUplinkFrame {t a : UInt32} {ctx : XdpMd} (h : IsUplinkFrame t a ctx.data) :
    detect ctx = .tailCall ⟨t, interfaceValueAccess, a⟩ := by
  have hg : IsGpduFrame t ctx.data :=
    ⟨h.toIsUdpFrame, h.dest, h.message_type, h.teid, h.inner, h.version⟩
  have ha : outerSaddr ctx.data = a := load32_of_slice h.saddr
  rw [detect_of_isGpduFrame hg, ha]

section Sends

variable (bpf_csum_diff : List UInt8 → UInt32) (arp : ℕ → ArpTable) (ifs : LinkedInterfaces)
  (s : State) (ref : ℕ) (mc_stats : McStats) (ctx : XdpMd)

/-- The inner packet of the frame leaves to the data network, behind an Ethernet header to the next
hop of its destination, and without a next hop the frame is dropped. `ref` is the program of the
session. -/
structure SendsUplink : Prop where
  /-- The UPLINK entry of the program is the UDP interface. -/
  interface : ∃ p, s.cores[ref]? = some p ∧
    p.m_redirect_interfaces.get FlowDirection.UPLINK.toNat = some ifs.udpInterfaceIndex
  /-- `bpf_xdp_adjust_head` is called with a shift that the kernel admits. -/
  admitted : ∀ mac, (arp ref).lookup (innerDaddr ctx.data) = some mac →
    (bpfXdpAdjustHead (updatedEthHeader mac ctx) gtpEncapsulatedSize).1 = true
  /-- The frame is redirected to the UPLINK entry. -/
  redirect : ∀ mac, (arp ref).lookup (innerDaddr ctx.data) = some mac →
    (processFrame bpf_csum_diff arp s ctx mc_stats).1 = .redirect .UPLINK
  /-- The MAC address, the source address and EtherType of the frame, and the inner packet. -/
  bytes : ∀ mac, (arp ref).lookup (innerDaddr ctx.data) = some mac →
    (processFrame bpf_csum_diff arp s ctx mc_stats).2.data =
      mac.bytes ++ slice ctx.data 6 6 ++ slice ctx.data 12 2 ++ ctx.data.drop 50
  /-- Without a next hop, the frame is dropped. -/
  drops : (arp ref).lookup (innerDaddr ctx.data) = none →
    (processFrame bpf_csum_diff arp s ctx mc_stats).1 = .drop

variable {s ref ctx} {key : NextRuleProgIndexKey} {id : UInt32} {p : FARProgram} {far : PfcpFarT}

/-- A frame of a key that leads to a program is processed by it. -/
theorem Stands.processFrame (h : Stands s key id ref p) (hd : detect ctx = .tailCall key) :
    processFrame bpf_csum_diff arp s ctx mc_stats =
      pfcpFarApply bpf_csum_diff (arp ref) p.m_redirect_interfaces ctx p.far :=
  processFrame_of_tailCall bpf_csum_diff arp s ctx mc_stats hd h.tailCall h.program

/-- A pipeline that stands, with a FAR that decapsulates, sends uplink frames. -/
theorem Stands.sendsUplink (h : Stands s key id ref p) (hfar : p.far = some far)
    (hm : p.m_redirect_interfaces = redirectInterfaces ifs) (hd : far.SelectsDecap)
    (hkey : detect ctx = .tailCall key) (hi : HasInner ctx.data) :
    SendsUplink bpf_csum_diff arp ifs s ref mc_stats ctx := by
  have hget : p.m_redirect_interfaces.get FlowDirection.UPLINK.toNat =
      some ifs.udpInterfaceIndex := by
    rw [hm, ifs.get_uplink]
  have hp := h.processFrame bpf_csum_diff arp mc_stats hkey
  rw [hfar] at hp
  refine ⟨⟨p, h.program, hget⟩, ?_, ?_, ?_, ?_⟩
  · intro mac _
    rw [bpfXdpAdjustHead_updatedEthHeader mac hi]
  · intro mac harp
    rw [hp, pfcpFarApply_of_selectsDecap hd hi harp, bpfRedirectMap_eq hget]
  · intro mac harp
    rw [hp, pfcpFarApply_of_selectsDecap hd hi harp, bpfXdpAdjustHead_updatedEthHeader mac hi]
    dsimp only
    rw [decapsulatedFrame, slice_add _ 6 6 2, ← List.append_assoc]
  · intro harp
    rw [hp]
    exact pfcpFarApply_drop_of_selectsDecap hd hi harp

end Sends

/-- The uplink of a deployment, as long as no later call takes the slot of its program. -/
theorem uplink_end_to_end (bpf_csum_diff : List UInt8 → UInt32) (arp : ℕ → ArpTable)
    (mc_stats : McStats) {ifs : LinkedInterfaces} {pre post : List Call} {pSession : PfcpSession}
    {env : Env} {t a : UInt32} {pFar : PfcpFar} {ctx : XdpMd}
    (h : Deployment ifs pre pSession env post ⟨t, interfaceValueAccess, a⟩ pFar)
    (hfar : pFar.Forwards interfaceValueCore outerHeaderCreationUdpIpv4)
    (hslot : Run.Along (step ifs) (fun s c => ¬ c.TakesSlot s (idOf (run ifs pre).programs.length))
      (step ifs (run ifs pre) (.createBPFSession pSession env)) post)
    (hf : IsUplinkFrame t a ctx.data) :
    SendsUplink bpf_csum_diff arp ifs (run ifs (pre ++ .createBPFSession pSession env :: post))
      (run ifs pre).programs.length mc_stats ctx := by
  obtain ⟨p, hp, hm, hst⟩ := h.stands hslot
  exact hst.sendsUplink bpf_csum_diff arp ifs mc_stats hp hm hfar.selectsDecap
    (detect_of_isUplinkFrame hf) hf.inner

/-- The sample frame is one of the sample session. -/
theorem isUplinkFrame_sample : IsUplinkFrame 100 0x0a0a0a0a (sampleUplinkFrame 100) where
  length_le := by decide
  etherType := by decide
  versionIhl := by decide
  protocol := by decide
  saddr := by decide
  dest := by decide
  message_type := by decide
  teid := by decide
  inner := by decide
  version := by decide

/-- The sample session, with later calls that leave it. -/
theorem deployment_sample {post : List Call}
    (h : Run.Along (step sampleInterfaces)
      (fun s c => ¬ c.Touches sampleInterfaces s 1 ⟨100, interfaceValueAccess, 0x0a0a0a0a⟩)
      (step sampleInterfaces {} (sampleCreate 1 100)) post) :
    Deployment sampleInterfaces [] (sampleSession 1 100) sampleEnv post
      ⟨100, interfaceValueAccess, 0x0a0a0a0a⟩ sampleFar :=
  .of_single StdSort.isSort_insertionSort rfl rfl rfl trivial h

/-- The uplink of the first of two sessions. -/
theorem uplink_end_to_end_sample :
    SendsUplink (fun _ => 0) sampleArp sampleInterfaces
      (run sampleInterfaces [sampleCreate 1 100, sampleCreate 2 200]) 0 (fun _ => {})
      ⟨[], sampleUplinkFrame 100⟩ := by
  have h : Deployment sampleInterfaces [] (sampleSession 1 100) sampleEnv
      [sampleCreate 2 200] _ _ :=
    deployment_sample ⟨not_touches_create (by decide) rfl (by decide), trivial⟩
  exact uplink_end_to_end (fun _ => 0) sampleArp (fun _ => {}) h ⟨rfl, rfl, rfl⟩
    (along_not_takesSlot (numbered_run _ [sampleCreate 1 100]) (by decide) (by decide))
    isUplinkFrame_sample

/-- When the counter has come round, the frames of the session go to the host's stack. -/
theorem not_sendsUplink_of_comeRound :
    Deployment sampleInterfaces [] (sampleSession 1 100) sampleEnv comeRound
        ⟨100, interfaceValueAccess, 0x0a0a0a0a⟩ sampleFar ∧
      sampleFar.Forwards interfaceValueCore outerHeaderCreationUdpIpv4 ∧
      IsUplinkFrame 100 0x0a0a0a0a (sampleUplinkFrame 100) ∧
      ¬ SendsUplink (fun _ => 0) sampleArp sampleInterfaces
        (run sampleInterfaces ([] ++ sampleCreate 1 100 :: comeRound)) 0 (fun _ => {})
        ⟨[], sampleUplinkFrame 100⟩ := by
  refine ⟨deployment_sample (along_comeRound (by decide) (by decide)), ⟨rfl, rfl, rfl⟩,
    isUplinkFrame_sample, fun h => ?_⟩
  have hk : (run sampleInterfaces [sampleCreate 1 100]).m_next_rule_prog_index.lookup
    ⟨100, interfaceValueAccess, 0x0a0a0a0a⟩ = some 1 := by decide
  -- The key leads to the program of the last call.
  obtain ⟨ref, p, hfar, hst⟩ := stands_comeRound sampleInterfaces hk rfl (by decide) (by decide)
  have hrun := run_append sampleInterfaces [sampleCreate 1 100] comeRound
  have hr := h.redirect ⟨[2, 0, 0, 0, 0, 9], rfl⟩ rfl
  rw [List.nil_append, ← List.singleton_append, hrun,
    hst.processFrame _ _ _ (detect_of_isUplinkFrame isUplinkFrame_sample), hfar] at hr
  cases hr

/-! ## Downlink -/

/-- A UDP frame to the UE address `a`, not for GTP-U, whose packet has the total length `L`. -/
structure IsDownlinkFrame (a : UInt32) (L : ℕ) (f : List UInt8) : Prop extends IsUdpFrame f where
  /-- The destination address. -/
  daddr : slice f 30 4 = le32 a
  /-- The UDP port is another one. -/
  dest : slice f 36 2 ≠ be16 2152
  /-- The total length. -/
  tot_len : slice f 16 2 = be16 L
  /-- With the three headers, it still fits its field. -/
  fits : L + 36 < 2^16

/-- The total length as the rule program reads it. -/
theorem IsDownlinkFrame.totLen_eq {a : UInt32} {L : ℕ} {f : List UInt8}
    (h : IsDownlinkFrame a L f) :
    totLen f = L := by
  have hfits := h.fits
  rw [totLen, swab16_load16_of_slice h.tot_len, UInt16.toNat_ofNat']
  exact Nat.mod_eq_of_lt (by omega)

/-- The key of a downlink frame. -/
theorem detect_of_isDownlinkFrame {a : UInt32} {L : ℕ} {ctx : XdpMd}
    (h : IsDownlinkFrame a L ctx.data) : detect ctx = .tailCall ⟨0, interfaceValueCore, a⟩ :=
  detect_of_isPlainUdpFrame ⟨h.toIsUdpFrame, h.daddr, h.dest⟩

section Sends

variable (bpf_csum_diff : List UInt8 → UInt32) (arp : ℕ → ArpTable) (ifs : LinkedInterfaces)
  (s : State) (ref : ℕ) (mc_stats : McStats) (ctx : XdpMd) (far : PfcpFarT) (mac : Mac) (L : ℕ)

/-- The packet of the frame, of total length `L`, leaves to the access network behind an Ethernet
header to `mac` and the three headers of the FAR. `ref` is the program of the session. -/
structure SendsDownlink : Prop where
  /-- The DOWNLINK entry of the program is the GTP interface. -/
  interface : ∃ p, s.cores[ref]? = some p ∧
    p.m_redirect_interfaces.get FlowDirection.DOWNLINK.toNat = some ifs.gtpInterfaceIndex
  /-- The frame is redirected to the DOWNLINK entry. -/
  redirect : (processFrame bpf_csum_diff arp s ctx mc_stats).1 = .redirect .DOWNLINK
  /-- The MAC address, the source address and EtherType of the frame, the outer IPv4, UDP, and GTP-U
  headers, and the packet. -/
  bytes : (processFrame bpf_csum_diff arp s ctx mc_stats).2.data =
    mac.bytes ++ slice ctx.data 6 6 ++ slice ctx.data 12 2 ++
      outerIpHeader (L + 36) (outerCheck bpf_csum_diff far ctx.data)
        far.outer_header_creation.ipv4_address ++
      outerUdpHeader far.outer_header_creation.port_number (L + 16) ++
      gtpuHeader L far.outer_header_creation.teid ++ ctx.data.drop 14

variable {s ref ctx far mac L} {key : NextRuleProgIndexKey} {id a : UInt32} {p : FARProgram}

/-- A pipeline that stands, with a FAR that encapsulates, sends downlink frames. -/
theorem Stands.sendsDownlink (h : Stands s key id ref p) (hfar : p.far = some far)
    (hm : p.m_redirect_interfaces = redirectInterfaces ifs) (he : far.SelectsEncap)
    (hkey : detect ctx = .tailCall key) (hl : ethLen + ipLen ≤ ctx.data.length)
    (hL : totLen ctx.data = L) (hh : gtpEncapsulatedSize ≤ ctx.headroom.length)
    (harp : (arp ref).lookup far.outer_header_creation.ipv4_address = some mac) :
    SendsDownlink bpf_csum_diff arp ifs s ref mc_stats ctx far mac L := by
  have hget : p.m_redirect_interfaces.get FlowDirection.DOWNLINK.toNat =
      some ifs.gtpInterfaceIndex := by
    rw [hm, ifs.get_downlink]
  have hp := h.processFrame bpf_csum_diff arp mc_stats hkey
  rw [hfar, pfcpFarApply_of_selectsEncap he (by omega),
    createOuterHeaderGtpuIpv4_eq hh hl harp] at hp
  refine ⟨⟨p, h.program, hget⟩, ?_, ?_⟩
  · rw [hp, bpfRedirectMap_eq hget]
  · rw [hp]
    dsimp only
    rw [encapsulatedFrame, slice_add _ 6 6 2, hL]
    simp only [← List.append_assoc]
    rfl

end Sends

/-- The downlink of a deployment, as long as no later call takes the slot of its program. -/
theorem downlink_end_to_end (bpf_csum_diff : List UInt8 → UInt32) (arp : ℕ → ArpTable)
    (mc_stats : McStats) {ifs : LinkedInterfaces} {pre post : List Call} {pSession : PfcpSession}
    {env : Env} {a : UInt32} {L : ℕ} {pFar : PfcpFar} {mac : Mac} {ctx : XdpMd}
    (h : Deployment ifs pre pSession env post ⟨0, interfaceValueCore, a⟩ pFar)
    (hfar : pFar.Forwards interfaceValueAccess outerHeaderCreationGtpuUdpIpv4)
    (hslot : Run.Along (step ifs) (fun s c => ¬ c.TakesSlot s (idOf (run ifs pre).programs.length))
      (step ifs (run ifs pre) (.createBPFSession pSession env)) post)
    (hf : IsDownlinkFrame a L ctx.data) (hh : 36 ≤ ctx.headroom.length)
    (harp : (arp (run ifs pre).programs.length).lookup
      pFar.forwarding_parameters.2.outer_header_creation.2.ipv4_address = some mac) :
    SendsDownlink bpf_csum_diff arp ifs (run ifs (pre ++ .createBPFSession pSession env :: post))
      (run ifs pre).programs.length mc_stats ctx (farOf pFar) mac L := by
  obtain ⟨p, hp, hm, hst⟩ := h.stands hslot
  have hl : ethLen + ipLen ≤ ctx.data.length := by
    have := hf.length_le
    omega
  exact hst.sendsDownlink bpf_csum_diff arp ifs mc_stats hp hm hfar.selectsEncap
    (detect_of_isDownlinkFrame hf) hl hf.totLen_eq hh harp

/-- A FAR that forwards to the access network at 10.1.3.27. -/
def sampleAccessFar : PfcpFar where
  far_id := 11
  apply_action := { forw := true }
  forwarding_parameters := (true, {
    destination_interface := (true, interfaceValueAccess)
    outer_header_creation := (true, ⟨outerHeaderCreationGtpuUdpIpv4, 100, 0x1b03010a, 2152⟩) })

/-- A session for the downlink. -/
def sampleDownlinkSession (seid : UInt64) : PfcpSession where
  seid := seid
  pdrs := [{
    pdr_id := 11
    precedence := (true, 0)
    pdi := (true, {
      source_interface := (true, interfaceValueCore)
      local_fteid := (true, 0)
      ue_ip_address := (true, 0x0a0a0a0a) })
    far_id := (true, 11) }]
  fars := [sampleAccessFar]

/-- The call that deploys it. -/
def sampleDownlinkCreate : Call := .createBPFSession (sampleDownlinkSession 1) sampleEnv

/-- A frame from 8.8.8.8 for it, with a packet of 28 bytes. -/
def sampleDownlinkFrame : List UInt8 :=
  ([2, 0, 0, 0, 0, 1] ++ [2, 0, 0, 0, 0, 2] ++ be16 0x0800) ++
    ([0x45, 0] ++ be16 28 ++ [0, 0, 0, 0, 64, 17, 0, 0] ++ le32 0x08080808 ++ le32 0x0a0a0a0a) ++
    (be16 53 ++ be16 5000 ++ be16 8 ++ [0, 0])

/-- The sample frame is one of the sample session. -/
theorem isDownlinkFrame_sample : IsDownlinkFrame 0x0a0a0a0a 28 sampleDownlinkFrame where
  length_le := by decide
  etherType := by decide
  versionIhl := by decide
  protocol := by decide
  daddr := by decide
  dest := by decide
  tot_len := by decide
  fits := by decide

/-- The sample session, with later calls that leave it. -/
theorem deployment_downlink_sample {post : List Call}
    (h : Run.Along (step sampleInterfaces)
      (fun s c => ¬ c.Touches sampleInterfaces s 1 ⟨0, interfaceValueCore, 0x0a0a0a0a⟩)
      (step sampleInterfaces {} sampleDownlinkCreate) post) :
    Deployment sampleInterfaces [] (sampleDownlinkSession 1) sampleEnv post
      ⟨0, interfaceValueCore, 0x0a0a0a0a⟩ sampleAccessFar :=
  .of_single StdSort.isSort_insertionSort rfl rfl rfl trivial h

/-- The downlink of the first of two sessions. -/
theorem downlink_end_to_end_sample :
    SendsDownlink (fun _ => 0) (sampleArpFor 0x1b03010a) sampleInterfaces
      (run sampleInterfaces [sampleDownlinkCreate, sampleCreate 2 200]) 0 (fun _ => {})
      ⟨List.replicate 256 0, sampleDownlinkFrame⟩ (farOf sampleAccessFar) ⟨[2, 0, 0, 0, 0, 9], rfl⟩
      28 := by
  have h : Deployment sampleInterfaces [] (sampleDownlinkSession 1) sampleEnv
      [sampleCreate 2 200] _ _ :=
    deployment_downlink_sample ⟨not_touches_create (by decide) rfl (by decide), trivial⟩
  exact downlink_end_to_end (fun _ => 0) (sampleArpFor 0x1b03010a) (fun _ => {}) h ⟨rfl, rfl, rfl⟩
    (along_not_takesSlot (numbered_run _ [sampleDownlinkCreate]) (by decide) (by decide))
    isDownlinkFrame_sample (by rw [List.length_replicate]; omega) rfl

/-- When the counter has come round, the frames of the session go to the host's stack. -/
theorem not_sendsDownlink_of_comeRound :
    Deployment sampleInterfaces [] (sampleDownlinkSession 1) sampleEnv comeRound
        ⟨0, interfaceValueCore, 0x0a0a0a0a⟩ sampleAccessFar ∧
      sampleAccessFar.Forwards interfaceValueAccess outerHeaderCreationGtpuUdpIpv4 ∧
      IsDownlinkFrame 0x0a0a0a0a 28 sampleDownlinkFrame ∧
      (sampleArpFor 0x1b03010a 0).lookup 0x1b03010a = some ⟨[2, 0, 0, 0, 0, 9], rfl⟩ ∧
      ¬ SendsDownlink (fun _ => 0) (sampleArpFor 0x1b03010a) sampleInterfaces
        (run sampleInterfaces ([] ++ sampleDownlinkCreate :: comeRound)) 0 (fun _ => {})
        ⟨List.replicate 256 0, sampleDownlinkFrame⟩ (farOf sampleAccessFar)
        ⟨[2, 0, 0, 0, 0, 9], rfl⟩ 28 := by
  refine ⟨deployment_downlink_sample (along_comeRound (by decide) (by decide)), ⟨rfl, rfl, rfl⟩,
    isDownlinkFrame_sample, rfl, fun h => ?_⟩
  have hk : (run sampleInterfaces [sampleDownlinkCreate]).m_next_rule_prog_index.lookup
    ⟨0, interfaceValueCore, 0x0a0a0a0a⟩ = some 1 := by decide
  -- The key leads to the program of the last call.
  obtain ⟨ref, p, hfar, hst⟩ := stands_comeRound sampleInterfaces hk rfl (by decide) (by decide)
  have hrun := run_append sampleInterfaces [sampleDownlinkCreate] comeRound
  have hr := h.redirect
  rw [List.nil_append, ← List.singleton_append, hrun,
    hst.processFrame _ _ _ (detect_of_isDownlinkFrame isDownlinkFrame_sample), hfar] at hr
  cases hr

end UpfBpf
