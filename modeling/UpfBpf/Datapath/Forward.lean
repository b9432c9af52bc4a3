import UpfBpf.Datapath.Encap

/-!
# What a rule program does with a frame

`pfcp_far_apply` by the FAR that it is given. Two kinds of FAR send frames: those that select an
encapsulation send every frame that has an Ethernet header towards the access network, also one that
`create_outer_header_gtpu_ipv4` gave up, and those that select a decapsulation send the inner packet
towards the data network, and drop what they cannot address. Every other FAR passes the frame as it
came. The two results are when the first kind only sends complete packets, and that the second
undoes the first.
-/

namespace UpfBpf

open Bytes

/-- The FAR forwards to the access network with a GTP-U/UDP/IPv4 header. -/
structure PfcpFarT.SelectsEncap (far : PfcpFarT) : Prop where
  /-- FORW is set. -/
  forw : far.apply_action.forw = true
  /-- The destination is ACCESS. -/
  destination : far.destination_interface = interfaceValueAccess
  /-- The header is GTP-U/UDP/IPv4. -/
  description : far.outer_header_creation.outer_header_creation_description =
    outerHeaderCreationGtpuUdpIpv4

/-- The FAR forwards to the data network with UDP/IPv4. -/
structure PfcpFarT.SelectsDecap (far : PfcpFarT) : Prop where
  /-- FORW is set. -/
  forw : far.apply_action.forw = true
  /-- The destination is CORE. -/
  destination : far.destination_interface = interfaceValueCore
  /-- The header is UDP/IPv4. -/
  description : far.outer_header_creation.outer_header_creation_description =
    outerHeaderCreationUdpIpv4

section Apply

variable {bpf_csum_diff : List UInt8 → UInt32} {m_arp_table : ArpTable} {m : RedirectInterfaces}
  {ctx : XdpMd} {far : PfcpFarT} {mac : Mac} {p_far : Option PfcpFarT}

/-- A FAR that selects an encapsulation redirects, however the encapsulation ends. -/
theorem pfcpFarApply_of_selectsEncap (h : far.SelectsEncap) (hl : ethLen ≤ ctx.data.length) :
    pfcpFarApply bpf_csum_diff m_arp_table m ctx (some far) =
      (bpfRedirectMap m .DOWNLINK,
        (createOuterHeaderGtpuIpv4 bpf_csum_diff m_arp_table ctx far).2) := by
  have hc : ¬ ctx.data.length < 0 + ethLen := by omega
  have hne : ¬ interfaceValueAccess = interfaceValueCore := by decide
  rw [pfcpFarApply, if_neg hc]
  dsimp only
  rw [if_pos h.forw, h.destination, if_neg hne, if_pos rfl, if_pos h.description]

/-- The FARs that redirect to an entry. -/
def PfcpFarT.Selects (far : PfcpFarT) : FlowDirection → Prop
  | .DOWNLINK => far.SelectsEncap
  | .UPLINK => far.SelectsDecap

/-- They have FORW set. -/
theorem PfcpFarT.Selects.forw {entry : FlowDirection} (h : far.Selects entry) :
    far.apply_action.forw = true := by
  cases entry with
  | DOWNLINK => exact SelectsEncap.forw h
  | UPLINK => exact SelectsDecap.forw h

/-- A redirect to an entry comes from such a FAR. -/
theorem selects_of_redirect {entry : FlowDirection}
    (h : (pfcpFarApply bpf_csum_diff m_arp_table m ctx p_far).1 = .redirect entry) :
    ∃ far, p_far = some far ∧ far.Selects entry ∧ ethLen ≤ ctx.data.length := by
  cases p_far with
  | none =>
    simp only [pfcpFarApply, ite_self] at h
    cases h
  | some far =>
    simp only [pfcpFarApply] at h
    split_ifs at h with hl hforw hcore hudp h1 h2 haccess hgtpu
    · -- The decapsulation drops, or redirects to the UPLINK entry.
      split at h
      · cases h
      · cases bpfRedirectMap_eq_redirect h
        exact ⟨far, rfl, ⟨hforw, hcore, hudp⟩, by omega⟩
    · cases bpfRedirectMap_eq_redirect h
      exact ⟨far, rfl, ⟨hforw, haccess, hgtpu⟩, by omega⟩

/-- A FAR that selects neither entry passes every frame that has an Ethernet header, as it is. -/
theorem pfcpFarApply_of_not_selects (h : ∀ entry, ¬ far.Selects entry)
    (hl : ethLen ≤ ctx.data.length) :
    pfcpFarApply bpf_csum_diff m_arp_table m ctx (some far) = (.pass, ctx) := by
  have hc : ¬ ctx.data.length < 0 + ethLen := by omega
  rw [pfcpFarApply, if_neg hc]
  dsimp only
  -- The two branches that go on are those of the two entries.
  split_ifs with hforw hcore hudp h1 h2 haccess hgtpu
  · exact absurd ⟨hforw, hcore, hudp⟩ (h .UPLINK)
  · exact absurd ⟨hforw, hcore, hudp⟩ (h .UPLINK)
  · exact absurd ⟨hforw, hcore, hudp⟩ (h .UPLINK)
  · rfl
  · exact absurd ⟨hforw, haccess, hgtpu⟩ (h .DOWNLINK)
  · rfl
  · rfl
  · rfl

/-- A frame without an Ethernet header is not passed. -/
theorem ethLen_le_of_pass (h : (pfcpFarApply bpf_csum_diff m_arp_table m ctx p_far).1 = .pass) :
    ethLen ≤ ctx.data.length := by
  by_contra hl
  have hc : ctx.data.length < 0 + ethLen := by omega
  unfold pfcpFarApply at h
  rw [if_pos hc] at h
  cases h

/-- Nor is one whose FAR selects an entry. -/
theorem not_selects_of_pass {entry : FlowDirection}
    (h : (pfcpFarApply bpf_csum_diff m_arp_table m ctx (some far)).1 = .pass) :
    ¬ far.Selects entry := by
  intro hs
  have hl := ethLen_le_of_pass h
  cases entry with
  | DOWNLINK =>
    rw [pfcpFarApply_of_selectsEncap hs hl] at h
    exact bpfRedirectMap_ne_pass _ _ h
  | UPLINK =>
    have hc : ¬ ctx.data.length < 0 + ethLen := by omega
    rw [pfcpFarApply, if_neg hc] at h
    dsimp only at h
    rw [if_pos hs.forw, if_pos hs.destination, if_pos hs.description] at h
    -- What is left are the checks against `data_end`, and the ARP table.
    split_ifs at h
    split at h
    · cases h
    · exact bpfRedirectMap_ne_pass _ _ h

/-- The frames that a rule program passes. -/
theorem pfcpFarApply_pass_iff :
    (pfcpFarApply bpf_csum_diff m_arp_table m ctx p_far).1 = .pass ↔
      ∃ far, p_far = some far ∧ (∀ entry, ¬ far.Selects entry) ∧ ethLen ≤ ctx.data.length := by
  constructor
  · intro h
    cases p_far with
    | none =>
      simp only [pfcpFarApply, ite_self] at h
      cases h
    | some far => exact ⟨far, rfl, fun _ => not_selects_of_pass h, ethLen_le_of_pass h⟩
  · rintro ⟨far, rfl, h, hl⟩
    rw [pfcpFarApply_of_not_selects h hl]

/-- They are passed as they came: nothing is written on the way to `XDP_PASS`. -/
theorem pfcpFarApply_eq_of_pass
    (h : (pfcpFarApply bpf_csum_diff m_arp_table m ctx p_far).1 = .pass) :
    pfcpFarApply bpf_csum_diff m_arp_table m ctx p_far = (.pass, ctx) := by
  obtain ⟨far, rfl, hs, hl⟩ := pfcpFarApply_pass_iff.1 h
  exact pfcpFarApply_of_not_selects hs hl

/-- A redirect to the DOWNLINK entry comes from a FAR that selects an encapsulation. -/
theorem selectsEncap_of_redirect
    (h : (pfcpFarApply bpf_csum_diff m_arp_table m ctx p_far).1 = .redirect .DOWNLINK) :
    ∃ far, p_far = some far ∧ far.SelectsEncap ∧ ethLen ≤ ctx.data.length :=
  selects_of_redirect h

/-- A FAR that selects a decapsulation asks the ARP table for the inner destination. -/
theorem pfcpFarApply_decap (h : far.SelectsDecap) (hi : HasInner ctx.data) :
    pfcpFarApply bpf_csum_diff m_arp_table m ctx (some far) =
      match m_arp_table.lookup (innerDaddr ctx.data) with
      | none => (.drop, moveEthHeader ctx)
      | some mac => (bpfRedirectMap m .UPLINK,
          (bpfXdpAdjustHead (updatedEthHeader mac ctx) gtpEncapsulatedSize).2) := by
  have hl := load32_moveEthHeader hi
  simp only [HasInner] at hi
  -- The three checks against `data_end`.
  have h1 : ¬ ctx.data.length < 0 + ethLen := by omega
  have h2 : ¬ ctx.data.length < gtpEncapsulatedSize + ethLen := by omega
  have h3 : ¬ ctx.data.length < gtpEncapsulatedSize + ethLen + ipLen := by omega
  rw [pfcpFarApply, if_neg h1]
  dsimp only
  rw [if_pos h.forw, if_pos h.destination, if_pos h.description, if_neg h2, if_neg h3,
    updateDstMacAddress, hl]
  cases m_arp_table.lookup (innerDaddr ctx.data) <;> rfl

/-- It sends the inner packet to the next hop of its destination. -/
theorem pfcpFarApply_of_selectsDecap (h : far.SelectsDecap) (hi : HasInner ctx.data)
    (hm : m_arp_table.lookup (innerDaddr ctx.data) = some mac) :
    pfcpFarApply bpf_csum_diff m_arp_table m ctx (some far) =
      (bpfRedirectMap m .UPLINK, (bpfXdpAdjustHead (updatedEthHeader mac ctx)
        gtpEncapsulatedSize).2) := by
  rw [pfcpFarApply_decap h hi, hm]

/-- Without a next hop, it drops the frame. -/
theorem pfcpFarApply_drop_of_selectsDecap (h : far.SelectsDecap) (hi : HasInner ctx.data)
    (hm : m_arp_table.lookup (innerDaddr ctx.data) = none) :
    (pfcpFarApply bpf_csum_diff m_arp_table m ctx (some far)).1 = .drop := by
  rw [pfcpFarApply_decap h hi, hm]

end Apply

/-! ## Frames towards the access network -/

/-- The encapsulation can be completed: there is room for the headers, a packet, and a next hop. -/
structure Completable (m_arp_table : ArpTable) (far : PfcpFarT) (ctx : XdpMd) : Prop where
  /-- The kernel admits the shift. -/
  headroom : gtpEncapsulatedSize ≤ ctx.headroom.length
  /-- The frame has an Ethernet and an IPv4 header. -/
  length : ethLen + ipLen ≤ ctx.data.length
  /-- The outer address has an ARP entry. -/
  arp : m_arp_table.lookup far.outer_header_creation.ipv4_address ≠ none

/-- `out` is a complete GTP-U packet with what followed the Ethernet header of `f`. -/
def IsGtpuFrame (m_arp_table : ArpTable) (far : PfcpFarT) (f out : List UInt8) : Prop :=
  ∃ (mac : Mac) (srcType ip udp message_length : List UInt8),
    m_arp_table.lookup far.outer_header_creation.ipv4_address = some mac ∧
    srcType.length = 8 ∧ ip.length = 20 ∧ byte ip 0 = 0x45 ∧ udp.length = 8 ∧
    message_length.length = 2 ∧
    out = (mac.bytes ++ srcType) ++ ip ++ udp ++
      ([0x30, 255] ++ message_length ++ le32 far.outer_header_creation.teid) ++ f.drop 14

/-- Every frame that the program redirects towards the access network is a complete GTP-U packet,
and a frame that should be encapsulated and cannot be is dropped. -/
structure OnlySendsGtpu (bpf_csum_diff : List UInt8 → UInt32) (m_arp_table : ArpTable)
    (p : FARProgram) (ctx : XdpMd) : Prop where
  /-- What is redirected is complete. -/
  complete : (farEntryPoint bpf_csum_diff m_arp_table p ctx).1 = .redirect .DOWNLINK →
    ∃ far, p.far = some far ∧
      IsGtpuFrame m_arp_table far ctx.data (farEntryPoint bpf_csum_diff m_arp_table p ctx).2.data
  /-- What cannot be completed is dropped. -/
  drops : ∀ far, p.far = some far → far.SelectsEncap → ¬ Completable m_arp_table far ctx →
    (farEntryPoint bpf_csum_diff m_arp_table p ctx).1 = .drop

section Gtpu

variable {bpf_csum_diff : List UInt8 → UInt32} {m_arp_table : ArpTable} {ctx : XdpMd}
  {far : PfcpFarT} {p : FARProgram}

/-- A completed encapsulation is such a packet. -/
theorem isGtpuFrame_createOuterHeader (h : Completable m_arp_table far ctx) :
    IsGtpuFrame m_arp_table far ctx.data
      (createOuterHeaderGtpuIpv4 bpf_csum_diff m_arp_table ctx far).2.data := by
  obtain ⟨mac, hm⟩ := Option.ne_none_iff_exists'.1 h.arp
  have hl := h.length
  simp only [ethLen, ipLen] at hl
  rw [createOuterHeaderGtpuIpv4_eq h.headroom h.length hm]
  refine ⟨mac, slice ctx.data 6 8,
    outerIpHeader (totLen ctx.data + gtpEncapsulatedSize) (outerCheck bpf_csum_diff far ctx.data)
      far.outer_header_creation.ipv4_address,
    outerUdpHeader far.outer_header_creation.port_number (totLen ctx.data + udpLen + gtpLen),
    be16 (totLen ctx.data), hm, ?_, rfl, rfl, rfl, rfl, ?_⟩
  · rw [length_slice]
    omega
  · simp [encapsulatedFrame, gtpuHeader, gtpFlags, gtpuGPdu, ethLen]

/-- When the encapsulation is selected, a frame with an Ethernet header is never dropped. -/
theorem farEntryPoint_ne_drop (hp : p.far = some far) (h : far.SelectsEncap)
    (hl : ethLen ≤ ctx.data.length) :
    (farEntryPoint bpf_csum_diff m_arp_table p ctx).1 ≠ .drop := by
  rw [farEntryPoint, hp, pfcpFarApply_of_selectsEncap h hl]
  exact bpfRedirectMap_ne_drop _ _

/-- The program only sends complete packets exactly when every frame that has an Ethernet header can
be completed, for a FAR that selects the encapsulation. -/
theorem onlySendsGtpu_iff (bpf_csum_diff : List UInt8 → UInt32) (m_arp_table : ArpTable)
    (p : FARProgram) (ctx : XdpMd) :
    OnlySendsGtpu bpf_csum_diff m_arp_table p ctx ↔
      ∀ far, p.far = some far → far.SelectsEncap →
        ctx.data.length < ethLen ∨ Completable m_arp_table far ctx := by
  constructor
  · -- A frame that cannot be completed should be dropped, and is redirected.
    intro h far hp hs
    by_contra hn
    rw [not_or, not_lt] at hn
    exact farEntryPoint_ne_drop hp hs hn.1 (h.drops far hp hs hn.2)
  · intro h
    refine ⟨fun hr => ?_, fun far hp hs hn => ?_⟩
    · obtain ⟨far, hp, hs, hl⟩ := selectsEncap_of_redirect hr
      have hc := (h far hp hs).resolve_left (by omega)
      refine ⟨far, hp, ?_⟩
      rw [farEntryPoint, hp, pfcpFarApply_of_selectsEncap hs hl]
      exact isGtpuFrame_createOuterHeader hc
    · -- Without an Ethernet header, the first check drops the frame.
      have hlt : ctx.data.length < 0 + ethLen := by
        rw [Nat.zero_add]
        exact (h far hp hs).resolve_right hn
      rw [farEntryPoint, hp, pfcpFarApply, if_pos hlt]

end Gtpu

/-- A FAR that encapsulates towards 10.1.3.27. -/
def accessFar : PfcpFarT where
  far_id := 1
  apply_action := { forw := true }
  destination_interface := interfaceValueAccess
  outer_header_creation := ⟨outerHeaderCreationGtpuUdpIpv4, 100, 0x1b03010a, 2152⟩

/-- The next hop of 10.1.3.27. -/
def accessArp : ArpTable :=
  (BoundedMap.empty.update 0x1b03010a ⟨[2, 0, 0, 0, 0, 1], rfl⟩).getD BoundedMap.empty

/-- Nothing is known about the next hop, and a minimal packet is redirected, not dropped. -/
theorem not_onlySendsGtpu_of_arp_miss :
    ¬ OnlySendsGtpu (fun _ => 0) BoundedMap.empty
      { mId := 1, loaded := true,
        m_far := (BoundedMap.empty.update 0 accessFar).getD BoundedMap.empty,
        m_redirect_interfaces := (SlotArray.empty.set 0 (some 3)).getD SlotArray.empty }
      ⟨List.replicate 256 0, List.replicate 34 0⟩ := by
  intro h
  have hs : accessFar.SelectsEncap := ⟨rfl, rfl, rfl⟩
  have hd := h.drops accessFar rfl hs (fun hc => hc.arp rfl)
  exact farEntryPoint_ne_drop rfl hs (by decide) hd

/-! ## Decapsulation undoes encapsulation -/

section RoundTrip

variable {f : List UInt8} {check : UInt16} {far : PfcpFarT} {mac : Mac}

/-- Behind the outer headers stands what stood behind the Ethernet header. -/
theorem drop_encapsulatedFrame (hf : ethLen ≤ f.length) :
    (encapsulatedFrame check mac far f).drop 50 = f.drop ethLen := by
  have hl := length_newEthHeader mac hf
  rw [encapsulatedFrame, List.drop_left' (by simp only [List.length_append, hl]; rfl)]

/-- The source address and the EtherType stay. -/
theorem slice_encapsulatedFrame (hf : ethLen ≤ f.length) :
    slice (encapsulatedFrame check mac far f) 6 8 = slice f 6 8 := by
  have hl : (slice f 6 8).length = 8 := by
    simp only [ethLen] at hf
    rw [length_slice]
    omega
  rw [encapsulatedFrame_eq, List.append_assoc _ (outerIpHeader _ _ _),
    slice_append mac.length_eq hl]

/-- What is left of an encapsulated frame is the frame with another destination address. -/
theorem decapsulatedFrame_encapsulatedFrame (mac' : Mac) (hf : ethLen ≤ f.length) :
    decapsulatedFrame mac' (encapsulatedFrame check mac far f) = mac'.bytes ++ f.drop 6 := by
  have hd : f.drop 6 = slice f 6 8 ++ f.drop ethLen := by
    have e : f.drop ethLen = (f.drop 6).drop 8 := by rw [List.drop_drop]; rfl
    rw [slice, e, List.take_append_drop]
  rw [decapsulatedFrame, slice_encapsulatedFrame hf, drop_encapsulatedFrame hf, hd,
    List.append_assoc]

/-- The inner destination of an encapsulated frame. -/
theorem innerDaddr_encapsulatedFrame (hf : ethLen ≤ f.length) :
    innerDaddr (encapsulatedFrame check mac far f) = load32 f 30 := by
  have e := load32_drop (encapsulatedFrame check mac far f) 50 16
  rw [drop_encapsulatedFrame hf, load32_drop] at e
  exact e.symm

/-- An encapsulated packet has an inner header. -/
theorem hasInner_encapsulatedFrame (hf : ethLen + ipLen ≤ f.length) :
    HasInner (encapsulatedFrame check mac far f) := by
  have hd : ((encapsulatedFrame check mac far f).drop 50).length = (f.drop ethLen).length := by
    rw [drop_encapsulatedFrame (by omega)]
  simp only [List.length_drop, ethLen, ipLen] at hd hf
  simp only [HasInner, gtpEncapsulatedSize, ethLen, ipLen, udpLen, gtpLen]
  omega

end RoundTrip

/-- Decapsulation undoes encapsulation: a frame that a FAR of the first kind sent and one of the
second kind received is the frame that it was, with the next hop of its packet as destination. -/
theorem decapsulation_undoes_encapsulation (bpf_csum_diff : List UInt8 → UInt32)
    {arp_access arp_core : ArpTable} (m_access m_core : RedirectInterfaces) {ctx : XdpMd}
    {far_access far_core : PfcpFarT} {mac_access mac_core : Mac}
    (hl : ethLen + ipLen ≤ ctx.data.length) (hh : gtpEncapsulatedSize ≤ ctx.headroom.length)
    (ha : far_access.SelectsEncap) (hc : far_core.SelectsDecap)
    (hma : arp_access.lookup far_access.outer_header_creation.ipv4_address = some mac_access)
    (hmc : arp_core.lookup (load32 ctx.data 30) = some mac_core) :
    let sent := (pfcpFarApply bpf_csum_diff arp_access m_access ctx (some far_access)).2
    let out := (pfcpFarApply bpf_csum_diff arp_core m_core sent (some far_core)).2.data
    out.length = ctx.data.length ∧ out.drop 14 = ctx.data.drop 14 ∧
      slice out 6 6 = slice ctx.data 6 6 ∧ slice out 12 2 = slice ctx.data 12 2 ∧
      out.take 6 = mac_core.bytes := by
  intro sent out
  have hf : ethLen ≤ ctx.data.length := by omega
  have hsent : sent.data =
      encapsulatedFrame (outerCheck bpf_csum_diff far_access ctx.data) mac_access far_access
        ctx.data := by
    simp only [sent]
    rw [pfcpFarApply_of_selectsEncap ha hf, createOuterHeaderGtpuIpv4_eq hh hl hma]
  have hi : HasInner sent.data := by
    rw [hsent]
    exact hasInner_encapsulatedFrame hl
  have hout : out = mac_core.bytes ++ ctx.data.drop 6 := by
    have hm : arp_core.lookup (innerDaddr sent.data) = some mac_core := by
      rw [hsent, innerDaddr_encapsulatedFrame hf, hmc]
    simp only [out]
    rw [pfcpFarApply_of_selectsDecap hc hi hm, bpfXdpAdjustHead_updatedEthHeader mac_core hi, hsent]
    exact decapsulatedFrame_encapsulatedFrame mac_core hf
  -- From the source address on, the frame is the original one.
  have hdrop : ∀ n, out.drop (6 + n) = ctx.data.drop (6 + n) := by
    intro n
    rw [hout, ← List.drop_drop, List.drop_left' mac_core.length_eq, List.drop_drop]
  refine ⟨?_, hdrop 8, ?_, ?_, ?_⟩
  · simp only [ethLen, ipLen] at hl
    rw [hout, List.length_append, mac_core.length_eq, List.length_drop]
    omega
  · rw [slice, slice, hdrop 0]
  · rw [slice, slice, hdrop 6]
  · rw [hout, List.take_left' mac_core.length_eq]

/-- A FAR that decapsulates. -/
def coreFar : PfcpFarT where
  far_id := 2
  apply_action := { forw := true }
  destination_interface := interfaceValueCore
  outer_header_creation := ⟨outerHeaderCreationUdpIpv4, 0, 0, 0⟩

/-- The round trip of a packet of 20 bytes, with one next hop for both directions. -/
theorem decapsulation_undoes_encapsulation_minimal :
    let mac : Mac := ⟨[2, 0, 0, 0, 0, 1], rfl⟩
    let arp (address : UInt32) : ArpTable :=
      (BoundedMap.empty.update address mac).getD BoundedMap.empty
    let ctx : XdpMd := ⟨List.replicate 36 0, List.replicate 34 7⟩
    let sent := (pfcpFarApply (fun _ => 0) (arp 0x1b03010a) SlotArray.empty ctx (some accessFar)).2
    let out := (pfcpFarApply (fun _ => 0) (arp 0x07070707) SlotArray.empty sent
      (some coreFar)).2.data
    out.length = ctx.data.length ∧ out.drop 14 = ctx.data.drop 14 ∧
      slice out 6 6 = slice ctx.data 6 6 ∧ slice out 12 2 = slice ctx.data 12 2 ∧
      out.take 6 = mac.bytes :=
  decapsulation_undoes_encapsulation (fun _ => 0) SlotArray.empty SlotArray.empty (by decide)
    (by decide) ⟨rfl, rfl, rfl⟩ ⟨rfl, rfl, rfl⟩ rfl rfl

end UpfBpf
