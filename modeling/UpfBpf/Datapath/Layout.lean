import UpfBpf.Datapath.Parser
import UpfBpf.Datapath.Forward

/-!
# Where the headers are

The entry program finds the headers of a frame by walking over them, and the rule program by fixed
sizes; nothing but the frame is passed from one to the other. `layoutAgrees_iff` compares the two on
every frame that is handed over: they agree exactly when the frame has no VLAN tag, since the parser
skips the four bytes of a tag and the rule program does not know about them.

The other meeting of the two programs is a frame that one user plane encapsulates and another one
receives. `looksUp_encapsulated` says that it is looked up by the TEID of the FAR exactly when the
FAR has the port of GTP-U, since the rule program writes the port of the FAR and the parser compares
with a constant.
-/

namespace UpfBpf

open Bytes

/-! ## The two programs on one frame -/

/-- The decapsulation goes by the IPv4 header at `inner`: its destination is looked up in the ARP
table, and it is the first that is kept behind the Ethernet header. -/
structure DecapsulatesAt (f : List UInt8) (inner : ℕ) : Prop where
  /-- A destination without an entry drops the frame. -/
  drops : ∀ bpf_csum_diff (m_arp_table : ArpTable) m headroom (far : PfcpFarT), far.SelectsDecap →
    m_arp_table.lookup (load32 f (inner + 16)) = none →
    (pfcpFarApply bpf_csum_diff m_arp_table m ⟨headroom, f⟩ (some far)).1 = .drop
  /-- With an entry, the packet is sent there. -/
  keeps : ∀ bpf_csum_diff (m_arp_table : ArpTable) m headroom (far : PfcpFarT) (mac : Mac),
    far.SelectsDecap → m_arp_table.lookup (load32 f (inner + 16)) = some mac →
    (pfcpFarApply bpf_csum_diff m_arp_table m ⟨headroom, f⟩ (some far)).2.data =
      (mac.bytes ++ slice f 6 8) ++ f.drop inner

/-- The encapsulation goes by the IPv4 header at `iph`: the lengths are made of its total length,
and the new headers are inserted in front of it. -/
def EncapsulatesAt (f : List UInt8) (iph : ℕ) : Prop :=
  ∀ bpf_csum_diff m_arp_table m headroom (far : PfcpFarT) (mac : Mac), far.SelectsEncap →
    Completable m_arp_table far ⟨headroom, f⟩ →
    m_arp_table.lookup far.outer_header_creation.ipv4_address = some mac →
    ∃ check, (pfcpFarApply bpf_csum_diff m_arp_table m ⟨headroom, f⟩ (some far)).2.data =
      (mac.bytes ++ slice f 6 8) ++
        outerHeaders check far (swab16 (load16 f (iph + 2))).toNat ++ f.drop iph

/-- The rule program finds the headers of the frame where the parser validated them. -/
structure LayoutAgrees (f : List UInt8) : Prop where
  /-- On the uplink, the inner IPv4 header. -/
  uplink : IsGpduAt f (ipv4Offset f) → DecapsulatesAt f (ipv4Offset f + gtpEncapsulatedSize)
  /-- On the downlink, the only one. -/
  downlink : IsPlainUdpAt f (ipv4Offset f) → EncapsulatesAt f (ipv4Offset f)

section Fixed

variable {f : List UInt8}

/-- The decapsulation goes by the header at 50. -/
theorem decapsulatesAt_fixed (h : HasInner f) :
    DecapsulatesAt f (ethLen + gtpEncapsulatedSize) where
  drops _ m_arp_table _ headroom far hs hm := by
    have hi : HasInner (⟨headroom, f⟩ : XdpMd).data := h
    exact pfcpFarApply_drop_of_selectsDecap hs hi hm
  keeps _ m_arp_table _ headroom far mac hs hm := by
    have hi : HasInner (⟨headroom, f⟩ : XdpMd).data := h
    rw [pfcpFarApply_of_selectsDecap hs hi hm,
      bpfXdpAdjustHead_updatedEthHeader mac h]
    rfl

/-- The encapsulation goes by the header at 14. -/
theorem encapsulatesAt_fixed : EncapsulatesAt f ethLen := by
  intro bpf_csum_diff m_arp_table m headroom far mac hs hc hm
  have hl : ethLen ≤ (⟨headroom, f⟩ : XdpMd).data.length := by
    have := hc.length
    omega
  rw [pfcpFarApply_of_selectsEncap hs hl,
    createOuterHeaderGtpuIpv4_eq hc.headroom hc.length hm]
  exact ⟨_, rfl⟩

/-- A table in which two addresses have the entry. -/
theorem exists_arpTable (a b : UInt32) (mac : Mac) :
    ∃ m_arp_table : ArpTable,
      m_arp_table.lookup a = some mac ∧ m_arp_table.lookup b = some mac := by
  obtain ⟨m, hm⟩ := BoundedMap.exists_update_of_size_lt (m := (BoundedMap.empty : ArpTable))
    (by decide) a mac
  have hsize : m.size < 2 := by
    have := BoundedMap.size_update_le hm
    rw [BoundedMap.size_empty] at this
    omega
  obtain ⟨m', hm'⟩ := BoundedMap.exists_update_of_size_lt hsize b mac
  refine ⟨m', ?_, BoundedMap.lookup_update_self hm'⟩
  rw [BoundedMap.lookup_update hm', BoundedMap.lookup_update_self hm, ite_self]

/-- What follows two offsets of a buffer tells them apart. -/
theorem offset_eq_of_drop_eq {i j : ℕ} (hi : i ≤ f.length) (hj : j ≤ f.length)
    (h : f.drop i = f.drop j) : i = j := by
  have hl := congrArg List.length h
  rw [List.length_drop, List.length_drop] at hl
  omega

/-- It goes by no other. -/
theorem DecapsulatesAt.offset_eq {inner : ℕ} (h : DecapsulatesAt f inner) (hf : HasInner f)
    (hl : inner ≤ f.length) : inner = ethLen + gtpEncapsulatedSize := by
  let mac : Mac := ⟨[2, 0, 0, 0, 0, 1], rfl⟩
  obtain ⟨arp, h1, h2⟩ := exists_arpTable (load32 f (inner + 16))
    (load32 f (ethLen + gtpEncapsulatedSize + 16)) mac
  have hs : coreFar.SelectsDecap := ⟨rfl, rfl, rfl⟩
  -- The table answers for both headers alike, so what is kept has to tell them apart.
  have hkept := h.keeps (fun _ => 0) arp SlotArray.empty [] coreFar mac hs h1
  rw [(decapsulatesAt_fixed hf).keeps (fun _ => 0) arp SlotArray.empty [] coreFar mac hs h2]
    at hkept
  have hle : ethLen + gtpEncapsulatedSize ≤ f.length := by
    unfold HasInner at hf
    omega
  exact (offset_eq_of_drop_eq hle hl (List.append_cancel_left hkept)).symm

theorem EncapsulatesAt.offset_eq {iph : ℕ} (h : EncapsulatesAt f iph)
    (hf : ethLen + ipLen ≤ f.length) (hl : iph ≤ f.length) : iph = ethLen := by
  let mac : Mac := ⟨[2, 0, 0, 0, 0, 1], rfl⟩
  obtain ⟨arp, hm, -⟩ := exists_arpTable accessFar.outer_header_creation.ipv4_address 0 mac
  have hs : accessFar.SelectsEncap := ⟨rfl, rfl, rfl⟩
  have hc : Completable arp accessFar ⟨List.replicate gtpEncapsulatedSize 0, f⟩ :=
    ⟨by simp, hf, by rw [hm]; simp⟩
  obtain ⟨check, e⟩ := h (fun _ => 0) arp SlotArray.empty _ accessFar mac hs hc hm
  obtain ⟨check', e'⟩ := encapsulatesAt_fixed (fun _ => 0) arp SlotArray.empty _ accessFar mac hs
    hc hm
  rw [e'] at e
  -- The headers have one length, and what follows them is the rest of the frame.
  have hdrop := List.append_inj_right e (by simp)
  exact (offset_eq_of_drop_eq (by omega) hl hdrop).symm

/-- The frames whose headers the parser found where the rule program takes them to be. -/
theorem ipv4Offset_eq_ethLen_iff : ipv4Offset f = ethLen ↔ ¬ Tagged f := by
  unfold ipv4Offset
  split_ifs with h
  · exact iff_of_false (by omega) (not_not.2 h)
  · exact iff_of_true rfl h

end Fixed

/-- On a frame that is handed over, the two programs agree on the layout exactly when the frame has
no VLAN tag. -/
theorem layoutAgrees_iff {P : Type} {tail : NextRuleProgIndexKey → Option P} {mc_stats : McStats}
    {ctx : XdpMd} {p : P} (h : (entryPoint tail mc_stats ctx).1 = .tailCall p) :
    LayoutAgrees ctx.data ↔ ¬ Tagged ctx.data := by
  rw [entryPoint_fst, ethHandle_eq_tailCall_iff] at h
  obtain ⟨key, hkey, -⟩ := h
  rw [← ipv4Offset_eq_ethLen_iff]
  have hle : ethLen ≤ ipv4Offset ctx.data := by
    unfold ipv4Offset
    split_ifs <;> omega
  obtain ⟨-, ⟨hg, -⟩ | ⟨hp, -⟩⟩ := detect_eq_tailCall_iff.1 hkey
  · -- A G-PDU: the inner header is inside the frame.
    have hinner := hg.inner_le
    have hf : HasInner ctx.data := by
      unfold HasInner
      omega
    constructor
    · intro ha
      have := (ha.uplink hg).offset_eq hf (by omega)
      omega
    · intro ho
      refine ⟨fun _ => ?_, fun hp => absurd hg.dest hp.dest⟩
      rw [ho]
      exact decapsulatesAt_fixed hf
  · have hudp := hp.udp_le
    constructor
    · intro ha
      exact (ha.downlink hp).offset_eq (by omega) (by omega)
    · intro ho
      refine ⟨fun hg => absurd hg.dest hp.dest, fun _ => ?_⟩
      rw [ho]
      exact encapsulatesAt_fixed

/-- A G-PDU with the TEID 100 for 8.8.8.8, with `tag` in front of its EtherType. -/
def taggedFrame (tag : List UInt8) : List UInt8 :=
  ([2, 0, 0, 0, 0, 1] ++ [2, 0, 0, 0, 0, 2] ++ tag ++ be16 0x0800) ++
    ([0x45, 0] ++ be16 56 ++ [0, 0, 0, 0, 64, 17, 0, 0] ++ le32 0x1b03010a ++ le32 0x0c0fa8c0) ++
    (be16 53 ++ be16 2152 ++ be16 36 ++ [0, 0]) ++
    ([0x30, 255] ++ be16 20 ++ le32 100) ++
    ([0x45, 0] ++ be16 20 ++ [0, 0, 0, 0, 64, 17, 0, 0] ++ le32 0x0a0a0a0a ++ le32 0x08080808)

/-- Without a tag. -/
theorem layoutAgrees_iff_sample : LayoutAgrees (taggedFrame []) := by
  have h : (entryPoint some (fun _ => {}) ⟨[], taggedFrame []⟩).1 =
      .tailCall ⟨100, interfaceValueAccess, 0x1b03010a⟩ := by decide
  exact (layoutAgrees_iff h).2 (by decide)

/-- With the tag of VLAN 5, the frame is handed over, and the decapsulation would keep the last four
bytes of the GTP-U header. -/
theorem not_layoutAgrees_of_tag :
    (entryPoint some (fun _ => {}) ⟨[], taggedFrame (be16 0x8100 ++ be16 5)⟩).1 =
        .tailCall ⟨100, interfaceValueAccess, 0x1b03010a⟩ ∧
      ¬ LayoutAgrees (taggedFrame (be16 0x8100 ++ be16 5)) := by
  refine ⟨by decide, fun h => ?_⟩
  have hg : IsGpduAt (taggedFrame (be16 0x8100 ++ be16 5))
      (ipv4Offset (taggedFrame (be16 0x8100 ++ be16 5))) :=
    ⟨⟨by decide, by decide⟩, by decide, by decide, by decide, by decide⟩
  have := (h.uplink hg).offset_eq (by unfold HasInner; decide) (by decide)
  exact absurd this (by decide)

/-! ## A frame that comes back -/

/-- The encapsulation succeeds: the kernel admits the shift, and the end of the function is reached.
-/
structure Encapsulates (bpf_csum_diff : List UInt8 → UInt32) (m_arp_table : ArpTable)
    (far : PfcpFarT) (ctx : XdpMd) : Prop where
  /-- There is room for the headers. -/
  shifted : (bpfXdpAdjustHead ctx (-(gtpEncapsulatedSize : ℤ))).1 = true
  /-- No early exit is taken. -/
  completed : (createOuterHeaderGtpuIpv4 bpf_csum_diff m_arp_table ctx far).1 = none

section Encapsulates

variable {bpf_csum_diff : List UInt8 → UInt32} {m_arp_table : ArpTable} {far : PfcpFarT}
  {ctx : XdpMd}

/-- The kernel admits the shift when there is that much headroom. -/
theorem le_headroom_of_shifted (h : (bpfXdpAdjustHead ctx (-(gtpEncapsulatedSize : ℤ))).1 = true) :
    gtpEncapsulatedSize ≤ ctx.headroom.length ∧
      (bpfXdpAdjustHead ctx (-(gtpEncapsulatedSize : ℤ))).2.data.length =
        gtpEncapsulatedSize + ctx.data.length := by
  have hneg : ¬ (0 : ℤ) ≤ -(gtpEncapsulatedSize : ℤ) := by decide
  have habs : (-(gtpEncapsulatedSize : ℤ)).natAbs = gtpEncapsulatedSize := rfl
  unfold bpfXdpAdjustHead at h ⊢
  dsimp only at h ⊢
  rw [if_neg hneg, habs] at h ⊢
  split_ifs at h ⊢ with hc
  rw [List.length_append, List.length_drop]
  exact ⟨hc.1, by omega⟩

/-- It succeeds exactly when it can be completed. -/
theorem encapsulates_iff :
    Encapsulates bpf_csum_diff m_arp_table far ctx ↔ Completable m_arp_table far ctx := by
  constructor
  · rintro ⟨hs, hc⟩
    obtain ⟨hh, hlen⟩ := le_headroom_of_shifted hs
    have hl : ethLen + ipLen ≤ ctx.data.length := by
      -- Otherwise the inner header is not inside the frame, and a check drops it.
      by_contra hlt
      have hshort : (bpfXdpAdjustHead ctx (-(gtpEncapsulatedSize : ℤ))).2.data.length <
          gtpEncapsulatedSize + ethLen + ipLen := by omega
      rw [createOuterHeaderGtpuIpv4_short bpf_csum_diff m_arp_table far rfl hshort] at hc
      cases hc
    refine ⟨hh, hl, fun hm => ?_⟩
    obtain ⟨unfinished, e⟩ := createOuterHeaderGtpuIpv4_lookup bpf_csum_diff m_arp_table
      far hh hl
    rw [e, hm] at hc
    cases hc
  · intro h
    obtain ⟨mac, hm⟩ := Option.ne_none_iff_exists'.1 h.arp
    have hl := h.length
    refine ⟨?_, ?_⟩
    · rw [bpfXdpAdjustHead_back ctx (by decide) h.headroom (by omega)]
    · rw [createOuterHeaderGtpuIpv4_eq h.headroom h.length hm]

end Encapsulates

/-- An untagged frame with an IPv4 packet. -/
structure IsIpv4Packet (f : List UInt8) : Prop where
  /-- The EtherType is IPv4. -/
  etherType : slice f 12 2 = be16 0x0800
  /-- The version is 4. -/
  version : (byte f 14).toNat / 2^4 = 4

/-- `entry_point` makes the tail call for the key, whatever programs there are. -/
def LooksUp (ctx : XdpMd) (key : NextRuleProgIndexKey) : Prop :=
  ∀ (P : Type) (tail : NextRuleProgIndexKey → Option P) (mc_stats : McStats),
    (entryPoint tail mc_stats ctx).1 = tailCallOrPass tail key

theorem looksUp_iff {ctx : XdpMd} {key : NextRuleProgIndexKey} :
    LooksUp ctx key ↔ detect ctx = .tailCall key := by
  constructor
  · intro h
    have := h _ some fun _ => {}
    rw [entryPoint_fst] at this
    exact this
  · intro h P tail mc_stats
    rw [entryPoint_fst, ethHandle_eq, h]
    rfl

section Recognises

variable {f : List UInt8} {check : UInt16} {far : PfcpFarT} {mac : Mac}

/-- A slice of the outer headers. -/
theorem slice_outerHeaders (check : UInt16) (mac : Mac) (far : PfcpFarT) (hf : ethLen ≤ f.length)
    (off n : ℕ) (h : off + n ≤ gtpEncapsulatedSize) :
    slice (encapsulatedFrame check mac far f) (14 + off) n =
      slice (outerHeaders check far (totLen f)) off n :=
  slice_append_add (length_newEthHeader mac hf) h

/-- A byte of the outer headers. -/
theorem byte_outerHeaders (hf : ethLen ≤ f.length) (off : ℕ) (h : off < gtpEncapsulatedSize) :
    byte (encapsulatedFrame check mac far f) (14 + off) =
      byte (outerHeaders check far (totLen f)) off := by
  have e := congrArg (byte · 0) (slice_outerHeaders check mac far hf off 1 h)
  simpa only [byte_slice Nat.zero_lt_one, add_zero] using e

/-- An encapsulated IPv4 packet is a UDP frame. -/
theorem isUdpFrame_encapsulatedFrame (hl : ethLen + ipLen ≤ f.length) (h : IsIpv4Packet f) :
    IsUdpFrame (encapsulatedFrame check mac far f) where
  length_le := by
    have hi : HasInner (encapsulatedFrame check mac far f) := hasInner_encapsulatedFrame hl
    unfold HasInner gtpEncapsulatedSize at hi
    omega
  etherType := by
    have he : slice (encapsulatedFrame check mac far f) 6 8 = slice f 6 8 :=
      slice_encapsulatedFrame (by omega)
    have hsub : ∀ g : List UInt8, slice g 12 2 = slice (slice g 6 8) 6 2 := by
      intro g
      simp [slice, List.drop_take, List.take_take]
    rw [hsub, he, ← hsub, h.etherType]
  versionIhl := byte_outerHeaders (by omega) 0 (by decide)
  protocol := byte_outerHeaders (by omega) 9 (by decide)

/-- With the port of GTP-U, it is a G-PDU with the TEID of the FAR. -/
theorem isGpduFrame_encapsulatedFrame (hl : ethLen + ipLen ≤ f.length) (h : IsIpv4Packet f)
    (hport : far.outer_header_creation.port_number = gtpUdpPort) :
    IsGpduFrame far.outer_header_creation.teid (encapsulatedFrame check mac far f) where
  toIsUdpFrame := isUdpFrame_encapsulatedFrame hl h
  dest := by
    have hf : ethLen ≤ f.length := by omega
    have e := slice_outerHeaders check mac far hf 22 2 (by decide)
    refine e.trans ?_
    show be16 far.outer_header_creation.port_number.toNat = be16 2152
    rw [hport]
    rfl
  message_type := byte_outerHeaders (by omega) 29 (by decide)
  teid := slice_outerHeaders _ _ _ (by omega) 32 4 (by decide)
  inner := hasInner_encapsulatedFrame hl
  version := by
    have e := byte_drop (encapsulatedFrame check mac far f) 50 0
    rw [drop_encapsulatedFrame (by omega), byte_drop] at e
    rw [← e]
    exact h.version

/-- With another port, it is a UDP packet to the outer address. -/
theorem isPlainUdpFrame_encapsulatedFrame (hl : ethLen + ipLen ≤ f.length) (h : IsIpv4Packet f)
    (hport : far.outer_header_creation.port_number ≠ gtpUdpPort) :
    IsPlainUdpFrame far.outer_header_creation.ipv4_address
      (encapsulatedFrame check mac far f) where
  toIsUdpFrame := isUdpFrame_encapsulatedFrame hl h
  daddr := slice_outerHeaders _ _ _ (by omega) 16 4 (by decide)
  dest := by
    have hf : ethLen ≤ f.length := by omega
    have e := slice_outerHeaders check mac far hf 22 2 (by decide)
    intro hd
    exact hport (be16_toNat_injective (e.symm.trans hd))

/-- The tunnel's source is the user plane. -/
theorem outerSaddr_encapsulatedFrame (hf : ethLen ≤ f.length) :
    outerSaddr (encapsulatedFrame check mac far f) = localIp :=
  load32_of_slice (slice_outerHeaders _ _ _ hf 12 4 (by decide))

end Recognises

section ComesBack

variable {bpf_csum_diff : List UInt8 → UInt32} {m_arp_table : ArpTable} {m : RedirectInterfaces}
  {far : PfcpFarT} {ctx : XdpMd}

/-- The frame that leaves. -/
theorem exists_encapsulatedFrame (hs : far.SelectsEncap)
    (he : Encapsulates bpf_csum_diff m_arp_table far ctx) :
    ethLen + ipLen ≤ ctx.data.length ∧ ∃ check mac,
      (pfcpFarApply bpf_csum_diff m_arp_table m ctx (some far)).2.data =
        encapsulatedFrame check mac far ctx.data := by
  have hc := encapsulates_iff.1 he
  have hl := hc.length
  obtain ⟨mac, hm⟩ := Option.ne_none_iff_exists'.1 hc.arp
  rw [pfcpFarApply_of_selectsEncap hs (by omega), createOuterHeaderGtpuIpv4_eq hc.headroom hl hm]
  exact ⟨hl, _, mac, rfl⟩

/-- With the port of GTP-U, it is looked up by the TEID of the FAR. -/
theorem looksUp_of_port_eq (hs : far.SelectsEncap)
    (he : Encapsulates bpf_csum_diff m_arp_table far ctx) (hf : IsIpv4Packet ctx.data)
    (hport : far.outer_header_creation.port_number = gtpUdpPort) :
    LooksUp (pfcpFarApply bpf_csum_diff m_arp_table m ctx (some far)).2
      ⟨far.outer_header_creation.teid, interfaceValueAccess, localIp⟩ := by
  obtain ⟨hl, check, mac, hout⟩ := exists_encapsulatedFrame (m := m) hs he
  have hg : IsGpduFrame far.outer_header_creation.teid
      (encapsulatedFrame check mac far ctx.data) := isGpduFrame_encapsulatedFrame hl hf hport
  have hsaddr : outerSaddr (encapsulatedFrame check mac far ctx.data) = localIp :=
    outerSaddr_encapsulatedFrame (by omega)
  rw [← hout] at hg hsaddr
  rw [looksUp_iff, detect_of_isGpduFrame hg, hsaddr]

/-- With another one, it is looked up by the outer address. -/
theorem looksUp_of_port_ne (hs : far.SelectsEncap)
    (he : Encapsulates bpf_csum_diff m_arp_table far ctx) (hf : IsIpv4Packet ctx.data)
    (hport : far.outer_header_creation.port_number ≠ gtpUdpPort) :
    LooksUp (pfcpFarApply bpf_csum_diff m_arp_table m ctx (some far)).2
      ⟨0, interfaceValueCore, far.outer_header_creation.ipv4_address⟩ := by
  obtain ⟨hl, check, mac, hout⟩ := exists_encapsulatedFrame (m := m) hs he
  have hp : IsPlainUdpFrame far.outer_header_creation.ipv4_address
      (encapsulatedFrame check mac far ctx.data) := isPlainUdpFrame_encapsulatedFrame hl hf hport
  rw [← hout] at hp
  rw [looksUp_iff]
  exact detect_of_isPlainUdpFrame hp

/-- A frame is looked up by one key. -/
theorem LooksUp.unique {key key' : NextRuleProgIndexKey} (h : LooksUp ctx key)
    (h' : LooksUp ctx key') : key = key' := by
  rw [looksUp_iff] at h h'
  rw [h] at h'
  exact EntryExit.tailCall.inj h'

end ComesBack

/-- What an encapsulated packet is looked up by, when it comes back to a user plane: by the TEID of
the FAR exactly if the FAR has the port of GTP-U, and as a packet for the outer address if not. -/
theorem looksUp_encapsulated {bpf_csum_diff : List UInt8 → UInt32} {m_arp_table : ArpTable}
    (m : RedirectInterfaces) {far : PfcpFarT} {ctx : XdpMd} (hs : far.SelectsEncap)
    (he : Encapsulates bpf_csum_diff m_arp_table far ctx) (hf : IsIpv4Packet ctx.data) :
    let out := (pfcpFarApply bpf_csum_diff m_arp_table m ctx (some far)).2
    ((∃ address, LooksUp out ⟨far.outer_header_creation.teid, interfaceValueAccess, address⟩) ↔
        far.outer_header_creation.port_number = gtpUdpPort) ∧
      (far.outer_header_creation.port_number = gtpUdpPort →
        LooksUp out ⟨far.outer_header_creation.teid, interfaceValueAccess, localIp⟩) ∧
      (far.outer_header_creation.port_number ≠ gtpUdpPort →
        LooksUp out ⟨0, interfaceValueCore, far.outer_header_creation.ipv4_address⟩) := by
  refine ⟨⟨?_, fun hport => ⟨_, looksUp_of_port_eq hs he hf hport⟩⟩, looksUp_of_port_eq hs he hf,
    looksUp_of_port_ne hs he hf⟩
  rintro ⟨address, h⟩
  by_contra hport
  have hkey := h.unique (looksUp_of_port_ne hs he hf hport)
  simp [interfaceValueCore, interfaceValueAccess] at hkey

/-- A minimal packet from 8.8.8.8 for 10.1.0.1. -/
def minimalFrame : List UInt8 :=
  ([2, 0, 0, 0, 0, 1] ++ [2, 0, 0, 0, 0, 2] ++ be16 0x0800) ++
    ([0x45, 0] ++ be16 20 ++ [0, 0, 0, 0, 64, 17, 0, 0] ++ le32 0x08080808 ++ le32 0x0100010a)

/-- The FAR towards 10.1.3.27, with the TEID 100 and another port. -/
def portFar (port_number : UInt16) : PfcpFarT :=
  { accessFar with
    outer_header_creation := ⟨outerHeaderCreationGtpuUdpIpv4, 100, 0x1b03010a, port_number⟩ }

theorem isIpv4Packet_minimalFrame : IsIpv4Packet minimalFrame := ⟨by decide, by decide⟩

theorem encapsulates_minimalFrame (port_number : UInt16) :
    Encapsulates (fun _ => 0) accessArp (portFar port_number)
      ⟨List.replicate 36 0, minimalFrame⟩ := by
  refine encapsulates_iff.2 ⟨by simp [gtpEncapsulatedSize, ipLen, udpLen, gtpLen], by decide, ?_⟩
  have hm : accessArp.lookup 0x1b03010a = some ⟨[2, 0, 0, 0, 0, 1], rfl⟩ := rfl
  show accessArp.lookup 0x1b03010a ≠ none
  rw [hm]
  simp

/-- With the port 2152, the packet is a G-PDU with the TEID 100. -/
theorem looksUp_encapsulated_sample :
    LooksUp (pfcpFarApply (fun _ => 0) accessArp SlotArray.empty
        ⟨List.replicate 36 0, minimalFrame⟩ (some (portFar 2152))).2
      ⟨100, interfaceValueAccess, localIp⟩ :=
  (looksUp_encapsulated SlotArray.empty ⟨rfl, rfl, rfl⟩ (encapsulates_minimalFrame 2152)
    isIpv4Packet_minimalFrame).2.1 rfl

/-- With the port 1234, it is looked up by no key of the access side. -/
theorem not_looksUp_of_port :
    (portFar 1234).SelectsEncap ∧
      Encapsulates (fun _ => 0) accessArp (portFar 1234) ⟨List.replicate 36 0, minimalFrame⟩ ∧
      IsIpv4Packet minimalFrame ∧
      ¬ ∃ address, LooksUp (pfcpFarApply (fun _ => 0) accessArp SlotArray.empty
          ⟨List.replicate 36 0, minimalFrame⟩ (some (portFar 1234))).2
        ⟨100, interfaceValueAccess, address⟩ := by
  refine ⟨⟨rfl, rfl, rfl⟩, encapsulates_minimalFrame 1234, isIpv4Packet_minimalFrame, ?_⟩
  rintro ⟨address, h⟩
  have hkey := h.unique (looksUp_of_port_ne ⟨rfl, rfl, rfl⟩ (encapsulates_minimalFrame 1234)
    isIpv4Packet_minimalFrame (by decide))
  simp [interfaceValueCore, interfaceValueAccess] at hkey

end UpfBpf
