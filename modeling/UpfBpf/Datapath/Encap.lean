import UpfBpf.Datapath.Far

/-!
# The frames that a rule program sends

The rule program rewrites a frame in place, over the bytes that it is about to need. Here each group
of stores is turned into the header that it leaves: `putOuterIp_eq`, `putOuterUdp_eq`, and
`putGtpu_eq` say that filling a header behind a prefix appends it to the prefix, and reads the
length of the inner packet as it was. `createOuterHeaderGtpuIpv4_eq` and
`bpfXdpAdjustHead_updatedEthHeader` put them together into the two frames that leave the user plane:
the encapsulated one on the way to the access network, and the inner packet with its Ethernet header
on the way to the data network.
-/

namespace UpfBpf

open Bytes

/-! ## The headers -/

/-- The outer IPv4 header: version 4 with five words, total length `tot_len`, no fragmentation, TTL
64, UDP, and from `LOCAL_IP` to `daddr`. -/
def outerIpHeader (tot_len : ℕ) (check : UInt16) (daddr : UInt32) : List UInt8 :=
  [0x45, 0] ++ be16 tot_len ++ ([0, 0] ++ [0x40, 0] ++ [64, ipprotoUdp]) ++ le16 check ++
    (le32 localIp ++ le32 daddr)

/-- The outer UDP header, from `GTP_UDP_PORT` and without a checksum. -/
def outerUdpHeader (dest : UInt16) (len : ℕ) : List UInt8 :=
  be16 2152 ++ be16 dest.toNat ++ be16 len ++ [0, 0]

/-- The GTP-U header of a G-PDU; the TEID is stored as it is. -/
def gtpuHeader (message_length : ℕ) (teid : UInt32) : List UInt8 :=
  [gtpFlags, gtpuGPdu] ++ be16 message_length ++ le32 teid

@[simp] theorem length_outerIpHeader (tot_len : ℕ) (check : UInt16) (daddr : UInt32) :
    (outerIpHeader tot_len check daddr).length = 20 := rfl

@[simp] theorem length_outerUdpHeader (dest : UInt16) (len : ℕ) :
    (outerUdpHeader dest len).length = 8 := rfl

@[simp] theorem length_gtpuHeader (len : ℕ) (teid : UInt32) :
    (gtpuHeader len teid).length = 8 := rfl

/-- Setting both bit fields leaves nothing of the byte that was there. -/
theorem setIhl_setVersion (b : UInt8) : setIhl (setVersion b 4) 5 = 0x45 := by
  apply UInt8.toNat_inj.mp
  have hb := b.toNat_lt
  have hv : (setVersion b 4).toNat / 2^4 = 4 := by
    rw [setVersion, UInt8.toNat_ofNat']
    omega
  rw [setIhl, hv]
  rfl

/-- What is written in front of the inner packet does not change its length field. -/
theorem innerTotLen_append_drop {p q r : List UInt8} {k : ℕ} (h : q.length = p.length + k)
    (hq : q.length ≤ 52) : innerTotLen (q ++ r.drop k) = innerTotLen (p ++ r) := by
  rw [innerTotLen, innerTotLen, load16_append_drop h hq]

/-- The outer IPv4 header behind the Ethernet header. -/
theorem putOuterIp_eq {p r : List UInt8} (far : PfcpFarT) (hp : p.length = 14) :
    putOuterIp (p ++ r) far = (p ++ outerIpHeader (innerTotLen (p ++ r) + gtpEncapsulatedSize) 0
      far.outer_header_creation.ipv4_address) ++ r.drop 20 := by
  -- The first byte is written twice.
  have e1 : ∀ b, store (p ++ r) 14 [b] = (p ++ [b]) ++ r.drop 1 := fun b => store_append hp
  have e2 : ∀ b c, store ((p ++ [b]) ++ r.drop 1) 14 [c] = (p ++ [c]) ++ r.drop 1 := by
    intro b c
    rw [List.append_assoc, store_append hp]
    rfl
  have eb : ∀ b, byte ((p ++ [b]) ++ r.drop 1) 14 = b := by
    intro b
    rw [List.append_assoc, byte_append_right (by omega), hp]
    rfl
  have e3 : ∀ b, store ((p ++ [b]) ++ r.drop 1) 15 [0] = (p ++ [b, 0]) ++ r.drop 2 := by
    intro b
    rw [store_append_drop 1 (by simp [hp])]
    simp
  have el : innerTotLen ((p ++ [0x45, 0]) ++ r.drop 2) = innerTotLen (p ++ r) :=
    innerTotLen_append_drop (by simp) (by simp [hp])
  simp only [putOuterIp, e1, e2, eb, setIhl_setVersion, e3, el, le16_swab16]
  rw [store_append_drop 2 (by simp [hp]), store_append_drop _ (by simp [hp]),
    store_append_drop _ (by simp [hp]), store_append_drop _ (by simp [hp]),
    store_append_drop _ (by simp [hp]), store_append_drop _ (by simp [hp]),
    store_append_drop _ (by simp [hp]), store_append_drop _ (by simp [hp])]
  simp [outerIpHeader, le16]

/-- The outer UDP header behind the IPv4 header. -/
theorem putOuterUdp_eq {p r : List UInt8} (far : PfcpFarT) (hp : p.length = 34) :
    putOuterUdp (p ++ r) far = (p ++ outerUdpHeader far.outer_header_creation.port_number
      (innerTotLen (p ++ r) + udpLen + gtpLen)) ++ r.drop 8 := by
  -- The two ports, before the length is read from the inner packet.
  have e1 : store (store (p ++ r) 34 (le16 (swab16 gtpUdpPort))) 36
      (le16 (swab16 far.outer_header_creation.port_number)) =
        (p ++ (be16 2152 ++ be16 far.outer_header_creation.port_number.toNat)) ++ r.drop 4 := by
    rw [store_append hp, store_append_drop _ (by simp [hp]), ← UInt16.ofNat_toNat (x :=
      far.outer_header_creation.port_number), le16_swab16]
    simp [gtpUdpPort, ← le16_swab16]
  have el : innerTotLen ((p ++ (be16 2152 ++ be16 far.outer_header_creation.port_number.toNat)) ++
      r.drop 4) = innerTotLen (p ++ r) :=
    innerTotLen_append_drop (by simp) (by simp [hp])
  simp only [putOuterUdp, e1, el, le16_swab16]
  rw [store_append_drop 4 (by simp [hp]), store_append_drop _ (by simp [hp])]
  simp [outerUdpHeader, le16]

/-- The GTP-U header behind the UDP header. -/
theorem putGtpu_eq {p r : List UInt8} (far : PfcpFarT) (hp : p.length = 42) :
    putGtpu (p ++ r) far = (p ++ gtpuHeader (innerTotLen (p ++ r))
      far.outer_header_creation.teid) ++ r.drop 8 := by
  -- The flags and the type, before the length is copied.
  have e1 : store (store (p ++ r) 42 [gtpFlags]) 43 [gtpuGPdu] =
      (p ++ [gtpFlags, gtpuGPdu]) ++ r.drop 2 := by
    rw [store_append hp, store_append_drop _ (by simp [hp])]
    simp
  have el : load16 ((p ++ [gtpFlags, gtpuGPdu]) ++ r.drop 2) 52 = load16 (p ++ r) 52 :=
    load16_append_drop (by simp) (by simp [hp])
  simp only [putGtpu, e1, el, le16_eq_be16]
  rw [store_append_drop 2 (by simp [hp]), store_append_drop _ (by simp [hp])]
  simp [gtpuHeader, innerTotLen]

/-! ## Encapsulation -/

/-- The three headers that an encapsulation puts in front of a packet of `tot_len` bytes. -/
def outerHeaders (check : UInt16) (far : PfcpFarT) (tot_len : ℕ) : List UInt8 :=
  outerIpHeader (tot_len + gtpEncapsulatedSize) check far.outer_header_creation.ipv4_address ++
    outerUdpHeader far.outer_header_creation.port_number (tot_len + udpLen + gtpLen) ++
    gtpuHeader tot_len far.outer_header_creation.teid

@[simp] theorem length_outerHeaders (check : UInt16) (far : PfcpFarT) (tot_len : ℕ) :
    (outerHeaders check far tot_len).length = gtpEncapsulatedSize := rfl

/-- The total length that the packet of the frame `f` claims. -/
def totLen (f : List UInt8) : ℕ := (swab16 (load16 f 16)).toNat

/-- The frame `f` with the Ethernet header addressed to `mac` and the three headers of `far` in
front of its packet. -/
def encapsulatedFrame (check : UInt16) (mac : Mac) (far : PfcpFarT) (f : List UInt8) : List UInt8 :=
  (mac.bytes ++ slice f 6 8) ++
    (outerIpHeader (totLen f + gtpEncapsulatedSize) check far.outer_header_creation.ipv4_address ++
      outerUdpHeader far.outer_header_creation.port_number (totLen f + udpLen + gtpLen) ++
      gtpuHeader (totLen f) far.outer_header_creation.teid) ++ f.drop ethLen

/-- The checksum that is stored in the outer IPv4 header. -/
def outerCheck (bpf_csum_diff : List UInt8 → UInt32) (far : PfcpFarT) (f : List UInt8) : UInt16 :=
  pcnCsumReplaceByDiff 0 (bpf_csum_diff (outerIpHeader (totLen f + gtpEncapsulatedSize) 0
    far.outer_header_creation.ipv4_address))

/-- The checksum replaces the zero in the header, and nothing else. -/
theorem pcnL3CsumReplace_outerIpHeader {p q headroom : List UInt8} (tot_len : ℕ)
    (daddr l3sum : UInt32) (hp : p.length = 14) :
    pcnL3CsumReplace ⟨headroom, p ++ outerIpHeader tot_len 0 daddr ++ q⟩ 24 0 l3sum 0 =
      (0, ⟨headroom, p ++ outerIpHeader tot_len (pcnCsumReplaceByDiff 0 l3sum) daddr ++ q⟩) := by
  -- The ten bytes in front of the field, and the eight behind it.
  generalize ha : p ++ ([0x45, 0] ++ be16 tot_len ++ ([0, 0] ++ [0x40, 0] ++ [64, ipprotoUdp])) = a
  generalize hb : le32 localIp ++ le32 daddr = b
  have hal : a.length = 24 := by simp [← ha, hp]
  have hh : ∀ c, p ++ outerIpHeader tot_len c daddr ++ q = a ++ (le16 c ++ (b ++ q)) := by
    intro c
    simp [outerIpHeader, ← ha, ← hb]
  have hl : load16 (a ++ (le16 0 ++ (b ++ q))) 24 = 0 := by
    rw [load16_append_right (by omega), hal, load16_le16]
  have hs : ∀ c, store (a ++ (le16 0 ++ (b ++ q))) 24 (le16 c) = a ++ (le16 c ++ (b ++ q)) := by
    intro c
    rw [store_append hal, List.append_assoc]
    rfl
  have hlen : ¬ (a ++ (le16 0 ++ (b ++ q))).length < 24 + 2 := by simp [hal]; omega
  rw [hh, hh, pcnL3CsumReplace]
  simp only [hlen, hl, hs]
  simp

/-- The source address and the EtherType are the Ethernet header from offset 6 on. -/
theorem slice_srcType (f : List UInt8) : slice f 6 8 = (f.take ethLen).drop 6 := by
  rw [slice, List.drop_take]
  rfl

/-- The new Ethernet header. -/
theorem length_newEthHeader {f : List UInt8} (mac : Mac) (hf : ethLen ≤ f.length) :
    (mac.bytes ++ slice f 6 8).length = 14 := by
  simp only [ethLen] at hf
  simp only [List.length_append, mac.length_eq, length_slice]
  omega

/-- The encapsulated frame around its outer IPv4 header. -/
theorem encapsulatedFrame_eq (check : UInt16) (mac : Mac) (far : PfcpFarT) (f : List UInt8) :
    encapsulatedFrame check mac far f = (mac.bytes ++ slice f 6 8) ++
      outerIpHeader (totLen f + gtpEncapsulatedSize) check far.outer_header_creation.ipv4_address ++
      (outerUdpHeader far.outer_header_creation.port_number (totLen f + udpLen + gtpLen) ++
        gtpuHeader (totLen f) far.outer_header_creation.teid ++ f.drop ethLen) := by
  simp [encapsulatedFrame]

section Stages

variable {p r : List UInt8} (far : PfcpFarT)

/-- The IPv4 and UDP headers behind the Ethernet header `p`. -/
theorem putOuterUdp_putOuterIp (hp : p.length = ethLen) :
    putOuterUdp (putOuterIp (p ++ r) far) far =
      (p ++ (outerIpHeader (innerTotLen (p ++ r) + gtpEncapsulatedSize) 0
          far.outer_header_creation.ipv4_address ++
        outerUdpHeader far.outer_header_creation.port_number
          (innerTotLen (p ++ r) + udpLen + gtpLen))) ++ r.drop (ipLen + udpLen) := by
  have hp' : p.length = 14 := hp
  have hq : ∀ (t : ℕ) (a : UInt32), (p ++ outerIpHeader t 0 a).length = 34 := by simp [hp']
  rw [putOuterIp_eq far hp, putOuterUdp_eq far (hq _ _),
    innerTotLen_append_drop (p := p) (by rw [hq, hp']) (by rw [hq]; decide), List.drop_drop,
    List.append_assoc p]
  rfl

/-- The destination that the ARP table is asked for. -/
theorem load32_outerIpHeader {q : List UInt8} (tot_len : ℕ) (check : UInt16) (daddr : UInt32)
    (hp : p.length = ethLen) :
    load32 (p ++ (outerIpHeader tot_len check daddr ++ q)) 30 = daddr := by
  rw [outerIpHeader, load32_append_right (by rw [hp]; decide), hp, ← List.append_assoc,
    List.append_assoc, load32_append_right (by simp [ethLen])]
  exact load32_le32 daddr q

/-- The destination address and the GTP-U header, around the headers `q` between them. -/
theorem putGtpu_store {q : List UInt8} (mac : Mac) (hp : p.length = ethLen)
    (hq : q.length = ipLen + udpLen) :
    putGtpu (store ((p ++ q) ++ r.drop (ipLen + udpLen)) 0 mac.bytes) far =
      (mac.bytes ++ p.drop 6) ++ (q ++ gtpuHeader (innerTotLen (p ++ r))
        far.outer_header_creation.teid) ++ r.drop gtpEncapsulatedSize := by
  simp only [ethLen, ipLen, udpLen] at hp hq ⊢
  have hm := mac.length_eq
  -- The MAC address replaces the first six bytes of the Ethernet header.
  have hs : store ((p ++ q) ++ r.drop (20 + 8)) 0 mac.bytes =
      ((mac.bytes ++ p.drop 6) ++ q) ++ r.drop (20 + 8) := by
    rw [store_zero, hm, List.append_assoc p, List.drop_append_of_le_length (by omega)]
    simp
  have hl : ((mac.bytes ++ p.drop 6) ++ q).length = 42 := by simp [hm, hp, hq]
  rw [hs, putGtpu_eq far hl, innerTotLen_append_drop (p := p) (by rw [hl, hp]) (by rw [hl]; decide),
    List.drop_drop, List.append_assoc (mac.bytes ++ p.drop 6)]
  rfl

end Stages

/-- What the encapsulation makes of the frame `d` that it finds after moving `data`: the Ethernet
header comes from 36, addressed to `mac`, and the packet at 50 is left where it is. -/
def writtenFrame (check : UInt16) (mac : Mac) (far : PfcpFarT) (d : List UInt8) : List UInt8 :=
  (mac.bytes ++ slice d 42 8) ++ outerHeaders check far (innerTotLen d) ++ d.drop 50

/-- The checksum of an outer IPv4 header for a packet of `tot_len` bytes. -/
def checkOf (bpf_csum_diff : List UInt8 → UInt32) (far : PfcpFarT) (tot_len : ℕ) : UInt16 :=
  pcnCsumReplaceByDiff 0 (bpf_csum_diff (outerIpHeader (tot_len + gtpEncapsulatedSize) 0
    far.outer_header_creation.ipv4_address))

/-- The Ethernet header of a written frame. -/
theorem length_writtenEthHeader {d : List UInt8} (mac : Mac)
    (hd : gtpEncapsulatedSize + ethLen ≤ d.length) : (mac.bytes ++ slice d 42 8).length = 14 := by
  simp only [gtpEncapsulatedSize, ethLen, ipLen, udpLen, gtpLen] at hd
  simp only [List.length_append, mac.length_eq, length_slice]
  omega

/-- The last two steps: the checksum over the header as it stands, and its replacement. -/
theorem pcnL3CsumReplace_writtenFrame (bpf_csum_diff : List UInt8 → UInt32) (mac : Mac)
    (far : PfcpFarT) (headroom : List UInt8) {d : List UInt8}
    (hd : gtpEncapsulatedSize + ethLen ≤ d.length) :
    (pcnL3CsumReplace ⟨headroom, writtenFrame 0 mac far d⟩ 24 0
      (bpf_csum_diff (slice (writtenFrame 0 mac far d) 14 ipLen)) 0).2 =
        ⟨headroom, writtenFrame (checkOf bpf_csum_diff far (innerTotLen d)) mac far d⟩ := by
  have hml := length_writtenEthHeader mac hd
  have heq : ∀ check, writtenFrame check mac far d = (mac.bytes ++ slice d 42 8) ++
      outerIpHeader (innerTotLen d + gtpEncapsulatedSize) check
        far.outer_header_creation.ipv4_address ++
      (outerUdpHeader far.outer_header_creation.port_number (innerTotLen d + udpLen + gtpLen) ++
        gtpuHeader (innerTotLen d) far.outer_header_creation.teid ++ d.drop 50) := by
    intro check
    simp [writtenFrame, outerHeaders]
  rw [heq, slice_append (n := ipLen) hml (length_outerIpHeader _ _ _),
    pcnL3CsumReplace_outerIpHeader _ _ _ hml, heq]
  rfl

/-- Once `data` is moved, or not moved because the kernel refuses, a frame with an IPv4 header at 50
is encapsulated when the outer address has an ARP entry, and left off when it has none. -/
theorem createOuterHeaderGtpuIpv4_shifted (bpf_csum_diff : List UInt8 → UInt32)
    (m_arp_table : ArpTable) {ctx : XdpMd} {headroom d : List UInt8} (far : PfcpFarT)
    (hadj : (bpfXdpAdjustHead ctx (-(gtpEncapsulatedSize : ℤ))).2 = ⟨headroom, d⟩)
    (hl : gtpEncapsulatedSize + ethLen + ipLen ≤ d.length) :
    ∃ unfinished, createOuterHeaderGtpuIpv4 bpf_csum_diff m_arp_table ctx far =
      match m_arp_table.lookup far.outer_header_creation.ipv4_address with
      | none => (some .drop, unfinished)
      | some mac => (none, ⟨headroom,
          writtenFrame (checkOf bpf_csum_diff far (innerTotLen d)) mac far d⟩) := by
  -- The Ethernet header `p` is moved to the front, and the rest of the frame is `r`.
  have hpl : (slice d gtpEncapsulatedSize ethLen).length = ethLen := by
    rw [length_slice]
    omega
  have hfront : store d 0 (slice d gtpEncapsulatedSize ethLen) =
      slice d gtpEncapsulatedSize ethLen ++ d.drop ethLen := by
    rw [store_zero, hpl]
  have hsrc : slice d 42 8 = (slice d gtpEncapsulatedSize ethLen).drop 6 := by
    rw [slice, slice, List.drop_take, List.drop_drop]
    rfl
  generalize hp : slice d gtpEncapsulatedSize ethLen = p at hpl hfront hsrc
  have htot : innerTotLen (p ++ d.drop ethLen) = innerTotLen d := by
    rw [innerTotLen, innerTotLen, load16_append_right (by rw [hpl]; decide), load16_drop, hpl]
    rfl
  have htail : (d.drop ethLen).drop gtpEncapsulatedSize = d.drop 50 := by
    rw [List.drop_drop]
    rfl
  generalize d.drop ethLen = r at hfront htot htail
  -- No check against `data_end` fails.
  have hc : ∀ n, n ≤ gtpEncapsulatedSize + (ethLen + ipLen) → ¬ d.length < n := by
    intro n hn
    omega
  simp only [createOuterHeaderGtpuIpv4, hadj, hp, hfront, putOuterUdp_putOuterIp far hpl, htot,
    if_neg (hc (0 + ethLen) (by decide)), if_neg (hc (gtpEncapsulatedSize + ethLen) (by decide)),
    if_neg (hc (14 + ipLen) (by decide)), if_neg (hc (34 + udpLen) (by decide)),
    if_neg (hc (14 + gtpEncapsulatedSize + ipLen) (by decide)),
    if_neg (hc (42 + gtpLen) (by decide))]
  have hdst : ∀ (t : ℕ) (a : UInt32) (q s : List UInt8),
      load32 (p ++ (outerIpHeader t 0 a ++ q) ++ s) 30 = a := by
    intro t a q s
    rw [List.append_assoc, List.append_assoc, load32_outerIpHeader _ _ _ hpl]
  simp only [hdst]
  cases m_arp_table.lookup far.outer_header_creation.ipv4_address with
  | none => exact ⟨_, rfl⟩
  | some mac =>
    refine ⟨ctx, ?_⟩
    dsimp only
    rw [putGtpu_store far mac hpl (by simp [ipLen, udpLen]), htot, htail, ← hsrc]
    exact congrArg _ (pcnL3CsumReplace_writtenFrame bpf_csum_diff mac far headroom (by omega))

/-- A frame that is too short for an IPv4 header at 50 is dropped, as far as the function goes. -/
theorem createOuterHeaderGtpuIpv4_short (bpf_csum_diff : List UInt8 → UInt32)
    (m_arp_table : ArpTable) {ctx : XdpMd} {headroom d : List UInt8} (far : PfcpFarT)
    (hadj : (bpfXdpAdjustHead ctx (-(gtpEncapsulatedSize : ℤ))).2 = ⟨headroom, d⟩)
    (hl : d.length < gtpEncapsulatedSize + ethLen + ipLen) :
    (createOuterHeaderGtpuIpv4 bpf_csum_diff m_arp_table ctx far).1 = some .drop := by
  have heth : ethLen = 14 := rfl
  unfold createOuterHeaderGtpuIpv4
  rw [hadj]
  dsimp only
  -- The first four checks end the function; behind them the header would be there.
  split_ifs <;> first | rfl | omega

/-- With headroom and a packet, the encapsulation is completed when the outer address has an ARP
entry, and is left off when it has none. -/
theorem createOuterHeaderGtpuIpv4_lookup (bpf_csum_diff : List UInt8 → UInt32)
    (m_arp_table : ArpTable) {ctx : XdpMd} (far : PfcpFarT)
    (hh : gtpEncapsulatedSize ≤ ctx.headroom.length) (hl : ethLen + ipLen ≤ ctx.data.length) :
    ∃ unfinished, createOuterHeaderGtpuIpv4 bpf_csum_diff m_arp_table ctx far =
      match m_arp_table.lookup far.outer_header_creation.ipv4_address with
      | none => (some .drop, unfinished)
      | some mac => (none, ⟨ctx.headroom.take (ctx.headroom.length - gtpEncapsulatedSize),
          encapsulatedFrame (outerCheck bpf_csum_diff far ctx.data) mac far ctx.data⟩) := by
  obtain ⟨headroom, f⟩ := ctx
  dsimp only at hh hl ⊢
  have hf : ethLen ≤ f.length := by omega
  have hadj := bpfXdpAdjustHead_back ⟨headroom, f⟩ (by decide) hh hf
  have hhl : (headroom.drop (headroom.length - gtpEncapsulatedSize)).length =
      gtpEncapsulatedSize := by
    rw [List.length_drop]; omega
  dsimp only at hadj
  generalize headroom.drop (headroom.length - gtpEncapsulatedSize) = h at hadj hhl
  -- What is read behind the headroom that was taken is read from the frame.
  have htot : innerTotLen (h ++ f) = totLen f := by
    rw [innerTotLen, totLen, load16_append_right (by rw [hhl]; decide), hhl]
    rfl
  have hdrop : ∀ n, (h ++ f).drop (gtpEncapsulatedSize + n) = f.drop n := by
    intro n
    rw [← List.drop_drop, List.drop_left' hhl]
  have hsrc : slice (h ++ f) 42 8 = slice f 6 8 := congrArg (List.take 8) (hdrop 6)
  obtain ⟨unfinished, e⟩ := createOuterHeaderGtpuIpv4_shifted bpf_csum_diff m_arp_table far
    (congrArg Prod.snd hadj) (by rw [List.length_append, hhl]; omega)
  refine ⟨unfinished, ?_⟩
  rw [e]
  cases m_arp_table.lookup far.outer_header_creation.ipv4_address with
  | none => rfl
  | some mac =>
    dsimp only
    rw [writtenFrame, htot, hsrc]
    exact congrArg (fun tail => (none, (⟨_, _ ++ tail⟩ : XdpMd))) (hdrop ethLen)

/-- With headroom, a packet, and an ARP entry, the encapsulation is completed. -/
theorem createOuterHeaderGtpuIpv4_eq {bpf_csum_diff : List UInt8 → UInt32} {m_arp_table : ArpTable}
    {ctx : XdpMd} {far : PfcpFarT} {mac : Mac}
    (hh : gtpEncapsulatedSize ≤ ctx.headroom.length) (hl : ethLen + ipLen ≤ ctx.data.length)
    (hm : m_arp_table.lookup far.outer_header_creation.ipv4_address = some mac) :
    createOuterHeaderGtpuIpv4 bpf_csum_diff m_arp_table ctx far =
      (none, ⟨ctx.headroom.take (ctx.headroom.length - gtpEncapsulatedSize),
        encapsulatedFrame (outerCheck bpf_csum_diff far ctx.data) mac far ctx.data⟩) := by
  obtain ⟨unfinished, h⟩ := createOuterHeaderGtpuIpv4_lookup bpf_csum_diff m_arp_table far
    hh hl
  rw [h, hm]

/-! ## Decapsulation -/

section Decap

variable {m_arp_table : ArpTable} {ctx : XdpMd}

/-- A frame with an outer header and an inner IPv4 header. -/
def HasInner (d : List UInt8) : Prop := gtpEncapsulatedSize + ethLen + ipLen ≤ d.length

/-- Moving the Ethernet header leaves the inner packet. -/
theorem drop_moveEthHeader (h : HasInner ctx.data) :
    (moveEthHeader ctx).data.drop gtpEncapsulatedSize =
      ctx.data.take ethLen ++ ctx.data.drop 50 := by
  simp only [HasInner, gtpEncapsulatedSize, ethLen, ipLen, udpLen, gtpLen] at h
  have hs : slice ctx.data 0 ethLen = ctx.data.take ethLen := by rw [slice, List.drop_zero]
  have hl : (ctx.data.take ethLen).length = 14 := by simp [ethLen]; omega
  rw [moveEthHeader, hs]
  dsimp only
  rw [drop_store (by simp only [gtpEncapsulatedSize, ipLen, udpLen, gtpLen]; omega), hl]
  rfl

/-- The destination of the inner packet. -/
def innerDaddr (d : List UInt8) : UInt32 := load32 d 66

/-- The address that the ARP table is asked for is the inner destination. -/
theorem load32_moveEthHeader (h : HasInner ctx.data) :
    load32 (moveEthHeader ctx).data (gtpEncapsulatedSize + ethLen + 16) = innerDaddr ctx.data := by
  have hd := drop_moveEthHeader h
  simp only [HasInner, gtpEncapsulatedSize, ethLen, ipLen, udpLen, gtpLen] at h
  have hl : (ctx.data.take ethLen).length = 14 := by simp [ethLen]; omega
  have e := load32_drop (moveEthHeader ctx).data gtpEncapsulatedSize (ethLen + 16)
  rw [hd, load32_append_right (by rw [hl]; decide), load32_drop, hl] at e
  exact e.symm

/-- The frame that is left of `d`: the inner packet behind the Ethernet header, which is addressed
to `mac`. -/
def decapsulatedFrame (mac : Mac) (d : List UInt8) : List UInt8 :=
  (mac.bytes ++ slice d 6 8) ++ d.drop 50

/-- Moving the Ethernet header keeps the length. -/
theorem length_moveEthHeader (h : HasInner ctx.data) :
    (moveEthHeader ctx).data.length = ctx.data.length := by
  simp only [HasInner, gtpEncapsulatedSize, ethLen, ipLen, udpLen, gtpLen] at h
  rw [moveEthHeader]
  dsimp only
  rw [length_store]
  simp only [length_slice, gtpEncapsulatedSize, ethLen, ipLen, udpLen, gtpLen]
  omega

/-- The moved Ethernet header with the address `mac` in it. -/
def updatedEthHeader (mac : Mac) (ctx : XdpMd) : XdpMd :=
  { ctx with data := store (moveEthHeader ctx).data gtpEncapsulatedSize mac.bytes }

/-- Moving `data` forward leaves that frame, and the kernel admits the shift. -/
theorem bpfXdpAdjustHead_updatedEthHeader (mac : Mac) (h : HasInner ctx.data) :
    bpfXdpAdjustHead (updatedEthHeader mac ctx) gtpEncapsulatedSize =
      (true, ⟨ctx.headroom ++ (updatedEthHeader mac ctx).data.take gtpEncapsulatedSize,
        decapsulatedFrame mac ctx.data⟩) := by
  have hd := drop_moveEthHeader h
  have hl := length_moveEthHeader h
  simp only [HasInner] at h
  have hm := mac.length_eq
  have hin : gtpEncapsulatedSize + mac.bytes.length ≤ (moveEthHeader ctx).data.length := by
    rw [hl, hm]
    simp only [ethLen] at h
    omega
  have hul : (updatedEthHeader mac ctx).data.length = ctx.data.length := by
    rw [updatedEthHeader, length_store hin, hl]
  -- Behind the shift stands the moved header, with the address in it, and then the inner packet.
  have hdrop : (updatedEthHeader mac ctx).data.drop gtpEncapsulatedSize =
      decapsulatedFrame mac ctx.data := by
    rw [updatedEthHeader, drop_store (by omega), hm, ← List.drop_drop, hd,
      List.drop_append_of_le_length (by simp only [List.length_take, ethLen] at h ⊢; omega),
      ← slice_srcType, decapsulatedFrame, List.append_assoc]
  rw [bpfXdpAdjustHead_forward (by rw [hul]; omega), hdrop]
  rfl

end Decap

end UpfBpf
