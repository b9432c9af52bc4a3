import UpfBpf.Datapath.Layout

/-!
# The parser against the formats

The entry program takes every header to have its least size. Here it is compared with the formats
themselves. `Reference` is the parse of a UDP packet as IPv4 and GTP-U define it: the header length
of IPv4, the fragment offset, the version and the protocol type of GTP-U, its optional octets, and
the chain of extension headers behind them. `fixedParse` is what the handlers read. Nothing in the
entry program looks at the first four of these fields, so it makes its tail calls with the fixed
positions, and `lookup_reference_iff` says when they are the right ones.

The other format is the EtherType in front. `eth_handle` skips one VLAN tag, and the case of a tag
falls into the case of IPv4 without another look at the type that it has just read
(`onlyIpv4Handled_iff`).
-/

namespace UpfBpf

open Bytes

/-! ## The headers as they are defined -/

section Formats

variable (f : List UInt8)

/-- `ihl`: the length of the IPv4 header at `iph`, in words. -/
def ihl (iph : ℕ) : ℕ := (byte f iph).toNat % 2^4

/-- The fragment offset of the IPv4 header at `iph`. -/
def fragmentOffset (iph : ℕ) : ℕ := (swab16 (load16 f (iph + 6))).toNat % 2^13

/-- `version` of the GTP-U header at `gtpuh`. -/
def gtpVersion (gtpuh : ℕ) : ℕ := (byte f gtpuh).toNat / 2^5

/-- `pt` of the GTP-U header at `gtpuh`. -/
def gtpPt (gtpuh : ℕ) : ℕ := (byte f gtpuh).toNat / 2^4 % 2

/-- `e` of the GTP-U header at `gtpuh`. -/
def gtpE (gtpuh : ℕ) : ℕ := (byte f gtpuh).toNat / 2^2 % 2

/-- `e`, `s`, and `pn` of the GTP-U header at `gtpuh`. -/
def gtpOptions (gtpuh : ℕ) : ℕ := (byte f gtpuh).toNat % 2^3

/-- A chain of extension headers, of which the first has the type `next` and stands at `off`, ends
at `stop`. A header begins with its length, in units of four octets, and ends with the type of the
one behind it; the type zero is none. -/
inductive ExtensionHeaders : UInt8 → ℕ → ℕ → Prop
  | none (off : ℕ) : ExtensionHeaders 0 off off
  | header {next : UInt8} {off stop : ℕ} (hnext : next ≠ 0) (hlen : byte f off ≠ 0)
      (hle : off + 4 * (byte f off).toNat ≤ f.length)
      (rest : ExtensionHeaders (byte f (off + 4 * (byte f off).toNat - 1))
        (off + 4 * (byte f off).toNat) stop) :
      ExtensionHeaders next off stop

/-- What the GTP-U header at `gtpuh` carries begins at `inner`. -/
inductive GtpPayload (gtpuh : ℕ) : ℕ → Prop
  /-- There are only the mandatory octets. -/
  | mandatory (h : gtpOptions f gtpuh = 0) : GtpPayload gtpuh (gtpuh + gtpLen)
  /-- There are four more, and extension headers if `e` is set. -/
  | optional {inner : ℕ} (h : gtpOptions f gtpuh ≠ 0) (hle : gtpuh + gtpLen + 4 ≤ f.length)
      (hext : ExtensionHeaders f (if gtpE f gtpuh = 1 then byte f (gtpuh + 11) else 0)
        (gtpuh + gtpLen + 4) inner) :
      GtpPayload gtpuh inner

/-- The IPv4 header at `iph` is that of an unfragmented UDP packet, or of the first fragment. -/
structure IsUdpPacket (iph : ℕ) : Prop where
  /-- The header has its least size at least. -/
  ihl_le : 5 ≤ ihl f iph
  /-- There is nothing in front of it in another fragment. -/
  offset : fragmentOffset f iph = 0
  /-- The protocol is UDP. -/
  protocol : byte f (iph + 9) = ipprotoUdp
  /-- The UDP header is inside the frame. -/
  udp_le : iph + 4 * ihl f iph + udpLen ≤ f.length

end Formats

/-- What a parser finds: the UDP header, the packet inside a G-PDU, and the key. -/
structure Parse where
  /-- The offset of the UDP header. -/
  udph : ℕ
  /-- The offset of the inner packet. -/
  inner : Option ℕ
  /-- The key of the look-up. -/
  key : NextRuleProgIndexKey
  deriving DecidableEq, Repr

/-- The parse of the packet at `iph`, by the formats. -/
inductive Reference (f : List UInt8) (iph : ℕ) : Parse → Prop
  /-- UDP, not for GTP-U. -/
  | plainUdp (h : IsUdpPacket f iph)
      (dest : swab16 (load16 f (iph + 4 * ihl f iph + 2)) ≠ gtpUdpPort) :
      Reference f iph
        ⟨iph + 4 * ihl f iph, none, ⟨0, interfaceValueCore, load32 f (iph + 16)⟩⟩
  /-- A G-PDU with an IPv4 packet. -/
  | gpdu {inner : ℕ} (h : IsUdpPacket f iph)
      (dest : swab16 (load16 f (iph + 4 * ihl f iph + 2)) = gtpUdpPort)
      (version : gtpVersion f (iph + 4 * ihl f iph + udpLen) = 1)
      (pt : gtpPt f (iph + 4 * ihl f iph + udpLen) = 1)
      (message_type : byte f (iph + 4 * ihl f iph + udpLen + 1) = gtpuGPdu)
      (payload : GtpPayload f (iph + 4 * ihl f iph + udpLen) inner)
      (inner_le : inner + ipLen ≤ f.length) (inner_version : (byte f inner).toNat / 2^4 = 4) :
      Reference f iph
        ⟨iph + 4 * ihl f iph, some inner,
          ⟨load32 f (iph + 4 * ihl f iph + udpLen + 4), interfaceValueAccess,
            load32 f (iph + 12)⟩⟩

/-- The parse of the handlers, with every header of its least size. -/
def fixedParse (f : List UInt8) (iph : ℕ) : Parse :=
  if swab16 (load16 f (iph + ipLen + 2)) = gtpUdpPort then
    ⟨iph + ipLen, some (iph + gtpEncapsulatedSize), gpduKey f iph⟩
  else ⟨iph + ipLen, none, plainUdpKey f iph⟩

/-- The headers have their least size: no options, no fragment, and a GTP-U header of version 1
without optional octets. -/
structure HasLeastHeaders (f : List UInt8) (iph : ℕ) : Prop where
  /-- The IPv4 header has no options. -/
  ihl_eq : ihl f iph = 5
  /-- The packet begins here. -/
  offset : fragmentOffset f iph = 0
  /-- The GTP-U header, if there is one, is one of version 1 and of GTP, and nothing follows it. -/
  gtp : swab16 (load16 f (iph + ipLen + 2)) = gtpUdpPort →
    gtpVersion f (iph + ipLen + udpLen) = 1 ∧ gtpPt f (iph + ipLen + udpLen) = 1 ∧
      gtpOptions f (iph + ipLen + udpLen) = 0

section Reference

variable {f : List UInt8} {iph : ℕ}

theorem ExtensionHeaders.le {next : UInt8} {off stop : ℕ} (h : ExtensionHeaders f next off stop) :
    off ≤ stop := by
  induction h with
  | none off => exact le_rfl
  | header hnext hlen hle rest ih => omega

/-- A chain has one end. -/
theorem ExtensionHeaders.unique {next : UInt8} {off stop stop' : ℕ}
    (h : ExtensionHeaders f next off stop) (h' : ExtensionHeaders f next off stop') :
    stop = stop' := by
  induction h with
  | none off =>
    cases h' with
    | none => rfl
    | header hnext hlen hle rest => exact absurd rfl hnext
  | header hnext hlen hle rest ih =>
    cases h' with
    | none => exact absurd rfl hnext
    | header hnext' hlen' hle' rest' => exact ih rest'

theorem GtpPayload.unique {gtpuh inner inner' : ℕ} (h : GtpPayload f gtpuh inner)
    (h' : GtpPayload f gtpuh inner') : inner = inner' := by
  cases h with
  | mandatory h =>
    cases h' with
    | mandatory => rfl
    | optional hne => exact absurd h hne
  | optional h hle hext =>
    cases h' with
    | mandatory h' => exact absurd h' h
    | optional h' hle' hext' => exact hext.unique hext'

/-- A frame has one parse. -/
theorem Reference.unique {parse parse' : Parse} (h : Reference f iph parse)
    (h' : Reference f iph parse') : parse = parse' := by
  cases h with
  | plainUdp h dest =>
    cases h' with
    | plainUdp => rfl
    | gpdu h' dest' => exact absurd dest' dest
  | gpdu h dest version pt message_type payload inner_le inner_version =>
    cases h' with
    | plainUdp h' dest' => exact absurd dest dest'
    | gpdu h' dest' version' pt' message_type' payload' inner_le' inner_version' =>
      rw [payload.unique payload']

/-- Where the parse by the formats is that of the handlers, the headers have their least size. -/
theorem hasLeastHeaders_of_reference (h : Reference f iph (fixedParse f iph)) :
    HasLeastHeaders f iph := by
  unfold fixedParse at h
  split_ifs at h with hport
  · generalize hp : (⟨iph + ipLen, some (iph + gtpEncapsulatedSize), gpduKey f iph⟩ : Parse) =
      parse at h
    cases h with
    | plainUdp h dest => exact absurd (congrArg Parse.inner hp) (Option.some_ne_none _)
    | gpdu h dest version pt message_type payload inner_le inner_version =>
      simp only [Parse.mk.injEq, Option.some.injEq] at hp
      obtain ⟨hudph, hinner, -⟩ := hp
      have hihl : ihl f iph = 5 := by
        unfold ipLen at hudph
        omega
      rw [← hudph] at version pt payload
      refine ⟨hihl, h.offset, fun _ => ⟨version, pt, ?_⟩⟩
      -- Optional octets would push the inner packet back.
      by_contra hopt
      cases payload with
      | mandatory hnone => exact hopt hnone
      | optional _ hle hext =>
        have := hext.le
        unfold gtpEncapsulatedSize at hinner
        omega
  · generalize hp : (⟨iph + ipLen, none, plainUdpKey f iph⟩ : Parse) = parse at h
    cases h with
    | plainUdp h dest =>
      simp only [Parse.mk.injEq] at hp
      have hihl : ihl f iph = 5 := by
        have := hp.1
        unfold ipLen at this
        omega
      exact ⟨hihl, h.offset, fun hgtp => absurd hgtp hport⟩
    | gpdu h dest version pt message_type payload inner_le inner_version =>
      exact absurd (congrArg Parse.inner hp).symm (Option.some_ne_none _)

/-- Where they have, the two parses of a packet that the handlers accept are the same. -/
theorem HasLeastHeaders.reference (h : HasLeastHeaders f iph)
    (ha : IsGpduAt f iph ∨ IsPlainUdpAt f iph) : Reference f iph (fixedParse f iph) := by
  have hudph : iph + 4 * ihl f iph = iph + ipLen := by
    rw [h.ihl_eq]
    rfl
  have hudp : IsUdpAt f iph := ha.elim (fun hg => hg.toIsUdpAt) fun hp => hp.toIsUdpAt
  have hpacket : IsUdpPacket f iph :=
    ⟨h.ihl_eq.ge, h.offset, hudp.protocol, by rw [hudph]; exact hudp.udp_le⟩
  unfold fixedParse
  rcases ha with hg | hp
  · rw [if_pos hg.dest]
    obtain ⟨hv, hpt, hopt⟩ := h.gtp hg.dest
    have hr := Reference.gpdu hpacket (by rw [hudph]; exact hg.dest) (by rw [hudph]; exact hv)
      (by rw [hudph]; exact hpt) (by rw [hudph]; exact hg.message_type)
      (by rw [hudph]; exact .mandatory hopt) hg.inner_le hg.version
    rw [hudph] at hr
    exact hr
  · rw [if_neg hp.dest]
    have hr := Reference.plainUdp hpacket (by rw [hudph]; exact hp.dest)
    rw [hudph] at hr
    exact hr

end Reference

/-- The tail call for an untagged IPv4 frame is made with the values at the fixed positions. They
are those of the formats exactly when the headers have their least size. -/
theorem lookup_reference_iff {P : Type} {tail : NextRuleProgIndexKey → Option P}
    {mc_stats : McStats} {ctx : XdpMd} {p : P} (htype : swab16 (load16 ctx.data 12) = ethPIp)
    (h : (entryPoint tail mc_stats ctx).1 = .tailCall p) :
    tail (fixedParse ctx.data ethLen).key = some p ∧
      (Reference ctx.data ethLen (fixedParse ctx.data ethLen) ↔
        HasLeastHeaders ctx.data ethLen) := by
  rw [entryPoint_fst, ethHandle_eq_tailCall_iff] at h
  obtain ⟨key, hd, htail⟩ := h
  have hoff : ipv4Offset ctx.data = ethLen := by
    rw [ipv4Offset_eq_ethLen_iff, Tagged, htype]
    decide
  obtain ⟨-, hcases⟩ := detect_eq_tailCall_iff.1 hd
  rw [hoff] at hcases
  have ha : IsGpduAt ctx.data ethLen ∨ IsPlainUdpAt ctx.data ethLen :=
    hcases.imp (fun hg => hg.1) fun hp => hp.1
  refine ⟨?_, hasLeastHeaders_of_reference, fun hl => hl.reference ha⟩
  rw [← htail, fixedParse]
  rcases hcases with ⟨hg, rfl⟩ | ⟨hp, rfl⟩
  · rw [if_pos hg.dest]
  · rw [if_neg hp.dest]

/-- A G-PDU without optional octets. -/
theorem lookup_reference_iff_sample :
    (entryPoint some (fun _ => {}) ⟨[], taggedFrame []⟩).1 =
        .tailCall ⟨100, interfaceValueAccess, 0x1b03010a⟩ ∧
      Reference (taggedFrame []) ethLen (fixedParse (taggedFrame []) ethLen) := by
  have h : (entryPoint some (fun _ => {}) ⟨[], taggedFrame []⟩).1 =
      .tailCall ⟨100, interfaceValueAccess, 0x1b03010a⟩ := by decide
  exact ⟨h, (lookup_reference_iff (by decide) h).2.2 ⟨by decide, by decide, by decide⟩⟩

/-- A G-PDU with the sequence number `0x4500`, and then its packet for 8.8.8.8. -/
def sequencedFrame : List UInt8 :=
  ([2, 0, 0, 0, 0, 1] ++ [2, 0, 0, 0, 0, 2] ++ be16 0x0800) ++
    ([0x45, 0] ++ be16 60 ++ [0, 0, 0, 0, 64, 17, 0, 0] ++ le32 0x1b03010a ++ le32 0x0c0fa8c0) ++
    (be16 53 ++ be16 2152 ++ be16 40 ++ [0, 0]) ++
    ([0x32, 255] ++ be16 24 ++ le32 100) ++ (be16 0x4500 ++ [0, 0]) ++
    ([0x45, 0] ++ be16 20 ++ [0, 0, 0, 0, 64, 17, 0, 0] ++ le32 0x0a0a0a0a ++ le32 0x08080808)

/-- The handlers take the sequence number for the first byte of an IPv4 header and make the tail
call; the packet stands four octets behind. -/
theorem not_reference_of_sequence_number :
    swab16 (load16 sequencedFrame 12) = ethPIp ∧
      (entryPoint some (fun _ => {}) ⟨[], sequencedFrame⟩).1 =
        .tailCall ⟨100, interfaceValueAccess, 0x1b03010a⟩ ∧
      Reference sequencedFrame ethLen ⟨34, some 54, ⟨100, interfaceValueAccess, 0x1b03010a⟩⟩ ∧
      (fixedParse sequencedFrame ethLen).inner = some 50 ∧
      ¬ Reference sequencedFrame ethLen (fixedParse sequencedFrame ethLen) := by
  have hpacket : IsUdpPacket sequencedFrame ethLen :=
    ⟨by decide, by decide, by decide, by decide⟩
  have hpayload : GtpPayload sequencedFrame 42 54 :=
    .optional (by decide) (by decide) (.none 54)
  have href : Reference sequencedFrame ethLen
      ⟨34, some 54, ⟨100, interfaceValueAccess, 0x1b03010a⟩⟩ :=
    .gpdu hpacket (by decide) (by decide) (by decide) (by decide) hpayload (by decide) (by decide)
  refine ⟨by decide, by decide, href, by decide, fun h => ?_⟩
  exact absurd (congrArg Parse.inner (h.unique href)) (by decide)

/-! ## The type behind a tag -/

/-- The offset at which `eth_handle` calls `ipv4_handle`, if it does. -/
def ipv4HandleCall (f : List UInt8) : Option ℕ :=
  if f.length < ethLen then none
  else if Tagged f then some (ethLen + 4)
  else if swab16 (load16 f 12) = ethPIp then some ethLen
  else none

/-- All that `eth_handle` does is this call, or to pass the frame. -/
theorem ethHandle_eq_ipv4HandleCall {P : Type} (tail : NextRuleProgIndexKey → Option P)
    (ctx : XdpMd) :
    ethHandle tail ctx = match ipv4HandleCall ctx.data with
      | some iph => ipv4Handle tail ctx iph
      | none => .ret .pass := by
  by_cases h : IsIpv4Frame ctx.data
  · have hl := h.length_le
    have hcall : ipv4HandleCall ctx.data = some (ipv4Offset ctx.data) := by
      rw [ipv4HandleCall, if_neg (by omega), ipv4Offset]
      by_cases ht : Tagged ctx.data
      · rw [if_pos ht, if_pos ht]
      · rw [if_neg ht, if_neg ht, if_pos (h.etherType.resolve_left ht)]
    rw [ethHandle_eq_ipv4Handle tail h, hcall]
  · have hcall : ipv4HandleCall ctx.data = none := by
      unfold ipv4HandleCall
      split_ifs with hl ht hip
      · rfl
      · exact absurd ⟨by omega, .inl ht⟩ h
      · exact absurd ⟨by omega, .inr hip⟩ h
      · rfl
    rw [ethHandle_of_not_isIpv4Frame tail h, hcall]

/-- The EtherType behind at most one VLAN tag is inside the frame, and is that of IPv4. -/
def HasIpv4Type (f : List UInt8) : Prop :=
  if Tagged f then ethLen + 4 ≤ f.length ∧ swab16 (load16 f 16) = ethPIp
  else ethLen ≤ f.length ∧ swab16 (load16 f 12) = ethPIp

/-- Only frames with that type are handled as IPv4; every other frame is passed, and not looked
up. -/
structure OnlyIpv4Handled (ctx : XdpMd) : Prop where
  /-- `ipv4_handle` is called for that type only. -/
  calls : ipv4HandleCall ctx.data ≠ none → HasIpv4Type ctx.data
  /-- Every other frame gets `XDP_PASS`, and no key is looked up for it. -/
  others : ¬ HasIpv4Type ctx.data → detect ctx = .ret .pass

/-- This is so exactly when the frame has no tag, or a complete one that encapsulates IPv4. -/
theorem onlyIpv4Handled_iff (ctx : XdpMd) :
    OnlyIpv4Handled ctx ↔
      (ethLen ≤ ctx.data.length → Tagged ctx.data →
        ethLen + 4 ≤ ctx.data.length ∧ swab16 (load16 ctx.data 16) = ethPIp) := by
  constructor
  · intro h hl ht
    have hcall : ipv4HandleCall ctx.data ≠ none := by
      rw [ipv4HandleCall, if_neg (by omega), if_pos ht]
      exact Option.some_ne_none _
    have htype := h.calls hcall
    rwa [HasIpv4Type, if_pos ht] at htype
  · intro h
    -- The frames that `ipv4_handle` is called for are those with the type.
    have hcall : ¬ HasIpv4Type ctx.data → ipv4HandleCall ctx.data = none := by
      intro hn
      unfold HasIpv4Type at hn
      unfold ipv4HandleCall
      by_cases hl : ctx.data.length < ethLen
      · rw [if_pos hl]
      by_cases ht : Tagged ctx.data
      · rw [if_pos ht] at hn
        exact absurd (h (by omega) ht) hn
      · rw [if_neg ht] at hn
        rw [if_neg hl, if_neg ht, if_neg fun hip => hn ⟨by omega, hip⟩]
    refine ⟨fun hc => not_not.1 fun hn => hc (hcall hn), fun hn => ?_⟩
    rw [detect, ethHandle_eq_ipv4HandleCall, hcall hn]

/-- An IPv6 packet behind the tag of VLAN 5. What the parser takes for the protocol and the
destination of IPv4 are bytes of its source address. -/
def taggedIpv6Frame : List UInt8 :=
  ([2, 0, 0, 0, 0, 1] ++ [2, 0, 0, 0, 0, 2] ++ be16 0x8100 ++ be16 5 ++ be16 0x86dd) ++
    ([0x60, 0, 0, 0] ++ be16 8 ++ [59, 64]) ++
    ([0xfd, 17, 0, 0, 0, 0, 0, 0, 10, 10, 10, 10, 0, 0, 0, 1] ++
      [0xfd, 0, 0, 0, 0, 0, 0, 0, 0, 0, 0, 0, 0, 0, 0, 2]) ++ List.replicate 8 0

/-- It is handled as IPv4, and looked up as a downlink packet. -/
theorem not_onlyIpv4Handled_of_ipv6 :
    ipv4HandleCall taggedIpv6Frame = some 18 ∧
      detect ⟨[], taggedIpv6Frame⟩ = .tailCall ⟨0, interfaceValueCore, 0x0a0a0a0a⟩ ∧
      ¬ OnlyIpv4Handled ⟨[], taggedIpv6Frame⟩ := by
  refine ⟨by decide, by decide, fun h => ?_⟩
  have htype : HasIpv4Type taggedIpv6Frame := h.calls (by decide)
  exact absurd htype (by unfold HasIpv4Type; decide)

end UpfBpf
