import UpfBpf.Datapath.Xdp

/-!
# The rule program

The FAR program of `src/bpf/far_bpf.c`, with the checksum routines of `src/bpf/utils/csum.h` that it
uses. Pointers into the frame are offsets from `data`: the Ethernet header is at 0, and a frame that
is encapsulated has its outer IPv4, UDP, and GTP-U headers at 14, 34, and 42 and the inner packet at
50. A check against `data_end` compares with the frame's length.

`create_outer_header_gtpu_ipv4` returns `XDP_DROP` on seven early exits and no value when it gets to
its end; `pfcp_far_apply` calls it as a statement and redirects in either case. The helper
`bpf_csum_diff` is a parameter, since its result is fixed only up to a checksum's congruence.
-/

namespace UpfBpf

open Bytes

/-- `LOCAL_IP`: 10.1.3.30, as a little-endian host stores it. -/
def localIp : UInt32 := 503513354

/-- `GTP_FLAGS`: version 1, protocol type GTP, no optional field. -/
def gtpFlags : UInt8 := 0x30

/-! ## Checksums -/

/-- `pcn_csum_fold`: two folds of the carries into 16 bits, and the complement. -/
def pcnCsumFold (csum : UInt32) : UInt16 :=
  let sum := csum.toNat % 2^16 + csum.toNat / 2^16
  let sum := sum % 2^16 + sum / 2^16
  UInt16.ofNat (2^16 - 1 - sum % 2^16)

/-- `pcn_csum_add`: addition with the carry added back in. -/
def pcnCsumAdd (csum addend : UInt32) : UInt32 :=
  let res := csum + addend
  res + if res < addend then 1 else 0

/-- `pcn_csum16_add`, the same on half words. -/
def pcnCsum16Add (csum addend : UInt16) : UInt16 :=
  let res := csum + addend
  res + if res < addend then 1 else 0

/-- `pcn_csum_unfold`. -/
def pcnCsumUnfold (n : UInt16) : UInt32 := UInt32.ofNat n.toNat

/-- `pcn_csum_replace_by_diff`: the new value of the checksum field. -/
def pcnCsumReplaceByDiff (sum : UInt16) (diff : UInt32) : UInt16 :=
  pcnCsumFold (pcnCsumAdd diff (~~~pcnCsumUnfold sum))

/-- `pcn_l3_csum_replace`, with its error code. -/
def pcnL3CsumReplace (ctx : XdpMd) (csum_offset : ℕ) (old_value new_value flags : UInt32) :
    ℤ × XdpMd :=
  if flags.toNat / 2^4 ≠ 0 then (-22, ctx)
  else if 0xffff < csum_offset ∨ csum_offset % 2 = 1 then (-14, ctx)
  else if ctx.data.length < csum_offset + 2 then (-22, ctx)
  else
    let ptr := load16 ctx.data csum_offset
    let put (sum : UInt16) : ℤ × XdpMd :=
      (0, { ctx with data := store ctx.data csum_offset (le16 sum) })
    match flags.toNat % 2^4 with
    | 0 => put (pcnCsumReplaceByDiff ptr new_value)
    | 2 => put (~~~pcnCsum16Add (pcnCsum16Add (~~~ptr) (~~~old_value.toUInt16)) new_value.toUInt16)
    | 4 => put (pcnCsumReplaceByDiff ptr (pcnCsumAdd new_value (~~~old_value)))
    | _ => (-22, ctx)

/-! ## The headers -/

/-- Sets the `version` bit field of the first byte of an IPv4 header. -/
def setVersion (b : UInt8) (version : ℕ) : UInt8 := UInt8.ofNat (version * 2^4 + b.toNat % 2^4)

/-- Sets the `ihl` bit field of the first byte of an IPv4 header. -/
def setIhl (b : UInt8) (ihl : ℕ) : UInt8 := UInt8.ofNat (b.toNat / 2^4 * 2^4 + ihl)

/-- The `tot_len` field of the inner packet, at 50 + 2, in host order. -/
def innerTotLen (d : List UInt8) : ℕ := (swab16 (load16 d 52)).toNat

/-- The assignments to the outer IPv4 header, in their order. -/
def putOuterIp (d : List UInt8) (far : PfcpFarT) : List UInt8 :=
  let d := store d 14 [setVersion (byte d 14) 4]
  let d := store d 14 [setIhl (byte d 14) 5]
  let d := store d 15 [0]
  let d := store d 16 (le16 (swab16 (UInt16.ofNat (innerTotLen d + gtpEncapsulatedSize))))
  let d := store d 18 (le16 0)
  let d := store d 20 (le16 0x0040)
  let d := store d 22 [64]
  let d := store d 23 [ipprotoUdp]
  let d := store d 24 (le16 0)
  let d := store d 26 (le32 localIp)
  store d 30 (le32 far.outer_header_creation.ipv4_address)

/-- The assignments to the outer UDP header. -/
def putOuterUdp (d : List UInt8) (far : PfcpFarT) : List UInt8 :=
  let d := store d 34 (le16 (swab16 gtpUdpPort))
  let d := store d 36 (le16 (swab16 far.outer_header_creation.port_number))
  let d := store d 38 (le16 (swab16 (UInt16.ofNat (innerTotLen d + udpLen + gtpLen))))
  store d 40 (le16 0)

/-- The assignments to the GTP-U header. The length is the inner one, copied as it is stored. -/
def putGtpu (d : List UInt8) (far : PfcpFarT) : List UInt8 :=
  let d := store d 42 [gtpFlags]
  let d := store d 43 [gtpuGPdu]
  let d := store d 44 (le16 (load16 d 52))
  store d 46 (le32 far.outer_header_creation.teid)

/-! ## The program -/

section Program

variable (bpf_csum_diff : List UInt8 → UInt32) (m_arp_table : ArpTable)

/-- `create_outer_header_gtpu_ipv4`. The result of `bpf_xdp_adjust_head` is not looked at. -/
def createOuterHeaderGtpuIpv4 (ctx : XdpMd) (far : PfcpFarT) : Option Verdict × XdpMd :=
  let ctx := (bpfXdpAdjustHead ctx (-(gtpEncapsulatedSize : ℤ))).2
  let data_end := ctx.data.length
  if data_end < 0 + ethLen then (some .drop, ctx)
  else if data_end < gtpEncapsulatedSize + ethLen then (some .drop, ctx)
  else
    -- Move the Ethernet header to the front.
    let ctx := { ctx with data := store ctx.data 0 (slice ctx.data gtpEncapsulatedSize ethLen) }
    if data_end < 14 + ipLen then (some .drop, ctx)
    else if data_end < 14 + gtpEncapsulatedSize + ipLen then (some .drop, ctx)
    else
      let ctx := { ctx with data := putOuterIp ctx.data far }
      if data_end < 34 + udpLen then (some .drop, ctx)
      else
        let ctx := { ctx with data := putOuterUdp ctx.data far }
        match m_arp_table.lookup (load32 ctx.data 30) with
        | none => (some .drop, ctx)
        | some mac =>
          let ctx := { ctx with data := store ctx.data 0 mac.bytes }
          if data_end < 42 + gtpLen then (some .drop, ctx)
          else
            let ctx := { ctx with data := putGtpu ctx.data far }
            let l3sum := bpf_csum_diff (slice ctx.data 14 ipLen)
            (none, (pcnL3CsumReplace ctx 24 0 l3sum 0).2)

/-- The Ethernet header copied in front of the inner packet; the first step of a decapsulation. -/
def moveEthHeader (ctx : XdpMd) : XdpMd :=
  { ctx with data := store ctx.data gtpEncapsulatedSize (slice ctx.data 0 ethLen) }

/-- `update_dst_mac_address`: the destination of the Ethernet header at `eth` becomes the ARP entry
of the destination of the IPv4 header at `ip`. No entry is the failure code 1. -/
def updateDstMacAddress (ctx : XdpMd) (ip eth : ℕ) : Option XdpMd :=
  (m_arp_table.lookup (load32 ctx.data (ip + 16))).map fun mac =>
    { ctx with data := store ctx.data eth mac.bytes }

/-- `pfcp_far_apply`, for the FAR that was found, if any. -/
def pfcpFarApply (m_redirect_interfaces : RedirectInterfaces) (ctx : XdpMd)
    (p_far : Option PfcpFarT) : Verdict × XdpMd :=
  if ctx.data.length < 0 + ethLen then (.drop, ctx)
  else
    match p_far with
    | none => (.drop, ctx)
    | some far =>
      let outer_header_creation := far.outer_header_creation.outer_header_creation_description
      if far.apply_action.forw then
        if far.destination_interface = interfaceValueCore then
          if outer_header_creation = outerHeaderCreationUdpIpv4 then
            -- `return 1` is `XDP_DROP` too.
            if ctx.data.length < gtpEncapsulatedSize + ethLen then (.drop, ctx)
            else
              let moved := moveEthHeader ctx
              if ctx.data.length < gtpEncapsulatedSize + ethLen + ipLen then (.drop, moved)
              else
                match updateDstMacAddress m_arp_table moved (gtpEncapsulatedSize + ethLen)
                    gtpEncapsulatedSize with
                | none => (.drop, moved)
                | some updated =>
                  (bpfRedirectMap m_redirect_interfaces .UPLINK,
                    (bpfXdpAdjustHead updated gtpEncapsulatedSize).2)
          else (.pass, ctx)
        else if far.destination_interface = interfaceValueAccess then
          if outer_header_creation = outerHeaderCreationGtpuUdpIpv4 then
            (bpfRedirectMap m_redirect_interfaces .DOWNLINK,
              (createOuterHeaderGtpuIpv4 bpf_csum_diff m_arp_table ctx far).2)
          else (.pass, ctx)
        else (.pass, ctx)
      else (.pass, ctx)

end Program

/-- A FAR program: its object in the control plane (`src/programs/FARProgram.h`) and its maps
(`src/bpf/far_maps.h`), except for the ARP table, which is filled from outside. -/
structure FARProgram where
  /-- `BPFProgram::mId`. -/
  mId : UInt32
  /-- The skeleton is loaded, and not torn down yet. -/
  loaded : Bool := false
  /-- `m_far`, with room for one FAR. -/
  m_far : BoundedMap 1 UInt8 PfcpFarT := BoundedMap.empty
  /-- `m_redirect_interfaces`. -/
  m_redirect_interfaces : RedirectInterfaces := SlotArray.empty

/-- The FAR that `far_entry_point` finds: the key is a `u32` zero of which the map reads one byte.
-/
def FARProgram.far (p : FARProgram) : Option PfcpFarT := p.m_far.lookup (0 : UInt32).toUInt8

/-- `far_entry_point`. -/
def farEntryPoint (bpf_csum_diff : List UInt8 → UInt32) (m_arp_table : ArpTable) (p : FARProgram)
    (ctx : XdpMd) : Verdict × XdpMd :=
  pfcpFarApply bpf_csum_diff m_arp_table p.m_redirect_interfaces ctx p.far

end UpfBpf
