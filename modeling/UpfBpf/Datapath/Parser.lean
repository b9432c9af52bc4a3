import UpfBpf.Datapath.Xdp
import UpfBpf.Key

/-!
# The parser and the detector

The entry program of `src/bpf/upf_xdp_bpf.c`. Each handler gets the offset of its header in place
of a pointer to it, and checks that the header lies in front of `data_end` before it reads it. A
handler that finds a session's packet asks `tail_call_next_prog` for the rule program of its key.
A tail call that is executed does not return, and one that is not falls through to `XDP_PASS`.

The handlers are written over any answer of `tail_call_next_prog`. `detect` is what they compute
when every key is answered: the verdict of a frame that is not looked up, or the key of one that is.
`ethHandle_eq` says that this is all the handlers do with the answer.
-/

namespace UpfBpf

open Bytes

/-- How a handler ends: with a tail call to a program, or with an action. -/
inductive EntryExit (P : Type)
  /-- The tail call is executed. -/
  | tailCall (prog : P)
  /-- The action is returned. -/
  | ret (action : Verdict)
  deriving DecidableEq, Repr

/-! ## The handlers -/

section Handlers

variable {P : Type} (tail_call_next_prog : NextRuleProgIndexKey → Option P)

/-- The two lines that end a handler: the tail call, and `return XDP_PASS` behind it. -/
def tailCallOrPass (key : NextRuleProgIndexKey) : EntryExit P :=
  match tail_call_next_prog key with
  | some prog => .tailCall prog
  | none => .ret .pass

/-- `ip_inner_check_ipv4`: one when the header at `iph` is inside the frame and its version is 4;
`XDP_ABORTED` is zero too. -/
def ipInnerCheckIpv4 (ctx : XdpMd) (iph : ℕ) : UInt8 :=
  if ctx.data.length < iph + ipLen then 0
  else if (byte ctx.data iph).toNat / 2^4 = 4 then 1 else 0

/-- `gtp_handle`: a G-PDU with an IPv4 packet inside is looked up by its TEID. -/
def gtpHandle (ctx : XdpMd) (gtpuh : ℕ) (src_ue_ip : UInt32) : EntryExit P :=
  if ctx.data.length < gtpuh + gtpLen then .ret .drop
  else if byte ctx.data (gtpuh + 1) ≠ gtpuGPdu then .ret .pass
  else if ipInnerCheckIpv4 ctx (gtpuh + gtpLen) = 0 then .ret .drop
  else tailCallOrPass tail_call_next_prog
    ⟨load32 ctx.data (gtpuh + 4), interfaceValueAccess, src_ue_ip⟩

/-- `udp_handle`: GTP-U by its port, and everything else as a downlink packet. -/
def udpHandle (ctx : XdpMd) (udph : ℕ) (src_ip dest_ip : UInt32) : EntryExit P :=
  if ctx.data.length < udph + udpLen then .ret .aborted
  else if swab16 (load16 ctx.data (udph + 2)) = gtpUdpPort then
    gtpHandle tail_call_next_prog ctx (udph + udpLen) src_ip
  else tailCallOrPass tail_call_next_prog ⟨0, interfaceValueCore, dest_ip⟩

/-- `ipv4_handle`: the header is taken to have no options. -/
def ipv4Handle (ctx : XdpMd) (iph : ℕ) : EntryExit P :=
  if ctx.data.length < iph + ipLen then .ret .aborted
  else if byte ctx.data (iph + 9) = ipprotoUdp then
    udpHandle tail_call_next_prog ctx (iph + ipLen) (load32 ctx.data (iph + 12))
      (load32 ctx.data (iph + 16))
  else .ret .pass

/-- `ETH_P_IP`. -/
def ethPIp : UInt16 := 0x0800

/-- `ETH_P_8021Q`. -/
def ethP8021Q : UInt16 := 0x8100

/-- `ETH_P_8021AD`. -/
def ethP8021AD : UInt16 := 0x88a8

/-- `eth_handle`. The case of a VLAN tag falls into the next one: the frame is handled as IPv4
behind the tag, whatever type the tag encapsulates. -/
def ethHandle (ctx : XdpMd) : EntryExit P :=
  if ctx.data.length < ethLen then .ret .pass
  else
    let eth_type := swab16 (load16 ctx.data 12)
    if eth_type = ethP8021Q ∨ eth_type = ethP8021AD then
      ipv4Handle tail_call_next_prog ctx (ethLen + 4)
    else if eth_type = ethPIp then ipv4Handle tail_call_next_prog ctx ethLen
    else .ret .pass

end Handlers

/-! ## The statistics -/

/-- `struct datarec`. -/
structure Datarec where
  /-- The frames that ended with the action. -/
  rx_packets : UInt64 := 0
  /-- Their bytes. -/
  rx_bytes : UInt64 := 0
  deriving DecidableEq, Repr

/-- `mc_stats` of one CPU: a record for each action. -/
abbrev McStats : Type := Fin 5 → Datarec

/-- `xdp_stats_record_action`. -/
def xdpStatsRecordAction (mc_stats : McStats) (ctx : XdpMd) (action : Verdict) :
    Verdict × McStats :=
  let rec' := mc_stats action.action
  (action, Function.update mc_stats action.action
    ⟨rec'.rx_packets + 1, rec'.rx_bytes + UInt64.ofNat ctx.data.length⟩)

/-- `entry_point`: an action is recorded, a tail call leaves before it could be. -/
def entryPoint {P : Type} (tail_call_next_prog : NextRuleProgIndexKey → Option P)
    (mc_stats : McStats) (ctx : XdpMd) : EntryExit P × McStats :=
  match ethHandle tail_call_next_prog ctx with
  | .tailCall prog => (.tailCall prog, mc_stats)
  | .ret action =>
    let (action, mc_stats) := xdpStatsRecordAction mc_stats ctx action
    (.ret action, mc_stats)

/-- `entry_point` ends as `eth_handle` does. -/
@[simp] theorem entryPoint_fst {P : Type} (tail : NextRuleProgIndexKey → Option P)
    (mc_stats : McStats) (ctx : XdpMd) : (entryPoint tail mc_stats ctx).1 = ethHandle tail ctx := by
  unfold entryPoint xdpStatsRecordAction
  split <;> simp_all

/-! ## What the detector looks up -/

/-- What the handlers find in a frame: the key that they look up, or the action of a frame that they
do not look up. -/
def detect (ctx : XdpMd) : EntryExit NextRuleProgIndexKey := ethHandle some ctx

/-- How a handler goes on with the answer for the key that was found. -/
def EntryExit.resume {K P : Type} (answer : K → Option P) : EntryExit K → EntryExit P
  | .tailCall key => match answer key with
    | some prog => .tailCall prog
    | none => .ret .pass
  | .ret action => .ret action

section Resume

variable {P : Type} (tail : NextRuleProgIndexKey → Option P) (ctx : XdpMd)

theorem tailCallOrPass_eq (key : NextRuleProgIndexKey) :
    tailCallOrPass tail key = (tailCallOrPass some key).resume tail := rfl

theorem gtpHandle_eq (off : ℕ) (src : UInt32) :
    gtpHandle tail ctx off src = (gtpHandle some ctx off src).resume tail := by
  unfold gtpHandle
  split_ifs
  · rfl
  · rfl
  · rfl
  · exact tailCallOrPass_eq tail _

theorem udpHandle_eq (off : ℕ) (src dst : UInt32) :
    udpHandle tail ctx off src dst = (udpHandle some ctx off src dst).resume tail := by
  unfold udpHandle
  split_ifs
  · rfl
  · exact gtpHandle_eq tail ctx _ _
  · exact tailCallOrPass_eq tail _

theorem ipv4Handle_eq (off : ℕ) :
    ipv4Handle tail ctx off = (ipv4Handle some ctx off).resume tail := by
  unfold ipv4Handle
  split_ifs
  · rfl
  · exact udpHandle_eq tail ctx _ _ _
  · rfl

/-- The handlers look at most one key up, and use the answer only to leave or to pass the frame. -/
theorem ethHandle_eq : ethHandle tail ctx = (detect ctx).resume tail := by
  unfold detect ethHandle
  dsimp only
  split_ifs
  · rfl
  · exact ipv4Handle_eq tail ctx _
  · exact ipv4Handle_eq tail ctx _
  · rfl

/-- A tail call is made for a key of the frame, and to the program that answers it. -/
theorem ethHandle_eq_tailCall_iff {p : P} :
    ethHandle tail ctx = .tailCall p ↔ ∃ key, detect ctx = .tailCall key ∧ tail key = some p := by
  rw [ethHandle_eq]
  cases detect ctx with
  | ret a => simp [EntryExit.resume]
  | tailCall key =>
    cases h : tail key <;> simp [EntryExit.resume, h]

end Resume

/-! ## Frames that are looked up -/

/-- The EtherType is one of the two of a VLAN tag. -/
def Tagged (f : List UInt8) : Prop :=
  swab16 (load16 f 12) = ethP8021Q ∨ swab16 (load16 f 12) = ethP8021AD

instance (f : List UInt8) : Decidable (Tagged f) := inferInstanceAs (Decidable (_ ∨ _))

/-- The offset that `eth_handle` hands to `ipv4_handle`. -/
def ipv4Offset (f : List UInt8) : ℕ := if Tagged f then ethLen + 4 else ethLen

/-- The EtherType sends the frame to `ipv4_handle`. -/
structure IsIpv4Frame (f : List UInt8) : Prop where
  /-- There is an Ethernet header. -/
  length_le : ethLen ≤ f.length
  /-- A tag, or IPv4. -/
  etherType : Tagged f ∨ swab16 (load16 f 12) = ethPIp

/-- There are an IPv4 header at `iph` and a UDP header behind it. -/
structure IsUdpAt (f : List UInt8) (iph : ℕ) : Prop where
  /-- Both are inside the frame. -/
  udp_le : iph + ipLen + udpLen ≤ f.length
  /-- The protocol is UDP. -/
  protocol : byte f (iph + 9) = ipprotoUdp

/-- Behind the UDP header there are a GTP-U header of a G-PDU and an inner IPv4 header. -/
structure IsGpduAt (f : List UInt8) (iph : ℕ) : Prop extends IsUdpAt f iph where
  /-- The UDP port is that of GTP-U. -/
  dest : swab16 (load16 f (iph + ipLen + 2)) = gtpUdpPort
  /-- The message is a G-PDU. -/
  message_type : byte f (iph + ipLen + udpLen + 1) = gtpuGPdu
  /-- The inner header is inside the frame. -/
  inner_le : iph + gtpEncapsulatedSize + ipLen ≤ f.length
  /-- Its version is 4. -/
  version : (byte f (iph + gtpEncapsulatedSize)).toNat / 2^4 = 4

/-- The UDP port is another one. -/
structure IsPlainUdpAt (f : List UInt8) (iph : ℕ) : Prop extends IsUdpAt f iph where
  /-- Not that of GTP-U. -/
  dest : swab16 (load16 f (iph + ipLen + 2)) ≠ gtpUdpPort

/-- The key of a G-PDU: its TEID, and the source address in front of the tunnel's headers. -/
def gpduKey (f : List UInt8) (iph : ℕ) : NextRuleProgIndexKey :=
  ⟨load32 f (iph + ipLen + udpLen + 4), interfaceValueAccess, load32 f (iph + 12)⟩

/-- The key of another UDP packet: no TEID, and its destination address. -/
def plainUdpKey (f : List UInt8) (iph : ℕ) : NextRuleProgIndexKey :=
  ⟨0, interfaceValueCore, load32 f (iph + 16)⟩

section LookUp

variable {ctx : XdpMd} {key : NextRuleProgIndexKey}

/-- The inner check passes on a header inside the frame whose version is 4. -/
theorem ipInnerCheckIpv4_ne_zero_iff (ctx : XdpMd) (iph : ℕ) :
    ¬ ipInnerCheckIpv4 ctx iph = 0 ↔
      iph + ipLen ≤ ctx.data.length ∧ (byte ctx.data iph).toNat / 2^4 = 4 := by
  unfold ipInnerCheckIpv4
  split_ifs with hl hv
  · exact iff_of_false (fun h => h rfl) fun h => by omega
  · exact iff_of_true (by decide) ⟨by omega, hv⟩
  · exact iff_of_false (fun h => h rfl) fun h => hv h.2

theorem gtpHandle_eq_tailCall_iff {gtpuh : ℕ} {src : UInt32} :
    gtpHandle some ctx gtpuh src = .tailCall key ↔
      byte ctx.data (gtpuh + 1) = gtpuGPdu ∧ gtpuh + gtpLen + ipLen ≤ ctx.data.length ∧
        (byte ctx.data (gtpuh + gtpLen)).toNat / 2^4 = 4 ∧
        key = ⟨load32 ctx.data (gtpuh + 4), interfaceValueAccess, src⟩ := by
  have hinner := ipInnerCheckIpv4_ne_zero_iff ctx (gtpuh + gtpLen)
  unfold gtpHandle
  split_ifs with hl ht hi
  · exact iff_of_false nofun fun h => by omega
  · exact iff_of_false nofun fun h => ht h.1
  · exact iff_of_false nofun fun h => hinner.2 ⟨h.2.1, h.2.2.1⟩ hi
  · -- The frame has passed every check, and the key is what is left to compare.
    have hkey : tailCallOrPass some (⟨load32 ctx.data (gtpuh + 4), interfaceValueAccess, src⟩ :
        NextRuleProgIndexKey) = .tailCall key ↔
          key = ⟨load32 ctx.data (gtpuh + 4), interfaceValueAccess, src⟩ := by
      simp [tailCallOrPass, eq_comm]
    have hv := hinner.1 hi
    rw [hkey, and_iff_right (not_not.1 ht), and_iff_right hv.1, and_iff_right hv.2]

theorem udpHandle_eq_tailCall_iff {iph : ℕ}
    (hp : byte ctx.data (iph + 9) = ipprotoUdp) :
    udpHandle some ctx (iph + ipLen) (load32 ctx.data (iph + 12)) (load32 ctx.data (iph + 16)) =
        .tailCall key ↔
      (IsGpduAt ctx.data iph ∧ key = gpduKey ctx.data iph) ∨
        (IsPlainUdpAt ctx.data iph ∧ key = plainUdpKey ctx.data iph) := by
  unfold udpHandle
  split_ifs with hl hport
  · -- No UDP header, so neither form.
    refine iff_of_false nofun ?_
    rintro (⟨h, -⟩ | ⟨h, -⟩)
    · exact absurd h.udp_le (by omega)
    · exact absurd h.udp_le (by omega)
  · rw [gtpHandle_eq_tailCall_iff]
    have hle : iph + ipLen + udpLen ≤ ctx.data.length := by omega
    constructor
    · rintro ⟨ht, hi, hv, hk⟩
      exact .inl ⟨⟨⟨hle, hp⟩, hport, ht, hi, hv⟩, hk⟩
    · rintro (⟨h, hk⟩ | ⟨h, -⟩)
      · exact ⟨h.message_type, h.inner_le, h.version, hk⟩
      · exact absurd hport h.dest
  · have hle : iph + ipLen + udpLen ≤ ctx.data.length := by omega
    constructor
    · intro h
      cases h
      exact .inr ⟨⟨⟨hle, hp⟩, hport⟩, rfl⟩
    · rintro (⟨h, -⟩ | ⟨-, rfl⟩)
      · exact absurd h.dest hport
      · rfl

theorem ipv4Handle_eq_tailCall_iff {iph : ℕ} :
    ipv4Handle some ctx iph = .tailCall key ↔
      (IsGpduAt ctx.data iph ∧ key = gpduKey ctx.data iph) ∨
        (IsPlainUdpAt ctx.data iph ∧ key = plainUdpKey ctx.data iph) := by
  unfold ipv4Handle
  split_ifs with hl hp
  · refine iff_of_false nofun ?_
    rintro (⟨h, -⟩ | ⟨h, -⟩)
    · exact absurd h.udp_le (by omega)
    · exact absurd h.udp_le (by omega)
  · exact udpHandle_eq_tailCall_iff hp
  · refine iff_of_false nofun ?_
    rintro (⟨h, -⟩ | ⟨h, -⟩)
    · exact hp h.protocol
    · exact hp h.protocol

/-- `eth_handle` hands such a frame to `ipv4_handle` at `ipv4Offset`. -/
theorem ethHandle_eq_ipv4Handle {P : Type} (tail : NextRuleProgIndexKey → Option P)
    (h : IsIpv4Frame ctx.data) :
    ethHandle tail ctx = ipv4Handle tail ctx (ipv4Offset ctx.data) := by
  have hl : ¬ ctx.data.length < ethLen := by
    have := h.length_le
    omega
  unfold ethHandle ipv4Offset
  dsimp only
  rw [if_neg hl]
  by_cases ht : Tagged ctx.data
  · rw [if_pos ht]
    exact if_pos ht
  · have hip : swab16 (load16 ctx.data 12) = ethPIp := h.etherType.resolve_left ht
    rw [if_neg ht]
    exact (if_neg ht).trans (if_pos hip)

/-- It passes every other frame. -/
theorem ethHandle_of_not_isIpv4Frame {P : Type} (tail : NextRuleProgIndexKey → Option P)
    (h : ¬ IsIpv4Frame ctx.data) : ethHandle tail ctx = .ret .pass := by
  unfold ethHandle
  dsimp only
  split_ifs with hl ht hip
  · rfl
  · exact absurd ⟨by omega, .inl ht⟩ h
  · exact absurd ⟨by omega, .inr hip⟩ h
  · rfl

/-- The frames that are looked up, and the keys: the handlers by what they read. -/
theorem detect_eq_tailCall_iff :
    detect ctx = .tailCall key ↔ IsIpv4Frame ctx.data ∧
      ((IsGpduAt ctx.data (ipv4Offset ctx.data) ∧
          key = gpduKey ctx.data (ipv4Offset ctx.data)) ∨
        (IsPlainUdpAt ctx.data (ipv4Offset ctx.data) ∧
          key = plainUdpKey ctx.data (ipv4Offset ctx.data))) := by
  by_cases h : IsIpv4Frame ctx.data
  · rw [detect, ethHandle_eq_ipv4Handle some h, ipv4Handle_eq_tailCall_iff, and_iff_right h]
  · rw [detect, ethHandle_of_not_isIpv4Frame some h]
    exact iff_of_false nofun fun h' => h h'.1

end LookUp

/-- An untagged IPv4 frame with a UDP header behind an IPv4 header without options. -/
structure IsUdpFrame (f : List UInt8) : Prop where
  /-- The three headers are there. -/
  length_le : ethLen + ipLen + udpLen ≤ f.length
  /-- The EtherType is IPv4. -/
  etherType : slice f 12 2 = be16 0x0800
  /-- The version is 4, and the header has five words. -/
  versionIhl : byte f 14 = 0x45
  /-- The protocol is UDP. -/
  protocol : byte f 23 = ipprotoUdp

/-- A UDP frame goes to `ipv4_handle` at its IPv4 header. -/
theorem IsUdpFrame.isIpv4Frame {f : List UInt8} (h : IsUdpFrame f) : IsIpv4Frame f where
  length_le := by
    have := h.length_le
    omega
  etherType := .inr (swab16_load16_of_slice h.etherType)

theorem IsUdpFrame.not_tagged {f : List UInt8} (h : IsUdpFrame f) : ¬ Tagged f := by
  have ht : swab16 (load16 f 12) = ethPIp := swab16_load16_of_slice h.etherType
  unfold Tagged
  rw [ht]
  decide

theorem IsUdpFrame.ipv4Offset_eq {f : List UInt8} (h : IsUdpFrame f) : ipv4Offset f = ethLen :=
  if_neg h.not_tagged

theorem IsUdpFrame.isUdpAt {f : List UInt8} (h : IsUdpFrame f) : IsUdpAt f ethLen :=
  ⟨h.length_le, h.protocol⟩

/-- A well-formed G-PDU with the TEID `t` in an untagged frame, with an inner IPv4 packet. -/
structure IsGpduFrame (t : UInt32) (f : List UInt8) : Prop extends IsUdpFrame f where
  /-- The UDP port is that of GTP-U. -/
  dest : slice f 36 2 = be16 2152
  /-- The message is a G-PDU. -/
  message_type : byte f 43 = 255
  /-- The stored TEID. -/
  teid : slice f 46 4 = le32 t
  /-- There is an inner header. -/
  inner : 70 ≤ f.length
  /-- Its version is 4. -/
  version : (byte f 50).toNat / 2^4 = 4

/-- The source address of the tunnel's IPv4 header. -/
def outerSaddr (f : List UInt8) : UInt32 := load32 f 26

/-- The key of a G-PDU is made of its TEID and of the tunnel's source address. -/
theorem detect_of_isGpduFrame {t : UInt32} {ctx : XdpMd} (h : IsGpduFrame t ctx.data) :
    detect ctx = .tailCall ⟨t, interfaceValueAccess, outerSaddr ctx.data⟩ := by
  have hat : IsGpduAt ctx.data ethLen :=
    ⟨h.isUdpAt, swab16_load16_of_slice h.dest, h.message_type, h.inner, h.version⟩
  have hteid : load32 ctx.data (ethLen + ipLen + udpLen + 4) = t := load32_of_slice h.teid
  rw [detect_eq_tailCall_iff, h.ipv4Offset_eq]
  refine ⟨h.isIpv4Frame, .inl ⟨hat, ?_⟩⟩
  rw [gpduKey, hteid]
  rfl

/-- A UDP packet to the address `a`, not for GTP-U, in an untagged frame. -/
structure IsPlainUdpFrame (a : UInt32) (f : List UInt8) : Prop extends IsUdpFrame f where
  /-- The destination address. -/
  daddr : slice f 30 4 = le32 a
  /-- The UDP port is not that of GTP-U. -/
  dest : slice f 36 2 ≠ be16 2152

/-- The key of such a packet is made of its destination, with no TEID. -/
theorem detect_of_isPlainUdpFrame {a : UInt32} {ctx : XdpMd} (h : IsPlainUdpFrame a ctx.data) :
    detect ctx = .tailCall ⟨0, interfaceValueCore, a⟩ := by
  have hl := h.length_le
  simp only [ethLen, ipLen, udpLen] at hl
  have hport : swab16 (load16 ctx.data (ethLen + ipLen + 2)) ≠ gtpUdpPort := by
    intro e
    -- The port that the parser reads is the two bytes there.
    have hbytes : le16 (load16 ctx.data 36) = slice ctx.data 36 2 := le16_load16 (by omega)
    have e' : swab16 (load16 ctx.data 36) = gtpUdpPort := e
    rw [le16_eq_be16, e'] at hbytes
    exact h.dest hbytes.symm
  have haddr : load32 ctx.data (ethLen + 16) = a := load32_of_slice h.daddr
  rw [detect_eq_tailCall_iff, h.ipv4Offset_eq]
  refine ⟨h.isIpv4Frame, .inr ⟨⟨h.isUdpAt, hport⟩, ?_⟩⟩
  rw [plainUdpKey, haddr]

end UpfBpf
