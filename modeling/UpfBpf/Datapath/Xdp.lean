import UpfBpf.Lib.Bytes
import UpfBpf.Lib.Tables
import UpfBpf.Rules

/-!
# The XDP context

What an XDP program sees of a frame and what it can do with it. `XdpMd` is the frame between
`data` and `data_end` together with the headroom in front of it, whose bytes are whatever the driver
left there. The helpers follow the kernel's documentation: `bpf_xdp_adjust_head` moves `data` and
refuses to leave the headroom or to leave less than an Ethernet header, and `bpf_redirect_map`
returns the lower bits of its flags, here zero, when the entry is empty.
-/

namespace UpfBpf

open Bytes

/-! ## Verdicts -/

/-- An XDP action; a redirect with the entry of `m_redirect_interfaces` that it goes to. -/
inductive Verdict
  /-- `XDP_ABORTED`. -/
  | aborted
  /-- `XDP_DROP`. -/
  | drop
  /-- `XDP_PASS`: the frame goes to the host's stack. -/
  | pass
  /-- `XDP_TX`. -/
  | tx
  /-- `XDP_REDIRECT`. -/
  | redirect (entry : FlowDirection)
  deriving DecidableEq, Repr

/-- The number of an action; `XDP_ACTION_MAX` is 5. -/
def Verdict.action : Verdict → Fin 5
  | .aborted => 0
  | .drop => 1
  | .pass => 2
  | .tx => 3
  | .redirect _ => 4

/-! ## Frames -/

/-- `struct xdp_md`: the frame, and the headroom before it. -/
structure XdpMd where
  /-- The bytes that `data` may be moved back over. -/
  headroom : List UInt8
  /-- The bytes from `data` to `data_end`. -/
  data : List UInt8
  deriving DecidableEq, Repr

/-- `sizeof(struct ethhdr)`. -/
def ethLen : ℕ := 14

/-- `sizeof(struct iphdr)`, without options. -/
def ipLen : ℕ := 20

/-- `sizeof(struct udphdr)`. -/
def udpLen : ℕ := 8

/-- `sizeof(struct gtpuhdr)`, without options. -/
def gtpLen : ℕ := 8

/-- `GTP_ENCAPSULATED_SIZE` of `src/bpf/protocols/gtpu.h`. -/
def gtpEncapsulatedSize : ℕ := ipLen + udpLen + gtpLen

/-- `GTP_UDP_PORT`. -/
def gtpUdpPort : UInt16 := 2152

/-- `GTPU_G_PDU`. -/
def gtpuGPdu : UInt8 := 255

/-- `IPPROTO_UDP`. -/
def ipprotoUdp : UInt8 := 17

/-- `bpf_xdp_adjust_head`: moves `data` by `delta`. The first component is false when the kernel
refuses, and the frame is then as it was. -/
def bpfXdpAdjustHead (ctx : XdpMd) (delta : ℤ) : Bool × XdpMd :=
  let keep := ctx.headroom.length - delta.natAbs
  if 0 ≤ delta then
    if delta.natAbs + ethLen ≤ ctx.data.length then
      (true, ⟨ctx.headroom ++ ctx.data.take delta.natAbs, ctx.data.drop delta.natAbs⟩)
    else (false, ctx)
  else
    if delta.natAbs ≤ ctx.headroom.length ∧ ethLen ≤ delta.natAbs + ctx.data.length then
      (true, ⟨ctx.headroom.take keep, ctx.headroom.drop keep ++ ctx.data⟩)
    else (false, ctx)

/-- Moving `data` forward over `n` bytes. -/
theorem bpfXdpAdjustHead_forward {ctx : XdpMd} {n : ℕ} (h : n + ethLen ≤ ctx.data.length) :
    bpfXdpAdjustHead ctx n = (true, ⟨ctx.headroom ++ ctx.data.take n, ctx.data.drop n⟩) := by
  simp [bpfXdpAdjustHead, h]

/-- Moving `data` back over `n` bytes of headroom. -/
theorem bpfXdpAdjustHead_back (ctx : XdpMd) {n : ℕ} (hn : 0 < n) (h : n ≤ ctx.headroom.length)
    (he : ethLen ≤ ctx.data.length) :
    bpfXdpAdjustHead ctx (-n) = (true, ⟨ctx.headroom.take (ctx.headroom.length - n),
      ctx.headroom.drop (ctx.headroom.length - n) ++ ctx.data⟩) := by
  have hle : ethLen ≤ n + ctx.data.length := by omega
  simp [bpfXdpAdjustHead, hn.ne', h, hle]

/-! ## The maps of a rule program -/

/-- A MAC address. -/
structure Mac where
  /-- Its octets. -/
  bytes : List UInt8
  /-- `ETH_ALEN` of them. -/
  length_eq : bytes.length = 6

/-- `m_arp_table`: the MAC addresses of the next hops. -/
abbrev ArpTable : Type := BoundedMap 2 UInt32 Mac

/-- `m_redirect_interfaces`: the interface of each direction. -/
abbrev RedirectInterfaces : Type := SlotArray 10 UInt32

/-- What an entry of a `BPF_MAP_TYPE_DEVMAP` holds once an interface index is written to it: the
kernel takes index zero for no interface, and the entry is empty then. -/
def devmapEntry (ifIndex : UInt32) : Option UInt32 := if ifIndex = 0 then none else some ifIndex

/-- `bpf_redirect_map(&m_redirect_interfaces, entry, 0)`. -/
def bpfRedirectMap (m : RedirectInterfaces) (entry : FlowDirection) : Verdict :=
  match m.get entry.toNat with
  | some _ => .redirect entry
  | none => .aborted

theorem bpfRedirectMap_eq {m : RedirectInterfaces} {entry : FlowDirection} {ifIndex : UInt32}
    (h : m.get entry.toNat = some ifIndex) : bpfRedirectMap m entry = .redirect entry := by
  rw [bpfRedirectMap, h]

/-- A redirect names its own entry, or the frame is aborted. -/
theorem bpfRedirectMap_eq_or (m : RedirectInterfaces) (entry : FlowDirection) :
    bpfRedirectMap m entry = .redirect entry ∨ bpfRedirectMap m entry = .aborted := by
  unfold bpfRedirectMap
  cases m.get entry.toNat with
  | some ifIndex => exact .inl rfl
  | none => exact .inr rfl

/-- A redirect names its own entry, if any. -/
theorem bpfRedirectMap_eq_redirect {m : RedirectInterfaces} {entry e : FlowDirection}
    (h : bpfRedirectMap m entry = .redirect e) : e = entry := by
  rcases bpfRedirectMap_eq_or m entry with h' | h' <;> rw [h'] at h <;> cases h
  rfl

/-- A redirect is no drop. -/
theorem bpfRedirectMap_ne_drop (m : RedirectInterfaces) (entry : FlowDirection) :
    bpfRedirectMap m entry ≠ .drop := by
  rcases bpfRedirectMap_eq_or m entry with h | h <;> simp [h]

/-- Nor does it pass the frame. -/
theorem bpfRedirectMap_ne_pass (m : RedirectInterfaces) (entry : FlowDirection) :
    bpfRedirectMap m entry ≠ .pass := by
  rcases bpfRedirectMap_eq_or m entry with h | h <;> simp [h]

end UpfBpf
