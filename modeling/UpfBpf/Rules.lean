import Mathlib.Tactic.Ring

/-!
# The rules of a PFCP session

The information elements that the user plane works on, in the two forms in which the sources declare
them. `PfcpSession`, `PfcpPdr`, and `PfcpFar` are the control plane's classes (`src/oai/pfcp`),
where an optional element is a pair of a presence flag and a value, and the value can be read
whatever the flag says. `PfcpFarT` is the flat structure of `src/bpf/pfcp/pfcp_far.h` that a rule
program reads.

Words are the ones that memory holds. An address or a TEID is the number that a little-endian host
reads where the network's bytes are, so that a key or a rule is compared and copied without
conversion.
-/

namespace UpfBpf

/-! ## Enumerations -/

/-- `INTERFACE_VALUE_ACCESS` of `src/bpf/ie/destination_interface.h`, also used for the source
interface. -/
def interfaceValueAccess : UInt8 := 0

/-- `INTERFACE_VALUE_CORE`. -/
def interfaceValueCore : UInt8 := 1

/-- `OUTER_HEADER_CREATION_GTPU_UDP_IPV4` of `src/bpf/ie/outer_header_creation.h`. -/
def outerHeaderCreationGtpuUdpIpv4 : UInt16 := 0x0100

/-- `OUTER_HEADER_CREATION_UDP_IPV4`. -/
def outerHeaderCreationUdpIpv4 : UInt16 := 0x0400

/-- `FlowDirection` of `include/types.h`: the entries of `m_redirect_interfaces`. -/
inductive FlowDirection
  /-- Towards the access network. -/
  | DOWNLINK
  /-- Towards the data network. -/
  | UPLINK
  deriving DecidableEq, Repr

/-- The number of an entry. -/
def FlowDirection.toNat : FlowDirection → ℕ
  | .DOWNLINK => 0
  | .UPLINK => 1

/-! ## Apply Action -/

/-- Apply Action (8.2.26): one octet of bit fields, declared alike in
`src/oai/common/3gpp_29.244.h` and `src/bpf/ie/apply_action.h`. -/
structure ApplyAction where
  /-- The three spare bits. -/
  spare : BitVec 3 := 0
  /-- Duplicate. -/
  dupl : Bool := false
  /-- Notify the control plane. -/
  nocp : Bool := false
  /-- Buffer. -/
  buff : Bool := false
  /-- Forward. -/
  forw : Bool := false
  /-- Drop. -/
  drop : Bool := false
  deriving DecidableEq, Repr

/-- The octet in memory; the first bit field takes the lowest bits. -/
def ApplyAction.toByte (a : ApplyAction) : UInt8 :=
  UInt8.ofNat (a.spare.toNat + 2^3 * a.dupl.toNat + 2^4 * a.nocp.toNat + 2^5 * a.buff.toNat +
    2^6 * a.forw.toNat + 2^7 * a.drop.toNat)

/-- The bit fields of an octet in memory. -/
def ApplyAction.ofByte (b : UInt8) : ApplyAction where
  spare := BitVec.ofNat 3 b.toNat
  dupl := b.toNat.testBit 3
  nocp := b.toNat.testBit 4
  buff := b.toNat.testBit 5
  forw := b.toNat.testBit 6
  drop := b.toNat.testBit 7

/-- A copy of the octet keeps every field. -/
theorem ApplyAction.ofByte_toByte (a : ApplyAction) : ofByte a.toByte = a := by
  obtain ⟨spare, dupl, nocp, buff, forw, drop⟩ := a
  revert spare
  cases dupl <;> cases nocp <;> cases buff <;> cases forw <;> cases drop <;> decide

/-! ## The control plane's rules -/

/-- `std::pair<bool, T>`, an optional information element. -/
abbrev Ie (T : Type) : Type := Bool × T

/-- The `get` of an optional element: the value when the element is present. -/
def Ie.get {T : Type} (ie : Ie T) : Option T := if ie.1 then some ie.2 else none

/-- What is got is the value of an element that is present. -/
theorem Ie.get_eq_some_iff {T : Type} {ie : Ie T} {v : T} :
    Ie.get ie = some v ↔ ie.1 = true ∧ ie.2 = v := by
  simp [Ie.get]

/-- `pfcp::pdi`, the Packet Detection Information. -/
structure Pdi where
  /-- The interface value of the Source Interface. -/
  source_interface : Ie UInt8 := (false, 0)
  /-- The TEID of the local F-TEID. -/
  local_fteid : Ie UInt32 := (false, 0)
  /-- The IPv4 address of the UE IP Address. -/
  ue_ip_address : Ie UInt32 := (false, 0)
  /-- The Traffic Endpoint ID. -/
  traffic_endpoint_id : Ie UInt8 := (false, 0)
  deriving DecidableEq, Repr

/-- `pfcp::pfcp_pdr`, a Packet Detection Rule. -/
structure PfcpPdr where
  /-- The rule's identifier. -/
  pdr_id : UInt16 := 0
  /-- The precedence; the lowest value is the highest precedence. -/
  precedence : Ie UInt32 := (false, 0)
  /-- What the rule detects. -/
  pdi : Ie Pdi := (false, {})
  /-- The FAR that the rule selects. -/
  far_id : Ie UInt32 := (false, 0)
  deriving DecidableEq, Repr

/-- `pfcp::outer_header_creation_t` (8.2.56). -/
structure OuterHeaderCreation where
  /-- Which header is created. -/
  outer_header_creation_description : UInt16 := 0
  /-- The TEID of a GTP-U header. -/
  teid : UInt32 := 0
  /-- The peer's address. -/
  ipv4_address : UInt32 := 0
  /-- The peer's port, in host order. -/
  port_number : UInt16 := 0
  deriving DecidableEq, Repr

/-- `pfcp::forwarding_parameters`. -/
structure ForwardingParameters where
  /-- The interface value of the Destination Interface. -/
  destination_interface : Ie UInt8 := (false, 0)
  /-- The Outer Header Creation. -/
  outer_header_creation : Ie OuterHeaderCreation := (false, {})
  deriving DecidableEq, Repr

/-- `pfcp::pfcp_far`, a Forwarding Action Rule. -/
structure PfcpFar where
  /-- The rule's identifier. -/
  far_id : UInt32 := 0
  /-- What to do with a packet. -/
  apply_action : ApplyAction := {}
  /-- Where to forward it, and how. -/
  forwarding_parameters : Ie ForwardingParameters := (false, {})
  deriving DecidableEq, Repr

/-- `pfcp::pfcp_session`. -/
structure PfcpSession where
  /-- The user plane's SEID. -/
  seid : UInt64 := 0
  /-- The detection rules. -/
  pdrs : List PfcpPdr := []
  /-- The forwarding rules. -/
  fars : List PfcpFar := []
  deriving DecidableEq, Repr

/-- `pfcp_session::get` of a FAR: the first one with the identifier. -/
def PfcpSession.getFar (s : PfcpSession) (far_id : UInt32) : Option PfcpFar :=
  s.fars.find? fun f => f.far_id == far_id

/-! ## The rule program's FAR -/

/-- `pfcp_far_t_` of `src/bpf/pfcp/pfcp_far.h`, the value of `m_far`, with the forwarding parameters
that the rule program reads. -/
structure PfcpFarT where
  /-- The rule's identifier. -/
  far_id : UInt32 := 0
  /-- What to do with a packet. -/
  apply_action : ApplyAction := {}
  /-- The Destination Interface. -/
  destination_interface : UInt8 := 0
  /-- The Outer Header Creation. -/
  outer_header_creation : OuterHeaderCreation := {}
  deriving DecidableEq, Repr

/-- The copy of a FAR that `createPipeline` stores in `m_far`: the values of the pairs, whatever
their flags, and the Apply Action octet by `memcpy`. -/
def farOf (pFar : PfcpFar) : PfcpFarT where
  far_id := pFar.far_id
  apply_action := ApplyAction.ofByte pFar.apply_action.toByte
  destination_interface := pFar.forwarding_parameters.2.destination_interface.2
  outer_header_creation := pFar.forwarding_parameters.2.outer_header_creation.2

/-- The stored Apply Action is the FAR's. -/
@[simp] theorem farOf_apply_action (pFar : PfcpFar) :
    (farOf pFar).apply_action = pFar.apply_action :=
  ApplyAction.ofByte_toByte _

end UpfBpf
