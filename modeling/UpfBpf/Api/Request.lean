import UpfBpf.Editing
import UpfBpf.Datapath.Xdp

/-!
# The body of a request

What `Controller::createSesssion` (`tests/api/Controller.cpp`) makes of the body of a request: a
session, with the rules that the factory of `tests/InformationElementFactory.hpp` builds. A body has
all of its members. Its numbers are the 64-bit words in which the JSON library keeps integers, and a
conversion to a narrower type cuts them off. Names are looked up with `operator[]` of a map, so that
a name that is not there stands for zero, which is the access interface and no outer header.

An address is read by `inet_aton` of the C library, which is a parameter, as is `ether_aton`.
-/

namespace UpfBpf

open Bytes

/-! ## Words and names -/

/-- A word in the network's byte order. -/
def be32 (n : ℕ) : List UInt8 :=
  [UInt8.ofNat (n / 2^24), UInt8.ofNat (n / 2^16), UInt8.ofNat (n / 2^8), UInt8.ofNat n]

/-- `htonl`, on a little-endian host. -/
def htonl (hostlong : UInt32) : UInt32 := load32 (be32 hostlong.toNat) 0

/-- `sMapInterface[name]`. -/
def sMapInterface (name : String) : UInt8 :=
  if name = "INTERFACE_VALUE_CORE" then interfaceValueCore
  else if name = "INTERFACE_VALUE_ACCESS" then interfaceValueAccess
  else 0

/-- `sMapOuterHeader[name]`. -/
def sMapOuterHeader (name : String) : UInt32 :=
  if name = "OUTER_HEADER_CREATION_GTPU_UDP_IPV4" then
    outerHeaderCreationGtpuUdpIpv4.toUInt32
  else if name = "OUTER_HEADER_CREATION_UDP_IPV4" then
    outerHeaderCreationUdpIpv4.toUInt32
  else if name = "OUTER_HEADER_REMOVAL_UDP_IPV4" then 2
  else if name = "OUTER_HEADER_REMOVAL_GTPU_UDP_IPV4" then 0
  else 0

/-- Every name stands for one of the two interfaces. -/
theorem sMapInterface_cases (name : String) :
    sMapInterface name = interfaceValueAccess ∨ sMapInterface name = interfaceValueCore := by
  unfold sMapInterface
  split_ifs
  · exact .inr rfl
  · exact .inl rfl
  · exact .inl rfl

/-! ## The factory -/

/-- `createOaiPDR`; the outer header removal is not kept. -/
def createOaiPDR (pdrId : UInt16) (farId teid : UInt32) (sourceInterface : UInt8)
    (ueIPv4 precedence : UInt32) : CreatePdr where
  pdr_id := (true, pdrId)
  far_id := (true, farId)
  precedence := (true, precedence)
  pdi := (true, {
    local_fteid := (true, teid)
    source_interface := (true, sourceInterface)
    ue_ip_address := (true, ueIPv4) })

/-- `createOaiFAR`. The TEID of the outer header is not among its arguments. -/
def createOaiFAR (farId : UInt32) (actions : ApplyAction) (destinationInterface : UInt8)
    (outerHeadeCreation : UInt16) (destinationIPv4 : UInt32) (destinationPort : UInt16) :
    CreateFar where
  far_id := (true, farId)
  apply_action := (true, { forw := actions.forw })
  forwarding_parameters := (true, {
    outer_header_creation := (true, {
      outer_header_creation_description := outerHeadeCreation
      ipv4_address := destinationIPv4
      port_number := destinationPort })
    destination_interface := (true, destinationInterface) })

/-! ## Bodies -/

/-- An element of `pdrs`, with the members of its `pdi`. -/
structure PdrJson where
  pdrId : UInt64
  farId : UInt64
  teid : UInt64
  sourceInterface : String
  ueIPAddress : String
  precedence : UInt64
  deriving DecidableEq, Repr

/-- An element of `fars`, with the members of its `forwardingParameters`. -/
structure FarJson where
  farId : UInt64
  destinationInterface : String
  outerHeaderCreationDescription : String
  ipv4Address : String
  portNumber : UInt64
  deriving DecidableEq, Repr

/-- An element of `arpTable`. -/
structure ArpJson where
  ip : String
  mac : String
  deriving DecidableEq, Repr

/-- The body of a `POST /createSession`. -/
structure SessionJson where
  seid : UInt64
  pdrs : List PdrJson
  fars : List FarJson
  arpTable : List ArpJson
  deriving DecidableEq, Repr

/-- The functions of the C library that read text. -/
structure Libc where
  /-- `inet_aton`: the address as memory holds it, or none when it returns zero. -/
  inet_aton : String → Option UInt32
  /-- `ether_aton`: none for a null pointer. -/
  ether_aton : String → Option Mac

/-! ## Sessions -/

section Parse

variable (libc : Libc)

/-- The request for the PDR of an element, with the UE's address as `Util::convertIpToInet` gives
it. -/
def PdrJson.createPdr (element : PdrJson) (ueIPv4 : UInt32) : CreatePdr :=
  createOaiPDR element.pdrId.toUInt16 element.farId.toUInt32 (htonl element.teid.toUInt32)
    (sMapInterface element.sourceInterface) ueIPv4 element.precedence.toUInt32

/-- The request for the FAR of an element. FORW is set, whatever the body says. -/
def FarJson.createFar (element : FarJson) (destinationIPv4 : UInt32) : CreateFar :=
  createOaiFAR element.farId.toUInt32 { forw := true } (sMapInterface element.destinationInterface)
    (sMapOuterHeader element.outerHeaderCreationDescription).toUInt16 destinationIPv4
    element.portNumber.toUInt16

/-- The loop over `pdrs`. The result of `create` is not looked at. No value is the exception of
`Util::convertIpToInet`. -/
def addPdrs (pSession : PfcpSession) : List PdrJson → Option PfcpSession
  | [] => some pSession
  | element :: pdrs => do
    let ueIPv4 ← libc.inet_aton element.ueIPAddress
    addPdrs (pSession.edit (.createPdr (element.createPdr ueIPv4))) pdrs

/-- The loop over `fars`. -/
def addFars (pSession : PfcpSession) : List FarJson → Option PfcpSession
  | [] => some pSession
  | element :: fars => do
    let destinationIPv4 ← libc.inet_aton element.ipv4Address
    addFars (pSession.edit (.createFar (element.createFar destinationIPv4))) fars

/-- The session that `createSesssion` hands to the session manager. -/
def SessionJson.session (jRequest : SessionJson) : Option PfcpSession := do
  let pSession ← addPdrs libc { seid := jRequest.seid } jRequest.pdrs
  addFars libc pSession jRequest.fars

/-- The PDR of an element. -/
def PdrJson.pdr (element : PdrJson) : PfcpPdr :=
  .ofCreate (element.createPdr ((libc.inet_aton element.ueIPAddress).getD 0))

/-- The FAR of an element. -/
def FarJson.far (element : FarJson) : PfcpFar :=
  .ofCreate (element.createFar ((libc.inet_aton element.ipv4Address).getD 0))

variable {libc}

/-- The factory's PDRs are accepted. -/
theorem edit_createPdr (s : PfcpSession) (element : PdrJson) (ueIPv4 : UInt32) :
    s.edit (.createPdr (element.createPdr ueIPv4)) =
      s.addPdr (.ofCreate (element.createPdr ueIPv4)) := by
  have hok : s.createPdr (element.createPdr ueIPv4) =
      .ok (s.addPdr (.ofCreate (element.createPdr ueIPv4))) := by
    rcases sMapInterface_cases element.sourceInterface with h | h
    · simp [PfcpSession.createPdr, PdrJson.createPdr, createOaiPDR, h]
    · have hne : interfaceValueCore ≠ interfaceValueAccess := by decide
      simp [PfcpSession.createPdr, PdrJson.createPdr, createOaiPDR, h, hne]
  simp only [PfcpSession.edit, Edit.result, hok]

/-- The factory's FARs are accepted. -/
theorem edit_createFar (s : PfcpSession) (element : FarJson) (destinationIPv4 : UInt32) :
    s.edit (.createFar (element.createFar destinationIPv4)) =
      s.addFar (.ofCreate (element.createFar destinationIPv4)) := by
  have hok : s.createFar (element.createFar destinationIPv4) =
      .ok (s.addFar (.ofCreate (element.createFar destinationIPv4))) := by
    simp [PfcpSession.createFar, FarJson.createFar, createOaiFAR]
  simp only [PfcpSession.edit, Edit.result, hok]

/-- The loop over `pdrs` adds a PDR for each element, if every address is one. -/
theorem addPdrs_eq_some_iff {s s' : PfcpSession} {pdrs : List PdrJson} :
    addPdrs libc s pdrs = some s' ↔
      (∀ element ∈ pdrs, libc.inet_aton element.ueIPAddress ≠ none) ∧
        s' = { s with pdrs := s.pdrs ++ pdrs.map (PdrJson.pdr libc) } := by
  induction pdrs generalizing s with
  | nil => simp [addPdrs, eq_comm]
  | cons element pdrs ih =>
    rw [addPdrs]
    cases ha : libc.inet_aton element.ueIPAddress with
    | none => simp [ha]
    | some ueIPv4 =>
      simp [ih, edit_createPdr, PfcpSession.addPdr, PdrJson.pdr, ha]

/-- The loop over `fars` adds a FAR for each element, if every address is one. -/
theorem addFars_eq_some_iff {s s' : PfcpSession} {fars : List FarJson} :
    addFars libc s fars = some s' ↔
      (∀ element ∈ fars, libc.inet_aton element.ipv4Address ≠ none) ∧
        s' = { s with fars := s.fars ++ fars.map (FarJson.far libc) } := by
  induction fars generalizing s with
  | nil => simp [addFars, eq_comm]
  | cons element fars ih =>
    rw [addFars]
    cases ha : libc.inet_aton element.ipv4Address with
    | none => simp [ha]
    | some destinationIPv4 =>
      simp [ih, edit_createFar, PfcpSession.addFar, FarJson.far, ha]

/-- A body gives a session exactly when every address in its rules is one. The session has a PDR for
each element of `pdrs` and a FAR for each of `fars`, in their order. -/
theorem session_eq_some_iff {jRequest : SessionJson} {s : PfcpSession} :
    jRequest.session libc = some s ↔
      (∀ element ∈ jRequest.pdrs, libc.inet_aton element.ueIPAddress ≠ none) ∧
        (∀ element ∈ jRequest.fars, libc.inet_aton element.ipv4Address ≠ none) ∧
        s = ⟨jRequest.seid, jRequest.pdrs.map (PdrJson.pdr libc),
          jRequest.fars.map (FarJson.far libc)⟩ := by
  rw [SessionJson.session, Option.bind_eq_bind, Option.bind_eq_some_iff]
  constructor
  · rintro ⟨s', hp, hf⟩
    obtain ⟨hpdrs, rfl⟩ := addPdrs_eq_some_iff.1 hp
    obtain ⟨hfars, rfl⟩ := addFars_eq_some_iff.1 hf
    exact ⟨hpdrs, hfars, by simp⟩
  · rintro ⟨hpdrs, hfars, rfl⟩
    refine ⟨_, addPdrs_eq_some_iff.2 ⟨hpdrs, rfl⟩, addFars_eq_some_iff.2 ⟨hfars, ?_⟩⟩
    simp

end Parse

/-! ## Sample values

A body like those of `tests/api/requests_body`, with a PDR and a FAR for either direction, and the C
library on the texts in it. -/

/-- The texts of the sample body. -/
def sampleLibc : Libc where
  inet_aton ip :=
    if ip = "10.10.10.10" then some 0x0a0a0a0a
    else if ip = "10.1.3.27" then some 0x1b03010a
    else if ip = "8.8.8.8" then some 0x08080808
    else none
  ether_aton mac :=
    if mac = "90:e2:ba:27:fd:3d" then some ⟨[0x90, 0xe2, 0xba, 0x27, 0xfd, 0x3d], rfl⟩ else none

/-- The uplink PDR, with a precedence. -/
def sampleUplinkPdr (precedence : UInt64) : PdrJson where
  pdrId := 10
  farId := 100
  teid := 100
  sourceInterface := "INTERFACE_VALUE_ACCESS"
  ueIPAddress := "10.10.10.10"
  precedence := precedence

/-- The downlink PDR, with a precedence. -/
def sampleDownlinkPdr (precedence : UInt64) : PdrJson where
  pdrId := 20
  farId := 200
  teid := 0
  sourceInterface := "INTERFACE_VALUE_CORE"
  ueIPAddress := "10.10.10.10"
  precedence := precedence

/-- The uplink FAR. -/
def sampleUplinkFar : FarJson where
  farId := 100
  destinationInterface := "INTERFACE_VALUE_CORE"
  outerHeaderCreationDescription := "OUTER_HEADER_CREATION_UDP_IPV4"
  ipv4Address := "10.1.3.27"
  portNumber := 1234

/-- The downlink FAR. -/
def sampleDownlinkFar : FarJson where
  farId := 200
  destinationInterface := "INTERFACE_VALUE_ACCESS"
  outerHeaderCreationDescription := "OUTER_HEADER_CREATION_GTPU_UDP_IPV4"
  ipv4Address := "10.1.3.27"
  portNumber := 1234

/-- The body, with the precedences of its two PDRs. -/
def sampleBody (seid uplink downlink : UInt64) : SessionJson where
  seid := seid
  pdrs := [sampleDownlinkPdr downlink, sampleUplinkPdr uplink]
  fars := [sampleDownlinkFar, sampleUplinkFar]
  arpTable := [⟨"8.8.8.8", "90:e2:ba:27:fd:3d"⟩, ⟨"10.1.3.27", "90:e2:ba:27:fd:3d"⟩]

end UpfBpf
