import UpfBpf.Rules

/-!
# Building a session

`pfcp_session::create` (`src/oai/pfcp/pfcp_session.cpp`) for a FAR and for a PDR: the checks in
their order, with the cause and the offending element of a refusal, and the rule that is added. A
PDR is accepted for the two source interfaces that the user plane knows. The F-TEID is asked for on
the access side only, but it is kept on either.

A PDR that is accepted is `WellFormed`.
-/

namespace UpfBpf

/-! ## Requests -/

/-- `pfcp::create_pdr`, with the elements that `pfcp_pdr` takes over. -/
structure CreatePdr where
  /-- The rule's identifier. -/
  pdr_id : Ie UInt16 := (false, 0)
  /-- The precedence. -/
  precedence : Ie UInt32 := (false, 0)
  /-- What the rule detects. -/
  pdi : Ie Pdi := (false, {})
  /-- The FAR that the rule selects. -/
  far_id : Ie UInt32 := (false, 0)
  deriving DecidableEq, Repr

/-- `pfcp::create_far`; of the duplicating parameters, only whether they are there. -/
structure CreateFar where
  /-- The rule's identifier. -/
  far_id : Ie UInt32 := (false, 0)
  /-- What to do with a packet. -/
  apply_action : Ie ApplyAction := (false, {})
  /-- Where to forward it, and how. -/
  forwarding_parameters : Ie ForwardingParameters := (false, {})
  /-- There are duplicating parameters. -/
  duplicating_parameters : Bool := false
  deriving DecidableEq, Repr

/-- The causes of a refusal. -/
inductive Cause
  /-- `CAUSE_VALUE_MANDATORY_IE_MISSING`. -/
  | mandatoryIeMissing
  /-- `CAUSE_VALUE_REQUEST_REJECTED`. -/
  | requestRejected
  /-- `CAUSE_VALUE_RULE_CREATION_MODIFICATION_FAILURE`. -/
  | ruleCreationModificationFailure
  deriving DecidableEq, Repr

/-- The elements that a refusal names. -/
inductive OffendingIe
  /-- `PFCP_IE_FAR_ID`. -/
  | farId
  /-- `PFCP_IE_APPLY_ACTION`. -/
  | applyAction
  /-- `PFCP_IE_FORWARDING_PARAMETERS`. -/
  | forwardingParameters
  /-- `PFCP_IE_DUPLICATING_PARAMETERS`. -/
  | duplicatingParameters
  /-- `PFCP_IE_PACKET_DETECTION_RULE_ID`. -/
  | packetDetectionRuleId
  /-- `PFCP_IE_PDI`. -/
  | pdi
  /-- `PFCP_IE_PRECEDENCE`. -/
  | precedence
  /-- `PFCP_IE_SOURCE_INTERFACE`. -/
  | sourceInterface
  /-- `PFCP_IE_F_TEID`. -/
  | fTeid
  deriving DecidableEq, Repr

/-- The number of an element in the protocol. -/
def OffendingIe.toNat : OffendingIe → ℕ
  | .farId => 108
  | .applyAction => 44
  | .forwardingParameters => 4
  | .duplicatingParameters => 5
  | .packetDetectionRuleId => 56
  | .pdi => 2
  | .precedence => 29
  | .sourceInterface => 20
  | .fTeid => 21

/-- A refusal: the cause, and the element that was written to `offending_ie`, if any was. -/
structure Refusal where
  /-- The cause. -/
  cause : Cause
  /-- The element. -/
  offending_ie : Option OffendingIe
  deriving DecidableEq, Repr

/-- The refusal of a request without a mandatory element. -/
def missing (ie : OffendingIe) : Refusal := ⟨.mandatoryIeMissing, some ie⟩

/-- The refusal of a request that asks for something else than the user plane supports. -/
def rejected : Refusal := ⟨.requestRejected, none⟩

/-! ## The calls -/

/-- `pfcp_far(const pfcp::create_far&)`. -/
def PfcpFar.ofCreate (cr_far : CreateFar) : PfcpFar where
  far_id := cr_far.far_id.2
  apply_action := cr_far.apply_action.2
  forwarding_parameters := cr_far.forwarding_parameters

/-- `pfcp_pdr(const pfcp::create_pdr&)`. -/
def PfcpPdr.ofCreate (cr_pdr : CreatePdr) : PfcpPdr where
  pdr_id := cr_pdr.pdr_id.2
  precedence := cr_pdr.precedence
  pdi := cr_pdr.pdi
  far_id := cr_pdr.far_id

/-- `pfcp_session::add` of a FAR. -/
def PfcpSession.addFar (s : PfcpSession) (far : PfcpFar) : PfcpSession :=
  { s with fars := s.fars ++ [far] }

/-- `pfcp_session::add` of a PDR. -/
def PfcpSession.addPdr (s : PfcpSession) (pdr : PfcpPdr) : PfcpSession :=
  { s with pdrs := s.pdrs ++ [pdr] }

/-- `pfcp_session::create` of a FAR. -/
def PfcpSession.createFar (s : PfcpSession) (cr_far : CreateFar) : Except Refusal PfcpSession :=
  if ¬ cr_far.far_id.1 then .error (missing .farId)
  else if ¬ cr_far.apply_action.1 then .error (missing .applyAction)
  else if cr_far.apply_action.2.forw ∧ ¬ cr_far.forwarding_parameters.1 then
    .error (missing .forwardingParameters)
  else if cr_far.apply_action.2.dupl ∧ ¬ cr_far.duplicating_parameters then
    .error (missing .duplicatingParameters)
  else .ok (s.addFar (.ofCreate cr_far))

/-- `pfcp_session::create` of a PDR. -/
def PfcpSession.createPdr (s : PfcpSession) (cr_pdr : CreatePdr) : Except Refusal PfcpSession :=
  if ¬ cr_pdr.pdr_id.1 then .error (missing .packetDetectionRuleId)
  else if ¬ cr_pdr.pdi.1 then .error (missing .pdi)
  else if ¬ cr_pdr.precedence.1 then .error (missing .precedence)
  else
    let pdi := cr_pdr.pdi.2
    if ¬ pdi.source_interface.1 then .error (missing .sourceInterface)
    else if pdi.traffic_endpoint_id.1 then .error rejected
    else if pdi.source_interface.2 = interfaceValueAccess then
      -- The F-TEID of the request is kept; the user plane allocates none.
      if ¬ pdi.local_fteid.1 then .error (missing .fTeid)
      else .ok (s.addPdr (.ofCreate cr_pdr))
    else if pdi.source_interface.2 = interfaceValueCore then
      .ok (s.addPdr (.ofCreate cr_pdr))
    else .error rejected

/-! ## Sessions that were built -/

/-- The session was built from an empty one by calls that were accepted. -/
inductive PfcpSession.Built : PfcpSession → Prop
  /-- A new session. -/
  | new (seid : UInt64) : Built { seid }
  /-- A FAR was created. -/
  | far {s s' : PfcpSession} (cr_far : CreateFar) (h : Built s) (e : s.createFar cr_far = .ok s') :
      Built s'
  /-- A PDR was created. -/
  | pdr {s s' : PfcpSession} (cr_pdr : CreatePdr) (h : Built s) (e : s.createPdr cr_pdr = .ok s') :
      Built s'

/-- A PDR with what the detector needs of it. -/
structure PfcpPdr.WellFormed (pdr : PfcpPdr) : Prop where
  /-- It has a precedence. -/
  precedence : pdr.precedence.1 = true
  /-- It has a PDI. -/
  pdi : pdr.pdi.1 = true
  /-- The PDI has a source interface. -/
  source_interface : pdr.pdi.2.source_interface.1 = true
  /-- It is the access side, with an F-TEID, or the core side. -/
  known : (pdr.pdi.2.source_interface.2 = interfaceValueAccess ∧
      pdr.pdi.2.local_fteid.1 = true) ∨ pdr.pdi.2.source_interface.2 = interfaceValueCore

section Create

variable {s s' : PfcpSession} {cr_far : CreateFar} {cr_pdr : CreatePdr}

/-- A FAR that is accepted is added, and nothing else changes. -/
theorem createFar_ok (h : s.createFar cr_far = .ok s') : s' = s.addFar (.ofCreate cr_far) := by
  unfold PfcpSession.createFar at h
  split_ifs at h
  exact (Except.ok.inj h).symm

/-- A PDR that is accepted is well formed. It is added, and nothing else changes. -/
theorem createPdr_ok (h : s.createPdr cr_pdr = .ok s') :
    s' = s.addPdr (.ofCreate cr_pdr) ∧ (PfcpPdr.ofCreate cr_pdr).WellFormed := by
  unfold PfcpSession.createPdr at h
  dsimp only at h
  split_ifs at h with hid hpdi hprec hsrc hendpoint haccess hteid hcore
  · exact ⟨(Except.ok.inj h).symm, hprec, hpdi, hsrc, .inl ⟨haccess, hteid⟩⟩
  · exact ⟨(Except.ok.inj h).symm, hprec, hpdi, hsrc, .inr hcore⟩

end Create

end UpfBpf
