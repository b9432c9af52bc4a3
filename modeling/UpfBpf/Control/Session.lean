import UpfBpf.Control.Pipeline
import UpfBpf.Lib.Run
import Mathlib.Data.List.Sort

/-!
# Sessions

`SessionManager::createBPFSession` and `removeBPFSession` (`src/SessionManager.cpp`), and the runs
that they make up. `createBPFSession` sorts the PDRs of the session that it is given, in place,
takes the key from the first one and the FAR that it names, and deploys a pipeline for them. The
SEID is 64 bits wide here and in `mSeidToSession`, and 32 bits wide in the registry of pipelines.
-/

namespace UpfBpf

/-- `comparePDR`. A precedence that is absent is a variable that was never written. -/
def comparePDR (env : Env) (pFirst pSecond : PfcpPdr) : Bool :=
  decide ((Ie.get pFirst.precedence).getD (env.uninitialised pFirst pSecond).1 <
    (Ie.get pSecond.precedence).getD (env.uninitialised pFirst pSecond).2)

/-- The session after `std::sort`. -/
def sortPdrs (env : Env) (pSession : PfcpSession) : PfcpSession :=
  { pSession with pdrs := env.stdSort (comparePDR env) pSession.pdrs }

/-- What a pipeline is made of. -/
structure Pipeline where
  /-- The key: TEID, source interface, and UE address. -/
  key : NextRuleProgIndexKey
  /-- The FAR. -/
  pFar : PfcpFar
  deriving DecidableEq, Repr

/-- The key of a PDR: its PDI, and the TEID, source interface, and UE address there. -/
def PfcpPdr.key (pdr : PfcpPdr) : Option NextRuleProgIndexKey := do
  let pdi ← Ie.get pdr.pdi
  let teid ← Ie.get pdi.local_fteid
  let sourceInterface ← Ie.get pdi.source_interface
  let ueIpAddress ← Ie.get pdi.ue_ip_address
  return ⟨teid, sourceInterface, ueIpAddress⟩

/-- The FAR of a PDR in its session. -/
def PfcpSession.farOfPdr (pSession : PfcpSession) (pdr : PfcpPdr) : Option PfcpFar := do
  pSession.getFar (← Ie.get pdr.far_id)

/-- What `createBPFSession` extracts from a sorted session. -/
def extractPipeline (pSession : PfcpSession) : Except Err Pipeline :=
  match pSession.pdrs with
  | [] => .error .noPdr
  | pdrHighPriority :: _ =>
    match pdrHighPriority.key, pSession.farOfPdr pdrHighPriority with
    | some key, some pFar => .ok ⟨key, pFar⟩
    | _, _ => .error .noFields

section Calls

variable (ifs : Interfaces)

/-- `createBPFSession` once the session is sorted. -/
def deploy (env : Env) (pSession : PfcpSession) : M Unit := do
  match extractPipeline pSession with
  | .error e => throw e
  | .ok ⟨key, pFar⟩ =>
    createPipeline ifs env pSession.seid.toUInt32 key pFar
    modify fun s => { s with mSeidToSession := s.mSeidToSession.insert pSession.seid pSession }

/-- `createBPFSession`, with the caller's session as the call leaves it. -/
def createBPFSession (env : Env) (pSession : PfcpSession) (s : State) :
    EStateM.Result Err State Unit × PfcpSession :=
  (deploy ifs env (sortPdrs env pSession) s, sortPdrs env pSession)

/-- `removeBPFSession`. -/
def removeBPFSession (seid : UInt64) : M Unit := do
  match (← get).mSeidToSession.lookup seid with
  | none => throw .noSession
  | some _ => removePipeline seid.toUInt32

/-- A call of the session manager. -/
inductive Call
  /-- Deploys a session, and what the outside does meanwhile. -/
  | createBPFSession (pSession : PfcpSession) (env : Env)
  /-- Removes the session with the SEID. -/
  | removeBPFSession (seid : UInt64)

/-- What a call ends with. -/
def Call.result (s : State) : Call → EStateM.Result Err State Unit
  | .createBPFSession pSession env => (UpfBpf.createBPFSession ifs env pSession s).1
  | .removeBPFSession seid => UpfBpf.removeBPFSession seid s

/-- The state that a computation leaves, whether it returned or threw. -/
def stateAfter {α : Type} : EStateM.Result Err State α → State
  | .ok _ s => s
  | .error _ s => s

/-- The computation returned. -/
def Returned {α : Type} : EStateM.Result Err State α → Prop
  | .ok _ _ => True
  | .error _ _ => False

/-- The call returns, and does not throw. -/
def Call.Returns (s : State) (c : Call) : Prop := Returned (c.result ifs s)

/-- The state after a call. -/
def step (s : State) (c : Call) : State := stateAfter (c.result ifs s)

/-- The state after a run of calls, from what `UserPlaneComponent::setup` leaves. -/
def run (calls : List Call) : State := calls.foldl (step ifs) {}

/-- A run in two parts. -/
theorem run_append (pre post : List Call) :
    run ifs (pre ++ post) = post.foldl (step ifs) (run ifs pre) :=
  List.foldl_append

/-- The call wrote the key into `m_next_rule_prog_index`: it is a `createBPFSession` whose pipeline
has that key, and `createPipeline` came past its first map update. -/
def Call.WritesIndex (s : State) (key : NextRuleProgIndexKey) : Call → Prop
  | .createBPFSession pSession env => ∃ pFar,
    extractPipeline (sortPdrs env pSession) = .ok ⟨key, pFar⟩ ∧
      Returned (publishIndex ifs env key s)
  | .removeBPFSession _ => False

end Calls

/-! ## Sample values

An interface of each kind, an outside that does what it is asked, and the uplink session of
`tests/SessionManagerTests.cpp` for an SEID and a TEID. -/

/-- Two interfaces. -/
def sampleInterfaces : LinkedInterfaces where
  udpInterfaceIndex := 3
  gtpInterfaceIndex := 4
  udp_ne := by decide
  gtp_ne := by decide

/-- Nothing fails, and `std::sort` is an insertion sort. -/
def sampleEnv : Env where
  stdSort less := List.insertionSort fun a b => !less b a

/-- A FAR that forwards to the data network. -/
def sampleFar : PfcpFar where
  far_id := 10
  apply_action := { forw := true }
  forwarding_parameters := (true, {
    destination_interface := (true, interfaceValueCore)
    outer_header_creation := (true, ⟨outerHeaderCreationUdpIpv4, 0, 0, 0⟩) })

/-- A session with one PDR and its FAR. -/
def sampleSession (seid : UInt64) (teid : UInt32) : PfcpSession where
  seid := seid
  pdrs := [{
    pdr_id := 10
    precedence := (true, 0)
    pdi := (true, {
      source_interface := (true, interfaceValueAccess)
      local_fteid := (true, teid)
      ue_ip_address := (true, 0x0a0a0a0a) })
    far_id := (true, 10) }]
  fars := [sampleFar]

/-- The call that deploys it. -/
def sampleCreate (seid : UInt64) (teid : UInt32) : Call :=
  .createBPFSession (sampleSession seid teid) sampleEnv

end UpfBpf
