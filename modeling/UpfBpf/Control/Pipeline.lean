import UpfBpf.Control.Program
import UpfBpf.Datapath.Parser

/-!
# Deploying and removing a pipeline

`SessionProgramManager::createPipeline` and `removePipeline` (`src/SessionProgramManager.cpp`) on
the state that they share with the datapath: the two maps of the entry program, the registry of
deployed pipelines, and the FAR programs. A FAR program is named by its place in the list of all
that were ever constructed, which is how the objects that hold a pointer to it, and a slot of the
prog array that holds a reference to it, name it here. A program that is torn down stays in the
list: the kernel keeps a program as long as a slot refers to it.

`createPipeline` is cut after its first map update, so that a statement can say that a call wrote a
key into the index, whatever came of the call afterwards.
-/

namespace UpfBpf

open Effect

/-- `SessionPrograms`: what the registry keeps of a pipeline. -/
structure SessionPrograms where
  /-- The key under which the pipeline was published. -/
  mKey : NextRuleProgIndexKey
  /-- Its program. -/
  mpFARProgram : ℕ
  deriving DecidableEq, Repr

/-- The state of the user plane. -/
structure State where
  /-- The index of the program of a key. -/
  m_next_rule_prog_index : BoundedMap 10 NextRuleProgIndexKey UInt32 := BoundedMap.empty
  /-- The prog array: the program in each slot. -/
  m_next_rule_prog : SlotArray 10 ℕ := SlotArray.empty
  /-- The registry of the deployed pipelines. -/
  mSessionProgramsMap : AList (fun _ : UInt32 => SessionPrograms) := ∅
  /-- The sessions that `SessionManager` has seen. -/
  mSeidToSession : AList (fun _ : UInt64 => PfcpSession) := ∅
  /-- `BPFProgram::sIdCounter`. -/
  sIdCounter : UInt32 := 1
  /-- The FAR programs, in the order of their construction. -/
  programs : List FARProgram := []

/-- The program that the datapath runs for a key: the index, then the slot. The tail call falls
through when there is no such slot, or nothing in it. -/
def tailCallNextProg (s : State) (key : NextRuleProgIndexKey) : Option ℕ :=
  (s.m_next_rule_prog_index.lookup key).bind fun index_prog =>
    s.m_next_rule_prog.get index_prog.toNat

/-- `findSessionPrograms`: the entry of the SEID, if there is one. -/
def findSessionPrograms (s : State) (seid : UInt32) : Option SessionPrograms :=
  s.mSessionProgramsMap.lookup seid

/-- The program is loaded and not torn down. -/
def State.Loaded (s : State) (ref : ℕ) : Prop := ∃ p, s.programs[ref]? = some p ∧ p.loaded = true

/-- A call of the control plane. -/
abbrev M : Type → Type := EStateM Err State

/-! ## The calls -/

/-- The construction of a FAR program, which takes the next id. -/
def newFARProgram : M ℕ := fun s =>
  .ok s.programs.length { s with
    programs := s.programs ++ [{ mId := s.sIdCounter }]
    sIdCounter := s.sIdCounter + 1 }

/-- A method of a program. -/
def onProgram {α : Type} (pFARProgram : ℕ) (x : EStateM Err FARProgram α) : M α :=
  zoom (fun s => s.programs[pFARProgram]?)
    (fun p s => { s with programs := s.programs.set pFARProgram p }) .segfault x

/-- `BPFProgram::getId`. -/
def FARProgram.getId : EStateM Err FARProgram UInt32 := do return (← get).mId

/-- `FARProgram::tearDown`. A FAR program is never linked, so that its skeleton is just destroyed.
-/
def State.tearDown (s : State) (pFARProgram : ℕ) : State :=
  { s with programs := s.programs.modify pFARProgram fun p => { p with loaded := false } }

/-- The destructor of a registry entry, if there is one. -/
def State.destroy (s : State) : Option SessionPrograms → State
  | none => s
  | some entry => s.tearDown entry.mpFARProgram

/-- `mSessionProgramsMap[seid] = …`: the entry that was there is destroyed. -/
def State.register (s : State) (seid : UInt32) (entry : SessionPrograms) : State :=
  { s.destroy (s.mSessionProgramsMap.lookup seid) with
    mSessionProgramsMap := s.mSessionProgramsMap.insert seid entry }

/-- `it->second.reset()` and `erase(seid)`: the entry is destroyed and leaves the registry. -/
def State.unregister (s : State) (seid : UInt32) (entry : SessionPrograms) : State :=
  { s.tearDown entry.mpFARProgram with
    mSessionProgramsMap := s.mSessionProgramsMap.erase seid }

/-- An update of `getNextProgRuleIndexMap()`. -/
def updateNextProgRuleIndex (fails : Bool) (key : NextRuleProgIndexKey) (id : UInt32) : M Unit :=
  bpfMapUpdate fails fun s => (s.m_next_rule_prog_index.update key id).map fun m =>
    { s with m_next_rule_prog_index := m }

/-- An update of `getNextProgRuleMap()` with the descriptor of a program. -/
def updateNextProgRule (fails : Bool) (id : UInt32) (fd : ℕ) : M Unit :=
  bpfMapUpdate fails fun s => (s.m_next_rule_prog.set id.toNat (some fd)).map fun a =>
    { s with m_next_rule_prog := a }

/-- A removal from `getNextProgRuleIndexMap()`. -/
def removeNextProgRuleIndex (key : NextRuleProgIndexKey) : M Unit :=
  attempt false .mapRemove fun s => (s.m_next_rule_prog_index.delete key).map fun m =>
    { s with m_next_rule_prog_index := m }

section Pipeline

variable (ifs : Interfaces) (env : Env)

/-- `createPipeline` up to its first map update: a new program with its id. -/
def bringUp : M (ℕ × UInt32) := do
  let pFARProgram ← newFARProgram
  onProgram pFARProgram (FARProgram.setup ifs env)
  let id ← onProgram pFARProgram FARProgram.getId
  return (pFARProgram, id)

/-- `createPipeline` up to the update of `m_next_rule_prog_index`. -/
def publishIndex (key : NextRuleProgIndexKey) : M (ℕ × UInt32) := do
  let (pFARProgram, id) ← bringUp ifs env
  updateNextProgRuleIndex env.indexFails key id
  return (pFARProgram, id)

/-- `createPipeline`. -/
def createPipeline (seid : UInt32) (key : NextRuleProgIndexKey) (pFar : PfcpFar) : M Unit := do
  let (pFARProgram, id) ← publishIndex ifs env key
  updateNextProgRule env.progFails id pFARProgram
  onProgram pFARProgram (FARProgram.updateFar env (farOf pFar))
  modify fun s => s.register seid ⟨key, pFARProgram⟩

end Pipeline

/-- `removePipeline`. The entry is gone before the index is asked to remove the key. -/
def removePipeline (seid : UInt32) : M Unit := do
  match (← get).mSessionProgramsMap.lookup seid with
  | none => throw .noSession
  | some entry =>
    modify fun s => s.unregister seid entry
    removeNextProgRuleIndex entry.mKey

end UpfBpf
