import UpfBpf.Control.Delivery

/-!
# A frame through the user plane

The way of a frame through the entry program and the rule program that it is handed to, in one state
of the maps. The ARP table of a program is filled by the operator, so it is a parameter, one for
each program. What leaves is a verdict and, unless the frame is dropped, its bytes.
-/

namespace UpfBpf

/-- What can be seen of a processed frame from outside. -/
abbrev Seen : Type := Verdict × Option (List UInt8)

/-- The verdict, and the bytes of a frame that goes on. -/
def observe (r : Verdict × XdpMd) : Seen :=
  (r.1, match r.1 with
    | .aborted | .drop => none
    | .pass | .tx | .redirect _ => some r.2.data)

section Frame

variable (bpf_csum_diff : List UInt8 → UInt32) (arp : ℕ → ArpTable) (s : State) (ctx : XdpMd)

/-- The rule program `ref` on a frame. -/
def runProgram (ref : ℕ) : Verdict × XdpMd :=
  match s.programs[ref]? with
  | some p => farEntryPoint bpf_csum_diff (arp ref) p ctx
  | none => (.aborted, ctx)

/-- `entry_point`, and the program that it calls. -/
def processFrame (mc_stats : McStats) : Verdict × XdpMd :=
  match (entryPoint (tailCallNextProg s) mc_stats ctx).1 with
  | .ret action => (action, ctx)
  | .tailCall ref => runProgram bpf_csum_diff arp s ctx ref

/-- The way of a frame, by what the parser finds in it. -/
theorem processFrame_eq (mc_stats : McStats) :
    processFrame bpf_csum_diff arp s ctx mc_stats =
      match detect ctx with
      | .ret action => (action, ctx)
      | .tailCall key =>
        match tailCallNextProg s key with
        | some ref => runProgram bpf_csum_diff arp s ctx ref
        | none => (.pass, ctx) := by
  rw [processFrame, entryPoint_fst, ethHandle_eq]
  cases detect ctx with
  | ret action => rfl
  | tailCall key =>
    simp only [EntryExit.resume]
    cases tailCallNextProg s key <;> rfl

/-- A program runs as its maps say, whatever its life cycle. -/
theorem runProgram_eq_cores (ref : ℕ) :
    runProgram bpf_csum_diff arp s ctx ref = match s.cores[ref]? with
      | some p => farEntryPoint bpf_csum_diff (arp ref) p ctx
      | none => (.aborted, ctx) := by
  rw [runProgram, State.cores, List.getElem?_map]
  cases s.programs[ref]? <;> rfl

/-- A frame of a published key is processed by its program. -/
theorem processFrame_of_tailCall {key : NextRuleProgIndexKey} {ref : ℕ} {p : FARProgram}
    (mc_stats : McStats) (hd : detect ctx = .tailCall key)
    (ht : tailCallNextProg s key = some ref) (hp : s.cores[ref]? = some p) :
    processFrame bpf_csum_diff arp s ctx mc_stats =
      farEntryPoint bpf_csum_diff (arp ref) p ctx := by
  rw [processFrame_eq, hd]
  simp only [ht, runProgram_eq_cores, hp]

end Frame

/-- An ARP table with one next hop, the same for every program. -/
def sampleArpFor (address : UInt32) (_ref : ℕ) : ArpTable :=
  (BoundedMap.empty.update address ⟨[2, 0, 0, 0, 0, 9], rfl⟩).getD BoundedMap.empty

/-- The next hop of 8.8.8.8. -/
def sampleArp : ℕ → ArpTable := sampleArpFor 0x08080808

end UpfBpf
