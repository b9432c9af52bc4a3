import Mathlib.Algebra.BigOperators.Fin
import Mathlib.Algebra.Order.BigOperators.Group.Finset
import UpfBpf.Traffic.Frame

/-!
# The statistics of the datapath

Both programs include `src/bpf/xdp_stats_kern.h`, so that each of them has an `mc_stats` of its own:
a record for every action, on every CPU. `entry_point` records the action that `eth_handle` returns,
and a tail call does not return. `far_entry_point` returns what `pfcp_far_apply` has decided without
recording it, where the two entry points of `src/bpf/session_bpf.c` record it.

A frame is therefore counted exactly when it is not handed over. `Statistics` are the records of one
CPU, and the sum over them is taken as a number, which it is until a counter comes round.
-/

namespace UpfBpf

/-- The records of one CPU. -/
structure Statistics where
  /-- `mc_stats` of the entry program. -/
  entry : McStats := fun _ => {}
  /-- `mc_stats` of each rule program. -/
  rules : ℕ → McStats := fun _ _ => {}

/-- The records of a program, where `none` is the entry program. -/
def Statistics.of (t : Statistics) : Option ℕ → McStats
  | none => t.entry
  | some ref => t.rules ref

/-- `rx_packets`, summed over the records of the entry program and of the first `n` rule
programs. -/
def Statistics.rxPackets (t : Statistics) (n : ℕ) : ℕ :=
  ∑ a, (t.entry a).rx_packets.toNat +
    ∑ ref ∈ Finset.range n, ∑ a, (t.rules ref a).rx_packets.toNat

section Count

variable (bpf_csum_diff : List UInt8 → UInt32) (arp : ℕ → ArpTable) (s : State)

/-- The rule program that the frame is handed over to. -/
def handedTo (ctx : XdpMd) : Option ℕ :=
  match ethHandle (tailCallNextProg s) ctx with
  | .tailCall ref => some ref
  | .ret _ => none

/-- `entry_point`, and the program that it calls, with the statistics of both. A rule program writes
no record. -/
def countFrame (t : Statistics) (ctx : XdpMd) : (Verdict × XdpMd) × Statistics :=
  match entryPoint (tailCallNextProg s) t.entry ctx with
  | (.ret action, mc_stats) => ((action, ctx), { t with entry := mc_stats })
  | (.tailCall ref, mc_stats) =>
    (runProgram bpf_csum_diff arp s ctx ref, { t with entry := mc_stats })

/-- The statistics after a sequence of frames. -/
def countFrames (frames : List XdpMd) : Statistics :=
  frames.foldl (fun t ctx => (countFrame bpf_csum_diff arp s t ctx).2) {}

/-- The frame is counted once: in a record of the entry program or of the program that it is handed
over to, and in the record of its verdict. -/
def CountedOnce (t : Statistics) (ctx : XdpMd) : Prop :=
  ∃ prog, (prog = none ∨ prog = handedTo s ctx) ∧ ∀ q a,
    ((countFrame bpf_csum_diff arp s t ctx).2.of q a).rx_packets =
      (t.of q a).rx_packets +
        if q = prog ∧ a = (countFrame bpf_csum_diff arp s t ctx).1.1.action then 1 else 0

/-- The statistics account for a sequence of frames. -/
structure Accounted (frames : List XdpMd) : Prop where
  /-- Every frame is counted once. -/
  once : ∀ pre ctx post, frames = pre ++ ctx :: post →
    CountedOnce bpf_csum_diff arp s (countFrames bpf_csum_diff arp s pre) ctx
  /-- The sum over all records is the number of frames, as far as 64 bits can tell. -/
  sum : frames.length < 2^64 →
    (countFrames bpf_csum_diff arp s frames).rxPackets s.programs.length = frames.length

/-- The frame is handed over: it has a key, and the key leads to a program. -/
def HandedOver (ctx : XdpMd) : Prop :=
  ∃ key ref, detect ctx = .tailCall key ∧ tailCallNextProg s key = some ref

variable {s} (t : Statistics) {ctx : XdpMd} {frames : List XdpMd}

/-- Counting does not change the way of a frame. -/
theorem countFrame_fst : (countFrame bpf_csum_diff arp s t ctx).1 =
    processFrame bpf_csum_diff arp s ctx t.entry := by
  unfold countFrame processFrame
  generalize entryPoint (tailCallNextProg s) t.entry ctx = r
  obtain ⟨exit, mc_stats⟩ := r
  cases exit <;> rfl

/-- A frame that is handed over leaves no trace. -/
theorem countFrame_of_handedOver (h : HandedOver s ctx) :
    (countFrame bpf_csum_diff arp s t ctx).2 = t := by
  obtain ⟨key, ref, hd, ht⟩ := h
  have he : ethHandle (tailCallNextProg s) ctx = .tailCall ref :=
    (ethHandle_eq_tailCall_iff _ _).2 ⟨key, hd, ht⟩
  unfold countFrame entryPoint
  rw [he]

/-- Every other one ends with an action, which is recorded by the entry program. -/
theorem countFrame_of_not_handedOver (h : ¬ HandedOver s ctx) :
    ∃ action, countFrame bpf_csum_diff arp s t ctx =
      ((action, ctx), { t with entry := (xdpStatsRecordAction t.entry ctx action).2 }) := by
  cases he : ethHandle (tailCallNextProg s) ctx with
  | tailCall ref =>
    obtain ⟨key, hd, ht⟩ := (ethHandle_eq_tailCall_iff _ _).1 he
    exact absurd ⟨key, ref, hd, ht⟩ h
  | ret action =>
    refine ⟨action, ?_⟩
    unfold countFrame entryPoint
    rw [he]
    rfl

theorem rx_packets_record (mc_stats : McStats) (ctx : XdpMd) (action : Verdict) (a : Fin 5) :
    ((xdpStatsRecordAction mc_stats ctx action).2 a).rx_packets =
      (mc_stats a).rx_packets + if a = action.action then 1 else 0 := by
  unfold xdpStatsRecordAction
  dsimp only
  split_ifs with ha
  · rw [ha, Function.update_self]
  · rw [Function.update_of_ne ha, UInt64.add_zero]

/-- A frame is counted once exactly when it is not handed over. -/
theorem countedOnce_iff : CountedOnce bpf_csum_diff arp s t ctx ↔ ¬ HandedOver s ctx := by
  constructor
  · rintro ⟨prog, -, hrec⟩ h
    -- The record that should have grown has not.
    have hq := hrec prog (countFrame bpf_csum_diff arp s t ctx).1.1.action
    rw [if_pos ⟨rfl, rfl⟩, countFrame_of_handedOver bpf_csum_diff arp t h] at hq
    exact absurd (UInt64.add_eq_left.1 hq.symm) (by decide)
  · intro h
    obtain ⟨action, hc⟩ := countFrame_of_not_handedOver bpf_csum_diff arp t h
    refine ⟨none, .inl rfl, fun q a => ?_⟩
    rw [hc]
    cases q with
    | none =>
      show ((xdpStatsRecordAction t.entry ctx action).2 a).rx_packets = _
      rw [rx_packets_record]
      simp only [true_and]
      rfl
    | some ref =>
      rw [if_neg fun h => Option.some_ne_none ref h.1, UInt64.add_zero]
      rfl

/-- A record that does not come round makes the sum grow by one. -/
theorem sum_rx_packets_record (mc_stats : McStats) (ctx : XdpMd) (action : Verdict)
    (h : ∑ a, (mc_stats a).rx_packets.toNat + 1 < 2^64) :
    ∑ a, ((xdpStatsRecordAction mc_stats ctx action).2 a).rx_packets.toNat =
      ∑ a, (mc_stats a).rx_packets.toNat + 1 := by
  have hrec : ∀ a, ((xdpStatsRecordAction mc_stats ctx action).2 a).rx_packets.toNat =
      (mc_stats a).rx_packets.toNat + if a = action.action then 1 else 0 := by
    intro a
    have hle : (mc_stats a).rx_packets.toNat ≤ ∑ b, (mc_stats b).rx_packets.toNat :=
      Finset.single_le_sum (f := fun b => (mc_stats b).rx_packets.toNat)
        (fun _ _ => Nat.zero_le _) (Finset.mem_univ a)
    rw [rx_packets_record, UInt64.toNat_add]
    split_ifs
    · exact Nat.mod_eq_of_lt (by rw [UInt64.toNat_one]; omega)
    · exact Nat.mod_eq_of_lt (by rw [UInt64.toNat_zero]; omega)
  calc ∑ a, ((xdpStatsRecordAction mc_stats ctx action).2 a).rx_packets.toNat
      = ∑ a, ((mc_stats a).rx_packets.toNat + if a = action.action then 1 else 0) :=
        Finset.sum_congr rfl fun a _ => hrec a
    _ = ∑ a, (mc_stats a).rx_packets.toNat + 1 := by
        rw [Finset.sum_add_distrib, Finset.sum_ite_eq' Finset.univ, if_pos (Finset.mem_univ _)]

/-- What the statistics are after frames that are not handed over: the rule programs have counted
nothing, and the entry program everything. -/
theorem countFrames_of_not_handedOver (h : ∀ ctx ∈ frames, ¬ HandedOver s ctx)
    (hn : frames.length < 2^64) :
    (countFrames bpf_csum_diff arp s frames).rules = (fun _ _ => {}) ∧
      ∑ a, ((countFrames bpf_csum_diff arp s frames).entry a).rx_packets.toNat =
        frames.length := by
  induction frames using List.reverseRecOn with
  | nil => exact ⟨rfl, rfl⟩
  | append_singleton frames ctx ih =>
    rw [List.length_append, List.length_singleton] at hn
    have hpre : ∀ ctx ∈ frames, ¬ HandedOver s ctx :=
      fun ctx hctx => h ctx (List.mem_append_left _ hctx)
    obtain ⟨hrules, hsum⟩ := ih hpre (by omega)
    obtain ⟨action, hc⟩ := countFrame_of_not_handedOver bpf_csum_diff arp
      (countFrames bpf_csum_diff arp s frames) (h ctx (by simp))
    have hlast : countFrames bpf_csum_diff arp s (frames ++ [ctx]) =
        (countFrame bpf_csum_diff arp s (countFrames bpf_csum_diff arp s frames) ctx).2 := by
      unfold countFrames
      rw [List.foldl_append]
      rfl
    rw [hlast, hc, List.length_append, List.length_singleton]
    refine ⟨hrules, ?_⟩
    rw [sum_rx_packets_record _ _ _ (by omega), hsum]

end Count

/-- The statistics account for a sequence of frames exactly when none of them is handed over. -/
theorem accounted_iff (bpf_csum_diff : List UInt8 → UInt32) (arp : ℕ → ArpTable) (ifs : Interfaces)
    (calls : List Call) (frames : List XdpMd) :
    Accounted bpf_csum_diff arp (run ifs calls) frames ↔
      ∀ ctx ∈ frames, ¬ HandedOver (run ifs calls) ctx := by
  constructor
  · intro h ctx hctx
    obtain ⟨pre, post, rfl⟩ := List.append_of_mem hctx
    exact (countedOnce_iff bpf_csum_diff arp _).1 (h.once pre ctx post rfl)
  · intro h
    refine ⟨fun pre ctx post he => (countedOnce_iff bpf_csum_diff arp _).2 (h ctx ?_), fun hn => ?_⟩
    · rw [he]
      simp
    · obtain ⟨hrules, hsum⟩ := countFrames_of_not_handedOver bpf_csum_diff arp h hn
      unfold Statistics.rxPackets
      rw [hrules, hsum]
      simp

/-- A session is deployed, and one of its frames is redirected: no record has it. -/
theorem not_accounted_of_redirect :
    (processFrame (fun _ => 0) sampleArp (run sampleInterfaces [sampleCreate 1 100])
        ⟨[], sampleUplinkFrame 100⟩ fun _ => {}).1 = .redirect .UPLINK ∧
      (countFrames (fun _ => 0) sampleArp (run sampleInterfaces [sampleCreate 1 100])
        [⟨[], sampleUplinkFrame 100⟩]).rxPackets 1 = 0 ∧
      ¬ Accounted (fun _ => 0) sampleArp (run sampleInterfaces [sampleCreate 1 100])
        [⟨[], sampleUplinkFrame 100⟩] := by
  have hzero : (countFrames (fun _ => 0) sampleArp (run sampleInterfaces [sampleCreate 1 100])
      [⟨[], sampleUplinkFrame 100⟩]).rxPackets 1 = 0 := by decide
  refine ⟨by decide, hzero, fun h => ?_⟩
  have hsum := h.sum (by decide)
  have hone : (run sampleInterfaces [sampleCreate 1 100]).programs.length = 1 := by decide
  rw [hone, hzero] at hsum
  cases hsum

end UpfBpf
