import UpfBpf.Traffic.Frame

/-!
# A deployment that is taken back

`removeBPFSession` does not undo every write of `createBPFSession`: the slot of the program stays
taken, and the counter of the ids has moved on. Traffic cannot tell. The index only holds ids that
were given out before, also those that failed deployments left there, and the id of the program is
none of these. So no entry of the index leads to the slot, and the way of every frame is the one
that it had before.
-/

namespace UpfBpf

section Residue

variable {ifs : Interfaces} {env : Env} {s s' : State} {pSession : PfcpSession}
  {key : NextRuleProgIndexKey}

/-- What a deployment and its removal leave: the index and the registry as they were, and one slot
that was written. -/
structure Residue (s s' : State) : Prop where
  /-- The index holds the same for every key. -/
  index : ∀ k, s'.m_next_rule_prog_index.lookup k = s.m_next_rule_prog_index.lookup k
  /-- The slots are the same but for that of the counter. -/
  slots : ∀ j, j ≠ s.sIdCounter.toNat → s'.m_next_rule_prog.get j = s.m_next_rule_prog.get j
  /-- The registry holds the same for every SEID. -/
  registry : ∀ seid, findSessionPrograms s' seid = findSessionPrograms s seid

/-- A deployment of an SEID and a key that were not there, and its removal. -/
theorem residue_create_remove
    (hreg : findSessionPrograms s pSession.seid.toUInt32 = none)
    (hkey : ∀ key pFar, extractPipeline (sortPdrs env pSession) = .ok ⟨key, pFar⟩ →
      s.m_next_rule_prog_index.lookup key = none)
    (hc : (Call.createBPFSession pSession env).Returns ifs s)
    (hr : (Call.removeBPFSession pSession.seid).Returns ifs
      (step ifs s (.createBPFSession pSession env))) :
    Residue s (step ifs (step ifs s (.createBPFSession pSession env))
      (.removeBPFSession pSession.seid)) := by
  obtain ⟨key, pFar, index, slots, p, he, hi, hs, -, -, -, -, hstep⟩ := create_returns hc
  obtain ⟨entry, index', hentry, hd, hstep'⟩ := remove_returns hr
  -- The entry that is removed is the one that was registered.
  have hlook := lookup_deploy s p index slots key (sortPdrs env pSession) pSession.seid.toUInt32
  rw [hstep, hlook] at hentry
  have hent : entry = ⟨key, s.programs.length⟩ := by
    have hseid : (sortPdrs env pSession).seid = pSession.seid := rfl
    rw [hseid, if_pos rfl] at hentry
    exact (Option.some.inj hentry).symm
  rw [hstep', hstep]
  rw [hstep, index_deploy, hent] at hd
  refine ⟨fun k => ?_, fun j hj => ?_, fun seid => ?_⟩
  · show index'.lookup k = _
    rw [BoundedMap.lookup_delete hd, BoundedMap.lookup_update hi.update_eq]
    split_ifs with hk
    · rw [hk, hkey key pFar he]
    · rfl
  · show (s.deploy p index slots key (sortPdrs env pSession)).m_next_rule_prog.get j = _
    rw [slots_deploy]
    exact SlotArray.get_set_ne hs.set_eq hj
  · show ((s.deploy p index slots key (sortPdrs env pSession)).unregister
      pSession.seid.toUInt32 entry).mSessionProgramsMap.lookup seid = _
    rw [lookup_unregister, lookup_deploy]
    split_ifs with h h'
    · rw [h, hreg]
    · exact absurd h' h
    · rfl

/-- The id of the next program is not in the index, as long as the counter has not come round. -/
theorem Numbered.lookup_ne_counter (hN : Numbered s) (hn : s.programs.length < 2^32 - 1)
    {k : NextRuleProgIndexKey} {id : UInt32}
    (h : s.m_next_rule_prog_index.lookup k = some id) : id.toNat ≠ s.sIdCounter.toNat := by
  obtain ⟨i, hlt, rfl⟩ := hN.index k id h
  intro e
  have hid : idOf i = idOf s.programs.length := by
    rw [← hN.counter]
    exact UInt32.toNat_inj.1 e
  have := idOf_inj (by omega) hn hid
  omega

/-- What is left is not reached from any key. -/
theorem Residue.tailCallNextProg_eq (h : Residue s s') (hN : Numbered s)
    (hn : s.programs.length < 2^32 - 1) : tailCallNextProg s' = tailCallNextProg s := by
  funext k
  unfold tailCallNextProg
  rw [h.index]
  cases hk : s.m_next_rule_prog_index.lookup k with
  | none => rfl
  | some id => exact h.slots _ (hN.lookup_ne_counter hn hk)

/-- A frame goes the same way in two states with the same tail calls, if the programs that were
there are still there. -/
theorem processFrame_congr (bpf_csum_diff : List UInt8 → UInt32) (arp : ℕ → ArpTable)
    (ctx : XdpMd) (mc_stats : McStats) (hN : Numbered s)
    (ht : tailCallNextProg s' = tailCallNextProg s)
    (hc : ∀ (i : ℕ) p, s.cores[i]? = some p → s'.cores[i]? = some p) :
    processFrame bpf_csum_diff arp s' ctx mc_stats =
      processFrame bpf_csum_diff arp s ctx mc_stats := by
  rw [processFrame_eq, processFrame_eq, ht]
  cases detect ctx with
  | ret action => rfl
  | tailCall k =>
    cases hk : tailCallNextProg s k with
    | none => simp only [hk]
    | some ref =>
      have hlt : ref < s.cores.length := by
        rw [length_cores]
        exact (hN.lookup_of_tailCall hk).2
      have hp : s.cores[ref]? = some s.cores[ref] := List.getElem?_eq_getElem hlt
      simp only [hk, runProgram_eq_cores, hp, hc ref _ hp]

end Residue

/-- A session that is deployed and removed leaves no trace in the traffic: every frame is handed to
the same program, with the same bytes, or falls through with the same verdict, and the registry
finds the same. -/
theorem create_remove_invisible (bpf_csum_diff : List UInt8 → UInt32) (arp : ℕ → ArpTable)
    (ifs : Interfaces) (calls : List Call) (pSession : PfcpSession) (env : Env)
    (hn : (run ifs calls).programs.length < 2^32 - 1)
    (hreg : findSessionPrograms (run ifs calls) pSession.seid.toUInt32 = none)
    (hkey : ∀ key pFar, extractPipeline (sortPdrs env pSession) = .ok ⟨key, pFar⟩ →
      (run ifs calls).m_next_rule_prog_index.lookup key = none)
    (hc : (Call.createBPFSession pSession env).Returns ifs (run ifs calls))
    (hr : (Call.removeBPFSession pSession.seid).Returns ifs
      (run ifs (calls ++ [.createBPFSession pSession env]))) :
    let before := run ifs calls
    let after :=
      run ifs (calls ++ [.createBPFSession pSession env, .removeBPFSession pSession.seid])
    (∀ mc_stats ctx, entryPoint (tailCallNextProg after) mc_stats ctx =
        entryPoint (tailCallNextProg before) mc_stats ctx) ∧
      (∀ mc_stats ctx, processFrame bpf_csum_diff arp after ctx mc_stats =
        processFrame bpf_csum_diff arp before ctx mc_stats) ∧
      ∀ seid, findSessionPrograms after seid = findSessionPrograms before seid := by
  intro before after
  have hN : Numbered before := numbered_run ifs calls
  have hafter : after = step ifs (step ifs before (.createBPFSession pSession env))
      (.removeBPFSession pSession.seid) := run_append ifs calls _
  rw [run_append] at hr
  have hres : Residue before after := by
    rw [hafter]
    exact residue_create_remove hreg hkey hc hr
  -- No key of the index leads to the slot that is left.
  have htail := hres.tailCallNextProg_eq hN hn
  have hcores : ∀ (i : ℕ) p, before.cores[i]? = some p → after.cores[i]? = some p := by
    intro i p hp
    have hrun := cores_foldl ifs
      [.createBPFSession pSession env, .removeBPFSession pSession.seid] hp
    rw [← run_append] at hrun
    exact hrun
  refine ⟨fun mc_stats ctx => ?_, fun mc_stats ctx => ?_, hres.registry⟩
  · rw [htail]
  · exact processFrame_congr bpf_csum_diff arp ctx mc_stats hN htail hcores

/-- A second session, deployed and removed beside the first. -/
theorem create_remove_invisible_sample :
    let after := run sampleInterfaces
      [sampleCreate 1 100, sampleCreate 2 200, .removeBPFSession 2]
    (∀ mc_stats ctx, processFrame (fun _ => 0) sampleArp after ctx mc_stats =
        processFrame (fun _ => 0) sampleArp (run sampleInterfaces [sampleCreate 1 100]) ctx
          mc_stats) ∧
      after.m_next_rule_prog.get 2 = some 1 := by
  intro after
  have h := create_remove_invisible (fun _ => 0) sampleArp sampleInterfaces [sampleCreate 1 100]
    (sampleSession 2 200) sampleEnv (by decide) (by decide)
    (by
      intro key pFar he
      cases he
      decide)
    trivial trivial
  exact ⟨h.2.1, by decide⟩

end UpfBpf
