import UpfBpf.Control.Standing
import UpfBpf.Editing

/-!
# Which rule is deployed

`createBPFSession` for a session that the calls of `pfcp_session` have made. Every PDR of such a
session has a precedence, so that `comparePDR` is a strict weak order and `std::sort` sorts by the
values. It may order two PDRs with the same value either way. The first PDR then has a minimal
value, its key is published, and the first FAR with its FAR ID is stored. When no value occurs
twice, nothing else of the order of the PDRs is left in the outcome.
-/

namespace UpfBpf

/-- `createBPFSession` returns, and publishes the key for a new program with the FAR. -/
structure Publishes (ifs : Interfaces) (env : Env) (s : State) (pSession : PfcpSession)
    (key : NextRuleProgIndexKey) (pFar : PfcpFar) : Prop where
  /-- It returns. -/
  returns : (Call.createBPFSession pSession env).Returns ifs s
  /-- The key and the FAR are what it gives to `createPipeline`. -/
  extracted : extractPipeline (createBPFSession ifs env pSession s).2 = .ok ⟨key, pFar⟩
  /-- The key leads to the program that it constructed, with a copy of the FAR in `m_far`. -/
  stands : ∃ p : FARProgram, p.far = some (farOf pFar) ∧
    Stands (step ifs s (.createBPFSession pSession env)) key s.sIdCounter s.programs.length p
  /-- The other keys lead where they did. -/
  others : ∀ other, other ≠ key →
    (step ifs s (.createBPFSession pSession env)).m_next_rule_prog_index.lookup other =
      s.m_next_rule_prog_index.lookup other

/-- No PDR of the session comes before `pdr`. -/
structure PfcpSession.IsMinimal (pSession : PfcpSession) (pdr : PfcpPdr) : Prop where
  /-- It is a PDR of the session. -/
  mem : pdr ∈ pSession.pdrs
  /-- No precedence value is lower. -/
  le : ∀ other ∈ pSession.pdrs, pdr.precedence.2 ≤ other.precedence.2

/-- `createBPFSession` sorts the PDRs by their precedence and deploys one of the minimal ones. -/
structure DeploysHighest (ifs : Interfaces) (env : Env) (s : State) (pSession : PfcpSession) :
    Prop where
  /-- Every precedence is present. -/
  present : ∀ pdr ∈ pSession.pdrs, pdr.precedence.1 = true
  /-- The comparison is a strict weak order. -/
  strictWeak : StdSort.StrictWeakOn (comparePDR env) pSession.pdrs
  /-- Afterwards the PDRs are the same ones. -/
  perm : (createBPFSession ifs env pSession s).2.pdrs.Perm pSession.pdrs
  /-- They are in the order of their precedence. -/
  sorted : (createBPFSession ifs env pSession s).2.pdrs.Pairwise fun a b =>
    a.precedence.2 ≤ b.precedence.2
  /-- A call that returns publishes the key of a minimal one, with the first FAR that has its FAR
  ID. -/
  publishes : (Call.createBPFSession pSession env).Returns ifs s →
    ∃ pdr key far_id pFar, pSession.IsMinimal pdr ∧ pdr.key = some key ∧
      Ie.get pdr.far_id = some far_id ∧
      pSession.fars.find? (fun far => far.far_id == far_id) = some pFar ∧
      Publishes ifs env s pSession key pFar

section Selection

variable {ifs : Interfaces} {env env' : Env} {s s' : State} {pSession pSession' : PfcpSession}
  {key : NextRuleProgIndexKey} {pFar : PfcpFar}

/-- The sort of PDRs that all have a precedence. -/
theorem sorted_sortPdrs (hs : StdSort.IsSort env.stdSort)
    (h : ∀ pdr ∈ pSession.pdrs, pdr.precedence.1 = true) :
    (sortPdrs env pSession).pdrs.Perm pSession.pdrs ∧
      (sortPdrs env pSession).pdrs.Pairwise fun a b =>
        a.precedence.2.toNat ≤ b.precedence.2.toNat :=
  hs.sorted_of_rank (fun pdr => pdr.precedence.2.toNat) (comparePDR_of_present env h)

/-- What is extracted comes from the first PDR. -/
theorem extractPipeline_eq_ok (h : extractPipeline pSession = .ok ⟨key, pFar⟩) :
    ∃ pdr rest far_id, pSession.pdrs = pdr :: rest ∧ pdr.key = some key ∧
      Ie.get pdr.far_id = some far_id ∧ pSession.getFar far_id = some pFar := by
  unfold extractPipeline at h
  split at h
  · cases h
  · rename_i pdr rest hpdrs
    split at h
    · rename_i key' pFar' hkey hfar
      cases h
      obtain ⟨far_id, hid, hget⟩ := Option.bind_eq_some_iff.1 hfar
      exact ⟨pdr, rest, far_id, hpdrs, hkey, hid, hget⟩
    · cases h

/-- A call that returns publishes what was extracted. -/
theorem publishes_of_returns (he : extractPipeline (sortPdrs env pSession) = .ok ⟨key, pFar⟩)
    (h : (Call.createBPFSession pSession env).Returns ifs s) :
    Publishes ifs env s pSession key pFar where
  returns := h
  extracted := he
  stands := by
    obtain ⟨p, hfar, -, hst⟩ := stands_of_returns he h
    exact ⟨p, hfar, hst⟩
  others other hne := by
    refine lookup_step_create ?_
    rintro ⟨pFar', he', -⟩
    rw [he] at he'
    cases he'
    exact hne rfl

/-- A session whose PDRs all have a precedence is deployed by the minimal one. -/
theorem deploysHighest_of_present (ifs : Interfaces) (hs : StdSort.IsSort env.stdSort) (s : State)
    (hpresent : ∀ pdr ∈ pSession.pdrs, pdr.precedence.1 = true) :
    DeploysHighest ifs env s pSession := by
  obtain ⟨hperm, hsorted⟩ := sorted_sortPdrs hs hpresent
  refine ⟨hpresent, strictWeakOn_comparePDR env hpresent, hperm, hsorted, fun hret => ?_⟩
  obtain ⟨key, pFar, -, -, -, he, -⟩ := create_returns hret
  obtain ⟨pdr, rest, far_id, hpdrs, hkey, hid, hfar⟩ := extractPipeline_eq_ok he
  rw [hpdrs] at hperm hsorted
  -- The first one is not above any other.
  have hmin : pSession.IsMinimal pdr := by
    refine ⟨hperm.mem_iff.1 List.mem_cons_self, fun other hother => ?_⟩
    rcases List.mem_cons.1 (hperm.mem_iff.2 hother) with rfl | hrest
    · exact UInt32.le_refl _
    · exact (List.pairwise_cons.1 hsorted).1 other hrest
  exact ⟨pdr, key, far_id, pFar, hmin, hkey, hid, hfar, publishes_of_returns he hret⟩

/-- Without ties, the sorted PDRs do not depend on the order in which they were given, nor on the
sort. -/
theorem sortPdrs_eq_of_perm (hs : StdSort.IsSort env.stdSort) (hs' : StdSort.IsSort env'.stdSort)
    (hpresent : ∀ pdr ∈ pSession.pdrs, pdr.precedence.1 = true)
    (hperm : pSession'.pdrs.Perm pSession.pdrs)
    (hd : (pSession.pdrs.map fun pdr => pdr.precedence.2).Nodup) :
    (sortPdrs env pSession).pdrs = (sortPdrs env' pSession').pdrs := by
  have hpresent' : ∀ pdr ∈ pSession'.pdrs, pdr.precedence.1 = true :=
    fun pdr hpdr => hpresent pdr (hperm.mem_iff.1 hpdr)
  obtain ⟨hp, hsorted⟩ := sorted_sortPdrs hs hpresent
  obtain ⟨hp', hsorted'⟩ := sorted_sortPdrs hs' hpresent'
  have hrank : ((sortPdrs env pSession).pdrs.map fun pdr => pdr.precedence.2.toNat).Nodup := by
    have hnat := hd.map fun _ _ => UInt32.toNat_inj.1
    rw [List.map_map] at hnat
    exact (hp.map _).nodup_iff.2 hnat
  exact StdSort.eq_of_perm_of_rank (fun pdr => pdr.precedence.2.toNat)
    (hp.trans (hperm.symm.trans hp'.symm)) hsorted hsorted' hrank

/-- Nor does the pipeline, for the same FARs. -/
theorem extractPipeline_eq_of_perm (hs : StdSort.IsSort env.stdSort)
    (hs' : StdSort.IsSort env'.stdSort)
    (hpresent : ∀ pdr ∈ pSession.pdrs, pdr.precedence.1 = true)
    (hperm : pSession'.pdrs.Perm pSession.pdrs) (hfars : pSession'.fars = pSession.fars)
    (hd : (pSession.pdrs.map fun pdr => pdr.precedence.2).Nodup) :
    extractPipeline (sortPdrs env' pSession') = extractPipeline (sortPdrs env pSession) := by
  have hpdrs := sortPdrs_eq_of_perm hs hs' hpresent hperm hd
  have hget : (sortPdrs env' pSession').farOfPdr = (sortPdrs env pSession).farOfPdr := by
    funext pdr
    simp only [PfcpSession.farOfPdr, PfcpSession.getFar, sortPdrs, hfars]
  rw [extractPipeline, extractPipeline, hpdrs, hget]

end Selection

/-- The PDR with the highest precedence is the one that is deployed, for every session that was
edited in any way. Without ties, the same PDRs in another order, with the same FARs, publish the
same key and the same FAR. -/
theorem highest_precedence_deployed (ifs : Interfaces) {env : Env}
    (hs : StdSort.IsSort env.stdSort) (seid : UInt64) (edits : List Edit) (s : State) :
    DeploysHighest ifs env s (edited seid edits) ∧
      (((edited seid edits).pdrs.map fun pdr => pdr.precedence.2).Nodup →
        ∀ (env' : Env) (seid' : UInt64) (edits' : List Edit) (s' : State),
          StdSort.IsSort env'.stdSort →
          (edited seid' edits').pdrs.Perm (edited seid edits).pdrs →
          (edited seid' edits').fars = (edited seid edits).fars →
          (Call.createBPFSession (edited seid edits) env).Returns ifs s →
          (Call.createBPFSession (edited seid' edits') env').Returns ifs s' →
          ∃ key pFar, Publishes ifs env s (edited seid edits) key pFar ∧
            Publishes ifs env' s' (edited seid' edits') key pFar) := by
  have hpresent := hasPrecedence_edited seid edits
  refine ⟨deploysHighest_of_present ifs hs s hpresent, ?_⟩
  intro hd env' seid' edits' s' hs' hperm hfars hret hret'
  obtain ⟨key, pFar, -, -, -, he, -⟩ := create_returns hret
  have he' : extractPipeline (sortPdrs env' (edited seid' edits')) = .ok ⟨key, pFar⟩ := by
    rw [extractPipeline_eq_of_perm hs hs' hpresent hperm hfars hd, he]
  exact ⟨key, pFar, publishes_of_returns he hret, publishes_of_returns he' hret'⟩

/-! ## Two PDRs in either order -/

/-- A PDR on the access side, with the identifier for its TEID as well. -/
def sampleCreatePdr (pdr_id : UInt16) (precedence : UInt32) : Edit :=
  .createPdr {
    pdr_id := (true, pdr_id)
    precedence := (true, precedence)
    pdi := (true, {
      source_interface := (true, interfaceValueAccess)
      local_fteid := (true, pdr_id.toUInt32)
      ue_ip_address := (true, 0x0a0a0a0a) })
    far_id := (true, 10) }

/-- The FAR that they select. -/
def sampleCreateFar : Edit :=
  .createFar {
    far_id := (true, 10)
    apply_action := (true, { forw := true })
    forwarding_parameters := sampleFar.forwarding_parameters }

/-- A session with two PDRs; the second one was updated to come first. -/
def samplePdrs : List Edit :=
  [sampleCreateFar, sampleCreatePdr 1 5, sampleCreatePdr 2 7,
    .updatePdr { pdr_id := 2, precedence := (true, 3) }]

/-- The same two in the other order, behind one that was removed. -/
def samplePdrsSwapped : List Edit :=
  [sampleCreatePdr 9 0, sampleCreatePdr 2 3, sampleCreateFar, sampleCreatePdr 1 5,
    .removePdr (true, 9)]

/-- Both are deployed as the second PDR. -/
theorem highest_precedence_deployed_sample :
    DeploysHighest sampleInterfaces sampleEnv {} (edited 1 samplePdrs) ∧
      ∃ key pFar, Publishes sampleInterfaces sampleEnv {} (edited 1 samplePdrs) key pFar ∧
        Publishes sampleInterfaces sampleEnv {} (edited 2 samplePdrsSwapped) key pFar := by
  have hs : StdSort.IsSort sampleEnv.stdSort := StdSort.isSort_insertionSort
  have hret : (Call.createBPFSession (edited 1 samplePdrs) sampleEnv).Returns sampleInterfaces {} :=
    trivial
  have hret' : (Call.createBPFSession (edited 2 samplePdrsSwapped) sampleEnv).Returns
    sampleInterfaces {} := trivial
  obtain ⟨hdeploys, hsame⟩ :=
    highest_precedence_deployed sampleInterfaces hs 1 samplePdrs {}
  exact ⟨hdeploys,
    hsame (by decide) sampleEnv 2 samplePdrsSwapped {} hs (by decide) rfl hret hret'⟩

end UpfBpf
