import UpfBpf.Api.Service

/-!
# From a request to the wire

What a request that was answered has done for the packets of its UE, in the words of its body. The
element of `pdrs` with the lowest precedence decides which packets these are, and the first element
of `fars` with its id what becomes of them; the other elements have no effect. Nothing that a later
request does changes that, whatever its SEID, as long as its own packets are others.

An answer with the status 400 is as good as one with 200 here: the session is deployed, with the
next hops in front of the one that was refused.
-/

namespace UpfBpf

open Effect

/-! ## What a request selects -/

/-- The elements of a body that count. -/
structure SessionJson.Selects (jRequest : SessionJson) (p : PdrJson) (f : FarJson) : Prop where
  /-- Every other PDR has a higher precedence value. -/
  pdr : ∃ before after, jRequest.pdrs = before ++ p :: after ∧
    ∀ q ∈ before ++ after, p.precedence.toUInt32 < q.precedence.toUInt32
  /-- The first FAR with the id. -/
  far : (jRequest.fars.find? fun f => f.farId.toUInt32 == p.farId.toUInt32) = some f

/-- The key of an element of `pdrs`. -/
def PdrJson.key (libc : Libc) (p : PdrJson) : NextRuleProgIndexKey :=
  ⟨htonl p.teid.toUInt32, sMapInterface p.sourceInterface, (libc.inet_aton p.ueIPAddress).getD 0⟩

section Selects

variable {libc : Libc} {r : Request} {p : PdrJson} {f : FarJson}

/-- The pipeline of a request is made of the elements that count. -/
theorem pipeline_of_selects (hs : StdSort.IsSort r.env.stdSort) (h : r.body.Selects p f)
    {pSession : PfcpSession} (hsession : r.body.session libc = some pSession) :
    r.pipeline libc = some ⟨p.key libc, f.far libc⟩ := by
  obtain ⟨-, -, rfl⟩ := session_eq_some_iff.1 hsession
  obtain ⟨before, after, hpdrs, hlt⟩ := h.pdr
  have hhigh : PfcpSession.IsHighest ⟨r.body.seid, r.body.pdrs.map (PdrJson.pdr libc),
      r.body.fars.map (FarJson.far libc)⟩ (p.pdr libc) := by
    refine ⟨before.map (PdrJson.pdr libc), after.map (PdrJson.pdr libc), ?_, ?_⟩
    · dsimp only
      rw [hpdrs, List.map_append, List.map_cons]
    · intro other hother
      rw [← List.map_append, List.mem_map] at hother
      obtain ⟨q, hq, rfl⟩ := hother
      exact ⟨_, _, rfl, rfl, hlt q hq⟩
  have hfar : PfcpSession.farOfPdr ⟨r.body.seid, r.body.pdrs.map (PdrJson.pdr libc),
      r.body.fars.map (FarJson.far libc)⟩ (p.pdr libc) = some (f.far libc) := by
    have hfind : (r.body.fars.map (FarJson.far libc)).find?
        (fun far => far.far_id == p.farId.toUInt32) = some (f.far libc) := by
      rw [List.find?_map, Option.map_eq_some_iff]
      exact ⟨f, h.far, rfl⟩
    exact hfind
  rw [Request.pipeline, hsession, Option.bind_eq_bind, Option.bind_some,
    extractPipeline_sortPdrs hs hhigh rfl hfar]
  rfl

end Selects

/-! ## What stands -/

section Stands

variable {ifs : Interfaces} {libc : Libc} {srv : Server}

/-- A later request does not write the ARP table of a program that is there. -/
theorem arp_step_of_lt (hf : srv.Fresh) (r : Request) {ref : ℕ}
    (hlt : ref < srv.state.programs.length) :
    (srv.step ifs libc r).arp ref = srv.arp ref := by
  by_contra h
  have hnew := (constructed_of_arp_step_ne hf h).1
  omega

/-- Nor does a run. -/
theorem arp_foldl_of_lt (hf : srv.Fresh) (rs : List Request) {ref : ℕ}
    (hlt : ref < srv.state.programs.length) :
    (rs.foldl (Server.step ifs libc) srv).arp ref = srv.arp ref := by
  induction rs generalizing srv with
  | nil => rfl
  | cons r rs ih =>
    rw [List.foldl_cons, ih (hf.step r) (hlt.trans_le (length_le_server_step hf r)),
      arp_step_of_lt hf r hlt]

/-- A run of calls constructs one program for each of them at most. -/
theorem length_foldl_le (ifs : Interfaces) (s : State) (calls : List Call) :
    (calls.foldl (step ifs) s).programs.length ≤ s.programs.length + calls.length := by
  induction calls generalizing s with
  | nil => exact le_rfl
  | cons c calls ih =>
    have hstep : (step ifs s c).programs.length ≤ s.programs.length + 1 :=
      (step_change ifs s c).length_le_succ
    have hrest := ih (step ifs s c)
    rw [List.foldl_cons, List.length_cons]
    omega

/-- Requests with other keys do not write the key, and no request removes it. -/
theorem along_of_other_keys {key : NextRuleProgIndexKey} {post : List Request}
    (hpost : ∀ r ∈ post, ∀ pipeline, r.pipeline libc = some pipeline → pipeline.key ≠ key)
    (s : State) :
    Run.Along (step ifs) (fun t c => ¬ c.WritesIndex ifs t key ∧ ¬ c.RemovesIndex ifs t key) s
      (post.filterMap (Request.call libc)) := by
  rw [Run.along_iff_split]
  intro pre c rest e
  have hmem : c ∈ post.filterMap (Request.call libc) := by
    rw [e]
    simp
  obtain ⟨r, hr, hc⟩ := List.mem_filterMap.1 hmem
  obtain ⟨pSession, hs, rfl⟩ := Option.map_eq_some_iff.1 hc
  refine ⟨?_, id⟩
  rintro ⟨pFar, he, -⟩
  refine hpost r hr ⟨key, pFar⟩ ?_ rfl
  rw [Request.pipeline, hs, Option.bind_eq_bind, Option.bind_some, he]
  rfl

variable {pre post : List Request} {r : Request} {p : PdrJson} {f : FarJson}

/-- A request that is answered has deployed the elements that count, with the next hops of its
body, and what it has deployed stands. -/
theorem stands_of_answered (hn : post.length < 2^32) (hs : StdSort.IsSort r.env.stdSort)
    (hans : statusOf ((Server.run ifs libc pre).result ifs libc r) ≠ none)
    (hsel : r.body.Selects p f)
    (hpost : ∀ r' ∈ post, ∀ pipeline, r'.pipeline libc = some pipeline →
      pipeline.key ≠ p.key libc) :
    (∃ prog : FARProgram, prog.far = some (farOf (f.far libc)) ∧
        prog.m_redirect_interfaces = redirectInterfaces ifs ∧
        Stands (Server.run ifs libc (pre ++ r :: post)).state (p.key libc)
          (idOf (Server.run ifs libc pre).state.programs.length)
          (Server.run ifs libc pre).state.programs.length prog) ∧
      ∀ address, ((Server.run ifs libc (pre ++ r :: post)).arp
          (Server.run ifs libc pre).state.programs.length).lookup address =
        r.body.nextHop libc address := by
  have hf := fresh_run ifs libc pre
  have hN : Numbered (Server.run ifs libc pre).state := by
    rw [state_run]
    exact numbered_run ifs _
  rw [Server.run_append, List.foldl_cons]
  generalize Server.run ifs libc pre = srv at hf hN hans ⊢
  -- The call returned, since nothing else is answered.
  obtain ⟨c, hc, hr⟩ : ∃ c, r.call libc = some c ∧ c.Returns ifs srv.state := by
    by_contra hnot
    push Not at hnot
    exact hans (arp_step_of_not_returns hnot).2
  obtain ⟨pSession, hsession, rfl⟩ := Option.map_eq_some_iff.1 hc
  obtain ⟨pSession', hsession', -, he⟩ := call_of_pipeline (pipeline_of_selects hs hsel hsession)
  obtain rfl : pSession = pSession' := Option.some.inj (hsession.symm.trans hsession')
  obtain ⟨prog, hfar, hm, hst⟩ := stands_of_returns he hr
  have hlen := length_step_of_returns hr
  have hstate : (srv.step ifs libc r).state =
      step ifs srv.state (.createBPFSession pSession r.env.toEnv) := by
    rw [state_step hf, hc]
    rfl
  have hlt : srv.state.programs.length < (srv.step ifs libc r).state.programs.length := by
    rw [hstate, hlen]
    exact Nat.lt_succ_self _
  constructor
  · refine ⟨prog, hfar, hm, ?_⟩
    rw [state_foldl ifs libc (hf.step r), hstate, ← hN.counter]
    refine hst.foldl (along_of_other_keys hpost _) ?_
    rw [hN.counter]
    -- Fewer than `2^32` requests follow, so that the id does not come again.
    have hcalls := List.length_filterMap_le (Request.call libc) post
    have hfinal := length_foldl_le ifs
      (step ifs srv.state (.createBPFSession pSession r.env.toEnv))
      (post.filterMap (Request.call libc))
    refine along_not_takesSlot ((step_change ifs _ _).numbered hN) (by omega) (by omega)
  · intro address
    have hstatus := (arp_step_of_returns hf hc hr).2
    rw [arp_foldl_of_lt (hf.step r) post hlt, (arp_step_of_returns hf hc hr).1,
      Function.update_self, lookup_fill (by rw [← hstatus]; exact hans)]

end Stands

/-! ## The bytes -/

section Bytes

variable (bpf_csum_diff : List UInt8 → UInt32) (mc_stats : McStats)
  {ifs : LinkedInterfaces} {libc : Libc} {pre post : List Request} {r : Request} {p : PdrJson}
  {f : FarJson} {ctx : XdpMd}

end Bytes

/-- The sample body selects its uplink elements when their precedence is the lower value. -/
theorem selects_sample_uplink :
    (sampleBody 1 1 2).Selects (sampleUplinkPdr 1) sampleUplinkFar where
  pdr := ⟨[sampleDownlinkPdr 2], [], rfl, by decide⟩
  far := by decide

/-- Its downlink elements otherwise. -/
theorem selects_sample_downlink :
    (sampleBody 1 2 1).Selects (sampleDownlinkPdr 1) sampleDownlinkFar where
  pdr := ⟨[], [sampleUplinkPdr 2], rfl, by decide⟩
  far := by decide

/-- The pipelines of the sample requests. -/
theorem pipeline_sample_uplink : (sampleRequest 1 1 2).pipeline sampleLibc =
    some ⟨(sampleUplinkPdr 1).key sampleLibc, sampleUplinkFar.far sampleLibc⟩ :=
  pipeline_of_selects StdSort.isSort_insertionSort selects_sample_uplink rfl

theorem pipeline_sample_downlink : (sampleRequest 1 2 1).pipeline sampleLibc =
    some ⟨(sampleDownlinkPdr 1).key sampleLibc, sampleDownlinkFar.far sampleLibc⟩ :=
  pipeline_of_selects StdSort.isSort_insertionSort selects_sample_downlink rfl

/-- One later request with another key. -/
theorem other_key_sample {r : Request} {pl : Pipeline} {key : NextRuleProgIndexKey}
    (h : r.pipeline sampleLibc = some pl) (hne : pl.key ≠ key) :
    ∀ r' ∈ [r], ∀ pipeline, r'.pipeline sampleLibc = some pipeline → pipeline.key ≠ key := by
  intro r' hr' pipeline hp
  obtain rfl := List.mem_singleton.1 hr'
  obtain rfl := Option.some.inj (hp.symm.trans h)
  exact hne

end UpfBpf
