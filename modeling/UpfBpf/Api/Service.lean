import UpfBpf.Api.Server
import UpfBpf.Traffic.ForwardingTable
import UpfBpf.Traffic.EndToEnd

/-!
# The service

What the server is for, seen from its requests and its frames: a table that says for each key by
which FAR and with which next hops its frames are processed, and the number of requests that came to
the construction of a program. The programs themselves are not in it, and neither are the SEIDs. A
request that is deployed enters its key with the FAR that it selects and the next hops of its body,
and nothing ever leaves the table.

`server_refines_service` reduces a whole run of the server, with its answers and its traffic, to the
service. The other results are read off there: how many requests can be answered at all, and which
bytes leave for a frame of a request that was.
-/

namespace UpfBpf

open Effect

/-! ## The table -/

/-- What becomes of the frames of a key. -/
inductive Rule
  /-- They go to the host's stack. -/
  | nowhere
  /-- They are processed by a FAR, if there is one, with next hops. -/
  | program (far : Option PfcpFarT) (nextHops : ArpTable)

/-- The service. -/
structure Service where
  /-- The requests so far that came to the construction of a program. -/
  constructed : ℕ
  /-- The rule of each key. -/
  rules : NextRuleProgIndexKey → Option Rule

/-- The pipeline of a request: the key and the FAR of the PDR that the sort puts first. -/
def Request.pipeline (libc : Libc) (r : Request) : Option Pipeline := do
  let pSession ← r.body.session libc
  (extractPipeline (sortPdrs r.env.toEnv pSession)).toOption

namespace Service

/-- Nothing is deployed. -/
def init : Service := ⟨0, fun _ => none⟩

variable (libc : Libc) (t : Service)

/-- The keys of the service. -/
def keys : Set NextRuleProgIndexKey := {k | t.rules k ≠ none}

/-- The key can be entered: the program is set up, the kernel does not refuse, and there is room. -/
structure Enters (env : Env) (key : NextRuleProgIndexKey) : Prop where
  /-- The program is set up. -/
  setsUp : env.SetsUp
  /-- The kernel does not fail. -/
  kernel : env.indexFails = false
  /-- The key is there, or there are fewer than ten. -/
  room : key ∈ t.keys ∨ t.keys.ncard < 10

/-- A request gets a slot: it is among the first nine constructions, and the kernel does not
refuse. -/
def GetsSlot (env : Env) : Prop := env.progFails = false ∧ t.constructed < 9

/-- The request is deployed. -/
def Deploys (r : Request) : Prop :=
  ∃ pipeline, r.pipeline libc = some pipeline ∧ t.Enters r.env.toEnv pipeline.key ∧
    t.GetsSlot r.env.toEnv ∧ r.env.farFails = false

open Classical in
/-- The rule that a request gives its key. -/
noncomputable def newRule (r : Request) (far : PfcpFarT) : Rule :=
  if t.GetsSlot r.env.toEnv then
    if r.env.farFails then .program none BoundedMap.empty
    else .program (some far) (final (r.fill libc))
  else .nowhere

open Classical in
/-- The service after a request. -/
noncomputable def step (t : Service) (r : Request) : Service :=
  match r.pipeline libc with
  | none => t
  | some ⟨key, pFar⟩ =>
    if t.Enters r.env.toEnv key then
      ⟨t.constructed + 1, Function.update t.rules key (some (t.newRule libc r (farOf pFar)))⟩
    else ⟨t.constructed + 1, t.rules⟩

/-- The service after a run of requests. -/
noncomputable def run (rs : List Request) : Service := rs.foldl (step libc) init

open Classical in
/-- The status that a request is answered with, if it is. -/
noncomputable def answer (r : Request) : Option ℕ :=
  if t.Deploys libc r then statusOf (r.fill libc) else none

/-- The answers to a run of requests. -/
noncomputable def answers (t : Service) : List Request → List (Option ℕ)
  | [] => []
  | r :: rs => t.answer libc r :: (t.step libc r).answers rs

/-- The way of a frame. -/
def process (bpf_csum_diff : List UInt8 → UInt32) (ifs : Interfaces) (ctx : XdpMd) :
    Verdict × XdpMd :=
  match detect ctx with
  | .ret action => (action, ctx)
  | .tailCall key =>
    match t.rules key with
    | some (.program far nextHops) =>
      pfcpFarApply bpf_csum_diff nextHops (redirectInterfaces ifs) ctx far
    | some .nowhere | none => (.pass, ctx)

end Service

/-! ## The service of a server -/

/-- The rule of a lead. -/
def Lead.rule (arp : ℕ → ArpTable) : Lead → Rule
  | .nowhere => .nowhere
  | .program ref far => .program far (arp ref)

/-- The service of a forwarding table with the ARP tables of its programs. -/
def Service.ofTable (t : ForwardingTable) (arp : ℕ → ArpTable) : Service where
  constructed := t.constructed
  rules k := (t.leads k).map (Lead.rule arp)

/-- The service that a server implements. -/
def Server.service (srv : Server) : Service := .ofTable srv.state.table srv.arp

section Abstraction

variable {ifs : Interfaces} {libc : Libc} {t : ForwardingTable} {arp arp' : ℕ → ArpTable}
  {env : Env} {key : NextRuleProgIndexKey}

theorem keys_ofTable (t : ForwardingTable) (arp : ℕ → ArpTable) :
    (Service.ofTable t arp).keys = t.keys := by
  ext k
  simp [Service.keys, Service.ofTable, ForwardingTable.keys]

theorem enters_ofTable_iff : (Service.ofTable t arp).Enters env key ↔ t.Enters env key := by
  constructor
  · rintro ⟨hs, hk, hroom⟩
    rw [keys_ofTable] at hroom
    exact ⟨hs, hk, hroom⟩
  · rintro ⟨hs, hk, hroom⟩
    rw [← keys_ofTable t arp] at hroom
    exact ⟨hs, hk, hroom⟩

/-- A frame is processed by the service as by the table. -/
theorem process_ofTable (bpf_csum_diff : List UInt8 → UInt32) (ctx : XdpMd) :
    (Service.ofTable t arp).process bpf_csum_diff ifs ctx =
      t.process bpf_csum_diff arp ifs ctx := by
  rw [Service.process, ForwardingTable.process]
  cases detect ctx with
  | ret action => rfl
  | tailCall key =>
    simp only [Service.ofTable]
    cases t.leads key with
    | none => rfl
    | some lead => cases lead <;> rfl

/-- The programs that keys lead to are constructed. -/
theorem Numbered.ref_lt {s : State} (hN : Numbered s) {ref : ℕ} {far : Option PfcpFarT}
    (h : s.table.leads key = some (.program ref far)) : ref < s.programs.length := by
  obtain ⟨id, -, hl⟩ := Option.map_eq_some_iff.1 h
  rw [State.lead] at hl
  cases hg : s.m_next_rule_prog.get id.toNat with
  | none =>
    rw [hg] at hl
    cases hl
  | some ref' =>
    rw [hg] at hl
    cases hl
    exact (hN.slots _ _ hg).1

/-- A rule is kept when the ARP tables of the constructed programs are. -/
theorem Numbered.rule_congr {s : State} (hN : Numbered s)
    (harp : ∀ ref < s.programs.length, arp' ref = arp ref) (k : NextRuleProgIndexKey) :
    (s.table.leads k).map (Lead.rule arp') = (s.table.leads k).map (Lead.rule arp) := by
  cases hl : s.table.leads k with
  | none => rfl
  | some lead =>
    cases lead with
    | nowhere => rfl
    | program ref far => simp only [Option.map_some, Lead.rule, harp ref (hN.ref_lt hl)]

end Abstraction

/-! ## Requests as steps of the service -/

section Step

variable {ifs : Interfaces} {libc : Libc} {srv : Server} {r : Request} {pSession : PfcpSession}
  {key : NextRuleProgIndexKey} {pFar : PfcpFar}

/-- The table of leads after a call that enters its key, and after one that does not. -/
theorem leads_step_create {t : ForwardingTable} {env : Env}
    (he : extractPipeline (sortPdrs env pSession) = .ok ⟨key, pFar⟩) :
    (t.Enters env key → (t.step (.createBPFSession pSession env)).leads =
        Function.update t.leads key (some (t.newLead env (farOf pFar)))) ∧
      (¬ t.Enters env key → (t.step (.createBPFSession pSession env)).leads = t.leads) := by
  rw [ForwardingTable.step, he]
  dsimp only
  constructor
  · intro hent
    rw [if_pos hent]
    split_ifs
    · rfl
    · rfl
  · intro hent
    rw [if_neg hent]

/-- A request without a pipeline does nothing. -/
theorem service_step_of_no_pipeline (hf : srv.Fresh) (h : r.pipeline libc = none) :
    srv.step ifs libc r = srv ∧ statusOf (srv.result ifs libc r) = none := by
  have hnot : ∀ c, r.call libc = some c →
      ¬ c.Returns ifs srv.state ∧ step ifs srv.state c = srv.state := by
    rintro c hc
    obtain ⟨pSession, hs, rfl⟩ := Option.map_eq_some_iff.1 hc
    have he : ∀ pipeline, extractPipeline (sortPdrs r.env.toEnv pSession) ≠ .ok pipeline := by
      intro pipeline he
      rw [Request.pipeline, hs, Option.bind_eq_bind, Option.bind_some, he] at h
      cases h
    refine ⟨fun hr => ?_, ?_⟩
    · obtain ⟨key, pFar, -, -, -, he', -⟩ := create_returns hr
      exact he _ he'
    · rcases step_create_cases ifs r.env.toEnv srv.state pSession with
        ⟨-, hstep⟩ | ⟨key, pFar, -, -, he', -⟩
      · exact hstep
      · exact absurd he' (he _)
  obtain ⟨harp, hstatus⟩ := arp_step_of_not_returns fun c hc => (hnot c hc).1
  have hstate : (srv.step ifs libc r).state = srv.state := by
    rw [state_step hf]
    cases hc : r.call libc with
    | none => rfl
    | some c => exact (hnot c hc).2
  refine ⟨?_, hstatus⟩
  cases hstep : srv.step ifs libc r with
  | mk state arp =>
    rw [hstep] at harp hstate
    obtain rfl : state = srv.state := hstate
    obtain rfl : arp = srv.arp := harp
    rfl

/-- The pipeline of a request is that of its call. -/
theorem call_of_pipeline (h : r.pipeline libc = some ⟨key, pFar⟩) :
    ∃ pSession, r.body.session libc = some pSession ∧
      r.call libc = some (.createBPFSession pSession r.env.toEnv) ∧
      extractPipeline (sortPdrs r.env.toEnv pSession) = .ok ⟨key, pFar⟩ := by
  obtain ⟨pSession, hs, he⟩ := Option.bind_eq_some_iff.1 h
  refine ⟨pSession, hs, by rw [Request.call, hs]; rfl, ?_⟩
  cases hx : extractPipeline (sortPdrs r.env.toEnv pSession) with
  | error e =>
    rw [hx] at he
    cases he
  | ok pipeline =>
    rw [hx] at he
    cases he
    rfl

open Classical in
/-- The ARP tables after a request that comes to a call, and its answer. -/
theorem arp_step_of_call (ifs : Interfaces) (hf : srv.Fresh) {c : Call}
    (hc : r.call libc = some c) :
    (srv.step ifs libc r).arp srv.state.programs.length =
        (if c.Returns ifs srv.state then final (r.fill libc) else BoundedMap.empty) ∧
      (∀ ref < srv.state.programs.length, (srv.step ifs libc r).arp ref = srv.arp ref) ∧
      statusOf (srv.result ifs libc r) =
        if c.Returns ifs srv.state then statusOf (r.fill libc) else none := by
  by_cases hr : c.Returns ifs srv.state
  · obtain ⟨harp, hstatus⟩ := arp_step_of_returns hf hc hr
    rw [harp, if_pos hr, if_pos hr, Function.update_self]
    refine ⟨rfl, fun ref hlt => ?_, hstatus⟩
    rw [Function.update_of_ne hlt.ne]
  · have hnot : ∀ c', r.call libc = some c' → ¬ c'.Returns ifs srv.state := by
      intro c' h
      rw [hc] at h
      cases h
      exact hr
    obtain ⟨harp, hstatus⟩ := arp_step_of_not_returns hnot
    rw [harp, if_neg hr, if_neg hr]
    exact ⟨hf _ le_rfl, fun ref _ => rfl, hstatus⟩

/-- A request that comes to the construction of a program is one more. -/
theorem constructed_step_of_pipeline (t : Service) (h : r.pipeline libc = some ⟨key, pFar⟩) :
    (t.step libc r).constructed = t.constructed + 1 := by
  rw [Service.step, h]
  dsimp only
  split_ifs
  · rfl
  · rfl

/-- The call of a request returns exactly when the service deploys it. -/
theorem returns_iff_deploys (ifs : Interfaces) (hN : Numbered srv.state)
    (hn : srv.state.programs.length + 1 < 2^32)
    (h : r.pipeline libc = some ⟨key, pFar⟩)
    (he : extractPipeline (sortPdrs r.env.toEnv pSession) = .ok ⟨key, pFar⟩) :
    ((Call.createBPFSession pSession r.env.toEnv).Returns ifs srv.state ↔
        srv.service.Deploys libc r) ∧
      (step ifs srv.state (.createBPFSession pSession r.env.toEnv)).table =
        srv.state.table.step (.createBPFSession pSession r.env.toEnv) := by
  have hcount : (srv.state.table.step (.createBPFSession pSession r.env.toEnv)).constructed =
    srv.state.programs.length + 1 := ForwardingTable.constructed_step_of_constructs ⟨_, he⟩
  obtain ⟨htable, hret⟩ : (step ifs srv.state (.createBPFSession pSession r.env.toEnv)).table = _ ∧
      ((Call.createBPFSession pSession r.env.toEnv).Returns ifs srv.state ↔ _) :=
    table_step hN _ (by rw [hcount]; exact hn)
  refine ⟨?_, htable⟩
  rw [hret]
  constructor
  · rintro ⟨pipeline, he', hent, hslot, hfar⟩
    rw [he] at he'
    cases he'
    exact ⟨_, h, enters_ofTable_iff.2 hent, hslot, hfar⟩
  · rintro ⟨pipeline, h', hent, hslot, hfar⟩
    rw [h] at h'
    cases h'
    exact ⟨_, he, enters_ofTable_iff.1 hent, hslot, hfar⟩

/-- The rule of the key that was entered. -/
theorem rule_newLead (hent : srv.service.Enters r.env.toEnv key)
    (h : r.pipeline libc = some ⟨key, pFar⟩) {arp : ℕ → ArpTable}
    (hdep : srv.service.Deploys libc r → arp srv.state.programs.length = final (r.fill libc))
    (hnot : ¬ srv.service.Deploys libc r → arp srv.state.programs.length = BoundedMap.empty) :
    (srv.state.table.newLead r.env.toEnv (farOf pFar)).rule arp =
      srv.service.newRule libc r (farOf pFar) := by
  rw [ForwardingTable.newLead, Service.newRule]
  have hslot : srv.state.table.GetsSlot r.env.toEnv ↔ srv.service.GetsSlot r.env.toEnv := Iff.rfl
  by_cases hs : srv.service.GetsSlot r.env.toEnv
  · rw [if_pos hs, if_pos (hslot.2 hs)]
    cases hfar : r.env.farFails with
    | false =>
      have hd : srv.service.Deploys libc r := ⟨_, h, hent, hs, hfar⟩
      simp only [Lead.rule, Bool.false_eq_true, if_false]
      rw [← hdep hd]
      rfl
    | true =>
      have hd : ¬ srv.service.Deploys libc r := by
        rintro ⟨-, -, -, -, hfar'⟩
        rw [hfar] at hfar'
        cases hfar'
      simp only [Lead.rule, if_true]
      rw [← hnot hd]
      rfl
  · rw [if_neg hs, if_neg fun hs' => hs (hslot.1 hs')]
    rfl

/-- Every request is a step of the service, and is answered as the service says. -/
theorem service_step (ifs : Interfaces) (hf : srv.Fresh) (hN : Numbered srv.state)
    (hn : (srv.service.step libc r).constructed < 2^32) :
    (srv.step ifs libc r).service = srv.service.step libc r ∧
      statusOf (srv.result ifs libc r) = srv.service.answer libc r := by
  cases hp : r.pipeline libc with
  | none =>
    obtain ⟨hstep, hstatus⟩ := service_step_of_no_pipeline hf hp
    have hnot : ¬ srv.service.Deploys libc r := by
      rintro ⟨pipeline, hp', -⟩
      rw [hp] at hp'
      cases hp'
    rw [hstep, hstatus, Service.step, hp, Service.answer, if_neg hnot]
    exact ⟨rfl, rfl⟩
  | some pipeline =>
    obtain ⟨key, pFar⟩ := pipeline
    obtain ⟨pSession, -, hc, he⟩ := call_of_pipeline hp
    rw [constructed_step_of_pipeline srv.service hp] at hn
    obtain ⟨hdep, htable⟩ := returns_iff_deploys ifs hN hn hp he
    obtain ⟨harp, hold, hstatus⟩ := arp_step_of_call ifs hf hc
    have hanswer : statusOf (srv.result ifs libc r) = srv.service.answer libc r := by
      rw [hstatus, Service.answer]
      by_cases hd : srv.service.Deploys libc r
      · rw [if_pos (hdep.2 hd), if_pos hd]
      · rw [if_neg fun hr => hd (hdep.1 hr), if_neg hd]
    refine ⟨?_, hanswer⟩
    have hstate : (srv.step ifs libc r).state.table =
        srv.state.table.step (.createBPFSession pSession r.env.toEnv) := by
      rw [state_step hf, hc]
      exact htable
    have hcount : (srv.state.table.step (.createBPFSession pSession r.env.toEnv)).constructed =
      srv.state.programs.length + 1 := ForwardingTable.constructed_step_of_constructs ⟨_, he⟩
    rw [Server.service, hstate, Service.ofTable, hcount, Service.step, hp]
    dsimp only
    -- Only the rule of the key can change, and that of no other program.
    by_cases hent : srv.service.Enters r.env.toEnv key
    · rw [if_pos hent, (leads_step_create he).1 (enters_ofTable_iff.1 hent)]
      congr 1
      funext k
      by_cases hk : k = key
      · subst hk
        rw [Function.update_self, Function.update_self, Option.map_some,
          rule_newLead hent hp (fun hd => by rw [harp, if_pos (hdep.2 hd)])
            (fun hd => by rw [harp, if_neg fun hr => hd (hdep.1 hr)])]
      · rw [Function.update_of_ne hk, Function.update_of_ne hk, hN.rule_congr hold]
        rfl
    · rw [if_neg hent, (leads_step_create he).2 fun h => hent (enters_ofTable_iff.2 h)]
      congr 1
      funext k
      exact hN.rule_congr hold k

end Step

/-! ## Runs -/

namespace Service

variable {libc : Libc} {t : Service} {r : Request}

theorem constructed_step_cases (libc : Libc) (t : Service) (r : Request) :
    (t.step libc r).constructed = t.constructed + 1 ∨ t.step libc r = t := by
  cases hp : r.pipeline libc with
  | none =>
    right
    rw [step, hp]
  | some pipeline => exact .inl (constructed_step_of_pipeline t hp)

/-- What was constructed stays counted. -/
theorem constructed_le_foldl (libc : Libc) (t : Service) (rs : List Request) :
    t.constructed ≤ (rs.foldl (step libc) t).constructed :=
  Run.invariant (I := fun t' : Service => t.constructed ≤ t'.constructed) le_rfl
    (fun t' r h => by
      rcases constructed_step_cases libc t' r with e | e
      · omega
      · rw [e]
        exact h) rs

/-- At most one program for each request. -/
theorem constructed_foldl_le (libc : Libc) (t : Service) (rs : List Request) :
    (rs.foldl (step libc) t).constructed ≤ t.constructed + rs.length := by
  induction rs generalizing t with
  | nil => exact le_rfl
  | cons r rs ih =>
    have hrest := ih (t.step libc r)
    rw [List.foldl_cons, List.length_cons]
    rcases constructed_step_cases libc t r with e | e
    · omega
    · rw [e] at hrest ⊢
      omega

/-- A request that is deployed is one of the first nine, and counts. -/
theorem Deploys.constructed (h : t.Deploys libc r) :
    t.constructed < 9 ∧ (t.step libc r).constructed = t.constructed + 1 := by
  obtain ⟨pipeline, hp, -, hslot, -⟩ := h
  exact ⟨hslot.2, constructed_step_of_pipeline t hp⟩

/-- As many requests are answered as there are slots left, at most. -/
theorem countP_answers_le (libc : Libc) (t : Service) (rs : List Request) :
    (t.answers libc rs).countP Option.isSome ≤ 9 - t.constructed := by
  induction rs generalizing t with
  | nil => simp [answers]
  | cons r rs ih =>
    have hrest := ih (t.step libc r)
    rw [answers, List.countP_cons]
    by_cases hd : t.Deploys libc r
    · obtain ⟨hlt, hstep⟩ := hd.constructed
      split_ifs <;> omega
    · have hnone : (t.answer libc r).isSome = false := by rw [answer, if_neg hd, Option.isSome_none]
      have hle := constructed_le_foldl libc t [r]
      rw [List.foldl_cons, List.foldl_nil] at hle
      rw [hnone, if_neg Bool.false_ne_true]
      omega

end Service

section Runs

variable {ifs : Interfaces} {libc : Libc} {srv : Server}

theorem numbered_server_step (hf : srv.Fresh) (hN : Numbered srv.state) (r : Request) :
    Numbered (srv.step ifs libc r).state := by
  rw [state_step hf]
  cases r.call libc with
  | none => exact hN
  | some c => exact (step_change ifs srv.state c).numbered hN

/-- Every run of requests is one of the service, with the same answers. -/
theorem service_foldl (ifs : Interfaces) (hf : srv.Fresh) (hN : Numbered srv.state)
    (rs : List Request)
    (hn : (rs.foldl (Service.step libc) srv.service).constructed < 2^32) :
    (rs.foldl (Server.step ifs libc) srv).service = rs.foldl (Service.step libc) srv.service ∧
      srv.answers ifs libc rs = srv.service.answers libc rs := by
  induction rs generalizing srv with
  | nil => exact ⟨rfl, rfl⟩
  | cons r rs ih =>
    rw [List.foldl_cons] at hn
    have hr : (srv.service.step libc r).constructed < 2^32 :=
      lt_of_le_of_lt (Service.constructed_le_foldl libc _ rs) hn
    obtain ⟨hstep, hanswer⟩ := service_step ifs hf hN hr
    rw [← hstep] at hn
    obtain ⟨hrun, hanswers⟩ := ih (hf.step r) (numbered_server_step hf hN r) hn
    rw [List.foldl_cons, List.foldl_cons, Server.answers, Service.answers, hrun, hanswers, hstep,
      hanswer]
    exact ⟨rfl, rfl⟩

end Runs

/-- The service that a new server implements. -/
theorem service_init : Server.service {} = Service.init := rfl

/-- The server is its service: in every run of requests, with every failure that the outside can
bring about, every frame is processed as the service says, and every request gets the answer, or
none, that the service gives it, until more than `2^32 - 1` programs were constructed. A request
writes to no ARP table but that of the program which it has constructed itself. -/
theorem server_refines_service (bpf_csum_diff : List UInt8 → UInt32) (ifs : Interfaces)
    (libc : Libc) (rs : List Request) (hn : (Service.run libc rs).constructed < 2^32) :
    (∀ ctx mc_stats, processFrame bpf_csum_diff (Server.run ifs libc rs).arp
        (Server.run ifs libc rs).state ctx mc_stats =
        (Service.run libc rs).process bpf_csum_diff ifs ctx) ∧
      Server.answers ifs libc {} rs = Service.init.answers libc rs ∧
      ∀ pre r post, rs = pre ++ r :: post → ∀ ref,
        (Server.run ifs libc (pre ++ [r])).arp ref ≠ (Server.run ifs libc pre).arp ref →
        ref = (Server.run ifs libc pre).state.programs.length ∧
          (Server.run ifs libc (pre ++ [r])).state.programs.length =
            (Server.run ifs libc pre).state.programs.length + 1 := by
  have hf : Server.Fresh {} := fun _ _ => rfl
  obtain ⟨hrun, hanswers⟩ := service_foldl ifs hf numbered_init rs hn
  refine ⟨fun ctx mc_stats => ?_, hanswers, fun pre r post _ ref harp => ?_⟩
  · have heq : Equipped ifs (Server.run ifs libc rs).state := by
      rw [state_run]
      exact equipped_run ifs _
    rw [process_table bpf_csum_diff _ ctx mc_stats heq, ← process_ofTable]
    exact congrArg (fun t => Service.process t bpf_csum_diff ifs ctx) hrun
  · rw [Server.run_append, List.foldl_cons, List.foldl_nil] at harp ⊢
    exact constructed_of_arp_step_ne (fresh_run ifs libc pre) harp

/-- A request for either direction. -/
theorem server_refines_service_sample :
    (∀ ctx mc_stats, processFrame (fun _ => 0)
        (Server.run sampleInterfaces sampleLibc [sampleRequest 1 1 2, sampleRequest 2 2 1]).arp
        (Server.run sampleInterfaces sampleLibc [sampleRequest 1 1 2, sampleRequest 2 2 1]).state
        ctx mc_stats =
        (Service.run sampleLibc [sampleRequest 1 1 2, sampleRequest 2 2 1]).process (fun _ => 0)
          sampleInterfaces ctx) ∧
      Service.init.answers sampleLibc [sampleRequest 1 1 2, sampleRequest 2 2 1] =
        [some 200, some 200] := by
  have hle := Service.constructed_foldl_le sampleLibc Service.init
    [sampleRequest 1 1 2, sampleRequest 2 2 1]
  have hn : (Service.run sampleLibc [sampleRequest 1 1 2, sampleRequest 2 2 1]).constructed <
    2^32 := lt_of_le_of_lt hle (by decide)
  obtain ⟨hframes, hanswers, -⟩ :=
    server_refines_service (fun _ => 0) sampleInterfaces sampleLibc _ hn
  refine ⟨hframes, ?_⟩
  rw [← hanswers]
  decide

/-- The server answers nine requests in its life, and no more, whatever they ask for and whatever
fails: there is no request that gives a slot back. -/
theorem answered_le_nine (ifs : Interfaces) (libc : Libc) (rs : List Request)
    (hn : rs.length < 2^32) : (Server.answers ifs libc {} rs).countP Option.isSome ≤ 9 := by
  have hf : Server.Fresh {} := fun _ _ => rfl
  have hle := Service.constructed_foldl_le libc Service.init rs
  have hlt : (rs.foldl (Service.step libc) (Server.service {})).constructed < 2^32 := by
    rw [service_init]
    exact lt_of_le_of_lt hle (by simpa [Service.init] using hn)
  rw [(service_foldl ifs hf numbered_init rs hlt).2]
  exact Service.countP_answers_le libc _ rs

/-- One request sent a dozen times. -/
theorem answered_le_nine_sample :
    (Server.answers sampleInterfaces sampleLibc {}
      (List.replicate 12 (sampleRequest 1 1 2))).countP Option.isSome ≤ 9 :=
  answered_le_nine sampleInterfaces sampleLibc _ (by decide)

end UpfBpf
