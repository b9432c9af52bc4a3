import UpfBpf.Api.Request
import UpfBpf.Control.Capacity

/-!
# The server

`Controller::createSesssion` (`tests/api/Controller.cpp`), behind `POST /createSession` of
`tests/api/Server.cpp`, after a `POST /configure` that has set up the user plane. A request is read
first, then its session is deployed, and then the ARP table of the program that was constructed for
it is filled, one element after the other. Each part may end the request. An element whose address
is none is answered with the status 400, and everything else that goes wrong is an exception. What
was done until then stays.

The server has no request that removes a session. Its runs are runs of `createBPFSession`
(`state_run`), and the only ARP table that a request writes is that of the program that it has
constructed itself (`arp_step_of_returns`).
-/

namespace UpfBpf

open Effect

/-- What ends a request without an answer. -/
inductive ApiErr
  /-- `Util::convertIpToInet`: "Invalid address". -/
  | invalidAddress
  /-- The update of an ARP table is given a null pointer for the MAC address. -/
  | nullMac
  /-- The session manager, or a map. -/
  | call (e : Err)
  deriving DecidableEq, Repr

/-- What the outside does during one request. -/
structure ApiEnv extends Env where
  /-- The kernel fails the update of `m_arp_table` with this number. -/
  arpFails : ℕ → Bool := fun _ => false

/-- A request. -/
structure Request where
  /-- Its body. -/
  body : SessionJson
  /-- The outside. -/
  env : ApiEnv

/-- The user plane with the ARP tables of its rule programs. -/
structure Server where
  /-- The user plane. -/
  state : State := {}
  /-- `m_arp_table` of each program, by its place in the order of construction. -/
  arp : ℕ → ArpTable := fun _ => BoundedMap.empty

/-! ## The handler -/

section Handler

variable (ifs : Interfaces) (libc : Libc)

/-- An update of `getArpTableMap()`. -/
def updateArpTable (fails : Bool) (ip : UInt32) (mac : Mac) : EStateM ApiErr ArpTable Unit :=
  attempt fails (.call .mapUpdate) fun m_arp_table => m_arp_table.update ip mac

/-- The loop over `arpTable`, after `n` updates, with the status of the answer. -/
def fillArpTable (arpFails : ℕ → Bool) : ℕ → List ArpJson → EStateM ApiErr ArpTable ℕ
  | _, [] => pure 200
  | n, element :: arpTable =>
    match libc.inet_aton element.ip with
    | none => pure 400
    | some ip =>
      match libc.ether_aton element.mac with
      | none => throw .nullMac
      | some mac => do
        updateArpTable (arpFails n) ip mac
        fillArpTable arpFails (n + 1) arpTable

/-- `spSessionManager->createBPFSession(pSession)`. -/
def callCreateBPFSession (env : Env) (pSession : PfcpSession) : EStateM ApiErr Server Unit :=
  fun srv => match (createBPFSession ifs env pSession srv.state).1 with
    | .ok _ s => .ok () { srv with state := s }
    | .error e s => .error (.call e) { srv with state := s }

/-- A computation on the ARP table of a program. -/
def onArpTable {α : Type} (pFARProgram : ℕ) (x : EStateM ApiErr ArpTable α) :
    EStateM ApiErr Server α :=
  zoom (fun srv : Server => some (srv.arp pFARProgram))
    (fun t srv => { srv with arp := Function.update srv.arp pFARProgram t }) (.call .segfault) x

/-- `createSesssion`. The SEID is found again by its lower half. -/
def createSesssion (env : ApiEnv) (jRequest : SessionJson) : EStateM ApiErr Server ℕ :=
  match jRequest.session libc with
  | none => throw .invalidAddress
  | some pSession => do
    callCreateBPFSession ifs env.toEnv pSession
    let srv ← get
    match findSessionPrograms srv.state jRequest.seid.toUInt32 with
    | none => throw (.call .segfault)
    | some pSessionPrograms =>
      onArpTable pSessionPrograms.mpFARProgram (fillArpTable libc env.arpFails 0 jRequest.arpTable)

/-- How a request ends. -/
def Server.result (srv : Server) (r : Request) : EStateM.Result ApiErr Server ℕ :=
  createSesssion ifs libc r.env r.body srv

/-- The server after a request. -/
def Server.step (srv : Server) (r : Request) : Server := final (srv.result ifs libc r)

/-- The server after a run of requests. -/
def Server.run (rs : List Request) : Server := rs.foldl (Server.step ifs libc) {}

/-- The status of an answer, if there is one. -/
def statusOf {σ : Type} : EStateM.Result ApiErr σ ℕ → Option ℕ
  | .ok status _ => some status
  | .error _ _ => none

/-- The answers to a run of requests. -/
def Server.answers (srv : Server) : List Request → List (Option ℕ)
  | [] => []
  | r :: rs => statusOf (srv.result ifs libc r) :: (srv.step ifs libc r).answers rs

/-- The call of the session manager that a request comes to. -/
def Request.call (r : Request) : Option Call :=
  (r.body.session libc).map fun pSession => .createBPFSession pSession r.env.toEnv

/-- How the ARP table of a new program is filled. -/
def Request.fill (r : Request) : EStateM.Result ApiErr ArpTable ℕ :=
  fillArpTable libc r.env.arpFails 0 r.body.arpTable BoundedMap.empty

end Handler

/-! ## What a request can do -/

section Step

variable {ifs : Interfaces} {libc : Libc} {srv : Server} {r : Request}

/-- A body without a session is an exception, and nothing happens. -/
theorem result_of_session_eq_none (h : r.body.session libc = none) :
    srv.result ifs libc r = .error .invalidAddress srv := by
  rw [Server.result, createSesssion, h]
  rfl

/-- A session that is not deployed is an exception too. -/
theorem result_of_throws {pSession : PfcpSession} (h : r.body.session libc = some pSession)
    (hr : ¬ (Call.createBPFSession pSession r.env.toEnv).Returns ifs srv.state) :
    ∃ e, srv.result ifs libc r = .error (.call e) { srv with
      state := step ifs srv.state (.createBPFSession pSession r.env.toEnv) } := by
  rw [Call.Returns, Call.result] at hr
  cases hc : (createBPFSession ifs r.env.toEnv pSession srv.state).1 with
  | ok a s =>
    rw [hc] at hr
    exact absurd trivial hr
  | error e s =>
    have hcall : callCreateBPFSession ifs r.env.toEnv pSession srv =
        .error (.call e) { srv with state := s } := by
      simp only [callCreateBPFSession, hc]
    refine ⟨e, ?_⟩
    rw [Server.result, createSesssion, h]
    dsimp only
    rw [bind_of_error hcall, step, Call.result, hc]
    rfl

/-- The SEID of a request that was deployed is found, with the program that was constructed. -/
theorem find_of_returns {s : State} {pSession : PfcpSession} {env : Env}
    (hr : (Call.createBPFSession pSession env).Returns ifs s) :
    ∃ key, findSessionPrograms (step ifs s (.createBPFSession pSession env))
      pSession.seid.toUInt32 = some ⟨key, s.programs.length⟩ := by
  obtain ⟨key, pFar, index, slots, p, -, -, -, -, -, -, -, hstep⟩ := create_returns hr
  refine ⟨key, ?_⟩
  rw [findSessionPrograms, hstep, lookup_deploy]
  exact if_pos rfl

/-- A session that is deployed: the ARP table of its program is filled. -/
theorem result_of_returns {pSession : PfcpSession} (h : r.body.session libc = some pSession)
    (hr : (Call.createBPFSession pSession r.env.toEnv).Returns ifs srv.state) :
    srv.result ifs libc r = onArpTable srv.state.programs.length
      (fillArpTable libc r.env.arpFails 0 r.body.arpTable)
      { srv with state := step ifs srv.state (.createBPFSession pSession r.env.toEnv) } := by
  obtain ⟨key, hfind⟩ := find_of_returns hr
  have hseid : pSession.seid = r.body.seid := by
    rw [(session_eq_some_iff.1 h).2.2]
  rw [Call.Returns, Call.result] at hr
  cases hc : (createBPFSession ifs r.env.toEnv pSession srv.state).1 with
  | error e s =>
    rw [hc] at hr
    exact hr.elim
  | ok a s =>
    have hstep : step ifs srv.state (.createBPFSession pSession r.env.toEnv) = s := by
      rw [step, Call.result, hc]
      rfl
    have hcall : callCreateBPFSession ifs r.env.toEnv pSession srv =
        .ok () { srv with state := s } := by
      simp only [callCreateBPFSession, hc]
    rw [hstep, hseid] at hfind
    rw [Server.result, createSesssion, h, hstep]
    dsimp only
    rw [bind_of_ok hcall, bind_get]
    simp only [hfind]

theorem onArpTable_of_ok {α : Type} {x : EStateM ApiErr ArpTable α} {ref : ℕ} {a : α}
    {t : ArpTable} (h : x (srv.arp ref) = .ok a t) :
    onArpTable ref x srv = .ok a { srv with arp := Function.update srv.arp ref t } :=
  zoom_of_ok (g := fun t : Server => some (t.arp ref)) rfl h

theorem onArpTable_of_error {α : Type} {x : EStateM ApiErr ArpTable α} {ref : ℕ} {e : ApiErr}
    {t : ArpTable} (h : x (srv.arp ref) = .error e t) :
    onArpTable ref x srv = .error e { srv with arp := Function.update srv.arp ref t } :=
  zoom_of_error (g := fun t : Server => some (t.arp ref)) rfl h

/-- The ARP tables of programs that are not constructed yet are empty. -/
def Server.Fresh (srv : Server) : Prop :=
  ∀ ref, srv.state.programs.length ≤ ref → srv.arp ref = BoundedMap.empty

/-- The call of a request that returns, with the answer and all that has changed. -/
theorem result_of_fresh (hf : srv.Fresh) {pSession : PfcpSession}
    (h : r.body.session libc = some pSession)
    (hr : (Call.createBPFSession pSession r.env.toEnv).Returns ifs srv.state) :
    statusOf (srv.result ifs libc r) = statusOf (r.fill libc) ∧
      srv.step ifs libc r = ⟨step ifs srv.state (.createBPFSession pSession r.env.toEnv),
        Function.update srv.arp srv.state.programs.length (final (r.fill libc))⟩ := by
  rw [Server.step, result_of_returns h hr, Request.fill]
  generalize step ifs srv.state (.createBPFSession pSession r.env.toEnv) = s'
  have hempty : ({ srv with state := s' } : Server).arp srv.state.programs.length =
    BoundedMap.empty := hf srv.state.programs.length le_rfl
  cases hfill : fillArpTable libc r.env.arpFails 0 r.body.arpTable BoundedMap.empty with
  | ok status t =>
    rw [onArpTable_of_ok (by rw [hempty, hfill])]
    exact ⟨rfl, rfl⟩
  | error e t =>
    rw [onArpTable_of_error (by rw [hempty, hfill])]
    exact ⟨rfl, rfl⟩

/-- The user plane after a request. -/
theorem state_step (hf : srv.Fresh) (r : Request) :
    (srv.step ifs libc r).state = (r.call libc).elim srv.state (step ifs srv.state) := by
  rw [Request.call]
  cases h : r.body.session libc with
  | none =>
    rw [Server.step, result_of_session_eq_none h]
    rfl
  | some pSession =>
    by_cases hr : (Call.createBPFSession pSession r.env.toEnv).Returns ifs srv.state
    · rw [(result_of_fresh hf h hr).2]
      rfl
    · obtain ⟨e, he⟩ := result_of_throws h hr
      rw [Server.step, he]
      rfl

/-- A request that is not deployed writes no ARP table. -/
theorem arp_step_of_not_returns
    (h : ∀ c, r.call libc = some c → ¬ c.Returns ifs srv.state) :
    (srv.step ifs libc r).arp = srv.arp ∧ statusOf (srv.result ifs libc r) = none := by
  cases hs : r.body.session libc with
  | none =>
    rw [Server.step, result_of_session_eq_none hs]
    exact ⟨rfl, rfl⟩
  | some pSession =>
    have hc : r.call libc = some (.createBPFSession pSession r.env.toEnv) := by
      rw [Request.call, hs]
      rfl
    obtain ⟨e, he⟩ := result_of_throws hs (h _ hc)
    rw [Server.step, he]
    exact ⟨rfl, rfl⟩

/-- A request that is deployed answers as its ARP table is filled, and fills that of the program
which it has constructed. -/
theorem arp_step_of_returns (hf : srv.Fresh) {c : Call} (hc : r.call libc = some c)
    (hr : c.Returns ifs srv.state) :
    (srv.step ifs libc r).arp =
        Function.update srv.arp srv.state.programs.length (final (r.fill libc)) ∧
      statusOf (srv.result ifs libc r) = statusOf (r.fill libc) := by
  obtain ⟨pSession, hs, rfl⟩ := Option.map_eq_some_iff.1 hc
  obtain ⟨hstatus, hstep⟩ := result_of_fresh hf hs hr
  rw [hstep]
  exact ⟨rfl, hstatus⟩

/-- A call that returns has constructed a program. -/
theorem length_step_of_returns {s : State} {pSession : PfcpSession} {env : Env}
    (hr : (Call.createBPFSession pSession env).Returns ifs s) :
    (step ifs s (.createBPFSession pSession env)).programs.length = s.programs.length + 1 := by
  obtain ⟨key, pFar, -, -, -, he, -⟩ := create_returns hr
  exact length_step_create ifs s he

/-- A request takes no construction back. -/
theorem length_le_server_step (hf : srv.Fresh) (r : Request) :
    srv.state.programs.length ≤ (srv.step ifs libc r).state.programs.length := by
  rw [state_step hf]
  cases r.call libc with
  | none => exact le_rfl
  | some c => exact (step_change ifs srv.state c).length_le

/-- The ARP table that a request writes is that of the program which it has constructed itself. -/
theorem constructed_of_arp_step_ne (hf : srv.Fresh) {ref : ℕ}
    (h : (srv.step ifs libc r).arp ref ≠ srv.arp ref) :
    ref = srv.state.programs.length ∧
      (srv.step ifs libc r).state.programs.length = srv.state.programs.length + 1 := by
  by_cases hr : ∃ c, r.call libc = some c ∧ c.Returns ifs srv.state
  · obtain ⟨c, hc, hr⟩ := hr
    rw [(arp_step_of_returns hf hc hr).1] at h
    refine ⟨of_not_not fun hne => h (Function.update_of_ne hne _ _), ?_⟩
    rw [state_step hf, hc]
    obtain ⟨pSession, -, rfl⟩ := Option.map_eq_some_iff.1 hc
    exact length_step_of_returns hr
  · rw [(arp_step_of_not_returns fun c hc hret => hr ⟨c, hc, hret⟩).1] at h
    exact absurd rfl h

/-- A request keeps the tables of what is not constructed yet empty. -/
theorem Server.Fresh.step (hf : srv.Fresh) (r : Request) : (srv.step ifs libc r).Fresh := by
  intro ref hle
  by_cases h : (srv.step ifs libc r).arp ref = srv.arp ref
  · rw [h]
    exact hf ref ((length_le_server_step hf r).trans hle)
  · obtain ⟨rfl, hlen⟩ := constructed_of_arp_step_ne hf h
    omega

end Step

/-! ## Next hops -/

section NextHops

variable (libc : Libc)

/-- The next hops of an `arpTable`, up to the first element that is not one. -/
def arpEntries : List ArpJson → List (UInt32 × Mac)
  | [] => []
  | element :: arpTable =>
    match libc.inet_aton element.ip, libc.ether_aton element.mac with
    | some ip, some mac => (ip, mac) :: arpEntries arpTable
    | _, _ => []

/-- The next hop that a body has for an address: the last one that it gives. -/
def SessionJson.nextHop (jRequest : SessionJson) (address : UInt32) : Option Mac :=
  (arpEntries libc jRequest.arpTable).reverse.lookup address

variable {libc}

/-- What the loop leaves in the table when it gets to an answer. -/
theorem lookup_fillArpTable {arpFails : ℕ → Bool} {arpTable : List ArpJson} {n status : ℕ}
    {t t' : ArpTable} (h : fillArpTable libc arpFails n arpTable t = .ok status t')
    (address : UInt32) :
    t'.lookup address =
      ((arpEntries libc arpTable).reverse.lookup address).or (t.lookup address) := by
  induction arpTable generalizing n t with
  | nil =>
    cases h
    rfl
  | cons element arpTable ih =>
    rw [fillArpTable] at h
    rw [arpEntries]
    cases hip : libc.inet_aton element.ip with
    | none =>
      rw [hip] at h
      cases h
      rfl
    | some ip =>
      rw [hip] at h
      dsimp only at h
      cases hmac : libc.ether_aton element.mac with
      | none =>
        rw [hmac] at h
        cases h
      | some mac =>
        rw [hmac] at h
        dsimp only at h
        -- The element is in the table before the loop goes on.
        rcases attempt_map_cases (arpFails n) (ApiErr.call .mapUpdate)
            (fun t : ArpTable => t.update ip mac) (fun m _ => m) t with
          ⟨t₁, -, hu, hok⟩ | ⟨-, herr⟩
        · have hok' : updateArpTable (arpFails n) ip mac t = .ok () t₁ := by
            simpa [updateArpTable] using hok
          rw [bind_of_ok hok'] at h
          rw [ih h, BoundedMap.lookup_update hu]
          simp only [List.reverse_cons, List.lookup_append, List.lookup_cons, List.lookup_nil,
            Option.or_assoc]
          congr 1
          by_cases ha : address = ip
          · simp [ha]
          · have hb : (address == ip) = false := by simpa using ha
            simp [ha, hb]
        · have herr' : updateArpTable (arpFails n) ip mac t = .error (.call .mapUpdate) t := by
            simpa [updateArpTable] using herr
          rw [bind_of_error herr'] at h
          cases h

/-- The ARP table of a request that is answered has the next hops of its body. -/
theorem lookup_fill {r : Request} (h : statusOf (r.fill libc) ≠ none) (address : UInt32) :
    (final (r.fill libc)).lookup address = r.body.nextHop libc address := by
  cases hf : r.fill libc with
  | error e t =>
    rw [hf] at h
    exact absurd rfl h
  | ok status t =>
    rw [final_ok, lookup_fillArpTable hf address, BoundedMap.lookup_empty, Option.or_none]
    rfl

end NextHops

/-! ## Runs -/

section Runs

variable (ifs : Interfaces) (libc : Libc)

theorem fresh_run (rs : List Request) : (Server.run ifs libc rs).Fresh :=
  Run.invariant (I := Server.Fresh) (fun _ _ => rfl) (fun _ r hf => hf.step r) rs

/-- A run in two parts. -/
theorem Server.run_append (pre post : List Request) :
    Server.run ifs libc (pre ++ post) =
      post.foldl (Server.step ifs libc) (Server.run ifs libc pre) :=
  List.foldl_append

/-- Requests from a state on are calls of the session manager from there on. -/
theorem state_foldl {srv : Server} (hf : srv.Fresh) (rs : List Request) :
    (rs.foldl (Server.step ifs libc) srv).state =
      (rs.filterMap (Request.call libc)).foldl (step ifs) srv.state := by
  induction rs generalizing srv with
  | nil => rfl
  | cons r rs ih =>
    rw [List.foldl_cons, ih (hf.step r), state_step hf, List.filterMap_cons]
    cases r.call libc <;> rfl

/-- A run of the server is a run of the session manager. -/
theorem state_run (rs : List Request) :
    (Server.run ifs libc rs).state = run ifs (rs.filterMap (Request.call libc)) :=
  state_foldl ifs libc (fun _ _ => rfl) rs

end Runs

/-- A request with the sample body, and an outside that does what it is asked. -/
def sampleRequest (seid uplink downlink : UInt64) : Request where
  body := sampleBody seid uplink downlink
  env := { toEnv := sampleEnv }

end UpfBpf
