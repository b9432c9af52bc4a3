import UpfBpf.Control.Reconfiguration
import UpfBpf.Traffic.ForwardingTable
import Mathlib.Data.List.Forall2

/-!
# Epochs

The traffic of a process that is set up again and again. An interface that carries an entry program
is served by the maps of that program, so each call of `setup` begins an epoch with a forwarding
table of its own, whether it returns or throws. A table begins without keys. It takes over the
number of programs that were constructed and the pipelines of the registry, which belong to the
process, and the sessions if the `setup` throws, since the session manager is then the old one.

`user_plane_refines_epochs` is the refinement of `Traffic.ForwardingTable` for whole processes: at
any time, the frames of an interface are processed by the table of the epoch whose program it
carries, be it over or not. From a `setup` on, an interface that carries a program is lost to the
process: the program stays, and its frames are processed for ever as they were then
(`replaced_program_stays`). Constructions are counted over all epochs, so that nine deployments are
all that a process has (`deployments_le_nine`).
-/

namespace UpfBpf

open Effect

/-! ## The abstract process -/

/-- What a table begins with when a new entry program is set up. The sessions are those of the
session manager, which is a new one if the `setup` has returned. -/
def ForwardingTable.renew (t : ForwardingTable) (returned : Bool) : ForwardingTable :=
  { t with leads := fun _ => none, sessions := if returned then ∅ else t.sessions }

/-- The time of one entry program. -/
structure Epoch where
  /-- The interfaces of its `setup`. -/
  interfaces : Interfaces
  /-- Its table. -/
  table : ForwardingTable

/-- The way of a frame. -/
def Epoch.process (e : Epoch) (bpf_csum_diff : List UInt8 → UInt32) (arp : ℕ → ArpTable)
    (ctx : XdpMd) : Verdict × XdpMd :=
  e.table.process bpf_csum_diff arp e.interfaces ctx

/-- All epochs of a process. -/
structure Epochs where
  /-- The epochs that are over. -/
  past : List Epoch
  /-- The one that is not, after the first `setup`. -/
  current : Option Epoch

namespace Epochs

/-- Before the first `setup`. -/
def init : Epochs := ⟨[], none⟩

variable (t : Epochs)

/-- The epochs in their order. -/
def all : List Epoch := t.past ++ t.current.toList

/-- The table that counts. -/
def table : ForwardingTable := (t.current.map Epoch.table).getD .init

/-- The epochs after a call, with whether it has returned. -/
noncomputable def step (t : Epochs) : UserPlaneCall × Bool → Epochs
  | (.setup a, returned) => ⟨t.all, some ⟨a.interfaces, t.table.renew returned⟩⟩
  | (.tearDown _, _) => t
  | (.session c, _) =>
    { t with current := t.current.map fun e => { e with table := e.table.step c } }

/-- The epochs after a run of calls. -/
noncomputable def run (outcomes : List (UserPlaneCall × Bool)) : Epochs := outcomes.foldl step init

end Epochs

namespace UserPlane

/-- The calls of a run, each with whether it has returned. -/
def outcomes : UserPlane → List UserPlaneCall → List (UserPlaneCall × Bool)
  | _, [] => []
  | u, c :: calls => (c, u.returns c) :: match u.step c with
    | none => []
    | some u' => u'.outcomes calls

/-- The epochs of a run. -/
noncomputable def epochs (foreign : UInt32 → Option ℕ) (calls : List UserPlaneCall) : Epochs :=
  .run ((init foreign).outcomes calls)

end UserPlane

/-- What becomes of a frame that comes in on an interface, if it meets an entry program of the
process. -/
def UserPlane.receive (bpf_csum_diff : List UInt8 → UInt32) (arp : ℕ → ArpTable) (u : UserPlane)
    (i : UInt32) (ctx : XdpMd) (mc_stats : McStats) : Option (Verdict × XdpMd) :=
  match u.carries i with
  | some (.entry n) => u.generations[n]?.map fun m =>
    processFrame bpf_csum_diff arp (u.state.withMaps m) ctx mc_stats
  | some (.foreign _) | none => none

/-! ## Maps that nobody writes -/

section Frozen

variable {s s' : State} {m : EntryMaps}

/-- All programs of `s` are in their places in `s'`. -/
def Extends (s s' : State) : Prop := ∀ (i : ℕ) p, s.cores[i]? = some p → s'.cores[i]? = some p

theorem Extends.length_le (h : Extends s s') : s.programs.length ≤ s'.programs.length := by
  rw [← length_cores s, ← length_cores s']
  by_contra hlt
  rw [not_le] at hlt
  have hget := h s'.cores.length _ (List.getElem?_eq_getElem hlt)
  rw [List.getElem?_eq_none le_rfl] at hget
  cases hget

theorem Extends.trans {s'' : State} (h : Extends s s') (h' : Extends s' s'') : Extends s s'' :=
  fun i p hp => h' i p (h i p hp)

theorem extends_step (ifs : Interfaces) (s : State) (c : Call) : Extends s (step ifs s c) :=
  fun _ _ hp => (step_change ifs s c).cores_getElem? hp

/-- Other maps keep the numbering when they have programs of the state. -/
theorem Numbered.withMaps (hN : Numbered (s.withMaps m)) (hN' : Numbered s') (h : Extends s s') :
    Numbered (s'.withMaps m) := by
  have hlen := h.length_le
  refine ⟨hN'.counter, hN'.ids, fun k id hk => ?_, fun j ref hj => ?_⟩
  · obtain ⟨i, hi, e⟩ := hN.index k id hk
    exact ⟨i, hi.trans_le hlen, e⟩
  · obtain ⟨hlt, e⟩ := hN.slots j ref hj
    exact ⟨hlt.trans_le hlen, e⟩

/-- New maps are numbered. -/
theorem Numbered.withMaps_empty (hN : Numbered s) : Numbered (s.withMaps {}) :=
  ⟨hN.counter, hN.ids, fun k id hk => by simp [State.withMaps] at hk,
    fun j ref hj => by simp [State.withMaps] at hj⟩

/-- What the keys of maps that nobody writes lead to. -/
theorem leads_withMaps (hN : Numbered (s.withMaps m)) (h : Extends s s') :
    (s'.withMaps m).table.leads = (s.withMaps m).table.leads := by
  funext k
  show (m.m_next_rule_prog_index.lookup k).map _ = (m.m_next_rule_prog_index.lookup k).map _
  have hlead : (s'.withMaps m).lead = (s.withMaps m).lead :=
    funext fun id => lead_congr hN rfl h
  rw [hlead]

theorem Equipped.withMaps {ifs : Interfaces} (he : Equipped ifs (s.withMaps m)) (h : Extends s s') :
    Equipped ifs (s'.withMaps m) := by
  intro j ref hj
  obtain ⟨p, hp, hm⟩ := he j ref hj
  exact ⟨p, h ref p hp, hm⟩

/-- Frames that are served by maps that nobody writes. -/
theorem processFrame_withMaps (bpf_csum_diff : List UInt8 → UInt32) (arp : ℕ → ArpTable)
    (ctx : XdpMd) (mc_stats : McStats) (hN : Numbered (s.withMaps m)) (h : Extends s s') :
    processFrame bpf_csum_diff arp (s'.withMaps m) ctx mc_stats =
      processFrame bpf_csum_diff arp (s.withMaps m) ctx mc_stats := by
  rw [processFrame_eq, processFrame_eq]
  cases detect ctx with
  | ret action => rfl
  | tailCall key =>
    have hcall : tailCallNextProg (s'.withMaps m) key = tailCallNextProg (s.withMaps m) key := rfl
    dsimp only
    rw [hcall]
    cases ht : tailCallNextProg (s.withMaps m) key with
    | none => rfl
    | some ref =>
      obtain ⟨id, -, hslot⟩ := Option.bind_eq_some_iff.1 ht
      have hlt : ref < s.cores.length := by
        rw [length_cores]
        exact (hN.slots _ ref hslot).1
      have hp : s.cores[ref]? = some s.cores[ref] := List.getElem?_eq_getElem hlt
      have hp' : (s'.withMaps m).cores[ref]? = some s.cores[ref] := h ref _ hp
      have hp₀ : (s.withMaps m).cores[ref]? = some s.cores[ref] := hp
      dsimp only
      rw [runProgram_eq_cores, runProgram_eq_cores, hp', hp₀]

end Frozen

/-! ## Numbering over all epochs -/

namespace UserPlane

variable {u u' : UserPlane}

/-- All maps of the process hold ids and programs that were given out. -/
structure Sound (u : UserPlane) : Prop where
  /-- The maps of the last `setup`. -/
  state : Numbered u.state
  /-- The maps of the others. -/
  earlier : ∀ m ∈ u.earlier, Numbered (u.state.withMaps m)

theorem sound_init (foreign : UInt32 → Option ℕ) : (init foreign).Sound :=
  ⟨numbered_init, fun _ h => by cases h⟩

theorem Sound.generations (hs : u.Sound) {m : EntryMaps} (hm : m ∈ u.generations) :
    Numbered (u.state.withMaps m) := by
  rcases List.mem_append.1 hm with h | h
  · exact hs.earlier m h
  · obtain ⟨-, -, rfl⟩ := Option.map_eq_some_iff.1 (Option.mem_toList.1 h)
    exact hs.state

/-- A call leaves the programs that were constructed, and the maps of the entry programs whose
objects are gone. -/
theorem step_extends {c : UserPlaneCall} (h : u.step c = some u') :
    Extends u.state u'.state ∧ ∀ (n : ℕ) m, u.earlier[n]? = some m → u'.earlier[n]? = some m := by
  obtain ⟨a, sessions, -, he, hst⟩ | ⟨-, -, he, hst⟩ | ⟨c', -, rfl⟩ := UserPlane.step_cases h
  · rw [he, hst]
    refine ⟨fun _ _ hp => hp, fun n m hm => ?_⟩
    have hlt : n < u.earlier.length := (List.getElem?_eq_some_iff.1 hm).1
    exact (List.getElem?_append_left hlt).trans hm
  · rw [he, hst]
    exact ⟨fun _ _ hp => hp, fun _ _ hm => hm⟩
  · exact ⟨extends_step u.interfaces u.state c', fun _ _ hm => hm⟩

theorem Sound.step (hs : u.Sound) {c : UserPlaneCall} (h : u.step c = some u') : u'.Sound := by
  obtain ⟨hext, -⟩ := step_extends h
  obtain ⟨a, sessions, -, he, hst⟩ | ⟨-, -, he, hst⟩ | ⟨c', -, rfl⟩ := UserPlane.step_cases h
  · have hN : Numbered u'.state := by
      rw [hst]
      exact ⟨hs.state.counter, hs.state.ids, hs.state.withMaps_empty.index,
        hs.state.withMaps_empty.slots⟩
    refine ⟨hN, fun m hm => ?_⟩
    rw [he] at hm
    exact (hs.generations hm).withMaps hN hext
  · refine ⟨?_, fun m hm => ?_⟩
    · rw [hst]
      exact hs.state
    · rw [he] at hm
      rw [hst]
      exact hs.earlier m hm
  · have hN := (step_change u.interfaces u.state c').numbered hs.state
    exact ⟨hN, fun m hm => (hs.earlier m hm).withMaps hN hext⟩

/-- What a `setup` finds of maps is kept for good. -/
theorem generations_kept {a : SetupCall} {calls : List UserPlaneCall} {n : ℕ} {m : EntryMaps}
    (hm : u.generations[n]? = some m) (h : u.steps (.setup a :: calls) = some u') :
    Extends u.state u'.state ∧ u'.generations[n]? = some m := by
  obtain ⟨u₁, h₁, h₂⟩ := Option.bind_eq_some_iff.1 (List.foldlM_cons.symm.trans h)
  have hearlier : u₁.earlier[n]? = some m := by
    obtain ⟨_, _, -, he, -⟩ | ⟨_, hc, -⟩ | ⟨_, hc, -⟩ := UserPlane.step_cases h₁
    · rw [he, hm]
    · cases hc
    · cases hc
  obtain ⟨hext, hkept⟩ : Extends u.state u'.state ∧ u'.earlier[n]? = some m :=
    Run.invariant_foldlM (I := fun v : UserPlane =>
      Extends u.state v.state ∧ v.earlier[n]? = some m) ⟨(step_extends h₁).1, hearlier⟩
      (fun v c v' hv hstep => by
        obtain ⟨hext, hle⟩ := step_extends hstep
        exact ⟨hv.1.trans hext, hle n m hv.2⟩) h₂
  have hlt : n < u'.earlier.length := (List.getElem?_eq_some_iff.1 hkept).1
  exact ⟨hext, (List.getElem?_append_left hlt).trans hkept⟩

theorem Sound.steps (hs : u.Sound) {calls : List UserPlaneCall} (h : u.steps calls = some u') :
    u'.Sound :=
  Run.invariant_foldlM hs (fun _ _ _ hs hc => hs.step hc) h

end UserPlane

/-! ## The simulation -/

/-- What an epoch knows of a state that has the maps of its entry program. -/
structure Epoch.Describes (e : Epoch) (s : State) : Prop where
  /-- The table says what the keys lead to. -/
  leads : s.table.leads = e.table.leads
  /-- The programs of the keys send to the interfaces. -/
  equipped : Equipped e.interfaces s

/-- An epoch that is over stays as it was. -/
theorem Epoch.Describes.withMaps {e : Epoch} {s s' : State} {m : EntryMaps}
    (hd : e.Describes (s.withMaps m)) (hN : Numbered (s.withMaps m)) (h : Extends s s') :
    e.Describes (s'.withMaps m) where
  leads := (leads_withMaps hN h).trans hd.leads
  equipped := hd.equipped.withMaps h

/-- A frame is processed as the epoch says. -/
theorem Epoch.Describes.processFrame_eq {e : Epoch} {s : State} (hd : e.Describes s)
    (bpf_csum_diff : List UInt8 → UInt32) (arp : ℕ → ArpTable) (ctx : XdpMd) (mc_stats : McStats) :
    processFrame bpf_csum_diff arp s ctx mc_stats = e.process bpf_csum_diff arp ctx := by
  rw [process_table bpf_csum_diff arp ctx mc_stats hd.equipped, Epoch.process]
  rw [ForwardingTable.process, ForwardingTable.process, hd.leads]

/-- The epochs of a process. -/
structure Follows (t : Epochs) (u : UserPlane) : Prop where
  /-- The epochs that are over. -/
  past : List.Forall₂ (fun m (e : Epoch) => e.Describes (u.state.withMaps m)) u.earlier t.past
  /-- The entry program of the last `setup`. -/
  current : u.mpUPFProgram = none ∧ t.current = none ∨
    ∃ mpLifeCycle e, u.mpUPFProgram = some mpLifeCycle ∧ t.current = some e ∧
      e.interfaces = u.interfaces ∧ Equipped u.interfaces u.state
  /-- The table. -/
  table : u.state.table = t.table
  /-- A session manager is a matter of an epoch. -/
  started : u.mpSessionManager = true → t.current ≠ none

theorem follows_init (foreign : UInt32 → Option ℕ) : Follows .init (UserPlane.init foreign) where
  past := .nil
  current := .inl ⟨rfl, rfl⟩
  table := table_init
  started h := by cases h

section Simulation

variable {t : Epochs} {u u' : UserPlane}

/-- The epochs of all entry programs. -/
theorem Follows.all (hf : Follows t u) :
    List.Forall₂ (fun m (e : Epoch) => e.Describes (u.state.withMaps m)) u.generations t.all := by
  refine List.rel_append hf.past ?_
  rcases hf.current with ⟨hu, ht⟩ | ⟨mpLifeCycle, e, hu, ht, hi, he⟩
  · rw [hu, ht]
    exact .nil
  · have htable : u.state.table = e.table := by
      rw [hf.table, Epochs.table, ht]
      rfl
    have hd : e.Describes u.state := ⟨congrArg ForwardingTable.leads htable, by rwa [hi]⟩
    rw [hu, ht]
    exact .cons hd .nil

/-- Epochs that are over stay as they were. -/
theorem forall₂_withMaps {s s' : State} {maps : List EntryMaps} {epochs : List Epoch}
    (hN : ∀ m ∈ maps, Numbered (s.withMaps m)) (h : Extends s s')
    (hd : List.Forall₂ (fun m (e : Epoch) => e.Describes (s.withMaps m)) maps epochs) :
    List.Forall₂ (fun m (e : Epoch) => e.Describes (s'.withMaps m)) maps epochs :=
  ((List.forall₂_and_left _ _).2 ⟨hN, hd⟩).imp fun _ _ hm => hm.2.withMaps hm.1 h

/-- A new entry program begins an epoch. -/
theorem Follows.setup (hf : Follows t u) (hs : u.Sound) (a : SetupCall) :
    Follows (t.step (.setup a, u.returns (.setup a))) (final (u.setup a)) := by
  rw [u.setup_eq a]
  refine ⟨?_, .inr ⟨_, _, rfl, rfl, rfl, ?_⟩, ?_, fun _ => Option.some_ne_none _⟩
  · exact forall₂_withMaps (fun m hm => hs.generations hm) (fun _ _ hp => hp) hf.all
  · intro j ref hj
    simp [State.withMaps] at hj
  · -- The maps are new, and the sessions are those of the session manager.
    show _ = t.table.renew (u.returns (.setup a))
    rw [← hf.table]
    refine ForwardingTable.ext rfl (fun _ => rfl) (fun _ => rfl) fun seid => ?_
    cases u.returns (.setup a) with
    | true => simp [State.table, ForwardingTable.renew]
    | false => exact Iff.rfl

/-- A tear-down is nothing to the epochs. -/
theorem Follows.tearDown (hf : Follows t u) {mpLifeCycle : ProgramLifeCycle}
    (hlc : u.mpUPFProgram = some mpLifeCycle) (unlinkFails : UInt32 → Bool) :
    Follows t (final (u.tearDown mpLifeCycle unlinkFails)) := by
  rw [u.tearDown_eq mpLifeCycle unlinkFails]
  refine ⟨hf.past, ?_, hf.table, hf.started⟩
  rcases hf.current with ⟨hu, -⟩ | ⟨_, e, -, ht, hd⟩
  · rw [hlc] at hu
    cases hu
  · exact .inr ⟨_, e, rfl, ht, hd⟩

/-- A call of the session manager is a step of the table, and returns when the table says so. -/
theorem Follows.table_step (hf : Follows t u) (hs : u.Sound) (c : Call)
    (hn : u.state.programs.length + 1 < 2^32) :
    (UpfBpf.step u.interfaces u.state c).table = t.table.step c ∧
      (u.returns (.session c) ↔ t.table.Succeeds c) := by
  have hbound : (u.state.table.step c).constructed < 2^32 := by
    have hlen : u.state.table.constructed = u.state.programs.length := rfl
    rcases ForwardingTable.constructed_step_cases u.state.table c with h | h <;> omega
  rw [UserPlane.returns_session_iff, ← hf.table]
  exact UpfBpf.table_step hs.state c hbound

/-- A call of the session manager is one of the epoch that is not over. -/
theorem Follows.session (hf : Follows t u) (hs : u.Sound) (hm : u.mpSessionManager = true)
    (c : Call) (hn : u.state.programs.length + 1 < 2^32) (returned : Bool) :
    Follows (t.step (.session c, returned))
      { u with state := UpfBpf.step u.interfaces u.state c } := by
  obtain ⟨mpLifeCycle, e, hlc, ht, hi, he⟩ := hf.current.resolve_left fun h => hf.started hm h.2
  have hold : t.table = e.table := by
    rw [Epochs.table, ht]
    rfl
  have hnew : (t.step (.session c, returned)).current =
      some { e with table := t.table.step c } := by
    rw [Epochs.step, ht, hold]
    rfl
  refine ⟨?_, .inr ⟨mpLifeCycle, _, hlc, hnew, hi, he.step c⟩, ?_, fun _ => ?_⟩
  · exact forall₂_withMaps hs.earlier (extends_step u.interfaces u.state c) hf.past
  · show (UpfBpf.step u.interfaces u.state c).table = _
    rw [(hf.table_step hs c hn).1]
    show _ = ((t.step (.session c, returned)).current.map Epoch.table).getD .init
    rw [hnew]
    rfl
  · rw [hnew]
    exact Option.some_ne_none _

/-- Every call is one of the epochs. -/
theorem Follows.step (hf : Follows t u) (hs : u.Sound) {c : UserPlaneCall}
    (h : u.step c = some u') (hn : u.state.programs.length + 1 < 2^32) :
    Follows (t.step (c, u.returns c)) u' := by
  cases c with
  | setup a =>
    cases h
    exact hf.setup hs a
  | tearDown unlinkFails =>
    obtain ⟨mpLifeCycle, hlc, hr⟩ := Option.bind_eq_some_iff.1 h
    cases hr
    exact hf.tearDown hlc unlinkFails
  | session c =>
    obtain ⟨⟨hm, -⟩, rfl⟩ := UserPlane.step_session_eq_some_iff.1 h
    exact hf.session hs hm c hn _

theorem length_step_le {c : UserPlaneCall} (h : u.step c = some u') :
    u'.state.programs.length ≤ u.state.programs.length + 1 := by
  obtain ⟨a, sessions, -, -, hst⟩ | ⟨-, -, -, hst⟩ | ⟨c', -, rfl⟩ := UserPlane.step_cases h
  · rw [hst]
    exact Nat.le_succ _
  · rw [hst]
    exact Nat.le_succ _
  · exact (step_change u.interfaces u.state c').length_le_succ

/-- The epochs of a run of calls, as long as the counter has not come round. -/
theorem Follows.steps (hf : Follows t u) (hs : u.Sound) {calls : List UserPlaneCall}
    (h : u.steps calls = some u') (hn : u.state.programs.length + calls.length < 2^32) :
    Follows ((u.outcomes calls).foldl Epochs.step t) u' := by
  induction calls generalizing t u with
  | nil =>
    cases h
    exact hf
  | cons c calls ih =>
    rw [UserPlane.steps, List.foldlM_cons] at h
    obtain ⟨u₁, h₁, h₂⟩ := Option.bind_eq_some_iff.1 h
    rw [List.length_cons] at hn
    have hlen := length_step_le h₁
    rw [UserPlane.outcomes, h₁, List.foldl_cons]
    exact ih (hf.step hs h₁ (by omega)) (hs.step h₁) h₂ (by omega)

theorem length_steps_le {calls : List UserPlaneCall} (h : u.steps calls = some u') :
    u'.state.programs.length ≤ u.state.programs.length + calls.length := by
  induction calls generalizing u with
  | nil =>
    cases h
    exact le_rfl
  | cons c calls ih =>
    rw [UserPlane.steps, List.foldlM_cons] at h
    obtain ⟨u₁, h₁, h₂⟩ := Option.bind_eq_some_iff.1 h
    have hlen := length_step_le h₁
    have hrest := ih h₂
    rw [List.length_cons]
    omega

end Simulation

/-! ## Processes -/

section Processes

variable {foreign : UInt32 → Option ℕ} {u u' : UserPlane}

/-- A run that goes on. -/
theorem UserPlane.run_append {pre post : List UserPlaneCall}
    (h : UserPlane.run foreign (pre ++ post) = some u') :
    ∃ u, UserPlane.run foreign pre = some u ∧ u.steps post = some u' := by
  rw [UserPlane.run, UserPlane.steps, List.foldlM_append] at h
  exact Option.bind_eq_some_iff.1 h

/-- What holds of the epochs of every run. -/
theorem follows_run {calls : List UserPlaneCall} (hn : calls.length < 2^32)
    (h : UserPlane.run foreign calls = some u) :
    Follows (UserPlane.epochs foreign calls) u ∧ u.Sound ∧
      u.state.programs.length ≤ calls.length := by
  have hlen := length_steps_le h
  have hinit : (UserPlane.init foreign).state.programs.length = 0 := rfl
  have hs := UserPlane.sound_init foreign
  exact ⟨(follows_init foreign).steps hs h (by omega), hs.steps h, by omega⟩

/-- A `setup` that links two interfaces, while nothing fails; zero is no interface. -/
def sampleSetup (udp gtp : UInt32) : SetupCall where
  gtpInterface := "gtp"
  udpInterface := "udp"
  init := .IDLE
  env := sampleEnv
  udp := { if_nametoindex := fun _ => udp }
  gtp := { if_nametoindex := fun _ => gtp }

/-- A session on two interfaces, and another one under its key when a second `setup` has thrown
because there is no such GTP interface. -/
def sampleCalls : List UserPlaneCall :=
  [.setup (sampleSetup 3 4), .session (sampleCreate 1 100), .setup (sampleSetup 5 0),
    .session (sampleCreate 2 100)]

/-- From a `setup` on, the program that an interface carries is there to stay, whatever is called
and whatever fails: its frames are processed for ever as they were before the call, and a `setup`
that is to link the interface throws. -/
theorem replaced_program_stays (bpf_csum_diff : List UInt8 → UInt32) (arp : ℕ → ArpTable)
    {pre post : List UserPlaneCall} {a : SetupCall} (hpre : UserPlane.run foreign pre = some u)
    (hpost : u.steps (.setup a :: post) = some u') {i : UInt32} (hi : u.carries i ≠ none) :
    u'.carries i = u.carries i ∧
      (∀ ctx mc_stats, u'.receive bpf_csum_diff arp i ctx mc_stats =
        u.receive bpf_csum_diff arp i ctx mc_stats) ∧
      ∀ a', a'.Names i → ∃ e v, u'.setup a' = .error e v := by
  have hatt : u.Attached := (UserPlane.attached_init foreign).steps hpre
  have hs : u.Sound := (UserPlane.sound_init foreign).steps hpre
  obtain ⟨u₁, h₁, h₂⟩ := Option.bind_eq_some_iff.1 (List.foldlM_cons.symm.trans hpost)
  obtain rfl : final (u.setup a) = u₁ := Option.some.inj h₁
  obtain ⟨hatt₁, hset⟩ := hatt.setup a
  obtain ⟨hcarries₁, hsettled⟩ := hset i hi
  have hcarries : u'.carries i = u.carries i :=
    (hatt₁.carries_steps h₂ hsettled).trans hcarries₁
  refine ⟨hcarries, fun ctx mc_stats => ?_, fun a' ha' => ?_⟩
  · rw [UserPlane.receive, UserPlane.receive, hcarries]
    cases hc : u.carries i with
    | none => rfl
    | some carrier =>
      cases carrier with
      | foreign id => rfl
      | entry n =>
        have hlt : n < u.generations.length := hatt.bounded i n hc
        have hm : u.generations[n]? = some u.generations[n] := List.getElem?_eq_getElem hlt
        obtain ⟨hext, hm'⟩ := UserPlane.generations_kept hm hpost
        dsimp only
        rw [hm, hm', Option.map_some, Option.map_some, processFrame_withMaps bpf_csum_diff arp ctx
          mc_stats (hs.generations (List.getElem_mem _)) hext]
  · exact UserPlane.setup_throws ha' (by rw [hcarries]; exact hi)

/-- Another pair of interfaces is linked and gets a session, and so does a third one, although its
`setup` has thrown. -/
theorem replaced_program_stays_sample :
    ∃ u u', UserPlane.run (fun _ => none)
        [.setup (sampleSetup 3 4), .session (sampleCreate 1 100)] = some u ∧
      u.steps [.setup (sampleSetup 5 6), .session (sampleCreate 2 200), .setup (sampleSetup 7 0),
        .session (sampleCreate 3 300)] = some u' ∧
      u'.carries 3 = some (.entry 0) ∧
      (∀ ctx mc_stats, u'.receive (fun _ => 0) sampleArp 3 ctx mc_stats =
        u.receive (fun _ => 0) sampleArp 3 ctx mc_stats) ∧
      ∃ e v, u'.setup (sampleSetup 3 4) = .error e v := by
  have hcarries : (UserPlane.run (fun _ => none)
      [.setup (sampleSetup 3 4), .session (sampleCreate 1 100)]).bind (fun u => u.carries 3) =
    some (.entry 0) := by decide
  obtain ⟨u, hu, hi⟩ := Option.bind_eq_some_iff.1 hcarries
  have hgoes : ((UserPlane.run (fun _ => none)
      [.setup (sampleSetup 3 4), .session (sampleCreate 1 100)]).bind fun u =>
        u.steps [.setup (sampleSetup 5 6), .session (sampleCreate 2 200),
          .setup (sampleSetup 7 0), .session (sampleCreate 3 300)]).isSome := by decide
  rw [hu] at hgoes
  obtain ⟨u', hu'⟩ := Option.isSome_iff_exists.1 hgoes
  obtain ⟨hstays, hreceive, hthrows⟩ :=
    replaced_program_stays (fun _ => 0) sampleArp hu hu' (i := 3) (by rw [hi]; simp)
  exact ⟨u, u', hu, hu', hstays.trans hi, hreceive, hthrows (sampleSetup 3 4) (.inl rfl)⟩

end Processes

/-! ## Deployments -/

namespace UserPlane

/-- The call deploys a session. -/
def deploys (u : UserPlane) : UserPlaneCall → Bool
  | .session (.createBPFSession pSession env) =>
    u.returns (.session (.createBPFSession pSession env))
  | _ => false

/-- The sessions that a run deploys, up to the call that is not defined, if there is one. -/
def deployments : UserPlane → List UserPlaneCall → ℕ
  | _, [] => 0
  | u, c :: calls =>
    match u.step c with
    | none => 0
    | some u' => (u.deploys c).toNat + u'.deployments calls

variable {t : Epochs} {u u' : UserPlane}

/-- What it means to deploy a session. -/
theorem returns_of_deploys {c : UserPlaneCall} (hd : u.deploys c) :
    ∃ pSession env, c = .session (.createBPFSession pSession env) ∧
      u.returns (.session (.createBPFSession pSession env)) := by
  cases c with
  | setup a => cases hd
  | tearDown unlinkFails => cases hd
  | session c =>
    cases c with
    | removeBPFSession seid => cases hd
    | createBPFSession pSession env => exact ⟨pSession, env, rfl, hd⟩

/-- A deployment is among the first nine constructions of the process, and is one of them. -/
theorem length_of_deploys (hf : Follows t u) (hs : u.Sound) {c : UserPlaneCall}
    (hn : u.state.programs.length + 1 < 2^32) (hd : u.deploys c) (h : u.step c = some u') :
    u.state.programs.length < 9 ∧ u'.state.programs.length = u.state.programs.length + 1 := by
  obtain ⟨pSession, env, rfl, hr⟩ := returns_of_deploys hd
  obtain ⟨htable, hiff⟩ := hf.table_step hs (.createBPFSession pSession env) hn
  obtain ⟨pipeline, hp, -, hslot, -⟩ := hiff.1 hr
  obtain ⟨-, rfl⟩ := step_session_eq_some_iff.1 h
  have hconstructed : t.table.constructed = u.state.programs.length := by
    rw [← hf.table]
    rfl
  have hcount : (UpfBpf.step u.interfaces u.state
      (.createBPFSession pSession env)).programs.length = t.table.constructed + 1 := by
    have hstep : (t.table.step (.createBPFSession pSession env)).constructed = _ :=
      ForwardingTable.constructed_step_of_constructs ⟨pipeline, hp⟩
    rw [← hstep, ← htable]
    rfl
  rw [← hconstructed]
  exact ⟨hslot.2, hcount⟩

/-- No call takes a construction back. -/
theorem length_le_step {c : UserPlaneCall} (h : u.step c = some u') :
    u.state.programs.length ≤ u'.state.programs.length :=
  (step_extends h).1.length_le

/-- What is left of the nine. -/
theorem deployments_le (hf : Follows t u) (hs : u.Sound) (calls : List UserPlaneCall)
    (hn : u.state.programs.length + calls.length < 2^32) :
    u.deployments calls ≤ 9 - u.state.programs.length := by
  induction calls generalizing t u with
  | nil => exact Nat.zero_le _
  | cons c calls ih =>
    rw [List.length_cons] at hn
    rw [deployments]
    cases h : u.step c with
    | none => exact Nat.zero_le _
    | some u' =>
      have hsucc := length_step_le h
      have hrest := ih (hf.step hs h (by omega)) (hs.step h) (by omega)
      have hle := length_le_step h
      dsimp only
      cases hd : u.deploys c with
      | false =>
        rw [Bool.toNat_false]
        omega
      | true =>
        obtain ⟨hlt, hlen⟩ := length_of_deploys hf hs (by omega) hd h
        rw [Bool.toNat_true]
        omega

end UserPlane

/-- A process deploys nine sessions in its life, over all of its set-ups and tear-downs, and however
many of them are removed. -/
theorem deployments_le_nine (foreign : UInt32 → Option ℕ) (calls : List UserPlaneCall)
    (hn : calls.length < 2^32) : (UserPlane.init foreign).deployments calls ≤ 9 :=
  UserPlane.deployments_le (follows_init foreign) (UserPlane.sound_init foreign) calls
    (by simpa [UserPlane.init] using hn)

/-- Rounds of a set-up, a session, a set-up that throws since there is no such GTP interface, and
another session. -/
def sampleRounds (n : ℕ) : List UserPlaneCall :=
  (List.range n).flatMap fun k =>
    [.setup (sampleSetup (.ofNat (3 * k + 1)) (.ofNat (3 * k + 2))), .session (sampleCreate 1 100),
      .setup (sampleSetup (.ofNat (3 * k + 3)) 0), .session (sampleCreate 2 200)]

/-- Of the twelve sessions of six rounds, nine are deployed at most. -/
theorem deployments_le_nine_sample :
    (UserPlane.init fun _ => none).deployments (sampleRounds 6) ≤ 9 :=
  deployments_le_nine (fun _ => none) (sampleRounds 6) (by decide)

end UpfBpf
