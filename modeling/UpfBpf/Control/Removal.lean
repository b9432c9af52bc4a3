import UpfBpf.Control.Selection
import UpfBpf.Lib.Bag

/-!
# Rules that were removed

A session keeps its rules in vectors. `create` appends without a look at the identifiers that are
there, while `get`, `update`, and `remove` take the first rule that matches: the identifiers are a
bag (`Lib.Bag`), and a `remove` that returns true takes one copy out of it. `createBPFSession` sorts
the PDRs of its session and leaves the bag.

A rule that was removed is gone when there was no second one behind it. `removedRulesGone_iff` says
that the histories in which removed rules stay away are those whose removals find a single rule.
-/

namespace UpfBpf

/-! ## Identifiers -/

/-- The identifier of a rule. -/
inductive RuleId
  /-- Of a FAR. -/
  | far (far_id : UInt32)
  /-- Of a PDR. -/
  | pdr (pdr_id : UInt16)
  deriving DecidableEq, Repr

/-- What `pfcp_session::get` returns. -/
def PfcpSession.get (s : PfcpSession) : RuleId → Bool
  | .far far_id => (s.getFar far_id).isSome
  | .pdr pdr_id => (s.getPdr pdr_id).isSome

/-- The identifiers of a session's rules, each as often as it has a rule. -/
def PfcpSession.ruleIds (s : PfcpSession) : List RuleId :=
  s.fars.map (fun far => .far far.far_id) ++ s.pdrs.map fun pdr => .pdr pdr.pdr_id

/-- What a call does to the identifiers, if it returns true. -/
def Edit.ruleEffect : Edit → Bag.Effect RuleId
  | .createFar cr_far => .add (.far cr_far.far_id.2)
  | .createPdr cr_pdr => .add (.pdr cr_pdr.pdr_id.2)
  | .updateFar _ => .keep
  | .updatePdr _ => .keep
  | .removeFar far_id => .remove (.far far_id.2)
  | .removePdr pdr_id => .remove (.pdr pdr_id.2)

/-! ## Histories of a session -/

/-- A call on a session, or one that is given the session. -/
inductive SessionEvent
  /-- A call of `pfcp_session`. -/
  | edit (e : Edit)
  /-- A deployment, which sorts the PDRs. -/
  | createBPFSession (env : Env) (sorts : StdSort.IsSort env.stdSort)

/-- The session afterwards. -/
def PfcpSession.after (s : PfcpSession) : SessionEvent → PfcpSession
  | .edit e => s.edit e
  | .createBPFSession env _ => sortPdrs env s

/-- What an event does to the identifiers: a call that is refused leaves them. -/
def PfcpSession.ruleEffect (s : PfcpSession) : SessionEvent → Bag.Effect RuleId
  | .edit e => match e.result s with
    | .ok _ => e.ruleEffect
    | .error _ => .keep
  | .createBPFSession _ _ => .keep

/-- The session after a history that begins with a new one. -/
def sessionAfter (seid : UInt64) (events : List SessionEvent) : PfcpSession :=
  events.foldl PfcpSession.after { seid }

/-- `createBPFSession` deploys the rule: the FAR that it gives to `createPipeline` has the
identifier, or the key comes from a PDR that has it. -/
def PfcpSession.Deploys (ifs : Interfaces) (env : Env) (st : State) (s : PfcpSession) :
    RuleId → Prop
  | .far far_id => ∃ key pFar,
    extractPipeline (createBPFSession ifs env s st).2 = .ok ⟨key, pFar⟩ ∧ pFar.far_id = far_id
  | .pdr pdr_id => ∃ key pFar pdr rest,
    extractPipeline (createBPFSession ifs env s st).2 = .ok ⟨key, pFar⟩ ∧
      (createBPFSession ifs env s st).2.pdrs = pdr :: rest ∧ pdr.key = some key ∧
      pdr.pdr_id = pdr_id

/-- The session does not have the rule any more. -/
structure PfcpSession.Gone (s : PfcpSession) (x : RuleId) : Prop where
  /-- `get` returns false. -/
  get : s.get x = false
  /-- No deployment of the session deploys it. -/
  deploys : ∀ ifs env st, StdSort.IsSort env.stdSort → ¬ s.Deploys ifs env st x

/-- After every `remove` that returns true, and until a `create` is accepted for the identifier, the
rule is gone. -/
def RemovedRulesGone (seid : UInt64) (events : List SessionEvent) : Prop :=
  ∀ pre event mid post, events = pre ++ event :: (mid ++ post) → ∀ x,
    (sessionAfter seid pre).ruleEffect event = .remove x →
    Run.Along PfcpSession.after (fun s e => s.ruleEffect e ≠ .add x)
      ((sessionAfter seid pre).after event) mid →
    (sessionAfter seid (pre ++ event :: mid)).Gone x

section Removal

variable {s s' : PfcpSession} {x : RuleId}

/-- `get` finds what is in the vectors. -/
theorem get_eq_true_iff : s.get x = true ↔ x ∈ s.ruleIds := by
  cases x with
  | far far_id => simp [PfcpSession.get, PfcpSession.getFar, PfcpSession.ruleIds]
  | pdr pdr_id => simp [PfcpSession.get, PfcpSession.getPdr, PfcpSession.ruleIds]

/-! ## What a call does to the identifiers -/

/-- A FAR that was removed is one identifier less. -/
theorem coe_ruleIds_removeFar {far_id : UInt32} (h : (s.getFar far_id).isSome = true) :
    (PfcpSession.ruleIds { s with fars := s.fars.eraseP fun far => far.far_id == far_id } :
        Multiset RuleId) = (s.ruleIds : Multiset RuleId).erase (.far far_id) := by
  have hmem : RuleId.far far_id ∈ s.fars.map fun far => RuleId.far far.far_id := by
    simpa [PfcpSession.getFar] using h
  rw [Multiset.coe_erase, PfcpSession.ruleIds, PfcpSession.ruleIds, List.erase_append_left _ hmem,
    Bag.map_eraseP (b := .far far_id)]
  intro far
  rw [beq_iff_eq, RuleId.far.injEq]

/-- A PDR that was removed is one identifier less. -/
theorem coe_ruleIds_removePdr (s : PfcpSession) (pdr_id : UInt16) :
    (PfcpSession.ruleIds { s with pdrs := s.pdrs.eraseP fun pdr => pdr.pdr_id == pdr_id } :
        Multiset RuleId) = (s.ruleIds : Multiset RuleId).erase (.pdr pdr_id) := by
  have hmem : RuleId.pdr pdr_id ∉ s.fars.map fun far => RuleId.far far.far_id := by simp
  rw [Multiset.coe_erase, PfcpSession.ruleIds, PfcpSession.ruleIds, List.erase_append_right _ hmem,
    Bag.map_eraseP (b := .pdr pdr_id)]
  intro pdr
  rw [beq_iff_eq, RuleId.pdr.injEq]

/-- The identifiers follow the calls. -/
theorem coe_ruleIds_edit {e : Edit} (h : e.result s = .ok s') :
    (s'.ruleIds : Multiset RuleId) = e.ruleEffect.apply s.ruleIds := by
  cases e with
  | createFar cr_far =>
    rw [createFar_ok h]
    refine Multiset.coe_eq_coe.2 ?_
    simp only [PfcpSession.ruleIds, PfcpSession.addFar, List.map_append, List.append_assoc]
    exact List.perm_middle
  | createPdr cr_pdr =>
    rw [(createPdr_ok h).1]
    refine Multiset.coe_eq_coe.2 ?_
    simp only [PfcpSession.ruleIds, PfcpSession.addPdr, List.map_append, ← List.append_assoc]
    exact List.perm_append_singleton _ _
  | updateFar update =>
    obtain ⟨-, rfl⟩ := updateFar_ok h
    have hids := Bag.map_modify (fun far : PfcpFar => RuleId.far far.far_id)
      (f := fun far => far.update update) (fun far => rfl) s.fars
    rw [PfcpSession.ruleIds, hids]
    rfl
  | updatePdr update =>
    obtain ⟨-, rfl⟩ := updatePdr_ok h
    have hids := Bag.map_modify (fun pdr : PfcpPdr => RuleId.pdr pdr.pdr_id)
      (f := fun pdr => pdr.update update) (fun pdr => rfl) s.pdrs
    rw [PfcpSession.ruleIds, hids]
    rfl
  | removeFar far_id =>
    obtain ⟨hget, rfl⟩ := removeFar_ok h
    exact coe_ruleIds_removeFar hget
  | removePdr pdr_id =>
    obtain ⟨-, rfl⟩ := removePdr_ok h
    exact coe_ruleIds_removePdr s pdr_id.2

/-- A sort leaves the identifiers. -/
theorem coe_ruleIds_sortPdrs {env : Env} (hs : StdSort.IsSort env.stdSort)
    (h : ∀ pdr ∈ s.pdrs, pdr.precedence.1 = true) :
    ((sortPdrs env s).ruleIds : Multiset RuleId) = s.ruleIds := by
  have hperm := (sorted_sortPdrs hs h).1
  exact Multiset.coe_eq_coe.2 ((List.Perm.refl _).append (hperm.map _))

/-- A session under its events. The PDRs have a precedence, so that a sort only moves them. -/
def sessionStore : Bag.Store PfcpSession SessionEvent RuleId where
  step := PfcpSession.after
  bag s := s.ruleIds
  effect := PfcpSession.ruleEffect
  Inv s := ∀ pdr ∈ s.pdrs, pdr.precedence.1 = true
  inv_step s event h := by
    cases event with
    | edit e => exact hasPrecedence_edit h e
    | createBPFSession env sorts =>
      intro pdr hpdr
      exact h pdr ((sorted_sortPdrs sorts h).1.mem_iff.1 hpdr)
  bag_step s event h := by
    cases event with
    | edit e =>
      simp only [PfcpSession.after, PfcpSession.edit, PfcpSession.ruleEffect]
      cases hr : e.result s with
      | ok s' => exact coe_ruleIds_edit hr
      | error refusal => rfl
    | createBPFSession env sorts => exact coe_ruleIds_sortPdrs sorts h

/-- A new session meets the invariant. -/
theorem inv_new (seid : UInt64) : sessionStore.Inv { seid } := by
  intro pdr hpdr
  cases hpdr

/-- So does every session. -/
theorem inv_sessionAfter (seid : UInt64) (events : List SessionEvent) :
    sessionStore.Inv (sessionAfter seid events) :=
  Run.invariant (inv_new seid) sessionStore.inv_step events

/-! ## Rules that are gone -/

/-- What is deployed is a rule of the session. -/
theorem mem_ruleIds_of_deploys {ifs : Interfaces} {env : Env} {st : State}
    (hs : StdSort.IsSort env.stdSort) (hI : sessionStore.Inv s) (h : s.Deploys ifs env st x) :
    x ∈ s.ruleIds := by
  cases x with
  | far far_id =>
    obtain ⟨key, pFar, he, rfl⟩ := h
    obtain ⟨pdr, rest, far_id, -, -, -, hget⟩ := extractPipeline_eq_ok he
    have hmem : pFar ∈ s.fars := List.mem_of_find?_eq_some hget
    exact List.mem_append_left _ (List.mem_map_of_mem hmem)
  | pdr pdr_id =>
    obtain ⟨key, pFar, pdr, rest, -, hpdrs, -, rfl⟩ := h
    have hfirst : pdr ∈ (sortPdrs env s).pdrs := by
      rw [show (sortPdrs env s).pdrs = pdr :: rest from hpdrs]
      exact List.mem_cons_self
    have hmem : pdr ∈ s.pdrs := (sorted_sortPdrs hs hI).1.mem_iff.1 hfirst
    exact List.mem_append_right _ (List.mem_map_of_mem hmem)

/-- A rule is gone when its identifier is. -/
theorem gone_iff (hI : sessionStore.Inv s) : s.Gone x ↔ x ∉ s.ruleIds := by
  rw [← get_eq_true_iff, Bool.not_eq_true]
  refine ⟨fun h => h.get, fun h => ⟨h, fun ifs env st hs hd => ?_⟩⟩
  have hget := get_eq_true_iff.2 (mem_ruleIds_of_deploys hs hI hd)
  rw [h] at hget
  cases hget

/-- Removed rules are gone when the removals are final for the bag of identifiers. -/
theorem removedRulesGone_iff_final {seid : UInt64} {events : List SessionEvent} :
    RemovedRulesGone seid events ↔ sessionStore.RemovalsFinal { seid } events := by
  have hgone : ∀ pre event mid x, (sessionAfter seid (pre ++ event :: mid)).Gone x ↔
      x ∉ sessionStore.bag (mid.foldl sessionStore.step
        (sessionStore.step (pre.foldl sessionStore.step { seid }) event)) := by
    intro pre event mid x
    rw [gone_iff (inv_sessionAfter seid _), sessionAfter, List.foldl_append]
    rfl
  simp only [RemovedRulesGone, hgone]
  rfl

/-- When no `create` is accepted for an identifier that `get` finds, removed rules are gone. -/
theorem removedRulesGone_of_fresh {seid : UInt64} {events : List SessionEvent}
    (h : Run.Along PfcpSession.after
      (fun s event => ∀ x, s.ruleEffect event = .add x → s.get x = false) { seid } events) :
    RemovedRulesGone seid events := by
  have hfresh : Run.Along sessionStore.step
      (fun s event => ∀ x, sessionStore.effect s event = .add x → x ∉ sessionStore.bag s)
      { seid } events := by
    refine h.mono fun s event hnew x hx hmem => ?_
    have hget := get_eq_true_iff.2 (Multiset.mem_coe.1 hmem)
    rw [hnew x hx] at hget
    cases hget
  rw [removedRulesGone_iff_final, sessionStore.removalsFinal_iff (inv_new seid)]
  exact sessionStore.single_of_fresh (inv_new seid) Multiset.nodup_zero hfresh

end Removal

/-- In a history of a session, removed rules are gone exactly when every `remove` that returns true
finds one rule with its identifier, and no second one. -/
theorem removedRulesGone_iff (seid : UInt64) (events : List SessionEvent) :
    RemovedRulesGone seid events ↔
      Run.Along PfcpSession.after
        (fun s event => ∀ x, s.ruleEffect event = .remove x → s.ruleIds.count x ≤ 1)
        { seid } events := by
  rw [removedRulesGone_iff_final, sessionStore.removalsFinal_iff (inv_new seid)]
  simp only [sessionStore, Multiset.coe_count]

/-! ## A FAR that comes back -/

/-- The FAR is created twice, before the PDR that selects it. -/
def duplicateFar : List SessionEvent :=
  [.edit sampleCreateFar, .edit sampleCreateFar, .edit (sampleCreatePdr 1 5)]

/-- Its removal returns true, and afterwards `get` finds it and `createBPFSession` deploys it. -/
theorem not_removedRulesGone_of_duplicate :
    (sessionAfter 1 duplicateFar).ruleEffect (.edit (.removeFar (true, 10))) =
        .remove (.far 10) ∧
      (sessionAfter 1 (duplicateFar ++ [.edit (.removeFar (true, 10))])).get (.far 10) = true ∧
      (∃ key pFar, Publishes sampleInterfaces sampleEnv {}
          (sessionAfter 1 (duplicateFar ++ [.edit (.removeFar (true, 10))])) key pFar ∧
        pFar.far_id = 10) ∧
      ¬ RemovedRulesGone 1 (duplicateFar ++ [.edit (.removeFar (true, 10))]) := by
  have hremove : (sessionAfter 1 duplicateFar).ruleEffect (.edit (.removeFar (true, 10))) =
      .remove (.far 10) := rfl
  have hget : (sessionAfter 1 (duplicateFar ++ [.edit (.removeFar (true, 10))])).get (.far 10) =
      true := rfl
  refine ⟨hremove, hget, ⟨_, _, publishes_of_returns rfl trivial, rfl⟩, fun h => ?_⟩
  have hgone := h duplicateFar (.edit (.removeFar (true, 10))) [] [] rfl (.far 10) hremove trivial
  rw [hgone.get] at hget
  cases hget

end UpfBpf
