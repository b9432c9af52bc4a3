import UpfBpf.Establishment
import UpfBpf.Lib.Run

/-!
# Editing a session

`pfcp_session::update` and `remove` (`src/oai/pfcp/pfcp_session.cpp`), beside the `create` of
`Establishment`, and the sessions that these calls lead to. A call finds a rule by its identifier,
and the first one in the vector is the one that it changes or erases. A call that is refused leaves
the session as it was.

An update overwrites the elements that it has and keeps the others, so that an element that was
there once stays there: what `create` demands of a PDR before it adds it holds of every PDR of every
session that was edited (`hasPrecedence_edited`).
-/

namespace UpfBpf

/-! ## Requests -/

/-- `pfcp::update_pdr`, with the elements that `PfcpPdr` has. -/
structure UpdatePdr where
  /-- The rule's identifier. -/
  pdr_id : UInt16 := 0
  /-- The precedence. -/
  precedence : Ie UInt32 := (false, 0)
  /-- What the rule detects. -/
  pdi : Ie Pdi := (false, {})
  /-- The FAR that the rule selects. -/
  far_id : Ie UInt32 := (false, 0)
  deriving DecidableEq, Repr

/-- `pfcp::update_forwarding_parameters`, with the elements that `ForwardingParameters` has. -/
structure UpdateForwardingParameters where
  /-- The interface value of the Destination Interface. -/
  destination_interface : Ie UInt8 := (false, 0)
  /-- The Outer Header Creation. -/
  outer_header_creation : Ie OuterHeaderCreation := (false, {})
  deriving DecidableEq, Repr

/-- `pfcp::update_far`, with the elements that `PfcpFar` has. -/
structure UpdateFar where
  /-- The rule's identifier. -/
  far_id : UInt32 := 0
  /-- What to do with a packet. -/
  apply_action : Ie ApplyAction := (false, {})
  /-- Where to forward it, and how. -/
  update_forwarding_parameters : Ie UpdateForwardingParameters := (false, {})
  deriving DecidableEq, Repr

/-- The refusal of a request for a rule that the session does not have. -/
def modificationFailure : Refusal := ⟨.ruleCreationModificationFailure, none⟩

/-! ## The calls -/

/-- An element after an update: replaced, and present, if the update has it. -/
def Ie.update {T : Type} (ie new : Ie T) : Ie T := if new.1 then (true, new.2) else ie

/-- `pfcp_pdr::update`. -/
def PfcpPdr.update (pdr : PfcpPdr) (update : UpdatePdr) : PfcpPdr :=
  { pdr with
    precedence := Ie.update pdr.precedence update.precedence
    pdi := Ie.update pdr.pdi update.pdi
    far_id := Ie.update pdr.far_id update.far_id }

/-- `forwarding_parameters::update`. -/
def ForwardingParameters.update (p : ForwardingParameters) (u : UpdateForwardingParameters) :
    ForwardingParameters where
  destination_interface := Ie.update p.destination_interface u.destination_interface
  outer_header_creation := Ie.update p.outer_header_creation u.outer_header_creation

/-- `pfcp_far::update`. The forwarding parameters are updated in place, and their own flag is left
as it is. -/
def PfcpFar.update (far : PfcpFar) (update : UpdateFar) : PfcpFar :=
  { far with
    apply_action := (Ie.get update.apply_action).getD far.apply_action
    forwarding_parameters := (far.forwarding_parameters.1,
      if update.update_forwarding_parameters.1 then
        far.forwarding_parameters.2.update update.update_forwarding_parameters.2
      else far.forwarding_parameters.2) }

/-- `pfcp_session::get` of a PDR: the first one with the identifier. -/
def PfcpSession.getPdr (s : PfcpSession) (pdr_id : UInt16) : Option PfcpPdr :=
  s.pdrs.find? fun pdr => pdr.pdr_id == pdr_id

/-- `pfcp_session::update` of a FAR. -/
def PfcpSession.updateFar (s : PfcpSession) (update : UpdateFar) : Except Refusal PfcpSession :=
  match s.getFar update.far_id with
  | none => .error modificationFailure
  | some _ => .ok { s with
      fars := s.fars.modify (s.fars.findIdx fun far => far.far_id == update.far_id)
        fun far => far.update update }

/-- `pfcp_session::update` of a PDR. -/
def PfcpSession.updatePdr (s : PfcpSession) (update : UpdatePdr) : Except Refusal PfcpSession :=
  match s.getPdr update.pdr_id with
  | none => .error modificationFailure
  | some _ => .ok { s with
      pdrs := s.pdrs.modify (s.pdrs.findIdx fun pdr => pdr.pdr_id == update.pdr_id)
        fun pdr => pdr.update update }

/-- `pfcp_session::remove` of a FAR, by the identifier in the request. -/
def PfcpSession.removeFar (s : PfcpSession) (far_id : Ie UInt32) : Except Refusal PfcpSession :=
  if ¬ far_id.1 then .error (missing .farId)
  else match s.getFar far_id.2 with
    | none => .error modificationFailure
    | some _ => .ok { s with fars := s.fars.eraseP fun far => far.far_id == far_id.2 }

/-- `pfcp_session::remove` of a PDR, by the identifier in the request. -/
def PfcpSession.removePdr (s : PfcpSession) (pdr_id : Ie UInt16) : Except Refusal PfcpSession :=
  if ¬ pdr_id.1 then .error (missing .packetDetectionRuleId)
  else match s.getPdr pdr_id.2 with
    | none => .error modificationFailure
    | some _ => .ok { s with pdrs := s.pdrs.eraseP fun pdr => pdr.pdr_id == pdr_id.2 }

/-! ## Sessions that were edited -/

/-- A call that edits a session. -/
inductive Edit
  | createFar (cr_far : CreateFar)
  | createPdr (cr_pdr : CreatePdr)
  | updateFar (update : UpdateFar)
  | updatePdr (update : UpdatePdr)
  | removeFar (far_id : Ie UInt32)
  | removePdr (pdr_id : Ie UInt16)
  deriving DecidableEq, Repr

/-- What a call returns. -/
def Edit.result (s : PfcpSession) : Edit → Except Refusal PfcpSession
  | .createFar cr_far => s.createFar cr_far
  | .createPdr cr_pdr => s.createPdr cr_pdr
  | .updateFar update => s.updateFar update
  | .updatePdr update => s.updatePdr update
  | .removeFar far_id => s.removeFar far_id
  | .removePdr pdr_id => s.removePdr pdr_id

/-- The session after a call, which a refusal leaves as it was. -/
def PfcpSession.edit (s : PfcpSession) (e : Edit) : PfcpSession :=
  match e.result s with
  | .ok s' => s'
  | .error _ => s

/-- The session after calls on a new one. -/
def edited (seid : UInt64) (edits : List Edit) : PfcpSession :=
  edits.foldl PfcpSession.edit { seid }

/-- What is in a list of which one element was changed. -/
theorem mem_of_mem_modify {α : Type} {l : List α} {i : ℕ} {f : α → α} {a : α}
    (h : a ∈ l.modify i f) : a ∈ l ∨ ∃ b ∈ l, a = f b := by
  obtain ⟨j, hj⟩ := List.mem_iff_getElem?.1 h
  rw [List.getElem?_modify] at hj
  obtain ⟨b, hb, e⟩ := Option.map_eq_some_iff.1 hj
  have hmem : b ∈ l := List.mem_of_getElem? hb
  split_ifs at e
  · exact .inr ⟨b, hmem, e.symm⟩
  · rw [← e]
    exact .inl hmem

section Edits

variable {s s' : PfcpSession}

/-! A call that is accepted, and all that it changes. -/

/-- A FAR that is updated is one of the session. -/
theorem updateFar_ok {update : UpdateFar} (h : s.updateFar update = .ok s') :
    (s.getFar update.far_id).isSome = true ∧
      s' = { s with
        fars := s.fars.modify (s.fars.findIdx fun far => far.far_id == update.far_id)
          fun far => far.update update } := by
  unfold PfcpSession.updateFar at h
  split at h <;> cases h
  rename_i far hget
  exact ⟨by rw [hget]; rfl, rfl⟩

/-- A PDR that is updated is one of the session. -/
theorem updatePdr_ok {update : UpdatePdr} (h : s.updatePdr update = .ok s') :
    (s.getPdr update.pdr_id).isSome = true ∧
      s' = { s with
        pdrs := s.pdrs.modify (s.pdrs.findIdx fun pdr => pdr.pdr_id == update.pdr_id)
          fun pdr => pdr.update update } := by
  unfold PfcpSession.updatePdr at h
  split at h <;> cases h
  rename_i pdr hget
  exact ⟨by rw [hget]; rfl, rfl⟩

/-- A FAR that is removed was one of the session. -/
theorem removeFar_ok {far_id : Ie UInt32} (h : s.removeFar far_id = .ok s') :
    (s.getFar far_id.2).isSome = true ∧
      s' = { s with fars := s.fars.eraseP fun far => far.far_id == far_id.2 } := by
  unfold PfcpSession.removeFar at h
  split_ifs at h
  split at h <;> cases h
  rename_i far hget
  exact ⟨by rw [hget]; rfl, rfl⟩

/-- A PDR that is removed was one of the session. -/
theorem removePdr_ok {pdr_id : Ie UInt16} (h : s.removePdr pdr_id = .ok s') :
    (s.getPdr pdr_id.2).isSome = true ∧
      s' = { s with pdrs := s.pdrs.eraseP fun pdr => pdr.pdr_id == pdr_id.2 } := by
  unfold PfcpSession.removePdr at h
  split_ifs at h
  split at h <;> cases h
  rename_i pdr hget
  exact ⟨by rw [hget]; rfl, rfl⟩

/-- What a call can do to the PDRs: one is added that was accepted, one is updated, or one is gone.
-/
theorem mem_pdrs_edit {e : Edit} {pdr : PfcpPdr} (h : pdr ∈ (s.edit e).pdrs) :
    pdr ∈ s.pdrs ∨ pdr.WellFormed ∨ ∃ old ∈ s.pdrs, ∃ update, pdr = old.update update := by
  unfold PfcpSession.edit at h
  cases hr : e.result s with
  | error refusal =>
    rw [hr] at h
    exact .inl h
  | ok s' =>
    rw [hr] at h
    dsimp only at h
    cases e with
    | createFar cr_far =>
      rw [createFar_ok hr] at h
      exact .inl h
    | createPdr cr_pdr =>
      obtain ⟨rfl, hw⟩ := createPdr_ok hr
      rcases List.mem_append.1 h with hold | hnew
      · exact .inl hold
      · rw [List.mem_singleton.1 hnew]
        exact .inr (.inl hw)
    | updateFar update =>
      obtain ⟨-, rfl⟩ := updateFar_ok hr
      exact .inl h
    | updatePdr update =>
      obtain ⟨-, rfl⟩ := updatePdr_ok hr
      rcases mem_of_mem_modify h with hold | ⟨old, hmem, e⟩
      · exact .inl hold
      · exact .inr (.inr ⟨old, hmem, update, e⟩)
    | removeFar far_id =>
      obtain ⟨-, rfl⟩ := removeFar_ok hr
      exact .inl h
    | removePdr pdr_id =>
      obtain ⟨-, rfl⟩ := removePdr_ok hr
      exact .inl (List.mem_of_mem_eraseP h)

/-- An element that is present stays so. -/
theorem Ie.fst_update {T : Type} {ie : Ie T} (h : ie.1 = true) (new : Ie T) :
    (Ie.update ie new).1 = true := by
  unfold Ie.update
  split_ifs
  · rfl
  · exact h

/-- A call keeps a precedence on every PDR. -/
theorem hasPrecedence_edit (h : ∀ pdr ∈ s.pdrs, pdr.precedence.1 = true) (e : Edit) :
    ∀ pdr ∈ (s.edit e).pdrs, pdr.precedence.1 = true := by
  intro pdr hpdr
  rcases mem_pdrs_edit hpdr with hold | hw | ⟨old, hmem, update, rfl⟩
  · exact h pdr hold
  · exact hw.precedence
  · exact Ie.fst_update (h old hmem) update.precedence

/-- Every PDR of a session that was edited has a precedence. -/
theorem hasPrecedence_edited (seid : UInt64) (edits : List Edit) :
    ∀ pdr ∈ (edited seid edits).pdrs, pdr.precedence.1 = true := by
  refine Run.invariant (I := fun s : PfcpSession => ∀ pdr ∈ s.pdrs, pdr.precedence.1 = true) ?_
    (fun s e ih => hasPrecedence_edit ih e) edits
  intro pdr hpdr
  cases hpdr

end Edits

end UpfBpf
