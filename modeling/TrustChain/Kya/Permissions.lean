import TrustChain.Kya.Registry

/-!
# Owners, permissions and validity

An agent's identifier never passes to another owner, and is valid only as long as a registration
of its owner says. A valid identifier keeps its permissions along exactly the runs that renew it
under these permissions: the renewal scope is stored in their place.
-/

namespace TrustChain.Kya

open Library Function

/-- The permissions of a valid identifier change, and it is not its owner who updates them. -/
def Drifts (world : World) (action : Message × Call) (next : World) : Prop :=
  ∃ agent, (world.storage.didByAgent agent).valid action.1.timestamp = true ∧
    (next.storage.didByAgent agent).permissionsHash ≠
      (world.storage.didByAgent agent).permissionsHash ∧
    ¬(action.1.sender = (world.storage.didByAgent agent).owner ∧
      ∃ newPermissionsHash, action.2 = .updatePermissions agent newPermissionsHash)

/-- A valid identifier is renewed under the renewal scope only if that is what it has. -/
def RenewsVerbatim (deployment : Deployment) (world : World) (action : Message × Call) : Prop :=
  match action.2 with
  | .registerDID _ agent permissionsHash _ =>
      (world.storage.didByAgent agent).valid action.1.timestamp = true →
        permissionsHash = deployment.didRenewScope →
          permissionsHash = (world.storage.didByAgent agent).permissionsHash
  | _ => True

/-- A registration that an owner has made and nobody has revoked since, good until `now` at
least. -/
def Backed (actions : List (Message × Call)) (agent owner : Address) (now : Nat) : Prop :=
  ∃ before msg value permissionsHash validityDays after,
    actions = before ++ (msg, .registerDID value agent permissionsHash validityDays) :: after ∧
    msg.sender = owner ∧ now ≤ msg.timestamp + validityDays * oneDay ∧
    ∀ action ∈ after, action.2 ≠ .revokeDID agent

section Steps

variable {deployment : Deployment} {msg : Message} {world next : World} {call : Call}
  {action : Message × Call} {dids : Address → AgentDID} {agent : Address}

namespace Effect

variable (effect : Effect deployment msg world call dids)

include effect

/-- What a call leaves of one agent. -/
theorem record (agent : Address) :
    (call ≠ .revokeDID agent ∧ dids agent = world.storage.didByAgent agent) ∨
    (∃ value permissionsHash validityDays,
      call = .registerDID value agent permissionsHash validityDays ∧
      ((world.storage.didByAgent agent).owner = 0 ∨
        (world.storage.didByAgent agent).owner = msg.sender) ∧
      dids agent = { owner := msg.sender, agent, registeredAt := msg.timestamp
                     validUntil := msg.timestamp + validityDays * oneDay, permissionsHash
                     isActive := true }) ∨
    (call = .revokeDID agent ∧
      dids agent = { world.storage.didByAgent agent with isActive := false }) ∨
    ∃ newPermissionsHash, call = .updatePermissions agent newPermissionsHash ∧
      (world.storage.didByAgent agent).owner = msg.sender ∧
      dids agent = { world.storage.didByAgent agent with permissionsHash := newPermissionsHash } := by
  cases effect with
  | registered value subject permissionsHash validityDays own =>
      by_cases same : agent = subject
      · subst same
        exact .inr (.inl ⟨value, permissionsHash, validityDays, rfl, own, update_self _ _ _⟩)
      · exact .inl ⟨Call.noConfusion, update_of_ne same _ _⟩
  | revoked subject =>
      by_cases same : agent = subject
      · subst same
        exact .inr (.inr (.inl ⟨rfl, update_self _ _ _⟩))
      · refine .inl ⟨fun revoked => ?_, update_of_ne same _ _⟩
        exact same (Call.revokeDID.inj revoked).symm
  | permitted subject newPermissionsHash own =>
      by_cases same : agent = subject
      · subst same
        exact .inr (.inr (.inr ⟨newPermissionsHash, rfl, own, update_self _ _ _⟩))
      · exact .inl ⟨Call.noConfusion, update_of_ne same _ _⟩
  | withdrawn => exact .inl ⟨Call.noConfusion, rfl⟩
  | staked => exact .inl ⟨Call.noConfusion, rfl⟩

/-- An owner stays. -/
theorem owner (owned : (world.storage.didByAgent agent).owner ≠ 0) :
    (dids agent).owner = (world.storage.didByAgent agent).owner := by
  rcases effect.record agent with
    ⟨-, same⟩ | ⟨_, _, _, -, own, written⟩ | ⟨-, written⟩ | ⟨_, -, -, written⟩
  · rw [same]
  · rw [written]
    exact (own.resolve_left owned).symm
  · rw [written]
  · rw [written]

/-- Permissions change by a registration, or by an update of the owner. -/
theorem permissionsHash
    (changed : (dids agent).permissionsHash ≠ (world.storage.didByAgent agent).permissionsHash) :
    (∃ value validityDays,
        call = .registerDID value agent (dids agent).permissionsHash validityDays) ∨
      msg.sender = (world.storage.didByAgent agent).owner ∧
        ∃ newPermissionsHash, call = .updatePermissions agent newPermissionsHash := by
  rcases effect.record agent with
    ⟨-, same⟩ | ⟨value, _, validityDays, registers, -, written⟩ | ⟨-, written⟩ |
      ⟨newPermissionsHash, updates, own, -⟩
  · rw [same] at changed
    exact absurd rfl changed
  · rw [written]
    exact .inl ⟨value, validityDays, registers⟩
  · rw [written] at changed
    exact absurd rfl changed
  · exact .inr ⟨own.symm, newPermissionsHash, updates⟩

/-- What an active identifier has been registered with stays, or a registration replaces it. -/
theorem active (active : (dids agent).isActive = true) :
    (∃ value permissionsHash validityDays,
        call = .registerDID value agent permissionsHash validityDays ∧
        (dids agent).owner = msg.sender ∧
        (dids agent).validUntil = msg.timestamp + validityDays * oneDay) ∨
      call ≠ .revokeDID agent ∧ (world.storage.didByAgent agent).isActive = true ∧
        (dids agent).owner = (world.storage.didByAgent agent).owner ∧
        (dids agent).validUntil = (world.storage.didByAgent agent).validUntil := by
  rcases effect.record agent with
    ⟨unrevoked, same⟩ | ⟨value, permissionsHash, validityDays, registers, -, written⟩ |
      ⟨-, written⟩ | ⟨_, rfl, -, written⟩
  · rw [same] at active ⊢
    exact .inr ⟨unrevoked, active, rfl, rfl⟩
  · rw [written]
    exact .inl ⟨value, permissionsHash, validityDays, registers, rfl, rfl⟩
  · rw [written] at active
    cases active
  · rw [written] at active ⊢
    exact .inr ⟨Call.noConfusion, active, rfl, rfl⟩

end Effect

/-- What a registration that is accepted stores. -/
theorem registered_permissions {value validityDays : Nat} {permissionsHash : Bytes32}
    (effect : Effect deployment msg world
      (.registerDID value agent permissionsHash validityDays) dids) :
    (dids agent).permissionsHash = permissionsHash ∧
      ((world.storage.didByAgent agent).valid msg.timestamp = true →
        permissionsHash = (world.storage.didByAgent agent).permissionsHash ∨
          permissionsHash = deployment.didRenewScope) := by
  cases effect with
  | registered _ _ _ _ _ renews =>
      rw [update_self]
      exact ⟨rfl, renews⟩

/-- Permissions drift exactly where a valid identifier is renewed under another scope. -/
theorem renewsVerbatim_iff (step : (system deployment).Step world action next) :
    RenewsVerbatim deployment world action ↔ ¬Drifts world action next := by
  obtain ⟨msg, call⟩ := action
  have effect := (step_effect step).2.2
  constructor
  · rintro verbatim ⟨agent, valid, changed, others⟩
    rcases effect.permissionsHash changed with ⟨value, validityDays, rfl⟩ | own
    · rcases (registered_permissions effect).2 valid with kept | scope
      · exact changed kept
      · exact changed (verbatim valid scope)
    · exact others own
  · intro steady
    cases call with
    | registerDID value agent permissionsHash validityDays =>
        intro valid scope
        by_contra other
        refine steady ⟨agent, valid, ?_, ?_⟩
        · rw [(registered_permissions effect).1]
          exact other
        · rintro ⟨-, newPermissionsHash, updated⟩
          exact Call.noConfusion updated
    | revokeDID => trivial
    | updatePermissions => trivial
    | withdrawStuckETH => trivial
    | setMinStake => trivial

end Steps

section Runs

variable {deployment : Deployment} {start middle finish : World}
  {actions before after : List (Message × Call)} {agent : Address}

theorem run_owner (run : (system deployment).Run start actions finish)
    (owned : (start.storage.didByAgent agent).owner ≠ 0) :
    (finish.storage.didByAgent agent).owner = (start.storage.didByAgent agent).owner := by
  induction run with
  | nil => rfl
  | snoc _ step ih => exact ((step_effect step).2.2.owner (ih ▸ owned)).trans ih

/-- An active identifier is backed until its end. -/
theorem run_backed (initial : (system deployment).Init start)
    (run : (system deployment).Run start actions finish)
    (active : (finish.storage.didByAgent agent).isActive = true) :
    Backed actions agent (finish.storage.didByAgent agent).owner
      (finish.storage.didByAgent agent).validUntil := by
  induction run with
  | nil =>
      rw [show start = {} from initial] at active
      cases active
  | @snoc earlier _ _ action _ step ih =>
      obtain ⟨msg, call⟩ := action
      rcases (step_effect step).2.2.active active with
        ⟨value, permissionsHash, validityDays, rfl, own, until_⟩ | ⟨unrevoked, was, own, until_⟩
      · refine ⟨earlier, msg, value, permissionsHash, validityDays, [], rfl, own.symm, until_.le, ?_⟩
        simp
      · obtain ⟨before, source, value, permissionsHash, validityDays, after, rfl, owned, good,
          kept⟩ := ih was
        refine ⟨before, source, value, permissionsHash, validityDays, after ++ [(msg, call)], ?_,
          owned.trans own.symm, until_ ▸ good, ?_⟩
        · simp
        · intro taken member
          rcases List.mem_append.mp member with early | last
          · exact kept taken early
          · obtain rfl := List.mem_singleton.mp last
            exact unrevoked

/-- An owner never changes, an identifier is valid only while a registration of its owner backs
it, and the permissions of a valid one never drift exactly if it is renewed under these
permissions. -/
theorem run_verbatim_iff (initial : (system deployment).Init start)
    (first : (system deployment).Run start before middle)
    (second : (system deployment).Run middle after finish) :
    (∀ agent, (middle.storage.didByAgent agent).owner ≠ 0 →
      (finish.storage.didByAgent agent).owner = (middle.storage.didByAgent agent).owner) ∧
    (∀ agent now, (verifyDID finish now agent).1 = true →
      Backed (before ++ after) agent (finish.storage.didByAgent agent).owner now) ∧
    (((system deployment).restrict (RenewsVerbatim deployment)).Run start (before ++ after)
        finish ↔
      ¬(system deployment).Takes start (before ++ after) finish Drifts) := by
  have whole := first.append second
  refine ⟨fun agent owned => run_owner second owned, ?_, ?_⟩
  · intro agent now valid
    simp only [verifyDID, AgentDID.valid, Bool.and_eq_true, decide_eq_true_eq] at valid
    obtain ⟨earlier, msg, value, permissionsHash, validityDays, later, split, own, good, kept⟩ :=
      run_backed initial whole valid.1
    exact ⟨earlier, msg, value, permissionsHash, validityDays, later, split, own,
      valid.2.trans good, kept⟩
  · refine TransitionSystem.Takes.restrict_iff_not (fun _ _ _ _ => step_unique) ?_ (.init initial)
      whole
    intro state action next _ step
    exact renewsVerbatim_iff step

end Runs

namespace Demo

def deployment : Deployment where
  admin := 1
  didRenewScope := 7
  didOf _ _ timestamp _ := timestamp

def owner : Address := 2
def agent : Address := 3

/-- The owner registers the agent for thirty days. -/
def registration : Message × Call := (⟨owner, 100⟩, .registerDID (10 ^ 16) agent 5 30)

/-- One minute later it renews the identifier, under the renewal scope. -/
def renewal : Message × Call := (⟨owner, 160⟩, .registerDID (10 ^ 16) agent 7 30)

def registered : Scene (perform deployment) {} where
  actions := [registration]
  possible := by decide +kernel

def renewed : Scene (perform deployment) {} := registered.next renewal (by decide +kernel)

/-- One minute later it renews the identifier under its permissions. -/
def verbatim : Message × Call := (⟨owner, 160⟩, .registerDID (10 ^ 16) agent 5 30)

def kept : Scene (perform deployment) {} := registered.next verbatim (by decide +kernel)

end Demo

/-- A renewal under the renewal scope replaces the permissions of a valid identifier. -/
theorem renewed_drifts :
    (system Demo.deployment).Init {} ∧
    (system Demo.deployment).Run {} Demo.renewed.actions Demo.renewed.world ∧
    (Demo.registered.world.storage.didByAgent Demo.agent).permissionsHash = 5 ∧
    (Demo.renewed.world.storage.didByAgent Demo.agent).permissionsHash = 7 ∧
    (system Demo.deployment).Takes {} Demo.renewed.actions Demo.renewed.world Drifts := by
  have registered : (system Demo.deployment).Run {} Demo.registered.actions Demo.registered.world :=
    Demo.registered.run fun _ _ _ performed => performed
  have renewed : (system Demo.deployment).Run {} Demo.renewed.actions Demo.renewed.world :=
    Demo.renewed.run fun _ _ _ performed => performed
  refine ⟨rfl, renewed, by decide +kernel, by decide +kernel, ?_⟩
  refine .last registered (Demo.registered.performed _ _) ⟨Demo.agent, ?_, ?_, ?_⟩
  · decide +kernel
  · decide +kernel
  · rintro ⟨-, newPermissionsHash, updated⟩
    exact Call.noConfusion updated

theorem run_verbatim_iff_kept :
    (Demo.kept.world.storage.didByAgent Demo.agent).owner =
        (Demo.registered.world.storage.didByAgent Demo.agent).owner ∧
      Backed Demo.kept.actions Demo.agent Demo.owner 2592160 := by
  have first : (system Demo.deployment).Run {} Demo.registered.actions Demo.registered.world :=
    Demo.registered.run fun _ _ _ performed => performed
  have second : (system Demo.deployment).Run Demo.registered.world [Demo.verbatim]
      Demo.kept.world := .single (Demo.registered.performed _ _)
  have held := run_verbatim_iff (show (system Demo.deployment).Init {} from rfl) first second
  constructor
  · exact held.1 Demo.agent (by decide +kernel)
  · exact held.2.1 Demo.agent 2592160 (by decide +kernel)

end TrustChain.Kya
