import TrustChain.SubAgents.Registry

/-!
# The lists of sub-agents

The counter of a master is the number of active records on its list, wallets and identifiers
stand on one list once and stay there, and allowances were within the free balance whenever
they were set.
-/

namespace TrustChain.SubAgents

open Library Function

/-! ## Loops -/

section Loops

variable {records : Bytes32 → SubAgent} {subWallet : Address} {ids : List Bytes32}
  {subAgentId : Bytes32}

theorem findActiveSubAgentId_ok
    (found : findActiveSubAgentId records subWallet ids = .ok subAgentId) :
    subAgentId ∈ ids ∧ (records subAgentId).subWallet = subWallet ∧
      (records subAgentId).status = .active := by
  induction ids with
  | nil => simp [findActiveSubAgentId] at found
  | cons first rest ih =>
      simp only [findActiveSubAgentId] at found
      split_ifs at found with here
      · obtain rfl := Except.ok.inj found
        exact ⟨List.mem_cons_self, here⟩
      · obtain ⟨member, is⟩ := ih found
        exact ⟨List.mem_cons_of_mem _ member, is⟩

/-- The search succeeds where some record on the list is the active one of the wallet. -/
theorem findActiveSubAgentId_isOk (member : subAgentId ∈ ids)
    (wallet : (records subAgentId).subWallet = subWallet)
    (active : (records subAgentId).status = .active) :
    ∃ found, findActiveSubAgentId records subWallet ids = .ok found := by
  induction ids with
  | nil => exact absurd member List.not_mem_nil
  | cons first rest ih =>
      by_cases here : (records first).subWallet = subWallet ∧ (records first).status = .active
      · exact ⟨first, by simp [findActiveSubAgentId, here]⟩
      · rcases List.mem_cons.mp member with rfl | further
        · exact absurd ⟨wallet, active⟩ here
        · obtain ⟨found, is⟩ := ih further
          exact ⟨found, by simp [findActiveSubAgentId, here, is]⟩

theorem findActiveSubAgentId_error {error : Error}
    (failed : findActiveSubAgentId records subWallet ids = .error error) :
    error = .subAgentNotFound subWallet := by
  induction ids with
  | nil => exact (Except.error.inj failed).symm
  | cons first rest ih =>
      simp only [findActiveSubAgentId] at failed
      split_ifs at failed with here
      exact ih failed

theorem addAllowances_ok {before total : Nat}
    (added : addAllowances records before ids = .ok total) :
    total = before + (((ids.map records).filter fun subAgent => subAgent.status = .active).map
      SubAgent.allowance).sum := by
  induction ids generalizing before with
  | nil => simpa [addAllowances, eq_comm] using added
  | cons first rest ih =>
      simp only [addAllowances] at added
      split_ifs at added with active
      · simp only [checkedAdd_bind_eq_ok] at added
        simp [ih added.2, active, Nat.add_assoc]
      · simp [ih added, active]

end Loops

/-! ## Consistency -/

/-- The records active on a list. -/
def activeCount (records : Bytes32 → SubAgent) (ids : List Bytes32) : Nat :=
  ids.countP fun subAgentId => (records subAgentId).status = .active

/-- The lists, the records, the masters and the counters describe the same sub-agents. -/
structure Consistent (storage : Storage) : Prop where
  recorded : ∀ master, ∀ subAgentId ∈ storage.masterSubAgentIds master,
    (storage.subAgentById subAgentId).addedAt ≠ 0 ∧
    (storage.subAgentById subAgentId).master = master
  listed : ∀ subAgentId, (storage.subAgentById subAgentId).addedAt ≠ 0 →
    subAgentId ∈ storage.masterSubAgentIds (storage.subAgentById subAgentId).master ∧
    (storage.subAgentById subAgentId).master ≠ 0 ∧
    storage.subAgentMaster (storage.subAgentById subAgentId).subWallet =
      (storage.subAgentById subAgentId).master
  nodup : ∀ master, (storage.masterSubAgentIds master).Nodup
  wallets : ∀ subAgentId other, (storage.subAgentById subAgentId).addedAt ≠ 0 →
    (storage.subAgentById other).addedAt ≠ 0 →
    (storage.subAgentById subAgentId).subWallet = (storage.subAgentById other).subWallet →
    subAgentId = other
  counted : ∀ master, storage.activeSubAgents master =
    activeCount storage.subAgentById (storage.masterSubAgentIds master)
  limited : ∀ master, storage.activeSubAgents master ≤ 3

/-- Changes outside of a list leave its count. -/
theorem activeCount_update_of_notMem (records : Bytes32 → SubAgent) {ids : List Bytes32}
    {subAgentId : Bytes32} (outside : subAgentId ∉ ids) (record : SubAgent) :
    activeCount (update records subAgentId record) ids = activeCount records ids := by
  refine List.countP_congr fun other member => ?_
  have different : other ≠ subAgentId := fun same => outside (same ▸ member)
  simp [different]

/-- On a list without duplicates, an active record that is made inactive is one less. -/
theorem activeCount_deactivate {records : Bytes32 → SubAgent} {ids : List Bytes32}
    {subAgentId : Bytes32} (nodup : ids.Nodup) (member : subAgentId ∈ ids)
    (active : (records subAgentId).status = .active) (record : SubAgent)
    (inactive : record.status = .inactive) :
    activeCount (update records subAgentId record) ids + 1 = activeCount records ids := by
  have permuted := List.perm_cons_erase member
  have outside : subAgentId ∉ ids.erase subAgentId := nodup.not_mem_erase
  have others := activeCount_update_of_notMem records outside record
  unfold activeCount at *
  rw [permuted.countP_eq, permuted.countP_eq, List.countP_cons, List.countP_cons, others]
  simp [active, inactive]

section Steps

variable {balances : Balances} {msg : Message} {storage next : Storage} {subWallet : Address}
  {subAgentId : Bytes32} {allowance : Nat}

theorem registerIdentity_consistent (consistent : Consistent storage) {masterAgentId : Bytes32}
    (registered : registerIdentity msg storage masterAgentId = .ok next) : Consistent next := by
  simp only [registerIdentity, require_bind_eq_ok, Except.ok.injEq] at registered
  obtain ⟨-, rfl⟩ := registered
  exact { consistent with }

theorem addSubAgent_consistent (consistent : Consistent storage)
    (added : addSubAgent msg storage subWallet subAgentId = .ok next) : Consistent next := by
  simp only [addSubAgent, requireIdentity, require_bind_eq_ok, Except.ok.injEq] at added
  obtain ⟨-, -, -, below, unowned, fresh, -, rfl⟩ := added
  -- Neither the identifier nor the wallet is in use.
  have unlisted : ∀ master, subAgentId ∉ storage.masterSubAgentIds master := fun master member =>
    (consistent.recorded master subAgentId member).1 fresh
  have walletUnused : ∀ other, (storage.subAgentById other).addedAt ≠ 0 →
      (storage.subAgentById other).subWallet ≠ subWallet := by
    intro other present same
    obtain ⟨-, owned, master⟩ := consistent.listed other present
    rw [same, unowned] at master
    exact owned master.symm
  have positive : msg.timestamp ≠ 0 := Nat.ne_of_gt msg.timestamp_pos
  have mem_ids : ∀ master other,
      other ∈ update storage.masterSubAgentIds msg.sender
        (storage.masterSubAgentIds msg.sender ++ [subAgentId]) master ↔
      other ∈ storage.masterSubAgentIds master ∨ master = msg.sender ∧ other = subAgentId := by
    intro master other
    by_cases own : master = msg.sender
    · subst own
      simp
    · simp [own]
  constructor
  · intro master other member
    rcases (mem_ids master other).mp member with before | ⟨rfl, rfl⟩
    · have different : other ≠ subAgentId := fun same => unlisted master (same ▸ before)
      simpa [different] using consistent.recorded master other before
    · simp [positive]
  · intro other present
    by_cases here : other = subAgentId
    · subst here
      simpa using msg.sender_ne_zero
    · simp only [update_of_ne here] at present ⊢
      obtain ⟨member, owned, master⟩ := consistent.listed other present
      refine ⟨(mem_ids _ _).mpr (.inl member), owned, ?_⟩
      rw [update_of_ne (walletUnused other present)]
      exact master
  · intro master
    by_cases own : master = msg.sender
    · subst own
      simpa [List.nodup_append] using ⟨consistent.nodup msg.sender, fun other member same =>
        unlisted msg.sender (same ▸ member)⟩
    · simpa [own] using consistent.nodup master
  · intro first second firstPresent secondPresent same
    by_cases firstHere : first = subAgentId <;> by_cases secondHere : second = subAgentId
    · rw [firstHere, secondHere]
    · subst firstHere
      simp only [update_self, update_of_ne secondHere] at same secondPresent
      exact absurd same.symm (walletUnused second secondPresent)
    · subst secondHere
      simp only [update_self, update_of_ne firstHere] at same firstPresent
      exact absurd same (walletUnused first firstPresent)
    · simp only [update_of_ne firstHere, update_of_ne secondHere] at same firstPresent secondPresent
      exact consistent.wallets first second firstPresent secondPresent same
  · intro master
    by_cases own : master = msg.sender
    · subst own
      have others := activeCount_update_of_notMem storage.subAgentById (unlisted msg.sender)
        { subWallet, subAgentId, master := msg.sender, allowance := 0, status := .active,
          addedAt := msg.timestamp, removedAt := 0 }
      simp only [update_self, activeCount, List.countP_append, List.countP_singleton]
        at others ⊢
      rw [others, consistent.counted msg.sender, activeCount]
      simp
    · simp only [update_of_ne own]
      rw [activeCount_update_of_notMem _ (unlisted master), consistent.counted master]
  · intro master
    by_cases own : master = msg.sender
    · subst own
      simpa using below
    · simpa [own] using consistent.limited master

/-- A change of a record that keeps one of its fields keeps that field of every record. -/
theorem update_field {γ : Type} (field : SubAgent → γ) {record : SubAgent}
    (same : field record = field (storage.subAgentById subAgentId)) (other : Bytes32) :
    field (update storage.subAgentById subAgentId record other) =
      field (storage.subAgentById other) := by
  by_cases here : other = subAgentId
  · subst here
    simpa using same
  · simp [here]

/-- A change of a record that keeps its wallet, its master and when it was added, with counters
that fit. -/
theorem Consistent.modify (consistent : Consistent storage) {record : SubAgent}
    (counters : Address → Nat)
    (wallet : record.subWallet = (storage.subAgentById subAgentId).subWallet)
    (master : record.master = (storage.subAgentById subAgentId).master)
    (added : record.addedAt = (storage.subAgentById subAgentId).addedAt)
    (counted : ∀ master, counters master =
      activeCount (update storage.subAgentById subAgentId record)
        (storage.masterSubAgentIds master))
    (limited : ∀ master, counters master ≤ 3) :
    Consistent { storage with
      subAgentById := update storage.subAgentById subAgentId record
      activeSubAgents := counters } := by
  have wallets := update_field SubAgent.subWallet wallet
  have masters := update_field SubAgent.master master
  have times := update_field SubAgent.addedAt added
  constructor
  · simpa only [wallets, masters, times] using consistent.recorded
  · simpa only [wallets, masters, times] using consistent.listed
  · exact consistent.nodup
  · simpa only [wallets, masters, times] using consistent.wallets
  · exact counted
  · exact limited

theorem answered_bind_eq_ok {α : Type} {answer : Option Nat} {rest : Nat → Except Error α}
    {result : α} : (answered answer >>= rest) = .ok result ↔
      ∃ value, answer = some value ∧ rest value = .ok result := by
  cases answer <;> simp [answered]

/-- What a removal found, and what it leaves. -/
theorem removeSubAgent_ok (removed : removeSubAgent balances msg storage subWallet = .ok next) :
    ∃ subAgentId ∈ storage.masterSubAgentIds msg.sender,
      (storage.subAgentById subAgentId).subWallet = subWallet ∧
      (storage.subAgentById subAgentId).status = .active ∧
      1 ≤ storage.activeSubAgents msg.sender ∧
      next = { storage with
        subAgentById := update storage.subAgentById subAgentId
          { storage.subAgentById subAgentId with
            status := .inactive
            allowance := 0
            removedAt := msg.timestamp }
        activeSubAgents := update storage.activeSubAgents msg.sender
          (storage.activeSubAgents msg.sender - 1) } := by
  simp only [removeSubAgent, requireIdentity, require_bind_eq_ok] at removed
  obtain ⟨-, removed⟩ := removed
  obtain ⟨subAgentId, found, removed⟩ := bind_eq_ok.mp removed
  simp only [answered_bind_eq_ok, require_bind_eq_ok, checkedSub_bind_eq_ok, Except.ok.injEq]
    at removed
  obtain ⟨-, -, -, positive, rfl⟩ := removed
  obtain ⟨member, wallet, active⟩ := findActiveSubAgentId_ok found
  exact ⟨subAgentId, member, wallet, active, positive, rfl⟩

theorem removeSubAgent_consistent (consistent : Consistent storage)
    (removed : removeSubAgent balances msg storage subWallet = .ok next) : Consistent next := by
  obtain ⟨subAgentId, member, -, active, positive, rfl⟩ := removeSubAgent_ok removed
  refine consistent.modify _ rfl rfl rfl (fun master => ?_) fun master => ?_
  · by_cases own : master = msg.sender
    · subst own
      have fewer := activeCount_deactivate (consistent.nodup msg.sender) member active
        { storage.subAgentById subAgentId with
          status := .inactive
          allowance := 0
          removedAt := msg.timestamp } rfl
      rw [update_self, consistent.counted msg.sender]
      omega
    · have outside : subAgentId ∉ storage.masterSubAgentIds master := fun inside =>
        own (((consistent.recorded master subAgentId inside).2.symm).trans
          (consistent.recorded msg.sender subAgentId member).2)
      rw [update_of_ne own, activeCount_update_of_notMem _ outside, consistent.counted master]
  · by_cases own : master = msg.sender
    · subst own
      have limited := consistent.limited msg.sender
      rw [update_self]
      omega
    · simpa [own] using consistent.limited master

/-- What setting an allowance found, and what it leaves: the active allowances within the
balance. -/
theorem setSubAgentAllowance_ok
    (set : setSubAgentAllowance balances msg storage subWallet allowance = .ok next) :
    ∃ subAgentId ∈ storage.masterSubAgentIds msg.sender,
      (storage.subAgentById subAgentId).subWallet = subWallet ∧
      (storage.subAgentById subAgentId).status = .active ∧
      next = { storage with
        subAgentById := update storage.subAgentById subAgentId
          { storage.subAgentById subAgentId with allowance } } ∧
      ∃ free, balances.freeBalance msg.sender = some free ∧
        ((next.getSubAgents msg.sender).map SubAgent.allowance).sum ≤ free := by
  simp only [setSubAgentAllowance, requireIdentity, require_bind_eq_ok] at set
  obtain ⟨-, set⟩ := set
  obtain ⟨subAgentId, found, set⟩ := bind_eq_ok.mp set
  obtain ⟨total, added, set⟩ := bind_eq_ok.mp set
  simp only [answered_bind_eq_ok, require_bind_eq_ok, Except.ok.injEq] at set
  obtain ⟨free, answer, within, rfl⟩ := set
  obtain ⟨member, wallet, active⟩ := findActiveSubAgentId_ok found
  have sum := addAllowances_ok added
  rw [Nat.zero_add] at sum
  exact ⟨subAgentId, member, wallet, active, rfl, free, answer, sum ▸ within⟩

theorem setSubAgentAllowance_consistent (consistent : Consistent storage)
    (set : setSubAgentAllowance balances msg storage subWallet allowance = .ok next) :
    Consistent next := by
  obtain ⟨subAgentId, member, -, active, rfl, -⟩ := setSubAgentAllowance_ok set
  refine consistent.modify storage.activeSubAgents rfl rfl rfl (fun master => ?_)
    consistent.limited
  rw [consistent.counted master]
  refine List.countP_congr fun other _ => ?_
  by_cases here : other = subAgentId
  · subst here
    simp
  · simp [here]

theorem dispatch_consistent {transaction : Transaction} (consistent : Consistent storage)
    (dispatched : dispatch storage transaction = .ok next) : Consistent next := by
  obtain ⟨msg, balances, call⟩ := transaction
  cases call with
  | registerIdentity masterAgentId => exact registerIdentity_consistent consistent dispatched
  | addSubAgent subWallet subAgentId => exact addSubAgent_consistent consistent dispatched
  | removeSubAgent subWallet => exact removeSubAgent_consistent consistent dispatched
  | setSubAgentAllowance subWallet allowance =>
      exact setSubAgentAllowance_consistent consistent dispatched

end Steps

theorem reachable_consistent {storage : Storage} (reachable : registry.Reachable storage) :
    Consistent storage := by
  refine reachable.invariant (fun storage initial => ?_) fun storage transaction next _ consistent
    step => dispatch_consistent consistent step
  have empty : storage = {} := initial
  subst empty
  constructor <;> simp [activeCount]

/-! ## Whole runs -/

section Runs

variable {storage next later : Storage} {transaction : Transaction}
  {transactions : List Transaction}

/-- Nobody leaves a list, no record changes its wallet, and no wallet its master. -/
structure Persists (storage later : Storage) : Prop where
  ids : ∀ master, ∀ subAgentId ∈ storage.masterSubAgentIds master,
    subAgentId ∈ later.masterSubAgentIds master
  wallets : ∀ subAgentId, (storage.subAgentById subAgentId).addedAt ≠ 0 →
    (later.subAgentById subAgentId).addedAt ≠ 0 ∧
    (later.subAgentById subAgentId).subWallet = (storage.subAgentById subAgentId).subWallet
  masters : ∀ subWallet, storage.subAgentMaster subWallet ≠ 0 →
    later.subAgentMaster subWallet = storage.subAgentMaster subWallet

theorem step_persists (step : registry.Step storage transaction next) :
    Persists storage next := by
  obtain ⟨msg, balances, call⟩ := transaction
  change dispatch storage _ = .ok next at step
  cases call with
  | registerIdentity masterAgentId =>
      simp only [dispatch, registerIdentity, require_bind_eq_ok, Except.ok.injEq] at step
      obtain ⟨-, rfl⟩ := step
      exact ⟨fun _ _ member => member, fun _ present => ⟨present, rfl⟩, fun _ _ => rfl⟩
  | addSubAgent subWallet subAgentId =>
      simp only [dispatch, addSubAgent, requireIdentity, require_bind_eq_ok, Except.ok.injEq]
        at step
      obtain ⟨-, -, -, -, unowned, fresh, -, rfl⟩ := step
      constructor
      · intro master other member
        by_cases own : master = msg.sender
        · subst own
          simp [member]
        · simpa [own] using member
      · intro other present
        have different : other ≠ subAgentId := fun same => present (same ▸ fresh)
        simpa [different] using present
      · intro other owned
        have different : other ≠ subWallet := fun same => owned (same ▸ unowned)
        simp [different]
  | removeSubAgent subWallet =>
      obtain ⟨subAgentId, _, _, _, _, rfl⟩ := removeSubAgent_ok step
      refine ⟨fun _ _ member => member, fun other present => ?_, fun _ _ => rfl⟩
      by_cases here : other = subAgentId
      · subst here
        simpa using present
      · simpa [here] using present
  | setSubAgentAllowance subWallet allowance =>
      obtain ⟨subAgentId, _, _, _, rfl, -⟩ := setSubAgentAllowance_ok step
      refine ⟨fun _ _ member => member, fun other present => ?_, fun _ _ => rfl⟩
      by_cases here : other = subAgentId
      · subst here
        simpa using present
      · simpa [here] using present

theorem run_persists (run : registry.Run storage transactions later) : Persists storage later := by
  induction run with
  | nil => exact ⟨fun _ _ member => member, fun _ present => ⟨present, rfl⟩, fun _ _ => rfl⟩
  | snoc _ step ih =>
      have last := step_persists step
      constructor
      · exact fun master subAgentId member => last.ids master subAgentId (ih.ids master _ member)
      · intro subAgentId present
        obtain ⟨before, same⟩ := ih.wallets subAgentId present
        obtain ⟨after, again⟩ := last.wallets subAgentId before
        exact ⟨after, again.trans same⟩
      · intro subWallet owned
        have before := ih.masters subWallet owned
        rw [last.masters subWallet (before ▸ owned), before]

/-- The active sub-agent of a master that has a wallet. -/
def ActiveSubAgent (storage : Storage) (master subWallet : Address) (subAgentId : Bytes32) : Prop :=
  (storage.subAgentById subAgentId).addedAt ≠ 0 ∧
  (storage.subAgentById subAgentId).master = master ∧
  (storage.subAgentById subAgentId).subWallet = subWallet ∧
  (storage.subAgentById subAgentId).status = .active

/-- The search finds the active sub-agent of the wallet, if there is one. -/
theorem Consistent.find_iff (consistent : Consistent storage) {master subWallet : Address}
    {subAgentId : Bytes32} :
    findActiveSubAgentId storage.subAgentById subWallet (storage.masterSubAgentIds master) =
      .ok subAgentId ↔ ActiveSubAgent storage master subWallet subAgentId := by
  constructor
  · intro found
    obtain ⟨member, wallet, active⟩ := findActiveSubAgentId_ok found
    obtain ⟨present, own⟩ := consistent.recorded master subAgentId member
    exact ⟨present, own, wallet, active⟩
  · rintro ⟨present, rfl, rfl, active⟩
    obtain ⟨member, -⟩ := consistent.listed subAgentId present
    obtain ⟨found, is⟩ := findActiveSubAgentId_isOk member rfl active
    obtain ⟨listed, wallet, -⟩ := findActiveSubAgentId_ok is
    obtain ⟨foundPresent, -⟩ := consistent.recorded _ found listed
    rw [is, consistent.wallets found subAgentId foundPresent present wallet]

/-- A removal never fails for an arithmetic reason. -/
theorem Consistent.removeSubAgent_ne_panic (consistent : Consistent storage) (balances : Balances)
    (msg : Message) (subWallet : Address) :
    removeSubAgent balances msg storage subWallet ≠ .error .panic := by
  unfold removeSubAgent requireIdentity
  by_cases known : (storage.identities msg.sender).registered = true
  · simp only [require, known, if_true, ok_bind]
    cases found : findActiveSubAgentId storage.subAgentById subWallet
        (storage.masterSubAgentIds msg.sender) with
    | error error => simp [findActiveSubAgentId_error found]
    | ok subAgentId =>
        -- The counter is not zero while there is an active sub-agent.
        have positive : 1 ≤ storage.activeSubAgents msg.sender := by
          obtain ⟨member, -, active⟩ := findActiveSubAgentId_ok found
          rw [consistent.counted msg.sender]
          exact List.countP_pos_iff.mpr ⟨subAgentId, member, decide_eq_true active⟩
        cases answer : balances.boundBalance subWallet with
        | none => simp [answered]
        | some bound =>
            by_cases free : bound = 0
            · simp [answered, free, checkedSub, positive]
            · simp [answered, free]
  · simp [require, known]

/-- In every reachable state the counters, the lists and the records agree, the search finds just
the active sub-agents, nothing underflows, what is listed stays listed with its one master, and an
allowance is only set within the free balance. -/
theorem sub_agent_registry (reachable : registry.Reachable storage) :
    (∀ master, storage.activeSubAgents master =
        activeCount storage.subAgentById (storage.masterSubAgentIds master) ∧
      storage.activeSubAgents master ≤ 3) ∧
    (∀ master, (storage.masterSubAgentIds master).Nodup) ∧
    (∀ transactions later, registry.Run storage transactions later →
      (∀ subWallet, storage.subAgentMaster subWallet ≠ 0 →
        later.subAgentMaster subWallet = storage.subAgentMaster subWallet) ∧
      ∀ master other, ∀ subAgentId ∈ storage.masterSubAgentIds master,
        subAgentId ∈ later.masterSubAgentIds master ∧
        ∀ otherId ∈ later.masterSubAgentIds other,
          otherId = subAgentId ∨ (later.subAgentById otherId).subWallet =
            (storage.subAgentById subAgentId).subWallet → other = master ∧ otherId = subAgentId) ∧
    (∀ master subWallet subAgentId,
      findActiveSubAgentId storage.subAgentById subWallet (storage.masterSubAgentIds master) =
        .ok subAgentId ↔ ActiveSubAgent storage master subWallet subAgentId) ∧
    (∀ balances msg subWallet, removeSubAgent balances msg storage subWallet ≠ .error .panic) ∧
    ∀ balances msg subWallet allowance next,
      registry.Step storage ⟨msg, balances, .setSubAgentAllowance subWallet allowance⟩ next →
      ∃ free, balances.freeBalance msg.sender = some free ∧
        ((next.getSubAgents msg.sender).map SubAgent.allowance).sum ≤ free := by
  have consistent := reachable_consistent reachable
  refine ⟨fun master => ⟨consistent.counted master, consistent.limited master⟩, consistent.nodup,
    fun transactions later run => ⟨(run_persists run).masters,
      fun master other subAgentId member => ?_⟩,
    fun master subWallet subAgentId => consistent.find_iff,
    consistent.removeSubAgent_ne_panic,
    fun balances msg subWallet allowance next step => ?_⟩
  · have laterConsistent := reachable_consistent (reachable.run run)
    have persists := run_persists run
    have stays := persists.ids master subAgentId member
    obtain ⟨present, wallet⟩ :=
      persists.wallets subAgentId (consistent.recorded master subAgentId member).1
    refine ⟨stays, fun otherId listed same => ?_⟩
    obtain ⟨otherPresent, otherMaster⟩ := laterConsistent.recorded other otherId listed
    have one : otherId = subAgentId := by
      rcases same with same | shared
      · exact same
      · exact laterConsistent.wallets otherId subAgentId otherPresent present
          (shared.trans wallet.symm)
    rw [← otherMaster, one, (laterConsistent.recorded master subAgentId stays).2]
    exact ⟨rfl, rfl⟩
  · obtain ⟨_, _, _, _, _, free, answer, within⟩ := setSubAgentAllowance_ok step
    exact ⟨free, answer, within⟩

end Runs

namespace Demo

theorem master_ne_zero : (1 : Address) ≠ 0 := by decide
theorem ten_pos : 0 < 10 := by decide
theorem eleven_pos : 0 < 11 := by decide

/-- A master registers, and adds a wallet as its sub-agent; the balances are whatever is asked
for. -/
def added : Scene (fun storage transaction => (dispatch storage transaction).toOption) {} where
  actions := [⟨⟨1, 10, master_ne_zero, ten_pos⟩, ⟨fun _ => some 0, fun _ => some 5⟩,
      .registerIdentity 7⟩,
    ⟨⟨1, 11, master_ne_zero, eleven_pos⟩, ⟨fun _ => some 0, fun _ => some 5⟩, .addSubAgent 2 9⟩]
  possible := by decide +kernel

theorem added_reachable : registry.Reachable added.world :=
  ⟨{}, _, rfl, added.run fun _ _ _ performed => toOption_eq_some.mp performed⟩

end Demo

theorem sub_agent_registry_demo : ActiveSubAgent Demo.added.world 1 2 9 :=
  ((sub_agent_registry Demo.added_reachable).2.2.2.1 1 2 9).mp (by decide +kernel)

end TrustChain.SubAgents
