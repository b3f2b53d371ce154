/-!
# The settlement state machine

`transition` is the only way a settlement changes its state. An event that is not legal
in a state is a typed error.
-/

set_option autoImplicit false

namespace Safrod.Legacy

inductive SettlementState where
  | created
  | quoted
  | sourceReserved
  | destinationReserved
  | settlementConditionCreated
  | payoutRequested
  | payoutConfirmed
  | payoutFailed
  /-- The fiat rail gave no definite answer. -/
  | payoutUnknown
  | settlementReleased
  | refunded
  | disputed
  deriving DecidableEq, Repr

/-- The definite outcome of a fiat payout. -/
inductive PayoutOutcome where
  | confirmed
  | failed
  deriving DecidableEq, Repr

inductive SettlementEvent where
  | quote
  | reserveSource
  | reserveDestination
  | createSettlementCondition
  | requestPayout
  /-- The rail said what became of the payout, or could not say. -/
  | observePayout (outcome : Option PayoutOutcome)
  | reconcileUnknown (outcome : PayoutOutcome)
  | releaseSettlement
  | refund
  /-- Payout evidence was in conflict. -/
  | dispute
  deriving DecidableEq, Repr

structure TransitionError where
  source : SettlementState
  event : SettlementEvent
  deriving DecidableEq, Repr

def transition (source : SettlementState) (event : SettlementEvent) :
    Except TransitionError SettlementState :=
  match source, event with
  | .created, .quote => .ok .quoted
  | .quoted, .reserveSource => .ok .sourceReserved
  | .sourceReserved, .reserveDestination => .ok .destinationReserved
  | .destinationReserved, .createSettlementCondition => .ok .settlementConditionCreated
  | .settlementConditionCreated, .requestPayout => .ok .payoutRequested
  | .payoutRequested, .observePayout (some .confirmed) => .ok .payoutConfirmed
  | .payoutRequested, .observePayout (some .failed) => .ok .payoutFailed
  | .payoutRequested, .observePayout none => .ok .payoutUnknown
  | .payoutUnknown, .reconcileUnknown .confirmed => .ok .payoutConfirmed
  | .payoutUnknown, .reconcileUnknown .failed => .ok .payoutFailed
  | .payoutConfirmed, .releaseSettlement => .ok .settlementReleased
  | .payoutFailed, .refund => .ok .refunded
  | .payoutRequested, .dispute => .ok .disputed
  | .payoutUnknown, .dispute => .ok .disputed
  | .payoutConfirmed, .dispute => .ok .disputed
  | .payoutFailed, .dispute => .ok .disputed
  | source, event => .error ⟨source, event⟩

/-- The state a definite outcome leads to. -/
def PayoutOutcome.state : PayoutOutcome → SettlementState
  | confirmed => .payoutConfirmed
  | failed => .payoutFailed

namespace SettlementState

/-- The states that no event leaves. -/
def isTerminal : SettlementState → Bool
  | settlementReleased | refunded | disputed => true
  | _ => false

/-- The states in which conflicting evidence is a dispute. -/
def mayDispute : SettlementState → Bool
  | payoutRequested | payoutUnknown | payoutConfirmed | payoutFailed => true
  | _ => false

/-- A dispute is legal in no terminal state. -/
theorem open_of_mayDispute {state : SettlementState} (may : state.mayDispute = true) :
    state.isTerminal = false := by
  cases state <;> first | rfl | cases may

end SettlementState

section Transitions

variable {source target : SettlementState}

/-- Nothing leaves a terminal state. -/
theorem transition_terminal (terminal : source.isTerminal = true) (event : SettlementEvent) :
    transition source event = .error ⟨source, event⟩ := by
  cases source <;> cases terminal <;> rfl

/-- The error names the state and the event. -/
theorem transition_error {event : SettlementEvent} {error : TransitionError}
    (illegal : transition source event = .error error) : error = ⟨source, event⟩ := by
  unfold transition at illegal
  split at illegal
  all_goals cases illegal
  rfl

theorem transition_releaseSettlement :
    transition source .releaseSettlement = .ok target ↔
      source = .payoutConfirmed ∧ target = .settlementReleased := by
  cases source <;> simp [transition, eq_comm]

theorem transition_refund :
    transition source .refund = .ok target ↔ source = .payoutFailed ∧ target = .refunded := by
  cases source <;> simp [transition, eq_comm]

theorem transition_requestPayout :
    transition source .requestPayout = .ok target ↔
      source = .settlementConditionCreated ∧ target = .payoutRequested := by
  cases source <;> simp [transition, eq_comm]

theorem transition_reserveSource :
    transition source .reserveSource = .ok target ↔
      source = .quoted ∧ target = .sourceReserved := by
  cases source <;> simp [transition, eq_comm]

theorem transition_dispute :
    transition source .dispute = .ok target ↔ source.mayDispute = true ∧ target = .disputed := by
  cases source <;> simp [transition, SettlementState.mayDispute, eq_comm]

/-- A requested payout takes any answer of the rail. -/
theorem transition_observePayout (outcome : PayoutOutcome) :
    transition .payoutRequested (.observePayout (some outcome)) = .ok outcome.state := by
  cases outcome <;> rfl

theorem transition_reconcileUnknown (outcome : PayoutOutcome) :
    transition .payoutUnknown (.reconcileUnknown outcome) = .ok outcome.state := by
  cases outcome <;> rfl

end Transitions

end Safrod.Legacy
