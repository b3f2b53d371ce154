import Safrod.Storage.Model

/-!
# Totals of a project

`projectTotals` sums what is recorded for one project. Summed over projects, the
totals are sums over the rows of these projects (`sum_lightningSentMsat`,
`sum_lightningFeesMsat`).
-/

set_option autoImplicit false

namespace Safrod

open Table

structure Totals where
  lightningReceivedMsat : ℤ
  lightningSentMsat : ℤ
  lightningFeesMsat : ℤ
  lightningInFlightMsat : ℤ
  onchainConfirmedSat : ℤ
  onchainUnconfirmedSat : ℤ

/-- `coalesce((select sum(column) …), 0)::bigint`. -/
def bigintSum {Row : Type} (column : Row → Option ℤ) (rows : List Row) : Except StorageError ℤ :=
  if -(i64Max : ℤ) - 1 ≤ sumOf column rows ∧ sumOf column rows ≤ i64Max then
    .ok (sumOf column rows)
  else .error (.database "bigint out of range")

theorem bigintSum_eq_ok {Row : Type} {column : Row → Option ℤ} {rows : List Row} {sum : ℤ}
    (done : bigintSum column rows = .ok sum) : sum = sumOf column rows := by
  unfold bigintSum at done
  split at done
  · cases done
    rfl
  · cases done

namespace Db

def projectTotals (projectId : String) (db : Db) : Except StorageError Totals := do
  let paid := db.invoices.filter fun row => row.projectId = projectId ∧ row.status = .paid
  let succeeded := db.outgoingPayments.filter fun row =>
    row.projectId = projectId ∧ row.status = .succeeded
  let inFlight := db.outgoingPayments.filter fun row =>
    row.projectId = projectId ∧ (row.status = .pending ∨ row.status = .unknown)
  let confirmed := db.onchainTransactions.filter fun row =>
    row.projectId = projectId ∧ row.status = .confirmed
  let unconfirmed := db.onchainTransactions.filter fun row =>
    row.projectId = projectId ∧ row.status ≠ .confirmed
  return {
    lightningReceivedMsat := ← bigintSum (fun row => row.amountReceivedMsat) paid
    lightningSentMsat := ← bigintSum (fun row => some row.amountMsat) succeeded
    lightningFeesMsat := ← bigintSum (fun row => row.feeMsat) succeeded
    lightningInFlightMsat := ← bigintSum (fun row => some row.amountMsat) inFlight
    onchainConfirmedSat := ← bigintSum (fun row => some row.amountSat) confirmed
    onchainUnconfirmedSat := ← bigintSum (fun row => some row.amountSat) unconfirmed }

/-- What was sent and paid in fees is summed over the succeeded rows of the project. -/
theorem projectTotals_sent {projectId : String} {db : Db} {totals : Totals}
    (done : db.projectTotals projectId = .ok totals) :
    totals.lightningSentMsat = sumOf (fun row => some row.amountMsat)
        (db.outgoingPayments.filter fun row =>
          row.projectId = projectId ∧ row.status = .succeeded) ∧
      totals.lightningFeesMsat = sumOf (fun row => row.feeMsat)
        (db.outgoingPayments.filter fun row =>
          row.projectId = projectId ∧ row.status = .succeeded) := by
  obtain ⟨received, -, done⟩ := Except.exists_of_bind_eq_ok done
  obtain ⟨sent, sentSum, done⟩ := Except.exists_of_bind_eq_ok done
  obtain ⟨fees, feesSum, done⟩ := Except.exists_of_bind_eq_ok done
  obtain ⟨inFlight, -, done⟩ := Except.exists_of_bind_eq_ok done
  obtain ⟨confirmed, -, done⟩ := Except.exists_of_bind_eq_ok done
  obtain ⟨unconfirmed, -, done⟩ := Except.exists_of_bind_eq_ok done
  cases done
  exact ⟨bigintSum_eq_ok sentSum, bigintSum_eq_ok feesSum⟩

section Projects

variable {db : Db} {projects : List String} {totals : String → Totals}

/-- The succeeded payments of the projects. -/
def succeededOf (projects : List String) (db : Db) : List PaymentRow :=
  db.outgoingPayments.filter fun row => row.projectId ∈ projects ∧ row.status = .succeeded

theorem sum_lightningSentMsat (distinct : projects.Nodup)
    (queried : ∀ project ∈ projects, db.projectTotals project = .ok (totals project)) :
    (projects.map fun project => (totals project).lightningSentMsat).sum =
      sumOf (fun row => some row.amountMsat) (db.succeededOf projects) := by
  rw [succeededOf, ← sum_groups _ _ _ _ distinct]
  refine congrArg List.sum (List.map_congr_left fun project member => ?_)
  exact (projectTotals_sent (queried project member)).1

theorem sum_lightningFeesMsat (distinct : projects.Nodup)
    (queried : ∀ project ∈ projects, db.projectTotals project = .ok (totals project)) :
    (projects.map fun project => (totals project).lightningFeesMsat).sum =
      sumOf (fun row => row.feeMsat) (db.succeededOf projects) := by
  rw [succeededOf, ← sum_groups _ _ _ _ distinct]
  refine congrArg List.sum (List.map_congr_left fun project member => ?_)
  exact (projectTotals_sent (queried project member)).2

end Projects

end Db

end Safrod
