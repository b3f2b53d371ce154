import Safrod.Storage.Operations

/-!
# Histories of invoices

`InvoicesChanged` is what one storage call can do to the table of invoices: leave
it, add an open row under a new identifier and hash, mark an open row as paid, or
expire the overdue ones. From it: the identifiers stay unique
(`invoiceIds_of_reachable`), a stored invoice stays stored, and a paid one is
never written again (`InvoicesChanged.lasts`).
-/

set_option autoImplicit false

namespace Safrod

open Table

namespace Db

inductive InvoicesChanged (db : Db) (rows : List InvoiceRow) : Prop where
  | same (kept : rows = db.invoices)
  | inserted (now : DateTime) (new : NewInvoice)
      (fresh : ∀ old ∈ db.invoices, ¬ InvoiceClash (openRow now new) old)
      (added : rows = db.invoices ++ [openRow now new])
  | paid (now : DateTime) (received : ℤ) (row : InvoiceRow) (member : row ∈ db.invoices)
      (stillOpen : row.status = .open_)
      (set : rows = updateWhere (fun old => old.id = row.id) (paidRow now received) db.invoices)
  | expired (now : DateTime) (set : rows = updateWhere (Overdue now) (expiredRow now) db.invoices)

theorem Performed.invoices {db after : Db} (performed : Performed db after) :
    InvoicesChanged db after.invoices := by
  cases performed with
  | unchanged => exact .same rfl
  | invoiceInserted now new fresh => exact .inserted now new fresh rfl
  | invoicePaid now dedupeKey kind payload received row member stillOpen =>
      exact .paid now received row member stillOpen rfl
  | invoicesExpired now => exact .expired now (afterExpire_invoices now db)
  | paymentBegun now new keyFree idFree => exact .same rfl
  | paymentMoved now dedupeKey next fee resolution row found legal =>
      exact .same (afterMove_invoices now dedupeKey next fee resolution row db)
  | quoteInserted row idFree => exact .same rfl
  | payoutReserved now request quote balances fresh => exact .same rfl
  | payoutAdvanced now current next balances found legal => exact .same rfl
  | payoutAttached now payoutId paymentId => exact .same rfl
  | balanceCredited balances => exact .same rfl
  | endpointCreated endpoint idFree => exact .same rfl
  | endpointDisabled projectId id => exact .same rfl
  | endpointTested now projectId id data => exact .same rfl

/-! ## Unique identifiers -/

theorem InvoicesChanged.ids {db : Db} {rows : List InvoiceRow} (changed : InvoicesChanged db rows)
    (unique : KeyUnique (fun row : InvoiceRow => row.id) db.invoices) :
    KeyUnique (fun row : InvoiceRow => row.id) rows := by
  cases changed with
  | same kept =>
      rw [kept]
      exact unique
  | inserted now new fresh added =>
      rw [added]
      refine unique.append_singleton ?_
      intro old member same
      exact fresh old member (.inl same)
  | paid now received row member stillOpen set =>
      rw [set]
      exact unique.update fun old => rfl
  | expired now set =>
      rw [set]
      exact unique.update fun old => rfl

theorem invoiceIds_of_reachable {db : Db} (reached : storage.Reachable db) :
    KeyUnique (fun row : InvoiceRow => row.id) db.invoices := by
  refine reached.invariant (fun db => KeyUnique (fun row : InvoiceRow => row.id) db.invoices) ?_ ?_
  · rintro _ rfl
    exact KeyUnique.nil
  · intro db call after _ unique step
    cases step
    exact (perform_performed call db).invoices.ids unique

/-! ## One invoice -/

/-- A lookup after an update that keeps the hashes. -/
theorem findInvoiceByHash_of_set {db after : Db} {chosen : InvoiceRow → Prop}
    [DecidablePred chosen] {set : InvoiceRow → InvoiceRow} {paymentHash : String}
    {row : InvoiceRow} (found : db.findInvoiceByHash paymentHash = some row)
    (written : after.invoices = updateWhere chosen set db.invoices)
    (kept : ∀ row, (set row).paymentHash = row.paymentHash) :
    after.findInvoiceByHash paymentHash = some (if chosen row then set row else row) := by
  have here : lookup (fun row : InvoiceRow => row.paymentHash) paymentHash db.invoices =
      some row := found
  rw [findInvoiceByHash, written, lookup_updateWhere set kept, here, Option.map_some]

/-- A stored invoice stays stored under its hash, and a paid one stays as it is. -/
theorem InvoicesChanged.lasts {db after : Db} (changed : InvoicesChanged db after.invoices)
    (unique : KeyUnique (fun row : InvoiceRow => row.id) db.invoices) {paymentHash : String}
    {row : InvoiceRow} (found : db.findInvoiceByHash paymentHash = some row) :
    ∃ later, after.findInvoiceByHash paymentHash = some later ∧
      (row.status = .paid → later = row) := by
  obtain ⟨member, -⟩ := lookup_some found
  cases changed with
  | same kept =>
      refine ⟨row, ?_, fun _ => rfl⟩
      rw [findInvoiceByHash, kept]
      exact found
  | inserted now new fresh added =>
      refine ⟨row, ?_, fun _ => rfl⟩
      have here : lookup (fun row : InvoiceRow => row.paymentHash) paymentHash db.invoices =
          some row := found
      rw [findInvoiceByHash, added, lookup_append_singleton, here, Option.some_or]
  | paid now received credited creditedMember stillOpen written =>
      refine ⟨_, findInvoiceByHash_of_set found written fun _ => rfl, ?_⟩
      intro paid
      refine if_neg fun same => ?_
      rw [unique.eq_of_key member creditedMember same, stillOpen] at paid
      cases paid
  | expired now written =>
      refine ⟨_, findInvoiceByHash_of_set found written fun _ => rfl, ?_⟩
      intro paid
      refine if_neg fun overdue => ?_
      rw [overdue.1] at paid
      cases paid

end Db

end Safrod
