import Safrod.Engine.Daemon

/-!
# A pass over all unresolved payments

`reconcileAll` reads the payments that are not final, oldest first, and compares each
with the node's record of its hash. With no other writer every payment is decided on
the status it still has, so a pass amounts to one rewrite of each row on its own
(`settledRow`), and a second pass with the same node view finds nothing to do.

The node is a function from payment hashes to records. A payment is visited at most
once in a pass, so the times of its transactions are given by its identifier.
-/

set_option autoImplicit false

namespace Safrod

open Table

/-- When the transactions for a payment run: the step through `pending`, if it is
taken, and the last one. -/
structure StepTimes where
  passes : DateTime
  settles : DateTime

section Pass

variable (times : String → StepTimes) (nodeView : String → Option NodePayment)

/-! ## The pass -/

def settlePayment (payment : PaymentRecord) (next : PaymentStatus) (resolution : Resolution)
    (db : Db) : Except ApiError PaymentRecord × Db :=
  match Db.transitionPayment (times payment.id).settles none payment.id next resolution db with
  | (.error error, after) => (.error error.toApiError, after)
  | (.ok settled, after) => (.ok settled.payment, after)

/-- Compares a non-final payment with the node's own record. -/
def reconcilePayment (payment : PaymentRecord) (db : Db) : Except ApiError PaymentRecord × Db :=
  if payment.status.isFinal then (.ok payment, db)
  else
    match reconcileDecision payment.status (nodeView payment.paymentHash) with
    | none => (.ok payment, db)
    | some (next, resolution) =>
        if passesPending payment.status next then
          match Db.transitionPayment (times payment.id).passes none payment.id .pending {} db with
          | (.error error, after) => (.error error.toApiError, after)
          | (.ok _, after) => settlePayment times payment next resolution after
        else settlePayment times payment next resolution db

/-- The loop counts the payments whose status changed; an error ends it. -/
def reconcileLoop : List PaymentRecord → ℕ → Db → Except ApiError ℕ × Db
  | [], changed, db => (.ok changed, db)
  | payment :: rest, changed, db =>
      match reconcilePayment times nodeView payment db with
      | (.error error, after) => (.error error, after)
      | (.ok result, after) =>
          reconcileLoop rest (if result.status = payment.status then changed else changed + 1) after

def reconcileAll (db : Db) : Except ApiError ℕ × Db :=
  reconcileLoop times nodeView db.unresolvedPayments 0 db

/-! ## One row -/

/-- What a pass makes of a row. -/
def settledRow (row : PaymentRow) : PaymentRow :=
  if row.status.isFinal then row
  else
    match reconcileDecision row.status (nodeView row.paymentHash) with
    | none => row
    | some (next, resolution) =>
        Db.resolvedRow (times row.id).settles next (resolution.feeMsat.map Int.ofNat) resolution
          (if passesPending row.status next then
            Db.resolvedRow (times row.id).passes .pending none {} row
          else row)

end Pass

/-- The fees the node reports fit their column. -/
def FeesFit (nodeView : String → Option NodePayment) : Prop :=
  ∀ paymentHash payment fee, nodeView paymentHash = some payment →
    payment.feeMsat = some fee → fee < 2 ^ 63

/-- The row is what the node's record says it should be. -/
structure Reconciled (nodeView : String → Option NodePayment) (row after : PaymentRow) : Prop where
  id : after.id = row.id
  succeeded : row.status.isFinal = false → ∀ payment, nodeView row.paymentHash = some payment →
    payment.status = .succeeded → after.status = .succeeded
  failed : row.status.isFinal = false → ∀ payment, nodeView row.paymentHash = some payment →
    payment.status = .failed → after.status = .failed
  neverDispatched : row.status = .created → nodeView row.paymentHash = none →
    after.status = .failed
  ambiguous : row.status = .pending → nodeView row.paymentHash = none → after.status = .unknown
  others : row.status.isFinal = true ∨
      (∃ payment, nodeView row.paymentHash = some payment ∧ payment.status = .pending) ∨
      (row.status = .unknown ∧ nodeView row.paymentHash = none) → after = row

section Rows

variable {times : String → StepTimes} {nodeView : String → Option NodePayment}

theorem settledRow_of_final {row : PaymentRow} (final : row.status.isFinal = true) :
    settledRow times nodeView row = row := by
  rw [settledRow, if_pos final]

theorem settledRow_of_none {row : PaymentRow}
    (undecided : reconcileDecision row.status (nodeView row.paymentHash) = none) :
    settledRow times nodeView row = row := by
  simp only [settledRow, undecided, ite_self]

theorem settledRow_of_some {row : PaymentRow} {next : PaymentStatus} {resolution : Resolution}
    (stillOpen : row.status.isFinal = false)
    (decided : reconcileDecision row.status (nodeView row.paymentHash) =
      some (next, resolution)) :
    settledRow times nodeView row =
      Db.resolvedRow (times row.id).settles next (resolution.feeMsat.map Int.ofNat) resolution
        (if passesPending row.status next then
          Db.resolvedRow (times row.id).passes .pending none {} row
        else row) := by
  simp only [settledRow, stillOpen, decided, Bool.false_eq_true, if_false]

theorem settledRow_id (row : PaymentRow) : (settledRow times nodeView row).id = row.id := by
  simp only [settledRow]
  split
  · rfl
  · split
    · rfl
    · split <;> rfl

theorem settledRow_paymentHash (row : PaymentRow) :
    (settledRow times nodeView row).paymentHash = row.paymentHash := by
  simp only [settledRow]
  split
  · rfl
  · split
    · rfl
    · split <;> rfl

theorem settledRow_reconciled (times : String → StepTimes)
    (nodeView : String → Option NodePayment) (row : PaymentRow) :
    Reconciled nodeView row (settledRow times nodeView row) := by
  refine ⟨settledRow_id row, ?_, ?_, ?_, ?_, ?_⟩
  · intro stillOpen payment view succeeded
    have decided : reconcileDecision row.status (nodeView row.paymentHash) =
        some (.succeeded, { feeMsat := payment.feeMsat, preimage := payment.preimage }) := by
      simp only [reconcileDecision, view, succeeded]
    rw [settledRow_of_some stillOpen decided]
    rfl
  · intro stillOpen payment view failed
    have decided : reconcileDecision row.status (nodeView row.paymentHash) =
        some (.failed, { failureReason := some "reported_failed_by_node" }) := by
      simp only [reconcileDecision, view, failed]
    rw [settledRow_of_some stillOpen decided]
    rfl
  · intro created view
    have stillOpen : row.status.isFinal = false := by
      rw [created]
      rfl
    have decided : reconcileDecision row.status (nodeView row.paymentHash) =
        some (.failed, { failureReason := some "never_dispatched" }) := by
      simp only [reconcileDecision, view, created]
    rw [settledRow_of_some stillOpen decided]
    rfl
  · intro pending view
    have stillOpen : row.status.isFinal = false := by
      rw [pending]
      rfl
    have decided : reconcileDecision row.status (nodeView row.paymentHash) =
        some (.unknown, {}) := by
      simp only [reconcileDecision, view, pending]
    rw [settledRow_of_some stillOpen decided]
    rfl
  · rintro (final | ⟨payment, view, pending⟩ | ⟨unknown, view⟩)
    · exact settledRow_of_final final
    · refine settledRow_of_none ?_
      simp only [reconcileDecision, view, pending]
    · refine settledRow_of_none ?_
      simp only [reconcileDecision, view, unknown]

/-- A row that a pass settled is left alone by the next one. -/
theorem settledRow_undecided (row : PaymentRow)
    (stillOpen : (settledRow times nodeView row).status.isFinal = false) :
    reconcileDecision (settledRow times nodeView row).status
      (nodeView (settledRow times nodeView row).paymentHash) = none := by
  rw [settledRow_paymentHash]
  cases final : row.status.isFinal with
  | true =>
      rw [settledRow_of_final final, final] at stillOpen
      cases stillOpen
  | false =>
      have reconciled := settledRow_reconciled times nodeView row
      cases view : nodeView row.paymentHash with
      | some payment =>
          cases status : payment.status with
          | pending =>
              simp only [reconcileDecision, status]
          | succeeded =>
              rw [reconciled.succeeded final payment view status] at stillOpen
              cases stillOpen
          | failed =>
              rw [reconciled.failed final payment view status] at stillOpen
              cases stillOpen
      | none =>
          rcases PaymentStatus.isFinal_eq_false_iff.mp final with created | pending | unknown
          · rw [reconciled.neverDispatched created view] at stillOpen
            cases stillOpen
          · rw [reconciled.ambiguous pending view]
            rfl
          · rw [reconciled.others (.inr (.inr ⟨unknown, view⟩)), unknown]
            rfl

end Rows

/-! ## The transactions of a pass -/

/-- A legal move of a payment that is there, without a dedupe key. -/
theorem transitionPayment_legal {now : DateTime} {next : PaymentStatus} {resolution : Resolution}
    {db : Db} {row : PaymentRow} (found : db.findPayment row.id = some row)
    (legal : row.status.canTransitionTo next = true)
    (fits : ∀ fee, resolution.feeMsat = some fee → fee < 2 ^ 63) :
    Db.transitionPayment now none row.id next resolution db =
      (.ok ⟨(Db.resolvedRow now next (resolution.feeMsat.map Int.ofNat) resolution
          row).toPaymentRecord, true⟩,
        db.afterMove now none next (resolution.feeMsat.map Int.ofNat) resolution row) := by
  have same : ∀ other, db.findPayment row.id = some other → other = row := by
    intro other there
    exact (Option.some.inj (found.symm.trans there)).symm
  cases call : Db.transitionPayment now none row.id next resolution db with
  | mk answer after =>
      cases Db.transitionPayment_moved call with
      | missing absent =>
          rw [found] at absent
          cases absent
      | replayed other there key keyed claimed => cases keyed
      | repeated other there already =>
          cases same other there
          rw [already, PaymentStatus.not_canTransitionTo_self] at legal
          cases legal
      | illegal other there illegal =>
          cases same other there
          rw [legal] at illegal
          cases illegal
      | outOfRange other there legal fee given large =>
          have bound := fits fee given
          simp only [i64Max] at large
          omega
      | moved other there unclaimed legal fee converted =>
          cases same other there
          have same : fee = resolution.feeMsat.map Int.ofNat := by
            cases given : resolution.feeMsat with
            | none =>
                rw [given] at converted
                cases converted
                rfl
            | some amount =>
                rw [given] at converted
                obtain ⟨stored, small, rfl⟩ := Except.exists_of_map_eq_ok converted
                rw [(toI64_eq_ok.mp small).2]
                rfl
          rw [same]

/-- An update of the one row with a key writes what it makes of that row. -/
theorem updateWhere_const {rows : List PaymentRow}
    (unique : KeyUnique (fun row : PaymentRow => row.id) rows) {row : PaymentRow}
    (member : row ∈ rows) (set : PaymentRow → PaymentRow) :
    updateWhere (fun other => other.id = row.id) set rows =
      updateWhere (fun other => other.id = row.id) (fun _ => set row) rows := by
  refine List.map_congr_left ?_
  intro other there
  by_cases same : other.id = row.id
  · rw [unique.eq_of_key there member same]
  · rw [if_neg same, if_neg same]

section Passes

variable {times : String → StepTimes} {nodeView : String → Option NodePayment}

theorem settlePayment_eq (times : String → StepTimes) {db : Db}
    (unique : KeyUnique (fun row : PaymentRow => row.id) db.outgoingPayments) {row : PaymentRow}
    (member : row ∈ db.outgoingPayments) {payment : PaymentRecord} (named : payment.id = row.id)
    {next : PaymentStatus} {resolution : Resolution}
    (legal : row.status.canTransitionTo next = true)
    (fits : ∀ fee, resolution.feeMsat = some fee → fee < 2 ^ 63) : ∃ after,
      settlePayment times payment next resolution db =
        (.ok (Db.resolvedRow (times row.id).settles next (resolution.feeMsat.map Int.ofNat)
          resolution row).toPaymentRecord, after) ∧
      after.outgoingPayments = updateWhere (fun other => other.id = row.id)
        (fun _ => Db.resolvedRow (times row.id).settles next (resolution.feeMsat.map Int.ofNat)
          resolution row) db.outgoingPayments := by
  have found : db.findPayment row.id = some row := unique.lookup_eq_some.mpr ⟨member, rfl⟩
  refine ⟨db.afterMove (times row.id).settles none next (resolution.feeMsat.map Int.ofNat)
    resolution row, ?_, ?_⟩
  · rw [settlePayment, named, transitionPayment_legal found legal fits]
  · rw [Db.afterMove_outgoingPayments, updateWhere_const unique member]

/-- Where the node's record leads is a legal move, after the step through `pending`
where that is taken. -/
theorem legal_of_decided {current next : PaymentStatus} {view : Option NodePayment}
    {resolution : Resolution} (stillOpen : current.isFinal = false)
    (decided : reconcileDecision current view = some (next, resolution)) :
    if passesPending current next then
      current.canTransitionTo .pending = true ∧ PaymentStatus.pending.canTransitionTo next = true
    else current.canTransitionTo next = true := by
  rcases PaymentStatus.isFinal_eq_false_iff.mp stillOpen with rfl | rfl | rfl <;> cases view with
  | none =>
      cases decided
      try decide
  | some payment =>
      simp only [reconcileDecision] at decided
      cases status : payment.status <;> rw [status] at decided <;> cases decided <;> decide

/-- The fee of a decision is the node's. -/
theorem fee_of_decided {current next : PaymentStatus} {paymentHash : String}
    {resolution : Resolution} (fees : FeesFit nodeView)
    (decided : reconcileDecision current (nodeView paymentHash) = some (next, resolution)) :
    ∀ fee, resolution.feeMsat = some fee → fee < 2 ^ 63 := by
  intro fee given
  cases view : nodeView paymentHash with
  | none =>
      rw [view] at decided
      cases current <;> cases decided <;> cases given
  | some payment =>
      simp only [view, reconcileDecision] at decided
      cases status : payment.status with
      | pending =>
          rw [status] at decided
          cases decided
      | succeeded =>
          rw [status] at decided
          cases decided
          exact fees paymentHash payment fee view given
      | failed =>
          rw [status] at decided
          cases decided
          cases given

/-- A pass over one payment rewrites its row. -/
theorem reconcilePayment_eq (times : String → StepTimes) {db : Db}
    (unique : KeyUnique (fun row : PaymentRow => row.id) db.outgoingPayments) {row : PaymentRow}
    (member : row ∈ db.outgoingPayments) (fees : FeesFit nodeView) : ∃ after,
      reconcilePayment times nodeView row.toPaymentRecord db =
        (.ok (settledRow times nodeView row).toPaymentRecord, after) ∧
      after.outgoingPayments = updateWhere (fun other => other.id = row.id)
        (fun _ => settledRow times nodeView row) db.outgoingPayments := by
  have same : updateWhere (fun other : PaymentRow => other.id = row.id) (fun _ => row)
      db.outgoingPayments = db.outgoingPayments := by
    refine (updateWhere_const unique member id).symm.trans ?_
    simp only [updateWhere, id_eq, ite_self, List.map_id']
  have found : db.findPayment row.id = some row := unique.lookup_eq_some.mpr ⟨member, rfl⟩
  cases final : row.status.isFinal with
  | true =>
      refine ⟨db, ?_, ?_⟩
      · simp only [reconcilePayment, final, if_true, settledRow_of_final final]
      · rw [settledRow_of_final final, same]
  | false =>
      cases decided : reconcileDecision row.status (nodeView row.paymentHash) with
      | none =>
          refine ⟨db, ?_, ?_⟩
          · simp only [reconcilePayment, final, decided, Bool.false_eq_true, if_false,
              settledRow_of_none decided]
          · rw [settledRow_of_none decided, same]
      | some decision =>
          obtain ⟨next, resolution⟩ := decision
          have legal := legal_of_decided final decided
          have fits := fee_of_decided fees decided
          rw [settledRow_of_some final decided]
          cases passes : passesPending row.status next with
          | false =>
              rw [passes] at legal
              have named : row.toPaymentRecord.id = row.id := rfl
              obtain ⟨after, settled, rows⟩ := settlePayment_eq times unique member named legal fits
              refine ⟨after, ?_, rows⟩
              simp only [reconcilePayment, final, decided, passes, Bool.false_eq_true, if_false,
                settled]
          | true =>
              rw [passes] at legal
              obtain ⟨first, second⟩ := legal
              let pending := Db.resolvedRow (times row.id).passes .pending none {} row
              let middle := db.afterMove (times row.id).passes none .pending none {} row
              have written : middle.outgoingPayments = updateWhere
                  (fun other => other.id = row.id) (fun _ => pending) db.outgoingPayments := by
                rw [Db.afterMove_outgoingPayments, updateWhere_const unique member]
              have passed : Db.transitionPayment (times row.id).passes none row.id .pending {} db =
                  (.ok ⟨pending.toPaymentRecord, true⟩, middle) :=
                transitionPayment_legal found first (by rintro _ ⟨⟩)
              have stillUnique : KeyUnique (fun row : PaymentRow => row.id)
                  middle.outgoingPayments := by
                rw [Db.afterMove_outgoingPayments]
                exact unique.update fun _ => rfl
              have there : pending ∈ middle.outgoingPayments := by
                rw [written]
                exact mem_updateWhere.mpr ⟨row, member, if_pos rfl⟩
              have named : row.toPaymentRecord.id = pending.id := rfl
              obtain ⟨after, settled, rows⟩ :=
                settlePayment_eq times stillUnique there named second fits
              refine ⟨after, ?_, ?_⟩
              · simp only [reconcilePayment, final, decided, passes, Bool.false_eq_true, if_false,
                  if_true, passed, settled]
                rfl
              · rw [rows, written]
                refine (List.map_map ..).trans (List.map_congr_left ?_)
                intro other _
                by_cases here : other.id = row.id
                · have taken : (if other.id = row.id then pending else other) = pending :=
                    if_pos here
                  rw [Function.comp_apply, taken, if_pos here]
                  exact if_pos rfl
                · have kept : (if other.id = row.id then pending else other) = other :=
                    if_neg here
                  rw [Function.comp_apply, kept, if_neg here]
                  exact if_neg here

/-! ## The loop -/

/-- The loop rewrites the rows it visits. -/
theorem reconcileLoop_eq (times : String → StepTimes) (fees : FeesFit nodeView)
    {visited : List PaymentRow} {db : Db}
    (unique : KeyUnique (fun row : PaymentRow => row.id) db.outgoingPayments)
    (distinct : KeyUnique (fun row : PaymentRow => row.id) visited)
    (present : ∀ row ∈ visited, row ∈ db.outgoingPayments) (changed : ℕ) : ∃ count after,
      reconcileLoop times nodeView (visited.map fun row => row.toPaymentRecord) changed db =
        (.ok count, after) ∧
      after.outgoingPayments = updateWhere (fun row => row.id ∈ visited.map fun row => row.id)
        (settledRow times nodeView) db.outgoingPayments := by
  induction visited generalizing db changed with
  | nil =>
      refine ⟨changed, db, rfl, ?_⟩
      refine (updateWhere_of_none ?_).symm
      rintro _ _ ⟨⟩
  | cons row rest ih =>
      obtain ⟨fresh, restDistinct⟩ := List.nodup_cons.mp distinct
      obtain ⟨middle, settled, rows⟩ :=
        reconcilePayment_eq times unique (present row List.mem_cons_self) fees
      have stillUnique : KeyUnique (fun row : PaymentRow => row.id) middle.outgoingPayments := by
        rw [rows, ← updateWhere_const unique (present row List.mem_cons_self)]
        exact unique.update settledRow_id
      -- The rows still to be visited have other identifiers, so the head's step left them.
      have stillThere : ∀ other ∈ rest, other ∈ middle.outgoingPayments := by
        intro other member
        have differs : other.id ≠ row.id := by
          intro same
          exact fresh (List.mem_map.mpr ⟨other, member, same⟩)
        rw [rows]
        exact mem_updateWhere.mpr
          ⟨other, present other (List.mem_cons_of_mem _ member), if_neg differs⟩
      obtain ⟨count, after, ran, written⟩ := ih stillUnique restDistinct stillThere
        (if (settledRow times nodeView row).toPaymentRecord.status = row.toPaymentRecord.status
          then changed else changed + 1)
      refine ⟨count, after, ?_, ?_⟩
      · simp only [List.map_cons, reconcileLoop, settled]
        exact ran
      · rw [written, rows, ← updateWhere_const unique (present row List.mem_cons_self)]
        refine (List.map_map ..).trans (List.map_congr_left ?_)
        intro other _
        by_cases here : other.id = row.id
        · have first : other.id ∈ (row :: rest).map fun row => row.id :=
            List.mem_cons.mpr (.inl here)
          have later : (settledRow times nodeView other).id ∉ rest.map fun row => row.id := by
            rw [settledRow_id, here]
            exact fresh
          rw [Function.comp_apply, if_pos here, if_pos first, if_neg later]
        · have same : other.id ∈ (row :: rest).map (fun row => row.id) ↔
              other.id ∈ rest.map fun row => row.id := by
            rw [List.map_cons, List.mem_cons]
            exact or_iff_right here
          rw [Function.comp_apply, if_neg here]
          simp only [same]

/-- A loop over payments with nothing to do changes nothing. -/
theorem reconcileLoop_quiet {payments : List PaymentRecord}
    (quiet : ∀ payment ∈ payments, payment.status.isFinal = false →
      reconcileDecision payment.status (nodeView payment.paymentHash) = none)
    (changed : ℕ) (db : Db) :
    reconcileLoop times nodeView payments changed db = (.ok changed, db) := by
  induction payments generalizing changed with
  | nil => rfl
  | cons payment rest ih =>
      have same : reconcilePayment times nodeView payment db = (.ok payment, db) := by
        cases final : payment.status.isFinal with
        | true => rw [reconcilePayment, if_pos final]
        | false =>
            have undecided := quiet payment List.mem_cons_self final
            simp only [reconcilePayment, final, undecided, Bool.false_eq_true, if_false]
      simp only [reconcileLoop, same, if_true]
      exact ih (fun other member => quiet other (List.mem_cons_of_mem _ member)) changed

end Passes

/-- The payments a pass visits are the open rows, each once. -/
theorem exists_visited {db : Db}
    (unique : KeyUnique (fun row : PaymentRow => row.id) db.outgoingPayments) : ∃ visited,
    db.unresolvedPayments = visited.map (fun row => row.toPaymentRecord) ∧
      KeyUnique (fun row : PaymentRow => row.id) visited ∧
      ∀ row, row ∈ visited ↔ row ∈ db.outgoingPayments ∧ row.status.isFinal = false := by
  refine ⟨_, rfl, ?_, ?_⟩
  · rw [KeyUnique, ((List.perm_insertionSort _ _).map _).nodup_iff]
    exact unique.filter _
  · intro row
    rw [List.mem_insertionSort, List.mem_filter, decide_eq_true_iff]
    rfl

/-- What a pass writes. -/
theorem reconcileAll_eq (times : String → StepTimes) {nodeView : String → Option NodePayment}
    (fees : FeesFit nodeView) {db : Db}
    (unique : KeyUnique (fun row : PaymentRow => row.id) db.outgoingPayments) :
    ∃ count after, reconcileAll times nodeView db = (.ok count, after) ∧
      after.outgoingPayments = db.outgoingPayments.map (settledRow times nodeView) := by
  obtain ⟨visited, read, distinct, mem_visited⟩ := exists_visited unique
  obtain ⟨count, after, ran, written⟩ := reconcileLoop_eq times fees unique distinct
    (fun row member => ((mem_visited row).mp member).1) 0
  refine ⟨count, after, ?_, ?_⟩
  · rw [reconcileAll, read]
    exact ran
  · rw [written]
    refine List.map_congr_left ?_
    intro row member
    cases final : row.status.isFinal with
    | true =>
        rw [settledRow_of_final final, ite_self]
    | false =>
        have open_ : row ∈ visited := (mem_visited row).mpr ⟨member, final⟩
        exact if_pos (List.mem_map_of_mem open_)

/-- **A pass brings every payment in line with the node, and a second one finds nothing
to do.** -/
theorem reconcileAll_settles (times : String → StepTimes)
    (nodeView : String → Option NodePayment) (fees : FeesFit nodeView) {db : Db}
    (unique : KeyUnique (fun row : PaymentRow => row.id) db.outgoingPayments) :
    ∃ count after, reconcileAll times nodeView db = (.ok count, after) ∧
      List.Forall₂ (Reconciled nodeView) db.outgoingPayments after.outgoingPayments ∧
      ∀ later : String → StepTimes, reconcileAll later nodeView after = (.ok 0, after) := by
  obtain ⟨count, after, ran, written⟩ := reconcileAll_eq times fees unique
  refine ⟨count, after, ran, ?_, ?_⟩
  · rw [written, List.forall₂_map_right_iff]
    exact List.forall₂_same.mpr fun row _ => settledRow_reconciled times nodeView row
  · intro later
    refine reconcileLoop_quiet ?_ 0 after
    intro payment unresolved stillOpen
    obtain ⟨row, there, rfl⟩ := Db.mem_unresolvedPayments unresolved
    rw [written] at there
    obtain ⟨old, _, rfl⟩ := List.mem_map.mp there
    exact settledRow_undecided old stillOpen

/-- Three open payments: the node paid the hash two of them share, and has no record
of the third. -/
theorem reconcileAll_settles_sharedHash :
    let payment (id paymentHash : String) (status : PaymentStatus) : PaymentRow :=
      { id, projectId := "proj_1", idempotencyKey := id, bolt11 := "lntb1", paymentHash,
        amountMsat := 1000, feeMsat := none, status, failureReason := none, preimage := none,
        metadata := .null, createdAt := 0, updatedAt := 0, requestHash := [] }
    let db : Db := { outgoingPayments :=
      [payment "pay_1" "shared" .created, payment "pay_2" "shared" .pending,
        payment "pay_3" "alone" .pending] }
    let nodeView (paymentHash : String) : Option NodePayment :=
      if paymentHash = "shared" then some ⟨.succeeded, some "preimage", some 7⟩ else none
    let times : String → StepTimes := fun _ => ⟨1, 2⟩
    ∃ count after, reconcileAll times nodeView db = (.ok count, after) ∧
      List.Forall₂ (Reconciled nodeView) db.outgoingPayments after.outgoingPayments ∧
      ∀ later : String → StepTimes, reconcileAll later nodeView after = (.ok 0, after) := by
  intro payment db nodeView times
  have fees : FeesFit nodeView := by
    intro paymentHash found fee view given
    by_cases shared : paymentHash = "shared"
    · simp only [nodeView, if_pos shared, Option.some.injEq] at view
      rw [← view] at given
      cases given
      decide
    · simp only [nodeView, if_neg shared] at view
      cases view
  have unique : KeyUnique (fun row : PaymentRow => row.id) db.outgoingPayments := by
    simp [KeyUnique, db, payment]
  exact reconcileAll_settles times nodeView fees unique

end Safrod
