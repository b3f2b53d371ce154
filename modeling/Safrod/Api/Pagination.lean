import Safrod.Api.Lists
import Safrod.Engine.Decisions
import Safrod.Library.Text
import Safrod.Storage.InvoiceHistory
import Safrod.Storage.PaymentHistory

/-!
# Walks over the list endpoints

A client reads a list to its end by giving each `next_cursor` as `starting_after` (`walk`).

* Of invoices and payments it receives every row that was there at the start, once and in
  order, whatever is inserted meanwhile (`walk_lists_each_once`).
* The other two lists do not read the cursor, so a walk ends only when one page holds them
  (`walk_ends_iff`).
-/

set_option autoImplicit false

namespace Safrod

open Table

/-! ## A walk -/

/-- The pages from the `n`-th request on, as far as the fuel goes. -/
def walk {ε : Type} (request : ℕ → Option String → Except ε ListBody) :
    ℕ → ℕ → Option String → Except ε (List ListBody)
  | 0, _, _ => .ok []
  | fuel + 1, n, startingAfter => do
      let body ← request n startingAfter
      match body.nextCursor with
      | none => .ok [body]
      | some cursor =>
          let rest ← walk request fuel (n + 1) (some cursor)
          .ok (body :: rest)

section Requests

variable {ε : Type} {request : ℕ → Option String → Except ε ListBody} {fuel n : ℕ}
  {startingAfter : Option String} {body : ListBody}

theorem walk_end (answered : request n startingAfter = .ok body)
    (noMore : body.nextCursor = none) : walk request (fuel + 1) n startingAfter = .ok [body] := by
  simp only [walk, answered, bind, Except.bind, noMore]

theorem walk_next (answered : request n startingAfter = .ok body) {cursor : String}
    (more : body.nextCursor = some cursor) {rest : List ListBody}
    (rested : walk request fuel (n + 1) (some cursor) = .ok rest) :
    walk request (fuel + 1) n startingAfter = .ok (body :: rest) := by
  simp only [walk, answered, bind, Except.bind, more, rested]

end Requests

/-- The last page has no more. -/
def Ended (pages : List ListBody) : Prop :=
  ∃ last, pages.getLast? = some last ∧ last.hasMore = false

/-! ## Tables across requests -/

/-- A row keeps its identifier, its project and its time of creation. -/
def Keeps {Row : Type} (id : Row → String) (project : Row → String) (createdAt : Row → DateTime)
    (before after : List Row) : Prop :=
  ∀ row ∈ before, ∃ later ∈ after,
    id later = id row ∧ project later = project row ∧ createdAt later = createdAt row

/-- The table that each request reads. From some request on no row is inserted. -/
structure Inserting {Row : Type} (id : Row → String) (project : Row → String)
    (createdAt : Row → DateTime) (tables : ℕ → List Row) : Prop where
  unique : ∀ n, KeyUnique id (tables n)
  kept : ∀ n, Keeps id project createdAt (tables n) (tables (n + 1))
  finite : ∃ final, ∀ n, final ≤ n → ∀ row ∈ tables n, ∃ earlier ∈ tables final,
    id earlier = id row

section Walk

variable {Row : Type} {id : Row → String} {project : Row → String} {createdAt : Row → DateTime}
  {tables : ℕ → List Row}

namespace Keeps

variable {before middle after : List Row}

theorem refl (rows : List Row) : Keeps id project createdAt rows rows :=
  fun row member => ⟨row, member, rfl, rfl, rfl⟩

theorem trans (first : Keeps id project createdAt before middle)
    (second : Keeps id project createdAt middle after) :
    Keeps id project createdAt before after := by
  intro row member
  obtain ⟨same, there, sameId, sameProject, sameTime⟩ := first row member
  obtain ⟨later, here, laterId, laterProject, laterTime⟩ := second same there
  exact ⟨later, here, laterId.trans sameId, laterProject.trans sameProject,
    laterTime.trans sameTime⟩

theorem append (more : List Row) : Keeps id project createdAt before (before ++ more) :=
  fun row member => ⟨row, List.mem_append_left _ member, rfl, rfl, rfl⟩

theorem update (chosen : Row → Prop) [DecidablePred chosen] {set : Row → Row}
    (kept : ∀ row, id (set row) = id row ∧ project (set row) = project row ∧
      createdAt (set row) = createdAt row) :
    Keeps id project createdAt before (updateWhere chosen set before) := by
  intro row member
  refine ⟨_, mem_updateWhere.mpr ⟨row, member, rfl⟩, ?_⟩
  split
  · exact kept row
  · exact ⟨rfl, rfl, rfl⟩

end Keeps

namespace Inserting

theorem kept_run (inserting : Inserting id project createdAt tables) {n later : ℕ}
    (order : n ≤ later) : Keeps id project createdAt (tables n) (tables later) := by
  induction later, order using Nat.le_induction with
  | base => exact .refl _
  | succ later _ ih => exact ih.trans (inserting.kept later)

/-- An identifier belongs to one project and one time throughout. -/
theorem of_id (inserting : Inserting id project createdAt tables) {n m : ℕ} {row other : Row}
    (member : row ∈ tables n) (there : other ∈ tables m) (same : id row = id other) :
    project row = project other ∧ createdAt row = createdAt other := by
  obtain ⟨one, stored, oneId, oneProject, oneTime⟩ :=
    inserting.kept_run (Nat.le_max_left n m) row member
  obtain ⟨two, alsoStored, twoId, twoProject, twoTime⟩ :=
    inserting.kept_run (Nat.le_max_right n m) other there
  have equal : one = two := (inserting.unique _).eq_of_key stored alsoStored
    (oneId.trans (same.trans twoId.symm))
  subst equal
  exact ⟨oneProject.symm.trans twoProject, oneTime.symm.trans twoTime⟩

/-- The rows of one project grow in the order of their list. -/
theorem growing (inserting : Inserting id project createdAt tables) (collation : Collation)
    (projectId : String) : Growing (collation.stamp id createdAt)
      fun n => (tables n).filter fun row => project row = projectId := by
  have stamped : ∀ {n m row other}, row ∈ tables n → project row = projectId →
      other ∈ tables m → id other = id row →
      other ∈ (tables m).filter (fun row => project row = projectId) ∧
        collation.stamp id createdAt other = collation.stamp id createdAt row := by
    intro n m row other member own there same
    obtain ⟨sameProject, sameTime⟩ := inserting.of_id there member same
    refine ⟨List.mem_filter.mpr ⟨there, ?_⟩, (collation.stamp_inj id createdAt).mpr
      ⟨sameTime, same⟩⟩
    rw [sameProject, own, decide_eq_true rfl]
  obtain ⟨final, finite⟩ := inserting.finite
  refine ⟨fun n => ?_, fun n row member => ?_, final, fun n row member => ?_⟩
  · exact ((inserting.unique n).of_determines fun _ _ same =>
      ((collation.stamp_inj id createdAt).mp same).2).filter _
  · obtain ⟨stored, own⟩ := List.mem_filter.mp member
    obtain ⟨later, there, same, -⟩ := inserting.kept n row stored
    exact ⟨later, stamped stored (of_decide_eq_true own) there same⟩
  · obtain ⟨stored, own⟩ := List.mem_filter.mp member
    obtain ⟨other, there, same⟩ : ∃ other ∈ tables final, id other = id row := by
      rcases Nat.le_total n final with earlier | later
      · obtain ⟨other, there, same, -⟩ := inserting.kept_run earlier row stored
        exact ⟨other, there, same⟩
      · exact finite n later row stored
    exact ⟨other, stamped stored (of_decide_eq_true own) there same⟩

end Inserting

/-! ## A walk over the newest rows -/

/-- The walk ends, and its rows descend in `(created_at, id)`. None is returned twice, each is
a row of the list, and every row that the list started with is returned. -/
def ListsEachOnce {ε : Type} (request : ℕ → Option String → Except ε ListBody)
    (collation : Collation) (id : Row → String) (createdAt : Row → DateTime)
    (toJson : Row → Value) (stored : ℕ → List Row) : Prop :=
  ∃ (fuel : ℕ) (pages : List ListBody) (rows : List Row),
    walk request fuel 0 none = .ok pages ∧ Ended pages ∧
    pages.flatMap (·.data) = rows.map toJson ∧
    (rows.Pairwise fun first second =>
      collation.stamp id createdAt second < collation.stamp id createdAt first) ∧
    (rows.map id).Nodup ∧ (∀ row ∈ rows, ∃ n, row ∈ stored n) ∧
    ∀ row ∈ stored 0, (rows.map id).count (id row) = 1

variable {ε : Type} {request : ℕ → Option String → Except ε ListBody} {page : Page}
  {collation : Collation} {toJson : Row → Value} {projectId : String}

theorem wrap_short {rows : List Row} (short : rows.length ≤ page.limit) :
    page.wrap rows toJson id = ⟨rows.map toJson, false, none⟩ := by
  have notMore : ¬ page.limit < rows.length := Nat.not_lt.mpr short
  simp only [Page.wrap, List.take_of_length_le short, notMore, decide_false, if_false]

theorem wrap_full {rows : List Row} {last : Row} (full : page.limit < rows.length)
    (shown : (rows.take page.limit).getLast? = some last) :
    page.wrap rows toJson id = ⟨(rows.take page.limit).map toJson, true, some (id last)⟩ := by
  simp only [Page.wrap, full, decide_true, if_true, shown, Option.map_some]

/-- The cursor of a row that is still stored starts below that row. -/
theorem newestAfter_some (inserting : Inserting id project createdAt tables) {n m : ℕ} {last : Row}
    (stored : last ∈ (tables n).filter fun row => project row = projectId) (later : n ≤ m)
    (limit : ℕ) :
    collation.newestAfter id createdAt (some (id last)) limit
        ((tables m).filter fun row => project row = projectId) =
      pageBelow (collation.stamp id createdAt) (collation.stamp id createdAt last) limit
        ((tables m).filter fun row => project row = projectId) := by
  obtain ⟨member, own⟩ := List.mem_filter.mp stored
  obtain ⟨same, there, sameId, sameProject, -⟩ := inserting.kept_run later last member
  have kept : same ∈ (tables m).filter fun row => project row = projectId := by
    refine List.mem_filter.mpr ⟨there, ?_⟩
    rw [sameProject]
    exact own
  obtain ⟨found, result⟩ := lookup_isSome_of_mem id kept
  rw [sameId] at result
  obtain ⟨foundMember, foundId⟩ := lookup_some result
  have sameStamp : collation.stamp id createdAt found = collation.stamp id createdAt last :=
    (collation.stamp_inj id createdAt).mpr
      ⟨(inserting.of_id (List.mem_filter.mp foundMember).1 member foundId).2, foundId⟩
  simp only [Collation.newestAfter, result, sameStamp]

/-- A walk over the endpoint returns the pages of a walk over the table. -/
theorem walk_pages (inserting : Inserting id project createdAt tables)
    (answers : ∀ n startingAfter, request n startingAfter = .ok (page.wrap
      (collation.newestAfter id createdAt startingAfter page.fetch
        ((tables n).filter fun row => project row = projectId)) toJson id))
    {n : ℕ} {bound : WithTop (DateTime ×ₗ List ℕ)} {pages : List (List Row)}
    (walks : Walk (collation.stamp id createdAt) page.limit
      (fun n => (tables n).filter fun row => project row = projectId) n bound pages)
    (startingAfter : Option String)
    (here : collation.newestAfter id createdAt startingAfter page.fetch
        ((tables n).filter fun row => project row = projectId) =
      pageBelow (collation.stamp id createdAt) bound page.fetch
        ((tables n).filter fun row => project row = projectId)) :
    ∃ bodies, walk request pages.length n startingAfter = .ok bodies ∧ Ended bodies ∧
      bodies.flatMap (·.data) = pages.flatten.map toJson := by
  induction walks generalizing startingAfter with
  | @last n bound short =>
      have answered := answers n startingAfter
      rw [here, Page.fetch, wrap_short short] at answered
      refine ⟨_, walk_end answered rfl, ⟨_, rfl, rfl⟩, ?_⟩
      rw [List.flatMap_singleton, List.flatten_singleton]
  | @more n bound last rest full shown further ih =>
      have answered := answers n startingAfter
      rw [here, Page.fetch, wrap_full full shown] at answered
      have stored := (mem_allBelow _).mp
        (List.mem_of_mem_take (List.mem_of_mem_take (List.mem_of_getLast? shown)))
      obtain ⟨bodies, rested, ⟨final, ends, done⟩, data⟩ :=
        ih (some (id last)) (newestAfter_some inserting stored.1 (Nat.le_succ n) page.fetch)
      refine ⟨_, walk_next answered rfl rested, ⟨final, ?_, done⟩, ?_⟩
      · rw [List.getLast?_cons, ends]
        rfl
      · rw [List.flatMap_cons, data, List.flatten_cons, List.map_append]

/-- **A walk over the newest rows of a project lists each once.** -/
theorem lists_each_once (inserting : Inserting id project createdAt tables)
    (positive : 0 < page.limit)
    (answers : ∀ n startingAfter, request n startingAfter = .ok (page.wrap
      (collation.newestAfter id createdAt startingAfter page.fetch
        ((tables n).filter fun row => project row = projectId)) toJson id)) :
    ListsEachOnce request collation id createdAt toJson
      fun n => (tables n).filter fun row => project row = projectId := by
  have growing := inserting.growing collation projectId
  obtain ⟨pages, walks⟩ := growing.exists_walk positive 0 ⊤
  obtain ⟨bodies, walked, ended, data⟩ := walk_pages inserting answers walks none rfl
  have descending := walks.descending growing.distinct
  have distinct : (pages.flatten.map id).Nodup := by
    refine List.pairwise_map.mpr (descending.imp_of_mem ?_)
    intro first second firstMember secondMember below same
    obtain ⟨n, stored⟩ := walks.mem_snapshot firstMember
    obtain ⟨m, there⟩ := walks.mem_snapshot secondMember
    have sameTime := (inserting.of_id (List.mem_filter.mp stored).1 (List.mem_filter.mp there).1
      same).2
    exact below.ne ((collation.stamp_inj id createdAt).mpr ⟨sameTime.symm, same.symm⟩)
  refine ⟨_, bodies, pages.flatten, walked, ended, data, descending, distinct,
    fun row member => walks.mem_snapshot member, fun row stored => ?_⟩
  obtain ⟨returned, member, same⟩ := walks.complete growing stored (WithTop.coe_lt_top _)
  refine List.count_eq_one_of_mem distinct ?_
  rw [← ((collation.stamp_inj id createdAt).mp same).2]
  exact List.mem_map_of_mem member

end Walk

/-! ## Invoices and payments -/

theorem Db.InvoicesChanged.keeps {db : Db} {rows : List InvoiceRow}
    (changed : Db.InvoicesChanged db rows) :
    Keeps (fun row : InvoiceRow => row.id) (·.projectId) (·.createdAt) db.invoices rows := by
  cases changed with
  | same kept =>
      rw [kept]
      exact .refl _
  | inserted now new fresh added =>
      rw [added]
      exact .append _
  | paid now received row member stillOpen set =>
      rw [set]
      exact .update _ fun old => ⟨rfl, rfl, rfl⟩
  | expired now set =>
      rw [set]
      exact .update _ fun old => ⟨rfl, rfl, rfl⟩

theorem Db.PaymentsChanged.keeps {db : Db} {rows : List PaymentRow}
    (changed : Db.PaymentsChanged db rows) :
    Keeps (fun row : PaymentRow => row.id) (·.projectId) (·.createdAt) db.outgoingPayments
      rows := by
  cases changed with
  | same kept =>
      rw [kept]
      exact .refl _
  | begun now new keyFree idFree added =>
      rw [added]
      exact .append _
  | moved now next fee resolution row found legal set =>
      rw [set]
      exact .update _ fun old => ⟨rfl, rfl, rfl⟩

section Storage

variable {dbs : ℕ → Db}

/-- Between two requests any storage calls are made, and finitely many of them insert. -/
theorem storage_inserting {Row : Type} {id : Row → String} {project : Row → String}
    {createdAt : Row → DateTime} (table : Db → List Row)
    (unique : ∀ db, storage.Reachable db → KeyUnique id (table db))
    (keeps : ∀ call db, Keeps id project createdAt (table db) (table (db.perform call)))
    (start : storage.Reachable (dbs 0)) (runs : ∀ n, storage.Leads (dbs n) (dbs (n + 1)))
    (finite : ∃ final, ∀ n, final ≤ n → ∀ row ∈ table (dbs n),
      ∃ earlier ∈ table (dbs final), id earlier = id row) :
    Inserting id project createdAt fun n => table (dbs n) := by
  have reached : ∀ n, storage.Reachable (dbs n) := by
    intro n
    induction n with
    | zero => exact start
    | succ n ih => exact ih.leads (runs n)
  refine ⟨fun n => unique _ (reached n), fun n => ?_, finite⟩
  refine Machine.Leads.induct
    (fun earlier later => Keeps id project createdAt (table earlier) (table later))
    (fun db => .refl _) (fun _ _ _ => Keeps.trans) ?_ (reached n) (runs n)
  intro db call next _ step
  cases step
  exact keeps call db

theorem invoices_inserting (start : storage.Reachable (dbs 0))
    (runs : ∀ n, storage.Leads (dbs n) (dbs (n + 1)))
    (finite : ∃ final, ∀ n, final ≤ n → ∀ row ∈ (dbs n).invoices,
      ∃ earlier ∈ (dbs final).invoices, earlier.id = row.id) :
    Inserting (fun row : InvoiceRow => row.id) (·.projectId) (·.createdAt)
      fun n => (dbs n).invoices :=
  storage_inserting (fun db => db.invoices) (fun _ => Db.invoiceIds_of_reachable)
    (fun call db => (Db.perform_performed call db).invoices.keeps) start runs finite

theorem payments_inserting (start : storage.Reachable (dbs 0))
    (runs : ∀ n, storage.Leads (dbs n) (dbs (n + 1)))
    (finite : ∃ final, ∀ n, final ≤ n → ∀ row ∈ (dbs n).outgoingPayments,
      ∃ earlier ∈ (dbs final).outgoingPayments, earlier.id = row.id) :
    Inserting (fun row : PaymentRow => row.id) (·.projectId) (·.createdAt)
      fun n => (dbs n).outgoingPayments :=
  storage_inserting (fun db => db.outgoingPayments)
    (fun _ reached => (Db.paymentKeys_of_reachable reached).ids)
    (fun call db => (Db.perform_performed call db).payments.keeps) start runs finite

end Storage

section Lists

variable (collation : Collation) (network : Network) (dbs : ℕ → Db) (projectId : String)

/-- **Walking the invoices, or the payments, lists each once.** -/
theorem walk_lists_each_once {limit : ℤ} (least : 1 ≤ limit) (most : limit ≤ 100) :
    (Inserting (fun row : InvoiceRow => row.id) (·.projectId) (·.createdAt)
        (fun n => (dbs n).invoices) →
      ListsEachOnce
        (fun n startingAfter => listInvoices collation (dbs n) projectId ⟨limit, startingAfter⟩)
        collation (fun row : InvoiceRow => row.id) (·.createdAt)
        (fun row => Json.invoice row.toInvoiceRecord)
        fun n => (dbs n).invoices.filter fun row => row.projectId = projectId) ∧
    (Inserting (fun row : PaymentRow => row.id) (·.projectId) (·.createdAt)
        (fun n => (dbs n).outgoingPayments) →
      ListsEachOnce
        (fun n startingAfter =>
          listPayments collation (dbs n) projectId ⟨limit, startingAfter⟩ network)
        collation (fun row : PaymentRow => row.id) (·.createdAt)
        (fun row => Json.payment row.toPaymentRecord (revealPreimage network))
        fun n => (dbs n).outgoingPayments.filter fun row => row.projectId = projectId) := by
  obtain ⟨page, valid, positive, -⟩ := Page.fromQuery_some least most
  refine ⟨fun inserting => ?_, fun inserting => ?_⟩
  · refine lists_each_once inserting positive fun n startingAfter => ?_
    simp only [listInvoices, valid, bind, Except.bind, Db.listInvoices, Page.wrap_map]
  · refine lists_each_once inserting positive fun n startingAfter => ?_
    simp only [listPayments, valid, bind, Except.bind, Db.listPayments, Page.wrap_map]

end Lists

/-! ## An insert between two requests -/

/-- The bytes of a text in their order. -/
def byteOrder : Collation where
  sortKey text := text.toUTF8.toList.map (·.toNat)
  injective _ _ same :=
    Text.utf8_inj (List.map_injective_iff.mpr (fun _ _ => UInt8.toNat_inj.mp) same)

theorem Inserting.once {Row : Type} {id : Row → String} {project : Row → String}
    {createdAt : Row → DateTime} (rows more : List Row) (unique : KeyUnique id (rows ++ more)) :
    Inserting id project createdAt fun n => if n = 0 then rows else rows ++ more := by
  refine ⟨fun n => ?_, fun n => ?_, 1, fun n later row member => ?_⟩
  · cases n with
    | zero => exact List.Nodup.sublist ((List.sublist_append_left rows more).map id) unique
    | succ n => exact unique
  · cases n with
    | zero => exact .append more
    | succ n => exact .refl _
  · cases n with
    | zero => cases later
    | succ n => exact ⟨row, member, rfl⟩

def listedInvoice (id : String) : InvoiceRow where
  id := id
  projectId := "prj_1"
  idempotencyKey := none
  amountMsat := 1000
  description := ""
  bolt11 := regtestBolt11
  paymentHash := id
  status := .open_
  expiresAt := regtestMade + 3_600_000_000
  paidAt := none
  amountReceivedMsat := none
  metadata := .object []
  createdAt := regtestMade
  updatedAt := regtestMade

def listedPayment (id : String) : PaymentRow where
  id := id
  projectId := "prj_1"
  idempotencyKey := id
  bolt11 := regtestBolt11
  paymentHash := regtestInvoice.paymentHash
  amountMsat := 5_000_000
  feeMsat := none
  status := .created
  failureReason := none
  preimage := none
  metadata := .object []
  createdAt := regtestMade
  updatedAt := regtestMade
  requestHash := regtestDigest

/-- Between the first page and the second a row appears that sorts between them. -/
def insertedBetween (n : ℕ) : Db where
  invoices :=
    if n = 0 then [listedInvoice "inv_1", listedInvoice "inv_3"]
    else [listedInvoice "inv_1", listedInvoice "inv_3"] ++ [listedInvoice "inv_2"]
  outgoingPayments :=
    if n = 0 then [listedPayment "pay_1", listedPayment "pay_3"]
    else [listedPayment "pay_1", listedPayment "pay_3"] ++ [listedPayment "pay_2"]

theorem walk_lists_each_once_between :
    ListsEachOnce
      (fun n startingAfter =>
        listInvoices byteOrder (insertedBetween n) "prj_1" ⟨some 1, startingAfter⟩)
      byteOrder (fun row : InvoiceRow => row.id) (·.createdAt)
      (fun row => Json.invoice row.toInvoiceRecord)
      (fun n => (insertedBetween n).invoices.filter fun row => row.projectId = "prj_1") ∧
    ListsEachOnce
      (fun n startingAfter =>
        listPayments byteOrder (insertedBetween n) "prj_1" ⟨some 1, startingAfter⟩ .regtest)
      byteOrder (fun row : PaymentRow => row.id) (·.createdAt)
      (fun row => Json.payment row.toPaymentRecord (revealPreimage .regtest))
      (fun n => (insertedBetween n).outgoingPayments.filter fun row =>
        row.projectId = "prj_1") := by
  obtain ⟨invoices, payments⟩ :=
    walk_lists_each_once byteOrder .regtest insertedBetween "prj_1" (le_refl 1)
      (by decide : (1 : ℤ) ≤ 100)
  refine ⟨invoices (.once _ _ ?_), payments (.once _ _ ?_)⟩
  · rw [KeyUnique]
    decide
  · rw [KeyUnique]
    decide

/-! ## Lists that do not read the cursor -/

/-- The walk ends, and what it returns is the rows of the list. -/
def Returns {ε Row : Type} (request : Option String → Except ε ListBody) (toJson : Row → Value)
    (stored : List Row) : Prop :=
  ∃ (fuel : ℕ) (pages : List ListBody) (rows : List Row),
    walk (fun _ => request) fuel 0 none = .ok pages ∧ Ended pages ∧
    pages.flatMap (·.data) = rows.map toJson ∧ rows.Perm stored

/-- When the first page is answered again and again, and has more, the walk goes on. -/
theorem all_of_same {ε : Type} {request : ℕ → Option String → Except ε ListBody}
    {body : ListBody} (same : ∀ n startingAfter, request n startingAfter = .ok body)
    {cursor : String} (more : body.nextCursor = some cursor) {fuel n : ℕ}
    {startingAfter : Option String} {pages : List ListBody}
    (walked : walk request fuel n startingAfter = .ok pages) : ∀ page ∈ pages, page = body := by
  induction fuel generalizing n startingAfter pages with
  | zero =>
      cases walked
      intro page member
      cases member
  | succ fuel ih =>
      rw [walk, same] at walked
      simp only [bind, Except.bind, more] at walked
      cases further : walk request fuel (n + 1) (some cursor) with
      | error e =>
          rw [further] at walked
          cases walked
      | ok rest =>
          rw [further] at walked
          cases walked
          intro page member
          rcases List.mem_cons.mp member with first | later
          · exact first
          · exact ih further page later

section Newest

variable {Row : Type} {id : Row → String} {time : Row → DateTime} {collation : Collation}
  {rows : List Row} {page : Page}

theorem newest_perm (short : rows.length ≤ page.limit) :
    (collation.newest id time page.fetch rows).Perm rows := by
  have all : rows.filter (fun row =>
      (collation.stamp id time row : WithTop (DateTime ×ₗ List ℕ)) < ⊤) = rows :=
    List.filter_eq_self.mpr fun row _ => decide_eq_true (WithTop.coe_lt_top _)
  have whole : collation.newest id time page.fetch rows =
      allBelow (collation.stamp id time) ⊤ rows := by
    refine pageBelow_of_short _ ?_
    rw [pageBelow_eq_take, List.length_take, allBelow, all, List.length_insertionSort]
    omega
  rw [whole, allBelow, all]
  exact List.perm_insertionSort _ rows

theorem length_newest : (collation.newest id time page.fetch rows).length =
    min (page.limit + 1) rows.length := by
  have all : rows.filter (fun row =>
      (collation.stamp id time row : WithTop (DateTime ×ₗ List ℕ)) < ⊤) = rows :=
    List.filter_eq_self.mpr fun row _ => decide_eq_true (WithTop.coe_lt_top _)
  rw [Collation.newest, pageBelow_eq_take, List.length_take, allBelow, all,
    List.length_insertionSort, Page.fetch]

/-- **A walk that is given no cursor ends when one page holds the list.** -/
theorem returns_iff {ε : Type} {request : Option String → Except ε ListBody} {toJson : Row → Value}
    (positive : 0 < page.limit)
    (answers : ∀ startingAfter, request startingAfter = .ok
      (page.wrap (collation.newest id time page.fetch rows) toJson id)) :
    Returns request toJson rows ↔ rows.length ≤ page.limit := by
  constructor
  · rintro ⟨fuel, pages, shown, walked, ended, -⟩
    refine Nat.not_lt.mp fun more => ?_
    have full : page.limit < (collation.newest id time page.fetch rows).length := by
      rw [length_newest]
      omega
    obtain ⟨last, found⟩ := exists_last_of_full positive full
    have same : ∀ (n : ℕ) startingAfter, request startingAfter = .ok
        ⟨((collation.newest id time page.fetch rows).take page.limit).map toJson, true,
          some (id last)⟩ := by
      intro n startingAfter
      rw [answers, wrap_full full found]
    obtain ⟨final, ends, done⟩ := ended
    rw [all_of_same same rfl walked final (List.mem_of_getLast? ends)] at done
    cases done
  · intro short
    have answered : request none = .ok ⟨(collation.newest id time page.fetch rows).map toJson,
        false, none⟩ := by
      rw [answers, wrap_short]
      rw [length_newest]
      omega
    refine ⟨1, _, collation.newest id time page.fetch rows,
      walk_end answered rfl, ⟨_, rfl, rfl⟩, ?_, newest_perm short⟩
    rw [List.flatMap_singleton]

end Newest

/-! ## Transactions and deliveries -/

/-- Every transaction came to an address that is stored. -/
def Db.AddressesStored (db : Db) : Prop :=
  ∀ tx ∈ db.onchainTransactions, ∃ address ∈ db.onchainAddresses, address.id = tx.addressId

instance (db : Db) : Decidable db.AddressesStored :=
  inferInstanceAs (Decidable (∀ tx ∈ db.onchainTransactions, ∃ address ∈ db.onchainAddresses,
    address.id = tx.addressId))

/-- A transaction as a page shows it. -/
def Db.transactionJson (db : Db) (tx : OnchainTransactionRecord) : Value :=
  Json.onchainTx tx ((db.addressForTransaction tx.addressId).toOption.getD "")

theorem mapM_eq_ok {ε Row Shown : Type} {show_ : Row → Except ε Shown} {value : Row → Shown}
    {rows : List Row} (done : ∀ row ∈ rows, show_ row = .ok (value row)) :
    rows.mapM show_ = .ok (rows.map value) := by
  induction rows with
  | nil => rfl
  | cons head rest ih =>
      rw [List.mapM_cons, done head List.mem_cons_self,
        ih fun row member => done row (List.mem_cons_of_mem _ member)]
      rfl

theorem listTransactions_eq (collation : Collation) {db : Db} (addresses : db.AddressesStored)
    {page : Page} {limit : Option ℤ} (valid : Page.fromQuery limit = .ok page) (projectId : String)
    (startingAfter : Option String) :
    listTransactions collation db projectId ⟨limit, startingAfter⟩ = .ok (page.wrap
      (db.listOnchainTransactions collation projectId page.fetch) db.transactionJson
      fun tx => tx.id) := by
  have shown : ∀ tx ∈ db.listOnchainTransactions collation projectId page.fetch,
      ((db.addressForTransaction tx.addressId).mapError (·.toApiError)).map
          (fun address => (tx, address)) =
        .ok (tx, (db.addressForTransaction tx.addressId).toOption.getD "") := by
    intro tx member
    obtain ⟨stored, -⟩ := List.mem_filter.mp (mem_of_mem_pageBy _ member)
    obtain ⟨address, there, same⟩ := addresses tx (List.mem_filter.mp stored).1
    obtain ⟨found, result⟩ := lookup_isSome_of_mem (fun row : AddressRecord => row.id) there
    rw [same] at result
    simp only [Db.addressForTransaction, result]
    rfl
  simp only [listTransactions, valid, bind, Except.bind, mapM_eq_ok shown, Page.wrap_map]
  rfl

section Lists

variable (collation : Collation) (db : Db) (projectId : String)

theorem transactions_return_iff (addresses : db.AddressesStored) {page : Page} {limit : Option ℤ}
    (valid : Page.fromQuery limit = .ok page) (positive : 0 < page.limit) :
    Returns (fun startingAfter => listTransactions collation db projectId ⟨limit, startingAfter⟩)
        db.transactionJson
        (db.onchainTransactions.filter fun row => row.projectId = projectId) ↔
      (db.onchainTransactions.filter fun row => row.projectId = projectId).length ≤ page.limit := by
  have answers := listTransactions_eq collation addresses valid projectId
  rw [Db.listOnchainTransactions] at answers
  exact returns_iff positive answers

theorem deliveries_return_iff {page : Page} {limit : Option ℤ}
    (valid : Page.fromQuery limit = .ok page) (positive : 0 < page.limit) :
    Returns (fun startingAfter => listDeliveries collation db projectId ⟨limit, startingAfter⟩)
        Json.delivery (db.webhookDeliveries.filter fun row => db.DeliversTo projectId row) ↔
      (db.webhookDeliveries.filter fun row => db.DeliversTo projectId row).length ≤ page.limit := by
  have answers : ∀ startingAfter, listDeliveries collation db projectId ⟨limit, startingAfter⟩ =
      .ok (page.wrap (db.listDeliveries collation projectId page.fetch) Json.delivery
        fun row => row.id) := by
    intro startingAfter
    simp only [listDeliveries, valid, bind, Except.bind]
  simp only [Db.listDeliveries] at answers
  exact returns_iff positive answers

/-- **Walking the transactions, or the deliveries, ends when one page holds them.** -/
theorem walk_returns_iff {limit : ℤ} (least : 1 ≤ limit) (most : limit ≤ 100)
    (addresses : db.AddressesStored) :
    (Returns (fun startingAfter => listTransactions collation db projectId ⟨limit, startingAfter⟩)
        db.transactionJson
        (db.onchainTransactions.filter fun row => row.projectId = projectId) ↔
      ((db.onchainTransactions.filter fun row => row.projectId = projectId).length : ℤ) ≤ limit) ∧
    (Returns (fun startingAfter => listDeliveries collation db projectId ⟨limit, startingAfter⟩)
        Json.delivery (db.webhookDeliveries.filter fun row => db.DeliversTo projectId row) ↔
      ((db.webhookDeliveries.filter fun row => db.DeliversTo projectId row).length : ℤ) ≤
        limit) := by
  obtain ⟨page, valid, positive, size⟩ := Page.fromQuery_some least most
  rw [transactions_return_iff collation db projectId addresses valid positive,
    deliveries_return_iff collation db projectId valid positive, ← size, Int.ofNat_le,
    Int.ofNat_le]
  exact ⟨Iff.rfl, Iff.rfl⟩

end Lists

/-! ## Two rows and a page of one -/

def listedAddress : AddressRecord where
  id := "adr_1"
  projectId := "prj_1"
  address := "bcrt1qw508d6qejxtdg4y5r3zarvary0c5xw7kygt080"
  label := ""
  requiredConfirmations := 1
  createdAt := regtestMade

def listedTransaction (id txid : String) : OnchainTransactionRecord where
  id := id
  projectId := "prj_1"
  addressId := "adr_1"
  txid := txid
  vout := 0
  amountSat := 5000
  blockHeight := none
  confirmations := 0
  status := .unconfirmed
  firstSeenAt := regtestMade
  updatedAt := regtestMade

def listedEndpoint : WebhookEndpoint where
  id := "whe_1"
  projectId := "prj_1"
  url := "https://merchant.example/hook"
  secret := "whsec_1"
  enabled := true
  createdAt := regtestMade

def listedDelivery (id : String) (eventSeq : ℕ) : DeliveryRecord where
  id := id
  eventSeq := eventSeq
  endpointId := "whe_1"
  status := .pending
  attempts := 0
  nextAttemptAt := regtestMade
  lastStatus := none
  lastError := none
  deliveredAt := none
  createdAt := regtestMade

def twoOfEach : Db where
  onchainAddresses := [listedAddress]
  onchainTransactions := [listedTransaction "txn_1" "aa", listedTransaction "txn_2" "bb"]
  webhookEndpoints := [listedEndpoint]
  webhookDeliveries := [listedDelivery "dlv_1" 1, listedDelivery "dlv_2" 2]

/-- The first page of one row is answered to every cursor. -/
theorem walk_never_returns :
    ¬ Returns
        (fun startingAfter => listTransactions byteOrder twoOfEach "prj_1" ⟨some 1, startingAfter⟩)
        twoOfEach.transactionJson
        (twoOfEach.onchainTransactions.filter fun row => row.projectId = "prj_1") ∧
      ¬ Returns
        (fun startingAfter => listDeliveries byteOrder twoOfEach "prj_1" ⟨some 1, startingAfter⟩)
        Json.delivery
        (twoOfEach.webhookDeliveries.filter fun row => twoOfEach.DeliversTo "prj_1" row) := by
  have valid : Page.fromQuery (some 1) = .ok ⟨1⟩ := rfl
  rw [transactions_return_iff _ _ _ (by decide) valid Nat.one_pos,
    deliveries_return_iff _ _ _ valid Nat.one_pos]
  decide

/-- A page of two holds them. -/
theorem walk_returns_iff_two :
    Returns
        (fun startingAfter => listTransactions byteOrder twoOfEach "prj_1" ⟨some 2, startingAfter⟩)
        twoOfEach.transactionJson
        (twoOfEach.onchainTransactions.filter fun row => row.projectId = "prj_1") ∧
      Returns
        (fun startingAfter => listDeliveries byteOrder twoOfEach "prj_1" ⟨some 2, startingAfter⟩)
        Json.delivery
        (twoOfEach.webhookDeliveries.filter fun row => twoOfEach.DeliversTo "prj_1" row) := by
  obtain ⟨transactions, deliveries⟩ := walk_returns_iff byteOrder twoOfEach "prj_1"
    (by decide : (1 : ℤ) ≤ 2) (by decide) (by decide)
  exact ⟨transactions.mpr (by decide), deliveries.mpr (by decide)⟩

end Safrod
