import Mathlib.Algebra.BigOperators.Group.List.Basic
import Mathlib.Algebra.Ring.Int.Defs
import Mathlib.Data.List.Nodup
import Mathlib.Data.Prod.Basic
import Mathlib.Order.Lattice

/-!
# Tables and transactions

A table is the list of its rows. A key is a column whose values differ from row
to row (`KeyUnique`). An update rewrites the rows that match and leaves the rest
and the order alone (`updateWhere`). The lemmas say what an update does to
membership, to a column it does not write, to a lookup and to a sum over the
rows.

A transaction body works on a copy of the store. It ends by committing the copy,
by returning without a commit, or with an error, and only a commit replaces the
store (`transaction`).
-/

set_option autoImplicit false

universe u v w

/-! ## Tables -/

namespace Table

variable {Row : Type u} {Key : Type v}

/-- `update … set … where …`. -/
def updateWhere (chosen : Row → Prop) [DecidablePred chosen] (set : Row → Row)
    (rows : List Row) : List Row :=
  rows.map fun row => if chosen row then set row else row

/-- No two rows have one key. -/
def KeyUnique (key : Row → Key) (rows : List Row) : Prop :=
  (rows.map key).Nodup

section Update

variable {chosen : Row → Prop} [DecidablePred chosen] {set : Row → Row} {rows : List Row}

theorem mem_updateWhere {row : Row} :
    row ∈ updateWhere chosen set rows ↔
      ∃ old ∈ rows, (if chosen old then set old else old) = row := by
  simp only [updateWhere, List.mem_map]

theorem updateWhere_append (more : List Row) :
    updateWhere chosen set (rows ++ more) =
      updateWhere chosen set rows ++ updateWhere chosen set more := by
  simp only [updateWhere, List.map_append]

/-- A column the update does not write keeps its values, row by row. -/
theorem map_updateWhere {Column : Type w} (column : Row → Column)
    (kept : ∀ row, column (set row) = column row) :
    (updateWhere chosen set rows).map column = rows.map column := by
  simp only [updateWhere, List.map_map]
  refine List.map_congr_left fun row _ => ?_
  simp only [Function.comp_apply]
  split
  · exact kept row
  · rfl

theorem KeyUnique.update {key : Row → Key} (unique : KeyUnique key rows)
    (kept : ∀ row, key (set row) = key row) : KeyUnique key (updateWhere chosen set rows) := by
  rw [KeyUnique, map_updateWhere key kept]
  exact unique

/-- An update that matches no row changes nothing. -/
theorem updateWhere_of_none (none_ : ∀ row ∈ rows, ¬ chosen row) :
    updateWhere chosen set rows = rows := by
  simp only [updateWhere]
  calc rows.map (fun row => if chosen row then set row else row)
      = rows.map id := List.map_congr_left fun row member => if_neg (none_ row member)
    _ = rows := List.map_id rows

/-- A filter that drops what an update rewrites sees the other rows only. -/
theorem filter_updateWhere {keep : Row → Bool}
    (dropped : ∀ row, chosen row → keep (set row) = false) :
    (updateWhere chosen set rows).filter keep =
      (rows.filter fun row => decide (¬ chosen row)).filter keep := by
  induction rows with
  | nil => rfl
  | cons head rest ih =>
      have split : updateWhere chosen set (head :: rest) =
          (if chosen head then set head else head) :: updateWhere chosen set rest := rfl
      rw [split]
      by_cases here : chosen head
      · rw [if_pos here, List.filter_cons_of_neg (by rw [dropped head here]; decide), ih,
          List.filter_cons_of_neg (by simpa using here)]
      · have kept : ((head :: rest).filter fun row => decide (¬ chosen row)) =
            head :: rest.filter fun row => decide (¬ chosen row) :=
          List.filter_cons_of_pos (by simpa using here)
        rw [if_neg here, kept, List.filter_cons, ih, List.filter_cons]

end Update

section Keys

variable {key : Row → Key} {rows : List Row}

theorem KeyUnique.eq_of_key (unique : KeyUnique key rows) {first second : Row}
    (firstMember : first ∈ rows) (secondMember : second ∈ rows)
    (same : key first = key second) : first = second :=
  List.inj_on_of_nodup_map unique firstMember secondMember same

theorem KeyUnique.nil : KeyUnique key ([] : List Row) :=
  List.nodup_nil

/-- Inserting a row with a new key. -/
theorem KeyUnique.append_singleton (unique : KeyUnique key rows) {row : Row}
    (fresh : ∀ old ∈ rows, key old ≠ key row) : KeyUnique key (rows ++ [row]) := by
  simp only [KeyUnique, List.map_append, List.map_cons, List.map_nil]
  refine List.nodup_append.mpr ⟨unique, List.nodup_singleton _, ?_⟩
  intro value member other last
  obtain ⟨old, oldMember, rfl⟩ := List.mem_map.mp member
  rw [List.mem_singleton.mp last]
  exact fresh old oldMember

theorem KeyUnique.filter (unique : KeyUnique key rows) (keep : Row → Bool) :
    KeyUnique key (rows.filter keep) :=
  List.Nodup.sublist (List.filter_sublist.map key) unique

/-- A join that keeps the key of a row keeps the keys unique. -/
theorem KeyUnique.filterMap {Other : Type w} {key' : Other → Key} {join : Row → Option Other}
    (kept : ∀ row other, join row = some other → key' other = key row)
    (unique : KeyUnique key rows) : KeyUnique key' (rows.filterMap join) := by
  induction rows with
  | nil => exact List.nodup_nil
  | cons head rest ih =>
      obtain ⟨headFresh, restUnique⟩ := List.nodup_cons.mp unique
      cases joined : join head with
      | none =>
          rw [List.filterMap_cons_none joined]
          exact ih restUnique
      | some other =>
          rw [List.filterMap_cons_some joined]
          refine List.nodup_cons.mpr ⟨?_, ih restUnique⟩
          intro again
          obtain ⟨second, member, same⟩ := List.mem_map.mp again
          obtain ⟨row, there, made⟩ := List.mem_filterMap.mp member
          refine headFresh (List.mem_map.mpr ⟨row, there, ?_⟩)
          rw [← kept row second made, same, kept head other joined]

variable [DecidableEq Key]

/-- The row with a key. -/
def lookup (key : Row → Key) (value : Key) (rows : List Row) : Option Row :=
  rows.find? fun row => key row = value

theorem lookup_some {value : Key} {row : Row} (found : lookup key value rows = some row) :
    row ∈ rows ∧ key row = value := by
  refine ⟨List.mem_of_find?_eq_some found, ?_⟩
  simpa using List.find?_some found

theorem lookup_none {value : Key} (missing : lookup key value rows = none) {row : Row}
    (member : row ∈ rows) : key row ≠ value := by
  simpa using List.find?_eq_none.mp missing row member

theorem lookup_isSome_of_mem (key : Row → Key) {row : Row} (member : row ∈ rows) :
    ∃ found, lookup key (key row) rows = some found := by
  cases result : lookup key (key row) rows with
  | none => exact absurd rfl (lookup_none result member)
  | some found => exact ⟨found, rfl⟩

theorem lookup_eq_none {value : Key} :
    lookup key value rows = none ↔ ∀ row ∈ rows, key row ≠ value := by
  simp only [lookup, List.find?_eq_none, decide_eq_true_eq]

/-- A lookup after an update that keeps the keys. -/
theorem lookup_updateWhere {chosen : Row → Prop} [DecidablePred chosen] (set : Row → Row)
    (kept : ∀ row, key (set row) = key row) (value : Key) :
    lookup key value (updateWhere chosen set rows) =
      (lookup key value rows).map fun row => if chosen row then set row else row := by
  have keyKept : ∀ row, key (if chosen row then set row else row) = key row := by
    intro row
    split
    · exact kept row
    · rfl
  simp only [lookup, updateWhere, List.find?_map, Function.comp_def, keyKept]

/-- A lookup after an update of one row that keeps the keys. -/
theorem lookup_updateWhere_key {old : Row} (found : lookup key (key old) rows = some old)
    (set : Row → Row) (kept : ∀ row, key (set row) = key row) (value : Key) :
    lookup key value (updateWhere (fun row => key row = key old) set rows) =
      if key old = value then some (set old) else lookup key value rows := by
  rw [lookup_updateWhere set kept]
  by_cases here : key old = value
  · subst here
    simp only [found, Option.map_some, if_true]
  · rw [if_neg here]
    cases result : lookup key value rows with
    | none => rfl
    | some row =>
        have other : ¬ key row = key old := by
          rw [(lookup_some result).2]
          exact fun same => here same.symm
        simp only [Option.map_some, if_neg other]

theorem lookup_append_singleton (value : Key) (row : Row) :
    lookup key value (rows ++ [row]) =
      (lookup key value rows).or (if key row = value then some row else none) := by
  simp only [lookup, List.find?_append, List.find?_singleton, decide_eq_true_eq]

/-- With unique keys the lookup finds exactly the rows of the table. -/
theorem KeyUnique.lookup_eq_some (unique : KeyUnique key rows) {value : Key} {row : Row} :
    lookup key value rows = some row ↔ row ∈ rows ∧ key row = value := by
  constructor
  · exact lookup_some
  · rintro ⟨member, rfl⟩
    obtain ⟨found, result⟩ := lookup_isSome_of_mem key member
    obtain ⟨foundMember, same⟩ := lookup_some result
    rw [result, unique.eq_of_key foundMember member same]

/-- Under a unique key, a search for a key and a condition is a lookup and a check. -/
theorem KeyUnique.find?_and (unique : KeyUnique key rows) (value : Key) (also : Row → Prop)
    [DecidablePred also] :
    (rows.find? fun row => also row ∧ key row = value) =
      (lookup key value rows).filter fun row => also row := by
  cases found : lookup key value rows with
  | none =>
      rw [Option.filter_none, List.find?_eq_none]
      intro row member holds
      exact lookup_none found member (of_decide_eq_true holds).2
  | some row =>
      obtain ⟨member, here⟩ := lookup_some found
      cases result : rows.find? fun row => also row ∧ key row = value with
      | none =>
          have missing := List.find?_eq_none.mp result row member
          rw [Option.filter_some_neg]
          simpa [here] using missing
      | some other =>
          have holds : also other ∧ key other = value := by simpa using List.find?_some result
          cases unique.eq_of_key (List.mem_of_find?_eq_some result) member (holds.2.trans here.symm)
          rw [Option.filter_some_pos]
          exact decide_eq_true holds.1

/-- Under a unique key, counting the rows with one value counts the row of the
lookup. -/
theorem KeyUnique.countP_eq (unique : KeyUnique key rows) (value : Key) (also : Row → Prop)
    [DecidablePred also] :
    rows.countP (fun row => key row = value ∧ also row) =
      if ∃ row, lookup key value rows = some row ∧ also row then 1 else 0 := by
  induction rows with
  | nil =>
      rw [if_neg]
      · rfl
      · rintro ⟨row, ⟨⟩, -⟩
  | cons head rest ih =>
      obtain ⟨headFresh, restUnique⟩ := List.nodup_cons.mp unique
      rw [List.countP_cons, ih restUnique]
      by_cases here : key head = value
      · have others : lookup key value rest = none := by
          refine lookup_eq_none.mpr fun row member same => headFresh ?_
          rw [here, ← same]
          exact List.mem_map_of_mem member
        have first : lookup key value (head :: rest) = some head := by
          simp only [lookup, List.find?_cons, here, decide_true]
        simp only [others, first, reduceCtorEq, false_and, exists_false, if_false, here, true_and,
          Option.some.injEq, exists_eq_left', decide_eq_true_eq, Nat.zero_add]
      · have later : lookup key value (head :: rest) = lookup key value rest := by
          simp only [lookup, List.find?_cons, here, decide_false]
        simp only [later, here, false_and, decide_false, Bool.false_eq_true, if_false,
          Nat.add_zero]

/-- Where at most one row counts, two rows that count are one. -/
theorem eq_of_countP_le_one {counts : Row → Bool} (once : rows.countP counts ≤ 1)
    {first second : Row} (firstMember : first ∈ rows) (secondMember : second ∈ rows)
    (firstCounts : counts first = true) (secondCounts : counts second = true) :
    first = second := by
  have short : (rows.filter counts).length ≤ 1 := List.countP_eq_length_filter ▸ once
  have firstKept := List.mem_filter.mpr ⟨firstMember, firstCounts⟩
  have secondKept := List.mem_filter.mpr ⟨secondMember, secondCounts⟩
  cases shape : rows.filter counts with
  | nil =>
      rw [shape] at firstKept
      cases firstKept
  | cons head rest =>
      rw [shape, List.length_cons] at short
      have empty : rest = [] := List.length_eq_zero_iff.mp (by omega)
      rw [shape, empty, List.mem_singleton] at firstKept secondKept
      rw [firstKept, secondKept]

/-- A row of the updated table, when the update picks one key and keeps it, is
the rewritten row or one of the others. -/
theorem mem_updateWhere_key {value : Key} {set : Row → Row} {row : Row} :
    row ∈ updateWhere (fun old => key old = value) set rows ↔
      (∃ old ∈ rows, key old = value ∧ set old = row) ∨ (row ∈ rows ∧ key row ≠ value) := by
  rw [mem_updateWhere]
  constructor
  · rintro ⟨old, member, same⟩
    split at same
    · rename_i chosen
      exact .inl ⟨old, member, chosen, same⟩
    · rename_i other
      subst same
      exact .inr ⟨member, other⟩
  · rintro (⟨old, member, chosen, same⟩ | ⟨member, other⟩)
    · exact ⟨old, member, by rw [if_pos chosen, same]⟩
    · exact ⟨row, member, if_neg other⟩

/-- A sum over the rows after an update of the row with one key: the value of
the old row leaves and the value of the new row enters. -/
theorem KeyUnique.sum_updateWhere (unique : KeyUnique key rows) {old : Row} (member : old ∈ rows)
    (set : Row → Row) (weight : Row → Int) :
    ((updateWhere (fun row => key row = key old) set rows).map weight).sum =
      (rows.map weight).sum - weight old + weight (set old) := by
  induction rows with
  | nil => cases member
  | cons head rest ih =>
      obtain ⟨headFresh, restUnique⟩ := List.nodup_cons.mp unique
      by_cases here : key head = key old
      · have same : head = old := unique.eq_of_key List.mem_cons_self member here
        subst same
        have others : updateWhere (fun row => key row = key head) set rest = rest := by
          refine updateWhere_of_none fun row rowMember sameKey => headFresh ?_
          exact sameKey ▸ List.mem_map_of_mem rowMember
        have split : updateWhere (fun row => key row = key head) set (head :: rest) =
            set head :: updateWhere (fun row => key row = key head) set rest := by
          simp only [updateWhere, List.map_cons, if_true]
        rw [split, others]
        simp only [List.map_cons, List.sum_cons]
        omega
      · have deeper : old ∈ rest := by
          rcases List.mem_cons.mp member with rfl | deeper
          · exact absurd rfl here
          · exact deeper
        have split : updateWhere (fun row => key row = key old) set (head :: rest) =
            head :: updateWhere (fun row => key row = key old) set rest := by
          simp only [updateWhere, List.map_cons, if_neg here]
        rw [split]
        simp only [List.map_cons, List.sum_cons, ih restUnique deeper]
        omega

end Keys

/-! ### Sums over columns -/

/-- `sum(column)`: an empty cell does not count. -/
def sumOf (column : Row → Option Int) (rows : List Row) : Int :=
  (rows.filterMap column).sum

theorem sumOf_cons (column : Row → Option Int) (row : Row) (rows : List Row) :
    sumOf column (row :: rows) = (column row).getD 0 + sumOf column rows := by
  cases cell : column row with
  | none => simp [sumOf, cell]
  | some value => simp [sumOf, cell]

/-- The rows of two conditions that exclude each other. -/
theorem sumOf_filter_or (column : Row → Option Int) {first second : Row → Prop}
    [DecidablePred first] [DecidablePred second] (apart : ∀ row, first row → ¬ second row)
    (rows : List Row) :
    sumOf column (rows.filter fun row => first row ∨ second row) =
      sumOf column (rows.filter fun row => first row) +
        sumOf column (rows.filter fun row => second row) := by
  induction rows with
  | nil => rfl
  | cons head rest ih =>
      by_cases one : first head
      · have two : ¬ second head := apart head one
        simp only [List.filter_cons, one, two, true_or, decide_true, decide_false, if_true,
          Bool.false_eq_true, if_false, sumOf_cons, ih]
        omega
      · by_cases two : second head
        · simp only [List.filter_cons, one, two, false_or, decide_true, decide_false, if_true,
            Bool.false_eq_true, if_false, sumOf_cons, ih]
          omega
        · simp only [List.filter_cons, one, two, or_self, decide_false, Bool.false_eq_true,
            if_false, ih]

/-- Sums grouped by a column add up to the sum over the rows of all groups. -/
theorem sum_groups [DecidableEq Key] (group : Row → Key) (column : Row → Option Int)
    (counts : Row → Prop) [DecidablePred counts] (rows : List Row) {values : List Key}
    (distinct : values.Nodup) :
    (values.map fun value =>
        sumOf column (rows.filter fun row => group row = value ∧ counts row)).sum =
      sumOf column (rows.filter fun row => group row ∈ values ∧ counts row) := by
  induction values with
  | nil =>
      simp only [List.not_mem_nil, false_and, decide_false, List.filter_false]
      rfl
  | cons value rest ih =>
      obtain ⟨fresh, others⟩ := List.nodup_cons.mp distinct
      rw [List.map_cons, List.sum_cons, ih others, ← sumOf_filter_or column]
      · refine congrArg (sumOf column) (List.filter_congr fun row _ => ?_)
        simp only [List.mem_cons, or_and_right]
      · rintro row ⟨rfl, -⟩ ⟨member, -⟩
        exact fresh member

/-- A row among those an order puts last, as an `order by … desc limit 1` returns
one: no other row is greater. -/
def IsNewest {Stamp : Type w} [LE Stamp] (stamp : Row → Stamp) (rows : List Row) (row : Row) :
    Prop :=
  row ∈ rows ∧ ∀ other ∈ rows, stamp other ≤ stamp row

/-- The rows no other row exceeds. -/
def newest {Stamp : Type w} [LE Stamp] [DecidableLE Stamp] (stamp : Row → Stamp)
    (rows : List Row) : List Row :=
  rows.filter fun row => rows.all fun other => decide (stamp other ≤ stamp row)

theorem mem_newest {Stamp : Type w} [LE Stamp] [DecidableLE Stamp] {stamp : Row → Stamp}
    {rows : List Row} {row : Row} : row ∈ newest stamp rows ↔ IsNewest stamp rows row := by
  simp only [newest, List.mem_filter, List.all_eq_true, decide_eq_true_eq, IsNewest]

/-- A table with a row has a newest one. -/
theorem exists_isNewest {Stamp : Type w} [LinearOrder Stamp] (stamp : Row → Stamp)
    {rows : List Row} (row : Row) (member : row ∈ rows) : ∃ last, IsNewest stamp rows last := by
  induction rows generalizing row with
  | nil => cases member
  | cons head rest ih =>
      cases rest with
      | nil =>
          refine ⟨head, List.mem_singleton_self head, fun other there => ?_⟩
          rw [List.mem_singleton] at there
          subst there
          exact le_refl _
      | cons second others =>
          obtain ⟨best, bestMember, greatest⟩ := ih second List.mem_cons_self
          rcases le_total (stamp head) (stamp best) with below | above
          · refine ⟨best, List.mem_cons_of_mem _ bestMember, fun other there => ?_⟩
            rcases List.mem_cons.mp there with rfl | there
            · exact below
            · exact greatest other there
          · refine ⟨head, List.mem_cons_self, fun other there => ?_⟩
            rcases List.mem_cons.mp there with rfl | there
            · exact le_refl _
            · exact (greatest other there).trans above

end Table

/-! ## Fallible steps

What is known when a sequence of fallible steps succeeds.
-/

section Fallible

variable {Error : Type u} {Value Result : Type v}

theorem Except.exists_of_bind_eq_ok {first : Except Error Value}
    {rest : Value → Except Error Result} {result : Result}
    (succeeded : first >>= rest = .ok result) :
    ∃ value, first = .ok value ∧ rest value = .ok result := by
  cases first with
  | error error => cases succeeded
  | ok value => exact ⟨value, rfl, succeeded⟩

/-- A check that ends in an error was passed. -/
theorem Except.not_and_of_ite_error {check : Prop} [Decidable check] {error : Error}
    {rest : Except Error Result} {result : Result}
    (succeeded : (if check then .error error else rest) = .ok result) :
    ¬ check ∧ rest = .ok result := by
  by_cases failed : check
  · rw [if_pos failed] at succeeded
    cases succeeded
  · rw [if_neg failed] at succeeded
    exact ⟨failed, succeeded⟩

theorem Except.exists_of_map_eq_ok {first : Except Error Value} {set : Value → Result}
    {result : Result} (succeeded : first.map set = .ok result) :
    ∃ value, first = .ok value ∧ set value = result := by
  cases first with
  | error error => cases succeeded
  | ok value =>
      cases succeeded
      exact ⟨value, rfl, rfl⟩

theorem Except.eq_ok_of_mapError_eq_ok {Other : Type w} {first : Except Error Value}
    {report : Error → Other} {value : Value} (succeeded : first.mapError report = .ok value) :
    first = .ok value := by
  cases first with
  | error error => cases succeeded
  | ok value =>
      cases succeeded
      rfl

/-- Every result of a sequence of fallible steps is the result of one of them. -/
theorem Except.exists_of_mem_mapM {Input : Type w} {step : Input → Except Error Value}
    {inputs : List Input} {values : List Value} (succeeded : inputs.mapM step = .ok values)
    {value : Value} (member : value ∈ values) : ∃ input ∈ inputs, step input = .ok value := by
  induction inputs generalizing values with
  | nil =>
      rw [List.mapM_nil] at succeeded
      cases succeeded
      cases member
  | cons input inputs ih =>
      rw [List.mapM_cons] at succeeded
      obtain ⟨first, here, succeeded⟩ := Except.exists_of_bind_eq_ok succeeded
      obtain ⟨rest, later, succeeded⟩ := Except.exists_of_bind_eq_ok succeeded
      cases succeeded
      rcases List.mem_cons.mp member with rfl | member
      · exact ⟨input, List.mem_cons_self, here⟩
      · obtain ⟨other, there, same⟩ := ih later member
        exact ⟨other, List.mem_cons_of_mem _ there, same⟩

/-- Every one of the steps has its result. -/
theorem Except.exists_mem_of_mapM {Input : Type w} {step : Input → Except Error Value}
    {inputs : List Input} {values : List Value} (succeeded : inputs.mapM step = .ok values)
    {input : Input} (member : input ∈ inputs) : ∃ value ∈ values, step input = .ok value := by
  induction inputs generalizing values with
  | nil => cases member
  | cons head inputs ih =>
      rw [List.mapM_cons] at succeeded
      obtain ⟨first, here, succeeded⟩ := Except.exists_of_bind_eq_ok succeeded
      obtain ⟨rest, later, succeeded⟩ := Except.exists_of_bind_eq_ok succeeded
      cases succeeded
      rcases List.mem_cons.mp member with rfl | member
      · exact ⟨first, List.mem_cons_self, here⟩
      · obtain ⟨value, there, same⟩ := ih later member
        exact ⟨value, List.mem_cons_of_mem _ there, same⟩

/-- Steps that answer alike give the same results. -/
theorem Except.mapM_congr {Input : Type w} {first second : Input → Except Error Value}
    {inputs : List Input} (same : ∀ input ∈ inputs, first input = second input) :
    inputs.mapM first = inputs.mapM second := by
  induction inputs with
  | nil => rfl
  | cons input inputs ih =>
      rw [List.mapM_cons, List.mapM_cons, same input List.mem_cons_self,
        ih fun other member => same other (List.mem_cons_of_mem _ member)]

end Fallible

/-! ## Transactions -/

/-- How a transaction body that reports no error ends: it commits its working
copy, or returns without a commit. -/
inductive Finish (Store : Type u) (Result : Type v) where
  | commit (result : Result) (work : Store)
  | drop (result : Result)

/-- Runs a transaction body on a copy of the store. A body that fails, or that
returns before its commit, is rolled back. -/
def transaction {Store : Type u} {Error : Type v} {Result : Type w}
    (body : Store → Except Error (Finish Store Result)) (store : Store) :
    Except Error Result × Store :=
  match body store with
  | .error error => (.error error, store)
  | .ok (.drop result) => (.ok result, store)
  | .ok (.commit result work) => (.ok result, work)

section Transactions

variable {Store : Type u} {Error : Type v} {Result : Type w}
  {body : Store → Except Error (Finish Store Result)} {store : Store}

theorem transaction_error {error : Error} (failed : body store = .error error) :
    transaction body store = (.error error, store) := by
  rw [transaction, failed]

theorem transaction_drop {result : Result} (dropped : body store = .ok (.drop result)) :
    transaction body store = (.ok result, store) := by
  rw [transaction, dropped]

theorem transaction_commit {result : Result} {work : Store}
    (committed : body store = .ok (.commit result work)) :
    transaction body store = (.ok result, work) := by
  rw [transaction, committed]

/-- Whatever differs after a transaction was committed by its body. -/
theorem transaction_cases (body : Store → Except Error (Finish Store Result)) (store : Store) :
    (∃ error, body store = .error error ∧ transaction body store = (.error error, store)) ∨
    (∃ result, body store = .ok (.drop result) ∧ transaction body store = (.ok result, store)) ∨
    (∃ result work, body store = .ok (.commit result work) ∧
      transaction body store = (.ok result, work)) := by
  cases ended : body store with
  | error error => exact .inl ⟨error, rfl, transaction_error ended⟩
  | ok finish =>
      cases finish with
      | drop result => exact .inr (.inl ⟨result, rfl, transaction_drop ended⟩)
      | commit result work => exact .inr (.inr ⟨result, work, rfl, transaction_commit ended⟩)

end Transactions
