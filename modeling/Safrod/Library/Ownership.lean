import Safrod.Library.Table

/-!
# Rows of one owner

A query that keeps only rows of an owner sees no others: two tables with the same rows of
the owner answer it alike. A change of the rows of others leaves the rows of the owner as
they are.
-/

set_option autoImplicit false

universe u v w

namespace Table

variable {Row : Type u} {rows others more : List Row} {own keep : Row → Bool}

/-! ## Queries -/

theorem filter_of_owned (within : ∀ row, keep row = true → own row = true)
    (agree : rows.filter own = others.filter own) : rows.filter keep = others.filter keep := by
  have inside : ∀ table : List Row, table.filter keep = (table.filter own).filter keep := by
    intro table
    rw [List.filter_filter]
    refine List.filter_congr fun row _ => ?_
    cases kept : keep row with
    | false => rfl
    | true => rw [within row kept, Bool.and_true]
  rw [inside rows, inside others, agree]

theorem find?_of_owned (within : ∀ row, keep row = true → own row = true)
    (agree : rows.filter own = others.filter own) : rows.find? keep = others.find? keep := by
  rw [← List.head?_filter, ← List.head?_filter, filter_of_owned within agree]

section Conditions

variable {owns : Row → Prop} [DecidablePred owns]
  (agree : (rows.filter fun row => owns row) = others.filter fun row => owns row)
  (also : Row → Prop) [DecidablePred also]

include agree

theorem filter_and_of_owned :
    (rows.filter fun row => owns row ∧ also row) = others.filter fun row => owns row ∧ also row :=
  filter_of_owned (fun _ both => decide_eq_true (of_decide_eq_true both).1) agree

theorem find?_and_of_owned :
    (rows.find? fun row => owns row ∧ also row) = others.find? fun row => owns row ∧ also row :=
  find?_of_owned (fun _ both => decide_eq_true (of_decide_eq_true both).1) agree

end Conditions

/-- A row of the owner is in the one table when it is in the other. -/
theorem mem_of_owned {row : Row} (owned : own row = true)
    (agree : rows.filter own = others.filter own) (member : row ∈ rows) : row ∈ others := by
  have there : row ∈ rows.filter own := List.mem_filter.mpr ⟨member, owned⟩
  rw [agree] at there
  exact (List.mem_filter.mp there).1

/-! ## Changes -/

theorem filter_append_other (other : ∀ row ∈ more, own row = false) :
    (rows ++ more).filter own = rows.filter own := by
  have nothing : more.filter own = [] := List.filter_eq_nil_iff.mpr fun row member => by
    rw [other row member]
    decide
  rw [List.filter_append, nothing, List.append_nil]

theorem filter_append_singleton_other {row : Row} (other : own row = false) :
    (rows ++ [row]).filter own = rows.filter own :=
  filter_append_other fun _ member => List.mem_singleton.mp member ▸ other

theorem filter_updateWhere_other {chosen : Row → Prop} [DecidablePred chosen] {set : Row → Row}
    (other : ∀ row ∈ rows, chosen row → own row = false ∧ own (set row) = false) :
    (updateWhere chosen set rows).filter own = rows.filter own := by
  induction rows with
  | nil => rfl
  | cons head rest ih =>
      have split : updateWhere chosen set (head :: rest) =
          (if chosen head then set head else head) :: updateWhere chosen set rest := rfl
      have later := ih fun row member => other row (List.mem_cons_of_mem _ member)
      rw [split]
      by_cases here : chosen head
      · obtain ⟨before, after⟩ := other head List.mem_cons_self here
        rw [if_pos here, List.filter_cons_of_neg (by simp [after]), later,
          List.filter_cons_of_neg (by simp [before])]
      · rw [if_neg here, List.filter_cons, List.filter_cons, later]

/-- An update of one row, by its key, leaves the rows of other owners as they are. -/
theorem filter_updateWhere_key_other {Key : Type v} {Owner : Type w} [DecidableEq Key]
    [DecidableEq Owner] {key : Row → Key} (unique : KeyUnique key rows) {row : Row}
    (member : row ∈ rows) (owner : Row → Owner) (set : Row → Row)
    (kept : ∀ old, owner (set old) = owner old) {other : Owner} (apart : owner row ≠ other) :
    ((updateWhere (fun old => key old = key row) set rows).filter fun old => owner old = other) =
      rows.filter fun old => owner old = other := by
  refine filter_updateWhere_other fun old there same => ?_
  cases unique.eq_of_key there member same
  rw [kept]
  exact ⟨decide_eq_false apart, decide_eq_false apart⟩

end Table
