import Mathlib.Data.List.Sort
import Mathlib.Order.Defs.LinearOrder

/-!
# Ordered pages

The rows an `order by … limit …` returns. Rows that the order does not tell apart
keep their order in the table. Of a page ordered by a stamp the lemmas say which
rows it leaves out, and when it reaches a given stamp.
-/

set_option autoImplicit false

universe u v

namespace Table

variable {Row : Type u} {Stamp : Type v}

/-- `order by … limit …`. -/
def page (before : Row → Row → Prop) [DecidableRel before] (limit : ℕ) (rows : List Row) :
    List Row :=
  (rows.insertionSort before).take limit

theorem mem_of_mem_page {before : Row → Row → Prop} [DecidableRel before] {limit : ℕ}
    {rows : List Row} {row : Row} (member : row ∈ page before limit rows) : row ∈ rows :=
  (List.mem_insertionSort before).mp (List.mem_of_mem_take member)

section Stamps

variable [LinearOrder Stamp] (stamp : Row → Stamp)

/-- `order by stamp limit …`. -/
def pageBy (limit : ℕ) (rows : List Row) : List Row :=
  page (fun first second => stamp first ≤ stamp second) limit rows

theorem mem_of_mem_pageBy {limit : ℕ} {rows : List Row} {row : Row}
    (member : row ∈ pageBy stamp limit rows) : row ∈ rows :=
  mem_of_mem_page member

/-- The rows in the order of their stamps. -/
theorem pairwise_sorted (rows : List Row) :
    (rows.insertionSort fun first second => stamp first ≤ stamp second).Pairwise
      fun first second => stamp first ≤ stamp second := by
  have total : Std.Total fun first second : Row => stamp first ≤ stamp second :=
    ⟨fun first second => le_total (stamp first) (stamp second)⟩
  have trans : IsTrans Row fun first second => stamp first ≤ stamp second :=
    ⟨fun _ _ _ => le_trans⟩
  exact List.pairwise_insertionSort _ rows

theorem mem_take_of_lt {rows : List Row}
    (sorted : rows.Pairwise fun first second => stamp first ≤ stamp second) {limit : ℕ}
    {row last : Row} (member : row ∈ rows) (taken : last ∈ rows.take limit)
    (below : stamp row < stamp last) : row ∈ rows.take limit := by
  induction rows generalizing limit with
  | nil => cases member
  | cons head rest ih =>
      obtain ⟨least, restSorted⟩ := List.pairwise_cons.mp sorted
      cases limit with
      | zero => cases taken
      | succ limit =>
          rw [List.take_succ_cons] at taken ⊢
          rcases List.mem_cons.mp member with rfl | deeper
          · exact List.mem_cons_self
          · rcases List.mem_cons.mp taken with rfl | later
            · exact absurd (least row deeper) (not_le_of_gt below)
            · exact List.mem_cons_of_mem _ (ih restSorted deeper later)

/-- A page leaves out no row below one of its own. -/
theorem mem_pageBy_of_lt {limit : ℕ} {rows : List Row} {row last : Row} (member : row ∈ rows)
    (returned : last ∈ pageBy stamp limit rows) (below : stamp row < stamp last) :
    row ∈ pageBy stamp limit rows :=
  mem_take_of_lt stamp (pairwise_sorted stamp rows) ((List.mem_insertionSort _).mpr member)
    returned below

theorem exists_take_le_iff {rows : List Row}
    (sorted : rows.Pairwise fun first second => stamp first ≤ stamp second) (limit : ℕ)
    (bound : Stamp) : (∃ row ∈ rows.take limit, bound ≤ stamp row) ↔
      (∃ row ∈ rows, bound ≤ stamp row) ∧ rows.countP (fun row => stamp row < bound) < limit := by
  induction rows generalizing limit with
  | nil => simp only [List.take_nil, List.not_mem_nil, false_and, exists_false]
  | cons head rest ih =>
      obtain ⟨least, restSorted⟩ := List.pairwise_cons.mp sorted
      cases limit with
      | zero => simp only [List.take_zero, List.not_mem_nil, false_and, exists_false,
          Nat.not_lt_zero,
          and_false]
      | succ limit =>
          rw [List.take_succ_cons]
          rcases le_or_gt bound (stamp head) with reached | below
          · have none_ : (head :: rest).countP (fun row => stamp row < bound) = 0 := by
              refine List.countP_eq_zero.mpr ?_
              intro row member
              have above : bound ≤ stamp row := by
                rcases List.mem_cons.mp member with rfl | later
                · exact reached
                · exact reached.trans (least row later)
              simpa using above
            rw [none_]
            exact iff_of_true ⟨head, List.mem_cons_self, reached⟩
              ⟨⟨head, List.mem_cons_self, reached⟩, Nat.succ_pos limit⟩
          · have skip : ∀ rows : List Row, (∃ row ∈ head :: rows, bound ≤ stamp row) ↔
                ∃ row ∈ rows, bound ≤ stamp row := by
              intro rows
              simp only [List.exists_mem_cons_iff, not_le_of_gt below, false_or]
            rw [skip, skip, ih restSorted limit, List.countP_cons_of_pos (by simpa using below),
              Nat.succ_lt_succ_iff]

/-- A page reaches a stamp when a row does and fewer rows lie below it than the
page holds. -/
theorem exists_pageBy_le_iff (limit : ℕ) (rows : List Row) (bound : Stamp) :
    (∃ row ∈ pageBy stamp limit rows, bound ≤ stamp row) ↔
      (∃ row ∈ rows, bound ≤ stamp row) ∧ rows.countP (fun row => stamp row < bound) < limit := by
  rw [pageBy, page, exists_take_le_iff stamp (pairwise_sorted stamp rows),
    (List.perm_insertionSort _ rows).countP_eq]
  simp only [List.mem_insertionSort]

end Stamps

end Table
