import Mathlib.Order.WithBot
import Safrod.Library.Page
import Safrod.Library.Table

/-!
# Pages below a bound

A list is read page by page, newest first: each page starts below the last row of the page
before it (`Walk`). Rows may be added between two pages, wherever their stamps put them
(`Growing`). The walk ends when no more are added (`Growing.exists_walk`), its rows descend
(`Walk.descending`), and no row that was there at its start is missing (`Walk.complete`).
-/

set_option autoImplicit false

universe u v

namespace Table

variable {Row : Type u} {Stamp : Type v}

/-! ## A growing table -/

/-- Rows are added and none is taken away, until no more are added. -/
structure Growing (stamp : Row → Stamp) (snapshots : ℕ → List Row) : Prop where
  distinct : ∀ n, KeyUnique stamp (snapshots n)
  kept : ∀ n, ∀ row ∈ snapshots n, ∃ later ∈ snapshots (n + 1), stamp later = stamp row
  settled : ∃ final, ∀ n, ∀ row ∈ snapshots n, ∃ other ∈ snapshots final, stamp other = stamp row

/-- A column that determines a key has values of its own. -/
theorem KeyUnique.of_determines {Key : Type*} {key : Row → Key} {rows : List Row}
    (unique : KeyUnique key rows) {stamp : Row → Stamp}
    (determines : ∀ row other, stamp row = stamp other → key row = key other) :
    KeyUnique stamp rows :=
  List.pairwise_map.mpr ((List.pairwise_map.mp unique).imp
    fun apart same => apart (determines _ _ same))

/-- Fewer rows are counted when one that was counted no longer is. -/
theorem countP_lt_of_mem {rows : List Row} {fewer more : Row → Bool}
    (imp : ∀ row ∈ rows, fewer row = true → more row = true) {other : Row} (member : other ∈ rows)
    (dropped : ¬ fewer other = true) (counted : more other = true) :
    rows.countP fewer < rows.countP more := by
  obtain ⟨front, back, rfl⟩ := List.append_of_mem member
  have before : front.countP fewer ≤ front.countP more :=
    List.countP_mono_left fun row here => imp row (List.mem_append_left _ here)
  have after : back.countP fewer ≤ back.countP more :=
    List.countP_mono_left fun row here =>
      imp row (List.mem_append_right _ (List.mem_cons_of_mem _ here))
  rw [List.countP_append, List.countP_append, List.countP_cons_of_neg dropped,
    List.countP_cons_of_pos counted]
  omega

variable [LinearOrder Stamp] (stamp : Row → Stamp)

/-! ## One page -/

/-- `where stamp < bound order by stamp desc limit …`. -/
def pageBelow (bound : WithTop Stamp) (limit : ℕ) (rows : List Row) : List Row :=
  pageBy (fun row => OrderDual.toDual (stamp row)) limit
    (rows.filter fun row => (stamp row : WithTop Stamp) < bound)

/-- The rows below a bound in their order. -/
def allBelow (bound : WithTop Stamp) (rows : List Row) : List Row :=
  (rows.filter fun row => (stamp row : WithTop Stamp) < bound).insertionSort
    fun first second => OrderDual.toDual (stamp first) ≤ OrderDual.toDual (stamp second)

section Page

variable {bound : WithTop Stamp} {limit : ℕ} {rows : List Row}

theorem pageBelow_eq_take : pageBelow stamp bound limit rows =
    (allBelow stamp bound rows).take limit := rfl

theorem mem_allBelow {row : Row} :
    row ∈ allBelow stamp bound rows ↔ row ∈ rows ∧ (stamp row : WithTop Stamp) < bound := by
  rw [allBelow, List.mem_insertionSort, List.mem_filter, decide_eq_true_eq]

theorem length_allBelow : (allBelow stamp bound rows).length =
    rows.countP fun row => (stamp row : WithTop Stamp) < bound := by
  rw [allBelow, List.length_insertionSort, List.countP_eq_length_filter]

/-- Rows of different stamps descend. -/
theorem allBelow_descending (distinct : KeyUnique stamp rows) :
    (allBelow stamp bound rows).Pairwise fun first second => stamp second < stamp first := by
  have sorted : (allBelow stamp bound rows).Pairwise
      fun first second => stamp second ≤ stamp first :=
    pairwise_sorted (fun row => OrderDual.toDual (stamp row)) _
  have apart : (allBelow stamp bound rows).Pairwise
      fun first second => stamp first ≠ stamp second := by
    refine List.pairwise_map.mp ?_
    refine ((List.perm_insertionSort _ _).map stamp).nodup_iff.mpr ?_
    exact distinct.sublist (List.filter_sublist.map stamp)
  exact (sorted.and apart).imp fun both => lt_of_le_of_ne both.1 (Ne.symm both.2)

/-- A page that is not full holds all rows below the bound. -/
theorem pageBelow_of_short (short : (pageBelow stamp bound (limit + 1) rows).length ≤ limit) :
    pageBelow stamp bound (limit + 1) rows = allBelow stamp bound rows := by
  rw [pageBelow_eq_take] at short ⊢
  rw [List.length_take] at short
  exact List.take_of_length_le (by omega)

/-- A full page has a last row. -/
theorem exists_last_of_full {found : List Row} (positive : 0 < limit)
    (full : limit < found.length) : ∃ last, (found.take limit).getLast? = some last := by
  refine Option.ne_none_iff_exists'.mp fun none_ => ?_
  have length := congrArg List.length (List.getLast?_eq_none_iff.mp none_)
  rw [List.length_take, List.length_nil] at length
  omega

/-- What a full page leaves out is below its last row. -/
theorem mem_take_or_lt (distinct : KeyUnique stamp rows) {row last : Row}
    (taken : ((allBelow stamp bound rows).take limit).getLast? = some last)
    (member : row ∈ allBelow stamp bound rows) :
    row ∈ (allBelow stamp bound rows).take limit ∨ stamp row < stamp last := by
  have descending : (allBelow stamp bound rows).Pairwise
      fun first second => stamp second < stamp first := allBelow_descending stamp distinct
  rw [← List.take_append_drop limit (allBelow stamp bound rows)] at member descending
  rcases List.mem_append.mp member with here | later
  · exact .inl here
  · exact .inr ((List.pairwise_append.mp descending).2.2 last (List.mem_of_getLast? taken) row
      later)

theorem le_of_mem_take (distinct : KeyUnique stamp rows) {row last : Row}
    (taken : ((allBelow stamp bound rows).take limit).getLast? = some last)
    (member : row ∈ (allBelow stamp bound rows).take limit) : stamp last ≤ stamp row := by
  obtain ⟨front, shape⟩ := List.getLast?_eq_some_iff.mp taken
  have descending : ((allBelow stamp bound rows).take limit).Pairwise
      fun first second => stamp second < stamp first :=
    (allBelow_descending stamp distinct).sublist (List.take_sublist limit _)
  rw [shape] at member descending
  rcases List.mem_append.mp member with earlier | here
  · exact ((List.pairwise_append.mp descending).2.2 row earlier last (by simp)).le
  · rw [List.mem_singleton.mp here]

end Page

/-! ## A walk over the pages -/

/-- The pages from the `n`-th request on. One row more than a page holds is fetched, and the
next page starts below the last row that is shown. -/
inductive Walk (limit : ℕ) (snapshots : ℕ → List Row) :
    ℕ → WithTop Stamp → List (List Row) → Prop
  | last {n : ℕ} {bound : WithTop Stamp}
      (short : (pageBelow stamp bound (limit + 1) (snapshots n)).length ≤ limit) :
      Walk limit snapshots n bound [pageBelow stamp bound (limit + 1) (snapshots n)]
  | more {n : ℕ} {bound : WithTop Stamp} {last : Row} {rest : List (List Row)}
      (full : limit < (pageBelow stamp bound (limit + 1) (snapshots n)).length)
      (shown : ((pageBelow stamp bound (limit + 1) (snapshots n)).take limit).getLast? = some last)
      (further : Walk limit snapshots (n + 1) (stamp last) rest) :
      Walk limit snapshots n bound
        ((pageBelow stamp bound (limit + 1) (snapshots n)).take limit :: rest)

variable {stamp} {limit : ℕ} {snapshots : ℕ → List Row}

/-- What is shown of a page that fetched one row more. -/
theorem take_pageBelow (bound : WithTop Stamp) (rows : List Row) :
    (pageBelow stamp bound (limit + 1) rows).take limit =
      (allBelow stamp bound rows).take limit := by
  rw [pageBelow_eq_take, List.take_take, Nat.min_eq_left (Nat.le_succ limit)]

/-- **The walk ends.** The rows of the final table that are below the bound get fewer with
every page. -/
theorem Growing.exists_walk (growing : Growing stamp snapshots) (positive : 0 < limit) (n : ℕ)
    (bound : WithTop Stamp) : ∃ pages, Walk stamp limit snapshots n bound pages := by
  obtain ⟨final, settled⟩ := growing.settled
  generalize remaining :
    (snapshots final).countP (fun row => (stamp row : WithTop Stamp) < bound) = count
  induction count using Nat.strong_induction_on generalizing n bound with
  | _ count ih =>
      rcases Nat.lt_or_ge limit (pageBelow stamp bound (limit + 1) (snapshots n)).length with
        full | short
      · obtain ⟨last, shown⟩ := exists_last_of_full positive full
        have member := List.mem_of_getLast? shown
        rw [take_pageBelow] at member
        obtain ⟨stored, below⟩ := (mem_allBelow stamp).mp (List.mem_of_mem_take member)
        obtain ⟨other, there, same⟩ := settled n last stored
        have fewer : (snapshots final).countP
            (fun row => (stamp row : WithTop Stamp) < stamp last) < count := by
          rw [← remaining]
          refine countP_lt_of_mem ?_ there ?_ ?_
          · intro row _ lower
            rw [decide_eq_true_eq] at lower ⊢
            exact lower.trans below
          · rw [same, decide_eq_true_eq]
            exact lt_irrefl _
          · rw [same, decide_eq_true_eq]
            exact below
        obtain ⟨rest, further⟩ := ih _ fewer (n + 1) _ rfl
        exact ⟨_, .more full shown further⟩
      · exact ⟨_, .last short⟩

/-! ## What a walk returns -/

namespace Walk

variable {n : ℕ} {bound : WithTop Stamp} {pages : List (List Row)}

theorem mem_snapshot (walk : Walk stamp limit snapshots n bound pages) {row : Row}
    (member : row ∈ pages.flatten) : ∃ m, row ∈ snapshots m := by
  induction walk with
  | @last n bound short =>
      rw [List.flatten_singleton] at member
      rw [pageBelow_of_short stamp short] at member
      exact ⟨n, ((mem_allBelow stamp).mp member).1⟩
  | @more n bound last rest full shown further ih =>
      rw [List.flatten_cons, take_pageBelow] at member
      rcases List.mem_append.mp member with here | later
      · exact ⟨n, ((mem_allBelow stamp).mp (List.mem_of_mem_take here)).1⟩
      · exact ih later

theorem lt_of_mem (walk : Walk stamp limit snapshots n bound pages) {row : Row}
    (member : row ∈ pages.flatten) : (stamp row : WithTop Stamp) < bound := by
  induction walk with
  | last short =>
      rw [List.flatten_singleton, pageBelow_of_short stamp short] at member
      exact ((mem_allBelow stamp).mp member).2
  | more full shown further ih =>
      rw [List.flatten_cons, take_pageBelow] at member
      rcases List.mem_append.mp member with here | later
      · exact ((mem_allBelow stamp).mp (List.mem_of_mem_take here)).2
      · have last := List.mem_of_getLast? shown
        rw [take_pageBelow] at last
        exact (ih later).trans ((mem_allBelow stamp).mp (List.mem_of_mem_take last)).2

/-- **Page after page, the rows descend.** -/
theorem descending (distinct : ∀ n, KeyUnique stamp (snapshots n))
    (walk : Walk stamp limit snapshots n bound pages) :
    pages.flatten.Pairwise fun first second => stamp second < stamp first := by
  induction walk with
  | last short =>
      rw [List.flatten_singleton, pageBelow_of_short stamp short]
      exact allBelow_descending stamp (distinct _)
  | more full shown further ih =>
      rw [take_pageBelow] at shown
      rw [List.flatten_cons, take_pageBelow]
      refine List.pairwise_append.mpr ⟨?_, ih, ?_⟩
      · exact (allBelow_descending stamp (distinct _)).sublist (List.take_sublist _ _)
      · intro row here other later
        exact lt_of_lt_of_le (WithTop.coe_lt_coe.mp (further.lt_of_mem later))
          (le_of_mem_take stamp (distinct _) shown here)

/-- **No row below the bound is missing.** -/
theorem complete (growing : Growing stamp snapshots)
    (walk : Walk stamp limit snapshots n bound pages) {row : Row} (stored : row ∈ snapshots n)
    (below : (stamp row : WithTop Stamp) < bound) :
    ∃ returned ∈ pages.flatten, stamp returned = stamp row := by
  induction walk generalizing row with
  | last short =>
      refine ⟨row, ?_, rfl⟩
      rw [List.flatten_singleton, pageBelow_of_short stamp short]
      exact (mem_allBelow stamp).mpr ⟨stored, below⟩
  | more full shown further ih =>
      rw [take_pageBelow] at shown
      rw [List.flatten_cons, take_pageBelow]
      rcases mem_take_or_lt stamp (growing.distinct _) shown
        ((mem_allBelow stamp).mpr ⟨stored, below⟩) with here | lower
      · exact ⟨row, List.mem_append_left _ here, rfl⟩
      · obtain ⟨later, there, same⟩ := growing.kept _ row stored
        rw [← same] at lower
        obtain ⟨returned, member, equal⟩ := ih there (WithTop.coe_lt_coe.mpr lower)
        exact ⟨returned, List.mem_append_right _ member, equal.trans same⟩

end Walk

end Table
