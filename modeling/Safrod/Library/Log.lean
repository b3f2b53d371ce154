import Safrod.Library.Page
import Safrod.Library.Table

/-!
# The log of a table

A table changes by inserts and updates, and a log gets an entry with a change. A log may
account for the table in two ways.

* `Tallied`: what the entries add up to is what the rows add up to.
* `Replicated`: the entries carry images of rows, and the latest image of each key, in the
  order in which the keys came, is what is seen of the table.

The entries are numbered upwards (`Ascending`). A reader who asked for some of them asks for
those after the last one next, and misses none (`Ascending.drop_eq_filter`).
-/

set_option autoImplicit false

universe u v w x

namespace Table

/-! ## Sums -/

section Tally

variable {Row : Type u} {Key : Type v} {Entry : Type w} {weight : Row → ℤ} {amount : Entry → ℤ}
  {rows : List Row} {log : List Entry}

/-- The log adds up to what the rows add up to. -/
def Tallied (weight : Row → ℤ) (amount : Entry → ℤ) (rows : List Row) (log : List Entry) : Prop :=
  (log.map amount).sum = (rows.map weight).sum

theorem Tallied.nil : Tallied weight amount [] [] := rfl

/-- A row that weighs nothing is added. -/
theorem Tallied.inserted (tallied : Tallied weight amount rows log) {row : Row}
    (nothing : weight row = 0) : Tallied weight amount (rows ++ [row]) log := by
  rw [Tallied, List.map_append, List.sum_append, List.map_singleton, List.sum_singleton, nothing,
    Int.add_zero]
  exact tallied

/-- An entry that carries no amount is logged. -/
theorem Tallied.logged (tallied : Tallied weight amount rows log) {entry : Entry}
    (nothing : amount entry = 0) : Tallied weight amount rows (log ++ [entry]) := by
  rw [Tallied, List.map_append, List.sum_append, List.map_singleton, List.sum_singleton, nothing,
    Int.add_zero]
  exact tallied

/-- Rows are rewritten, and none of them weighs more or less. -/
theorem Tallied.rewritten (tallied : Tallied weight amount rows log) {chosen : Row → Prop}
    [DecidablePred chosen] {set : Row → Row}
    (same : ∀ row ∈ rows, chosen row → weight (set row) = weight row) :
    Tallied weight amount (updateWhere chosen set rows) log := by
  have weights : (updateWhere chosen set rows).map weight = rows.map weight := by
    simp only [updateWhere, List.map_map]
    refine List.map_congr_left fun row member => ?_
    simp only [Function.comp_apply]
    split
    · rename_i here
      exact same row member here
    · rfl
  rw [Tallied, weights]
  exact tallied

/-- **The entry carries what the row of a key gains.** -/
theorem Tallied.updated [DecidableEq Key] {key : Row → Key}
    (tallied : Tallied weight amount rows log) (unique : KeyUnique key rows) {old : Row}
    (member : old ∈ rows) {set : Row → Row} {entry : Entry}
    (gain : amount entry = weight (set old) - weight old) :
    Tallied weight amount (updateWhere (fun row => key row = key old) set rows)
      (log ++ [entry]) := by
  have before : (log.map amount).sum = (rows.map weight).sum := tallied
  rw [Tallied, unique.sum_updateWhere member, List.map_append, List.sum_append,
    List.map_singleton, List.sum_singleton, gain, before]
  omega

/-- A sum over the rows of a condition, as a sum over all rows. -/
theorem sumOf_filter (column : Row → Option ℤ) (counts : Row → Prop) [DecidablePred counts]
    (rows : List Row) :
    sumOf column (rows.filter fun row => counts row) =
      (rows.map fun row => if counts row then (column row).getD 0 else 0).sum := by
  induction rows with
  | nil => rfl
  | cons row rest ih =>
      rw [List.map_cons, List.sum_cons, ← ih]
      by_cases here : counts row
      · simp only [List.filter_cons, here, decide_true, if_true, sumOf_cons]
      · simp only [List.filter_cons, here, decide_false, Bool.false_eq_true, if_false,
          Int.zero_add]

end Tally

/-! ## Images -/

section Replica

variable {Row : Type u} {Key : Type v} {Entry : Type w} {Image : Type x} [DecidableEq Key]

/-- The image of a row takes the place of the earlier image of the key, or comes last. -/
def upsert (key : Image → Key) (images : List Image) (image : Image) : List Image :=
  if ∃ old ∈ images, key old = key image then
    updateWhere (fun old => key old = key image) (fun _ => image) images
  else images ++ [image]

/-- What a reader keeps of a log whose entries carry images of rows. -/
def replay (key : Image → Key) (image : Entry → Option Image) (log : List Entry) : List Image :=
  (log.filterMap image).foldl (upsert key) []

/-- A reader of the log has what is seen of the table. -/
def Replicated (key : Image → Key) (image : Entry → Option Image) (view : Row → Option Image)
    (rows : List Row) (log : List Entry) : Prop :=
  replay key image log = rows.filterMap view

variable {key : Image → Key} {image : Entry → Option Image} {view : Row → Option Image}
  {rows : List Row} {log : List Entry}

theorem Replicated.nil : Replicated key image view [] [] := rfl

theorem replay_append_singleton (log : List Entry) (entry : Entry) :
    replay key image (log ++ [entry]) =
      match image entry with
      | none => replay key image log
      | some seen => upsert key (replay key image log) seen := by
  rw [replay, List.filterMap_append, List.foldl_append]
  cases read : image entry with
  | none =>
      have nothing : [entry].filterMap image = [] := by
        rw [List.filterMap_cons_none read, List.filterMap_nil]
      rw [nothing]
      rfl
  | some seen =>
      have one : [entry].filterMap image = [seen] := by
        rw [List.filterMap_cons_some read, List.filterMap_nil]
      rw [one]
      rfl

/-- An entry that carries no image is logged. -/
theorem Replicated.logged (replicated : Replicated key image view rows log) {entry : Entry}
    (nothing : image entry = none) : Replicated key image view rows (log ++ [entry]) := by
  rw [Replicated, replay_append_singleton, nothing]
  exact replicated

/-- A row that is not seen is added. -/
theorem Replicated.hidden (replicated : Replicated key image view rows log) {row : Row}
    (unseen : view row = none) : Replicated key image view (rows ++ [row]) log := by
  rw [Replicated, List.filterMap_append, List.filterMap_cons_none unseen, List.filterMap_nil,
    List.append_nil]
  exact replicated

/-- Rows are rewritten, and nothing else is seen of them. -/
theorem Replicated.rewritten (replicated : Replicated key image view rows log)
    {chosen : Row → Prop} [DecidablePred chosen] {set : Row → Row}
    (same : ∀ row ∈ rows, chosen row → view (set row) = view row) :
    Replicated key image view (updateWhere chosen set rows) log := by
  have views : (updateWhere chosen set rows).filterMap view = rows.filterMap view := by
    rw [updateWhere, List.filterMap_map]
    refine List.filterMap_congr fun row member => ?_
    simp only [Function.comp_apply]
    split
    · rename_i here
      exact same row member here
    · rfl
  rw [Replicated, views]
  exact replicated

section Rows

variable {rowKey : Row → Key} (keyed : ∀ row seen, view row = some seen → key seen = rowKey row)

include keyed

/-- **A row of a new key is added, and the entry carries what is seen of it.** -/
theorem Replicated.inserted (replicated : Replicated key image view rows log) {row : Row}
    (fresh : ∀ old ∈ rows, rowKey old ≠ rowKey row) {entry : Entry}
    (carried : image entry = view row) :
    Replicated key image view (rows ++ [row]) (log ++ [entry]) := by
  have before : replay key image log = rows.filterMap view := replicated
  rw [Replicated, replay_append_singleton, carried, List.filterMap_append]
  cases seen : view row with
  | none =>
      rw [List.filterMap_cons_none seen, List.filterMap_nil, List.append_nil]
      exact before
  | some new =>
      have absent : ¬ ∃ old ∈ rows.filterMap view, key old = key new := by
        rintro ⟨old, member, same⟩
        obtain ⟨source, there, shown⟩ := List.mem_filterMap.mp member
        refine fresh source there ?_
        rw [← keyed source old shown, ← keyed row new seen, same]
      rw [List.filterMap_cons_some seen, List.filterMap_nil]
      simp only [before, upsert, if_neg absent]

/-- **The row of a key is rewritten, and the entry carries what is then seen of it.** -/
theorem Replicated.updated (replicated : Replicated key image view rows log)
    (unique : KeyUnique rowKey rows) {old : Row} (member : old ∈ rows) {set : Row → Row}
    (kept : rowKey (set old) = rowKey old) {entry : Entry}
    (carried : image entry = view (set old)) (visible : view old = none ↔ view (set old) = none) :
    Replicated key image view (updateWhere (fun row => rowKey row = rowKey old) set rows)
      (log ++ [entry]) := by
  have before : replay key image log = rows.filterMap view := replicated
  rw [Replicated, replay_append_singleton, carried]
  have others : ∀ row ∈ rows, rowKey row = rowKey old → row = old :=
    fun row there same => unique.eq_of_key there member same
  cases seen : view (set old) with
  | none =>
      have hidden := visible.mpr seen
      rw [updateWhere, List.filterMap_map]
      refine before.trans (List.filterMap_congr fun row there => ?_)
      simp only [Function.comp_apply]
      split
      · rename_i same
        rw [others row there same, seen, hidden]
      · rfl
  | some new =>
      have newKey : key new = rowKey old := (keyed _ new seen).trans kept
      obtain ⟨earlier, shown⟩ := Option.ne_none_iff_exists'.mp fun hidden =>
        Option.some_ne_none new (seen.symm.trans (visible.mp hidden))
      have present : ∃ image ∈ rows.filterMap view, key image = key new :=
        ⟨earlier, List.mem_filterMap.mpr ⟨old, member, shown⟩, by
          rw [newKey, keyed old earlier shown]⟩
      simp only [before, upsert, if_pos present]
      rw [updateWhere, updateWhere, List.map_filterMap, List.filterMap_map]
      refine List.filterMap_congr fun row there => ?_
      simp only [Function.comp_apply]
      by_cases same : rowKey row = rowKey old
      · rw [if_pos same, others row there same, shown, seen, Option.map_some,
          if_pos ((keyed old earlier shown).trans newKey.symm)]
      · rw [if_neg same]
        cases visibleRow : view row with
        | none => rfl
        | some other =>
            have apart : key other ≠ key new := by
              rw [newKey, keyed row other visibleRow]
              exact same
            rw [Option.map_some, if_neg apart]

end Rows

end Replica

/-! ## Reading on -/

section Reading

variable {Entry : Type w} {Stamp : Type v} [LinearOrder Stamp] (stamp : Entry → Stamp)

/-- The entries are numbered upwards. -/
def Ascending (log : List Entry) : Prop :=
  log.Pairwise fun first second => stamp first < stamp second

variable {stamp} {log : List Entry}

/-- Numbered upwards, the entries are in their order. -/
theorem Ascending.pageBy_eq_take (ascending : Ascending stamp log) (limit : ℕ) :
    pageBy stamp limit log = log.take limit := by
  have sorted : log.Pairwise fun first second => stamp first ≤ stamp second :=
    ascending.imp fun below => below.le
  rw [pageBy, page, sorted.insertionSort_eq]

/-- **What is left after some entries is what comes after the last of them.** -/
theorem Ascending.drop_eq_filter (ascending : Ascending stamp log) {limit : ℕ} {last : Entry}
    (shown : (log.take limit).getLast? = some last) :
    log.drop limit = log.filter fun entry => stamp last < stamp entry := by
  obtain ⟨front, shape⟩ := List.getLast?_eq_some_iff.mp shown
  have split : log = (front ++ [last]) ++ log.drop limit := by
    rw [← shape, List.take_append_drop]
  have ordered : ((front ++ [last]) ++ log.drop limit).Pairwise
      fun first second => stamp first < stamp second := split ▸ ascending
  obtain ⟨read, -, later⟩ := List.pairwise_append.mp ordered
  have passed : ∀ entry ∈ front ++ [last], ¬ stamp last < stamp entry := by
    intro entry member
    rcases List.mem_append.mp member with earlier | here
    · have below := (List.pairwise_append.mp read).2.2 entry earlier last
        (List.mem_singleton_self _)
      exact below.le.not_gt
    · rw [List.mem_singleton.mp here]
      exact lt_irrefl _
  have nothing : (front ++ [last]).filter (fun entry => stamp last < stamp entry) = [] :=
    List.filter_eq_nil_iff.mpr fun entry member => by simpa using passed entry member
  have all : (log.drop limit).filter (fun entry => stamp last < stamp entry) =
      log.drop limit := List.filter_eq_self.mpr fun entry member => by
    simpa using later last (List.mem_append_right _ (List.mem_singleton_self _)) entry member
  conv_rhs => rw [split, List.filter_append, nothing, all, List.nil_append]

end Reading

end Table
