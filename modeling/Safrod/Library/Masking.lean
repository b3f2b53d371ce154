import Safrod.Library.Keyset
import Safrod.Library.Machine

/-!
# Masked columns

A mask blanks some columns of the rows. A query that does not look at them finds in the masked
table the masked rows, and an update that sets them from nothing else commutes with the mask.
Where every step of a machine does, what is masked in the state and in the actions never
decides anything else (`Machine.run_masked`, `Machine.masked_of_masked`).
-/

set_option autoImplicit false

universe u v w x

/-! ## Queries and updates -/

namespace Table

section Rows

variable {Row : Type u} {mask : Row → Row} {rows : List Row}

theorem find?_masked {keep : Row → Bool} (blind : ∀ row, keep (mask row) = keep row) :
    (rows.map mask).find? keep = (rows.find? keep).map mask := by
  rw [List.find?_map]
  exact congrArg (fun found : Option Row => found.map mask)
    (congrArg (fun condition => rows.find? condition) (funext blind))

theorem filter_masked {keep : Row → Bool} (blind : ∀ row, keep (mask row) = keep row) :
    (rows.map mask).filter keep = (rows.filter keep).map mask := by
  rw [List.filter_map]
  exact congrArg (List.map mask) (congrArg (fun condition => rows.filter condition) (funext blind))

theorem exists_mem_masked {holds : Row → Prop} (blind : ∀ row, holds (mask row) ↔ holds row) :
    (∃ row ∈ rows.map mask, holds row) ↔ ∃ row ∈ rows, holds row := by
  constructor
  · rintro ⟨_, member, found⟩
    obtain ⟨row, there, rfl⟩ := List.mem_map.mp member
    exact ⟨row, there, (blind row).mp found⟩
  · rintro ⟨row, there, found⟩
    exact ⟨mask row, List.mem_map_of_mem there, (blind row).mpr found⟩

theorem lookup_masked {Key : Type v} [DecidableEq Key] {key : Row → Key}
    (blind : ∀ row, key (mask row) = key row) (value : Key) :
    lookup key value (rows.map mask) = (lookup key value rows).map mask :=
  find?_masked fun row => by rw [blind]

theorem updateWhere_masked {chosen : Row → Prop} [DecidablePred chosen] {set set' : Row → Row}
    (blind : ∀ row, chosen (mask row) ↔ chosen row)
    (sets : ∀ row, set' (mask row) = mask (set row)) :
    updateWhere chosen set' (rows.map mask) = (updateWhere chosen set rows).map mask := by
  simp only [updateWhere, List.map_map]
  refine List.map_congr_left fun row _ => ?_
  simp only [Function.comp_apply, blind, sets]
  split
  · rfl
  · rfl

theorem sumOf_masked {column : Row → Option ℤ} (blind : ∀ row, column (mask row) = column row) :
    sumOf column (rows.map mask) = sumOf column rows := by
  unfold sumOf
  rw [List.filterMap_map]
  exact congrArg List.sum (congrArg (fun read => rows.filterMap read) (funext blind))

/-- Rows are sorted by what the mask leaves. -/
theorem insertionSort_masked {before : Row → Row → Prop} [DecidableRel before]
    (blind : ∀ first second, before (mask first) (mask second) ↔ before first second) :
    (rows.map mask).insertionSort before = (rows.insertionSort before).map mask :=
  (List.map_insertionSort before before mask rows
    fun first _ second _ => (blind first second).symm).symm

theorem pageBelow_masked {Stamp : Type v} [LinearOrder Stamp] {stamp : Row → Stamp}
    (blind : ∀ row, stamp (mask row) = stamp row) (bound : WithTop Stamp) (limit : ℕ) :
    pageBelow stamp bound limit (rows.map mask) = (pageBelow stamp bound limit rows).map mask := by
  have kept : ((rows.map mask).filter fun row => (stamp row : WithTop Stamp) < bound) =
      (rows.filter fun row => (stamp row : WithTop Stamp) < bound).map mask :=
    filter_masked fun row => by rw [blind]
  unfold pageBelow pageBy page
  rw [kept, insertionSort_masked, List.map_take]
  intro first second
  simp only [blind]

end Rows

/-! ## Transactions -/

section Transactions

variable {Store : Type u} {Error : Type x} {Result : Type w} {mask : Store → Store}

/-- One statement of a body after another. -/
theorem bind_masked {Read : Type v} {Answer Shown : Type w} {first first' : Except Error Read}
    {rest : Read → Except Error Answer} {rest' : Read → Except Error Shown}
    {shown : Answer → Shown} (maskRead : Read → Read) (read : first' = first.map maskRead)
    (later : ∀ value, first = .ok value → rest' (maskRead value) = (rest value).map shown) :
    (first'.bind rest') = (first.bind rest).map shown := by
  subst read
  cases ended : first with
  | error error => rfl
  | ok value => exact later value ended

/-- How a body ends, with its results and the store masked. -/
def Finish.masked (mask : Store → Store) (shown : Result → Result) :
    Finish Store Result → Finish Store Result
  | .commit result work => .commit (shown result) (mask work)
  | .drop result => .drop (shown result)

theorem transaction_masked {body body' : Store → Except Error (Finish Store Result)}
    {store : Store} (shown : Result → Result)
    (alike : body' (mask store) = (body store).map (Finish.masked mask shown)) :
    transaction body' (mask store) =
      ((transaction body store).1.map shown, mask (transaction body store).2) := by
  unfold transaction
  rw [alike]
  cases body store with
  | error error => rfl
  | ok finish => cases finish <;> rfl

end Transactions

end Table

/-! ## Machines -/

namespace Machine

variable {State : Type u} {Action : Type v} {machine : Machine State Action}
  {maskState : State → State} {maskAction : Action → Action}

/-- **A masked run is the mask of the run.** -/
theorem run_masked
    (commutes : ∀ state action, machine.step (maskState state) (maskAction action) =
      (machine.step state action).map maskState) (start : State) (actions : List Action) :
    machine.run (maskState start) (actions.map maskAction) =
      (machine.run start actions).map maskState := by
  induction actions generalizing start with
  | nil => rfl
  | cons action rest ih =>
      simp only [List.map_cons, run, commutes]
      cases machine.step start action with
      | none => rfl
      | some next => exact ih next

/-- Two runs that are alike under the mask end alike under it. -/
theorem masked_of_masked
    (commutes : ∀ state action, machine.step (maskState state) (maskAction action) =
      (machine.step state action).map maskState) {start other last last' : State}
    {actions others : List Action} (starts : maskState start = maskState other)
    (alike : actions.map maskAction = others.map maskAction)
    (ran : machine.run start actions = some last) (also : machine.run other others = some last') :
    maskState last = maskState last' := by
  have first := run_masked commutes start actions
  have second := run_masked commutes other others
  rw [ran] at first
  rw [also, ← starts, ← alike, first] at second
  exact Option.some.inj second

end Machine
