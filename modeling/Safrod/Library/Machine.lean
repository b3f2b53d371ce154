import Mathlib.Data.List.Destutter
import Mathlib.Logic.Relation

/-!
# Labelled machines and their runs

A machine has initial states and a computed step: an action that is not enabled
in a state has no successor there. A run is a list of actions, and the step
function is the only source of nondeterminism-free behaviour, so everything an
environment may choose (an answer, a time, a schedule) is part of the action.

The file has the induction rules the developments over it use.

* `Reachable.invariant`: what holds initially and is kept by a step from a
  reachable state holds of every reachable state.
* `ReachableBy.invariant`: the same for runs all of whose steps meet a condition
  on the state before the step.
* `run_induction`: what a step keeps of a state and the actions that led to it holds
  of every run.
* `Leads.induct`: a reflexive and transitive relation that every step respects
  relates a reachable state to every later state.
* `Reachable.project`: a map under which every step of one machine is a step of
  another, or no step, sends reachable states to reachable states.
* `visited`: the states a run goes through, for statements about histories.
-/

set_option autoImplicit false

universe u v w x

/-- A labelled transition system whose step is a partial function of the state
and the action. -/
structure Machine (State : Type u) (Action : Type v) where
  initial : State → Prop
  step : State → Action → Option State

namespace Machine

variable {State : Type u} {Action : Type v} (machine : Machine State Action)

/-! ## Runs -/

/-- Performing a list of actions, the first one first. -/
def run : State → List Action → Option State
  | state, [] => some state
  | state, action :: rest =>
      match machine.step state action with
      | none => none
      | some next => run next rest

@[simp] theorem run_nil (state : State) : machine.run state [] = some state := rfl

theorem run_cons {state next : State} {action : Action} (rest : List Action)
    (step : machine.step state action = some next) :
    machine.run state (action :: rest) = machine.run next rest := by
  simp only [run, step]

theorem run_append (state : State) (first second : List Action) :
    machine.run state (first ++ second) =
      (machine.run state first).bind fun middle => machine.run middle second := by
  induction first generalizing state with
  | nil => rfl
  | cons action rest ih =>
      simp only [List.cons_append, run]
      cases machine.step state action with
      | none => rfl
      | some next => exact ih next

/-- One run after another. -/
theorem run_trans {state middle last : State} {first second : List Action}
    (ran : machine.run state first = some middle) (later : machine.run middle second = some last) :
    machine.run state (first ++ second) = some last := by
  rw [run_append, ran]
  exact later

theorem run_snoc {state middle next : State} {actions : List Action} {action : Action}
    (ran : machine.run state actions = some middle)
    (step : machine.step middle action = some next) :
    machine.run state (actions ++ [action]) = some next := by
  rw [run_append, ran]
  simp only [Option.bind_some, run, step]

/-- `later` comes after `earlier` in some run. -/
def Leads (earlier later : State) : Prop :=
  Relation.ReflTransGen (fun state next => ∃ action, machine.step state action = some next)
    earlier later

variable {machine}

theorem Leads.refl (state : State) : machine.Leads state state :=
  Relation.ReflTransGen.refl

theorem Leads.snoc {earlier middle later : State} {action : Action}
    (before : machine.Leads earlier middle) (step : machine.step middle action = some later) :
    machine.Leads earlier later :=
  Relation.ReflTransGen.tail before ⟨action, step⟩

theorem Leads.single {earlier later : State} {action : Action}
    (step : machine.step earlier action = some later) : machine.Leads earlier later :=
  Leads.snoc (Leads.refl earlier) step

theorem Leads.trans {earlier middle later : State} (first : machine.Leads earlier middle)
    (second : machine.Leads middle later) : machine.Leads earlier later :=
  Relation.ReflTransGen.trans first second

theorem leads_of_run {earlier later : State} {actions : List Action}
    (ran : machine.run earlier actions = some later) : machine.Leads earlier later := by
  induction actions generalizing earlier with
  | nil =>
      cases ran
      exact Leads.refl _
  | cons action rest ih =>
      simp only [run] at ran
      split at ran
      · cases ran
      · rename_i next step
        exact (Leads.single step).trans (ih ran)

/-! ## Reachable states -/

/-- The states runs reach when every step meets `meets`, a condition on the
state before the step and on its action. -/
inductive ReachableBy (machine : Machine State Action) (meets : State → Action → Prop) :
    State → Prop where
  | start {state : State} : machine.initial state → ReachableBy machine meets state
  | step {state next : State} {action : Action} : ReachableBy machine meets state →
      meets state action → machine.step state action = some next →
      ReachableBy machine meets next

/-- The states runs reach. -/
def Reachable (machine : Machine State Action) (state : State) : Prop :=
  machine.ReachableBy (fun _ _ => True) state

variable {meets : State → Action → Prop}

theorem Reachable.start {state : State} (initial : machine.initial state) :
    machine.Reachable state :=
  ReachableBy.start initial

theorem Reachable.next {state next : State} {action : Action} (reached : machine.Reachable state)
    (step : machine.step state action = some next) : machine.Reachable next :=
  ReachableBy.step reached trivial step

theorem ReachableBy.reachable {state : State} (reached : machine.ReachableBy meets state) :
    machine.Reachable state := by
  induction reached with
  | start initial => exact Reachable.start initial
  | step _ _ step ih => exact ih.next step

/-- A run whose steps meet a condition meets a weaker one. -/
theorem ReachableBy.mono {weaker : State → Action → Prop}
    (weakens : ∀ state action, meets state action → weaker state action) {state : State}
    (reached : machine.ReachableBy meets state) : machine.ReachableBy weaker state := by
  induction reached with
  | start initial => exact .start initial
  | step _ met step ih => exact ih.step (weakens _ _ met) step

/-- A step lemma for a condition on steps gives an invariant of the runs whose
steps meet it. -/
theorem ReachableBy.invariant (holds : State → Prop)
    (start : ∀ state, machine.initial state → holds state)
    (keeps : ∀ state action next, machine.Reachable state → holds state →
      meets state action → machine.step state action = some next → holds next)
    {state : State} (reached : machine.ReachableBy meets state) : holds state := by
  induction reached with
  | start initial => exact start _ initial
  | step earlier met step ih => exact keeps _ _ _ earlier.reachable ih met step

/-- A step lemma gives an invariant. -/
theorem Reachable.invariant (holds : State → Prop)
    (start : ∀ state, machine.initial state → holds state)
    (keeps : ∀ state action next, machine.Reachable state → holds state →
      machine.step state action = some next → holds next)
    {state : State} (reached : machine.Reachable state) : holds state :=
  ReachableBy.invariant holds start
    (fun state action next earlier held _ step => keeps state action next earlier held step)
    reached

theorem Reachable.leads {earlier later : State} (reached : machine.Reachable earlier)
    (leads : machine.Leads earlier later) : machine.Reachable later := by
  induction leads with
  | refl => exact reached
  | tail _ step ih =>
      obtain ⟨action, step⟩ := step
      exact ih.next step

theorem reachable_of_run {start state : State} {actions : List Action}
    (initial : machine.initial start) (ran : machine.run start actions = some state) :
    machine.Reachable state :=
  (Reachable.start initial).leads (leads_of_run ran)

/-- Every step of a run meets a condition. -/
def StepsMeet (machine : Machine State Action) (meets : State → Action → Prop) :
    State → List Action → Prop
  | _, [] => True
  | state, action :: rest =>
      meets state action ∧
        ∀ next, machine.step state action = some next → StepsMeet machine meets next rest

theorem StepsMeet.nil (state : State) : machine.StepsMeet meets state [] := trivial

theorem StepsMeet.cons {state next : State} {action : Action} {rest : List Action}
    (met : meets state action) (step : machine.step state action = some next)
    (later : machine.StepsMeet meets next rest) :
    machine.StepsMeet meets state (action :: rest) := by
  refine ⟨met, ?_⟩
  intro other stepped
  cases step.symm.trans stepped
  exact later

/-- The steps of one run after another. -/
theorem StepsMeet.append {start : State} {first second : List Action}
    (met : machine.StepsMeet meets start first)
    (later : ∀ middle, machine.run start first = some middle →
      machine.StepsMeet meets middle second) :
    machine.StepsMeet meets start (first ++ second) := by
  induction first generalizing start with
  | nil => exact later start rfl
  | cons action rest ih =>
      refine ⟨met.1, ?_⟩
      intro next step
      refine ih (met.2 next step) ?_
      intro middle ran
      exact later middle ((machine.run_cons rest step).trans ran)

theorem reachableBy_of_run {start state : State} {actions : List Action}
    (reached : machine.ReachableBy meets start) (met : machine.StepsMeet meets start actions)
    (ran : machine.run start actions = some state) : machine.ReachableBy meets state := by
  induction actions generalizing start with
  | nil =>
      cases ran
      exact reached
  | cons action rest ih =>
      simp only [run] at ran
      split at ran
      · cases ran
      · rename_i next step
        exact ih (.step reached met.1 step) (met.2 next step) ran

/-- What such steps keep is kept along the run. -/
theorem StepsMeet.keeps (holds : State → Prop)
    (kept : ∀ state action next, machine.Reachable state → holds state → meets state action →
      machine.step state action = some next → holds next)
    {start state : State} {actions : List Action} (met : machine.StepsMeet meets start actions)
    (reached : machine.Reachable start) (held : holds start)
    (ran : machine.run start actions = some state) : holds state := by
  induction actions generalizing start with
  | nil =>
      cases ran
      exact held
  | cons action rest ih =>
      simp only [run] at ran
      split at ran
      · cases ran
      · rename_i next step
        exact ih (met.2 next step) (reached.next step)
          (kept _ _ _ reached held met.1 step) ran

/-- A condition that only looks at the actions is met by the runs of such actions. -/
theorem stepsMeet_of_forall {actions : List Action}
    (met : ∀ action ∈ actions, ∀ state, meets state action) (start : State) :
    machine.StepsMeet meets start actions := by
  induction actions generalizing start with
  | nil => trivial
  | cons action rest ih =>
      refine ⟨met action List.mem_cons_self start, ?_⟩
      intro next _
      exact ih (fun other member => met other (List.mem_cons_of_mem action member)) next

/-- A reflexive and transitive relation that every step from a reachable state
respects relates a reachable state to every later one. -/
theorem Leads.induct (related : State → State → Prop) (refl : ∀ state, related state state)
    (trans : ∀ first second third, related first second → related second third →
      related first third)
    (keeps : ∀ state action next, machine.Reachable state →
      machine.step state action = some next → related state next)
    {earlier later : State} (reached : machine.Reachable earlier)
    (leads : machine.Leads earlier later) : related earlier later := by
  induction leads with
  | refl => exact refl _
  | tail before step ih =>
      obtain ⟨action, step⟩ := step
      exact trans _ _ _ ih (keeps _ _ _ (reached.leads before) step)

/-- A map that turns each step of one machine into a step of another, or into
no step, sends reachable states to reachable states. -/
theorem Reachable.project {Other : Type w} {Label : Type x} {other : Machine Other Label}
    (view : State → Other)
    (start : ∀ state, machine.initial state → other.initial (view state))
    (follow : ∀ state action next, machine.Reachable state →
      machine.step state action = some next →
      view next = view state ∨ ∃ label, other.step (view state) label = some (view next))
    {state : State} (reached : machine.Reachable state) : other.Reachable (view state) := by
  refine Reachable.invariant (fun state => other.Reachable (view state))
    (fun state initial => Reachable.start (start state initial)) ?_ reached
  intro state action next earlier held step
  rcases follow state action next earlier step with same | ⟨label, moved⟩
  · rw [same]
    exact held
  · exact held.next moved

/-! ## Histories -/

/-- The states a run visits, its first state included, in order. A run stops
where an action is not enabled. -/
def visited (machine : Machine State Action) : State → List Action → List State
  | state, [] => [state]
  | state, action :: rest =>
      match machine.step state action with
      | none => [state]
      | some next => state :: visited machine next rest

theorem visited_head (state : State) (actions : List Action) :
    ∃ rest, machine.visited state actions = state :: rest := by
  cases actions with
  | nil => exact ⟨[], rfl⟩
  | cons action rest =>
      simp only [visited]
      split
      · exact ⟨[], rfl⟩
      · exact ⟨_, rfl⟩

theorem visited_snoc {start state next : State} {actions : List Action} {action : Action}
    (ran : machine.run start actions = some state)
    (step : machine.step state action = some next) :
    machine.visited start (actions ++ [action]) = machine.visited start actions ++ [next] := by
  induction actions generalizing start with
  | nil =>
      cases ran
      simp only [List.nil_append, visited, step]
      rfl
  | cons first rest ih =>
      simp only [run] at ran
      split at ran
      · cases ran
      · rename_i middle moved
        simp only [List.cons_append, visited, moved, ih ran]

/-- When each step keeps what holds exactly if it meets a condition, a run keeps it
throughout exactly if all its steps do. -/
theorem forall_visited_iff_stepsMeet (holds : State → Prop) (meets : State → Action → Prop)
    (exact_ : ∀ state action next, machine.Reachable state → holds state →
      machine.step state action = some next → (holds next ↔ meets state action))
    {start last : State} (reached : machine.Reachable start) (held : holds start)
    {actions : List Action} (ran : machine.run start actions = some last) :
    (∀ state ∈ machine.visited start actions, holds state) ↔
      machine.StepsMeet meets start actions := by
  induction actions generalizing start with
  | nil =>
      refine iff_of_true ?_ (StepsMeet.nil start)
      intro state member
      cases List.mem_singleton.mp member
      exact held
  | cons action rest ih =>
      simp only [run] at ran
      split at ran
      · cases ran
      · rename_i next step
        have here := exact_ start action next reached held step
        simp only [visited, step, List.forall_mem_cons]
        constructor
        · rintro ⟨-, later⟩
          obtain ⟨tail, shape⟩ := machine.visited_head next rest
          have heldNext : holds next := later next (shape ▸ List.mem_cons_self)
          exact .cons (here.mp heldNext) step ((ih (reached.next step) heldNext ran).mp later)
        · rintro ⟨met, later⟩
          have heldNext := here.mpr met
          exact ⟨held, (ih (reached.next step) heldNext ran).mpr (later next step)⟩

/-- When each step relates its states exactly if it meets a condition, a run relates each
state to the next exactly if all its steps do. -/
theorem isChain_visited_iff_stepsMeet (related : State → State → Prop)
    (meets : State → Action → Prop)
    (exact_ : ∀ state action next, machine.Reachable state →
      machine.step state action = some next → (related state next ↔ meets state action))
    {start last : State} (reached : machine.Reachable start) {actions : List Action}
    (ran : machine.run start actions = some last) :
    (machine.visited start actions).IsChain related ↔ machine.StepsMeet meets start actions := by
  induction actions generalizing start with
  | nil => exact iff_of_true (List.IsChain.singleton start) (StepsMeet.nil start)
  | cons action rest ih =>
      simp only [run] at ran
      split at ran
      · cases ran
      · rename_i next step
        have here := exact_ start action next reached step
        have later := ih (reached.next step) ran
        obtain ⟨tail, shape⟩ := machine.visited_head next rest
        simp only [visited, step]
        rw [shape] at later ⊢
        rw [List.isChain_cons_cons, later, here]
        constructor
        · rintro ⟨met, others⟩
          exact .cons met step others
        · rintro ⟨met, others⟩
          exact ⟨met, others next step⟩

/-- The last state a run visits is the one it ends in. -/
theorem visited_last {start state : State} {actions : List Action}
    (ran : machine.run start actions = some state) : ∃ before,
      machine.visited start actions = before ++ [state] := by
  induction actions generalizing start with
  | nil =>
      cases ran
      exact ⟨[], rfl⟩
  | cons first rest ih =>
      simp only [run] at ran
      split at ran
      · cases ran
      · rename_i middle moved
        obtain ⟨before, same⟩ := ih ran
        exact ⟨start :: before, by simp only [visited, moved, same, List.cons_append]⟩

/-- Induction on a run from its end: what holds of the run of no action and
survives one more enabled action holds of every run. -/
theorem run_induction {start : State} (holds : List Action → State → Prop)
    (nil : holds [] start)
    (snoc : ∀ actions state action next, machine.run start actions = some state →
      holds actions state → machine.step state action = some next →
      holds (actions ++ [action]) next)
    {actions : List Action} {state : State} (ran : machine.run start actions = some state) :
    holds actions state := by
  induction actions using List.reverseRecOn generalizing state with
  | nil =>
      cases ran
      exact nil
  | append_singleton before action ih =>
      rw [run_append] at ran
      obtain ⟨middle, middleRan, last⟩ := Option.bind_eq_some_iff.mp ran
      simp only [run] at last
      split at last
      · cases last
      · rename_i next step
        cases last
        exact snoc before middle action _ middleRan (ih middleRan) step

/-- What an observation shows of the states of a run, where it shows anything. -/
def observed {Shown : Type w} (machine : Machine State Action) (observe : State → Option Shown)
    (start : State) (actions : List Action) : List Shown :=
  (machine.visited start actions).filterMap observe

theorem observed_nil {Shown : Type w} (observe : State → Option Shown) (start : State) :
    machine.observed observe start [] = (observe start).toList := by
  cases shown : observe start with
  | none => simp only [observed, visited, List.filterMap_cons, shown, List.filterMap_nil,
      Option.toList_none]
  | some value => simp only [observed, visited, List.filterMap_cons, shown, List.filterMap_nil,
      Option.toList_some]

theorem observed_snoc {Shown : Type w} (observe : State → Option Shown) {start state next : State}
    {actions : List Action} {action : Action} (ran : machine.run start actions = some state)
    (step : machine.step state action = some next) :
    machine.observed observe start (actions ++ [action]) =
      machine.observed observe start actions ++ (observe next).toList := by
  rw [observed, visited_snoc ran step, List.filterMap_append, observed]
  cases shown : observe next with
  | none => simp only [List.filterMap_cons, shown, List.filterMap_nil, Option.toList_none]
  | some value => simp only [List.filterMap_cons, shown, List.filterMap_nil, Option.toList_some]

/-- An observation that appears with a first value, never disappears, and at each
step stays or moves by `related`, shows a chain along every run. -/
theorem observed_isChain {Shown : Type w} (observe : State → Option Shown)
    (related : Shown → Shown → Prop) (first : Shown → Prop) {start : State}
    (starts : ∀ value, observe start = some value → first value)
    (appears : ∀ state action next, machine.step state action = some next →
      observe state = none → ∀ value, observe next = some value → first value)
    (stays : ∀ state action next, machine.step state action = some next →
      ∀ value, observe state = some value →
        ∃ value', observe next = some value' ∧ (value = value' ∨ related value value'))
    {actions : List Action} {state : State} (ran : machine.run start actions = some state) :
    (machine.observed observe start actions).IsChain (fun a b => a = b ∨ related a b) ∧
      (∀ value, (machine.observed observe start actions).head? = some value → first value) ∧
      (machine.observed observe start actions).getLast? = observe state := by
  refine run_induction (fun actions state =>
    (machine.observed observe start actions).IsChain (fun a b => a = b ∨ related a b) ∧
      (∀ value, (machine.observed observe start actions).head? = some value → first value) ∧
      (machine.observed observe start actions).getLast? = observe state) ?_ ?_ ran
  · rw [observed_nil]
    cases shown : observe start with
    | none =>
        refine ⟨List.IsChain.nil, ?_, rfl⟩
        rintro _ ⟨⟩
    | some value =>
        refine ⟨List.IsChain.singleton value, ?_, rfl⟩
        rintro _ ⟨⟩
        exact starts value shown
  · intro before middle action next middleRan held step
    obtain ⟨chain, head, last⟩ := held
    rw [observed_snoc observe middleRan step]
    cases before_ : observe middle with
    | none =>
        have empty : machine.observed observe start before = [] := by
          rw [before_] at last
          exact List.getLast?_eq_none_iff.mp last
        rw [empty, List.nil_append]
        cases shown : observe next with
        | none =>
            refine ⟨List.IsChain.nil, ?_, rfl⟩
            rintro _ ⟨⟩
        | some value =>
            refine ⟨List.IsChain.singleton value, ?_, rfl⟩
            rintro _ ⟨⟩
            exact appears middle action next step before_ value shown
    | some value =>
        obtain ⟨value', shown, moved⟩ := stays middle action next step value before_
        rw [shown, Option.toList_some]
        rw [before_] at last
        refine ⟨?_, ?_, List.getLast?_concat⟩
        · refine List.isChain_append.mpr ⟨chain, List.IsChain.singleton value', ?_⟩
          intro a aLast b bHead
          rw [last] at aLast
          cases aLast
          cases bHead
          exact moved
        · intro a aHead
          refine head a ?_
          cases shape : machine.observed observe start before with
          | nil =>
              rw [shape] at last
              cases last
          | cons hd tl =>
              rw [shape] at aHead
              exact aHead

end Machine

/-! ## Chains up to repetition -/

theorem List.destutter'_ne_eq_cons {α : Type u} [DecidableEq α] (head : α) (values : List α) :
    ∃ rest, List.destutter' (· ≠ ·) head values = head :: rest := by
  induction values generalizing head with
  | nil => exact ⟨[], rfl⟩
  | cons next values ih =>
      by_cases same : head = next
      · subst same
        rw [List.destutter'_cons_neg _ (by simp)]
        exact ih head
      · rw [List.destutter'_cons_pos _ same]
        exact ⟨_, rfl⟩

/-- In a list whose neighbours are equal or related, the neighbours of the list
without consecutive repetitions are related. -/
theorem List.isChain_destutter'_of_eq_or {α : Type u} [DecidableEq α] {related : α → α → Prop}
    {head : α} {values : List α}
    (chain : (head :: values).IsChain fun a b => a = b ∨ related a b) :
    (List.destutter' (· ≠ ·) head values).IsChain related := by
  induction values generalizing head with
  | nil => exact List.IsChain.singleton head
  | cons next values ih =>
      obtain ⟨here, later⟩ := List.isChain_cons_cons.mp chain
      by_cases same : head = next
      · subst same
        rw [List.destutter'_cons_neg _ (by simp)]
        exact ih later
      · rw [List.destutter'_cons_pos _ same]
        have tail := ih later
        obtain ⟨rest, shape⟩ := List.destutter'_ne_eq_cons next values
        rw [shape] at tail ⊢
        exact List.isChain_cons_cons.mpr ⟨here.resolve_left same, tail⟩
