import Mathlib.Data.Nat.Notation
import Mathlib.Logic.Function.Basic
import Safrod.Library.Machine
import Safrod.Library.Program

/-!
# Pools of handlers

A service answers every request with a program. Any number of them run at once over one
shared state: each step makes the next call of one program, and a program may be abandoned
at any call.

`pool_invariant` is the rule for what holds at every time. It takes the programs one by one:
each follows a protocol, and what a program knows of the shared state outlasts the calls that
the others make (`Discipline`).
-/

set_option autoImplicit false

universe u v w x y z

open Machine Program

/-- The shared state, the requests that came in, the newest first, and the programs that run
for them. -/
structure Pool (Shared : Type u) (Request : Type v) (Call : Type w) (Answer : Call → Type x)
    (Value : Type y) where
  shared : Shared
  asked : List Request
  running : ℕ → Option (Request × Program Call Answer Value)

inductive PoolAction (Request : Type v) (Draw : Type z) where
  | start (slot : ℕ) (request : Request)
  /-- The program makes its next call, or ends. The draw is what the surroundings add. -/
  | advance (slot : ℕ) (draw : Draw)
  | cancel (slot : ℕ)

section Pools

variable {Shared : Type u} {Request : Type v} {Call : Type w} {Answer : Call → Type x}
  {Value : Type y} {Draw : Type z}

/-- The pool that starts where nothing was asked. -/
def pool (initial : Shared → Prop) (program : Request → Program Call Answer Value)
    (handle : Draw → (call : Call) → Shared → Answer call × Shared) :
    Machine (Pool Shared Request Call Answer Value) (PoolAction Request Draw) where
  initial state := initial state.shared ∧ state.asked = [] ∧ ∀ slot, state.running slot = none
  step state
    | .start slot request =>
        match state.running slot with
        | some _ => none
        | none => some { state with
            asked := request :: state.asked
            running := Function.update state.running slot (some (request, program request)) }
    | .advance slot draw =>
        match state.running slot with
        | none => none
        | some (_, .done _) =>
            some { state with running := Function.update state.running slot none }
        | some (request, .ask call next) =>
            some { state with
              shared := (handle draw call state.shared).2
              running := Function.update state.running slot
                (some (request, next (handle draw call state.shared).1)) }
    | .cancel slot => some { state with running := Function.update state.running slot none }

/-! ## The rule -/

/-- How the programs of a service are checked one by one. `known` is what a program has learned
of its answers, and `knows` what it says of the shared state; it outlasts what the calls of
other programs do, which is `becomes`. -/
structure Discipline (Shared : Type u) (Request : Type v) (Call : Type w) (Answer : Call → Type x)
    (Known : Type z) where
  protocol : Request → Protocol Call Answer Known
  knows : Request → Known → Shared → Prop
  first : Known
  becomes : Shared → Shared → Prop
  knows_first : ∀ request shared, knows request first shared
  knows_later : ∀ request known shared later, becomes shared later → knows request known shared →
    knows request known later

variable {Known : Type z} {initial : Shared → Prop}
  {program : Request → Program Call Answer Value}
  {handle : Draw → (call : Call) → Shared → Answer call × Shared}
  {discipline : Discipline Shared Request Call Answer Known}
  {holds : List Request → Shared → Prop} {state : Pool Shared Request Call Answer Value}

/-- A program that runs was asked for, and follows its protocol with what it knows. -/
def Pool.Checked (discipline : Discipline Shared Request Call Answer Known)
    (state : Pool Shared Request Call Answer Value)
    (entry : Request × Program Call Answer Value) : Prop :=
  entry.1 ∈ state.asked ∧ ∃ known, discipline.knows entry.1 known state.shared ∧
    entry.2.Follows (discipline.protocol entry.1) (fun _ _ => True) known

/-- The invariant, and the programs that run. -/
structure Pool.Sound (discipline : Discipline Shared Request Call Answer Known)
    (holds : List Request → Shared → Prop) (state : Pool Shared Request Call Answer Value) :
    Prop where
  holds : holds state.asked state.shared
  checked : ∀ slot entry, state.running slot = some entry → state.Checked discipline entry

theorem Pool.Sound.withRunning (sound : state.Sound discipline holds) (slot : ℕ)
    {entry : Option (Request × Program Call Answer Value)}
    (checked : ∀ other, entry = some other → state.Checked discipline other) :
    Pool.Sound discipline holds
      { state with running := Function.update state.running slot entry } where
  holds := sound.holds
  checked := by
    intro other asked here
    by_cases same : other = slot
    · subst same
      simp only [Function.update_self] at here
      exact checked asked here
    · simp only [Function.update_of_ne same] at here
      exact sound.checked other asked here

/-- One more request, and another shared state. -/
theorem Pool.Checked.later {asked : List Request} {shared : Shared}
    {running : ℕ → Option (Request × Program Call Answer Value)}
    {entry : Request × Program Call Answer Value} (checked : state.Checked discipline entry)
    (grown : state.asked ⊆ asked) (becomes : discipline.becomes state.shared shared) :
    Pool.Checked discipline ⟨shared, asked, running⟩ entry := by
  obtain ⟨member, known, knows, follows⟩ := checked
  exact ⟨grown member, known, discipline.knows_later _ _ _ _ becomes knows, follows⟩

/-- **Handlers one by one.** Where the program of each request follows its protocol, and each
call that the protocol permits keeps an invariant and tells the program no more than what it
then knows, the invariant holds at every time of a pool, however the programs interleave and
wherever they are abandoned. -/
theorem pool_invariant
    (follows : ∀ request, (program request).Follows (discipline.protocol request)
      (fun _ _ => True) discipline.first)
    (starts : ∀ shared, initial shared → holds [] shared)
    (asks : ∀ asked shared request, holds asked shared → holds (request :: asked) shared)
    (stays : ∀ shared, discipline.becomes shared shared)
    (keeps : ∀ asked shared request known draw call, request ∈ asked →
      discipline.knows request known shared → (discipline.protocol request).permits known call →
      holds asked shared → holds asked (handle draw call shared).2 ∧
        discipline.becomes shared (handle draw call shared).2 ∧
        ∃ later, (discipline.protocol request).moves known call (handle draw call shared).1 later ∧
          discipline.knows request later (handle draw call shared).2)
    (reached : (pool initial program handle).Reachable state) : holds state.asked state.shared := by
  refine (reached.invariant (Pool.Sound discipline holds) ?_ ?_).holds
  · rintro ⟨shared, asked, running⟩ ⟨begins, none_, idle⟩
    subst none_
    refine ⟨starts shared begins, ?_⟩
    intro slot entry here
    rw [idle slot] at here
    cases here
  · intro state action next _ sound step
    cases action with
    | start slot request =>
        simp only [pool] at step
        split at step
        · cases step
        · cases step
          have grown : Pool.Sound discipline holds
              { state with asked := request :: state.asked } :=
            ⟨asks _ _ _ sound.holds, fun other entry here =>
              (sound.checked other entry here).later (List.subset_cons_self _ _) (stays _)⟩
          refine grown.withRunning slot ?_
          rintro _ ⟨⟩
          exact ⟨List.mem_cons_self, _, discipline.knows_first _ _, follows request⟩
    | advance slot draw =>
        simp only [pool] at step
        split at step
        · cases step
        · cases step
          refine sound.withRunning slot ?_
          rintro _ ⟨⟩
        · rename_i request call further here
          cases step
          obtain ⟨member, known, knows, permitted, answered⟩ := sound.checked slot _ here
          obtain ⟨kept, becomes, later, moves, learned⟩ :=
            keeps _ _ _ _ draw call member knows permitted sound.holds
          have called : Pool.Sound discipline holds
              { state with shared := (handle draw call state.shared).2 } :=
            ⟨kept, fun other entry running =>
              (sound.checked other entry running).later (List.Subset.refl _) becomes⟩
          refine called.withRunning slot ?_
          rintro _ ⟨⟩
          exact ⟨member, later, learned, answered _ later moves⟩
    | cancel slot =>
        cases step
        refine sound.withRunning slot ?_
        rintro _ ⟨⟩

end Pools
