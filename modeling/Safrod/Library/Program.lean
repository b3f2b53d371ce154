import Mathlib.Data.Nat.Notation
import Mathlib.Logic.Function.Basic

/-!
# Programs that make calls

A program is a tree of the calls it makes, each followed by what it does with the answer,
so what stands between two calls of a running program is a program again. The calls are
whatever a development needs; the answers are typed by the call.

* `exec`: a whole run of a program, its calls answered by a handler of a state, and
  `execFor`, a run that is cut short.
* `Follows`: the program keeps to a protocol, whatever the answers. A protocol says which
  calls are permitted to who knows what, and what is known after an answer. It is a
  property of the program alone, so it can be used wherever the calls of several programs
  interleave.
* `Succeeds`: the same for a program that may fail, with what is known where it succeeds,
  and one rule for each way such programs are built.
* `embed`: the program as one whose calls are among those of a larger kind.
-/

set_option autoImplicit false

universe u v w x y z

/-- The calls of a program and what it does with their answers. -/
inductive Program (Call : Type u) (Answer : Call → Type v) (Value : Type w) :
    Type (max u v w) where
  | done (value : Value)
  | ask (call : Call) (next : Answer call → Program Call Answer Value)

namespace Program

variable {Call : Type u} {Answer : Call → Type v}

/-! ## Sequencing -/

protected def bind {First Second : Type w} (next : First → Program Call Answer Second) :
    Program Call Answer First → Program Call Answer Second
  | done value => next value
  | ask call rest => ask call fun answer => (rest answer).bind next

instance : Monad (Program Call Answer) where
  pure := done
  bind program next := program.bind next

/-- One call, and its answer. -/
def call {Answer : Call → Type w} (request : Call) : Program Call Answer (Answer request) :=
  ask request done

section Bind

variable {First Second : Type w} (next : First → Program Call Answer Second)

@[simp] theorem pure_eq (value : First) :
    (pure value : Program Call Answer First) = done value := rfl

@[simp] theorem done_bind (value : First) :
    (done value : Program Call Answer First) >>= next = next value := rfl

@[simp] theorem ask_bind (request : Call) (rest : Answer request → Program Call Answer First) :
    ask request rest >>= next = ask request fun answer => rest answer >>= next := rfl

end Bind

/-! ## A whole run -/

section Exec

variable {State : Type x} (handle : (call : Call) → State → Answer call × State)

/-- The program from its first call to its end. -/
def exec {Value : Type w} : Program Call Answer Value → State → Value × State
  | done value, state => (value, state)
  | ask call next, state => exec (next (handle call state).1) (handle call state).2

@[simp] theorem exec_done {Value : Type w} (value : Value) (state : State) :
    exec handle (done value) state = (value, state) := rfl

@[simp] theorem exec_ask {Value : Type w} (request : Call)
    (next : Answer request → Program Call Answer Value) (state : State) :
    exec handle (ask request next) state =
      exec handle (next (handle request state).1) (handle request state).2 := rfl

theorem exec_bind {First Second : Type w} (program : Program Call Answer First)
    (next : First → Program Call Answer Second) (state : State) :
    exec handle (program >>= next) state =
      exec handle (next (exec handle program state).1) (exec handle program state).2 := by
  induction program generalizing state with
  | done value => rfl
  | ask request rest ih => exact ih _ _

/-- The program from its first call to some call, where it is cut short. -/
def execFor {Value : Type w} : ℕ → Program Call Answer Value → State → State
  | 0, _, state => state
  | _ + 1, done _, state => state
  | calls + 1, ask call next, state =>
      execFor calls (next (handle call state).1) (handle call state).2

@[simp] theorem execFor_done {Value : Type w} (calls : ℕ) (value : Value) (state : State) :
    execFor handle calls (done value : Program Call Answer Value) state = state := by
  cases calls <;> rfl

end Exec

/-! ## A whole run of a program that may fail -/

section Fallible

variable {State : Type x} {handle : (call : Call) → State → Answer call × State}
  {Error First Second : Type w} {state later : State}

theorem exec_bind_ok {program : ExceptT Error (Program Call Answer) First} {value : First}
    (ran : exec handle program.run state = (.ok value, later))
    (next : First → ExceptT Error (Program Call Answer) Second) :
    exec handle (program >>= next).run state = exec handle (next value).run later := by
  refine (exec_bind handle program.run (ExceptT.bindCont next) state).trans ?_
  rw [ran]
  rfl

theorem exec_bind_error {program : ExceptT Error (Program Call Answer) First} {error : Error}
    (ran : exec handle program.run state = (.error error, later))
    (next : First → ExceptT Error (Program Call Answer) Second) :
    exec handle (program >>= next).run state = (.error error, later) := by
  refine (exec_bind handle program.run (ExceptT.bindCont next) state).trans ?_
  rw [ran]
  rfl

theorem exec_lift (program : Program Call Answer First) (state : State) :
    exec handle (ExceptT.lift program : ExceptT Error (Program Call Answer) First).run state =
      (.ok (exec handle program state).1, (exec handle program state).2) :=
  exec_bind handle program (fun value => done (Except.ok value : Except Error First)) state

theorem exec_mapError {Other : Type w} (wrap : Error → Other)
    (program : ExceptT Error (Program Call Answer) First) (state : State) :
    exec handle (ExceptT.mk (Except.mapError wrap <$> program.run)).run state =
      ((exec handle program.run state).1.mapError wrap, (exec handle program.run state).2) :=
  exec_bind handle program.run (fun result => done (result.mapError wrap)) state

end Fallible

/-! ## Calls of a larger kind -/

section Embed

variable {Other : Type x} {Reply : Other → Type y} (wrap : Call → Other)
  (read : (call : Call) → Reply (wrap call) → Answer call)

/-- The program with each call as one of a larger kind, and its answer read from the reply. -/
def embed {Value : Type w} : Program Call Answer Value → Program Other Reply Value
  | done value => done value
  | ask call next => ask (wrap call) fun reply => embed (next (read call reply))

/-- A run of the program, where its calls are answered on a part of a larger state. -/
theorem exec_embed {Whole : Type x} {Part : Type y}
    {inner : (call : Call) → Part → Answer call × Part}
    {outer : (call : Other) → Whole → Reply call × Whole} (place : Part → Whole)
    (answers : ∀ call part, read call (outer (wrap call) (place part)).1 = (inner call part).1)
    (leaves : ∀ call part, (outer (wrap call) (place part)).2 = place (inner call part).2)
    {Value : Type w} (program : Program Call Answer Value) (part : Part) :
    exec outer (program.embed wrap read) (place part) =
      ((exec inner program part).1, place (exec inner program part).2) := by
  induction program generalizing part with
  | done value => rfl
  | ask request next ih =>
      rw [embed, exec_ask, answers, leaves]
      exact ih _ _

end Embed

/-! ## Protocols -/

/-- Which calls are permitted to who knows what, and what may be known after an answer. -/
structure Protocol (Call : Type u) (Answer : Call → Type v) (Known : Type y) where
  permits : Known → Call → Prop
  moves : Known → (call : Call) → Answer call → Known → Prop

section Protocols

variable {Known : Type y} (protocol : Protocol Call Answer Known)

/-- The program makes permitted calls only, whatever the answers, and ends with a value
that what is known then allows. -/
def Follows {Value : Type w} (ends : Known → Value → Prop) :
    Program Call Answer Value → Known → Prop
  | done value, known => ends known value
  | ask call next, known =>
      protocol.permits known call ∧
        ∀ answer later, protocol.moves known call answer later → Follows ends (next answer) later

variable {protocol}

theorem Follows.mono {Value : Type w} {ends weaker : Known → Value → Prop}
    (weakens : ∀ known value, ends known value → weaker known value)
    {program : Program Call Answer Value} {known : Known}
    (follows : program.Follows protocol ends known) : program.Follows protocol weaker known := by
  induction program generalizing known with
  | done value => exact weakens known value follows
  | ask request next ih =>
      refine ⟨follows.1, ?_⟩
      intro answer later moved
      exact ih answer (follows.2 answer later moved)

/-- A program after another follows the protocol from whatever the first one ends with. -/
theorem Follows.bind {First Second : Type w} {ends : Known → Second → Prop}
    {program : Program Call Answer First} {next : First → Program Call Answer Second}
    {known : Known}
    (follows : program.Follows protocol
      (fun later value => (next value).Follows protocol ends later) known) :
    (program >>= next).Follows protocol ends known := by
  induction program generalizing known with
  | done value => exact follows
  | ask request rest ih =>
      refine ⟨follows.1, ?_⟩
      intro answer later moved
      exact ih answer (follows.2 answer later moved)

/-- Who knows more follows the protocol too, where the protocol permits more to it and
tells it no less. -/
theorem Follows.grow {Value : Type w} {ends : Known → Value → Prop} {less more : Known}
    (permits : ∀ call, protocol.permits less call → protocol.permits more call)
    (moves : ∀ call answer later, protocol.moves more call answer later →
      protocol.moves less call answer later)
    (last : ∀ value, ends less value → ends more value) {program : Program Call Answer Value}
    (follows : program.Follows protocol ends less) : program.Follows protocol ends more := by
  cases program with
  | done value => exact last value follows
  | ask request next =>
      refine ⟨permits request follows.1, ?_⟩
      intro answer later moved
      exact follows.2 answer later (moves request answer later moved)

/-- A program whose calls became those of a larger kind follows a protocol for these. -/
theorem Follows.embed {Other : Type x} {Reply : Other → Type z} {wrap : Call → Other}
    {read : (call : Call) → Reply (wrap call) → Answer call} {outer : Protocol Other Reply Known}
    (permits : ∀ known call, protocol.permits known call → outer.permits known (wrap call))
    (moves : ∀ known call reply later, outer.moves known (wrap call) reply later →
      protocol.moves known call (read call reply) later)
    {Value : Type w} {ends : Known → Value → Prop} {program : Program Call Answer Value}
    {known : Known} (follows : program.Follows protocol ends known) :
    (program.embed wrap read).Follows outer ends known := by
  induction program generalizing known with
  | done value => exact follows
  | ask request next ih =>
      refine ⟨permits known request follows.1, ?_⟩
      intro reply later moved
      exact ih _ (follows.2 _ later (moves known request reply later moved))

/-- A whole run of a program that follows a protocol which its handler respects. -/
theorem Follows.exec {State : Type x} {handle : (call : Call) → State → Answer call × State}
    {related : Known → State → Prop}
    (respects : ∀ known state call, related known state → protocol.permits known call →
      ∃ later, protocol.moves known call (handle call state).1 later ∧
        related later (handle call state).2)
    {Value : Type w} {ends : Known → Value → Prop} {program : Program Call Answer Value}
    {known : Known} {state : State} (follows : program.Follows protocol ends known)
    (start : related known state) :
    ∃ later, ends later (exec handle program state).1 ∧
      related later (exec handle program state).2 := by
  induction program generalizing known state with
  | done value => exact ⟨known, follows, start⟩
  | ask request next ih =>
      obtain ⟨later, moved, kept⟩ := respects known state request start follows.1
      exact ih _ (follows.2 _ later moved) kept

/-- A program that may fail makes permitted calls only, and where it succeeds its value is
one that what is known then allows. -/
def Succeeds (protocol : Protocol Call Answer Known) {Error Value : Type w}
    (program : ExceptT Error (Program Call Answer) Value) (ends : Known → Value → Prop)
    (known : Known) : Prop :=
  program.run.Follows protocol
    (fun later result => ∀ value, result = .ok value → ends later value) known

section Rules

variable {Error First Second : Type w}

theorem Succeeds.mono {program : ExceptT Error (Program Call Answer) First}
    {ends weaker : Known → First → Prop}
    (weakens : ∀ known value, ends known value → weaker known value) {known : Known}
    (succeeds : Succeeds protocol program ends known) :
    Succeeds protocol program weaker known :=
  Follows.mono (fun later _ held value same => weakens later value (held value same)) succeeds

theorem Succeeds.pure {value : First} {ends : Known → First → Prop} {known : Known}
    (held : ends known value) :
    Succeeds protocol (Pure.pure value : ExceptT Error (Program Call Answer) First) ends known := by
  intro other same
  cases same
  exact held

theorem Succeeds.throw (error : Error) (ends : Known → First → Prop) (known : Known) :
    Succeeds protocol (MonadExcept.throw error : ExceptT Error (Program Call Answer) First) ends
      known := by
  intro value same
  cases same

theorem Succeeds.bind {program : ExceptT Error (Program Call Answer) First}
    {next : First → ExceptT Error (Program Call Answer) Second} {ends : Known → Second → Prop}
    {known : Known}
    (succeeds : Succeeds protocol program
      (fun later value => Succeeds protocol (next value) ends later) known) :
    Succeeds protocol (program >>= next) ends known := by
  refine Follows.bind (Follows.mono ?_ succeeds)
  intro later result held
  cases result with
  | error error =>
      intro value same
      cases same
  | ok value => exact held value rfl

theorem Succeeds.map {program : ExceptT Error (Program Call Answer) First} {map : First → Second}
    {ends : Known → Second → Prop} {known : Known}
    (succeeds : Succeeds protocol program (fun later value => ends later (map value)) known) :
    Succeeds protocol (map <$> program) ends known := by
  refine Follows.bind (Follows.mono ?_ succeeds)
  intro later result held
  cases result with
  | error error =>
      intro value same
      cases same
  | ok value =>
      intro other same
      cases same
      exact held value rfl

/-- The error of a program that may fail is of another kind. -/
theorem Succeeds.mapError {Other : Type w} {wrap : Error → Other}
    {program : ExceptT Error (Program Call Answer) First} {ends : Known → First → Prop}
    {known : Known} (succeeds : Succeeds protocol program ends known) :
    Succeeds protocol (ExceptT.mk (Except.mapError wrap <$> program.run)) ends known := by
  refine Follows.bind (Follows.mono ?_ succeeds)
  intro later result held value same
  cases result with
  | error error => cases same
  | ok first =>
      cases same
      exact held _ rfl

/-- A program that may fail, taken with its end as its value. -/
theorem Succeeds.lift {program : Program Call Answer First} {ends : Known → First → Prop}
    {known : Known} (follows : program.Follows protocol ends known) :
    Succeeds protocol (ExceptT.lift program : ExceptT Error (Program Call Answer) First) ends
      known := by
  refine Follows.bind (Follows.mono ?_ follows)
  intro later result held value same
  cases same
  exact held

theorem Succeeds.ask {Answer : Call → Type w} {protocol : Protocol Call Answer Known}
    {request : Call} {ends : Known → Answer request → Prop} {known : Known}
    (permitted : protocol.permits known request)
    (answered : ∀ answer later, protocol.moves known request answer later → ends later answer) :
    Succeeds protocol (ExceptT.lift (call request) : ExceptT Error (Program Call Answer) _) ends
      known := by
  refine ⟨permitted, ?_⟩
  intro answer later moved value same
  cases same
  exact answered answer later moved

end Rules

end Protocols

end Program
