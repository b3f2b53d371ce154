import Safrod.Library.Machine
import Safrod.Legacy.Backing

/-!
# Two nodes

The provider of the source calls its routes, and the source posts to the peer API of the
destination, which pays over its rail. Any number of handlers run on each side, one call at
a time, in any order.

Between the two nodes anything may happen. A request reaches the destination whenever it
likes, so requests may be lost, duplicated and reordered. The answer to a post is whatever
the surroundings say, so responses may be, too; only that the source accepts no attestation
that the destination has not signed is asked of them (`Unforged`).

* `peers_sound`: the records of the two nodes are kept as the rail says, at every time.
-/

set_option autoImplicit false

namespace Safrod.Legacy

open Machine Program Api

structure TwoNodes (secp : Secp) where
  source : Node secp
  destination : Node secp

/-- A handler of the provider's API that runs. -/
abbrev Running : Type := Program ApiCall ApiAnswer (Except ApiError SettlementResponse)

/-- A handler of the peer API that runs. -/
abbrev RunningPeer : Type := Program NodeCall NodeAnswer (Except ApiError PeerReply)

structure Peers where
  source : World ScriptedAdapter ScriptedLightning
  destination : World SimulatedFiatAdapter ScriptedLightning
  /-- The attestations the destination has signed. -/
  issued : List PayoutAttestation := []
  handlers : ℕ → Option Running := fun _ => none
  peerHandlers : ℕ → Option RunningPeer := fun _ => none

/-- What the destination pays over. -/
abbrev Peers.rail (state : Peers) : SimulatedFiatAdapter := state.destination.adapter

inductive PeersAction where
  /-- The provider calls a route of the source. -/
  | call (slot : ℕ) (route : Route)
  /-- A handler of the source makes its next call, or ends. -/
  | advance (slot : ℕ) (answers : (call : ApiCall) → ApiAnswer call)
  /-- A request reaches the destination, for the first time or again. -/
  | deliver (slot : ℕ) (route : PeerRoute)
  /-- A handler of the destination makes its next call, or ends. -/
  | advancePeer (slot : ℕ)
  /-- What the rail is going to say of a payout. -/
  | setBehavior (key : String) (behavior : SimulatedPayoutBehavior)
  /-- What the other backends of the nodes are going to answer. -/
  | surround (adapter : ScriptedAdapter) (lightning peerLightning : ScriptedLightning)

/-- The answer to a call of the source. -/
def respondApi (answers : (call : ApiCall) → ApiAnswer call) :
    (call : ApiCall) → World ScriptedAdapter ScriptedLightning →
      ApiAnswer call × World ScriptedAdapter ScriptedLightning
  | .node call, world => World.respond call world
  | call, world => (answers call, world)

/-- What a handler of the destination has signed when it ends. -/
def signed : Except ApiError PeerReply → List PayoutAttestation
  | .error _ => []
  | .ok reply => reply.attestation.toList

namespace TwoNodes

variable {secp : Secp} (nodes : TwoNodes secp)

def running : Machine Peers PeersAction where
  initial state := state.source.store = .empty ∧ state.destination.store = .empty ∧
    (∀ key, state.rail.payouts key = none) ∧ state.issued = [] ∧
    (∀ slot, state.handlers slot = none) ∧ ∀ slot, state.peerHandlers slot = none
  step state
    | .call slot route =>
        match state.handlers slot with
        | some _ => none
        | none => some { state with
            handlers := Function.update state.handlers slot (some (nodes.source.serve route).run) }
    | .advance slot answers =>
        match state.handlers slot with
        | none => none
        | some (.done _) =>
            some { state with handlers := Function.update state.handlers slot none }
        | some (.ask call next) =>
            let answered := respondApi answers call state.source
            some { state with
              source := answered.2
              handlers := Function.update state.handlers slot (some (next answered.1)) }
    | .deliver slot route =>
        match state.peerHandlers slot with
        | some _ => none
        | none => some { state with
            peerHandlers := Function.update state.peerHandlers slot
              (some (nodes.destination.servePeer route).run) }
    | .advancePeer slot =>
        match state.peerHandlers slot with
        | none => none
        | some (.done result) => some { state with
            issued := state.issued ++ signed result
            peerHandlers := Function.update state.peerHandlers slot none }
        | some (.ask call next) =>
            let answered := World.respond call state.destination
            some { state with
              destination := answered.2
              peerHandlers := Function.update state.peerHandlers slot (some (next answered.1)) }
    | .setBehavior key behavior => some { state with
        destination := { state.destination with
          adapter := state.rail.setBehavior key behavior } }
    | .surround adapter lightning peerLightning => some { state with
        source := { state.source with adapter := adapter, lightning := lightning }
        destination := { state.destination with lightning := peerLightning } }

/-- An attestation that the source accepts in an answer was signed by the destination. -/
def Unforged (state : Peers) : PeersAction → Prop
  | .advance _ answers => ∀ (call : ApiCall) attestation,
      call.evidence (answers call) = some attestation →
      nodes.source.authorize attestation = .ok () → attestation ∈ state.issued
  | _ => True

end TwoNodes

/-! ## What holds at every time -/

/-- Every stored record is kept. -/
def SettlementStore.Keeps (store : SettlementStore) (kept : SettlementRecord → Prop) : Prop :=
  ∀ id record, store.get id = some record → kept record

theorem SettlementStore.Keeps.mono {store : SettlementStore}
    {kept weaker : SettlementRecord → Prop} (keeps : store.Keeps kept)
    (weakens : ∀ record, kept record → weaker record) : store.Keeps weaker :=
  fun id record found => weakens record (keeps id record found)

theorem SettlementStore.Keeps.put {store : SettlementStore} {kept : SettlementRecord → Prop}
    (keeps : store.Keeps kept) {record : SettlementRecord} (held : kept record) :
    (store.put record).Keeps kept := by
  intro id other found
  rw [SettlementStore.get_put] at found
  split at found
  · cases found
    exact held
  · exact keeps id other found

theorem WritesKept.mono {kept : SimulatedFiatAdapter → SettlementRecord → Prop}
    {rail later : SimulatedFiatAdapter} (grow : ∀ record, kept rail record → kept later record)
    {call : NodeCall} (writes : WritesKept kept rail call) : WritesKept kept later call := by
  cases call with
  | put record => exact grow record writes
  | _ => trivial

/-- A call of a node that writes only what is kept finds what is kept, and keeps it. -/
theorem keeps_respond {Adapter Lightning : Type} [FiatAdapter Adapter]
    [LightningSettlement Lightning] (kept : SimulatedFiatAdapter → SettlementRecord → Prop)
    (world : World Adapter Lightning) {rail : SimulatedFiatAdapter}
    (keeps : world.store.Keeps (kept rail)) {call : NodeCall}
    (writes : WritesKept kept rail call) :
    ReadsKept kept rail call (World.respond call world).1 ∧
      (World.respond call world).2.store.Keeps (kept rail) := by
  cases call with
  | get id =>
      refine ⟨?_, keeps⟩
      intro record found
      exact ⟨SettlementStore.get_id found, keeps id record found⟩
  | put record => exact ⟨trivial, keeps.put writes⟩
  | _ => exact ⟨trivial, keeps⟩

section Growing

variable {rail later : SimulatedFiatAdapter} {Value : Type}
  {ends : SimulatedFiatAdapter → Value → Prop}

/-- A handler goes on as before when the rail grew meanwhile. -/
theorem keeping_grow {kept : SimulatedFiatAdapter → SettlementRecord → Prop}
    {tells : SimulatedFiatAdapter → (call : NodeCall) → NodeAnswer call → Prop}
    (grow : ∀ record, kept rail record → kept later record)
    (last : ∀ value, ends rail value → ends later value)
    {program : Program NodeCall NodeAnswer Value}
    (follows : program.Follows (keeping kept tells) ends rail) (grows : rail.Grows later) :
    program.Follows (keeping kept tells) ends later := by
  refine Follows.grow ?_ ?_ last follows
  · intro call permitted
    exact WritesKept.mono grow permitted
  · rintro call answer after ⟨more, found, told⟩
    exact ⟨grows.trans more, found, told⟩

theorem receiving_grow {secp : Secp} {node : Node secp} {prepares : Prop}
    (last : ∀ value, ends rail value → ends later value)
    {program : Program ApiCall ApiAnswer Value}
    (follows : program.Follows (receiving node prepares) ends rail) (grows : rail.Grows later) :
    program.Follows (receiving node prepares) ends later := by
  refine Follows.grow ?_ ?_ last follows
  · intro call permitted
    cases call with
    | node call =>
        cases call with
        | put record => exact SettlementRecord.Backed.grow permitted grows
        | _ => trivial
    | _ => trivial
  · intro call answer after moved
    cases call with
    | node call => exact ⟨grows.trans moved.1, moved.2⟩
    | _ => exact ⟨grows.trans moved.1, moved.2⟩

end Growing

/-- A handler of the source that runs keeps its records as the rail says. -/
def Running.Sound {secp : Secp} (node : Node secp) (rail : SimulatedFiatAdapter)
    (handler : Running) : Prop :=
  handler.Follows (receiving node True) (fun _ result => ∀ value, result = .ok value → True) rail

/-- A handler of the destination that runs attests what the rail says. -/
def RunningPeer.Sound (rail : SimulatedFiatAdapter) (handler : RunningPeer) : Prop :=
  handler.Follows paying (fun later result => ∀ reply, result = .ok reply →
    ∀ attestation, reply.attestation = some attestation → later.Vouches attestation) rail

theorem Running.Sound.grow {secp : Secp} {node : Node secp} {rail later : SimulatedFiatAdapter}
    {handler : Running} (sound : handler.Sound node rail) (grows : rail.Grows later) :
    handler.Sound node later :=
  receiving_grow (fun _ _ _ _ => trivial) sound grows

theorem RunningPeer.Sound.grow {rail later : SimulatedFiatAdapter} {handler : RunningPeer}
    (sound : handler.Sound rail) (grows : rail.Grows later) : handler.Sound later := by
  refine keeping_grow (fun record prepared => prepared.grow grows) ?_ sound grows
  intro result last reply ended attestation attested
  exact (last reply ended attestation attested).grow grows

/-- What the two nodes keep. -/
structure Peers.Sound {secp : Secp} (nodes : TwoNodes secp) (state : Peers) : Prop where
  source : state.source.store.Keeps fun record => record.Backed state.rail
  destination : state.destination.store.Keeps fun record => record.Prepared state.rail
  issued : ∀ attestation ∈ state.issued, state.rail.Vouches attestation
  handlers : ∀ slot handler, state.handlers slot = some handler →
    handler.Sound nodes.source state.rail
  peerHandlers : ∀ slot handler, state.peerHandlers slot = some handler →
    handler.Sound state.rail

section Run

variable {secp : Secp} {nodes : TwoNodes secp} {state next : Peers} {action : PeersAction}

theorem Peers.Sound.withHandler (sound : state.Sound nodes) (slot : ℕ) {handler : Option Running}
    (goesOn : ∀ running, handler = some running → running.Sound nodes.source state.rail) :
    Peers.Sound nodes { state with
      handlers := Function.update state.handlers slot handler } where
  source := sound.source
  destination := sound.destination
  issued := sound.issued
  peerHandlers := sound.peerHandlers
  handlers other running found := by
    have updated : Function.update state.handlers slot handler other = some running := found
    by_cases here : other = slot
    · rw [here, Function.update_self] at updated
      exact goesOn running updated
    · rw [Function.update_of_ne here] at updated
      exact sound.handlers other running updated

theorem Peers.Sound.withPeerHandler (sound : state.Sound nodes) (slot : ℕ)
    {handler : Option RunningPeer}
    (goesOn : ∀ running, handler = some running → running.Sound state.rail) :
    Peers.Sound nodes { state with
      peerHandlers := Function.update state.peerHandlers slot handler } where
  source := sound.source
  destination := sound.destination
  issued := sound.issued
  handlers := sound.handlers
  peerHandlers other running found := by
    have updated : Function.update state.peerHandlers slot handler other = some running := found
    by_cases here : other = slot
    · rw [here, Function.update_self] at updated
      exact goesOn running updated
    · rw [Function.update_of_ne here] at updated
      exact sound.peerHandlers other running updated

/-- The destination took a step, and its rail has grown. -/
theorem Peers.Sound.withDestination (sound : state.Sound nodes)
    {destination : World SimulatedFiatAdapter ScriptedLightning}
    (grows : state.rail.Grows destination.adapter)
    (keeps : destination.store.Keeps fun record => record.Prepared destination.adapter) :
    Peers.Sound nodes { state with destination := destination } where
  source := sound.source.mono fun _ backed => backed.grow grows
  destination := keeps
  issued attestation member := (sound.issued attestation member).grow grows
  handlers slot handler found := (sound.handlers slot handler found).grow grows
  peerHandlers slot handler found := (sound.peerHandlers slot handler found).grow grows

/-- A handler of the source makes a call. -/
theorem advance_sound (sound : state.Sound nodes) {slot : ℕ} {call : ApiCall}
    {rest : ApiAnswer call → Running} (asked : state.handlers slot = some (.ask call rest))
    {answers : (call : ApiCall) → ApiAnswer call}
    (vouched : ∀ attestation, call.evidence (answers call) = some attestation →
      nodes.source.authorize attestation = .ok () → state.rail.Vouches attestation)
    (answered : ApiAnswer call × World ScriptedAdapter ScriptedLightning)
    (responded : respondApi answers call state.source = answered) :
    Peers.Sound nodes { state with
      source := answered.2
      handlers := Function.update state.handlers slot (some (rest answered.1)) } := by
  have follows := sound.handlers slot _ asked
  have goesOn : ∀ {source : World ScriptedAdapter ScriptedLightning},
      (source.store.Keeps fun record => record.Backed state.rail) →
      (rest answered.1).Sound nodes.source state.rail →
      Peers.Sound nodes { state with
        source := source
        handlers := Function.update state.handlers slot (some (rest answered.1)) } := by
    intro source keeps handler
    have settled : Peers.Sound nodes { state with source := source } :=
      ⟨keeps, sound.destination, sound.issued, sound.handlers, sound.peerHandlers⟩
    refine settled.withHandler slot ?_
    rintro running ⟨⟩
    exact handler
  cases responded
  cases call with
  | node call =>
      obtain ⟨found, keeps⟩ := keeps_respond (fun rail record => record.Backed rail)
        state.source sound.source follows.1
      exact goesOn keeps (follows.2 _ _ ⟨.refl _, found, trivial⟩)
  | _ => exact goesOn sound.source (follows.2 _ _ ⟨.refl _, vouched⟩)

/-- A handler of the destination makes a call. -/
theorem advancePeer_sound (sound : state.Sound nodes) {slot : ℕ} {call : NodeCall}
    {rest : NodeAnswer call → RunningPeer}
    (asked : state.peerHandlers slot = some (.ask call rest))
    (answered : NodeAnswer call × World SimulatedFiatAdapter ScriptedLightning)
    (responded : World.respond call state.destination = answered) :
    Peers.Sound nodes { state with
      destination := answered.2
      peerHandlers := Function.update state.peerHandlers slot (some (rest answered.1)) } := by
  cases responded
  have follows := sound.peerHandlers slot _ asked
  obtain ⟨grows, told⟩ := SimulatedFiatAdapter.tells_respond call state.destination
  -- What was stored is read and written at the rail the call leaves.
  obtain ⟨found, keeps⟩ := keeps_respond (fun rail record => record.Prepared rail)
    state.destination
    (sound.destination.mono fun _ prepared => prepared.grow grows) (follows.grow grows).1
  refine (sound.withDestination grows keeps).withPeerHandler slot ?_
  rintro running ⟨⟩
  exact follows.2 _ _ ⟨grows, found, told⟩

theorem running_sound (step : nodes.running.step state action = some next)
    (unforged : nodes.Unforged state action) (sound : state.Sound nodes) : next.Sound nodes := by
  cases action with
  | call slot route =>
      simp only [TwoNodes.running] at step
      split at step
      · cases step
      · cases step
        refine sound.withHandler slot ?_
        rintro running ⟨⟩
        exact serve_backed nodes.source (fun _ => trivial) state.rail
  | advance slot answers =>
      simp only [TwoNodes.running] at step
      split at step
      · cases step
      · cases step
        refine sound.withHandler slot ?_
        rintro running ⟨⟩
      · rename_i call rest asked
        cases step
        refine advance_sound sound asked ?_ _ rfl
        intro attestation said authorized
        exact sound.issued attestation (unforged call attestation said authorized)
  | deliver slot route =>
      simp only [TwoNodes.running] at step
      split at step
      · cases step
      · cases step
        refine sound.withPeerHandler slot ?_
        rintro running ⟨⟩
        exact servePeer_vouched nodes.destination route state.rail
  | advancePeer slot =>
      simp only [TwoNodes.running] at step
      split at step
      · cases step
      · rename_i result ended
        cases step
        have last := sound.peerHandlers slot _ ended
        have attested : ∀ attestation ∈ state.issued ++ signed result,
            state.rail.Vouches attestation := by
          intro attestation member
          rcases List.mem_append.mp member with before | now
          · exact sound.issued attestation before
          · cases result with
            | error error => cases now
            | ok reply => exact last reply rfl attestation (Option.mem_toList.mp now)
        have issued : Peers.Sound nodes { state with issued := state.issued ++ signed result } :=
          ⟨sound.source, sound.destination, attested, sound.handlers, sound.peerHandlers⟩
        refine issued.withPeerHandler slot ?_
        rintro running ⟨⟩
      · rename_i call rest asked
        cases step
        exact advancePeer_sound sound asked _ rfl
  | setBehavior key behavior =>
      cases step
      have grows := SimulatedFiatAdapter.grows_setBehavior state.rail key behavior
      exact sound.withDestination grows
        (sound.destination.mono fun _ prepared => prepared.grow grows)
  | surround adapter lightning peerLightning =>
      cases step
      exact ⟨sound.source, sound.destination, sound.issued, sound.handlers, sound.peerHandlers⟩

theorem peers_sound (reached : nodes.running.ReachableBy nodes.Unforged state) :
    state.Sound nodes := by
  refine reached.invariant (Peers.Sound nodes) ?_ ?_
  · rintro state ⟨source, destination, -, issued, handlers, peerHandlers⟩
    refine ⟨?_, ?_, ?_, ?_, ?_⟩
    · rw [source]
      rintro id record ⟨⟩
    · rw [destination]
      rintro id record ⟨⟩
    · rw [issued]
      rintro attestation ⟨⟩
    · intro slot handler found
      rw [handlers slot] at found
      cases found
    · intro slot handler found
      rw [peerHandlers slot] at found
      cases found
  · intro state action next _ sound unforged step
    exact running_sound step unforged sound

end Run

end Safrod.Legacy
