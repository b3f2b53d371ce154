import Safrod.Api.Error
import Safrod.Storage.Outbox
import Safrod.Storage.Queries

/-!
# The event feed

A transaction takes the sequence number of an event when it inserts it, and the
event appears when the transaction commits. A client polls `GET /v1/events` after
the greatest number it has received. Transactions commit in any order, so a page
can pass over an event that a transaction still holds, and the client never asks
for it again.

* `Settled` is the condition on a poll: no transaction holds an event that the
  page reaches or passes.
* `feed_skips_nothing`: in a run whose polls are settled every event up to the
  cursor was received.
* `complete_iff_settled` and `skipped_of_passed` say that the condition is exact.
-/

set_option autoImplicit false

namespace Safrod

open Table

/-! ## The route -/

/-- The page size a list endpoint answers with. -/
structure Page where
  limit : ℕ

namespace Page

def fromQuery : Option ℤ → Except ApiError Page
  | none => .ok ⟨20⟩
  | some limit =>
      if 1 ≤ limit ∧ limit ≤ 100 then .ok ⟨limit.toNat⟩
      else .error (.validation "limit must be between 1 and 100")

/-- One extra row, so that `has_more` is exact. -/
def fetch (page : Page) : ℕ := page.limit + 1

end Page

/-- The answer of `GET /v1/events`; each row is printed with its number and without
its project. -/
structure EventList where
  data : List EventRecord
  hasMore : Bool
  nextAfter : Option ℕ

/-- `GET /v1/events` with a key of the project. -/
def getEvents (db : Db) (projectId : String) (after : Option ℤ) (kind : Option String)
    (limit : Option ℤ) : Except ApiError EventList := do
  let page ← Page.fromQuery limit
  let rows := db.listEvents projectId after kind page.fetch
  let hasMore := page.limit < rows.length
  let data := rows.take page.limit
  .ok ⟨data, hasMore, if hasMore then data.getLast?.map (·.seq) else none⟩

/-- The rows of an answer are the first ones the query finds. -/
theorem getEvents_eq_ok {db : Db} {projectId : String} {after : Option ℤ} {kind : Option String}
    {limit : Option ℤ} {list : EventList}
    (answered : getEvents db projectId after kind limit = .ok list) :
    ∃ page, Page.fromQuery limit = .ok page ∧
      list.data = db.listEvents projectId after kind page.limit := by
  obtain ⟨page, valid, answered⟩ := Except.exists_of_bind_eq_ok answered
  cases answered
  refine ⟨page, valid, ?_⟩
  simp only [Db.listEvents, pageBy, Table.page, List.take_take, Page.fetch]
  rw [Nat.min_eq_left (Nat.le_succ _)]

/-! ## Transactions and a client -/

/-- What an open transaction inserted for one event. -/
structure Inserted where
  transaction : ℕ
  event : EventRecord
  deliveries : List DeliveryRecord

structure FeedState where
  db : Db
  /-- The rows of the transactions that are still open, which only they see. -/
  uncommitted : List Inserted
  /-- What the client has received, in order. -/
  received : List EventRecord

inductive FeedAction where
  | emit (transaction : ℕ) (now : DateTime) (projectId kind resourceId : String) (data : Value)
      (simulated : Bool)
  | commit (transaction : ℕ)
  | rollback (transaction : ℕ)
  | poll (limit : Option ℤ)

namespace FeedState

/-- The rows `emit` inserts. -/
def inserted (db : Db) (transaction : ℕ) (now : DateTime) (projectId kind resourceId : String)
    (data : Value) (simulated : Bool) : Inserted where
  transaction := transaction
  event := db.newEvent now projectId kind resourceId data simulated
  deliveries := (db.enabledEndpoints projectId).map (Db.newDelivery now db.draws db.nextSeq)

/-- The sequence moves at the insert, whatever becomes of the transaction. -/
def afterEmit (state : FeedState) (row : Inserted) : FeedState :=
  { state with
    db := { state.db with nextSeq := state.db.nextSeq + 1 }
    uncommitted := state.uncommitted ++ [row] }

def heldBy (state : FeedState) (transaction : ℕ) : List Inserted :=
  state.uncommitted.filter fun row => row.transaction = transaction

def heldByOthers (state : FeedState) (transaction : ℕ) : List Inserted :=
  state.uncommitted.filter fun row => row.transaction ≠ transaction

def afterCommit (state : FeedState) (transaction : ℕ) : FeedState :=
  { state with
    db := { state.db with
      events := state.db.events ++ (state.heldBy transaction).map Inserted.event
      webhookDeliveries := state.db.webhookDeliveries ++
        (state.heldBy transaction).flatMap Inserted.deliveries }
    uncommitted := state.heldByOthers transaction }

/-- The greatest number the client has received. -/
def cursor (state : FeedState) : Option ℕ :=
  (state.received.map fun event => event.seq).max?

/-- The next page of the client; a refused request leaves it where it is. -/
def afterPoll (projectId : String) (limit : Option ℤ) (state : FeedState) : FeedState :=
  match getEvents state.db projectId (state.cursor.map Int.ofNat) none limit with
  | .error _ => state
  | .ok list => { state with received := state.received ++ list.data }

def step (projectId : String) (state : FeedState) : FeedAction → FeedState
  | .emit transaction now owner kind resourceId data simulated =>
      state.afterEmit (inserted state.db transaction now owner kind resourceId data simulated)
  | .commit transaction => state.afterCommit transaction
  | .rollback transaction => { state with uncommitted := state.heldByOthers transaction }
  | .poll limit => state.afterPoll projectId limit

/-- A transaction that inserts one event and commits writes what `emit` writes. -/
theorem afterCommit_afterEmit {state : FeedState} {transaction : ℕ}
    (idle : state.heldBy transaction = []) (now : DateTime) (projectId kind resourceId : String)
    (data : Value) (simulated : Bool) :
    ((state.afterEmit (inserted state.db transaction now projectId kind resourceId data
      simulated)).afterCommit transaction).db =
      state.db.emit now projectId kind resourceId data simulated := by
  have held : (state.uncommitted ++ [inserted state.db transaction now projectId kind resourceId
      data simulated]).filter (fun row => row.transaction = transaction) =
      [inserted state.db transaction now projectId kind resourceId data simulated] := by
    rw [List.filter_append, show state.uncommitted.filter _ = [] from idle, List.nil_append]
    exact List.filter_cons_of_pos (decide_eq_true rfl)
  simp only [afterCommit, afterEmit, heldBy, held, List.map_cons, List.map_nil,
    List.flatMap_cons, List.flatMap_nil, List.append_nil]
  rfl

end FeedState

/-- Event-emitting transactions on a database of the daemon, and a client of a project
that has received nothing yet. -/
def feed (projectId : String) : Machine FeedState FeedAction where
  initial state := storage.Reachable state.db ∧ state.uncommitted = [] ∧ state.received = []
  step state action := some (state.step projectId action)

namespace FeedState

/-! ## What the client has passed -/

/-- The number is at or below the client's cursor. -/
def Covered (state : FeedState) (seq : ℕ) : Prop :=
  ∃ greatest, state.cursor = some greatest ∧ seq ≤ greatest

theorem covered_iff {state : FeedState} {seq : ℕ} :
    state.Covered seq ↔ ∃ event ∈ state.received, seq ≤ event.seq := by
  constructor
  · rintro ⟨greatest, here, below⟩
    obtain ⟨event, member, rfl⟩ := List.mem_map.mp (List.max?_mem here)
    exact ⟨event, member, below⟩
  · rintro ⟨event, member, below⟩
    have listed := List.mem_map_of_mem (f := fun event : EventRecord => event.seq) member
    cases here : state.cursor with
    | none =>
        rw [cursor, List.max?_eq_none_iff] at here
        rw [here] at listed
        cases listed
    | some greatest =>
        exact ⟨greatest, here, below.trans ((List.max?_eq_some_iff.mp here).2 _ listed)⟩

instance (state : FeedState) (seq : ℕ) : Decidable (state.Covered seq) :=
  decidable_of_iff _ covered_iff.symm

/-- Every event of the project up to the cursor was received. -/
def NothingSkipped (projectId : String) (state : FeedState) : Prop :=
  ∀ event ∈ state.db.events, event.projectId = projectId → state.Covered event.seq →
    event ∈ state.received

/-- No transaction holds an event of the project that the cursor has passed. -/
def NothingPassed (projectId : String) (state : FeedState) : Prop :=
  ∀ row ∈ state.uncommitted, row.event.projectId = projectId → ¬ state.Covered row.event.seq

/-- The events of the project the client has yet to ask for. -/
def unread (projectId : String) (state : FeedState) : List EventRecord :=
  state.db.events.filter fun event => event.projectId = projectId ∧ ¬ state.Covered event.seq

/-- A page of the size reaches the number: an unread event has it or a greater one,
and fewer unread events lie below it than the page holds. -/
def PageReaches (projectId : String) (state : FeedState) (limit seq : ℕ) : Prop :=
  (∃ event ∈ state.unread projectId, seq ≤ event.seq) ∧
    (state.unread projectId).countP (fun event => event.seq < seq) < limit

/-- A poll comes when no transaction holds an event of the project that its page
reaches. -/
def Settled (projectId : String) (state : FeedState) : FeedAction → Prop
  | .poll limit => ∀ page, Page.fromQuery limit = .ok page → ∀ row ∈ state.uncommitted,
      row.event.projectId = projectId → ¬ state.PageReaches projectId page.limit row.event.seq
  | _ => True

/-! ## Numbers are given out once -/

/-- The events inserted so far, committed or not. -/
def issued (state : FeedState) : List EventRecord :=
  state.db.events ++ state.uncommitted.map Inserted.event

/-- What holds in every run, whatever its polls: numbers are given out once, and the
client has received committed events only. -/
structure Sound (state : FeedState) : Prop where
  sequenced : Db.Sequenced state.db.nextSeq state.issued
  received : ∀ event ∈ state.received, event ∈ state.db.events

theorem issued_afterCommit_perm (state : FeedState) (transaction : ℕ) :
    (state.afterCommit transaction).issued.Perm state.issued := by
  have split := (List.filter_append_perm
    (fun row : Inserted => row.transaction = transaction) state.uncommitted).map Inserted.event
  rw [List.map_append] at split
  simp only [issued, afterCommit, List.append_assoc]
  refine List.Perm.append_left _ ?_
  simpa only [heldBy, heldByOthers, ne_eq, decide_not] using split

theorem Sound.sublist {state next : FeedState} (sound : state.Sound)
    (sequence : next.db.nextSeq = state.db.nextSeq) (issued : next.issued.Sublist state.issued)
    (received : ∀ event ∈ next.received, event ∈ next.db.events) : next.Sound := by
  refine ⟨⟨?_, ?_, ?_⟩, received⟩
  · rw [sequence]
    exact sound.sequenced.next
  · intro event member
    rw [sequence]
    exact sound.sequenced.bounds event (issued.subset member)
  · exact List.Nodup.sublist (issued.map _) sound.sequenced.unique

/-- The client receives the first unread events. -/
def afterPage (projectId : String) (limit : ℕ) (state : FeedState) : FeedState :=
  { state with
    received := state.received ++
      pageBy (fun event : EventRecord => event.seq) limit (state.unread projectId) }

/-- The query after the cursor finds the unread events. -/
theorem listEvents_eq_unread (projectId : String) (limit : ℕ) {state : FeedState}
    (sound : state.Sound) :
    state.db.listEvents projectId (state.cursor.map Int.ofNat) none limit =
      pageBy (fun event : EventRecord => event.seq) limit (state.unread projectId) := by
  refine congrArg (pageBy _ _) (List.filter_congr ?_)
  intro event member
  have positive := (sound.sequenced.bounds event (List.mem_append_left _ member)).1
  have after : (state.cursor.map Int.ofNat).getD 0 < event.seq ↔ ¬ state.Covered event.seq := by
    simp only [Covered]
    cases state.cursor with
    | none => simpa using positive
    | some greatest => simp
  simp only [after, true_or, and_true]

/-- A poll is refused or receives the first unread events. -/
theorem afterPoll_cases (projectId : String) (limit : Option ℤ) {state : FeedState}
    (sound : state.Sound) :
    (state.afterPoll projectId limit = state ∧ ∀ page, Page.fromQuery limit ≠ .ok page) ∨
    ∃ page, Page.fromQuery limit = .ok page ∧
      state.afterPoll projectId limit = state.afterPage projectId page.limit := by
  cases answered : getEvents state.db projectId (state.cursor.map Int.ofNat) none limit with
  | error error =>
      refine .inl ⟨by simp only [afterPoll, answered], ?_⟩
      intro page valid
      rw [getEvents, valid] at answered
      cases answered
  | ok list =>
      obtain ⟨page, valid, rows⟩ := getEvents_eq_ok answered
      refine .inr ⟨page, valid, ?_⟩
      simp only [afterPoll, answered, rows, listEvents_eq_unread projectId page.limit sound,
        afterPage]

theorem sound_step {state : FeedState} (sound : state.Sound) (projectId : String)
    (action : FeedAction) : (state.step projectId action).Sound := by
  cases action with
  | emit transaction now owner kind resourceId data simulated =>
      refine ⟨?_, sound.received⟩
      have added : (state.step projectId
          (.emit transaction now owner kind resourceId data simulated)).issued =
          state.issued ++ [state.db.newEvent now owner kind resourceId data simulated] := by
        simp only [step, afterEmit, issued, List.map_append, List.append_assoc, List.map_cons,
          List.map_nil, inserted]
      rw [added]
      exact sound.sequenced.append rfl
  | commit transaction =>
      have moved := state.issued_afterCommit_perm transaction
      refine ⟨⟨sound.sequenced.next, ?_, ?_⟩, ?_⟩
      · intro event member
        exact sound.sequenced.bounds event (moved.mem_iff.mp member)
      · exact (moved.map _).nodup_iff.mpr sound.sequenced.unique
      · intro event member
        exact List.mem_append_left _ (sound.received event member)
  | rollback transaction =>
      refine sound.sublist rfl ?_ sound.received
      exact List.Sublist.append_left (List.filter_sublist.map _) _
  | poll limit =>
      rcases afterPoll_cases projectId limit sound with ⟨same, -⟩ | ⟨page, -, polled⟩
      · rw [step, same]
        exact sound
      · rw [step, polled]
        refine sound.sublist rfl (List.Sublist.refl _) ?_
        intro event member
        rcases List.mem_append.mp member with old | new
        · exact sound.received event old
        · exact (List.mem_filter.mp (mem_of_mem_pageBy _ new)).1

end FeedState

theorem FeedState.sound_of_reachable {projectId : String} {state : FeedState}
    (reached : (feed projectId).Reachable state) : state.Sound := by
  refine reached.invariant FeedState.Sound ?_ ?_
  · rintro ⟨db, uncommitted, received⟩ ⟨stored, rfl, rfl⟩
    refine ⟨?_, ?_⟩
    · simpa only [FeedState.issued, List.map_nil, List.append_nil]
        using Db.sequenced_of_reachable stored
    · rintro _ ⟨⟩
  · intro state action next _ sound step
    cases step
    exact FeedState.sound_step sound projectId action

namespace FeedState

/-! ## Nothing is skipped -/

/-- Nothing was skipped, and no commit can make an event one that was. -/
structure Complete (projectId : String) (state : FeedState) : Prop where
  skipped : state.NothingSkipped projectId
  passed : state.NothingPassed projectId

/-- A number just given out is above everything the client has. -/
theorem Sound.not_covered_nextSeq {state : FeedState} (sound : state.Sound) :
    ¬ state.Covered state.db.nextSeq := by
  intro covered
  obtain ⟨event, member, below⟩ := covered_iff.mp covered
  have bound := sound.sequenced.bounds event
    (List.mem_append_left _ (sound.received event member))
  omega

/-- After a poll the cursor is past a number if it was before, or if the page
reaches it. -/
theorem covered_afterPoll {projectId : String} {state : FeedState} {limit seq : ℕ} :
    (state.afterPage projectId limit).Covered seq ↔
      state.Covered seq ∨ state.PageReaches projectId limit seq := by
  rw [covered_iff, covered_iff, PageReaches, ← exists_pageBy_le_iff]
  simp only [afterPage, List.mem_append, or_and_right, exists_or]

/-- A page that reaches the number of a committed event returns the event, unless the
client had passed it. -/
theorem Sound.mem_page {projectId : String} {state : FeedState} (sound : state.Sound) {limit : ℕ}
    {event : EventRecord} (committed : event ∈ state.db.events)
    (owned : event.projectId = projectId)
    (ahead : ¬ state.Covered event.seq)
    (reaches : state.PageReaches projectId limit event.seq) :
    event ∈ pageBy (fun event : EventRecord => event.seq) limit (state.unread projectId) := by
  have unread : event ∈ state.unread projectId :=
    List.mem_filter.mpr ⟨committed, decide_eq_true ⟨owned, ahead⟩⟩
  obtain ⟨last, returned, below⟩ := (exists_pageBy_le_iff _ limit _ _).mpr reaches
  rcases Nat.lt_or_eq_of_le below with less | same
  · exact mem_pageBy_of_lt _ unread returned less
  · have there := (List.mem_filter.mp (mem_of_mem_pageBy _ returned)).1
    rw [sound.sequenced.unique.eq_of_key (List.mem_append_left _ committed)
      (List.mem_append_left _ there) same]
    exact returned

/-- **A step keeps the feed complete exactly when it is settled.** -/
theorem Complete.step_iff {projectId : String} {state : FeedState} (sound : state.Sound)
    (complete : state.Complete projectId) (action : FeedAction) :
    (state.step projectId action).Complete projectId ↔ state.Settled projectId action := by
  cases action with
  | emit transaction now owner kind resourceId data simulated =>
      refine iff_of_true ⟨complete.skipped, ?_⟩ trivial
      intro row member owned
      rcases List.mem_append.mp member with old | new
      · exact complete.passed row old owned
      · rw [List.mem_singleton.mp new]
        exact sound.not_covered_nextSeq
  | commit transaction =>
      refine iff_of_true ⟨?_, ?_⟩ trivial
      · intro event member owned covered
        rcases List.mem_append.mp member with old | new
        · exact complete.skipped event old owned covered
        · obtain ⟨row, held, rfl⟩ := List.mem_map.mp new
          exact absurd covered (complete.passed row (List.mem_filter.mp held).1 owned)
      · intro row member owned
        exact complete.passed row (List.mem_filter.mp member).1 owned
  | rollback transaction =>
      refine iff_of_true ⟨complete.skipped, ?_⟩ trivial
      intro row member owned
      exact complete.passed row (List.mem_filter.mp member).1 owned
  | poll limit =>
      rcases afterPoll_cases projectId limit sound with ⟨same, refused⟩ | ⟨page, valid, polled⟩
      · rw [FeedState.step, same]
        refine iff_of_true complete ?_
        intro page valid
        exact absurd valid (refused page)
      · rw [FeedState.step, polled]
        constructor
        · intro after other otherValid row member owned reaches
          cases valid.symm.trans otherValid
          exact after.passed row member owned (covered_afterPoll.mpr (.inr reaches))
        · intro settled
          refine ⟨?_, ?_⟩
          · intro event committed owned covered
            by_cases before : state.Covered event.seq
            · exact List.mem_append_left _ (complete.skipped event committed owned before)
            · have reaches := (covered_afterPoll.mp covered).resolve_left before
              exact List.mem_append_right _ (sound.mem_page committed owned before reaches)
          · intro row member owned covered
            rcases covered_afterPoll.mp covered with before | reaches
            · exact complete.passed row member owned before
            · exact settled page valid row member owned reaches

theorem complete_of_initial {projectId : String} {state : FeedState}
    (initial : (feed projectId).initial state) : state.Complete projectId := by
  obtain ⟨db, uncommitted, received⟩ := state
  obtain ⟨-, rfl, rfl⟩ := initial
  refine ⟨?_, ?_⟩
  · intro event _ _ covered
    obtain ⟨_, ⟨⟩, _⟩ := covered_iff.mp covered
  · rintro _ ⟨⟩

end FeedState

/-- **When every poll is settled the feed skips nothing.** -/
theorem feed_skips_nothing {projectId : String} {state : FeedState}
    (reached : (feed projectId).ReachableBy (FeedState.Settled projectId) state) :
    state.NothingSkipped projectId := by
  refine FeedState.Complete.skipped (reached.invariant (FeedState.Complete projectId) ?_ ?_)
  · intro state initial
    exact FeedState.complete_of_initial initial
  · intro state action next earlier complete settled step
    cases step
    exact (complete.step_iff (FeedState.sound_of_reachable earlier) action).mpr settled

/-- Two transactions commit in the order of their numbers. The client polls while the second
holds its event, and again when it has committed. -/
def timelyActions : List FeedAction := [
  .emit 0 10 "proj_1" "invoice.paid" "inv_1" .null false,
  .emit 1 11 "proj_1" "invoice.paid" "inv_2" .null false,
  .commit 0,
  .poll none,
  .commit 1,
  .poll none]

theorem feed_skips_nothing_timely : ∃ state,
    (feed "proj_1").run ⟨{}, [], []⟩ timelyActions = some state ∧
    state.NothingSkipped "proj_1" ∧ state.received.map (fun event => event.seq) = [1, 2] := by
  have settled : (feed "proj_1").StepsMeet (FeedState.Settled "proj_1") ⟨{}, [], []⟩
      timelyActions := by
    refine .cons trivial rfl (.cons trivial rfl (.cons trivial rfl (.cons ?_ rfl
      (.cons trivial rfl (.cons ?_ rfl (.nil _))))))
    · -- the page ends below the number that is held
      rintro page - row held - ⟨⟨event, unread, above⟩, -⟩
      cases List.mem_singleton.mp held
      cases List.mem_singleton.mp unread
      exact absurd above (by decide)
    · rintro _ _ _ ⟨⟩
  have start : (feed "proj_1").ReachableBy (FeedState.Settled "proj_1") ⟨{}, [], []⟩ :=
    .start ⟨(.start rfl : storage.Reachable {}), rfl, rfl⟩
  obtain ⟨state, ran, got⟩ : ∃ state, (feed "proj_1").run ⟨{}, [], []⟩ timelyActions =
      some state ∧ state.received.map (fun event => event.seq) = [1, 2] := ⟨_, rfl, rfl⟩
  exact ⟨state, ran, feed_skips_nothing (Machine.reachableBy_of_run start settled ran), got⟩

/-- The feed stays complete throughout a run exactly when every poll of the run is
settled. -/
theorem complete_iff_settled {projectId : String} {start last : FeedState}
    (initial : (feed projectId).initial start) {actions : List FeedAction}
    (ran : (feed projectId).run start actions = some last) :
    (∀ state ∈ (feed projectId).visited start actions, state.Complete projectId) ↔
      (feed projectId).StepsMeet (FeedState.Settled projectId) start actions := by
  refine Machine.forall_visited_iff_stepsMeet (FeedState.Complete projectId)
    (FeedState.Settled projectId) ?_ (.start initial) (FeedState.complete_of_initial initial) ran
  intro state action next reached complete step
  cases step
  exact complete.step_iff (FeedState.sound_of_reachable reached) action

/-- An event the cursor has passed while a transaction held it is skipped when the
transaction commits. -/
theorem skipped_of_passed {projectId : String} {state : FeedState}
    (reached : (feed projectId).Reachable state) {row : Inserted} (held : row ∈ state.uncommitted)
    (owned : row.event.projectId = projectId) (passed : state.Covered row.event.seq) :
    ¬ (state.step projectId (.commit row.transaction)).NothingSkipped projectId := by
  intro nothing
  have sound := FeedState.sound_of_reachable reached
  have mine : row ∈ state.heldBy row.transaction :=
    List.mem_filter.mpr ⟨held, decide_eq_true rfl⟩
  have received : row.event ∈ state.received :=
    nothing row.event (List.mem_append_right _ (List.mem_map_of_mem mine)) owned passed
  have twice := sound.sequenced.unique
  rw [KeyUnique, FeedState.issued, List.map_append] at twice
  exact (List.nodup_append.mp twice).2.2 _ (List.mem_map_of_mem (sound.received _ received)) _
    (List.mem_map_of_mem (List.mem_map_of_mem held)) rfl

/-! ### Two transactions that commit in the other order -/

/-- The first transaction takes number one and commits after a poll that returned
number two. -/
def lateCommitActions : List FeedAction := [
  .emit 0 10 "proj_1" "invoice.paid" "inv_1" .null false,
  .emit 1 11 "proj_1" "invoice.paid" "inv_2" .null false,
  .commit 1,
  .poll none,
  .commit 0]

theorem late_commit_skipped : ¬ ∀ (projectId : String) (state : FeedState),
    (feed projectId).Reachable state → state.NothingSkipped projectId := by
  intro nothing
  obtain ⟨state, ran, event, committed, owned, covered, missed⟩ : ∃ state,
      (feed "proj_1").run ⟨{}, [], []⟩ lateCommitActions = some state ∧
      ∃ event ∈ state.db.events, event.projectId = "proj_1" ∧
        (∃ greatest, state.cursor = some greatest ∧ event.seq ≤ greatest) ∧
        ∀ other ∈ state.received, other.seq ≠ event.seq := by
    refine ⟨_, rfl, _, List.mem_append_right _ List.mem_cons_self, rfl, ⟨2, rfl, ?_⟩, ?_⟩
    · decide
    · intro other member
      have two : other.seq ∈ [2] := List.mem_map_of_mem (f := fun event => event.seq) member
      rw [List.mem_singleton.mp two]
      decide
  have reached : (feed "proj_1").Reachable state :=
    Machine.reachable_of_run ⟨(.start rfl : storage.Reachable {}), rfl, rfl⟩ ran
  exact missed event (nothing "proj_1" state reached event committed owned covered) rfl

end Safrod
