import Safrod.Core.Webhook
import Safrod.Storage.Outbox
import Safrod.Webhooks.AtLeastOnce
import Safrod.Webhooks.UrlGuard

/-!
# Webhook requests

What a worker sends: the event in its envelope, signed with the secret of the endpoint, to the
address that passed the guard. The parsers of URLs and addresses, the resolver, the MAC and the
writer of JSON are parameters.

* `sent_authentic`: what is sent is an event of the project that owns the endpoint, and the
  receiver's check of the signature accepts it.
* `sent_once_per_event`: a receiver may tell repeated events by their identifier, which decides
  the body.
-/

set_option autoImplicit false

namespace Safrod

open Table

/-! ## The envelope -/

def eventEnvelope (id kind : String) (createdAt : DateTime) (simulated : Bool) (data : Value) :
    Value :=
  .object [
    ("id", .string id),
    ("type", .string kind),
    ("created_at", .timestamp createdAt),
    ("simulated", .bool simulated),
    ("data", data)]

def EventRecord.envelope (event : EventRecord) : Value :=
  eventEnvelope event.id event.kind event.createdAt event.simulated event.data

/-! ## The guard of URLs -/

/-- What is read of a parsed URL. -/
structure WebhookUrl extends Url where
  username : String
  password : Option String
  scheme : String

/-- What other packages compute. -/
structure Outside where
  parseUrl : String → Option WebhookUrl
  parseIp : String → Option IpAddr
  toVec : Value → List UInt8
  hmac : Hmac

def GuardError.toText : GuardError → String
  | invalid => "invalid url"
  | insecureScheme => "only https urls are allowed"
  | credentials => "urls with credentials are not allowed"
  | notPublic => "destination is not a public address"
  | unresolvable => "hostname did not resolve"

/-- `eq_ignore_ascii_case`. -/
def eqIgnoreAsciiCase (first second : String) : Bool :=
  first.toList.map Char.toLower == second.toList.map Char.toLower

/-- With `allowPrivate` (development only) loopback and private destinations and plain http are
permitted. -/
def validateUrl (outside : Outside) (raw : String) (allowPrivate : Bool) :
    Except GuardError WebhookUrl :=
  match outside.parseUrl raw with
  | none => .error .invalid
  | some url =>
      if url.username ≠ "" ∨ url.password.isSome then .error .credentials
      else if url.scheme = "https" ∨ (url.scheme = "http" ∧ allowPrivate = true) then
        match url.hostStr with
        | none => .error .invalid
        | some host =>
            if allowPrivate then .ok url
            else if eqIgnoreAsciiCase host "localhost" then .error .notPublic
            else
              match outside.parseIp (trimBrackets host) with
              | none => .ok url
              | some ip => if isPublicIp ip then .ok url else .error .notPublic
      else if url.scheme = "http" then .error .insecureScheme
      else .error .invalid

/-! ## Requests -/

def signatureHeader : String := "Safrod-Signature"

/-- A request, and the address that the connection is pinned to. -/
structure WebhookRequest where
  url : WebhookUrl
  host : String
  addr : SocketAddr
  headers : List (String × String)
  body : List UInt8

/-- The value of a header. -/
def WebhookRequest.header (request : WebhookRequest) (name : String) : Option String :=
  request.headers.lookup name

/-- `Utc::now().timestamp()`. -/
def unixTime (now : DateTime) : ℤ := now / 1000000

section Send

variable (outside : Outside) (config : DeliveryConfig) (lookupHost : Resolver) (now : DateTime)

/-- What `send` posts. -/
def webhookRequest (delivery : DueDelivery) : Except String WebhookRequest := do
  let url ← (validateUrl outside delivery.url config.allowPrivate).mapError GuardError.toText
  let addr ← (resolveChecked lookupHost url.toUrl config.allowPrivate).mapError GuardError.toText
  match url.hostStr with
  | none => .error "missing host"
  | some host =>
      let body := outside.toVec (eventEnvelope delivery.eventId delivery.eventType
        delivery.eventCreatedAt delivery.simulated delivery.data)
      let signature := sign outside.hmac delivery.secret.toUTF8.toList (unixTime now) body
      return {
        url := url
        host := trimBrackets host
        addr := addr
        headers := [
          ("content-type", "application/json"),
          ("user-agent", "safrod-webhooks/0.1"),
          (signatureHeader, signature),
          ("Safrod-Event-Id", delivery.eventId),
          ("Safrod-Delivery-Id", delivery.id)]
        body := body }

/-- A request is answered with a status, or it fails. Redirects are not followed. -/
def send (post : WebhookRequest → Except String ℕ) (delivery : DueDelivery) : Except String ℕ :=
  (webhookRequest outside config lookupHost now delivery).bind post

end Send

/-! ## What the guard lets through -/

theorem validateUrl_ok {outside : Outside} {raw : String} {allowPrivate : Bool} {url : WebhookUrl}
    (accepted : validateUrl outside raw allowPrivate = .ok url) :
    outside.parseUrl raw = some url ∧ url.username = "" ∧ url.password = none ∧
      (allowPrivate = false → url.scheme = "https") := by
  unfold validateUrl at accepted
  split at accepted
  · cases accepted
  · rename_i parsed found
    split at accepted
    · cases accepted
    · rename_i plain
      rw [not_or, not_not, Bool.not_eq_true, Option.isSome_eq_false_iff,
        Option.isNone_iff_eq_none] at plain
      split at accepted
      · rename_i schemes
        have same : parsed = url := by
          split at accepted
          · cases accepted
          · split at accepted
            · exact Except.ok.inj accepted
            · split at accepted
              · cases accepted
              · split at accepted
                · exact Except.ok.inj accepted
                · split at accepted
                  · exact Except.ok.inj accepted
                  · cases accepted
        subst same
        refine ⟨found, plain.1, plain.2, ?_⟩
        intro strict
        rcases schemes with https | ⟨-, allowed⟩
        · exact https
        · rw [strict] at allowed
          cases allowed
      · split at accepted
        · cases accepted
        · cases accepted

theorem resolveChecked_public {lookupHost : Resolver} {url : Url} {addr : SocketAddr}
    (resolved : resolveChecked lookupHost url false = .ok addr) : isPublicIp addr.ip = true := by
  unfold resolveChecked at resolved
  split at resolved
  · split at resolved
    · cases resolved
    · cases resolved
    · split at resolved
      · cases resolved
      · rename_i first rest _ allowed
        cases resolved
        simp only [Bool.not_false, Bool.true_and, List.any_cons, Bool.or_eq_true,
          Bool.not_eq_true', not_or, Bool.not_eq_false] at allowed
        exact allowed.1
  · cases resolved

/-! ## What a claim returns -/

/-- The delivery carries the event to the endpoint. -/
structure DueDelivery.Carries (delivery : DueDelivery) (event : EventRecord)
    (endpoint : WebhookEndpoint) : Prop where
  url : delivery.url = endpoint.url
  secret : delivery.secret = endpoint.secret
  eventId : delivery.eventId = event.id
  envelope : eventEnvelope delivery.eventId delivery.eventType delivery.eventCreatedAt
    delivery.simulated delivery.data = event.envelope

/-- What is sent for a row goes to an endpoint of the project that the event is of. -/
structure Db.Addressed (db : Db) : Prop where
  keyed : DeliveryState.Keyed db
  sequenced : Db.Sequenced db.nextSeq db.events
  rows : ∀ row ∈ db.webhookDeliveries, ∃ event ∈ db.events, ∃ endpoint ∈ db.webhookEndpoints,
    row.eventSeq = event.seq ∧ row.endpointId = endpoint.id ∧
      endpoint.projectId = event.projectId
  ids : KeyUnique (fun event : EventRecord => event.id) db.events

/-- A row brings the event to the endpoint under the identifier. -/
def Db.Delivers (db : Db) (id : String) (event : EventRecord) (endpoint : WebhookEndpoint) :
    Prop :=
  ∃ row ∈ db.webhookDeliveries, row.id = id ∧ row.eventSeq = event.seq ∧
    row.endpointId = endpoint.id

/-- The delivery carries an event of the project that its endpoint is of. -/
def DueDelivery.Genuine (db : Db) (delivery : DueDelivery) : Prop :=
  ∃ event ∈ db.events, ∃ endpoint ∈ db.webhookEndpoints,
    endpoint.projectId = event.projectId ∧ delivery.Carries event endpoint ∧
      db.Delivers delivery.id event endpoint

theorem Db.Addressed.genuine {db : Db} (addressed : db.Addressed) {row : DeliveryRecord}
    (member : row ∈ db.webhookDeliveries) {delivery : DueDelivery}
    (joined : db.dueDelivery row = some delivery) : delivery.Genuine db := by
  obtain ⟨event, eventMember, endpoint, endpointMember, seq, target, own⟩ :=
    addressed.rows row member
  have found : lookup (fun endpoint : WebhookEndpoint => endpoint.id) row.endpointId
      db.webhookEndpoints = some endpoint :=
    addressed.keyed.endpoints.lookup_eq_some.mpr ⟨endpointMember, target.symm⟩
  have reported : lookup (fun event : EventRecord => event.seq) row.eventSeq db.events =
      some event :=
    addressed.sequenced.unique.lookup_eq_some.mpr ⟨eventMember, seq.symm⟩
  simp only [Db.dueDelivery, found, reported, Option.bind_eq_bind, Option.bind_some,
    Option.some.injEq] at joined
  subst joined
  exact ⟨event, eventMember, endpoint, endpointMember, own, ⟨rfl, rfl, rfl, rfl⟩, row, member, rfl,
    seq, target⟩

/-- What a claim returns is joined from rows of the database it leaves. -/
theorem mem_claimDueDeliveries {now : DateTime} {limit : ℕ} {leaseSecs : ℤ}
    {locked : List String} {db after : Db} {due : List DueDelivery}
    (claimed : Db.claimDueDeliveries now limit leaseSecs locked db = (.ok due, after))
    {delivery : DueDelivery} (member : delivery ∈ due) :
    ∃ row ∈ after.webhookDeliveries, after.dueDelivery row = some delivery := by
  simp only [Db.claimDueDeliveries, transaction] at claimed
  split at claimed
  · rename_i finished
    split at finished
    · cases finished
    · cases finished
  · rename_i finished
    split at finished
    · cases finished
      cases claimed
      cases member
    · cases finished
  · rename_i finished
    split at finished
    · cases finished
    · cases finished
      cases claimed
      obtain ⟨row, sorted, joined⟩ := List.mem_filterMap.mp member
      have there := (List.mem_filter.mp ((List.mem_insertionSort _).mp sorted)).1
      exact ⟨row, there, joined⟩

/-! ## Endpoints and events stay what they are -/

/-- The endpoint, possibly disabled since. -/
structure SameTarget (endpoint later : WebhookEndpoint) : Prop where
  id : later.id = endpoint.id
  projectId : later.projectId = endpoint.projectId
  url : later.url = endpoint.url
  secret : later.secret = endpoint.secret

theorem SameTarget.refl (endpoint : WebhookEndpoint) : SameTarget endpoint endpoint :=
  ⟨rfl, rfl, rfl, rfl⟩

/-- Events stay, endpoints stay but for being disabled, and deliveries go on. -/
structure Db.Extends (earlier later : Db) : Prop where
  events : earlier.events ⊆ later.events
  endpoints : ∀ endpoint ∈ earlier.webhookEndpoints, ∃ other ∈ later.webhookEndpoints,
    SameTarget endpoint other
  rows : LaterRows earlier.webhookDeliveries later.webhookDeliveries

theorem Db.Extends.refl (db : Db) : db.Extends db :=
  ⟨List.Subset.refl _, fun endpoint member => ⟨endpoint, member, .refl endpoint⟩, .refl _⟩

theorem Db.Extends.trans {first second third : Db} (before : first.Extends second)
    (after : second.Extends third) : first.Extends third := by
  refine ⟨List.Subset.trans before.events after.events, ?_, ?_⟩
  · intro endpoint member
    obtain ⟨middle, there, one⟩ := before.endpoints endpoint member
    obtain ⟨last, found, two⟩ := after.endpoints middle there
    exact ⟨last, found, two.id.trans one.id, two.projectId.trans one.projectId,
      two.url.trans one.url, two.secret.trans one.secret⟩
  · intro row member
    obtain ⟨middle, there, one⟩ := before.rows row member
    obtain ⟨last, found, two⟩ := after.rows middle there
    exact ⟨last, found, one.trans two⟩

/-- A delivery that carries an event still does. -/
theorem DueDelivery.Genuine.extend {earlier later : Db} {delivery : DueDelivery}
    (genuine : delivery.Genuine earlier) (extends_ : earlier.Extends later) :
    delivery.Genuine later := by
  obtain ⟨event, eventMember, endpoint, endpointMember, own, carries, row, member, id, seq, target⟩
    := genuine
  obtain ⟨other, there, same⟩ := extends_.endpoints endpoint endpointMember
  obtain ⟨newer, found, later⟩ := extends_.rows row member
  refine ⟨event, extends_.events eventMember, other, there, same.projectId.trans own, ?_,
    newer, found, later.id.trans id, later.eventSeq.trans seq, ?_⟩
  · exact ⟨carries.url.trans same.url.symm, carries.secret.trans same.secret.symm,
      carries.eventId, carries.envelope⟩
  · rw [later.endpointId, target, same.id]

/-- What the step of a worker, a client or other code does to the database. -/
inductive DbMoved (db : Db) : Db → Prop where
  | unchanged : DbMoved db db
  | emitted (now : DateTime) (draws : Draws) (projectId kind resourceId : String)
      (data : Value) (simulated : Bool) (taken : (db.withDraws draws).TakesDraws projectId) :
      DbMoved db ((db.withDraws draws).emit now projectId kind resourceId data simulated)
  | endpointCreated (endpoint : WebhookEndpoint)
      (fresh : ∀ old ∈ db.webhookEndpoints, old.id ≠ endpoint.id) :
      DbMoved db { db with webhookEndpoints := db.webhookEndpoints ++ [endpoint] }
  | endpointDisabled (projectId id : String) : DbMoved db { db with
      webhookEndpoints := updateWhere (fun endpoint => endpoint.id = id ∧
        endpoint.projectId = projectId) Db.disabled db.webhookEndpoints }
  | rowsSet (chosen : DeliveryRecord → Prop) [DecidablePred chosen]
      (set : DeliveryRecord → DeliveryRecord) (later : ∀ row, LaterRow row (set row)) :
      DbMoved db { db with webhookDeliveries := updateWhere chosen set db.webhookDeliveries }

theorem dbMoved_of_step {config : DeliveryConfig} {state next : DeliveryState}
    {action : DeliveryAction} (step : state.step config action = some next) :
    DbMoved state.db next.db := by
  cases action with
  | tick elapsed =>
      cases step
      exact .unchanged
  | emit started draws projectId kind resourceId data simulated =>
      simp only [DeliveryState.step] at step
      split at step
      · rename_i allowed
        cases step
        exact .emitted started draws projectId kind resourceId data simulated allowed.2
      · cases step
  | createEndpoint id projectId url secret =>
      cases step
      rcases Db.createWebhookEndpoint_cases state.now id projectId url secret state.db with
        same | ⟨free, made⟩
      · rw [same]
        exact .unchanged
      · rw [made]
        exact .endpointCreated ⟨id, projectId, url, secret, true, state.now⟩ free
  | disableEndpoint projectId id =>
      cases step
      rcases Db.disableWebhookEndpoint_cases projectId id state.db with same | made
      · rw [same]
        exact .unchanged
      · rw [made]
        exact .endpointDisabled projectId id
  | claim worker locked =>
      simp only [DeliveryState.step] at step
      split at step
      · obtain ⟨due, claim, -, -⟩ := Db.claimDueDeliveries_spec state.now 20 config.leaseSecs
          locked state.db
        rw [claim] at step
        cases step
        exact .rowsSet _ _ (laterRow_leasedRow _)
      · cases step
  | start worker =>
      simp only [DeliveryState.step] at step
      split at step
      · cases step
        exact .unchanged
      · cases step
  | answer worker response =>
      simp only [DeliveryState.step] at step
      split at step
      · cases step
        exact .unchanged
      · cases step
  | record worker =>
      simp only [DeliveryState.step] at step
      split at step
      · rename_i leaseEnd current outcome rest answered
        rcases Db.recordDelivery_cases state.now current.id outcome state.db with
          ⟨error, failed⟩ | recorded
        · rw [failed] at step
          cases step
          exact .unchanged
        · rw [recorded] at step
          cases step
          exact .rowsSet _ _ (laterRow_recordedRow _ _)
      · cases step
  | crash worker =>
      cases step
      exact .unchanged
  | replay projectId id =>
      simp only [DeliveryState.step] at step
      rcases Db.replayDelivery_cases state.now projectId id state.db with failed | done
      · rw [failed] at step
        cases step
        exact .unchanged
      · rw [done] at step
        cases step
        exact .rowsSet _ _ (laterRow_requeuedRow _)

theorem DbMoved.extends {db after : Db} (moved : DbMoved db after) : db.Extends after := by
  cases moved with
  | unchanged => exact .refl db
  | emitted now draws projectId kind resourceId data simulated taken =>
      exact ⟨List.subset_append_left _ _,
        fun endpoint member => ⟨endpoint, member, .refl endpoint⟩,
        fun row member => ⟨row, List.mem_append_left _ member, .refl row⟩⟩
  | endpointCreated endpoint fresh =>
      exact ⟨List.Subset.refl _,
        fun other member => ⟨other, List.mem_append_left _ member, .refl other⟩, .refl _⟩
  | endpointDisabled projectId id =>
      refine ⟨List.Subset.refl _, ?_, .refl _⟩
      intro endpoint member
      refine ⟨_, mem_updateWhere.mpr ⟨endpoint, member, rfl⟩, ?_⟩
      split
      · exact ⟨rfl, rfl, rfl, rfl⟩
      · exact .refl endpoint
  | rowsSet chosen set later =>
      exact ⟨List.Subset.refl _,
        fun endpoint member => ⟨endpoint, member, .refl endpoint⟩,
        laterRows_updateWhere later _⟩

theorem Db.Addressed.moved {db after : Db} (addressed : db.Addressed) (moved : DbMoved db after) :
    after.Addressed := by
  have extends_ := moved.extends
  have kept : ∀ row : DeliveryRecord, (∃ event ∈ db.events, ∃ endpoint ∈ db.webhookEndpoints,
        row.eventSeq = event.seq ∧ row.endpointId = endpoint.id ∧
          endpoint.projectId = event.projectId) →
      ∃ event ∈ after.events, ∃ endpoint ∈ after.webhookEndpoints,
        row.eventSeq = event.seq ∧ row.endpointId = endpoint.id ∧
          endpoint.projectId = event.projectId := by
    rintro row ⟨event, eventMember, endpoint, endpointMember, seq, target, own⟩
    obtain ⟨other, there, same⟩ := extends_.endpoints endpoint endpointMember
    exact ⟨event, extends_.events eventMember, other, there, seq, target.trans same.id.symm,
      same.projectId.trans own⟩
  cases moved with
  | unchanged => exact addressed
  | emitted now draws projectId kind resourceId data simulated taken =>
      refine ⟨addressed.keyed.emit taken now kind resourceId data simulated,
        addressed.sequenced.append rfl, ?_, addressed.ids.append_singleton taken.1⟩
      · intro row member
        rcases List.mem_append.mp member with old | new
        · exact kept row (addressed.rows row old)
        · obtain ⟨endpoint, enabled, rfl⟩ := List.mem_map.mp new
          obtain ⟨there, chosen⟩ := List.mem_filter.mp enabled
          refine ⟨(db.withDraws draws).newEvent now projectId kind resourceId data simulated,
            List.mem_append_right _ (List.mem_singleton_self _), endpoint, there, rfl, rfl, ?_⟩
          exact (of_decide_eq_true chosen).1
  | endpointCreated endpoint fresh =>
      exact ⟨⟨addressed.keyed.endpoints.append_singleton fresh, addressed.keyed.unique⟩,
        addressed.sequenced, fun row member => kept row (addressed.rows row member),
        addressed.ids⟩
  | endpointDisabled projectId id =>
      exact ⟨⟨addressed.keyed.endpoints.update fun _ => rfl, addressed.keyed.unique⟩,
        addressed.sequenced, fun row member => kept row (addressed.rows row member),
        addressed.ids⟩
  | rowsSet chosen set later =>
      refine ⟨addressed.keyed.update later, addressed.sequenced, ?_, addressed.ids⟩
      intro row member
      obtain ⟨old, there, rfl⟩ := mem_updateWhere.mp member
      obtain ⟨event, eventMember, endpoint, endpointMember, seq, target, own⟩ :=
        addressed.rows old there
      refine ⟨event, eventMember, endpoint, endpointMember, ?_, ?_, own⟩
      · split
        · exact (later old).eventSeq.trans seq
        · exact seq
      · split
        · exact (later old).endpointId.trans target
        · exact target

/-! ## What workers hold -/

namespace DeliveryState

variable {config : DeliveryConfig} {state next later : DeliveryState} {action : DeliveryAction}

/-- What a worker holds it held before, or it was joined from rows just now. -/
theorem held_of_step (step : state.step config action = some next) {worker : ℕ}
    {delivery : DueDelivery} (member : delivery ∈ (next.phases worker).held) :
    delivery ∈ (state.phases worker).held ∨
      ∃ row ∈ next.db.webhookDeliveries, next.db.dueDelivery row = some delivery := by
  cases action with
  | tick elapsed =>
      cases step
      exact .inl member
  | emit started projectId kind resourceId data simulated =>
      simp only [DeliveryState.step] at step
      split at step
      · cases step
        exact .inl member
      · cases step
  | createEndpoint id projectId url secret =>
      cases step
      exact .inl member
  | disableEndpoint projectId id =>
      cases step
      exact .inl member
  | claim claimer locked =>
      simp only [DeliveryState.step] at step
      split at step
      · rename_i idle
        split at step
        · rename_i due db claimed
          cases step
          by_cases same : worker = claimer
          · subst same
            simp only [withPhase, withDb, Function.update_self, Phase.held_resume] at member
            exact .inr (mem_claimDueDeliveries claimed member)
          · simp only [withPhase, withDb, Function.update_of_ne same] at member
            exact .inl member
        · cases step
          exact .inl member
      · cases step
  | start sender =>
      simp only [DeliveryState.step] at step
      split at step
      · rename_i leaseEnd current rest holding
        cases step
        refine .inl (Phase.held_update ?_ member)
        intro delivery there
        rw [holding]
        exact there
      · cases step
  | answer sender response =>
      simp only [DeliveryState.step] at step
      split at step
      · rename_i leaseEnd since current rest sending
        cases step
        refine .inl (Phase.held_update ?_ member)
        intro delivery there
        rw [sending]
        exact there
      · cases step
  | record sender =>
      simp only [DeliveryState.step] at step
      split at step
      · rename_i leaseEnd current outcome rest answered
        split at step
        · cases step
          refine .inl (Phase.held_update ?_ member)
          intro delivery there
          rw [Phase.held_resume] at there
          rw [answered]
          exact List.mem_cons_of_mem _ there
        · cases step
          refine .inl (Phase.held_update ?_ member)
          rintro _ ⟨⟩
      · cases step
  | crash other =>
      cases step
      refine .inl (Phase.held_update ?_ member)
      rintro _ ⟨⟩
  | replay projectId id =>
      simp only [DeliveryState.step] at step
      split at step
      · cases step
        exact .inl member
      · cases step
        exact .inl member

/-- What workers hold carries events to their endpoints. -/
structure Wired (state : DeliveryState) : Prop where
  addressed : state.db.Addressed
  held : ∀ worker, ∀ delivery ∈ (state.phases worker).held, delivery.Genuine state.db

theorem Wired.step (wired : Wired state) (step : state.step config action = some next) :
    Wired next := by
  have moved := dbMoved_of_step step
  have addressed := wired.addressed.moved moved
  refine ⟨addressed, ?_⟩
  intro worker delivery member
  rcases held_of_step step member with before | ⟨row, there, joined⟩
  · exact (wired.held worker delivery before).extend moved.extends
  · exact addressed.genuine there joined

theorem wired_of_reachable (reached : (delivering config).Reachable state) : Wired state := by
  refine reached.invariant Wired ?_ ?_
  · rintro ⟨now, db, phases, log⟩ ⟨rfl, idle, rfl⟩
    refine ⟨⟨⟨KeyUnique.nil, KeyUnique.nil⟩, ⟨Nat.one_pos, ?_, KeyUnique.nil⟩, ?_,
      KeyUnique.nil⟩, ?_⟩
    · rintro _ ⟨⟩
    · rintro _ ⟨⟩
    · intro worker delivery member
      rw [idle worker] at member
      cases member
  · intro state action next _ wired step
    exact wired.step step

theorem extends_of_leads (reached : (delivering config).Reachable state)
    (leads : (delivering config).Leads state later) : state.db.Extends later.db :=
  leads.induct (fun first second : DeliveryState => first.db.Extends second.db)
    (fun state => .refl state.db) (fun _ _ _ => .trans)
    (fun _ _ _ _ step => (dbMoved_of_step step).extends) reached

end DeliveryState

/-! ## What goes over the wire -/

/-- The request brings the event to the endpoint for a row, signed at the time. -/
structure WebhookRequest.Brings (outside : Outside) (db : Db) (now : DateTime)
    (event : EventRecord) (endpoint : WebhookEndpoint) (request : WebhookRequest) : Prop where
  url : outside.parseUrl endpoint.url = some request.url
  body : request.body = outside.toVec event.envelope
  signature : request.header signatureHeader = some
    (sign outside.hmac endpoint.secret.toUTF8.toList (unixTime now) request.body)
  eventId : request.header "Safrod-Event-Id" = some event.id
  delivery : ∃ id, request.header "Safrod-Delivery-Id" = some id ∧ db.Delivers id event endpoint

/-- What `webhookRequest` makes of a delivery. -/
theorem webhookRequest_ok {outside : Outside} {config : DeliveryConfig} {lookupHost : Resolver}
    {now : DateTime} {delivery : DueDelivery} {request : WebhookRequest}
    (made : webhookRequest outside config lookupHost now delivery = .ok request) :
    validateUrl outside delivery.url config.allowPrivate = .ok request.url ∧
      resolveChecked lookupHost request.url.toUrl config.allowPrivate = .ok request.addr ∧
      request.body = outside.toVec (eventEnvelope delivery.eventId delivery.eventType
        delivery.eventCreatedAt delivery.simulated delivery.data) ∧
      request.headers = [
        ("content-type", "application/json"),
        ("user-agent", "safrod-webhooks/0.1"),
        (signatureHeader,
          sign outside.hmac delivery.secret.toUTF8.toList (unixTime now) request.body),
        ("Safrod-Event-Id", delivery.eventId),
        ("Safrod-Delivery-Id", delivery.id)] := by
  obtain ⟨url, validated, made⟩ := Except.exists_of_bind_eq_ok made
  obtain ⟨addr, resolved, made⟩ := Except.exists_of_bind_eq_ok made
  split at made
  · cases made
  · cases made
    exact ⟨Except.eq_ok_of_mapError_eq_ok validated, Except.eq_ok_of_mapError_eq_ok resolved, rfl,
      rfl⟩

theorem eventId_webhookRequest {outside : Outside} {config : DeliveryConfig}
    {lookupHost : Resolver} {now : DateTime} {delivery : DueDelivery} {request : WebhookRequest}
    (made : webhookRequest outside config lookupHost now delivery = .ok request) :
    request.header "Safrod-Event-Id" = some delivery.eventId := by
  obtain ⟨-, -, -, headers⟩ := webhookRequest_ok made
  rw [WebhookRequest.header, headers]
  rfl

theorem DueDelivery.Carries.brings {outside : Outside} {config : DeliveryConfig}
    {lookupHost : Resolver} {now : DateTime} {delivery : DueDelivery} {event : EventRecord}
    {endpoint : WebhookEndpoint} (carries : delivery.Carries event endpoint) {db : Db}
    (delivers : db.Delivers delivery.id event endpoint) {request : WebhookRequest}
    (made : webhookRequest outside config lookupHost now delivery = .ok request) :
    request.Brings outside db now event endpoint := by
  obtain ⟨validated, -, body, headers⟩ := webhookRequest_ok made
  refine ⟨?_, ?_, ?_, ?_, ?_⟩
  · rw [← carries.url]
    exact (validateUrl_ok validated).1
  · rw [body, carries.envelope]
  · rw [WebhookRequest.header, headers, carries.secret]
    rfl
  · rw [eventId_webhookRequest made, carries.eventId]
  · refine ⟨delivery.id, ?_, delivers⟩
    rw [WebhookRequest.header, headers]
    rfl

section Sent

variable {config : DeliveryConfig} {state later : DeliveryState}

theorem genuine_of_sending (reached : (delivering config).Reachable state) {worker : ℕ}
    {leaseEnd since : DateTime} {current : DueDelivery} {rest : List DueDelivery}
    (sending : state.phases worker = .sending leaseEnd since current rest) :
    current.Genuine state.db := by
  refine (DeliveryState.wired_of_reachable reached).held worker current ?_
  rw [sending]
  exact List.mem_cons_self

/-- What the guard says of an address: `is_public_ip` accepts it, so an internal destination is
reached through it in an encoding only that the guard does not look into. -/
structure IpAddr.Guarded (ip : IpAddr) : Prop where
  accepted : isPublicIp ip = true
  apart : ∀ v4, ip = .v4 v4 → ∀ block ∈ reservedBlocks, ¬ block.Has v4
  hidden : ip.ReachesInternal → ip.HidesInternal

theorem IpAddr.guarded_of_public {ip : IpAddr} (accepted : isPublicIp ip = true) : ip.Guarded := by
  refine ⟨accepted, ?_, (reachesInternal_iff accepted).mp⟩
  rintro v4 rfl
  exact (isPublicV4_iff v4).mp accepted

/-- The request carries what an endpoint of the event's project asked for, over a channel that
the guard allows, and its receiver accepts the signature within the tolerance. -/
structure WebhookRequest.Authentic (outside : Outside) (config : DeliveryConfig) (db : Db)
    (now : DateTime) (event : EventRecord) (endpoint : WebhookEndpoint)
    (request : WebhookRequest) : Prop where
  brings : request.Brings outside db now event endpoint
  own : endpoint.projectId = event.projectId
  guarded : config.allowPrivate = false →
    request.url.scheme = "https" ∧ request.addr.ip.Guarded
  accepted : ∀ header, request.header signatureHeader = some header → IsI64 (unixTime now) →
    ∀ (overflow : Overflow) (receiverNow tolerance : ℤ),
      |receiverNow - unixTime now| < 2 ^ 63 → |receiverNow - unixTime now| ≤ tolerance →
        verify outside.hmac overflow endpoint.secret.toUTF8.toList header request.body receiverNow
          tolerance = some (.ok ())

/-- **What is sent is authentic.** Whatever workers, clients and crashes did before, what a
worker posts is an event of the database in its envelope, for a delivery of the event to an
endpoint of its project, and signed so that the endpoint's owner accepts it. Where private
destinations are not allowed it goes over https to an address that `is_public_ip` accepts: no
IPv4 address of a reserved block, and no address that carries an internal one but in an
encoding that the guard does not look into. -/
theorem sent_authentic (reached : (delivering config).Reachable state) {worker : ℕ}
    {leaseEnd since : DateTime} {current : DueDelivery} {rest : List DueDelivery}
    (sending : state.phases worker = .sending leaseEnd since current rest) {outside : Outside}
    {lookupHost : Resolver} {now : DateTime} {request : WebhookRequest}
    (made : webhookRequest outside config lookupHost now current = .ok request) :
    ∃ event ∈ state.db.events, ∃ endpoint ∈ state.db.webhookEndpoints,
      request.Authentic outside config state.db now event endpoint := by
  obtain ⟨event, eventMember, endpoint, endpointMember, own, carries, delivers⟩ :=
    genuine_of_sending reached sending
  have brings := carries.brings delivers made
  obtain ⟨validated, resolved, -, -⟩ := webhookRequest_ok made
  refine ⟨event, eventMember, endpoint, endpointMember, brings, own, ?_, ?_⟩
  · intro strict
    rw [strict] at resolved
    exact ⟨(validateUrl_ok validated).2.2.2 strict,
      IpAddr.guarded_of_public (resolveChecked_public resolved)⟩
  · intro header given word overflow receiverNow tolerance within fresh
    cases brings.signature.symm.trans given
    rw [verify_sign outside.hmac overflow _ _ word, overflow.age_eq within, Option.map_some,
      if_neg (Int.not_lt.mpr fresh)]

/-- **A repeated event is told by its identifier.** Identifiers are drawn freely, and a taken one
refuses the transaction. Two requests at any times of a run, by any workers and to any
endpoints, that name the same event bring the same event of one project, in the same words. -/
theorem sent_once_per_event (reached : (delivering config).Reachable state)
    (leads : (delivering config).Leads state later) {worker other : ℕ}
    {leaseEnd since leaseEnd' since' : DateTime} {current current' : DueDelivery}
    {rest rest' : List DueDelivery}
    (sending : state.phases worker = .sending leaseEnd since current rest)
    (sendingLater : later.phases other = .sending leaseEnd' since' current' rest')
    {outside : Outside} {lookupHost lookupHost' : Resolver} {now now' : DateTime}
    {request request' : WebhookRequest}
    (made : webhookRequest outside config lookupHost now current = .ok request)
    (madeLater : webhookRequest outside config lookupHost' now' current' = .ok request')
    (same : request.header "Safrod-Event-Id" = request'.header "Safrod-Event-Id") :
    request'.body = request.body ∧ ∃ event ∈ later.db.events,
      ∃ first ∈ later.db.webhookEndpoints, ∃ second ∈ later.db.webhookEndpoints,
        request.Brings outside later.db now event first ∧
          request'.Brings outside later.db now' event second ∧
          first.projectId = event.projectId ∧ second.projectId = event.projectId := by
  have reachedLater := reached.leads leads
  have addressed := (DeliveryState.wired_of_reachable reachedLater).addressed
  obtain ⟨event, member, first, firstMember, own, carries, delivers⟩ :=
    (genuine_of_sending reached sending).extend (DeliveryState.extends_of_leads reached leads)
  obtain ⟨event', member', second, secondMember, own', carries', delivers'⟩ :=
    genuine_of_sending reachedLater sendingLater
  have brings := carries.brings delivers made
  have brings' := carries'.brings delivers' madeLater
  have ids : event.id = event'.id :=
    Option.some.inj (brings.eventId.symm.trans (same.trans brings'.eventId))
  cases addressed.ids.eq_of_key member member' ids
  exact ⟨brings'.body.trans brings.body.symm, event, member, first, firstMember, second,
    secondMember, brings, brings', own, own'⟩

/-- A public host, whose URL the registered one is. -/
def exampleOutside : Outside where
  parseUrl raw :=
    if raw = "https://example.test/hook" then some {
      hostStr := some "example.test"
      portOrKnownDefault := some 443
      username := ""
      password := none
      scheme := "https" }
    else none
  parseIp _ := none
  toVec _ := ("\x7b\"created_at\":\"1970-01-01T00:00:00Z\",\"data\":null,\"id\":\"evt_1\"," ++
    "\"simulated\":false,\"type\":\"invoice.paid\"\x7d").toUTF8.data.toList
  hmac := plainMac

def exampleResolver : Resolver := fun host port =>
  if host = "example.test" then some [⟨.v4 ⟨93, 184, 216, 34⟩, port⟩] else none

/-- A delivery is claimed and its request under way. -/
def sendingActions : List DeliveryAction := [
  .createEndpoint "we_1" "proj_1" "https://example.test/hook" "whsec_1",
  .emit 0 .counting "proj_1" "invoice.paid" "inv_1" .null false,
  .claim 0 [],
  .start 0]

def sentDelivery : DueDelivery where
  id := "dlv_1_we_1"
  attempts := 0
  url := "https://example.test/hook"
  secret := "whsec_1"
  eventId := "evt_1"
  eventType := "invoice.paid"
  resourceId := "inv_1"
  data := .null
  simulated := false
  eventCreatedAt := 0

theorem sending_sent : ((delivering {}).run ⟨0, {}, fun _ => .idle, []⟩ sendingActions).map
    (fun state => state.phases 0) = some (.sending 60000000 0 sentDelivery []) := by rfl

theorem sent_authentic_hook : ∃ state request,
    (delivering {}).run ⟨0, {}, fun _ => .idle, []⟩ sendingActions = some state ∧
      webhookRequest exampleOutside {} exampleResolver 0 sentDelivery = .ok request ∧
      ∃ event ∈ state.db.events, ∃ endpoint ∈ state.db.webhookEndpoints,
        request.Authentic exampleOutside {} state.db 0 event endpoint := by
  obtain ⟨state, ran, sending⟩ := Option.map_eq_some_iff.mp sending_sent
  obtain ⟨request, made⟩ : ∃ request,
      webhookRequest exampleOutside {} exampleResolver 0 sentDelivery = .ok request := ⟨_, rfl⟩
  exact ⟨state, request, ran, made, sent_authentic
    (Machine.reachable_of_run ⟨rfl, fun _ => rfl, rfl⟩ ran) sending made⟩

/-- The request fails, and the delivery is sent again when its next attempt is due. -/
def resendingActions : List DeliveryAction := [
  .answer 0 (.ok 503), .record 0, .tick 5000000, .claim 1 [], .start 1]

theorem sent_once_per_event_resent : ∃ state later request request',
    (delivering {}).run ⟨0, {}, fun _ => .idle, []⟩ sendingActions = some state ∧
      (delivering {}).run state resendingActions = some later ∧
      webhookRequest exampleOutside {} exampleResolver 0 sentDelivery = .ok request ∧
      webhookRequest exampleOutside {} exampleResolver 5000000
        { sentDelivery with attempts := 1 } = .ok request' ∧
      request'.body = request.body := by
  have again : (((delivering {}).run ⟨0, {}, fun _ => .idle, []⟩ sendingActions).bind fun state =>
      (delivering {}).run state resendingActions).map (fun state => state.phases 1) =
        some (.sending 65000000 5000000 { sentDelivery with attempts := 1 } []) := by rfl
  obtain ⟨later, both, sendingLater⟩ := Option.map_eq_some_iff.mp again
  obtain ⟨state, ran, ranLater⟩ := Option.bind_eq_some_iff.mp both
  have sending := sending_sent
  rw [ran, Option.map_some, Option.some.injEq] at sending
  obtain ⟨request, made⟩ : ∃ request,
      webhookRequest exampleOutside {} exampleResolver 0 sentDelivery = .ok request := ⟨_, rfl⟩
  obtain ⟨request', madeLater⟩ : ∃ request, webhookRequest exampleOutside {} exampleResolver
      5000000 { sentDelivery with attempts := 1 } = .ok request := ⟨_, rfl⟩
  refine ⟨state, later, request, request', ran, ranLater, made, madeLater,
    (sent_once_per_event (Machine.reachable_of_run ⟨rfl, fun _ => rfl, rfl⟩ ran)
      (Machine.leads_of_run ranLater) sending sendingLater made madeLater ?_).1⟩
  rw [eventId_webhookRequest made, eventId_webhookRequest madeLater]

end Sent

end Safrod
