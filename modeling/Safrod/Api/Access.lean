import Safrod.Api.Clients

/-!
# From the operator to the rows of a project

The whole way a client's request goes: the operator hands out a key, the client presents its
secret, the request is admitted once with the scope of its handler, and the handler's steps
follow at any later time. Operator requests, client requests and the background interleave.

* `write_granted`: a step of a request changes what a project owns only if the operator had
  handed out its key for this project with the scope, and by a write that the scope is for.
* `sealed_project`: once the keys of a project are revoked and its requests are over, no
  request changes what it owns.
-/

set_option autoImplicit false

namespace Safrod

open Table Machine

/-! ## Requests in progress -/

/-- A request that was admitted and passed its checks: the text it presented, what it was given
for it and where its handler stands. -/
structure Session where
  token : String
  request : ClientRequest
  context : AuthContext
  task : ClientTask

abbrev OperatorPool (sha256 : Sha256) : Type :=
  Pool Operator AdminRequest (AdminCall sha256) AdminAnswer (Except ApiError AdminReply)

structure Access (sha256 : Sha256) where
  admin : OperatorPool sha256
  db : Db
  sessions : ℕ → Option Session

namespace Access

variable {sha256 : Sha256}

abbrev log (state : Access sha256) : List KeyEvent := state.admin.shared.desk.log

abbrev directory (state : Access sha256) : Directory := state.admin.shared.desk.directory

end Access

inductive AccessAction where
  | admin (action : PoolAction AdminRequest AdminDraw)
  /-- A client's request, with its headers. -/
  | enter (slot : ℕ) (headers : HeaderMap) (request : ClientRequest)
  | act (slot : ℕ) (action : ClientAction)
  /-- The client went away. -/
  | leave (slot : ℕ)
  /-- What the node, the sweeps, the watcher and the webhook workers write. -/
  | background (write : DbWrite)

/-- A request that is refused, or fails its checks, is answered at once. -/
def access (sha256 : Sha256) (app : AppState) (env : ClientEnv) :
    Machine (Access sha256) AccessAction where
  initial state := (operator sha256 app).initial state.admin ∧ state.db = {} ∧
    ∀ slot, state.sessions slot = none
  step state
    | .admin action =>
        ((operator sha256 app).step state.admin action).map fun admin =>
          { state with admin := admin }
    | .enter slot headers request =>
        match state.sessions slot, bearerToken headers,
          authorize sha256 state.directory headers request.scope with
        | none, some token, .ok context =>
            match request.accept app env headers context.projectId with
            | .error _ => some state
            | .ok task => some { state with
                sessions := Function.update state.sessions slot
                  (some ⟨token, request, context, task⟩) }
        | _, _, _ => none
    | .act slot action =>
        match state.sessions slot with
        | none => none
        | some session =>
            (session.task.act env state.db session.context.projectId action).map fun outcome =>
              { state with
                db := outcome.db
                sessions := Function.update state.sessions slot
                  (outcome.next.map fun task => { session with task := task }) }
    | .leave slot => some { state with sessions := Function.update state.sessions slot none }
    | .background write => some { state with db := state.db.write write }

/-- The watcher observes deposits to the addresses that it read. -/
def AccessAction.Admitted {sha256 : Sha256} (state : Access sha256) : AccessAction → Prop
  | .background write => write.Admitted state.db
  | _ => True

section Access

variable {sha256 : Sha256} {app : AppState} {env : ClientEnv} {state next later : Access sha256}
  {projectId : String}

/-! ## What holds at every time -/

/-- The session was opened with the digest of a secret that was handed out with its scope, and
its handler runs for the project of the key. -/
structure Session.Sound (sha256 : Sha256) (log : List KeyEvent) (db : Db) (session : Session) :
    Prop where
  carries : session.request.scope.asStr ∈ session.context.scopes
  issued : ∃ secret, .issued secret session.context ∈ log ∧
    hashSecret sha256 secret = hashSecret sha256 session.token
  scope : session.task.scope = session.request.scope
  within : session.task.Within session.context.projectId db

structure Access.Sound (app : AppState) (state : Access sha256) : Prop where
  admin : (operator sha256 app).Reachable state.admin
  db : database.ReachableBy (fun db write => write.Admitted db) state.db
  sessions : ∀ slot session, state.sessions slot = some session →
    session.Sound sha256 state.log state.db

theorem ProjectWrite.dbWrite_admitted (projectId : String) (write : ProjectWrite) (db : Db) :
    (write.dbWrite projectId).Admitted db := by
  cases write <;> trivial

/-- The log of the desk only grows. -/
theorem admin_log {action : PoolAction AdminRequest AdminDraw} {admin after : OperatorPool sha256}
    (reached : (operator sha256 app).Reachable admin)
    (step : (operator sha256 app).step admin action = some after) :
    admin.shared.desk.log ⊆ after.shared.desk.log := by
  have onDesk := onDesk_of_reachable reached
  have grown : ∀ statement : KeyStatement sha256,
      admin.shared.desk.log ⊆ (admin.shared.desk.execute statement).log := by
    intro statement
    have leads : (keyDesk sha256).Leads admin.shared.desk (admin.shared.desk.execute statement) :=
      .single rfl
    exact (KeyDesk.log_suffix onDesk leads).subset
  cases action with
  | start slot request =>
      simp only [operator, pool] at step
      split at step
      · cases step
      · cases step
        exact List.Subset.refl _
  | advance slot draw =>
      simp only [operator, pool] at step
      split at step
      · cases step
      · cases step
        exact List.Subset.refl _
      · rename_i request call further here
        cases step
        cases call with
        | createProject name network =>
            exact grown (.createProject draw.now draw.id name network)
        | createApiKey projectId label scopes key =>
            exact grown (.createApiKey draw.now draw.id projectId label scopes key)
        | revokeApiKey projectId keyId => exact grown (.revokeApiKey draw.now projectId keyId)
        | _ => exact List.Subset.refl _
  | cancel slot =>
      cases step
      exact List.Subset.refl _

theorem Session.Sound.mono {log more : List KeyEvent} (grown : log ⊆ more) {db : Db}
    {session : Session} (sound : session.Sound sha256 log db) :
    session.Sound sha256 more db := by
  obtain ⟨secret, issued, same⟩ := sound.issued
  exact ⟨sound.carries, ⟨secret, grown issued, same⟩, sound.scope, sound.within⟩

theorem Session.Sound.written {log : List KeyEvent} {db : Db} {session : Session}
    (sound : session.Sound sha256 log db) (write : DbWrite) :
    session.Sound sha256 log (db.write write) :=
  ⟨sound.carries, sound.issued, sound.scope, sound.within.written write⟩

theorem Session.Sound.writtenFor {log : List KeyEvent} {db after : Db} {session : Session}
    {permits : ProjectWrite → Bool} (sound : session.Sound sha256 log db)
    (written : db.WrittenFor projectId permits after) : session.Sound sha256 log after := by
  cases written with
  | nothing => exact sound
  | wrote write permitted inScope => exact sound.written _

/-- What an admitted request was given, was handed out. -/
theorem issued_of_authorize {desk : KeyDesk} (reached : (keyDesk sha256).Reachable desk)
    {headers : HeaderMap} {scope : Scope} {token : String} {context : AuthContext}
    (presented : bearerToken headers = some token)
    (admitted : authorize sha256 desk.directory headers scope = .ok context) :
    scope.asStr ∈ context.scopes ∧
      (∃ secret, .issued secret context ∈ desk.log ∧
        hashSecret sha256 secret = hashSecret sha256 token) ∧
      .revoked context.projectId context.keyId ∉ desk.log := by
  have recorded := KeyDesk.recorded_of_reachable reached
  obtain ⟨authenticated, carries⟩ := authorize_eq_ok.mp admitted
  obtain ⟨text, given, -, found⟩ := authenticate_eq_ok.mp authenticated
  cases presented.symm.trans given
  obtain ⟨row, member, hashed, rfl, live⟩ := recorded.authenticate_eq_some.mp found
  obtain ⟨secret, issued, same⟩ := recorded.handedOut row member
  exact ⟨carries, ⟨secret, issued, same.symm.trans hashed⟩, live⟩

/-- The steps of a state of the system. -/
inductive Accessed (app : AppState) (env : ClientEnv) (state : Access sha256) :
    AccessAction → Access sha256 → Prop where
  | operated (action : PoolAction AdminRequest AdminDraw) (admin : OperatorPool sha256)
      (step : (operator sha256 app).step state.admin action = some admin) :
      Accessed app env state (.admin action) { state with admin := admin }
  | rejected (slot : ℕ) (headers : HeaderMap) (request : ClientRequest) :
      Accessed app env state (.enter slot headers request) state
  | entered (slot : ℕ) (headers : HeaderMap) (request : ClientRequest) (token : String)
      (context : AuthContext) (task : ClientTask) (presented : bearerToken headers = some token)
      (admitted : authorize sha256 state.directory headers request.scope = .ok context)
      (accepted : request.accept app env headers context.projectId = .ok task) :
      Accessed app env state (.enter slot headers request) { state with
        sessions := Function.update state.sessions slot (some ⟨token, request, context, task⟩) }
  | acted (slot : ℕ) (action : ClientAction) (session : Session) (outcome : ClientOutcome)
      (here : state.sessions slot = some session)
      (step : session.task.act env state.db session.context.projectId action = some outcome) :
      Accessed app env state (.act slot action) { state with
        db := outcome.db
        sessions := Function.update state.sessions slot
          (outcome.next.map fun task => { session with task := task }) }
  | left (slot : ℕ) :
      Accessed app env state (.leave slot)
        { state with sessions := Function.update state.sessions slot none }
  | written (write : DbWrite) :
      Accessed app env state (.background write) { state with db := state.db.write write }

theorem accessed_of_step {action : AccessAction}
    (step : (access sha256 app env).step state action = some next) :
    Accessed app env state action next := by
  cases action with
  | admin action =>
      obtain ⟨admin, moved, rfl⟩ := Option.map_eq_some_iff.mp step
      exact .operated action admin moved
  | enter slot headers request =>
      simp only [access] at step
      split at step
      · rename_i token context _ presented admitted
        split at step
        · cases step
          exact .rejected slot headers request
        · rename_i task accepted
          cases step
          exact .entered slot headers request token context task presented admitted accepted
      · cases step
  | act slot action =>
      simp only [access] at step
      split at step
      · cases step
      · rename_i session here
        obtain ⟨outcome, acted, rfl⟩ := Option.map_eq_some_iff.mp step
        exact .acted slot action session outcome here acted
  | leave slot =>
      cases step
      exact .left slot
  | background write =>
      cases step
      exact .written write

/-- What a step of a request wrote. -/
theorem Access.Sound.acted (sound : state.Sound app) {slot : ℕ} {session : Session}
    {action : ClientAction} {outcome : ClientOutcome} (here : state.sessions slot = some session)
    (step : session.task.act env state.db session.context.projectId action = some outcome) :
    state.db.WrittenFor session.context.projectId session.request.scope.permits outcome.db ∧
      outcome.Within session.context.projectId session.request.scope := by
  have own := sound.sessions slot session here
  rw [← own.scope]
  exact ClientTask.act_written own.within step

theorem Access.Sound.withSession (sound : state.Sound app) (slot : ℕ) {entry : Option Session}
    (fits : ∀ session, entry = some session → session.Sound sha256 state.log state.db) :
    Access.Sound app { state with sessions := Function.update state.sessions slot entry } where
  admin := sound.admin
  db := sound.db
  sessions := by
    intro other session here
    by_cases same : other = slot
    · subst same
      simp only [Function.update_self] at here
      exact fits session here
    · simp only [Function.update_of_ne same] at here
      exact sound.sessions other session here

theorem Access.Sound.withDb (sound : state.Sound app) {permits : ProjectWrite → Bool} {db : Db}
    (written : state.db.WrittenFor projectId permits db) :
    Access.Sound app { state with db := db } where
  admin := sound.admin
  db := by
    cases written with
    | nothing => exact sound.db
    | wrote write permitted inScope =>
        exact .step sound.db (write.dbWrite_admitted projectId state.db) rfl
  sessions slot session here := (sound.sessions slot session here).writtenFor written

theorem Access.Sound.step (sound : state.Sound app) {action : AccessAction}
    (watched : action.Admitted state)
    (step : (access sha256 app env).step state action = some next) : next.Sound app := by
  cases accessed_of_step step with
  | operated action admin moved =>
      refine ⟨sound.admin.next moved, sound.db, ?_⟩
      intro slot session here
      exact (sound.sessions slot session here).mono (admin_log sound.admin moved)
  | rejected slot headers request => exact sound
  | entered slot headers request token context task presented admitted accepted =>
      refine sound.withSession slot ?_
      rintro _ ⟨⟩
      obtain ⟨carries, issued, -⟩ :=
        issued_of_authorize (onDesk_of_reachable sound.admin) presented admitted
      obtain ⟨scope, within⟩ := ClientRequest.accept_within accepted
      exact ⟨carries, issued, scope, within⟩
  | acted slot action session outcome here acted =>
      obtain ⟨written, goesOn⟩ := sound.acted here acted
      have kept := (sound.sessions slot session here).writtenFor written
      refine (sound.withDb written).withSession slot ?_
      rintro _ same
      obtain ⟨task, there, rfl⟩ := Option.map_eq_some_iff.mp same
      obtain ⟨scope, within⟩ := goesOn task there
      exact ⟨kept.carries, kept.issued, scope, within⟩
  | left slot =>
      refine sound.withSession slot ?_
      rintro _ ⟨⟩
  | written write =>
      exact ⟨sound.admin, .step sound.db watched rfl,
        fun slot session here => (sound.sessions slot session here).written write⟩

theorem access_sound
    (reached : (access sha256 app env).ReachableBy (fun state action => action.Admitted state)
      state) : state.Sound app := by
  refine reached.invariant (Access.Sound app) ?_ ?_
  · rintro state ⟨admin, db, idle⟩
    refine ⟨.start admin, .start db, ?_⟩
    intro slot session here
    rw [idle slot] at here
    cases here
  · intro state action next _ sound watched step
    exact sound.step watched step

/-! ## Where a change comes from -/

/-- **Nothing is written without the operator's grant.** Operator requests, client requests and
the background interleave in any order, each handler a call at a time. Where a step of a request
changes what a project owns, the request was admitted for this project; the step made one write,
of a kind that the scope of its handler is for; its key carries the scope; and a request that
presented the admin token had the key handed out, with a secret that has the digest of the text
the client presented. -/
theorem write_granted
    (reached : (access sha256 app env).ReachableBy (fun state action => action.Admitted state)
      state) {slot : ℕ} {action : ClientAction}
    (step : (access sha256 app env).step state (.act slot action) = some next)
    (changed : next.db.owned projectId ≠ state.db.owned projectId) :
    ∃ session write secret grant, state.sessions slot = some session ∧
      session.context.projectId = projectId ∧
      next.db = state.db.write (write.dbWrite projectId) ∧
      session.request.scope.permits write = true ∧
      session.request.scope.asStr ∈ session.context.scopes ∧
      hashSecret sha256 secret = hashSecret sha256 session.token ∧
      grant ∈ state.admin.asked ∧ grant.Admitted sha256 app ∧
      grant.route.Grants app state.directory.projects secret session.context := by
  have sound := access_sound reached
  cases accessed_of_step step with
  | acted slot action session outcome here acted =>
      obtain ⟨secret, issued, same⟩ := (sound.sessions slot session here).issued
      obtain ⟨grant, member, admitted, grants⟩ :=
        (operator_gated sound.admin).issued secret session.context issued
      have carries := (sound.sessions slot session here).carries
      obtain ⟨written, -⟩ := sound.acted here acted
      generalize outcome.db = after at written changed
      cases written with
      | nothing => exact absurd rfl changed
      | wrote write permitted inScope =>
          have own : session.context.projectId = projectId := by
            by_contra apart
            exact changed (write.frame (Db.consistent_of_reachable sound.db) apart inScope)
          subst own
          exact ⟨session, write, secret, grant, here, rfl, rfl, permitted, carries, same, member,
            admitted, grants⟩

def deskEnv : ClientEnv where
  engine := regtest
  invoices := { toText := regtest.toText, timestampOpt := fun _ => none }
  outside := exampleOutside

def operatorStart : OperatorPool keepBytes := ⟨{}, [], fun _ => none⟩

def accessStart : Access keepBytes where
  admin := operatorStart
  db := {}
  sessions := fun _ => none

theorem accessStart_initial : (access keepBytes operatorApp deskEnv).initial accessStart :=
  ⟨⟨rfl, rfl, fun _ => rfl⟩, rfl, fun _ => rfl⟩

/-- The background does nothing. -/
def AccessAction.isRequest : AccessAction → Bool
  | .background _ => false
  | _ => true

theorem stepsMeet_of_requests {actions : List AccessAction}
    (requests : actions.all AccessAction.isRequest = true) (state : Access sha256) :
    (access sha256 app env).StepsMeet (fun state action => action.Admitted state) state
      actions := by
  refine stepsMeet_of_forall ?_ _
  intro action member later
  have asked := List.all_eq_true.mp requests action member
  cases action with
  | background write => cases asked
  | _ => trivial

/-- The operator's requests go on as they do alone. -/
theorem run_admin (state : Access sha256) (actions : List (PoolAction AdminRequest AdminDraw)) :
    (access sha256 app env).run state (actions.map .admin) =
      ((operator sha256 app).run state.admin actions).map fun admin =>
        { state with admin := admin } := by
  induction actions generalizing state with
  | nil => rfl
  | cons action rest ih =>
      have step : (access sha256 app env).step state (.admin action) =
          ((operator sha256 app).step state.admin action).map fun admin =>
            { state with admin := admin } := rfl
      simp only [List.map_cons, run, step]
      cases (operator sha256 app).step state.admin action with
      | none => rfl
      | some admin => exact ih { state with admin := admin }

/-- A request with a key that was handed out and not revoked is let in. -/
theorem step_enter (sound : state.Sound app) {slot : ℕ} {headers : HeaderMap}
    {request : ClientRequest} {token : String} {context : AuthContext} {task : ClientTask}
    (free : state.sessions slot = none) (presented : bearerToken headers = some token)
    (issued : .issued token context ∈ state.log)
    (live : .revoked context.projectId context.keyId ∉ state.log)
    (carries : request.scope.asStr ∈ context.scopes)
    (accepted : request.accept app env headers context.projectId = .ok task) :
    (access sha256 app env).step state (.enter slot headers request) = some { state with
      sessions := Function.update state.sessions slot
        (some ⟨token, request, context, task⟩) } := by
  have admitted := authorize_of_issued (onDesk_of_reachable sound.admin) presented issued live
    carries
  simp only [access, free, presented, admitted, accepted]

def labelled (label : String) : ClientRequest := .createAddress (.read { label := label })

/-- A request for an address, up to the answer of the node. -/
def addressActions (last : UInt8) (label address : String) : List AccessAction := [
  .enter 0 (bearer (drawnSecret last)) (labelled label), .act 0 (.node (.ok address))]

def addressSession (last : UInt8) (label address : String) (context : AuthContext) : Session where
  token := drawnSecret last
  request := labelled label
  context := context
  task := .last (.createAddress address label 3)

theorem run_address {state : Access keepBytes} (sound : state.Sound operatorApp)
    (free : state.sessions 0 = none) {last : UInt8} {label : String} {context : AuthContext}
    (short : label.utf8ByteSize ≤ 100) (issued : .issued (drawnSecret last) context ∈ state.log)
    (live : .revoked context.projectId context.keyId ∉ state.log)
    (carries : Scope.bitcoinWrite.asStr ∈ context.scopes) (address : String) :
    (access keepBytes operatorApp deskEnv).run state (addressActions last label address) =
      some { state with
        sessions := Function.update state.sessions 0
          (some (addressSession last label address context)) } := by
  have accepted : (labelled label).accept operatorApp deskEnv (bearer (drawnSecret last))
      context.projectId = .ok (.newAddress label 3) := by
    simp only [labelled, ClientRequest.accept, Body.parseOrDefault]
    change (if 100 < label.utf8ByteSize then _ else _) = _
    rw [if_neg (Nat.not_lt.mpr short)]
    rfl
  have presented : bearerToken (bearer (drawnSecret last)) = some (drawnSecret last) :=
    bearerToken_secretOf .test (drawnBytes last)
  have entered : (access keepBytes operatorApp deskEnv).step state
      (.enter 0 (bearer (drawnSecret last)) (labelled label)) = some { state with
        sessions := Function.update state.sessions 0
          (some ⟨drawnSecret last, labelled label, context, .newAddress label 3⟩) } :=
    step_enter sound free presented issued live carries accepted
  rw [addressActions, run_cons _ _ entered]
  simp only [run, access, Function.update_self, ClientTask.act, Option.map_some,
    Function.update_idem]
  rfl

theorem step_address {state : Access keepBytes} {last : UInt8} {label address : String}
    {context : AuthContext}
    (here : state.sessions 0 = some (addressSession last label address context))
    (now clock : DateTime) (id : String) :
    (access keepBytes operatorApp deskEnv).step state (.act 0 (.write now clock id)) =
      some { state with
        db := state.db.write (.createAddress now id context.projectId address label 3)
        sessions := Function.update state.sessions 0 none } := by
  simp only [access, here]
  rfl

def shopKey : AuthContext := ⟨"prj_1", "key_1", Scope.all.map Scope.asStr⟩

def bankKey : AuthContext := ⟨"prj_2", "key_2", Scope.all.map Scope.asStr⟩

/-- The first key is revoked. -/
def revokeRequests : List (PoolAction AdminRequest AdminDraw) := [
  .start 2 ⟨operatorHeaders, .revokeKey "prj_1" "key_1"⟩,
  .advance 2 (drawing "")]

/-- Another project is created. -/
def bankRequests : List (PoolAction AdminRequest AdminDraw) := [
  .start 3 ⟨operatorHeaders, .createProject (.read ⟨"bank"⟩) (drawnBytes 8)⟩,
  .advance 3 (drawing "prj_2"),
  .advance 3 (drawing "key_2")]

theorem operated : ∃ created revoked other : OperatorPool keepBytes,
    (operator keepBytes operatorApp).run operatorStart createActions = some created ∧
      created.shared.desk.log = [.issued (drawnSecret 7) shopKey] ∧
      (operator keepBytes operatorApp).run created revokeRequests = some revoked ∧
      revoked.shared.desk.log =
        [.revoked "prj_1" "key_1", .issued (drawnSecret 7) shopKey] ∧
      (operator keepBytes operatorApp).run revoked bankRequests = some other ∧
      other.shared.desk.log = [.issued (drawnSecret 8) bankKey, .revoked "prj_1" "key_1",
        .issued (drawnSecret 7) shopKey] :=
  ⟨_, _, _, rfl, rfl, rfl, rfl, rfl, rfl⟩

/-- The operator creates a project, and a request with its key has the node make an address. -/
def enterActions : List AccessAction :=
  createActions.map AccessAction.admin ++ addressActions 7 "till" "bcrt1qtill"

def enteredState (created : OperatorPool keepBytes) : Access keepBytes where
  admin := created
  db := {}
  sessions := Function.update (fun _ => none) 0
    (some (addressSession 7 "till" "bcrt1qtill" shopKey))

theorem entered {created : OperatorPool keepBytes}
    (ran : (operator keepBytes operatorApp).run operatorStart createActions = some created)
    (log : created.shared.desk.log = [.issued (drawnSecret 7) shopKey]) :
    (access keepBytes operatorApp deskEnv).run accessStart enterActions =
      some (enteredState created) := by
  have alone : (access keepBytes operatorApp deskEnv).run accessStart
      (createActions.map .admin) = some ⟨created, {}, fun _ => none⟩ := by
    rw [run_admin, show accessStart.admin = operatorStart from rfl, ran]
    rfl
  have sound := access_sound (reachableBy_of_run (.start accessStart_initial)
    (stepsMeet_of_requests rfl _) alone)
  have logged : (Access.mk created {} fun _ => none).log = [.issued (drawnSecret 7) shopKey] := log
  refine run_trans _ alone (run_address sound rfl (by decide) ?_ ?_ ?_ "bcrt1qtill")
  · rw [logged]
    exact List.mem_singleton_self _
  · rw [logged]
    intro revoked
    cases List.mem_singleton.mp revoked
  · exact List.mem_map_of_mem Scope.bitcoinWrite.mem_all

theorem write_granted_addressed : ∃ state next,
    (access keepBytes operatorApp deskEnv).run accessStart enterActions = some state ∧
      (access keepBytes operatorApp deskEnv).step state (.act 0 (.write 1 1 "adr_1")) =
        some next ∧
      ∃ session write secret grant, state.sessions 0 = some session ∧
        session.context.projectId = "prj_1" ∧
        next.db = state.db.write (write.dbWrite "prj_1") ∧
        session.request.scope.permits write = true ∧
        session.request.scope.asStr ∈ session.context.scopes ∧
        hashSecret keepBytes secret = hashSecret keepBytes session.token ∧
        grant ∈ state.admin.asked ∧ grant.Admitted keepBytes operatorApp ∧
        grant.route.Grants operatorApp state.directory.projects secret session.context := by
  obtain ⟨created, -, -, created_, log, -⟩ := operated
  have ran := entered created_ log
  have reached : (access keepBytes operatorApp deskEnv).ReachableBy
      (fun state action => action.Admitted state) (enteredState created) :=
    reachableBy_of_run (.start accessStart_initial) (stepsMeet_of_requests rfl _) ran
  have here : (enteredState created).sessions 0 =
      some (addressSession 7 "till" "bcrt1qtill" shopKey) := rfl
  have step := step_address here 1 1 "adr_1"
  refine ⟨_, _, ran, step, write_granted reached step ?_⟩
  intro same
  have lengths : 1 = 0 := congrArg (fun owned => owned.onchainAddresses.length) same
  cases lengths

/-! ## Projects without keys -/

/-- Every key that was handed out for the project is revoked, and no request of it runs. -/
structure Access.Sealed (projectId : String) (state : Access sha256) : Prop where
  keys : ∀ secret context, .issued secret context ∈ state.log → context.projectId = projectId →
    .revoked projectId context.keyId ∈ state.log
  sessions : ∀ slot session, state.sessions slot = some session →
    session.context.projectId ≠ projectId

theorem Access.Sealed.refuses (closed : state.Sealed projectId) (sound : state.Sound app)
    {headers : HeaderMap} {scope : Scope} {context : AuthContext}
    (admitted : authorize sha256 state.directory headers scope = .ok context) :
    context.projectId ≠ projectId := by
  rintro rfl
  obtain ⟨token, presented, -⟩ := authenticate_eq_ok.mp (authorize_eq_ok.mp admitted).1
  obtain ⟨-, ⟨secret, issued, -⟩, live⟩ :=
    issued_of_authorize (onDesk_of_reachable sound.admin) presented admitted
  exact live (closed.keys secret context issued rfl)

theorem log_step (sound : state.Sound app) {action : AccessAction}
    (step : (access sha256 app env).step state action = some next) : state.log ⊆ next.log := by
  cases accessed_of_step step with
  | operated action admin moved => exact admin_log sound.admin moved
  | _ => exact List.Subset.refl _

theorem log_run (sound : state.Sound app) {actions : List AccessAction}
    (met : (access sha256 app env).StepsMeet (fun state action => action.Admitted state) state
      actions) (ran : (access sha256 app env).run state actions = some later) :
    state.log ⊆ later.log := by
  induction actions generalizing state with
  | nil =>
      cases ran
      exact List.Subset.refl _
  | cons action rest ih =>
      simp only [run] at ran
      split at ran
      · cases ran
      · rename_i next step
        obtain ⟨watched, after⟩ := met
        exact List.Subset.trans (log_step sound step)
          (ih (sound.step watched step) (after next step) ran)

/-- No key for the project is handed out between the two states. -/
def Access.NoNewKey (projectId : String) (state later : Access sha256) : Prop :=
  ∀ secret context, .issued secret context ∈ later.log → context.projectId = projectId →
    .issued secret context ∈ state.log

theorem Access.Sealed.withSession (closed : state.Sealed projectId) (slot : ℕ)
    {entry : Option Session}
    (fits : ∀ session, entry = some session → session.context.projectId ≠ projectId) :
    Access.Sealed projectId
      { state with sessions := Function.update state.sessions slot entry } where
  keys := closed.keys
  sessions := by
    intro other session here
    by_cases same : other = slot
    · subst same
      simp only [Function.update_self] at here
      exact fits session here
    · simp only [Function.update_of_ne same] at here
      exact closed.sessions other session here

/-- What is sealed stays sealed, at a step that hands out no key for the project. -/
theorem Access.Sealed.step (closed : state.Sealed projectId) (sound : state.Sound app)
    {action : AccessAction} (step : (access sha256 app env).step state action = some next)
    (noKey : Access.NoNewKey projectId state next) : next.Sealed projectId := by
  have grown := log_step sound step
  cases accessed_of_step step with
  | operated action admin moved =>
      refine ⟨?_, closed.sessions⟩
      intro secret context issued own
      exact grown (closed.keys secret context (noKey secret context issued own) own)
  | rejected slot headers request => exact closed
  | entered slot headers request token context task presented admitted accepted =>
      refine closed.withSession slot ?_
      rintro _ ⟨⟩
      exact closed.refuses sound admitted
  | acted slot action session outcome here acted =>
      refine ⟨closed.keys, (closed.withSession slot ?_).sessions⟩
      rintro _ same
      obtain ⟨task, -, rfl⟩ := Option.map_eq_some_iff.mp same
      exact closed.sessions slot session here
  | left slot =>
      refine closed.withSession slot ?_
      rintro _ ⟨⟩
  | written write => exact ⟨closed.keys, closed.sessions⟩

/-- No step of a request changes what a sealed project owns. -/
theorem Access.Sealed.unchanged (closed : state.Sealed projectId) (sound : state.Sound app)
    {action : AccessAction} (request : action.isRequest = true)
    (step : (access sha256 app env).step state action = some next) :
    next.db.owned projectId = state.db.owned projectId := by
  cases accessed_of_step step with
  | acted slot action session outcome here acted =>
      have apart := closed.sessions slot session here
      obtain ⟨written, -⟩ := sound.acted here acted
      generalize outcome.db = after at written ⊢
      cases written with
      | nothing => rfl
      | wrote write permitted inScope =>
          exact write.frame (Db.consistent_of_reachable sound.db) apart inScope
  | written write => cases request
  | _ => rfl

/-- **Revoking its keys seals a project.** Every key that was handed out for a project is revoked
and its requests are over. Whatever follows, of clients, operator and background in any order, as
long as no new key is handed out for the project: no step of a request changes what the project
owns, and no request is admitted for it, whatever key it presents. -/
theorem sealed_project
    (reached : (access sha256 app env).ReachableBy (fun state action => action.Admitted state)
      state) (closed : state.Sealed projectId) {actions : List AccessAction}
    (met : (access sha256 app env).StepsMeet (fun state action => action.Admitted state) state
      actions) (ran : (access sha256 app env).run state actions = some later)
    (noKey : Access.NoNewKey projectId state later) :
    (∀ action next, action.isRequest = true →
      (access sha256 app env).step later action = some next →
        next.db.owned projectId = later.db.owned projectId) ∧
      ∀ headers scope context,
        authorize sha256 later.directory headers scope = .ok context →
          context.projectId ≠ projectId := by
  suffices kept : later.Sealed projectId ∧ later.Sound app by
    obtain ⟨closedLater, sound⟩ := kept
    exact ⟨fun action next request step => closedLater.unchanged sound request step,
      fun headers scope context admitted => closedLater.refuses sound admitted⟩
  have sound := access_sound reached
  clear reached
  induction actions generalizing state with
  | nil =>
      cases ran
      exact ⟨closed, sound⟩
  | cons action rest ih =>
      simp only [run] at ran
      split at ran
      · cases ran
      · rename_i next step
        obtain ⟨watched, after⟩ := met
        have soundNext := sound.step watched step
        have grown := log_run soundNext (after next step) ran
        have noKeyNow : Access.NoNewKey projectId state next :=
          fun secret context issued own => noKey secret context (grown issued) own
        have noKeyLater : Access.NoNewKey projectId next later :=
          fun secret context issued own =>
            log_step sound step (noKey secret context issued own)
        exact ih (closed.step sound step noKeyNow) (after next step) ran noKeyLater soundNext

/-- The request of the first key ends with its address, and the key is revoked. -/
def revokeActions : List AccessAction :=
  .act 0 (.write 1 1 "adr_1") :: revokeRequests.map .admin

def tillDb : Db := ({} : Db).write (.createAddress 1 "adr_1" "prj_1" "bcrt1qtill" "till" 3)

def idleState (admin : OperatorPool keepBytes) (db : Db) : Access keepBytes where
  admin := admin
  db := db
  sessions := fun _ => none

theorem sealed_reached {created revoked : OperatorPool keepBytes}
    (ran : (access keepBytes operatorApp deskEnv).run accessStart enterActions =
      some (enteredState created))
    (revokes : (operator keepBytes operatorApp).run created revokeRequests = some revoked) :
    (access keepBytes operatorApp deskEnv).run accessStart (enterActions ++ revokeActions) =
      some (idleState revoked tillDb) := by
  have here : (enteredState created).sessions 0 =
      some (addressSession 7 "till" "bcrt1qtill" shopKey) := rfl
  have written := step_address here 1 1 "adr_1"
  rw [enteredState, Function.update_idem, Function.update_eq_self] at written
  refine run_trans _ ran ((run_cons _ _ written).trans ?_)
  rw [run_admin]
  dsimp only
  rw [revokes]
  rfl

/-- A payment to the address of the first project. -/
def tillDeposit : Observation where
  address := ⟨"adr_1", "prj_1", "bcrt1qtill", "till", 3, 1⟩
  txid := "00ff"
  vout := 0
  amountSat := 5000
  blockHeight := none
  confirmations := 0

def paidDb : Db := tillDb.write (.recordObservation 2 "txn_1" tillDeposit)

/-- The deposit is stored, and another project is created, whose key has an address made. -/
def otherActions : List AccessAction :=
  .background (.recordObservation 2 "txn_1" tillDeposit) ::
    (bankRequests.map .admin ++ addressActions 8 "desk" "bcrt1qdesk")

theorem sealed_project_revoked : ∃ state later next,
    (access keepBytes operatorApp deskEnv).run accessStart (enterActions ++ revokeActions) =
        some state ∧
      (access keepBytes operatorApp deskEnv).run state otherActions = some later ∧
      later.db.onchainTransactions.length = 1 ∧
      (access keepBytes operatorApp deskEnv).step later (.act 0 (.write 3 3 "adr_2")) =
        some next ∧
      next.db.onchainAddresses.length = 2 ∧
      next.db.owned "prj_1" = later.db.owned "prj_1" ∧
      ∀ headers scope context,
        authorize keepBytes later.directory headers scope = .ok context →
          context.projectId ≠ "prj_1" := by
  obtain ⟨created, revoked, other, creates, log, revokes, logRevoked, adds, logOther⟩ := operated
  have ran := sealed_reached (entered creates log) revokes
  have reached : (access keepBytes operatorApp deskEnv).ReachableBy
      (fun state action => action.Admitted state) (idleState revoked tillDb) :=
    reachableBy_of_run (.start accessStart_initial) (stepsMeet_of_requests rfl _) ran
  have closed : (idleState revoked tillDb).Sealed "prj_1" := by
    refine ⟨?_, fun slot session here => by cases here⟩
    intro secret context issued own
    rw [show (idleState revoked tillDb).log = _ from logRevoked] at issued ⊢
    rcases List.mem_cons.mp issued with other | rest
    · cases other
    · cases List.mem_singleton.mp rest
      exact List.mem_cons_self
  have met : (access keepBytes operatorApp deskEnv).StepsMeet
      (fun state action => action.Admitted state) (idleState revoked tillDb) otherActions :=
    ⟨List.mem_singleton_self _, fun next _ => stepsMeet_of_requests rfl next⟩
  have paid : (access keepBytes operatorApp deskEnv).step (idleState revoked tillDb)
      (.background (.recordObservation 2 "txn_1" tillDeposit)) =
        some (idleState revoked paidDb) := rfl
  have added : (access keepBytes operatorApp deskEnv).run (idleState revoked paidDb)
      (bankRequests.map .admin) = some (idleState other paidDb) := by
    rw [run_admin, show (idleState revoked paidDb).admin = revoked from rfl, adds]
    rfl
  have sound : (idleState other paidDb).Sound operatorApp :=
    access_sound (reachableBy_of_run (.step reached met.1 paid) (stepsMeet_of_requests rfl _) added)
  have logged : (idleState other paidDb).log = [.issued (drawnSecret 8) bankKey,
    .revoked "prj_1" "key_1", .issued (drawnSecret 7) shopKey] := logOther
  have addressed : (access keepBytes operatorApp deskEnv).run (idleState other paidDb)
      (addressActions 8 "desk" "bcrt1qdesk") = some { idleState other paidDb with
        sessions := Function.update (fun _ => none) 0
          (some (addressSession 8 "desk" "bcrt1qdesk" bankKey)) } := by
    refine run_address sound rfl (by decide) ?_ ?_ ?_ "bcrt1qdesk"
    · rw [logged]
      exact List.mem_cons_self
    · rw [logged]
      simp [bankKey]
    · exact List.mem_map_of_mem Scope.bitcoinWrite.mem_all
  have ranOther := (run_cons _ _ paid).trans (run_trans _ added addressed)
  have unchanged := sealed_project reached closed met ranOther ?_
  · exact ⟨_, _, _, ran, ranOther, rfl, step_address rfl 3 3 "adr_2", rfl,
      unchanged.1 _ _ rfl (step_address rfl 3 3 "adr_2"), unchanged.2⟩
  · intro secret context issued own
    rw [show (idleState revoked tillDb).log = _ from logRevoked]
    rcases List.mem_cons.mp (logged ▸ issued) with first | rest
    · cases first
      exact absurd own (by decide)
    · exact rest

end Access

end Safrod
