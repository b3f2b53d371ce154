import Safrod.Api.Auth
import Safrod.Library.Pool

/-!
# The operator's routes

The handlers behind the admin token: projects, their keys, and what the operator has the
node do. Each handler is a program of statements and node calls. `operator` runs any number
of requests at once, with any headers.

`operator_gated` says that whatever these routes did, somebody who presented the admin token
had asked for it: every project, every key that was handed out with its scopes, every
revocation, every channel and every mined block.
-/

set_option autoImplicit false

namespace Safrod

open Table Program

/-! ## Requests -/

/-- The body of a request, as it is read. -/
inductive Body (Request : Type) where
  | empty
  | read (request : Request)
  | malformed (reason : String)

section Bodies

variable {Request : Type}

def Body.parse : Body Request → Except ApiError Request
  | .empty => .error (.validation
      "invalid request body: EOF while parsing a value at line 1 column 0")
  | .read request => .ok request
  | .malformed reason => .error (.validation ("invalid request body: " ++ reason))

def Body.parseOrDefault (default : Request) : Body Request → Except ApiError Request
  | .empty => .ok default
  | body => body.parse

theorem Body.parse_eq_ok {body : Body Request} {request : Request} :
    body.parse = .ok request ↔ body = .read request := by
  cases body <;> simp [parse]

end Bodies

structure NewProject where
  name : String

structure NewKey where
  label : Option String := none
  scopes : Option (List String) := none

structure MineRequest where
  blocks : ℕ

structure OpenChannel where
  peerNodeId : String
  peerAddress : String
  capacitySat : ℕ
  pushMsat : Option ℕ

/-- A route with its path and body. The bytes are drawn for the secret of a key. -/
inductive AdminRoute where
  | createProject (body : Body NewProject) (bytes : KeyBytes)
  | createKey (projectId : String) (body : Body NewKey) (bytes : KeyBytes)
  | listKeys (projectId : String)
  | revokeKey (projectId keyId : String)
  | openChannel (body : Body OpenChannel)
  | mine (body : Body MineRequest)
  | devStatus

structure AdminRequest where
  headers : HeaderMap
  route : AdminRoute

def keyLabelFor : Network → KeyLabel
  | .bitcoin => .live
  | _ => .test

def parseScopes : Option (List String) → Except ApiError (List String)
  | none => .ok (Scope.all.map Scope.asStr)
  | some [] => .error (.validation "scopes must not be empty")
  | some list => list.mapM fun s =>
      match Scope.fromStr s with
      | .ok scope => .ok scope.asStr
      | .error _ => .error (.validation ("unknown scope " ++ s))

/-! ## Calls -/

inductive AdminCall (sha256 : Sha256) where
  | createProject (name network : String)
  | getProject (id : String)
  | createApiKey (projectId label : String) (scopes : List String) (key : GeneratedKey sha256)
  | listApiKeys (projectId : String)
  | revokeApiKey (projectId keyId : String)
  | newOnchainAddress
  | generateToAddress (blocks : ℕ) (address : String)
  | openChannel (channel : OpenChannel)
  | blockCount

/-- Bitcoin Core gives no block hashes where it refuses. -/
abbrev AdminAnswer {sha256 : Sha256} : AdminCall sha256 → Type
  | .createProject _ _ => Except StorageError Project
  | .getProject _ => Except StorageError Project
  | .createApiKey _ _ _ _ => Except StorageError ApiKeyRecord
  | .listApiKeys _ => List ApiKeyRecord
  | .revokeApiKey _ _ => Except StorageError Unit
  | .newOnchainAddress => Except LightningError String
  | .generateToAddress _ _ => Option (List String)
  | .openChannel _ => Except LightningError String
  | .blockCount => Option ℕ

abbrev AdminHandler (sha256 : Sha256) : Type → Type :=
  ExceptT ApiError (Program (AdminCall sha256) AdminAnswer)

inductive AdminReply where
  | projectCreated (project : Project) (keyId secret : String) (scopes : List String)
  | keyCreated (record : ApiKeyRecord) (secret : String)
  | keys (records : List ApiKeyRecord)
  | revoked
  | channelOpened (userChannelId : String)
  | mined (blocks : ℕ) (address : String)
  | devStatus (network : String) (blockHeight : Option ℕ)

/-- What the handlers share: the configuration, and whether Bitcoin Core is configured. -/
structure AppState where
  config : ApiConfig
  hasRpc : Bool

namespace Admin

variable {sha256 : Sha256} {Value Error : Type}

def ask (call : AdminCall sha256) : AdminHandler sha256 (AdminAnswer call) :=
  ExceptT.lift (Program.call call)

def orFail (toApiError : Error → ApiError) : Except Error Value → AdminHandler sha256 Value
  | .error error => throw (toApiError error)
  | .ok value => pure value

variable (app : AppState)

def requireDev : Except ApiError Unit :=
  if app.config.enableDevEndpoints ∧ app.config.network = .regtest then .ok ()
  else .error (.notFound "endpoint")

def checkAdmin (headers : HeaderMap) : AdminHandler sha256 Unit :=
  orFail id (requireAdmin sha256 app.config headers)

/-! ## Handlers -/

def createProject (headers : HeaderMap) (body : Body NewProject) (bytes : KeyBytes) :
    AdminHandler sha256 AdminReply := do
  checkAdmin app headers
  let req ← orFail id body.parse
  let name := trim req.name
  if name = "" ∨ 100 < name.utf8ByteSize then
    throw (.validation "name must be 1 to 100 characters")
  else
    let project ← orFail StorageError.toApiError
      (← ask (.createProject name app.config.network.asStr))
    let key := generate sha256 (keyLabelFor app.config.network) bytes
    let scopes ← orFail id (parseScopes none)
    let record ← orFail StorageError.toApiError
      (← ask (.createApiKey project.id "default" scopes key))
    return .projectCreated project record.id key.secret record.scopes

def createKey (headers : HeaderMap) (projectId : String) (body : Body NewKey)
    (bytes : KeyBytes) : AdminHandler sha256 AdminReply := do
  checkAdmin app headers
  let req ← orFail id (body.parseOrDefault {})
  let _ ← orFail StorageError.toApiError (← ask (.getProject projectId))
  let scopes ← orFail id (parseScopes req.scopes)
  let label := req.label.getD "api key"
  let key := generate sha256 (keyLabelFor app.config.network) bytes
  let record ← orFail StorageError.toApiError (← ask (.createApiKey projectId label scopes key))
  return .keyCreated record key.secret

def listKeys (headers : HeaderMap) (projectId : String) : AdminHandler sha256 AdminReply := do
  checkAdmin app headers
  return .keys (← ask (.listApiKeys projectId))

def revokeKey (headers : HeaderMap) (projectId keyId : String) :
    AdminHandler sha256 AdminReply := do
  checkAdmin app headers
  orFail StorageError.toApiError (← ask (.revokeApiKey projectId keyId))
  return .revoked

/-- Regtest convenience: mines to the node's own wallet. -/
def mine (headers : HeaderMap) (body : Body MineRequest) : AdminHandler sha256 AdminReply := do
  checkAdmin app headers
  orFail id (requireDev app)
  let req ← orFail id body.parse
  if req.blocks = 0 ∨ 200 < req.blocks then
    throw (.validation "blocks must be between 1 and 200")
  else if app.hasRpc then
    let address ← orFail LightningError.toApiError (← ask .newOnchainAddress)
    match ← ask (.generateToAddress req.blocks address) with
    | none => throw (.unavailable "bitcoin core rejected the request")
    | some hashes => return .mined hashes.length address
  else throw (.unavailable "bitcoin core is not configured")

def devStatus (headers : HeaderMap) : AdminHandler sha256 AdminReply := do
  checkAdmin app headers
  orFail id (requireDev app)
  if app.hasRpc then return .devStatus app.config.network.asStr (← ask .blockCount)
  else return .devStatus app.config.network.asStr none

/-- The capacity is bounded first, so what may be pushed does not saturate. -/
def openChannel (headers : HeaderMap) (body : Body OpenChannel) :
    AdminHandler sha256 AdminReply := do
  checkAdmin app headers
  let req ← orFail id body.parse
  if req.capacitySat < 20000 ∨ 16777215 < req.capacitySat then
    throw (.validation "capacity_sat must be between 20000 and 16777215")
  else if req.pushMsat.any fun p => min (req.capacitySat * 1000) (2 ^ 64 - 1) ≤ p then
    throw (.validation "push_msat must be below the channel capacity")
  else
    let channelId ← orFail LightningError.toApiError (← ask (.openChannel req))
    return .channelOpened channelId

/-- The handler of a route. -/
def program (request : AdminRequest) : AdminHandler sha256 AdminReply :=
  match request.route with
  | .createProject body bytes => createProject app request.headers body bytes
  | .createKey projectId body bytes => createKey app request.headers projectId body bytes
  | .listKeys projectId => listKeys app request.headers projectId
  | .revokeKey projectId keyId => revokeKey app request.headers projectId keyId
  | .openChannel body => openChannel app request.headers body
  | .mine body => mine app request.headers body
  | .devStatus => devStatus app request.headers

end Admin

/-! ## Requests at once -/

inductive NodeCommand where
  | generateToAddress (blocks : ℕ) (address : String)
  | openChannel (channel : OpenChannel)

/-- The keys, and what the node was told to do, the newest command first. -/
structure Operator where
  desk : KeyDesk := {}
  commands : List NodeCommand := []

/-- What a call finds: the time, the identifier of a new row, and what the node and Bitcoin
Core answer. -/
structure AdminDraw where
  now : DateTime
  id : String
  address : Except LightningError String
  hashes : Option (List String)
  channelId : Except LightningError String
  height : Option ℕ

section Operators

variable {sha256 : Sha256}

def Operator.execute (operator : Operator) (statement : KeyStatement sha256) : Operator :=
  { operator with desk := operator.desk.execute statement }

def Operator.order (operator : Operator) (command : NodeCommand) : Operator :=
  { operator with commands := command :: operator.commands }

def Operator.respond (draw : AdminDraw) : (call : AdminCall sha256) → Operator →
    AdminAnswer call × Operator
  | .createProject name network, operator =>
      ((Directory.createProject draw.now draw.id name network operator.desk.directory).1,
        operator.execute (.createProject draw.now draw.id name network : KeyStatement sha256))
  | .getProject id, operator => (operator.desk.directory.getProject id, operator)
  | .createApiKey projectId label scopes key, operator =>
      ((Directory.createApiKey draw.now draw.id projectId label scopes key
        operator.desk.directory).1,
        operator.execute (.createApiKey draw.now draw.id projectId label scopes key))
  | .listApiKeys projectId, operator => (operator.desk.directory.listApiKeys projectId, operator)
  | .revokeApiKey projectId keyId, operator =>
      ((Directory.revokeApiKey draw.now projectId keyId operator.desk.directory).1,
        operator.execute (.revokeApiKey draw.now projectId keyId : KeyStatement sha256))
  | .newOnchainAddress, operator => (draw.address, operator)
  | .generateToAddress blocks address, operator =>
      (draw.hashes, operator.order (.generateToAddress blocks address))
  | .openChannel channel, operator => (draw.channelId, operator.order (.openChannel channel))
  | .blockCount, operator => (draw.height, operator)

/-- Any admin requests at once, on a node where nothing was done. -/
def operator (sha256 : Sha256) (app : AppState) :
    Machine (Pool Operator AdminRequest (AdminCall sha256) AdminAnswer
      (Except ApiError AdminReply)) (PoolAction AdminRequest AdminDraw) :=
  pool (fun shared => shared = {}) (fun request => (Admin.program app request).run)
    Operator.respond

/-! ## What a request asks for -/

namespace AdminRoute

variable (app : AppState)

/-- The route creates the project. -/
def Names (route : AdminRoute) (project : Project) : Prop :=
  ∃ req bytes, route = .createProject (.read req) bytes ∧ project.name = trim req.name ∧
    project.name ≠ "" ∧ project.name.utf8ByteSize ≤ 100 ∧
    project.network = app.config.network.asStr

/-- The route hands out the secret: as the first key of its own project, with every scope, or
with the scopes it lists for the project it names. -/
def Grants (projects : List Project) (secret : String) (context : AuthContext) :
    AdminRoute → Prop
  | .createProject body bytes => secret = secretOf (keyLabelFor app.config.network) bytes ∧
      context.scopes = Scope.all.map Scope.asStr ∧
      ∃ project ∈ projects, project.id = context.projectId ∧
        Names app (.createProject body bytes) project
  | .createKey projectId body bytes => secret = secretOf (keyLabelFor app.config.network) bytes ∧
      context.projectId = projectId ∧
      ∃ req, body.parseOrDefault {} = .ok req ∧ parseScopes req.scopes = .ok context.scopes
  | _ => False

/-- The route has the node do this, within its bounds. -/
def Orders (command : NodeCommand) (route : AdminRoute) : Prop :=
  match command with
  | .openChannel channel => route = .openChannel (.read channel) ∧ 20000 ≤ channel.capacitySat ∧
      channel.capacitySat ≤ 16777215 ∧
      ∀ push, channel.pushMsat = some push → push < channel.capacitySat * 1000
  | .generateToAddress blocks _ => route = .mine (.read ⟨blocks⟩) ∧ 1 ≤ blocks ∧ blocks ≤ 200 ∧
      app.config.enableDevEndpoints = true ∧ app.config.network = .regtest

end AdminRoute

/-- The request presents the token of the operator. -/
def AdminRequest.Admitted (sha256 : Sha256) (app : AppState) (request : AdminRequest) : Prop :=
  requireAdmin sha256 app.config request.headers = .ok ()

/-- Whatever was done was asked for by a request with the token of the operator. -/
structure Gated (sha256 : Sha256) (app : AppState) (asked : List AdminRequest)
    (operator : Operator) : Prop where
  projects : ∀ project ∈ operator.desk.directory.projects,
    ∃ request ∈ asked, request.Admitted sha256 app ∧ request.route.Names app project
  issued : ∀ secret context, .issued secret context ∈ operator.desk.log →
    ∃ request ∈ asked, request.Admitted sha256 app ∧
      request.route.Grants app operator.desk.directory.projects secret context
  revoked : ∀ projectId keyId, .revoked projectId keyId ∈ operator.desk.log →
    ∃ request ∈ asked, request.Admitted sha256 app ∧ request.route = .revokeKey projectId keyId
  commands : ∀ command ∈ operator.commands,
    ∃ request ∈ asked, request.Admitted sha256 app ∧ request.route.Orders app command

/-! ## What the handlers call -/

/-- What a request may have its program call. It knows the project that it created. -/
def AdminRoute.Asks (app : AppState) (known : Option Project) :
    AdminRoute → AdminCall sha256 → Prop
  | .createProject body _, .createProject name network =>
      name ≠ "" ∧ name.utf8ByteSize ≤ 100 ∧ network = app.config.network.asStr ∧
        ∃ req, body = .read req ∧ name = trim req.name
  | .createProject _ bytes, .createApiKey projectId _ scopes key =>
      (∃ project, known = some project ∧ project.id = projectId) ∧
        scopes = Scope.all.map Scope.asStr ∧
        key = generate sha256 (keyLabelFor app.config.network) bytes
  | .createKey _ _ _, .getProject _ => True
  | .createKey owner body bytes, .createApiKey projectId _ scopes key =>
      projectId = owner ∧ key = generate sha256 (keyLabelFor app.config.network) bytes ∧
        ∃ req, body.parseOrDefault {} = .ok req ∧ parseScopes req.scopes = .ok scopes
  | .listKeys _, .listApiKeys _ => True
  | .revokeKey projectId keyId, .revokeApiKey owner id => owner = projectId ∧ id = keyId
  | .mine _, .newOnchainAddress => True
  | route, .generateToAddress blocks address =>
      route.Orders app (.generateToAddress blocks address)
  | route, .openChannel channel => route.Orders app (.openChannel channel)
  | .devStatus, .blockCount => True
  | _, _ => False

/-- The project that a program has created, after one more answer. -/
def learned (known : Option Project) : (call : AdminCall sha256) → AdminAnswer call →
    Option Project
  | .createProject _ _, .ok project => some project
  | _, _ => known

def adminProtocol (sha256 : Sha256) (app : AppState) (request : AdminRequest) :
    Protocol (AdminCall sha256) AdminAnswer (Option Project) where
  permits known call := request.Admitted sha256 app ∧ request.route.Asks app known call
  moves known call answer later := later = learned known call answer

/-- A project that a program created is there, and is the one its request named. -/
def adminDiscipline (sha256 : Sha256) (app : AppState) :
    Discipline Operator AdminRequest (AdminCall sha256) AdminAnswer (Option Project) where
  protocol := adminProtocol sha256 app
  knows request known shared := ∀ project, known = some project →
    project ∈ shared.desk.directory.projects ∧ request.route.Names app project
  first := none
  becomes first second := first.desk.directory.projects ⊆ second.desk.directory.projects
  knows_first := by
    intro request shared project same
    cases same
  knows_later _ _ _ _ becomes knows project same :=
    ⟨becomes (knows project same).1, (knows project same).2⟩

namespace Admin

variable {app : AppState} {protocol : Protocol (AdminCall sha256) AdminAnswer (Option Project)}
  {known : Option Project}

theorem orFail_succeeds {Value Error : Type} {toApiError : Error → ApiError}
    {result : Except Error Value} {ends : Option Project → Value → Prop}
    (held : ∀ value, result = .ok value → ends known value) :
    Succeeds protocol (orFail toApiError result : AdminHandler sha256 Value) ends known := by
  cases result with
  | error error => exact .throw _ _ _
  | ok value => exact .pure (held value rfl)

theorem createProject_succeeds (headers : HeaderMap) (body : Body NewProject)
    (bytes : KeyBytes) :
    Succeeds (adminProtocol sha256 app ⟨headers, .createProject body bytes⟩)
      (createProject app headers body bytes) (fun _ _ => True) none := by
  unfold createProject
  refine .bind (orFail_succeeds fun _ admitted => ?_)
  refine .bind (orFail_succeeds fun req read => ?_)
  simp only
  split
  · exact .throw _ _ _
  · rename_i bounds
    push Not at bounds
    have asks : AdminRoute.Asks app none (.createProject body bytes)
        (.createProject (trim req.name) app.config.network.asStr : AdminCall sha256) :=
      ⟨bounds.1, bounds.2, rfl, req, Body.parse_eq_ok.mp read, rfl⟩
    refine .bind (.ask ⟨admitted, asks⟩ ?_)
    rintro answer _ rfl
    refine .bind (orFail_succeeds fun project created => ?_)
    subst created
    refine .bind (orFail_succeeds fun scopes given => ?_)
    cases given
    refine .bind (.ask ⟨admitted, ⟨project, rfl, rfl⟩, rfl, rfl⟩ ?_)
    intro answer later _
    exact .bind (orFail_succeeds fun _ _ => .pure trivial)

theorem createKey_succeeds (headers : HeaderMap) (projectId : String) (body : Body NewKey)
    (bytes : KeyBytes) :
    Succeeds (adminProtocol sha256 app ⟨headers, .createKey projectId body bytes⟩)
      (createKey app headers projectId body bytes) (fun _ _ => True) none := by
  unfold createKey
  refine .bind (orFail_succeeds fun _ admitted => ?_)
  refine .bind (orFail_succeeds fun req read => ?_)
  refine .bind (.ask ⟨admitted, trivial⟩ ?_)
  intro found later _
  refine .bind (orFail_succeeds fun _ _ => ?_)
  refine .bind (orFail_succeeds fun scopes given => ?_)
  refine .bind (.ask ⟨admitted, rfl, rfl, req, read, given⟩ ?_)
  intro answer later _
  exact .bind (orFail_succeeds fun _ _ => .pure trivial)

theorem listKeys_succeeds (headers : HeaderMap) (projectId : String) :
    Succeeds (adminProtocol sha256 app ⟨headers, .listKeys projectId⟩)
      (listKeys app headers projectId) (fun _ _ => True) none := by
  refine .bind (orFail_succeeds fun _ admitted => ?_)
  exact .bind (.ask ⟨admitted, trivial⟩ fun _ _ _ => .pure trivial)

theorem revokeKey_succeeds (headers : HeaderMap) (projectId keyId : String) :
    Succeeds (adminProtocol sha256 app ⟨headers, .revokeKey projectId keyId⟩)
      (revokeKey app headers projectId keyId) (fun _ _ => True) none := by
  refine .bind (orFail_succeeds fun _ admitted => ?_)
  refine .bind (.ask ⟨admitted, rfl, rfl⟩ ?_)
  intro answer later _
  exact .bind (orFail_succeeds fun _ _ => .pure trivial)

theorem requireDev_eq_ok {value : Unit} (allowed : requireDev app = .ok value) :
    app.config.enableDevEndpoints = true ∧ app.config.network = .regtest := by
  unfold requireDev at allowed
  split at allowed
  · assumption
  · cases allowed

theorem mine_succeeds (headers : HeaderMap) (body : Body MineRequest) :
    Succeeds (adminProtocol sha256 app ⟨headers, .mine body⟩) (mine app headers body)
      (fun _ _ => True) none := by
  unfold mine
  refine .bind (orFail_succeeds fun _ admitted => ?_)
  refine .bind (orFail_succeeds fun _ allowed => ?_)
  refine .bind (orFail_succeeds fun req read => ?_)
  split
  · exact .throw _ _ _
  · rename_i bounds
    push Not at bounds
    split
    · refine .bind (.ask ⟨admitted, trivial⟩ ?_)
      intro address later _
      refine .bind (orFail_succeeds fun given _ => ?_)
      have orders : AdminRoute.Orders app (.generateToAddress req.blocks given) (.mine body) := by
        obtain ⟨enabled, regtest⟩ := requireDev_eq_ok allowed
        rw [Body.parse_eq_ok.mp read]
        exact ⟨rfl, Nat.pos_of_ne_zero bounds.1, bounds.2, enabled, regtest⟩
      refine .bind (.ask ⟨admitted, orders⟩ ?_)
      intro hashes _ _
      split
      · exact .throw _ _ _
      · exact .pure trivial
    · exact .throw _ _ _

theorem devStatus_succeeds (headers : HeaderMap) :
    Succeeds (adminProtocol sha256 app ⟨headers, .devStatus⟩) (devStatus app headers)
      (fun _ _ => True) none := by
  unfold devStatus
  refine .bind (orFail_succeeds fun _ admitted => ?_)
  refine .bind (orFail_succeeds fun _ _ => ?_)
  split
  · exact .bind (.ask ⟨admitted, trivial⟩ fun _ _ _ => .pure trivial)
  · exact .pure trivial

theorem openChannel_succeeds (headers : HeaderMap) (body : Body OpenChannel) :
    Succeeds (adminProtocol sha256 app ⟨headers, .openChannel body⟩) (openChannel app headers body)
      (fun _ _ => True) none := by
  unfold openChannel
  refine .bind (orFail_succeeds fun _ admitted => ?_)
  refine .bind (orFail_succeeds fun req read => ?_)
  split
  · exact .throw _ _ _
  · rename_i bounds
    push Not at bounds
    split
    · exact .throw _ _ _
    · rename_i pushes
      have orders : AdminRoute.Orders app (.openChannel req) (.openChannel body) := by
        rw [Body.parse_eq_ok.mp read]
        refine ⟨rfl, bounds.1, bounds.2, ?_⟩
        intro push given
        simp only [given, Option.any_some, decide_eq_true_eq] at pushes
        omega
      refine .bind (.ask ⟨admitted, orders⟩ ?_)
      intro answer later _
      exact .bind (orFail_succeeds fun _ _ => .pure trivial)

/-- Every handler makes calls that its request asks for. -/
theorem program_follows (request : AdminRequest) :
    (program app request).run.Follows ((adminDiscipline sha256 app).protocol request)
      (fun _ _ => True) (adminDiscipline sha256 app).first := by
  have succeeds : Succeeds (adminProtocol sha256 app request) (program app request)
      (fun _ _ => True) none := by
    obtain ⟨headers, route⟩ := request
    cases route with
    | createProject body bytes => exact createProject_succeeds headers body bytes
    | createKey projectId body bytes => exact createKey_succeeds headers projectId body bytes
    | listKeys projectId => exact listKeys_succeeds headers projectId
    | revokeKey projectId keyId => exact revokeKey_succeeds headers projectId keyId
    | openChannel body => exact openChannel_succeeds headers body
    | mine body => exact mine_succeeds headers body
    | devStatus => exact devStatus_succeeds headers
  exact Follows.mono (fun _ _ _ => trivial) succeeds

end Admin

/-! ## What the calls keep -/

variable {app : AppState} {asked : List AdminRequest} {shared : Operator}

theorem AdminRoute.Grants.mono {projects more : List Project} (grown : projects ⊆ more)
    {secret : String} {context : AuthContext} {route : AdminRoute}
    (grants : route.Grants app projects secret context) : route.Grants app more secret context := by
  cases route with
  | createProject body bytes =>
      obtain ⟨secret, scopes, project, member, named⟩ := grants
      exact ⟨secret, scopes, project, grown member, named⟩
  | createKey projectId body bytes => exact grants
  | _ => exact grants.elim

theorem Gated.ask (gated : Gated sha256 app asked shared) (request : AdminRequest) :
    Gated sha256 app (request :: asked) shared := by
  have more : ∀ {holds : AdminRequest → Prop}, (∃ request ∈ asked, holds request) →
      ∃ other ∈ request :: asked, holds other := by
    rintro holds ⟨other, member, held⟩
    exact ⟨other, List.mem_cons_of_mem _ member, held⟩
  exact ⟨fun project member => more (gated.projects project member),
    fun secret context entry => more (gated.issued secret context entry),
    fun projectId keyId entry => more (gated.revoked projectId keyId entry),
    fun command member => more (gated.commands command member)⟩

theorem Gated.order (gated : Gated sha256 app asked shared) {request : AdminRequest}
    {command : NodeCommand} (member : request ∈ asked) (admitted : request.Admitted sha256 app)
    (orders : request.route.Orders app command) :
    Gated sha256 app asked (shared.order command) where
  projects := gated.projects
  issued := gated.issued
  revoked := gated.revoked
  commands := by
    intro other entry
    rcases List.mem_cons.mp entry with rfl | earlier
    · exact ⟨request, member, admitted, orders⟩
    · exact gated.commands other earlier

/-- A statement that a request asks for. -/
theorem Gated.execute (gated : Gated sha256 app asked shared) {request : AdminRequest}
    {known : Option Project} (member : request ∈ asked) (draw : AdminDraw)
    (knows : (adminDiscipline sha256 app).knows request known shared) {call : AdminCall sha256}
    (admitted : request.Admitted sha256 app) (asks : request.route.Asks app known call) :
    Gated sha256 app asked (shared.respond draw call).2 := by
  obtain ⟨headers, route⟩ := request
  cases call with
  | createProject name network =>
      cases route with
      | createProject body bytes =>
          obtain ⟨given, bounded, rfl, req, rfl, rfl⟩ := asks
          have named : AdminRoute.Names app (.createProject (.read req) bytes)
              ⟨draw.id, trim req.name, app.config.network.asStr, draw.now⟩ :=
            ⟨req, bytes, rfl, rfl, given, bounded, rfl⟩
          have executed := shared.desk.execute_executed (.createProject draw.now draw.id
            (trim req.name) app.config.network.asStr : KeyStatement sha256)
          simp only [Operator.respond, Operator.execute]
          generalize shared.desk.execute _ = next at executed
          cases executed with
          | created =>
              refine ⟨?_, ?_, gated.revoked, gated.commands⟩
              · intro project there
                rcases List.mem_append.mp there with old | new
                · exact gated.projects project old
                · rw [List.mem_singleton.mp new]
                  exact ⟨_, member, admitted, named⟩
              · intro secret context entry
                obtain ⟨other, asked, allowed, grants⟩ := gated.issued secret context entry
                exact ⟨other, asked, allowed, grants.mono (List.subset_append_left _ _)⟩
          | unchanged => exact gated
      | _ => exact asks.elim
  | createApiKey projectId label scopes key =>
      have grants : ∀ keyId, route.Grants app shared.desk.directory.projects key.secret
          ⟨projectId, keyId, scopes⟩ := by
        intro keyId
        cases route with
        | createProject body bytes =>
            obtain ⟨⟨project, created, rfl⟩, rfl, rfl⟩ := asks
            obtain ⟨there, named⟩ := knows project created
            exact ⟨rfl, rfl, project, there, rfl, named⟩
        | createKey owner body bytes =>
            obtain ⟨rfl, rfl, req, read, given⟩ := asks
            exact ⟨rfl, rfl, req, read, given⟩
        | _ => exact asks.elim
      have executed := shared.desk.execute_executed
        (.createApiKey draw.now draw.id projectId label scopes key)
      simp only [Operator.respond, Operator.execute]
      generalize shared.desk.execute _ = next at executed
      cases executed with
      | issued =>
          refine ⟨gated.projects, ?_, ?_, gated.commands⟩
          · intro secret context entry
            rcases List.mem_cons.mp entry with new | old
            · cases new
              exact ⟨_, member, admitted, grants _⟩
            · exact gated.issued secret context old
          · intro owner keyId entry
            rcases List.mem_cons.mp entry with new | old
            · cases new
            · exact gated.revoked owner keyId old
      | unchanged => exact gated
  | revokeApiKey projectId keyId =>
      cases route with
      | revokeKey owner id =>
          obtain ⟨rfl, rfl⟩ := asks
          have executed := shared.desk.execute_executed
            (.revokeApiKey draw.now projectId keyId : KeyStatement sha256)
          simp only [Operator.respond, Operator.execute]
          generalize shared.desk.execute _ = next at executed
          cases executed with
          | revoked =>
              refine ⟨gated.projects, ?_, ?_, gated.commands⟩
              · intro secret context entry
                rcases List.mem_cons.mp entry with new | old
                · cases new
                · exact gated.issued secret context old
              · intro owner id entry
                rcases List.mem_cons.mp entry with new | old
                · cases new
                  exact ⟨_, member, admitted, rfl⟩
                · exact gated.revoked owner id old
          | unchanged => exact gated
      | _ => exact asks.elim
  | generateToAddress blocks address =>
      refine gated.order member admitted ?_
      cases route <;> exact asks
  | openChannel channel =>
      refine gated.order member admitted ?_
      cases route <;> exact asks
  | getProject id => exact gated
  | listApiKeys projectId => exact gated
  | newOnchainAddress => exact gated
  | blockCount => exact gated

theorem projects_respond (draw : AdminDraw) (call : AdminCall sha256) :
    shared.desk.directory.projects ⊆ (shared.respond draw call).2.desk.directory.projects := by
  cases call with
  | createProject name network =>
      exact shared.desk.projects_subset
        (.createProject draw.now draw.id name network : KeyStatement sha256)
  | createApiKey projectId label scopes key =>
      exact shared.desk.projects_subset
        (.createApiKey draw.now draw.id projectId label scopes key)
  | revokeApiKey projectId keyId =>
      exact shared.desk.projects_subset
        (.revokeApiKey draw.now projectId keyId : KeyStatement sha256)
  | _ => exact List.Subset.refl _

/-- What a program knows after an answer. -/
theorem learned_knows {request : AdminRequest} {known : Option Project} (draw : AdminDraw)
    (knows : (adminDiscipline sha256 app).knows request known shared) {call : AdminCall sha256}
    (asks : request.route.Asks app known call) :
    (adminDiscipline sha256 app).knows request (learned known call (shared.respond draw call).1)
      (shared.respond draw call).2 := by
  have kept : (adminDiscipline sha256 app).knows request known (shared.respond draw call).2 :=
    (adminDiscipline sha256 app).knows_later _ _ _ _ (projects_respond draw call) knows
  cases call with
  | createProject name network =>
      intro project same
      cases answer : (shared.respond draw
          (.createProject name network : AdminCall sha256)).1 with
      | error error =>
          rw [answer] at same
          exact kept project same
      | ok created =>
          rw [answer] at same
          cases same
          obtain ⟨shape, there⟩ :=
            @KeyDesk.mem_projects_of_created sha256 _ _ _ _ _ _ answer
          refine ⟨there, ?_⟩
          obtain ⟨headers, route⟩ := request
          cases route with
          | createProject body bytes =>
              obtain ⟨given, bounded, rfl, req, rfl, rfl⟩ := asks
              rw [shape]
              exact ⟨req, bytes, rfl, rfl, given, bounded, rfl⟩
          | _ => exact asks.elim
  | _ => exact kept

/-- **The operator's gate.** At every time of the admin routes, with any requests at once and
any of them abandoned, what was done was asked for by a request that presented the admin token:
each project with its name, each secret that was handed out with its project and scopes, each
revocation, and each channel and mined block within its bounds. -/
theorem operator_gated
    {state : Pool Operator AdminRequest (AdminCall sha256) AdminAnswer (Except ApiError AdminReply)}
    (reached : (operator sha256 app).Reachable state) :
    Gated sha256 app state.asked state.shared := by
  refine pool_invariant Admin.program_follows ?_ ?_ ?_ ?_ reached
  · rintro _ rfl
    refine ⟨?_, ?_, ?_, ?_⟩
    · intro project member
      cases member
    · intro secret context entry
      cases entry
    · intro projectId keyId entry
      cases entry
    · intro command member
      cases member
  · exact fun asked shared request gated => gated.ask request
  · exact fun shared => List.Subset.refl _
  · intro asked shared request known draw call member knows permitted gated
    obtain ⟨admitted, asks⟩ := permitted
    exact ⟨gated.execute member draw knows admitted asks, projects_respond draw call, _, rfl,
      learned_knows draw knows asks⟩

/-- The admin token, and the requests that present it. -/
def operatorApp : AppState where
  config :=
    { network := .regtest
      adminToken := some "operator-token-of-24-chars"
      webhookAllowPrivate := false
      defaultConfirmations := 3
      enableDevEndpoints := false }
  hasRpc := true

def operatorHeaders : HeaderMap :=
  fun name => if name = "x-admin-token" then some "operator-token-of-24-chars" else none

def drawing (id : String) : AdminDraw where
  now := 0
  id := id
  address := .error .notRunning
  hashes := none
  channelId := .error .notRunning
  height := none

/-- A request without the token, and one that creates a project and its first key. -/
def createActions : List (PoolAction AdminRequest AdminDraw) := [
  .start 0 ⟨fun _ => none, .revokeKey "prj_1" "key_1"⟩,
  .advance 0 (drawing ""),
  .start 1 ⟨operatorHeaders, .createProject (.read ⟨" shop "⟩) (drawnBytes 7)⟩,
  .advance 1 (drawing "prj_1"),
  .advance 1 (drawing "key_1")]

theorem operator_gated_created : ∃ state,
    (operator keepBytes operatorApp).run ⟨{}, [], fun _ => none⟩ createActions = some state ∧
      state.shared.desk.log =
        [.issued (drawnSecret 7) ⟨"prj_1", "key_1", Scope.all.map Scope.asStr⟩] ∧
      Gated keepBytes operatorApp state.asked state.shared := by
  have handedOut : ((operator keepBytes operatorApp).run ⟨{}, [], fun _ => none⟩
      createActions).map (·.shared.desk.log) =
        some [.issued (drawnSecret 7) ⟨"prj_1", "key_1", Scope.all.map Scope.asStr⟩] := by rfl
  obtain ⟨state, ran, log⟩ := Option.map_eq_some_iff.mp handedOut
  have initial : (operator keepBytes operatorApp).initial ⟨{}, [], fun _ => none⟩ :=
    ⟨rfl, rfl, fun _ => rfl⟩
  exact ⟨state, ran, log, operator_gated (Machine.reachable_of_run initial ran)⟩

/-- The keys are those of a desk. -/
def OnDesk (sha256 : Sha256) (_ : List AdminRequest) (shared : Operator) : Prop :=
  (keyDesk sha256).Reachable shared.desk

theorem onDesk_of_reachable
    {state : Pool Operator AdminRequest (AdminCall sha256) AdminAnswer (Except ApiError AdminReply)}
    (reached : (operator sha256 app).Reachable state) :
    OnDesk sha256 state.asked state.shared := by
  refine pool_invariant Admin.program_follows ?_ (fun _ _ _ held => held)
    (fun _ => List.Subset.refl _) ?_ reached
  · rintro _ rfl
    exact .start rfl
  · intro asked shared request known draw call _ knows permitted reached
    refine ⟨?_, projects_respond draw call, _, rfl, learned_knows draw knows permitted.2⟩
    cases call with
    | createProject name network =>
        exact KeyDesk.reachable_execute reached (.createProject draw.now draw.id name network)
    | createApiKey projectId label scopes key =>
        exact KeyDesk.reachable_execute reached
          (.createApiKey draw.now draw.id projectId label scopes key)
    | revokeApiKey projectId keyId =>
        exact KeyDesk.reachable_execute reached (.revokeApiKey draw.now projectId keyId)
    | _ => exact reached

end Operators

end Safrod
