import QueryMind.Auth.Lifecycle
import QueryMind.Observability.Metrics
import QueryMind.Orchestrator.Engine
import QueryMind.Security.Audit
import QueryMind.Security.LoginThrottle

namespace QueryMind.Api
open Lib Observability Security
set_option autoImplicit true

structure Settings extends Security.Settings where
  apiV1Prefix : String := "/api/v1"
  trustProxyHeaders : Bool := false
  rateLimitEnabled : Bool := true
  isProduction : Bool := false

/-- The headers that are read of every request. -/
structure Headers where
  forwardedFor : Option String := none
  realIp : Option String := none
  userAgent : Option String := none
  requestId : Option String := none
  correlationId : Option String := none

inductive RequestBody
  | empty
  | undecodable
  | json (value : Json)

def RequestBody.decoded : RequestBody → Option Json
  | .json value => some value
  | _ => none

/-- The routes of the query family besides `/query` and `/query/stream`. -/
inductive QueryStep
  | sql
  | validate
  | repair
  | execute
  | format
  deriving DecidableEq, Repr

inductive EngineFailure
  | raised (exc : Streaming.Raised)
  | pipelineExecution (message : String) (cause : Option Streaming.Raised)

/-- What a route may raise before it has answered. -/
inductive ApiError
  | service (error : Auth.ServiceError)
  | forbiddenRole (message : String)
  | rateLimitExceeded (error : RateLimitExceededError)
  | httpException (statusCode : Nat) (detail : String) (headers : List (String × String))
  | requestValidation
  | engine (failure : EngineFailure)

/-- What a path parameter may be. -/
structure Segment where
  text : String
  no_slash : '/' ∉ text.toList

/-- A route, with what the engines answer while it is served; no outcome of a step stands for a
body that is refused. -/
inductive Route
  | register
  | login
  | refresh
  | logout
  | me
  | createApiKey
  | listApiKeys
  | revokeApiKey (segment : Segment)
  | query (runner : Orchestrator.PipelineRunner) (clock : Orchestrator.Clock)
  | queryStream
  | queryStep (step : QueryStep) (outcome : Option (Except EngineFailure Json))
  | metrics (capturedAt : Int)

def QueryStep.path : QueryStep → String
  | .sql => "/query/sql"
  | .validate => "/query/validate"
  | .repair => "/query/repair"
  | .execute => "/query/execute"
  | .format => "/query/format"

def Route.path : Route → String
  | .register => "/auth/register"
  | .login => "/auth/login"
  | .refresh => "/auth/refresh"
  | .logout => "/auth/logout"
  | .me => "/auth/me"
  | .createApiKey | .listApiKeys => "/auth/api-keys"
  | .revokeApiKey segment => "/auth/api-keys/" ++ segment.text
  | .query _ _ => "/query"
  | .queryStream => "/query/stream"
  | .queryStep step _ => step.path
  | .metrics _ => "/health/metrics"

def Route.hasBody : Route → Bool
  | .me | .listApiKeys | .revokeApiKey _ | .metrics _ => false
  | _ => true

/-- A request to the versioned routes, with the scope its state is kept under and the clock readings
of the checks it passes. The token is what the bearer scheme extracts; an identifier is at hand
where the headers bring none. -/
structure HttpRequest where
  route : Route
  scope : Nat
  host : Option String
  headers : Headers
  freshId : String
  token : Option String
  apiKey : Option String
  contentTypeJson : Bool
  body : RequestBody
  generalNow : Rat
  routeNow : Rat
  usernameNow : Rat

/-- The first message of a connection, if one comes. -/
inductive FirstMessage
  | disconnected
  | text (value : Option Json)

/-- A connection to `/ws/query`. -/
structure WsRequest where
  authorization : Option String
  token : Option String
  message : FirstMessage
  queryNow : Rat

inductive Body
  | error (detail errorType : String)
  | detail (detail : String)
  | invalid
  | empty
  | user (user : Auth.UserRead)
  | pair (pair : Auth.TokenPair)
  | created (key : Auth.ApiKeyCreated)
  | keys (keys : List Auth.ApiKeyRead)
  | answer (response : Orchestrator.QueryMindResponse)
  | stream (question : String)
  | json (value : Json)
  | metrics (snapshot : MetricsSnapshot)

structure Response where
  statusCode : Nat
  body : Body
  headers : List (String × String) := []

inductive WsReply
  | rejected (code : Nat) (reason : String)
  | raised
  | disconnected
  | invalid
  | stream (question : String)

/-- The calls that the routes make on what was built once. -/
inductive ServiceOp
  | check (q : RateLimitCheck)
  | registerUser (username email password : String)
  | authenticate (username password : String)
  | createTokenPair (userId : Nat)
  | refreshTokens (refreshToken : String)
  | logout (refreshToken : String)
  | getCurrentUser (accessToken : String)
  | authenticateApiKey (rawKey : String)
  | createApiKey (userId : Nat) (name : String) (expiresAt : Option Auth.DateTime)
  | listApiKeys (userId : Nat)
  | revokeApiKey (requestingUser : Auth.UserRead) (keyId : Nat)
  | setActive (userId : Nat) (active : Bool)
  | setUser (scope : Nat) (user : Auth.UserRead)
  | user (scope : Nat)
  | record (record : AuditRecord)
  | work (user : Auth.UserRead) (path : String) (reading : Rat)
  | observe (response : Orchestrator.QueryMindResponse)
  | snapshot (now : Int)

@[reducible] def ServiceOp.Ans : ServiceOp → Type
  | .check _ => RateLimitDecision
  | .registerUser .. | .authenticate .. | .getCurrentUser _ | .authenticateApiKey _ =>
    Except Auth.ServiceError Auth.UserRead
  | .createTokenPair _ | .refreshTokens _ => Except Auth.ServiceError Auth.TokenPair
  | .logout _ | .revokeApiKey .. => Except Auth.ServiceError Unit
  | .createApiKey .. => Except Auth.ServiceError Auth.ApiKeyCreated
  | .listApiKeys _ => List Auth.ApiKeyRead
  | .user _ => Option Auth.UserRead
  | .snapshot _ => Option MetricsSnapshot
  | .setActive .. | .setUser .. | .record _ | .work .. | .observe _ => Unit

abbrev ServiceInterface : Interface := ⟨ServiceOp, ServiceOp.Ans⟩

abbrev Service (α : Type) := Prog ServiceInterface ApiError α

def invoke (op : ServiceOp) : Service op.Ans := Prog.perform (I := ServiceInterface) op

/-- What the application is built with, and the libraries its routes call. -/
structure Application where
  settings : Settings
  env : Auth.Environment
  emailStr : String → Option String
  parseDatetime : Json → Option Auth.DateTime
  parseInt : String → Option Int
  usage : Sql.GeneratedSQL → Llm.TokenUsage
  auditInsert : List AuditRecord → AuditRecord → Bool

/-- What can be seen from outside of the engines; work comes with the reading at which it was let
through. -/
inductive Effect
  | checked (q : RateLimitCheck) (allowed : Bool)
  | audited (record : AuditRecord)
  | worked (user : Auth.UserRead) (path : String) (reading : Rat)
  | answered (response : Orchestrator.QueryMindResponse)

/-- What the requests share, with the effects so far and the user noted under each scope. -/
structure Server where
  limiter : InMemoryTokenBucketRateLimiter
  session : Auth.Session
  auditLog : List AuditRecord
  metrics : InMemoryMetricsCollector
  effects : List Effect
  users : Nat → Option Auth.UserRead

/-- A process starts with whatever the tables of the accounts hold. -/
def Server.started (w : Auth.World) : Server := ⟨.initial, ⟨w, []⟩, [], {}, [], fun _ => none⟩

def Server.emit (s : Server) (e : Effect) : Server := { s with effects := s.effects ++ [e] }

section Operations
variable (app : Application)

def Server.authCall (s : Server) (r : Auth.Request) (c : Auth.Call α) :
    Except Auth.ServiceError α × Server :=
  ((Auth.runCall app.env c s.session.world).1, { s with session := s.session.perform app.env r })

def Server.listApiKeys (s : Server) (userId : Nat) : List Auth.ApiKeyRead :=
  ((s.session.world.db.apiKeys.filter fun k => k.userId = userId).reverse).map Auth.ApiKey.read

/-- The row is lost where the table does not take it; nobody is told. -/
def Server.record (s : Server) (r : AuditRecord) : Server :=
  { s.emit (.audited r) with
    auditLog := if app.auditInsert s.auditLog r then s.auditLog ++ [r] else s.auditLog }

def operate : (op : ServiceOp) → Server → op.Ans × Server
  | .check q, s =>
    if app.settings.rateLimitEnabled then
      ((s.limiter.check q).1,
        { s.emit (.checked q (s.limiter.check q).1.allowed) with limiter := (s.limiter.check q).2 })
    else
      ({ allowed := true }, s)
  | .registerUser un mail pw, s =>
    s.authCall app (.registerUser un mail pw) (Auth.registerUser app.env un mail pw)
  | .authenticate un pw, s => s.authCall app (.authenticate un pw) (Auth.authenticate app.env un pw)
  | .createTokenPair uid, s =>
    s.authCall app (.createTokenPair uid) (Auth.createTokenPair app.env uid)
  | .refreshTokens t, s => s.authCall app (.refreshTokens t) (Auth.refreshTokens app.env t)
  | .logout t, s => s.authCall app (.logout t) (Auth.logout app.env t)
  | .getCurrentUser t, s => s.authCall app (.getCurrentUser t) (Auth.getCurrentUser app.env t)
  | .authenticateApiKey raw, s =>
    s.authCall app (.authenticateApiKey raw) (Auth.authenticateApiKey app.env raw)
  | .createApiKey uid nm ex, s =>
    s.authCall app (.createApiKey uid nm ex) (Auth.createApiKey app.env uid nm ex)
  | .listApiKeys uid, s => (s.listApiKeys uid, s)
  | .revokeApiKey by' kid, s => s.authCall app (.revokeApiKey by' kid) (Auth.revokeApiKey by' kid)
  | .setActive uid b, s => ((), { s with session := s.session.perform app.env (.setActive uid b) })
  | .setUser scope u, s =>
    ((), { s with users := fun n => if n = scope then some u else s.users n })
  | .user scope, s => (s.users scope, s)
  | .record r, s => ((), s.record app r)
  | .work u path reading, s => ((), s.emit (.worked u path reading))
  | .observe response, s =>
    ((), { s.emit (.answered response) with
           metrics := (recordMetrics app.usage response).foldl .record s.metrics })
  | .snapshot now, s => (s.metrics.snapshot now, s)

end Operations

/-- `get_client_ip`: the forwarded address is believed only where the settings say so. -/
def getClientIp (settings : Settings) (host : Option String) (headers : Headers) :
    Option String :=
  let named (header : Option String) := header.filter (· ≠ "")
  if settings.trustProxyHeaders then
    match named headers.forwardedFor with
    | some forwardedFor => some (Text.strip (.ofList (forwardedFor.toList.takeWhile (· ≠ ','))))
    | none =>
      match named headers.realIp with
      | some realIp => some (Text.strip realIp)
      | none => host
  else
    host

def maxUserAgentLength : Nat := 300

def getUserAgent (headers : Headers) : Option String :=
  (headers.userAgent.filter (· ≠ "")).map (Text.take · maxUserAgentLength)

namespace HttpRequest

def requestId (r : HttpRequest) : String := r.headers.requestId.getD r.freshId

def correlationId (r : HttpRequest) : String := r.headers.correlationId.getD r.requestId

def clientIp (r : HttpRequest) (app : Application) : Option String :=
  getClientIp app.settings r.host r.headers

def path (r : HttpRequest) (app : Application) : String := app.settings.apiV1Prefix ++ r.route.path

/-- `_attempted_username`: whatever the body calls a username. -/
def attemptedUsername (r : HttpRequest) : Option String := getAttemptedUsername r.body.decoded

def auditRecord (r : HttpRequest) (app : Application) (eventType : AuditEventType)
    (success : Bool) (actor : Option Nat × Option String) (errorType : Option String) :
    AuditRecord where
  eventType := eventType
  success := success
  actorUserId := actor.1
  actorUsername := actor.2
  ipAddress := r.clientIp app
  userAgent := getUserAgent r.headers
  requestId := r.requestId
  correlationId := r.correlationId
  resource := r.path app
  errorType := errorType

end HttpRequest

namespace Service
variable (app : Application)

def ofExcept : Except Auth.ServiceError α → Service α
  | .ok a => pure a
  | .error e => .raise (.service e)

def raiseIfBlocked (decision : RateLimitDecision) : Service Unit :=
  match Security.raiseIfBlocked decision with
  | .ok () => pure ()
  | .error e => .raise (.rateLimitExceeded e)

def checkLimit (scope : Scope) (who : String) (now : Rat) : Service Unit := do
  raiseIfBlocked (← invoke (.check (scope.check app.settings.toSettings who now)))

def checkGeneralRateLimit (r : HttpRequest) : Service Unit :=
  checkLimit app .generalIp (showIp (r.clientIp app)) r.generalNow

def checkRegisterRateLimit (r : HttpRequest) : Service Unit :=
  checkLimit app .registerIp (showIp (r.clientIp app)) r.routeNow

def checkRefreshRateLimit (r : HttpRequest) : Service Unit :=
  checkLimit app .refreshIp (showIp (r.clientIp app)) r.routeNow

def checkQueryRateLimit (user : Auth.UserRead) (now : Rat) : Service Unit :=
  checkLimit app .queryUser user.id.repr now

/-- Both buckets are charged before either of them blocks. -/
def checkLoginRateLimit (r : HttpRequest) : Service Unit := do
  let ipDecision ← invoke
    (.check (Scope.loginIp.check app.settings.toSettings (showIp (r.clientIp app)) r.routeNow))
  match r.attemptedUsername.filter (· ≠ "") with
  | none => raiseIfBlocked ipDecision
  | some username =>
    let usernameDecision ← invoke
      (.check (Scope.loginUsername.check app.settings.toSettings username r.usernameNow))
    raiseIfBlocked (if !ipDecision.allowed then ipDecision else usernameDecision)

def notAuthenticated : ApiError :=
  .httpException 401 "Not authenticated." [("WWW-Authenticate", "Bearer")]

def resolveJwtUser (token : Option String) : Service Auth.UserRead :=
  match token with
  | none => .raise notAuthenticated
  | some token => do ofExcept (← invoke (.getCurrentUser token))

def getCurrentUserJwtOnly (r : HttpRequest) : Service Auth.UserRead := do
  let user ← resolveJwtUser r.token
  invoke (.setUser r.scope user)
  pure user

end Service

/-- `AuthenticationError`, of which the last two are none. -/
def authenticationError : Auth.ServiceError → Bool
  | .integrityError | .valueError _ => false
  | _ => true

def raisedBy : Auth.ServiceError → Streaming.Raised
  | .duplicateUserError message => ⟨"DuplicateUserError", message⟩
  | .invalidCredentialsError message => ⟨"InvalidCredentialsError", message⟩
  | .inactiveUserError message => ⟨"InactiveUserError", message⟩
  | .invalidTokenError message => ⟨"InvalidTokenError", message⟩
  | .tokenExpiredError message => ⟨"TokenExpiredError", message⟩
  | .refreshTokenRevokedError message => ⟨"RefreshTokenRevokedError", message⟩
  | .invalidApiKeyError message => ⟨"InvalidApiKeyError", message⟩
  | .apiKeyExpiredError message => ⟨"ApiKeyExpiredError", message⟩
  | .apiKeyRevokedError message => ⟨"ApiKeyRevokedError", message⟩
  | .apiKeyNotFoundError message => ⟨"ApiKeyNotFoundError", message⟩
  | .integrityError => ⟨"IntegrityError", ""⟩
  | .valueError message => ⟨"ValueError", message⟩

def roleRank : Auth.UserRole → Nat
  | .viewer => 1
  | .analyst => 2
  | .admin => 3

def roleValue : Auth.UserRole → String
  | .admin => "admin"
  | .analyst => "analyst"
  | .viewer => "viewer"

def requireRole (user : Auth.UserRead) (minimumRole : Auth.UserRole) : Except String Unit :=
  if roleRank user.role < roleRank minimumRole then
    .error ("This action requires at least the '" ++ roleValue minimumRole ++
      "' role; the current user has '" ++ roleValue user.role ++ "'.")
  else
    .ok ()

namespace Service
variable (app : Application)

/-- A key takes precedence over a token, and its use is audited either way. -/
def getCurrentUser (r : HttpRequest) : Service Auth.UserRead := do
  match r.apiKey with
  | some apiKey =>
    match ← invoke (.authenticateApiKey apiKey) with
    | .ok user =>
      invoke (.record (r.auditRecord app .apiKeyAuthSuccess true (user.id, user.username) none))
      invoke (.setUser r.scope user)
      pure user
    | .error e =>
      if authenticationError e then
        invoke (.record (r.auditRecord app .apiKeyAuthFailure false (none, none)
          (some (raisedBy e).errorType)))
      .raise (.service e)
  | none => getCurrentUserJwtOnly r

def requireMinimum (user : Auth.UserRead) (minimumRole : Auth.UserRole) : Service Unit :=
  match requireRole user minimumRole with
  | .ok () => pure ()
  | .error message => .raise (.forbiddenRole message)

def ofBody (r : HttpRequest) (parse : Json → Option α) : Service α :=
  match if r.contentTypeJson then r.body.decoded.bind parse else none with
  | some form => pure form
  | none => .raise .requestValidation

/-- The dependencies of the query family: a user, the role, and only then the limit. -/
def queryAccess (r : HttpRequest) : Service Auth.UserRead := do
  let user ← getCurrentUser app r
  requireMinimum user .analyst
  checkQueryRateLimit app user r.routeNow
  pure user

end Service

def closedObject (names : List String) : Json → Option (String → Option Json)
  | .obj members =>
    if members.all fun m => m.1 ∈ names then some fun name => (Json.obj members).child (.name name)
    else none
  | _ => none

def textField : Option Json → Option String
  | some (.str text) => some text
  | _ => none

structure UserCreate where
  username : String
  email : String
  password : String

def userCreate (app : Application) (body : Json) : Option UserCreate := do
  let field ← closedObject ["username", "email", "password"] body
  let username ← textField (field "username")
  let email ← (textField (field "email")).bind app.emailStr
  let password ← textField (field "password")
  if 3 ≤ username.length ∧ username.length ≤ 50 ∧ 8 ≤ password.length ∧ password.length ≤ 256 then
    some ⟨username, email, password⟩
  else none

def refreshRequest (body : Json) : Option String := do
  let field ← closedObject ["refresh_token"] body
  textField (field "refresh_token")

def questionRequest (body : Json) : Option String := do
  let field ← closedObject ["question"] body
  (textField (field "question")).filter (· ≠ "")

def apiKeyCreate (app : Application) (body : Json) : Option (String × Option Auth.DateTime) := do
  let field ← closedObject ["name", "expires_at"] body
  let name ← textField (field "name")
  let expiresAt ← match field "expires_at" with
    | none | some .null => some none
    | some value => (app.parseDatetime value).map some
  if 1 ≤ name.length ∧ name.length ≤ 100 then some (name, expiresAt) else none

namespace Service
variable (app : Application) (r : HttpRequest)

def audit (eventType : AuditEventType) (actor : Option Nat × Option String) : Service Unit :=
  invoke (.record (r.auditRecord app eventType true actor none))

def register : Service Response := do
  checkRegisterRateLimit app r
  let form ← ofBody r (userCreate app)
  let user ← ofExcept (← invoke (.registerUser form.username form.email form.password))
  audit app r .registration (user.id, user.username)
  pure { statusCode := 201, body := .user user }

def login : Service Response := do
  checkLoginRateLimit app r
  let form ← ofBody r userLogin
  let user ← ofExcept (← invoke (.authenticate form.username form.password))
  let tokens ← ofExcept (← invoke (.createTokenPair user.id))
  audit app r .loginSuccess (user.id, user.username)
  pure { statusCode := 200, body := .pair tokens }

def refresh : Service Response := do
  checkRefreshRateLimit app r
  let refreshToken ← ofBody r refreshRequest
  let tokens ← ofExcept (← invoke (.refreshTokens refreshToken))
  audit app r .refreshSuccess (none, none)
  pure { statusCode := 200, body := .pair tokens }

def logout : Service Response := do
  let refreshToken ← ofBody r refreshRequest
  ofExcept (← invoke (.logout refreshToken))
  audit app r .logout (none, none)
  pure { statusCode := 204, body := .empty }

def me : Service Response := do
  let user ← getCurrentUser app r
  pure { statusCode := 200, body := .user user }

def createApiKey : Service Response := do
  let user ← getCurrentUserJwtOnly r
  let form ← ofBody r (apiKeyCreate app)
  let created ← ofExcept (← invoke (.createApiKey user.id form.1 form.2))
  audit app r .apiKeyCreated (user.id, user.username)
  pure { statusCode := 201, body := .created created }

def listApiKeys : Service Response := do
  let user ← getCurrentUserJwtOnly r
  let keys ← invoke (.listApiKeys user.id)
  pure { statusCode := 200, body := .keys keys }

/-- No row has a negative id. -/
def revokeApiKey (segment : Segment) : Service Response := do
  let user ← getCurrentUserJwtOnly r
  match app.parseInt segment.text with
  | none => .raise .requestValidation
  | some (.ofNat keyId) =>
    ofExcept (← invoke (.revokeApiKey user keyId))
    audit app r .apiKeyRevoked (user.id, user.username)
    pure { statusCode := 204, body := .empty }
  | some (.negSucc n) =>
    .raise (.service (.apiKeyNotFoundError
      ("No API key with id " ++ (Int.negSucc n).repr ++ ".")))

def askQuestion (runner : Orchestrator.PipelineRunner) (clock : Orchestrator.Clock) :
    Service Response := do
  let user ← queryAccess app r
  let question ← ofBody r questionRequest
  invoke (.work user r.route.path r.routeNow)
  let response := Orchestrator.ask runner clock none question
  invoke (.observe response)
  pure { statusCode := 200, body := .answer response }

def streamQuery : Service Response := do
  let user ← queryAccess app r
  let question ← ofBody r questionRequest
  invoke (.work user r.route.path r.routeNow)
  pure { statusCode := 200, body := .stream question }

def queryStep (outcome : Option (Except EngineFailure Json)) : Service Response := do
  let user ← queryAccess app r
  match outcome with
  | none => .raise .requestValidation
  | some outcome =>
    invoke (.work user r.route.path r.routeNow)
    match outcome with
    | .ok value => pure { statusCode := 200, body := .json value }
    | .error failure => .raise (.engine failure)

def metrics (capturedAt : Int) : Service Response := do
  let user ← getCurrentUser app r
  requireMinimum user .admin
  match ← invoke (.snapshot capturedAt) with
  | some snapshot => pure { statusCode := 200, body := .metrics snapshot }
  | none => .raise (.engine (.raised ⟨"ValidationError", ""⟩))

def route : Service Response :=
  match r.route with
  | .register => register app r
  | .login => login app r
  | .refresh => refresh app r
  | .logout => logout app r
  | .me => me app r
  | .createApiKey => createApiKey app r
  | .listApiKeys => listApiKeys r
  | .revokeApiKey segment => revokeApiKey app r segment
  | .query runner clock => askQuestion app r runner clock
  | .queryStream => streamQuery app r
  | .queryStep _ outcome => queryStep app r outcome
  | .metrics capturedAt => metrics app r capturedAt

/-- A body that is no JSON is refused before any dependency is resolved. -/
def dispatch : Service Response :=
  match r.route.hasBody && r.contentTypeJson, r.body with
  | true, .undecodable => .raise .requestValidation
  | _, _ => do
    checkGeneralRateLimit app r
    route app r

end Service

/-- The status of an exception that has a handler of its own. -/
def statusByException : List (String × Nat) :=
  [("EmptyQuestionError", 400), ("ExecutionRejectedError", 400), ("FormattingError", 422),
    ("ExecutionTimeoutError", 504), ("DatabaseConnectionError", 503),
    ("PipelineConfigurationError", 500), ("SQLExecutionConfigurationError", 500),
    ("SQLRepairConfigurationError", 500), ("ObservabilityConfigurationError", 500),
    ("DuplicateUserError", 409), ("InvalidCredentialsError", 401), ("InvalidTokenError", 401),
    ("TokenExpiredError", 401), ("RefreshTokenRevokedError", 401), ("InvalidApiKeyError", 401),
    ("ApiKeyExpiredError", 401), ("ApiKeyRevokedError", 401), ("ApiKeyNotFoundError", 404),
    ("InactiveUserError", 403), ("ForbiddenRoleError", 403), ("InsufficientPermissionsError", 403)]

def statusFor (exc : Streaming.Raised) : Nat := (statusByException.lookup exc.errorType).getD 500

def authFailureEventByPathSuffix : List (String × AuditEventType) :=
  [("/auth/login", .loginFailure), ("/auth/register", .registrationFailure),
    ("/auth/refresh", .refreshFailure)]

def authFailureEvent (path : String) : Option AuditEventType :=
  (authFailureEventByPathSuffix.find? fun e => e.1.toList.isSuffixOf path.toList).map (·.2)

def authorizationDenial (exc : Streaming.Raised) : Bool :=
  exc.errorType = "ForbiddenRoleError" || exc.errorType = "InsufficientPermissionsError"

namespace Service
variable (app : Application) (r : HttpRequest)

def auditFailureIfRelevant (exc : Streaming.Raised) : Service Unit := do
  if authorizationDenial exc then
    let user ← invoke (.user r.scope)
    invoke (.record (r.auditRecord app .authorizationDenied false
      (user.map (·.id), user.map (·.username)) (some exc.errorType)))
  else
    match authFailureEvent (r.path app) with
    | some eventType =>
      invoke (.record (r.auditRecord app eventType false (none, r.attemptedUsername)
        (some exc.errorType)))
    | none => pure ()

def logAndRespond (statusCode : Nat) (exc : Streaming.Raised) : Response :=
  { statusCode, body := .error exc.errorMessage exc.errorType }

/-- An exception that no handler is registered for goes on. -/
def handleMapped (e : ApiError) (exc : Streaming.Raised) : Service Response :=
  match statusByException.lookup exc.errorType with
  | none => .raise e
  | some statusCode => do
    auditFailureIfRelevant app r exc
    pure (logAndRespond statusCode exc)

/-- Seconds that are infinitely many cannot be rounded. -/
def handleRateLimitExceeded (e : RateLimitExceededError) : Service Response :=
  match e.retryAfterSeconds with
  | none => .raise (.rateLimitExceeded e)
  | some seconds =>
    pure { logAndRespond 429 ⟨"RateLimitExceededError", e.message⟩ with
           headers := [("Retry-After", (max 1 seconds.ceil).repr)] }

def handle (e : ApiError) : Service Response :=
  match e with
  | .service error => handleMapped app r e (raisedBy error)
  | .forbiddenRole message => handleMapped app r e ⟨"ForbiddenRoleError", message⟩
  | .engine (.raised exc) => handleMapped app r e exc
  | .engine (.pipelineExecution _ (some cause)) => pure (logAndRespond (statusFor cause) cause)
  | .engine (.pipelineExecution message none) =>
    pure (logAndRespond 500 ⟨"PipelineExecutionError", message⟩)
  | .rateLimitExceeded error => handleRateLimitExceeded error
  | .httpException statusCode detail headers => pure { statusCode, body := .detail detail, headers }
  | .requestValidation => pure { statusCode := 422, body := .invalid }

def handled : Service Response := do
  match ← (dispatch app r).attempt with
  | .ok response => pure response
  | .error e => handle app r e

end Service

def baselineHeaders : List (String × String) :=
  [("X-Content-Type-Options", "nosniff"), ("Referrer-Policy", "strict-origin-when-cross-origin"),
    ("Permissions-Policy", "geolocation=(), camera=(), microphone=()")]

/-- What the middleware puts onto a response that comes back through it. -/
def stamp (app : Application) (r : HttpRequest) (response : Response) : Response :=
  { response with
    headers := response.headers ++
      [("X-Request-ID", r.requestId), ("X-Correlation-ID", r.correlationId)] ++ baselineHeaders ++
      (if app.settings.isProduction then
        [("Strict-Transport-Security", "max-age=31536000; includeSubDomains")] else []) ++
      (if (app.settings.apiV1Prefix ++ "/auth").toList.isPrefixOf (r.path app).toList then
        [("Cache-Control", "no-store")] else []) }

/-- The last resort stands outside of the middleware. -/
def internalServerError : Response := { statusCode := 500, body := .detail "Internal server error" }

def serveHttp (app : Application) (r : HttpRequest) : Prog ServiceInterface Empty Response := do
  match ← (Service.handled app r).attempt with
  | .ok response => pure (stamp app r response)
  | .error _ => pure internalServerError

namespace WsRequest

/-- The header wins over the parameter. -/
@[irreducible] def credential (r : WsRequest) : Option String :=
  let authorization := (r.authorization.getD "").toList
  let bearer := Text.strip (.ofList
    (if "Bearer ".toList.isPrefixOf authorization then authorization.drop 7 else authorization))
  if bearer ≠ "" then some bearer else r.token.filter (· ≠ "")

end WsRequest

namespace Service
variable (app : Application) (r : WsRequest)

def rejection (reason : String) : WsReply := .rejected 1008 (Text.take reason 120)

def authorize (user : Auth.UserRead) : Service (Except WsReply Auth.UserRead) :=
  match requireRole user .analyst with
  | .error message => pure (.error (rejection message))
  | .ok () => do
    let decision ← invoke
      (.check (Scope.queryUser.check app.settings.toSettings user.id.repr r.queryNow))
    if decision.allowed then pure (.ok user)
    else pure (.error
      (.rejected 1013 "Too many requests. Please slow down and try again shortly."))

/-- The checks before the connection is accepted; nothing is audited here. -/
def authenticateAndAuthorize : Service (Except WsReply Auth.UserRead) :=
  match r.credential with
  | none => pure (.error (.rejected 1008 "Not authenticated."))
  | some token => do
    match ← invoke (.getCurrentUser token) with
    | .error e =>
      if authenticationError e then pure (.error (rejection (raisedBy e).errorMessage))
      else .raise (.service e)
    | .ok user => authorize app r user

def receiveQuestion (user : Auth.UserRead) : Service WsReply :=
  match r.message with
  | .disconnected => pure .disconnected
  | .text value =>
    match value.bind questionRequest with
    | none => pure .invalid
    | some question => do
      invoke (.work user "/ws/query" r.queryNow)
      pure (.stream question)

def streamQueryWs : Service WsReply := do
  match ← authenticateAndAuthorize app r with
  | .error reply => pure reply
  | .ok user => receiveQuestion r user

end Service

def serveWs (app : Application) (r : WsRequest) : Prog ServiceInterface Empty WsReply := do
  match ← (Service.streamQueryWs app r).attempt with
  | .ok reply => pure reply
  | .error _ => pure .raised

/-- What the outside may do; accounts are switched on and off by an operator. -/
inductive ApiCall
  | http (request : HttpRequest)
  | ws (request : WsRequest)
  | setActive (userId : Nat) (active : Bool)

inductive Reply
  | http (response : Response)
  | ws (reply : WsReply)
  | done

def serve (app : Application) : ApiCall → Prog ServiceInterface Empty Reply
  | .http r => do return .http (← serveHttp app r)
  | .ws r => do return .ws (← serveWs app r)
  | .setActive userId active => do
    Prog.perform (I := ServiceInterface) (ServiceOp.setActive userId active)
    return .done

/-- Calls in flight, which interleave at the granularity of the service's operations. -/
abbrev ServerPool := Pool ApiCall ServiceInterface Empty Reply Server

def ServerPool.started (w : Auth.World) : ServerPool := ⟨.started w, []⟩

abbrev ServerPool.Step (app : Application) : ServerPool → Pool.Action ApiCall → ServerPool → Prop :=
  Pool.Step (operate app) (serve app)

end QueryMind.Api
