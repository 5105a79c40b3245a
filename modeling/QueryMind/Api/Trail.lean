import QueryMind.Api.Limits
import Mathlib.Data.Multiset.AddSub

namespace QueryMind.Api
open Lib Security
set_option autoImplicit true

/-- What a row of the trail says: the kind of event, and the account that is named as its actor. -/
abbrev Entry := AuditEventType × Option Nat

/-- What the trail has to say about a call of the authentication service. -/
def tale : Auth.Event → Option Entry
  | ⟨.registerUser .., .ok (.user user)⟩ => some (.registration, some user.id)
  | ⟨.registerUser .., .error e⟩ =>
    if authenticationError e then some (.registrationFailure, none) else none
  | ⟨.authenticate .., .error e⟩ | ⟨.createTokenPair _, .error e⟩ =>
    if authenticationError e then some (.loginFailure, none) else none
  | ⟨.createTokenPair userId, .ok _⟩ => some (.loginSuccess, some userId)
  | ⟨.refreshTokens _, .ok _⟩ => some (.refreshSuccess, none)
  | ⟨.refreshTokens _, .error e⟩ =>
    if authenticationError e then some (.refreshFailure, none) else none
  | ⟨.logout _, .ok _⟩ => some (.logout, none)
  | ⟨.createApiKey userId _ _, .ok _⟩ => some (.apiKeyCreated, some userId)
  | ⟨.revokeApiKey requestingUser _, .ok _⟩ => some (.apiKeyRevoked, some requestingUser.id)
  | ⟨.authenticateApiKey _, .ok (.user user)⟩ => some (.apiKeyAuthSuccess, some user.id)
  | ⟨.authenticateApiKey _, .error e⟩ =>
    if authenticationError e then some (.apiKeyAuthFailure, none) else none
  | _ => none

/-- Denials aside, which no call of the service answers for. -/
def AuditRecord.entry (r : AuditRecord) : Option Entry :=
  if r.eventType = .authorizationDenied then none else some (r.eventType, r.actorUserId)

def Effect.entry : Effect → Option Entry
  | .audited r => AuditRecord.entry r
  | _ => none

def once (e : Option Entry) : Multiset Entry := (e.toList : Multiset Entry)

def told (history : List Auth.Event) : Multiset Entry := (history.filterMap tale : Multiset Entry)

def written (effects : List Effect) : Multiset Entry := (effects.filterMap Effect.entry)

/-- The call of the authentication service that an operation is, with what its answer is there. -/
def authCallOf : (op : ServiceOp) →
    Option (Auth.Request × (op.Ans → Except Auth.ServiceError Auth.Response))
  | .registerUser un mail pw => some (.registerUser un mail pw, (·.map .user))
  | .authenticate un pw => some (.authenticate un pw, (·.map .user))
  | .createTokenPair userId => some (.createTokenPair userId, (·.map .pair))
  | .refreshTokens t => some (.refreshTokens t, (·.map .pair))
  | .logout t => some (.logout t, (·.map fun _ => .done))
  | .getCurrentUser t => some (.getCurrentUser t, (·.map .user))
  | .authenticateApiKey raw => some (.authenticateApiKey raw, (·.map .user))
  | .createApiKey userId nm ex => some (.createApiKey userId nm ex, (·.map .key))
  | .revokeApiKey by' kid => some (.revokeApiKey by' kid, (·.map fun _ => .done))
  | .setActive userId active => some (.setActive userId active, fun _ => .ok .done)
  | _ => none

def requestOf (op : ServiceOp) : Option Auth.Request := (authCallOf op).map Prod.fst

def eventOf (op : ServiceOp) (a : op.Ans) : Option Auth.Event :=
  (authCallOf op).map fun call => ⟨call.1, call.2 a⟩

def owed (op : ServiceOp) (a : op.Ans) : Multiset Entry := once ((eventOf op a).bind tale)

def paid : ServiceOp → Multiset Entry
  | .record r => once (AuditRecord.entry r)
  | _ => 0

section Books
variable {app : Application}

theorem filterMap_toList (f : α → Option β) (o : Option α) :
    o.toList.filterMap f = (o.bind f).toList := by
  cases o with
  | none => rfl
  | some a => cases h : f a <;> simp [h]

theorem told_append (h : List Auth.Event) (e : Option Auth.Event) :
    told (h ++ e.toList) = told h + once (e.bind tale) := by
  rw [told, List.filterMap_append, ← Multiset.coe_add, filterMap_toList]
  rfl

theorem authCall_history (s : Server) (c : Auth.Call α) (g : α → Auth.Response)
    (hr : Auth.serve app.env r = c >>= fun a => .ret (g a)) :
    (s.authCall app r c).2.session.history =
      s.session.history ++ [⟨r, (s.authCall app r c).1.map g⟩] := by
  change s.session.history ++ [⟨r, (Auth.runCall app.env (Auth.serve app.env r) s.session.world).1⟩]
    = _
  rw [hr, Auth.runCall_map]
  rfl

theorem operate_history (app : Application) (op : ServiceOp) (s : Server) :
    (operate app op s).2.session.history =
      s.session.history ++ (eventOf op (operate app op s).1).toList := by
  have hnone : s.session.history = s.session.history ++ (none : Option Auth.Event).toList :=
    (List.append_nil _).symm
  cases op with
  | check q =>
    rw [operate]
    split <;> exact hnone
  | registerUser un mail pw => exact authCall_history s _ .user rfl
  | authenticate un pw => exact authCall_history s _ .user rfl
  | createTokenPair userId => exact authCall_history s _ .pair rfl
  | refreshTokens t => exact authCall_history s _ .pair rfl
  | logout t => exact authCall_history s _ (fun _ => .done) rfl
  | getCurrentUser t => exact authCall_history s _ .user rfl
  | authenticateApiKey raw => exact authCall_history s _ .user rfl
  | createApiKey userId nm ex => exact authCall_history s _ .key rfl
  | revokeApiKey by' kid => exact authCall_history s _ (fun _ => .done) rfl
  | setActive userId active => rfl
  | _ => exact hnone

theorem told_operate (op : ServiceOp) (s : Server) :
    told (operate app op s).2.session.history =
      told s.session.history + owed op (operate app op s).1 := by
  rw [operate_history, told_append]
  rfl

theorem written_operate (op : ServiceOp) (s : Server) :
    written (operate app op s).2.effects = written s.effects + paid op := by
  rw [operate_effects, written, List.filterMap_append, ← Multiset.coe_add]
  refine congrArg (written s.effects + ·) ?_
  cases op with
  | check q =>
    rw [effectsOf]
    split <;> rfl
  | record r =>
    change (([Effect.audited r].filterMap Effect.entry : List Entry) : Multiset Entry) =
      once (AuditRecord.entry r)
    cases he : AuditRecord.entry r with
    | none => rw [List.filterMap_cons_none (by exact he)]; rfl
    | some e => rw [List.filterMap_cons_some (by exact he)]; rfl
  | _ => rfl

theorem trail_books : Books (I := ServiceInterface) (operate app) Truthful owed paid
    (fun s => told s.session.history) (fun s => written s.effects) :=
  ⟨operate_truthful app, told_operate, written_operate⟩

end Books

section Paths

theorem isPrefixOf_slash {l₁ l₂ t₁ t₂ : List Char} (h₁ : '/' ∉ l₁) (h₂ : '/' ∉ l₂) (hab : a ≠ b) :
    (l₁ ++ '/' :: a :: t₁).isPrefixOf (l₂ ++ '/' :: b :: t₂) = false := by
  induction l₁ generalizing l₂ with
  | nil =>
    cases l₂ with
    | nil =>
      simp only [List.nil_append, List.isPrefixOf, beq_self_eq_true, Bool.true_and]
      rw [beq_false_of_ne hab, Bool.false_and]
    | cons d l₂ =>
      have hd : '/' ≠ d := fun h => h₂ (h ▸ List.mem_cons_self)
      rw [List.nil_append, List.cons_append, List.isPrefixOf, beq_false_of_ne hd, Bool.false_and]
  | cons c l₁ ih =>
    have hc : c ≠ '/' := fun h => h₁ (h ▸ List.mem_cons_self)
    cases l₂ with
    | nil => rw [List.cons_append, List.nil_append, List.isPrefixOf, beq_false_of_ne hc,
        Bool.false_and]
    | cons d l₂ =>
      rw [List.cons_append, List.cons_append, List.isPrefixOf,
        ih (fun h => h₁ (List.mem_cons_of_mem _ h)) (fun h => h₂ (List.mem_cons_of_mem _ h)),
        Bool.and_false]

theorem isSuffixOf_append (xs ys zs : List Char) :
    xs.isSuffixOf (ys ++ zs) = xs.reverse.isPrefixOf (zs.reverse ++ ys.reverse) := by
  rw [List.isSuffixOf, List.reverse_append]

/-- The event that a failure on a route is told as. -/
def Route.failureEvent : Route → Option AuditEventType
  | .login => some .loginFailure
  | .register => some .registrationFailure
  | .refresh => some .refreshFailure
  | _ => none

theorem authFailureEvent_segment (apiPrefix : String) (segment : Segment) :
    authFailureEvent (apiPrefix ++ (Route.revokeApiKey segment).path) = none := by
  have hs : ∀ l₁ t₁ : List Char, '/' ∉ l₁ →
      (l₁ ++ '/' :: 'h' :: t₁).isPrefixOf (segment.text.toList.reverse ++
        '/' :: 's' :: ("/auth/api-key".toList.reverse ++ apiPrefix.toList.reverse)) = false :=
    fun l₁ t₁ h => isPrefixOf_slash h (fun hm => segment.no_slash (List.mem_reverse.1 hm))
      (by decide)
  have hp : (apiPrefix ++ (Route.revokeApiKey segment).path).toList =
      (apiPrefix.toList ++ "/auth/api-keys/".toList) ++ segment.text.toList := by
    rw [Route.path, String.toList_append, String.toList_append, List.append_assoc]
  have hr : (apiPrefix.toList ++ "/auth/api-keys/".toList).reverse =
      '/' :: 's' :: ("/auth/api-key".toList.reverse ++ apiPrefix.toList.reverse) := by
    rw [List.reverse_append]
    rfl
  rw [authFailureEvent, authFailureEventByPathSuffix, hp, List.find?_eq_none.2, Option.map_none]
  intro e he
  rw [isSuffixOf_append, hr]
  simp only [List.mem_cons, List.not_mem_nil, or_false] at he
  rcases he with rfl | rfl | rfl
  · exact Bool.not_eq_true _ ▸ hs "nigol".toList "tua/".toList (by decide)
  · exact Bool.not_eq_true _ ▸ hs "retsiger".toList "tua/".toList (by decide)
  · exact Bool.not_eq_true _ ▸ hs "hserfer".toList "tua/".toList (by decide)

theorem authFailureEvent_path (apiPrefix : String) (route : Route) :
    authFailureEvent (apiPrefix ++ route.path) = route.failureEvent := by
  cases route with
  | revokeApiKey segment => exact authFailureEvent_segment apiPrefix segment
  | queryStep step outcome =>
    cases step <;>
      simp [authFailureEvent, authFailureEventByPathSuffix, isSuffixOf_append, Route.path,
        QueryStep.path, Route.failureEvent]
  | _ =>
    simp [authFailureEvent, authFailureEventByPathSuffix, isSuffixOf_append, Route.path,
      Route.failureEvent]

end Paths

/-- What a failure still has to be told as, once a handler sees it. -/
def auditedFailure (r : HttpRequest) (exc : Streaming.Raised) : Multiset Entry :=
  if (statusByException.lookup exc.errorType).isSome && !authorizationDenial exc then
    once (r.route.failureEvent.map (·, none))
  else 0

def debt (r : HttpRequest) : ApiError → Multiset Entry
  | .service error => auditedFailure r (raisedBy error)
  | .engine (.raised exc) => auditedFailure r exc
  | _ => 0

/-- Calls that are told of once each, up to a balance that `P` allows. -/
abbrev Tells (P : Except ε α → Multiset Entry → Prop) (p : Prog ServiceInterface ε α)
    (c : Multiset Entry) : Prop :=
  p.Accounts (I := ServiceInterface) Truthful owed paid P c

/-- A route has told everything but the exception that it ends with. -/
def Squared (r : HttpRequest) : Except ApiError α → Multiset Entry → Prop
  | .ok _, c => c = 0
  | .error e, c => c = debt r e

section Handlers
variable {app : Application} {r : HttpRequest}

theorem failureEvent_entry {route : Route} (h : route.failureEvent = some eventType) :
    eventType ≠ .authorizationDenied := by
  rintro rfl
  cases route <;> cases h

theorem Tells.free {op : ServiceOp} {f : op.Ans → Service α} (ho : ∀ a, owed op a = 0)
    (hp : paid op = 0) (hf : ∀ a, Tells P (f a) c) : Tells P (invoke op >>= f) c :=
  Prog.Accounts.free ho hp fun a _ => hf a

theorem auditFailureIfRelevant_tells (exc : Streaming.Raised)
    (h : (statusByException.lookup exc.errorType).isSome = true) :
    Tells (fun _ c => c = 0) (Service.auditFailureIfRelevant app r exc)
      (auditedFailure r exc) := by
  rw [Service.auditFailureIfRelevant, auditedFailure, h, Bool.true_and]
  cases authorizationDenial exc with
  | true =>
    rw [if_pos rfl]
    exact Tells.free (fun _ => rfl) rfl fun user => fun _ _ => ⟨0, rfl, rfl⟩
  | false =>
    rw [if_neg Bool.false_ne_true, HttpRequest.path, authFailureEvent_path]
    cases he : r.route.failureEvent with
    | none => rfl
    | some eventType =>
      refine fun _ _ => ⟨0, ?_, rfl⟩
      exact congrArg (once · + 0) (if_neg (failureEvent_entry he)).symm

theorem handleMapped_tells (e : ApiError) (exc : Streaming.Raised) :
    Tells (fun _ c => c = 0) (Service.handleMapped app r e exc) (auditedFailure r exc) := by
  rw [Service.handleMapped]
  cases hs : statusByException.lookup exc.errorType with
  | none =>
    rw [auditedFailure, hs]
    rfl
  | some statusCode =>
    exact (auditFailureIfRelevant_tells exc (by rw [hs]; rfl)).bind (fun _ _ hc => hc) fun _ _ => id

theorem handle_tells (e : ApiError) :
    Tells (fun _ c => c = 0) (Service.handle app r e) (debt r e) := by
  cases e with
  | service error => exact handleMapped_tells _ (raisedBy error)
  | forbiddenRole message =>
    exact handleMapped_tells (.forbiddenRole message) ⟨"ForbiddenRoleError", message⟩
  | rateLimitExceeded error =>
    change Tells _ (Service.handleRateLimitExceeded error) 0
    rw [Service.handleRateLimitExceeded]
    split <;> rfl
  | engine failure =>
    cases failure with
    | raised exc => exact handleMapped_tells _ exc
    | pipelineExecution message cause => cases cause <;> rfl
  | _ => rfl

theorem debt_service (error : Auth.ServiceError) : debt r (.service error) =
    once (if authenticationError error then r.route.failureEvent.map (·, none) else none) := by
  cases error <;> rfl

theorem debt_silent (h : r.route.failureEvent = none) (e : ApiError) : debt r e = 0 := by
  have hf : ∀ exc, auditedFailure r exc = 0 := by
    intro exc
    rw [auditedFailure, h]
    split <;> rfl
  cases e with
  | service error => exact hf _
  | engine failure =>
    cases failure with
    | raised exc => exact hf exc
    | pipelineExecution => rfl
  | _ => rfl

end Handlers

section Routes
variable {app : Application} {r : HttpRequest}

theorem Tells.bind {p : Service α} {f : α → Service β} (hp : Tells (Squared r) p 0)
    (hf : ∀ a, Tells (Squared r) (f a) 0) : Tells (Squared r) (p >>= f) 0 :=
  Prog.Accounts.bind hp (fun a c hc => by rw [hc]; exact hf a) fun _ _ => id

theorem Tells.audit {f : Unit → Service α} {actor : Option Nat × Option String}
    (h : eventType ≠ .authorizationDenied) (hf : Tells P (f ()) 0) :
    Tells P (Service.audit app r eventType actor >>= f) (once (some (eventType, actor.1))) :=
  fun _ _ => ⟨0, congrArg (once · + 0) (if_neg h).symm, hf⟩

theorem raiseIfBlocked_tells (d : RateLimitDecision) :
    Tells (Squared r) (Service.raiseIfBlocked d) 0 := by
  cases ha : d.allowed with
  | false => rw [raiseIfBlocked_denied ha]; rfl
  | true => rw [raiseIfBlocked_allowed ha]; rfl

theorem checkLimit_tells (scope : Scope) (who : String) (now : Rat) :
    Tells (Squared r) (Service.checkLimit app scope who now) 0 :=
  Tells.free (fun _ => rfl) rfl fun d => raiseIfBlocked_tells d

theorem checkLoginRateLimit_tells :
    Tells (Squared r) (Service.checkLoginRateLimit app r) 0 := by
  refine Tells.free (fun _ => rfl) rfl fun d => ?_
  split
  · exact raiseIfBlocked_tells d
  · exact Tells.free (fun _ => rfl) rfl fun d' => raiseIfBlocked_tells _

theorem ofBody_tells (parse : Json → Option α) :
    Tells (Squared r) (Service.ofBody r parse) 0 := by
  rw [Service.ofBody]
  split <;> rfl

theorem requireMinimum_tells (user : Auth.UserRead) (role : Auth.UserRole) :
    Tells (Squared r) (Service.requireMinimum user role) 0 := by
  rw [Service.requireMinimum]
  split <;> rfl

theorem register_tells (h : r.route = .register) :
    Tells (Squared r) (Service.register app r) 0 := by
  refine (checkLimit_tells _ _ _).bind fun _ => (ofBody_tells _).bind fun form => ?_
  intro o _
  cases o with
  | error e => exact ⟨debt r (.service e), by rw [debt_service, h]; rfl, rfl⟩
  | ok user => exact ⟨_, rfl, Tells.audit (by decide) rfl⟩

theorem login_tells (h : r.route = .login) : Tells (Squared r) (Service.login app r) 0 := by
  refine checkLoginRateLimit_tells.bind fun _ => (ofBody_tells _).bind fun form => ?_
  intro o _
  cases o with
  | error e => exact ⟨debt r (.service e), by rw [debt_service, h]; rfl, rfl⟩
  | ok user =>
    refine ⟨0, rfl, ?_⟩
    intro o _
    cases o with
    | error e => exact ⟨debt r (.service e), by rw [debt_service, h]; rfl, rfl⟩
    | ok tokens => exact ⟨_, rfl, Tells.audit (by decide) rfl⟩

theorem refresh_tells (h : r.route = .refresh) :
    Tells (Squared r) (Service.refresh app r) 0 := by
  refine (checkLimit_tells _ _ _).bind fun _ => (ofBody_tells _).bind fun form => ?_
  intro o _
  cases o with
  | error e => exact ⟨debt r (.service e), by rw [debt_service, h]; rfl, rfl⟩
  | ok tokens => exact ⟨_, rfl, Tells.audit (by decide) rfl⟩

theorem raise_tells (hn : r.route.failureEvent = none) (e : ApiError) :
    Tells (Squared r) (.raise e : Service α) 0 :=
  (debt_silent hn e).symm

theorem ofExcept_tells (hn : r.route.failureEvent = none) (x : Except Auth.ServiceError α) :
    Tells (Squared r) (Service.ofExcept x) 0 := by
  cases x with
  | ok a => rfl
  | error e => exact raise_tells hn _

theorem logout_tells (hn : r.route.failureEvent = none) :
    Tells (Squared r) (Service.logout app r) 0 := by
  refine (ofBody_tells _).bind fun form => ?_
  intro o _
  cases o with
  | error e => exact ⟨0, rfl, raise_tells hn _⟩
  | ok tokens => exact ⟨_, rfl, Tells.audit (by decide) rfl⟩

theorem getCurrentUserJwtOnly_tells (hn : r.route.failureEvent = none) :
    Tells (Squared r) (Service.getCurrentUserJwtOnly r) 0 := by
  refine Tells.bind ?_ fun user => Tells.free (fun _ => rfl) rfl fun _ => rfl
  cases r.token with
  | none => exact raise_tells hn _
  | some token => exact Tells.free (fun _ => rfl) rfl fun o => ofExcept_tells hn o

theorem getCurrentUser_tells (hn : r.route.failureEvent = none) :
    Tells (Squared r) (Service.getCurrentUser app r) 0 := by
  rw [Service.getCurrentUser]
  cases r.apiKey with
  | none => exact getCurrentUserJwtOnly_tells hn
  | some apiKey =>
    intro o _
    cases o with
    | ok user =>
      refine ⟨_, rfl, fun _ _ => ⟨0, rfl, ?_⟩⟩
      exact Tells.free (fun _ => rfl) rfl fun _ => rfl
    | error e =>
      cases he : authenticationError e with
      | true =>
        refine ⟨once (some (.apiKeyAuthFailure, none)), ?_, ?_⟩
        · change 0 + once (if authenticationError e then _ else none) = _
          rw [he]
          rfl
        · change Tells _ (if authenticationError e = true then _ else _) _
          rw [if_pos he]
          exact fun _ _ => ⟨0, rfl, raise_tells hn _⟩
      | false =>
        refine ⟨0, ?_, ?_⟩
        · change 0 + once (if authenticationError e then _ else none) = _
          rw [he]
          rfl
        · change Tells _ (if authenticationError e = true then _ else _) _
          rw [if_neg (by rw [he]; exact Bool.false_ne_true)]
          exact raise_tells hn _

theorem me_tells (hn : r.route.failureEvent = none) : Tells (Squared r) (Service.me app r) 0 :=
  (getCurrentUser_tells hn).bind fun _ => rfl

theorem createApiKey_tells (hn : r.route.failureEvent = none) :
    Tells (Squared r) (Service.createApiKey app r) 0 := by
  refine (getCurrentUserJwtOnly_tells hn).bind fun user => (ofBody_tells _).bind fun form => ?_
  intro o _
  cases o with
  | error e => exact ⟨0, rfl, raise_tells hn _⟩
  | ok created => exact ⟨_, rfl, Tells.audit (by decide) rfl⟩

theorem listApiKeys_tells (hn : r.route.failureEvent = none) :
    Tells (Squared r) (Service.listApiKeys r) 0 :=
  (getCurrentUserJwtOnly_tells hn).bind fun _ => Tells.free (fun _ => rfl) rfl fun _ => rfl

theorem revokeApiKey_tells (hn : r.route.failureEvent = none) (segment : Segment) :
    Tells (Squared r) (Service.revokeApiKey app r segment) 0 := by
  refine (getCurrentUserJwtOnly_tells hn).bind fun user => ?_
  split
  · exact raise_tells hn _
  · intro o _
    cases o with
    | error e => exact ⟨0, rfl, raise_tells hn _⟩
    | ok done => exact ⟨_, rfl, Tells.audit (by decide) rfl⟩
  · exact raise_tells hn _

theorem queryAccess_tells (hn : r.route.failureEvent = none) :
    Tells (Squared r) (Service.queryAccess app r) 0 :=
  (getCurrentUser_tells hn).bind fun _ => (requireMinimum_tells _ _).bind fun _ =>
    (checkLimit_tells _ _ _).bind fun _ => rfl

theorem askQuestion_tells (hn : r.route.failureEvent = none)
    (runner : Orchestrator.PipelineRunner) (clock : Orchestrator.Clock) :
    Tells (Squared r) (Service.askQuestion app r runner clock) 0 :=
  (queryAccess_tells hn).bind fun _ => (ofBody_tells _).bind fun _ =>
    Tells.free (fun _ => rfl) rfl fun _ => Tells.free (fun _ => rfl) rfl fun _ => rfl

theorem streamQuery_tells (hn : r.route.failureEvent = none) :
    Tells (Squared r) (Service.streamQuery app r) 0 :=
  (queryAccess_tells hn).bind fun _ => (ofBody_tells _).bind fun _ =>
    Tells.free (fun _ => rfl) rfl fun _ => rfl

theorem queryStep_tells (hn : r.route.failureEvent = none)
    (outcome : Option (Except EngineFailure Json)) :
    Tells (Squared r) (Service.queryStep app r outcome) 0 := by
  refine (queryAccess_tells hn).bind fun user => ?_
  split
  · exact raise_tells hn _
  · refine Tells.free (fun _ => rfl) rfl fun _ => ?_
    split
    · rfl
    · exact raise_tells hn _

theorem metrics_tells (hn : r.route.failureEvent = none) (capturedAt : Int) :
    Tells (Squared r) (Service.metrics app r capturedAt) 0 := by
  refine (getCurrentUser_tells hn).bind fun _ => (requireMinimum_tells _ _).bind fun _ => ?_
  refine Tells.free (fun _ => rfl) rfl fun o => ?_
  cases o with
  | some snapshot => rfl
  | none => exact raise_tells hn _

theorem route_tells : Tells (Squared r) (Service.route app r) 0 := by
  cases hr : r.route <;> rw [Service.route, hr]
  case register => exact register_tells hr
  case login => exact login_tells hr
  case refresh => exact refresh_tells hr
  all_goals have hn : r.route.failureEvent = none := by rw [hr]; rfl
  case logout => exact logout_tells hn
  case me => exact me_tells hn
  case createApiKey => exact createApiKey_tells hn
  case listApiKeys => exact listApiKeys_tells hn
  case revokeApiKey segment => exact revokeApiKey_tells hn segment
  case query runner clock => exact askQuestion_tells hn runner clock
  case queryStream => exact streamQuery_tells hn
  case queryStep step outcome => exact queryStep_tells hn outcome
  case metrics capturedAt => exact metrics_tells hn capturedAt

theorem dispatch_tells : Tells (Squared r) (Service.dispatch app r) 0 := by
  rw [Service.dispatch]
  split
  · rfl
  · exact (checkLimit_tells _ _ _).bind fun _ => route_tells

theorem Tells.attempt {p : Prog ServiceInterface ε α}
    {f : Except ε α → Prog ServiceInterface ε' β} (hp : Tells P p 0)
    (hf : ∀ o c, P o c → Tells (fun _ c => c = 0) (f o) c) :
    Tells (fun _ c => c = 0) (p.attempt >>= f) 0 := by
  have ha : Tells (fun o c => ∃ o', o = .ok o' ∧ P o' c)
      (p.attempt : Prog ServiceInterface ε' (Except ε α)) 0 :=
    Prog.Accounts.attempt (Prog.Accounts.imp hp fun o c ho => ⟨o, rfl, ho⟩)
  refine Prog.Accounts.bind ha ?_ nofun
  rintro o c ⟨_, ⟨⟩, ho⟩
  exact hf o c ho

theorem handled_tells : Tells (fun _ c => c = 0) (Service.handled app r) 0 := by
  refine Tells.attempt (p := Service.dispatch app r) dispatch_tells fun o c ho => ?_
  cases o with
  | ok response => exact ho
  | error e =>
    cases ho
    exact handle_tells e

end Routes

theorem serveHttp_tells (app : Application) (r : HttpRequest) :
    Tells (fun _ c => c = 0) (serveHttp app r) 0 := by
  refine Tells.attempt (p := Service.handled app r) handled_tells fun o c hc => ?_
  cases o <;> exact hc

theorem authorize_tells (app : Application) (r : WsRequest) (user : Auth.UserRead) :
    Tells (fun _ c => c = 0) (Service.authorize app r user) 0 := by
  rw [Service.authorize]
  split
  · rfl
  · refine Tells.free (fun _ => rfl) rfl fun d => ?_
    split <;> rfl

theorem streamQueryWs_tells (app : Application) (r : WsRequest) :
    Tells (fun _ c => c = 0) (Service.streamQueryWs app r) 0 := by
  have ha : Tells (fun _ c => c = 0) (Service.authenticateAndAuthorize app r) 0 := by
    unfold Service.authenticateAndAuthorize
    cases r.credential with
    | none => rfl
    | some token =>
      refine Tells.free (fun _ => rfl) rfl fun o => ?_
      cases o with
      | error e =>
        change Tells _ (if authenticationError e = true then _ else _) _
        split <;> rfl
      | ok user => exact authorize_tells app r user
  refine Prog.Accounts.bind ha (fun o c hc => ?_) fun _ _ => id
  rw [hc]
  cases o with
  | error reply => rfl
  | ok user =>
    change Tells _ (Service.receiveQuestion r user) _
    rw [Service.receiveQuestion]
    split
    · rfl
    · split
      · rfl
      · exact Tells.free (fun _ => rfl) rfl fun _ => rfl

theorem serve_tells (app : Application) (call : ApiCall) :
    Tells (fun _ c => c = 0) (serve app call) 0 := by
  cases call with
  | http r => exact Prog.Accounts.bind (serveHttp_tells app r) (fun _ _ hc => hc) fun _ _ => id
  | ws r =>
    refine Prog.Accounts.bind (P := fun _ c => c = 0) ?_ (fun _ _ hc => hc) fun _ _ => id
    refine Tells.attempt (streamQueryWs_tells app r) fun o c hc => ?_
    cases o <;> exact hc
  | setActive userId active => exact fun _ _ => ⟨0, rfl, rfl⟩

/-- However the calls interleave, the trail says no more than what the authentication service has
answered, and once no call is in flight it says all of it. -/
theorem audit_trail {app : Application} (h : Run (ServerPool.Step app) (.started w) as p) :
    written p.shared.effects ≤ told p.shared.session.history ∧
      (p.Quiet → written p.shared.effects = told p.shared.session.history) := by
  have hb := Pool.Balanced.run (P := fun _ _ c => c = 0) trail_books (serve_tells app) h rfl
  refine ⟨?_, fun hq => (hb.quiet hq).symm⟩
  obtain ⟨m, _, he⟩ := hb
  have he' : told p.shared.session.history = written p.shared.effects + m := he
  rw [he']
  exact Multiset.le_add_right _ m

theorem audit_trail_surfaces : (written (reached .initial twoSurfaces).shared.effects ≤
      told (reached .initial twoSurfaces).shared.session.history) ∧
    ((reached .initial twoSurfaces).Quiet →
      written (reached .initial twoSurfaces).shared.effects =
        told (reached .initial twoSurfaces).shared.session.history) :=
  audit_trail twoSurfaces_run

end QueryMind.Api
