import QueryMind.Api.Service
import QueryMind.Lib.Interleaving
import QueryMind.Security.Windows

namespace QueryMind.Api
open Lib Security
set_option autoImplicit true

/-- A refusal of a bucket that fills up says how long to wait. -/
def Truthful : (op : ServiceOp) → op.Ans → Prop
  | .check q, d => 0 < q.refillPerSecond → d.allowed = false → d.retryAfterSeconds.isSome = true
  | _, _ => True

/-- Limits are checked under a scope, with the capacity and the rate of the settings. -/
def Scoped (settings : Settings) : ServiceOp → Prop
  | .check q => ∃ s who now, q = Scope.check settings.toSettings s who now
  | _ => True

def Plain (settings : Settings) : ServiceOp → Prop
  | .work .. => False
  | op => Scoped settings op

theorem Plain.scoped (h : Plain settings op) : Scoped settings op := by
  cases op with
  | work => trivial
  | _ => exact h

def Waits : Except ApiError α → Prop
  | .error (.rateLimitExceeded e) => e.retryAfterSeconds.isSome = true
  | _ => True

/-- The operations a program calls. -/
def Calls (A : ServiceOp → Prop) (p : Service α) : Prop :=
  p.Keeps (I := ServiceInterface) Truthful A Waits

theorem capacity_pos (settings : Security.Settings) (scope : Scope) :
    0 < scope.capacity settings := by
  cases scope with
  | generalIp => exact settings.general_pos
  | loginIp => exact settings.login_pos
  | loginUsername => exact settings.login_pos
  | registerIp => exact settings.register_pos
  | refreshIp => exact settings.refresh_pos
  | queryUser => exact settings.query_pos

theorem refillPerSecond_pos (settings : Security.Settings) (scope : Scope) :
    0 < scope.refillPerSecond settings := by
  refine div_pos (Nat.cast_pos.2 (capacity_pos settings scope)) (Nat.cast_pos.2 ?_)
  cases scope <;> decide

theorem raiseIfBlocked_allowed (h : d.allowed = true) : Service.raiseIfBlocked d = .ret () := by
  unfold Service.raiseIfBlocked Security.raiseIfBlocked
  rw [h]
  rfl

theorem raiseIfBlocked_denied (h : d.allowed = false) : Service.raiseIfBlocked d =
    .raise (.rateLimitExceeded
      ⟨"Too many requests. Please slow down and try again shortly.", d.retryAfterSeconds⟩) := by
  unfold Service.raiseIfBlocked Security.raiseIfBlocked
  rw [h]
  rfl

namespace Calls
variable {A : ServiceOp → Prop}

theorem bind {p : Service α} {f : α → Service β} (hp : Calls A p) (hf : ∀ a, Calls A (f a)) :
    Calls A (p >>= f) := by
  refine Prog.Keeps.bind hp (fun a _ => hf a) fun e he => ?_
  cases e <;> exact he

theorem attempt {p : Service α} {f : Except ApiError α → Service β} (hp : Calls A p)
    (hf : ∀ o, Waits o → Calls A (f o)) : Calls A (p.attempt >>= f) := by
  have ha : (p.attempt : Service (Except ApiError α)).Keeps (I := ServiceInterface) Truthful A
      (fun o => ∃ o', o = .ok o' ∧ Waits o') :=
    Prog.Keeps.attempt (Prog.Keeps.imp hp (fun _ => id) fun o ho => ⟨o, rfl, ho⟩)
  refine Prog.Keeps.bind ha ?_ nofun
  rintro o ⟨_, ⟨⟩, ho⟩
  exact hf o ho

theorem op {op : ServiceOp} {f : op.Ans → Service α} (ho : A op) (hf : ∀ r, Calls A (f r)) :
    Calls A (Api.invoke op >>= f) := ⟨ho, fun r _ => hf r⟩

theorem last {op : ServiceOp} (ho : A op) : Calls A (Api.invoke op) := ⟨ho, fun _ _ => trivial⟩

theorem check {settings : Settings} {f : RateLimitDecision → Service α} (scope : Scope)
    (who : String) (now : Rat) (hf : ∀ d, (d.allowed = false → d.retryAfterSeconds.isSome = true) →
      Calls (Plain settings) (f d)) :
    Calls (Plain settings) (Api.invoke (.check (scope.check settings.toSettings who now)) >>= f) :=
  ⟨⟨scope, who, now, rfl⟩, fun d hd => hf d (hd (refillPerSecond_pos _ scope))⟩

theorem ofExcept (x : Except Auth.ServiceError α) : Calls A (Service.ofExcept x) := by
  cases x <;> trivial

theorem raiseIfBlocked (hd : d.allowed = false → d.retryAfterSeconds.isSome = true) :
    Calls A (Service.raiseIfBlocked d) := by
  cases ha : d.allowed with
  | false =>
    rw [raiseIfBlocked_denied ha]
    exact hd ha
  | true =>
    rw [raiseIfBlocked_allowed ha]
    trivial

theorem requireMinimum (user : Auth.UserRead) (role : Auth.UserRole) :
    Calls A (Service.requireMinimum user role) := by
  rw [Service.requireMinimum]
  split <;> trivial

theorem ofBody (r : HttpRequest) (parse : Json → Option α) : Calls A (Service.ofBody r parse) := by
  rw [Service.ofBody]
  split <;> trivial

end Calls

section Plain
variable (app : Application) (r : HttpRequest)

theorem checkLimit_plain (s : Scope) (who : String) (now : Rat) :
    Calls (Plain app.settings) (Service.checkLimit app s who now) :=
  .check s who now fun _ => .raiseIfBlocked

theorem checkLoginRateLimit_plain :
    Calls (Plain app.settings) (Service.checkLoginRateLimit app r) := by
  refine .check _ _ _ fun d hd => ?_
  split
  · exact .raiseIfBlocked hd
  · refine .check _ _ _ fun d' hd' => .raiseIfBlocked fun hb => ?_
    split at hb
    · rename_i ha
      rw [if_pos ha]
      exact hd hb
    · rename_i ha
      rw [if_neg ha]
      exact hd' hb

theorem getCurrentUserJwtOnly_plain :
    Calls (Plain app.settings) (Service.getCurrentUserJwtOnly r) := by
  refine .bind ?_ fun user => .op trivial fun _ => trivial
  cases r.token with
  | none => trivial
  | some token => exact .op trivial fun _ => .ofExcept _

theorem getCurrentUser_plain : Calls (Plain app.settings) (Service.getCurrentUser app r) := by
  rw [Service.getCurrentUser]
  split
  · refine .op trivial fun o => ?_
    split
    · exact .op trivial fun _ => .op trivial fun _ => trivial
    · split
      · exact .op trivial fun _ => trivial
      · trivial
  · exact getCurrentUserJwtOnly_plain app r

theorem requireMinimum_plain (user : Auth.UserRead) (role : Auth.UserRole) :
    Calls (Plain app.settings) (Service.requireMinimum user role) := .requireMinimum user role

theorem ofBody_plain (parse : Json → Option α) :
    Calls (Plain app.settings) (Service.ofBody r parse) := .ofBody r parse

theorem queryAccess_plain : Calls (Plain app.settings) (Service.queryAccess app r) :=
  .bind (getCurrentUser_plain app r) fun _ => .bind (.requireMinimum _ _) fun _ =>
    .bind (checkLimit_plain app _ _ _) fun _ => trivial

theorem audit_plain (eventType : AuditEventType) (actor : Option Nat × Option String) :
    Calls (Plain app.settings) (Service.audit app r eventType actor) := .last trivial

theorem register_plain : Calls (Plain app.settings) (Service.register app r) :=
  .bind (checkLimit_plain app _ _ _) fun _ => .bind (.ofBody r _) fun _ =>
    .op trivial fun _ => .bind (.ofExcept _) fun _ => .bind (audit_plain app r _ _) fun _ => trivial

theorem login_plain : Calls (Plain app.settings) (Service.login app r) :=
  .bind (checkLoginRateLimit_plain app r) fun _ => .bind (.ofBody r _) fun _ =>
    .op trivial fun _ => .bind (.ofExcept _) fun _ => .op trivial fun _ =>
      .bind (.ofExcept _) fun _ => .bind (audit_plain app r _ _) fun _ => trivial

theorem refresh_plain : Calls (Plain app.settings) (Service.refresh app r) :=
  .bind (checkLimit_plain app _ _ _) fun _ => .bind (.ofBody r _) fun _ =>
    .op trivial fun _ => .bind (.ofExcept _) fun _ => .bind (audit_plain app r _ _) fun _ => trivial

theorem logout_plain : Calls (Plain app.settings) (Service.logout app r) :=
  .bind (.ofBody r _) fun _ => .op trivial fun _ => .bind (.ofExcept _) fun _ =>
    .bind (audit_plain app r _ _) fun _ => trivial

theorem createApiKey_plain : Calls (Plain app.settings) (Service.createApiKey app r) :=
  .bind (getCurrentUserJwtOnly_plain app r) fun _ => .bind (.ofBody r _) fun _ =>
    .op trivial fun _ => .bind (.ofExcept _) fun _ => .bind (audit_plain app r _ _) fun _ => trivial

theorem listApiKeys_plain : Calls (Plain app.settings) (Service.listApiKeys r) :=
  .bind (getCurrentUserJwtOnly_plain app r) fun _ => .op trivial fun _ => trivial

theorem revokeApiKey_plain (segment : Segment) :
    Calls (Plain app.settings) (Service.revokeApiKey app r segment) := by
  refine .bind (getCurrentUserJwtOnly_plain app r) fun user => ?_
  split
  · trivial
  · exact .op trivial fun _ => .bind (.ofExcept _) fun _ =>
      .bind (audit_plain app r _ _) fun _ => trivial
  · trivial

theorem metrics_plain (capturedAt : Int) :
    Calls (Plain app.settings) (Service.metrics app r capturedAt) := by
  refine .bind (getCurrentUser_plain app r) fun user => .bind (.requireMinimum _ _) fun _ =>
    .op trivial fun o => ?_
  cases o <;> trivial

theorem handleMapped_plain (exc : Streaming.Raised) (h : Waits (.error e : Except ApiError α)) :
    Calls (Plain app.settings) (Service.handleMapped app r e exc) := by
  rw [Service.handleMapped]
  split
  · cases e <;> exact h
  · refine .bind ?_ fun _ => trivial
    rw [Service.auditFailureIfRelevant]
    split
    · exact .op trivial fun _ => .op trivial fun _ => trivial
    · split
      · exact .op trivial fun _ => trivial
      · trivial

theorem handleRateLimitExceeded_plain (h : e.retryAfterSeconds.isSome = true) :
    Calls (Plain app.settings) (Service.handleRateLimitExceeded e) := by
  obtain ⟨seconds, hs⟩ := Option.isSome_iff_exists.1 h
  rw [Service.handleRateLimitExceeded, hs]
  trivial

/-- Every exception that a route raises, a handler turns into calls of the same kind. -/
theorem handle_plain (h : Waits (.error e : Except ApiError α)) :
    Calls (Plain app.settings) (Service.handle app r e) := by
  cases e with
  | service error => exact handleMapped_plain app r (raisedBy error) h
  | forbiddenRole message => exact handleMapped_plain app r ⟨"ForbiddenRoleError", message⟩ h
  | rateLimitExceeded error => exact handleRateLimitExceeded_plain app h
  | engine failure =>
    cases failure with
    | raised exc => exact handleMapped_plain app r exc h
    | pipelineExecution message cause => cases cause <;> trivial
  | _ => trivial

end Plain

/-- Work is asked for by the routes of the query family alone. -/
def Route.works : Route → Bool
  | .query _ _ | .queryStream | .queryStep _ _ => true
  | _ => false

theorem route_plain (app : Application) (r : HttpRequest) (h : r.route.works = false) :
    Calls (Plain app.settings) (Service.route app r) := by
  rw [Service.route]
  split
  · exact register_plain app r
  · exact login_plain app r
  · exact refresh_plain app r
  · exact logout_plain app r
  · exact .bind (getCurrentUser_plain app r) fun _ => trivial
  · exact createApiKey_plain app r
  · exact listApiKeys_plain app r
  · exact revokeApiKey_plain app r _
  · rename_i hr
    rw [hr] at h
    cases h
  · rename_i hr
    rw [hr] at h
    cases h
  · rename_i hr
    rw [hr] at h
    cases h
  · exact metrics_plain app r _

section Scoped
variable (app : Application) (r : HttpRequest)

theorem Calls.scoped {p : Service α} (h : Calls (Plain app.settings) p) :
    Calls (Scoped app.settings) p := Prog.Keeps.imp h (fun _ => Plain.scoped) fun _ => id

theorem askQuestion_scoped (runner : Orchestrator.PipelineRunner) (clock : Orchestrator.Clock) :
    Calls (Scoped app.settings) (Service.askQuestion app r runner clock) :=
  .bind (.scoped app (queryAccess_plain app r)) fun _ => .bind (.ofBody r _) fun _ =>
    .op trivial fun _ => .op trivial fun _ => trivial

theorem streamQuery_scoped : Calls (Scoped app.settings) (Service.streamQuery app r) :=
  .bind (.scoped app (queryAccess_plain app r)) fun _ => .bind (.ofBody r _) fun _ =>
    .op trivial fun _ => trivial

theorem queryStep_scoped (outcome : Option (Except EngineFailure Json)) :
    Calls (Scoped app.settings) (Service.queryStep app r outcome) := by
  refine .bind (.scoped app (queryAccess_plain app r)) fun _ => ?_
  split
  · trivial
  · refine .op trivial fun _ => ?_
    split <;> trivial

theorem route_scoped : Calls (Scoped app.settings) (Service.route app r) := by
  cases hr : r.route with
  | query runner clock =>
    rw [Service.route, hr]
    exact askQuestion_scoped app r runner clock
  | queryStream =>
    rw [Service.route, hr]
    exact streamQuery_scoped app r
  | queryStep step outcome =>
    rw [Service.route, hr]
    exact queryStep_scoped app r outcome
  | _ => exact .scoped app (route_plain app r (by rw [hr]; rfl))

theorem dispatch_scoped : Calls (Scoped app.settings) (Service.dispatch app r) := by
  rw [Service.dispatch]
  split
  · trivial
  · exact .bind (.scoped app (checkLimit_plain app _ _ _)) fun _ => route_scoped app r

theorem handled_scoped : Calls (Scoped app.settings) (Service.handled app r) := by
  refine .attempt (dispatch_scoped app r) fun o ho => ?_
  cases o with
  | error e => exact .scoped app (handle_plain app r ho)
  | ok response => trivial

abbrev Serves (A : ServiceOp → Prop) (p : Prog ServiceInterface Empty α) : Prop :=
  p.Keeps (I := ServiceInterface) Truthful A (fun _ => True)

theorem Serves.attempt {A : ServiceOp → Prop} {p : Service α}
    {f : Except ApiError α → Prog ServiceInterface Empty β} (hp : Calls A p)
    (hf : ∀ o, Serves A (f o)) : Serves A (p.attempt >>= f) :=
  Prog.Keeps.bind (P := fun _ => True)
    (Prog.Keeps.attempt (Prog.Keeps.imp hp (fun _ => id) fun _ _ => trivial))
    (fun o _ => hf o) fun _ _ => trivial

theorem serveHttp_scoped : Serves (Scoped app.settings) (serveHttp app r) := by
  refine .attempt (handled_scoped app r) fun o => ?_
  cases o <;> trivial

theorem authorize_plain (r : WsRequest) (user : Auth.UserRead) :
    Calls (Plain app.settings) (Service.authorize app r user) := by
  rw [Service.authorize]
  split
  · trivial
  · refine .check _ _ _ fun d _ => ?_
    split <;> trivial

theorem authenticateAndAuthorize_plain (r : WsRequest) :
    Calls (Plain app.settings) (Service.authenticateAndAuthorize app r) := by
  unfold Service.authenticateAndAuthorize
  cases r.credential with
  | none => trivial
  | some token =>
    refine .op trivial fun o => ?_
    cases o with
    | error e =>
      simp only
      split <;> trivial
    | ok user => exact authorize_plain app r user

theorem receiveQuestion_scoped (r : WsRequest) (user : Auth.UserRead) :
    Calls (Scoped app.settings) (Service.receiveQuestion r user) := by
  rw [Service.receiveQuestion]
  split
  · trivial
  · split
    · trivial
    · exact .op trivial fun _ => trivial

theorem streamQueryWs_scoped (r : WsRequest) :
    Calls (Scoped app.settings) (Service.streamQueryWs app r) := by
  refine .bind (.scoped app (authenticateAndAuthorize_plain app r)) fun o => ?_
  cases o with
  | error reply => trivial
  | ok user => exact receiveQuestion_scoped app r user

theorem serveWs_scoped (r : WsRequest) : Serves (Scoped app.settings) (serveWs app r) := by
  refine .attempt (streamQueryWs_scoped app r) fun o => ?_
  cases o <;> trivial

theorem serve_scoped (c : ApiCall) : Serves (Scoped app.settings) (serve app c) := by
  cases c with
  | http r => exact .bind (serveHttp_scoped app r) (fun _ _ => trivial) fun _ _ => trivial
  | ws r => exact .bind (serveWs_scoped app r) (fun _ _ => trivial) fun _ _ => trivial
  | setActive userId active => exact ⟨trivial, fun _ _ => trivial⟩

end Scoped

section Effects

/-- What an operation adds to the effects. -/
def effectsOf (settings : Settings) : (op : ServiceOp) → op.Ans → List Effect
  | .check q, d => if settings.rateLimitEnabled then [.checked q d.allowed] else []
  | .record r, _ => [.audited r]
  | .work u path reading, _ => [.worked u path reading]
  | .observe response, _ => [.answered response]
  | _, _ => []

theorem operate_effects (app : Application) (op : ServiceOp) (s : Server) :
    (operate app op s).2.effects =
      s.effects ++ effectsOf app.settings op (operate app op s).1 := by
  cases op with
  | check q =>
    rw [operate, effectsOf]
    split
    · rfl
    · exact (List.append_nil _).symm
  | record | work | observe => rfl
  | _ => exact (List.append_nil _).symm

theorem operate_truthful (app : Application) (op : ServiceOp) (s : Server) :
    Truthful op (operate app op s).1 := by
  cases op with
  | check q =>
    intro hq hd
    rw [operate] at hd ⊢
    split at hd
    · rename_i he
      rw [if_pos he]
      rw [(check_denied hd).2, if_pos hq]
      rfl
    · cases hd
  | _ => trivial

def decided (es : List Effect) : List (RateLimitCheck × Bool) :=
  es.filterMap fun
    | .checked q allowed => some (q, allowed)
    | _ => none

def checked (es : List Effect) : List RateLimitCheck := (decided es).map (·.1)

theorem decided_append (xs ys : List Effect) : decided (xs ++ ys) = decided xs ++ decided ys :=
  List.filterMap_append

/-- The limiter is where the checks have brought it, and what they were told is what it tells. -/
structure Metered (settings : Settings) (s : Server) : Prop where
  limiter : s.limiter = InMemoryTokenBucketRateLimiter.initial.after (checked s.effects)
  decisions : decided s.effects =
    InMemoryTokenBucketRateLimiter.initial.decisions (checked s.effects)
  underScope : ∀ q ∈ checked s.effects, ∃ s who now, q = Scope.check settings.toSettings s who now

theorem Metered.operate {app : Application} {s : Server} (h : Metered app.settings s)
    (hop : Scoped app.settings op) : Metered app.settings (operate app op s).2 := by
  have hquiet : (Api.operate app op s).2.limiter = s.limiter →
      decided (effectsOf app.settings op (Api.operate app op s).1) = [] →
      Metered app.settings (Api.operate app op s).2 := by
    intro hl he
    have hd : decided (Api.operate app op s).2.effects = decided s.effects := by
      rw [operate_effects, decided_append, he, List.append_nil]
    have hc : checked (Api.operate app op s).2.effects = checked s.effects := by
      rw [checked, hd, checked]
    exact ⟨by rw [hl, hc]; exact h.limiter, by rw [hd, hc]; exact h.decisions,
      by rw [hc]; exact h.underScope⟩
  cases op with
  | check q =>
    by_cases he : app.settings.rateLimitEnabled = true
    · have ho : Api.operate app (.check q) s = ((s.limiter.check q).1,
          { s.emit (.checked q (s.limiter.check q).1.allowed) with
            limiter := (s.limiter.check q).2 }) := if_pos he
      have hd : decided (Api.operate app (.check q) s).2.effects =
          decided s.effects ++ [(q, (s.limiter.check q).1.allowed)] := by
        rw [ho]
        exact decided_append s.effects _
      have hc : checked (Api.operate app (.check q) s).2.effects = checked s.effects ++ [q] := by
        rw [checked, hd, List.map_append]
        rfl
      refine ⟨?_, ?_, ?_⟩
      · rw [hc, after_append, ← h.limiter, ho]
        rfl
      · rw [hd, hc, decisions_append, ← h.limiter, ← h.decisions]
        rfl
      · rw [hc]
        intro q' hq'
        rcases List.mem_append.1 hq' with hq' | hq'
        · exact h.underScope q' hq'
        · rw [List.mem_singleton.1 hq']
          exact hop
    · have ho : Api.operate app (.check q) s = ({ allowed := true }, s) := if_neg he
      rw [ho]
      exact h
  | _ => exact hquiet rfl rfl

theorem Metered.run {app : Application} (h : Run (ServerPool.Step app) (.started w) as p) :
    Metered app.settings p.shared :=
  Pool.keeps_run (J := Metered app.settings) (operate_truthful app)
    (fun _ _ hs hop => hs.operate hop) (serve_scoped app) h ⟨rfl, rfl, nofun⟩

end Effects

end QueryMind.Api
