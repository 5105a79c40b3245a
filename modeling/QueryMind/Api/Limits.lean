import QueryMind.Api.Calls

namespace QueryMind.Api
open Lib Security InMemoryTokenBucketRateLimiter
set_option autoImplicit true

/-- What a check brings that lets a call through under a key within a while. -/
def admission (key : String) (t₀ t : Rat) : (op : ServiceOp) → op.Ans → Nat
  | .check q, d => if admittedWithin key t₀ t (q, d.allowed) then 1 else 0
  | _, _ => 0

def admissions (key : String) (t₀ t : Rat) (s : Server) : Nat :=
  (decided s.effects).countP (admittedWithin key t₀ t)

/-- Work for a user that was let through within a while. -/
def worksFor (userId : Nat) (t₀ t : Rat) : Effect → Bool
  | .worked user _ reading => user.id = userId && decide (Within t₀ t reading)
  | _ => false

def due (userId : Nat) (t₀ t : Rat) (user : Auth.UserRead) (reading : Rat) : Nat :=
  if worksFor userId t₀ t (.worked user "" reading) then 1 else 0

def charge (userId : Nat) (t₀ t : Rat) : ServiceOp → Nat
  | .work user _ reading => due userId t₀ t user reading
  | _ => 0

section Books
variable {app : Application}

theorem operate_decided (app : Application) (op : ServiceOp) (s : Server) :
    decided (operate app op s).2.effects =
      decided s.effects ++ decided (effectsOf app.settings op (operate app op s).1) := by
  rw [operate_effects, decided_append]

theorem admissions_operate (he : app.settings.rateLimitEnabled = true) (op : ServiceOp)
    (s : Server) : admissions key t₀ t (operate app op s).2 =
      admissions key t₀ t s + admission key t₀ t op (operate app op s).1 := by
  rw [admissions, operate_decided, List.countP_append]
  refine congrArg (admissions key t₀ t s + ·) ?_
  cases op with
  | check q =>
    rw [effectsOf, if_pos he, admission]
    exact List.countP_singleton
  | _ => rfl

theorem charge_operate (op : ServiceOp) (s : Server) :
    (operate app op s).2.effects.countP (worksFor userId t₀ t) =
      s.effects.countP (worksFor userId t₀ t) + charge userId t₀ t op := by
  rw [operate_effects, List.countP_append]
  refine congrArg (s.effects.countP (worksFor userId t₀ t) + ·) ?_
  cases op with
  | check q =>
    rw [effectsOf]
    split <;> rfl
  | work user path reading => exact List.countP_singleton
  | _ => rfl

theorem query_books (he : app.settings.rateLimitEnabled = true) (userId : Nat) (t₀ t : Rat) :
    Books (I := ServiceInterface) (operate app) Truthful
      (admission (Scope.queryUser.key userId.repr) t₀ t) (charge userId t₀ t)
      (admissions (Scope.queryUser.key userId.repr) t₀ t)
      (fun s => s.effects.countP (worksFor userId t₀ t)) :=
  ⟨operate_truthful app, admissions_operate he, charge_operate⟩

theorem peer_books (he : app.settings.rateLimitEnabled = true) (key : String) (t₀ t : Rat) :
    Books (I := ServiceInterface) (operate app) Truthful (admission key t₀ t) (fun _ => 0)
      (admissions key t₀ t) (fun _ => 0) :=
  ⟨operate_truthful app, admissions_operate he, fun _ _ => rfl⟩

theorem Metered.window {s : Server} (h : Metered app.settings s) (scope : Scope) (who : String)
    (t₀ : Rat) (ht : 0 ≤ t)
    (hm : (readings (scope.key who) (checked s.effects)).Pairwise (· ≤ ·)) :
    (admissions (scope.key who) t₀ t s : Rat) ≤ scope.capacity app.settings.toSettings +
      scope.refillPerSecond app.settings.toSettings * t := by
  have hpos : 0 < scope.capacity app.settings.toSettings :=
    capacity_pos app.settings.toSettings scope
  have hu : Uniform (scope.key who) (scope.capacity app.settings.toSettings : Int)
      (scope.refillPerSecond app.settings.toSettings) (checked s.effects) := by
    intro q hq hk
    obtain ⟨scope', who', now, rfl⟩ := h.underScope q hq
    obtain ⟨rfl, rfl⟩ := Scope.label_key hk
    exact ⟨rfl, rfl⟩
  rw [admissions, h.decisions]
  exact_mod_cast window_allowed (by exact_mod_cast hpos)
    (refillPerSecond_pos app.settings.toSettings scope) ht hu hm

end Books

/-- What a call brings in under a key and pays out at a cost, up to a balance that `P` allows. -/
abbrev Funded (key : String) (t₀ t : Rat) (cost : ServiceOp → Nat) (P : Except ε α → Nat → Prop)
    (p : Prog ServiceInterface ε α) (c : Nat) : Prop :=
  p.Accounts (I := ServiceInterface) Truthful (admission key t₀ t) cost P c

section Funding
variable {app : Application} {key : String} {t₀ t : Rat} {cost : ServiceOp → Nat}

theorem Calls.funded {A : ServiceOp → Prop} {p : Service α} (h : Calls A p)
    (hc : ∀ op, A op → cost op = 0) (c : Nat) :
    Funded key t₀ t cost (fun o c' => Waits o ∧ c ≤ c') p c := by
  refine (Prog.Keeps.accounts (Prog.Keeps.imp h hc fun _ => id) c).imp ?_
  rintro o _ ⟨ho, d, rfl⟩
  exact ⟨ho, Nat.le_add_right c d⟩

theorem Funded.attempt {A : ServiceOp → Prop} {p : Service α}
    {f : Except ApiError α → Prog ServiceInterface ε β} (h : Funded key t₀ t cost P p c)
    (hk : Calls A p) (hf : ∀ o c, P o c → Waits o → Funded key t₀ t cost Q (f o) c) :
    Funded key t₀ t cost Q (p.attempt >>= f) c := by
  have ha : Funded key t₀ t cost (fun o c => ∃ o', o = .ok o' ∧ P o' c ∧ Waits o')
      (p.attempt : Prog ServiceInterface ε (Except ApiError α)) c :=
    Prog.Accounts.attempt ((h.keeps hk).imp fun o c hc => ⟨o, rfl, hc.1, hc.2⟩)
  refine ha.bind ?_ nofun
  rintro o c ⟨_, ⟨⟩, hP, hw⟩
  exact hf o c hP hw

theorem admission_check {settings : Security.Settings} (ha : RateLimitDecision.allowed d = true)
    (hw : Within t₀ t now) :
    admission (Scope.key scope who) t₀ t (.check (scope.check settings who now)) d = 1 := by
  have hd : admittedWithin (scope.key who) t₀ t (scope.check settings who now, d.allowed) =
      true := by
    simp only [admittedWithin, Scope.check, hw, ha, decide_true, Bool.and_self]
  rw [admission, if_pos hd]

end Funding

section Metering
variable {app : Application} {userId : Nat} {t₀ t : Rat}

theorem plain_charge : ∀ op, Plain settings op → charge userId t₀ t op = 0 := by
  intro op hop
  cases op with
  | work => cases hop
  | _ => rfl

theorem due_other (h : user.id ≠ userId) : due userId t₀ t user reading = 0 := by
  rw [due, worksFor, decide_eq_false h]
  rfl

theorem due_self (h : Within t₀ t reading → 1 ≤ c) : due userId t₀ t user reading ≤ c := by
  rw [due]
  split
  · rename_i hw
    rw [worksFor, Bool.and_eq_true] at hw
    exact h (of_decide_eq_true hw.2)
  · exact Nat.zero_le c

/-- Calls that pay for the work they ask for on behalf of a user. -/
abbrev Pays (userId : Nat) (t₀ t : Rat) (P : Except ε α → Nat → Prop)
    (p : Prog ServiceInterface ε α) (c : Nat) : Prop :=
  Funded (Scope.queryUser.key userId.repr) t₀ t (charge userId t₀ t) P p c

theorem Calls.pays {p : Service α} (h : Calls (Plain app.settings) p) (c : Nat) :
    Pays userId t₀ t (fun _ _ => True) p c :=
  (h.funded plain_charge c).imp fun _ _ _ => trivial

theorem Pays.after {p : Service α} {f : α → Service β} (h : Calls (Plain app.settings) p)
    (hf : ∀ a c', c ≤ c' → Pays userId t₀ t (fun _ _ => True) (f a) c') :
    Pays userId t₀ t (fun _ _ => True) (p >>= f) c :=
  (h.funded plain_charge c).bind (fun a c' hc => hf a c' hc.2) fun _ _ _ => trivial

theorem Pays.work {f : Unit → Service α} (hd : due userId t₀ t user reading ≤ c)
    (hf : ∀ c', Pays userId t₀ t (fun _ _ => True) (f ()) c') :
    Pays userId t₀ t (fun _ _ => True) (invoke (.work user path reading) >>= f) c :=
  fun _ _ => ⟨c - due userId t₀ t user reading, (Nat.add_sub_cancel' hd).symm, hf _⟩

theorem Pays.check {f : RateLimitDecision → Service α} (user : Auth.UserRead) (now : Rat)
    (hf : ∀ d c', (d.allowed = true → due userId t₀ t user now ≤ c') →
      Pays userId t₀ t P (f d) c') (c : Nat) :
    Pays userId t₀ t P
      (invoke (.check (Scope.queryUser.check app.settings.toSettings user.id.repr now)) >>= f)
      c := by
  intro d _
  refine ⟨c + admission (Scope.queryUser.key userId.repr) t₀ t
    (.check (Scope.queryUser.check app.settings.toSettings user.id.repr now)) d,
    (Nat.zero_add _).symm, hf d _ fun ha => ?_⟩
  by_cases h : user.id = userId
  · subst h
    refine due_self fun hw => ?_
    rw [admission_check ha hw]
    exact Nat.le_add_left 1 c
  · rw [due_other h]
    exact Nat.zero_le _

theorem checkQueryRateLimit_pays (user : Auth.UserRead) (now : Rat) (c : Nat) :
    Pays userId t₀ t (fun o c => o = .ok () → due userId t₀ t user now ≤ c)
      (Service.checkQueryRateLimit app user now) c := by
  refine Pays.check user now (fun d c' hd => ?_) c
  cases ha : d.allowed with
  | false =>
    rw [raiseIfBlocked_denied ha]
    exact nofun
  | true =>
    rw [raiseIfBlocked_allowed ha]
    exact fun _ => hd ha

section Routes
variable (r : HttpRequest)

theorem queryAccess_pays (c : Nat) : Pays userId t₀ t
    (fun o c => ∀ user, o = .ok user → due userId t₀ t user r.routeNow ≤ c)
    (Service.queryAccess app r) c := by
  refine (Calls.pays (getCurrentUser_plain app r) c).bind (fun user c _ => ?_) nofun
  refine (Calls.pays (requireMinimum_plain app user .analyst) c).bind (fun _ c _ => ?_) nofun
  refine (checkQueryRateLimit_pays user r.routeNow c).bind (fun _ c hc => ?_) nofun
  rintro _ ⟨⟩
  exact hc rfl

theorem askQuestion_pays (runner : Orchestrator.PipelineRunner) (clock : Orchestrator.Clock)
    (c : Nat) : Pays userId t₀ t (fun _ _ => True) (Service.askQuestion app r runner clock) c := by
  refine (queryAccess_pays r c).bind (fun user c hc => ?_) fun _ _ _ => trivial
  refine Pays.after (ofBody_plain app r _) fun _ c' hle =>
    .work ((hc user rfl).trans hle) fun c => ?_
  exact fun _ _ => ⟨c, (Nat.zero_add c).symm, trivial⟩

theorem streamQuery_pays (c : Nat) :
    Pays userId t₀ t (fun _ _ => True) (Service.streamQuery app r) c := by
  refine (queryAccess_pays r c).bind (fun user c hc => ?_) fun _ _ _ => trivial
  exact Pays.after (ofBody_plain app r _) fun _ c' hle =>
    .work ((hc user rfl).trans hle) fun _ => trivial

theorem queryStep_pays (outcome : Option (Except EngineFailure Json)) (c : Nat) :
    Pays userId t₀ t (fun _ _ => True) (Service.queryStep app r outcome) c := by
  refine (queryAccess_pays r c).bind (fun user c hc => ?_) fun _ _ _ => trivial
  cases outcome with
  | none => trivial
  | some outcome =>
    refine Pays.work (hc user rfl) fun c => ?_
    cases outcome <;> trivial

theorem route_pays (c : Nat) : Pays userId t₀ t (fun _ _ => True) (Service.route app r) c := by
  cases hr : r.route with
  | query runner clock =>
    rw [Service.route, hr]
    exact askQuestion_pays r runner clock c
  | queryStream =>
    rw [Service.route, hr]
    exact streamQuery_pays r c
  | queryStep step outcome =>
    rw [Service.route, hr]
    exact queryStep_pays r outcome c
  | _ => exact Calls.pays (route_plain app r (by rw [hr]; rfl)) c

theorem dispatch_pays (c : Nat) :
    Pays userId t₀ t (fun _ _ => True) (Service.dispatch app r) c := by
  rw [Service.dispatch]
  split
  · trivial
  · exact Pays.after (checkLimit_plain app _ _ _) fun _ c _ => route_pays r c

theorem serveHttp_pays (c : Nat) : Pays userId t₀ t (fun _ _ => True) (serveHttp app r) c := by
  have hh : Pays userId t₀ t (fun _ _ => True) (Service.handled app r) c := by
    refine Funded.attempt (dispatch_pays r c) (dispatch_scoped app r) fun o c _ ho => ?_
    cases o with
    | ok response => trivial
    | error e => exact Calls.pays (handle_plain app r ho) c
  refine Funded.attempt hh (handled_scoped app r) fun o c _ _ => ?_
  cases o <;> trivial

end Routes

section Connections
variable (r : WsRequest)

theorem authorize_pays (user : Auth.UserRead) (c : Nat) :
    Pays userId t₀ t (fun o c => ∀ user, o = .ok (.ok user) → due userId t₀ t user r.queryNow ≤ c)
      (Service.authorize app r user) c := by
  rw [Service.authorize]
  split
  · rintro _ ⟨⟩
  · refine Pays.check user r.queryNow (fun d c' hd => ?_) c
    split
    · rename_i ha
      rintro _ ⟨⟩
      exact hd ha
    · rintro _ ⟨⟩

theorem authenticateAndAuthorize_pays (c : Nat) :
    Pays userId t₀ t (fun o c => ∀ user, o = .ok (.ok user) → due userId t₀ t user r.queryNow ≤ c)
      (Service.authenticateAndAuthorize app r) c := by
  unfold Service.authenticateAndAuthorize
  cases r.credential with
  | none => exact nofun
  | some token =>
    intro o _
    refine ⟨c, (Nat.zero_add c).symm, ?_⟩
    cases o with
    | error e =>
      change Pays _ _ _ _ (if authenticationError e = true then _ else _) _
      split <;> exact nofun
    | ok user => exact authorize_pays r user c

theorem receiveQuestion_pays (h : due userId t₀ t user r.queryNow ≤ c) :
    Pays userId t₀ t (fun _ _ => True) (Service.receiveQuestion r user) c := by
  rw [Service.receiveQuestion]
  split
  · trivial
  · split
    · trivial
    · exact Pays.work h fun _ => trivial

theorem serveWs_pays (c : Nat) : Pays userId t₀ t (fun _ _ => True) (serveWs app r) c := by
  have hs : Pays userId t₀ t (fun _ _ => True) (Service.streamQueryWs app r) c := by
    refine (authenticateAndAuthorize_pays r c).bind (fun o c hc => ?_) fun _ _ _ => trivial
    cases o with
    | error reply => trivial
    | ok user => exact receiveQuestion_pays r (hc user rfl)
  refine Funded.attempt hs (streamQueryWs_scoped app r) fun o c _ _ => ?_
  cases o <;> trivial

end Connections

theorem serve_pays (call : ApiCall) : Pays userId t₀ t (fun _ _ => True) (serve app call) 0 := by
  cases call with
  | http r => exact (serveHttp_pays r 0).bind (fun _ _ _ => trivial) fun _ _ _ => trivial
  | ws r => exact (serveWs_pays r 0).bind (fun _ _ _ => trivial) fun _ _ _ => trivial
  | setActive uid active => exact fun _ _ => ⟨0, rfl, trivial⟩

end Metering

/-- However the calls interleave, the work done for a user on any of the surfaces that was let
through within a while fits the one bucket of that user. -/
theorem query_work_metered {app : Application} (he : app.settings.rateLimitEnabled = true)
    (h : Run (ServerPool.Step app) (.started w) as p) (userId : Nat) (ht : 0 ≤ t)
    (hm : (readings (Scope.queryUser.key userId.repr) (checked p.shared.effects)).Pairwise
      (· ≤ ·)) :
    (p.shared.effects.countP (worksFor userId t₀ t) : Rat) ≤
      app.settings.rateLimitQueryPerMinute + app.settings.rateLimitQueryPerMinute / 60 * t := by
  obtain ⟨m, _, hb⟩ := Pool.Balanced.run (P := fun _ _ _ => True) (query_books he userId t₀ t)
    serve_pays h rfl
  have hw := (Metered.run h).window .queryUser userId.repr t₀ ht hm
  rw [hb] at hw
  refine le_trans ?_ hw
  exact_mod_cast Nat.le_add_right _ m

def Application.readable : Application where
  settings :=
    { rateLimitGeneralPerMinute := 211, rateLimitLoginPerMinute := 11
      rateLimitRegisterPerHour := 13, rateLimitRefreshPerMinute := 23
      rateLimitQueryPerMinute := 31 }
  env := .readable
  emailStr := some
  parseDatetime := fun _ => none
  parseInt := Text.toInt?
  usage := fun _ => ⟨0, 0⟩
  auditInsert := fun _ _ => true

def post (route : Route) (scope : Nat) (now : Rat) (token : Option String)
    (members : List (String × Json)) : HttpRequest where
  route := route
  scope := scope
  host := some "192.0.2.1"
  headers := {}
  freshId := scope.repr
  token := token
  apiKey := none
  contentTypeJson := true
  body := .json (.obj members)
  generalNow := now
  routeNow := now
  usernameNow := now

def aliceRegisters : HttpRequest := post .register 0 0 none
  [("username", .str "alice"), ("email", .str "alice@example.com"), ("password", .str "wonderland")]

def aliceLogsIn : HttpRequest := post .login 1 1 none
  [("username", .str "alice"), ("password", .str "wonderland")]

def aliceAsks : HttpRequest := post .queryStream 2 2 Auth.alicePair.accessToken
  [("question", .str "How many orders?")]

def aliceConnects : WsRequest where
  authorization := none
  token := Auth.alicePair.accessToken
  message := .text (some (.obj [("question", .str "How many orders?")]))
  queryNow := 2

def takes (i n : Nat) : List (Pool.Action ApiCall) := List.replicate n (.step i)

/-- After a registration and a login, two questions at once, on two surfaces. -/
def twoSurfaces : List (Pool.Action ApiCall) :=
  [.start (.http aliceRegisters)] ++ takes 0 4 ++ [.start (.http aliceLogsIn)] ++ takes 1 6 ++
    [.start (.http aliceAsks), .start (.ws aliceConnects)] ++ takes 3 2 ++ takes 2 5 ++ takes 3 1

def play (w : Auth.World) (actions : List (Pool.Action ApiCall)) : Option ServerPool :=
  runList (Pool.next (operate .readable) (serve .readable)) (.started w) actions

def reached (w : Auth.World) (actions : List (Pool.Action ApiCall)) : ServerPool :=
  (play w actions).getD (.started w)

theorem reached_run (h : (play w actions).isSome = true) :
    Run (ServerPool.Step .readable) (.started w) actions (reached w actions) := by
  obtain ⟨p, hp⟩ := Option.isSome_iff_exists.1 h
  rw [reached, hp]
  exact runList_run hp

theorem twoSurfaces_run :
    Run (ServerPool.Step .readable) (.started .initial) twoSurfaces
      (reached .initial twoSurfaces) :=
  reached_run (by decide +kernel)

theorem query_work_metered_alice :
    ((reached .initial twoSurfaces).shared.effects.countP (worksFor 1 2 60) : Rat) ≤
      Application.readable.settings.rateLimitQueryPerMinute +
        Application.readable.settings.rateLimitQueryPerMinute / 60 * 60 :=
  query_work_metered rfl twoSurfaces_run 1 (by norm_num) (by decide +kernel)

example : (reached .initial twoSurfaces).shared.effects.countP (worksFor 1 2 60) = 2 := by
  decide +kernel

namespace HttpRequest

/-- The requests that a scope counts by their address. -/
def covered (r : HttpRequest) : Scope → Bool
  | .generalIp => true
  | .loginIp => (r.route matches .login)
  | .registerIp => (r.route matches .register)
  | .refreshIp => (r.route matches .refresh)
  | .loginUsername | .queryUser => false

def reading (r : HttpRequest) : Scope → Rat
  | .generalIp => r.generalNow
  | _ => r.routeNow

def refused (r : HttpRequest) : Bool :=
  r.route.hasBody && r.contentTypeJson && (r.body matches .undecodable)

/-- A request of a peer that a scope counts, within a while. -/
structure Counted (r : HttpRequest) (app : Application) (scope : Scope) (who : String)
    (t₀ t : Rat) : Prop where
  covered : r.covered scope = true
  peer : showIp (r.clientIp app) = who
  readable : r.refused = false
  within : Within t₀ t (r.reading scope)

instance (r : HttpRequest) (app : Application) (scope : Scope) (who : String) (t₀ t : Rat) :
    Decidable (r.Counted app scope who t₀ t) :=
  decidable_of_iff (r.covered scope = true ∧ showIp (r.clientIp app) = who ∧ r.refused = false ∧
    Within t₀ t (r.reading scope)) ⟨fun ⟨h₁, h₂, h₃, h₄⟩ => ⟨h₁, h₂, h₃, h₄⟩,
      fun h => ⟨h.covered, h.peer, h.readable, h.within⟩⟩

end HttpRequest

/-- A counted request that was answered with anything but a refusal of the limiter. -/
def passed (app : Application) (scope : Scope) (who : String) (t₀ t : Rat) : ApiCall → Reply → Bool
  | .http r, .http response =>
    decide (r.Counted app scope who t₀ t) && response.statusCode ≠ 429
  | _, _ => false

section Ceiling
variable {app : Application} {r : HttpRequest} {scope : Scope} {who key : String} {t₀ t : Rat}

/-- Programs that pay for nothing, so that what they bring in under a key stays. -/
abbrev Gathers (key : String) (t₀ t : Rat) (P : Except ε α → Nat → Prop)
    (p : Prog ServiceInterface ε α) (c : Nat) : Prop := Funded key t₀ t (fun _ => 0) P p c

def LetThrough : Except ApiError α → Nat → Prop
  | .error (.rateLimitExceeded _), _ => True
  | _, c => 1 ≤ c

theorem LetThrough.of_le (h : 1 ≤ c) (o : Except ApiError α) : LetThrough o c := by
  unfold LetThrough
  split
  · trivial
  · exact h

theorem Gathers.rest {A : ServiceOp → Prop} {p : Service α} (h : Calls A p) (hc : 1 ≤ c) :
    Gathers key t₀ t LetThrough p c :=
  (h.funded (fun _ _ => rfl) c).imp fun o _ ho => .of_le (hc.trans ho.2) o

theorem Gathers.check {A : ServiceOp → Prop} {f : RateLimitDecision → Service α} {now : Rat}
    (hw : Within t₀ t now)
    (h : Calls A (invoke (.check (scope.check app.settings.toSettings who now)) >>= f))
    (hb : ∀ d c, d.allowed = false → Gathers (scope.key who) t₀ t LetThrough (f d) c) (c : Nat) :
    Gathers (scope.key who) t₀ t LetThrough
      (invoke (.check (scope.check app.settings.toSettings who now)) >>= f) c := by
  intro d hd
  refine ⟨c + admission (scope.key who) t₀ t
    (.check (scope.check app.settings.toSettings who now)) d, (Nat.zero_add _).symm, ?_⟩
  cases ha : d.allowed with
  | false => exact hb d _ ha
  | true =>
    refine Gathers.rest (A := A) (h.2 d hd) ?_
    rw [admission_check ha hw]
    exact Nat.le_add_left 1 c

theorem Gathers.limit {A : ServiceOp → Prop} {f : Unit → Service α} {now : Rat}
    (hw : Within t₀ t now) (h : Calls A (Service.checkLimit app scope who now >>= f)) (c : Nat) :
    Gathers (scope.key who) t₀ t LetThrough (Service.checkLimit app scope who now >>= f) c := by
  refine Gathers.check (f := fun d => Service.raiseIfBlocked d >>= f) hw h (fun d c ha => ?_) c
  rw [raiseIfBlocked_denied ha]
  trivial

theorem Gathers.after {f : Unit → Service α} {scope' : Scope} {who' : String} {now : Rat}
    (hf : ∀ c, Gathers key t₀ t LetThrough (f ()) c) (c : Nat) :
    Gathers key t₀ t LetThrough (Service.checkLimit app scope' who' now >>= f) c := by
  intro d _
  refine ⟨c + admission key t₀ t (.check (scope'.check app.settings.toSettings who' now)) d,
    (Nat.zero_add _).symm, ?_⟩
  change Gathers key t₀ t LetThrough (Service.raiseIfBlocked d >>= f) _
  cases ha : d.allowed with
  | false =>
    rw [raiseIfBlocked_denied ha]
    trivial
  | true =>
    rw [raiseIfBlocked_allowed ha]
    exact hf _

theorem dispatch_readable (h : r.refused = false) : Service.dispatch app r =
    Service.checkGeneralRateLimit app r >>= fun _ => Service.route app r := by
  rw [Service.dispatch]
  split
  · rename_i hb hu
    rw [HttpRequest.refused, hb, hu] at h
    cases h
  · rfl

theorem login_gathers (hw : Within t₀ t r.routeNow) (c : Nat) :
    Gathers (Scope.loginIp.key (showIp (r.clientIp app))) t₀ t LetThrough (Service.login app r)
      c := by
  refine Gathers.check hw (login_plain app r) (fun d c ha => ?_) c
  beta_reduce
  split
  · change Gathers _ t₀ t LetThrough (Service.raiseIfBlocked d >>= _) c
    rw [raiseIfBlocked_denied ha]
    trivial
  · intro d' _
    refine ⟨_, (Nat.zero_add _).symm, ?_⟩
    change Gathers _ t₀ t LetThrough
      (Service.raiseIfBlocked (if !d.allowed then d else d') >>= _) _
    rw [if_pos (by rw [ha]; rfl), raiseIfBlocked_denied ha]
    trivial

theorem dispatch_gathers (h : r.Counted app scope who t₀ t) :
    Gathers (scope.key who) t₀ t LetThrough (Service.dispatch app r) 0 := by
  obtain ⟨hc, rfl, hr, hw⟩ := h
  have hs := dispatch_scoped app r
  rw [dispatch_readable hr] at hs ⊢
  cases scope with
  | generalIp => exact .limit hw hs 0
  | loginUsername | queryUser => cases hc
  | loginIp =>
    refine .after (fun c => ?_) 0
    cases hroute : r.route <;> rw [HttpRequest.covered, hroute] at hc <;> try cases hc
    rw [Service.route, hroute]
    exact login_gathers hw c
  | registerIp =>
    refine .after (fun c => ?_) 0
    cases hroute : r.route <;> rw [HttpRequest.covered, hroute] at hc <;> try cases hc
    rw [Service.route, hroute]
    exact .limit hw (register_plain app r) c
  | refreshIp =>
    refine .after (fun c => ?_) 0
    cases hroute : r.route <;> rw [HttpRequest.covered, hroute] at hc <;> try cases hc
    rw [Service.route, hroute]
    exact .limit hw (refresh_plain app r) c

theorem handled_gathers (h : r.Counted app scope who t₀ t) :
    Gathers (scope.key who) t₀ t (fun o c => (∀ response, o = .ok response →
      response.statusCode ≠ 429 → 1 ≤ c) ∧ ∀ e, o = .error e → 1 ≤ c)
      (Service.handled app r) 0 := by
  refine Funded.attempt (dispatch_gathers h) (dispatch_scoped app r) fun o c ho hw => ?_
  cases o with
  | ok response => exact ⟨fun _ _ _ => ho, fun _ _ => ho⟩
  | error e =>
    have hlet (hc : 1 ≤ c) : Gathers (scope.key who) t₀ t (fun o c => (∀ response,
        o = .ok response → response.statusCode ≠ 429 → 1 ≤ c) ∧ ∀ e, o = .error e → 1 ≤ c)
        (Service.handle app r e) c :=
      (Calls.funded (handle_plain app r hw) (fun _ _ => rfl) c).imp
        fun _ _ hr => ⟨fun _ _ _ => hc.trans hr.2, fun _ _ => hc.trans hr.2⟩
    cases e with
    | rateLimitExceeded error =>
      obtain ⟨seconds, hs⟩ := Option.isSome_iff_exists.1 hw
      change Gathers _ _ _ _ (Service.handleRateLimitExceeded error) c
      rw [Service.handleRateLimitExceeded, hs]
      refine ⟨?_, ?_⟩
      · rintro _ ⟨⟩ hne
        exact absurd rfl hne
      · rintro _ ⟨⟩
    | _ => exact hlet ho

theorem serve_gathers (call : ApiCall) : Gathers (scope.key who) t₀ t
    (fun o c => ∀ reply, o = .ok reply → passed app scope who t₀ t call reply = true → 1 ≤ c)
    (serve app call) 0 := by
  have hnone : (∀ reply, passed app scope who t₀ t call reply = false) →
      Gathers (scope.key who) t₀ t
        (fun o c => ∀ reply, o = .ok reply → passed app scope who t₀ t call reply = true → 1 ≤ c)
        (serve app call) 0 := by
    intro hn
    refine (Prog.Keeps.accounts (Prog.Keeps.imp (serve_scoped app call) (fun _ _ => rfl)
      fun _ => id) 0).imp fun _ _ _ reply _ hp => ?_
    rw [hn reply] at hp
    cases hp
  cases call with
  | ws r => exact hnone fun _ => rfl
  | setActive uid active => exact hnone fun _ => rfl
  | http r =>
    by_cases hc : r.Counted app scope who t₀ t
    · refine Prog.Accounts.bind (P := fun o c => ∀ response, o = .ok response →
        response.statusCode ≠ 429 → 1 ≤ c) ?_ ?_ nofun
      · refine Funded.attempt (handled_gathers hc) (handled_scoped app r) fun o c ho _ => ?_
        cases o with
        | ok response =>
          rintro _ ⟨⟩ hne
          exact ho.1 response rfl hne
        | error e =>
          rintro _ ⟨⟩ _
          exact ho.2 e rfl
      · rintro response c hr _ ⟨⟩ hp
        rw [passed, Bool.and_eq_true] at hp
        exact hr response rfl (of_decide_eq_true hp.2)
    · refine hnone fun reply => ?_
      cases reply with
      | http response => rw [passed, decide_eq_false hc, Bool.false_and]
      | _ => rfl

end Ceiling

def answered (c : Task ApiCall ServiceInterface Empty Reply) (b : ApiCall → Reply → Bool) : Bool :=
  match c.rest with
  | .ret reply => b c.request reply
  | _ => false

/-- However the calls interleave, the requests of a peer that get past the limiter within a while
fit the bucket that counts them. -/
theorem peer_ceiling {app : Application} (he : app.settings.rateLimitEnabled = true)
    (h : Run (ServerPool.Step app) (.started w) as p) (scope : Scope) (who : String) (ht : 0 ≤ t)
    (hm : (readings (scope.key who) (checked p.shared.effects)).Pairwise (· ≤ ·)) :
    (p.tasks.countP (answered · (passed app scope who t₀ t)) : Rat) ≤
      scope.capacity app.settings.toSettings +
        scope.refillPerSecond app.settings.toSettings * t := by
  obtain ⟨m, ho, hb⟩ := Pool.Balanced.run (peer_books he (scope.key who) t₀ t) serve_gathers h rfl
  have hw := (Metered.run h).window scope who t₀ ht hm
  rw [hb, Nat.zero_add] at hw
  refine le_trans (Nat.cast_le.2 (ho.countP_le _ fun c n hc hp => ?_)) hw
  rw [answered] at hp
  split at hp
  · rename_i reply hr
    rw [hr] at hc
    exact hc reply rfl hp
  · cases hp

theorem peer_ceiling_host :
    ((reached .initial twoSurfaces).tasks.countP
      (answered · (passed .readable .generalIp "192.0.2.1" 0 60)) : Rat) ≤
      Scope.generalIp.capacity Application.readable.settings.toSettings +
        Scope.generalIp.refillPerSecond Application.readable.settings.toSettings * 60 :=
  peer_ceiling rfl twoSurfaces_run .generalIp "192.0.2.1" (by norm_num) (by decide +kernel)

end QueryMind.Api
