import QueryMind.Api.Trail
import QueryMind.Auth.Accounts
import QueryMind.Orchestrator.Events

namespace QueryMind.Api
open Lib Auth Observability Security
set_option autoImplicit true

/-- A bearer token was answered with the account. -/
def Bearer (h : List Event) (user : UserRead) : Prop :=
  ∃ t, ⟨.getCurrentUser t, .ok (.user user)⟩ ∈ h

/-- A bearer token or a key was answered with the account. -/
def Resolved (h : List Event) (user : UserRead) : Prop :=
  Bearer h user ∨ ∃ raw, ⟨.authenticateApiKey raw, .ok (.user user)⟩ ∈ h

def Bears (h : List Event) (token : Option String) (user : UserRead) : Prop :=
  ∃ t, token = some t ∧ ⟨.getCurrentUser t, .ok (.user user)⟩ ∈ h

/-- What a request carries was answered with the account: its key or, where it has none, its bearer
token. -/
def Presented (h : List Event) (r : HttpRequest) (user : UserRead) : Prop :=
  match r.apiKey with
  | some raw => ⟨.authenticateApiKey raw, .ok (.user user)⟩ ∈ h
  | none => Bears h r.token user

/-- Somebody gave the password of the account. -/
def LoggedIn (h : List Event) (userId : Nat) : Prop :=
  ∃ un pw user, ⟨.authenticate un pw, .ok (.user user)⟩ ∈ h ∧ user.id = userId

/-- No signature is forged: whatever verifies when it is presented was issued before. -/
def Genuine (env : Environment) (h : List Event) : Prop :=
  ∀ n e, h[n]? = some e → ∀ t, e.request.presented = some t → ∀ p, Verifies env t p →
    ∃ pair uid, IssuedPair (h.take n) pair uid ∧ (t = pair.accessToken ∨ t = pair.refreshToken)

def observations (app : Application) (effects : List Effect) : List Observation :=
  (effects.filterMap fun
    | .answered response => some response
    | _ => none).flatMap (recordMetrics app.usage)

/-- Time passes by adding to what was said and done. -/
structure Later (s t : Server) : Prop where
  history : s.session.history <+: t.session.history
  effects : s.effects <+: t.effects

/-- What has to have happened before an operation is called. -/
def Justified (op : ServiceOp) (s : Server) : Prop :=
  match op with
  | .createTokenPair userId => LoggedIn s.session.history userId
  | .createApiKey userId _ _ => ∃ user, Bearer s.session.history user ∧ user.id = userId
  | .revokeApiKey by' _ => Bearer s.session.history by'
  | .work user _ _ => Resolved s.session.history user ∧ requireRole user .analyst = .ok ()
  | _ => True

/-- Whatever was minted, withdrawn or worked was asked for by somebody who was let in before. -/
structure Traced (app : Application) (seed : List User) (s : Server) : Prop where
  ledger : Ledger app.env s.session
  rows : Accounted seed s.session
  accounts : ∀ user, Resolved s.session.history user → Origin seed s.session.history user
  tokens : ∀ uid o, ⟨.createTokenPair uid, o⟩ ∈ s.session.history → LoggedIn s.session.history uid
  rotations : Genuine app.env s.session.history → ∀ t pair,
    ⟨.refreshTokens t, .ok (.pair pair)⟩ ∈ s.session.history →
      ∃ uid, IssuedPair s.session.history pair uid
  keys : ∀ uid nm ex o, ⟨.createApiKey uid nm ex, o⟩ ∈ s.session.history →
    ∃ user, Bearer s.session.history user ∧ user.id = uid
  revocations : ∀ by' kid o, ⟨.revokeApiKey by' kid, o⟩ ∈ s.session.history →
    Bearer s.session.history by'
  works : ∀ user path reading, .worked user path reading ∈ s.effects →
    Resolved s.session.history user ∧ requireRole user .analyst = .ok ()
  backed : Function.Injective app.env.sha256 → Genuine app.env s.session.history →
    ∀ user, Resolved s.session.history user → LoggedIn s.session.history user.id
  metrics : s.metrics = recorded (observations app s.effects)

section Later

theorem Bearer.later (h : Bearer xs user) (hp : xs <+: ys) : Bearer ys user :=
  h.imp fun _ hm => hp.subset hm

theorem Resolved.later (h : Resolved xs user) (hp : xs <+: ys) : Resolved ys user :=
  h.imp (·.later hp) fun ⟨raw, hm⟩ => ⟨raw, hp.subset hm⟩

theorem Bears.later (h : Bears xs token user) (hp : xs <+: ys) : Bears ys token user :=
  h.imp fun _ ht => ⟨ht.1, hp.subset ht.2⟩

theorem Bears.bearer (h : Bears xs token user) : Bearer xs user := h.imp fun _ ht => ht.2

theorem Presented.later (h : Presented xs r user) (hp : xs <+: ys) : Presented ys r user := by
  unfold Presented at h ⊢
  split at h
  · exact hp.subset h
  · exact Bears.later h hp

theorem Presented.resolved (h : Presented xs r user) : Resolved xs user := by
  unfold Presented at h
  split at h
  · exact .inr ⟨_, h⟩
  · exact .inl (Bears.bearer h)

theorem LoggedIn.later (h : LoggedIn xs userId) (hp : xs <+: ys) : LoggedIn ys userId :=
  let ⟨un, pw, user, hm, he⟩ := h
  ⟨un, pw, user, hp.subset hm, he⟩

theorem Later.refl (s : Server) : Later s s := ⟨List.prefix_rfl, List.prefix_rfl⟩

theorem Later.trans {s t u : Server} (h : Later s t) (h' : Later t u) : Later s u :=
  ⟨h.history.trans h'.history, h.effects.trans h'.effects⟩

theorem Genuine.earlier (h : Genuine env ys) (hp : xs <+: ys) : Genuine env xs := by
  obtain ⟨zs, rfl⟩ := hp
  intro n e hn
  have hl : n < xs.length := (List.getElem?_eq_some_iff.1 hn).1
  have hg := h n e (by rw [List.getElem?_append_left hl, hn])
  rwa [List.take_append_of_le_length hl.le] at hg

theorem Genuine.unforged {s : Session} (h : Genuine env (s.perform env r).history) :
    Unforged env s r := by
  have hg := h s.history.length ⟨r, (runCall env (Auth.serve env r) s.world).1⟩
    (List.getElem?_concat_length ..)
  rwa [Session.perform, List.take_left] at hg

end Later

section Operations
variable {app : Application} {op : ServiceOp} {s : Server}

theorem operate_session (app : Application) (op : ServiceOp) (s : Server) :
    (operate app op s).2.session = match requestOf op with
      | some r => s.session.perform app.env r
      | none => s.session := by
  cases op with
  | check q =>
    rw [operate]
    split <;> rfl
  | _ => rfl

theorem operate_later (app : Application) (op : ServiceOp) (s : Server) :
    Later s (operate app op s).2 := by
  refine ⟨?_, by rw [operate_effects]; exact List.prefix_append _ _⟩
  rw [operate_session]
  split
  · exact List.prefix_append _ _
  · exact List.prefix_rfl

theorem mem_operate (h : e ∈ (operate app op s).2.session.history) :
    e ∈ s.session.history ∨
      requestOf op = some e.request ∧ e.outcome = outcome app.env s.session e.request := by
  rw [operate_session] at h
  split at h
  · rename_i r hr
    rcases mem_history_perform h with h | rfl
    · exact .inl h
    · exact .inr ⟨hr, rfl⟩
  · exact .inl h

theorem IssuedPair.minted (h : IssuedPair hist pair uid) :
    ∃ first, ⟨.createTokenPair uid, .ok (.pair first)⟩ ∈ hist := by
  induction h with
  | created he => exact ⟨_, he⟩
  | rotated _ _ ih => exact ih

namespace Traced

theorem operate_tokens (h : Traced app seed s) (hj : Justified op s)
    (he : ⟨.createTokenPair uid, o⟩ ∈ (operate app op s).2.session.history) :
    LoggedIn (operate app op s).2.session.history uid := by
  refine LoggedIn.later ?_ (operate_later app op s).history
  rcases mem_operate he with he | ⟨hr, -⟩
  · exact h.tokens _ _ he
  · cases op <;> cases hr
    exact hj

theorem operate_rotations (h : Traced app seed s)
    (hg : Genuine app.env (operate app op s).2.session.history)
    (he : ⟨.refreshTokens t, .ok (.pair pair)⟩ ∈ (operate app op s).2.session.history) :
    ∃ uid, IssuedPair (operate app op s).2.session.history pair uid := by
  have hl := (operate_later app op s).history
  rcases mem_operate he with he | ⟨hr, ho⟩
  · obtain ⟨uid, hi⟩ := h.rotations (hg.earlier hl) t pair he
    obtain ⟨zs, hz⟩ := hl
    exact ⟨uid, hz ▸ hi.later zs⟩
  · rw [operate_session, hr] at hg ⊢
    obtain ⟨uid, -, -, hi, -⟩ := h.ledger.refresh_sound hg.unforged ho.symm
    exact ⟨uid, hi⟩

theorem operate_keys (h : Traced app seed s) (hj : Justified op s)
    (he : ⟨.createApiKey uid nm ex, o⟩ ∈ (operate app op s).2.session.history) :
    ∃ user, Bearer (operate app op s).2.session.history user ∧ user.id = uid := by
  have hb : ∃ user, Bearer s.session.history user ∧ user.id = uid := by
    rcases mem_operate he with he | ⟨hr, -⟩
    · exact h.keys _ _ _ _ he
    · cases op <;> cases hr
      exact hj
  exact hb.imp fun user hu => ⟨hu.1.later (operate_later app op s).history, hu.2⟩

theorem operate_revocations (h : Traced app seed s) (hj : Justified op s)
    (he : ⟨.revokeApiKey by' kid, o⟩ ∈ (operate app op s).2.session.history) :
    Bearer (operate app op s).2.session.history by' := by
  refine Bearer.later ?_ (operate_later app op s).history
  rcases mem_operate he with he | ⟨hr, -⟩
  · exact h.revocations _ _ _ he
  · cases op <;> cases hr
    exact hj

theorem operate_works (h : Traced app seed s) (hj : Justified op s)
    (he : .worked user path reading ∈ (operate app op s).2.effects) :
    Resolved (operate app op s).2.session.history user ∧ requireRole user .analyst = .ok () := by
  have hw : Resolved s.session.history user ∧ requireRole user .analyst = .ok () := by
    rw [operate_effects] at he
    rcases List.mem_append.1 he with he | he
    · exact h.works _ _ _ he
    · cases op with
      | work =>
        cases List.mem_singleton.1 he
        exact hj
      | check q =>
        rw [effectsOf] at he
        split at he <;> simp at he
      | _ => simp [effectsOf] at he
  exact ⟨hw.1.later (operate_later app op s).history, hw.2⟩

theorem operate_accounts (h : Traced app seed s)
    (hu : Resolved (operate app op s).2.session.history user) :
    Origin seed (operate app op s).2.session.history user := by
  refine Origin.later ?_ (operate_later app op s).history
  rcases hu with ⟨t, he⟩ | ⟨raw, he⟩
  · rcases mem_operate he with he | ⟨hr, ho⟩
    · exact h.accounts user (.inl ⟨t, he⟩)
    · obtain ⟨row, hm, -, rfl⟩ := getCurrentUser_active ho.symm
      exact h.rows row hm
  · rcases mem_operate he with he | ⟨hr, ho⟩
    · exact h.accounts user (.inr ⟨raw, he⟩)
    · obtain ⟨row, hm, -, rfl⟩ := authenticateApiKey_active ho.symm
      exact h.rows row hm

theorem operate_backed (h : Traced app seed s) (hsha : Function.Injective app.env.sha256)
    (hg : Genuine app.env (operate app op s).2.session.history)
    (hu : Resolved (operate app op s).2.session.history user) :
    LoggedIn (operate app op s).2.session.history user.id := by
  have hl := operate_later app op s
  have hback := h.backed hsha (hg.earlier hl.history)
  refine LoggedIn.later ?_ hl.history
  have hold : Resolved s.session.history user → LoggedIn s.session.history user.id := hback user
  rcases hu with ⟨t, he⟩ | ⟨raw, he⟩
  · rcases mem_operate he with he | ⟨hr, ho⟩
    · exact hold (.inl ⟨t, he⟩)
    · rw [operate_session, hr] at hg
      obtain ⟨pair, hi, -, -⟩ := h.ledger.access_sound hg.unforged ho.symm
      obtain ⟨first, hm⟩ := IssuedPair.minted hi
      exact h.tokens _ _ hm
  · rcases mem_operate he with he | ⟨hr, ho⟩
    · exact hold (.inr ⟨raw, he⟩)
    · obtain ⟨made, ex, ⟨nm, hm⟩, -⟩ := h.ledger.apiKey_sound hsha ho.symm
      obtain ⟨owner, hb, hid⟩ := h.keys _ _ _ _ hm
      exact hid ▸ hback owner (.inl hb)

theorem observations_append (app : Application) (xs ys : List Effect) :
    observations app (xs ++ ys) = observations app xs ++ observations app ys := by
  rw [observations, List.filterMap_append, List.flatMap_append]
  rfl

theorem operate_metrics (h : Traced app seed s) :
    (operate app op s).2.metrics = recorded (observations app (operate app op s).2.effects) := by
  have hquiet : (operate app op s).2.metrics = s.metrics →
      observations app (effectsOf app.settings op (operate app op s).1) = [] →
      (operate app op s).2.metrics = recorded (observations app (operate app op s).2.effects) := by
    intro hm he
    rw [hm, operate_effects, observations_append, he, List.append_nil, h.metrics]
  cases op with
  | observe response =>
    rw [operate_effects, observations_append, recorded, List.foldl_append]
    change (recordMetrics app.usage response).foldl .record s.metrics = _
    have ho : observations app (effectsOf app.settings (.observe response) ()) =
        recordMetrics app.usage response := List.append_nil _
    rw [h.metrics, ho]
    rfl
  | check q =>
    refine hquiet ?_ ?_
    · rw [Api.operate]
      split <;> rfl
    · rw [effectsOf]
      split <;> rfl
  | _ => exact hquiet rfl rfl

theorem operate (h : Traced app seed s)
    (hj : Justified op s) : Traced app seed (operate app op s).2 where
  ledger := by
    rw [operate_session]
    split
    · exact h.ledger.perform _
    · exact h.ledger
  rows := by
    rw [operate_session]
    split
    · exact h.rows.perform _
    · exact h.rows
  accounts _ := h.operate_accounts
  tokens _ _ := h.operate_tokens hj
  rotations hg _ _ := h.operate_rotations hg
  keys _ _ _ _ := h.operate_keys hj
  revocations _ _ _ := h.operate_revocations hj
  works _ _ _ := h.operate_works hj
  backed hsha hg _ := h.operate_backed hsha hg
  metrics := h.operate_metrics

end Traced

end Operations

/-- What the metrics route shows has been gathered by then, and is for an administrator, who made
the request. -/
def Shown (app : Application) (r : HttpRequest) (capturedAt : Int) (m : MetricsSnapshot)
    (s : Server) : Prop :=
  ∃ seen user, seen <+: s.effects ∧
    (recorded (observations app seen)).snapshot capturedAt = some m ∧
    Presented s.session.history r user ∧ requireRole user .admin = .ok ()

def Response.snapshot (response : Response) : Option MetricsSnapshot :=
  match response.body with
  | .metrics m => some m
  | _ => none

def Rightful (app : Application) (r : HttpRequest) (response : Response) (s : Server) : Prop :=
  ∀ m, response.snapshot = some m → ∃ capturedAt, r.route = .metrics capturedAt ∧
    Shown app r capturedAt m s

/-- Programs that call what they are justified to call, whatever else goes on, and that end where
`P` holds. -/
def Secure (app : Application) (seed : List User) (P : α → Server → Prop)
    (p : Prog ServiceInterface ε α) (s : Server) : Prop :=
  p.Safe (operate app) (Traced app seed) Later Justified (fun o t => ∀ a, o = .ok a → P a t) s

namespace Secure
variable {α β ε : Type} {app : Application} {seed : List User} {s : Server} {P : α → Server → Prop}
  {Q : β → Server → Prop}

theorem ret {a : α} (h : ∀ t, Later s t → P a t) :
    Secure app seed P (.ret a : Prog ServiceInterface ε α) s := by
  rintro t hs - _ ⟨⟩
  exact h t hs

theorem raise (e : ε) : Secure app seed P (.raise e : Prog ServiceInterface ε α) s :=
  fun _ _ _ => nofun

theorem bind {p : Prog ServiceInterface ε α} {f : α → Prog ServiceInterface ε β}
    (hp : Secure app seed P p s) (hf : ∀ a t, Later s t → P a t → Secure app seed Q (f a) t) :
    Secure app seed Q (p >>= f) s :=
  Prog.Safe.bind Later.refl
    (Prog.Safe.since (fun _ _ _ => Later.trans) (operate_later app) hp (Later.refl s))
    (fun a t ht => hf a t ht.2 (ht.1 a rfl)) fun _ _ _ => nofun

theorem attempt {p : Service α} {f : Except ApiError α → Prog ServiceInterface ε β}
    (hp : Secure app seed P p s) (ho : ∀ a t, P a t → Secure app seed Q (f (.ok a)) t)
    (he : ∀ e t, Secure app seed Q (f (.error e)) t) : Secure app seed Q (p.attempt >>= f) s := by
  refine .bind (P := fun o t => ∀ a, o = .ok a → P a t) (Prog.Safe.attempt ?_) fun o t _ hP => ?_
  · exact Prog.Safe.imp hp fun o t hP _ hx => Except.ok.inj hx ▸ hP
  · cases o with
    | ok a => exact ho a t (hP a rfl)
    | error e => exact he e t

theorem op {op : ServiceOp} {f : op.Ans → Service α}
    (hj : ∀ t, Later s t → Justified op t)
    (hf : ∀ t, Later s t → Traced app seed t →
      Secure app seed P (f (operate app op t).1) (operate app op t).2) :
    Secure app seed P (invoke op >>= f) s := fun t hs ht => ⟨hj t hs, hf t hs ht⟩

theorem free {op : ServiceOp} {f : op.Ans → Service α} (hj : ∀ t, Justified op t)
    (hf : ∀ a t, Later s t → Secure app seed P (f a) t) : Secure app seed P (invoke op >>= f) s :=
  .op (fun t _ => hj t) fun t hs _ => hf _ _ (hs.trans (operate_later app op t))

theorem ofExcept {x : Except ServiceError α} {f : α → Service β}
    (hf : ∀ a, x = .ok a → Secure app seed Q (f a) s) :
    Secure app seed Q (Service.ofExcept x >>= f) s := by
  cases x with
  | ok a => exact hf a rfl
  | error e => exact .raise _

theorem ofBody {r : HttpRequest} {parse : Json → Option α} {f : α → Service β}
    (hf : ∀ a, Secure app seed Q (f a) s) : Secure app seed Q (Service.ofBody r parse >>= f) s := by
  rw [Service.ofBody]
  split
  · exact hf _
  · exact .raise _

theorem requireMinimum {user : UserRead} {role : UserRole} {f : Unit → Service β}
    (hf : requireRole user role = .ok () → Secure app seed Q (f ()) s) :
    Secure app seed Q (Service.requireMinimum user role >>= f) s := by
  rw [Service.requireMinimum]
  split
  · rename_i h
    exact hf h
  · exact .raise _

theorem checkLimit {scope : Scope} {who : String} {now : Rat} {f : Unit → Service α}
    (hf : ∀ t, Later s t → Secure app seed P (f ()) t) :
    Secure app seed P (Service.checkLimit app scope who now >>= f) s := by
  refine .free (fun _ => trivial) fun d t ht => ?_
  change Secure app seed P (Service.raiseIfBlocked d >>= f) t
  cases ha : d.allowed with
  | false =>
    rw [raiseIfBlocked_denied ha]
    exact .raise _
  | true =>
    rw [raiseIfBlocked_allowed ha]
    exact hf t ht

theorem audit {r : HttpRequest} {eventType : AuditEventType} {actor : Option Nat × Option String}
    {f : Unit → Service α} (hf : ∀ t, Later s t → Secure app seed P (f ()) t) :
    Secure app seed P (Service.audit app r eventType actor >>= f) s :=
  .free (fun _ => trivial) fun _ => hf

end Secure

section Routes
variable {app : Application} {r : HttpRequest} {s : Server}

theorem mem_answered (app : Application) (op : ServiceOp) (s : Server)
    (h : eventOf op (operate app op s).1 = some e) :
    e ∈ (operate app op s).2.session.history := by
  rw [operate_history, h]
  exact List.mem_append_right _ (List.mem_singleton_self e)

theorem getCurrentUserJwtOnly_secure (s : Server) :
    Secure app seed (fun user t => Bears t.session.history r.token user)
      (Service.getCurrentUserJwtOnly r) s := by
  refine .bind (P := fun user t => Bears t.session.history r.token user) ?_ fun user t ht hb =>
    .free (fun _ => trivial) fun _ u hu => .ret fun v hv => hb.later (hu.trans hv).history
  cases r.token with
  | none => exact .raise _
  | some token =>
    refine .op (fun _ _ => trivial) fun t _ _ => ?_
    cases ho : (operate app (.getCurrentUser token) t).1 with
    | error e => exact .raise _
    | ok user =>
      refine .ret fun u hu => Bears.later ⟨token, rfl, ?_⟩ hu.history
      exact mem_answered app (.getCurrentUser token) t (by rw [ho]; rfl)

theorem getCurrentUser_secure (s : Server) : Secure app seed
    (fun user t => Presented t.session.history r user) (Service.getCurrentUser app r) s := by
  rw [Service.getCurrentUser]
  cases hk : r.apiKey with
  | none =>
    refine Prog.Safe.imp (getCurrentUserJwtOnly_secure s) fun _ t h a ha => ?_
    change Presented t.session.history r a
    rw [Presented, hk]
    exact h a ha
  | some apiKey =>
    refine .op (fun _ _ => trivial) fun t _ _ => ?_
    cases ho : (operate app (.authenticateApiKey apiKey) t).1 with
    | ok user =>
      refine .free (fun _ => trivial) fun _ u hu => .free (fun _ => trivial) fun _ v hv =>
        .ret fun w hw => Presented.later ?_ (hu.trans (hv.trans hw)).history
      rw [Presented, hk]
      exact mem_answered app (.authenticateApiKey apiKey) t (by rw [ho]; rfl)
    | error e =>
      change Secure app seed _ (if authenticationError e = true then _ else _) _
      split
      · exact .free (fun _ => trivial) fun _ _ _ => .raise _
      · exact .raise _

theorem queryAccess_secure (s : Server) : Secure app seed (fun user t =>
    Resolved t.session.history user ∧ requireRole user .analyst = .ok ())
      (Service.queryAccess app r) s :=
  .bind (getCurrentUser_secure s) fun _ _ _ hu => .requireMinimum fun hr =>
    .checkLimit fun _ ht => .ret fun _ hv => ⟨hu.resolved.later (ht.trans hv).history, hr⟩

theorem Rightful.later {s t : Server} (h : Rightful app r response s) (ht : Later s t) :
    Rightful app r response t := by
  intro m hm
  obtain ⟨capturedAt, hr, seen, user, hs, hm, hu, hrole⟩ := h m hm
  exact ⟨capturedAt, hr, seen, user, hs.trans ht.effects, hm, hu.later ht.history, hrole⟩

theorem rightful (h : response.snapshot = none) (t : Server) (_ : Later s t) :
    Rightful app r response t := by
  intro m hm
  rw [h] at hm
  cases hm

theorem register_secure (s : Server) :
    Secure app seed (Rightful app r) (Service.register app r) s := by
  refine .checkLimit fun t _ => .ofBody fun form => .free (fun _ => trivial) fun o u _ => ?_
  exact .ofExcept fun _ _ => .audit fun _ _ => .ret (rightful rfl)

theorem checkLoginRateLimit_secure (s : Server) :
    Secure app seed (fun _ _ => True) (Service.checkLoginRateLimit app r) s := by
  have hblock (d : RateLimitDecision) (t : Server) :
      Secure app seed (fun _ _ => True) (Service.raiseIfBlocked d) t := by
    cases ha : d.allowed with
    | false =>
      rw [raiseIfBlocked_denied ha]
      exact .raise _
    | true =>
      rw [raiseIfBlocked_allowed ha]
      exact .ret fun _ _ => trivial
  refine .free (fun _ => trivial) fun d t _ => ?_
  split
  · exact hblock d t
  · exact .free (fun _ => trivial) fun _ _ _ => hblock _ _

theorem login_secure (s : Server) : Secure app seed (Rightful app r) (Service.login app r) s := by
  refine .bind (checkLoginRateLimit_secure s) fun _ t _ _ => .ofBody fun form => ?_
  refine .op (fun _ _ => trivial) fun u _ _ => .ofExcept fun user ho => ?_
  have hm : ⟨.authenticate form.username form.password, .ok (.user user)⟩ ∈
      (operate app (.authenticate form.username form.password) u).2.session.history :=
    mem_answered _ _ _ (by rw [ho]; rfl)
  refine .op (fun v hv => ⟨_, _, user, hv.history.subset hm, rfl⟩) fun v _ _ => ?_
  exact .ofExcept fun _ _ => .audit fun _ _ => .ret (rightful rfl)

theorem refresh_secure (s : Server) :
    Secure app seed (Rightful app r) (Service.refresh app r) s := by
  refine .checkLimit fun t _ => .ofBody fun form => .free (fun _ => trivial) fun o u _ => ?_
  exact .ofExcept fun _ _ => .audit fun _ _ => .ret (rightful rfl)

theorem logout_secure (s : Server) : Secure app seed (Rightful app r) (Service.logout app r) s := by
  refine .ofBody fun form => .free (fun _ => trivial) fun o u _ => ?_
  exact .ofExcept fun _ _ => .audit fun _ _ => .ret (rightful rfl)

theorem me_secure (s : Server) : Secure app seed (Rightful app r) (Service.me app r) s :=
  .bind (getCurrentUser_secure s) fun _ _ _ _ => .ret (rightful rfl)

theorem createApiKey_secure (s : Server) :
    Secure app seed (Rightful app r) (Service.createApiKey app r) s := by
  refine .bind (getCurrentUserJwtOnly_secure s) fun user t _ hb => .ofBody fun form => ?_
  refine .op (fun u hu => ⟨user, hb.bearer.later hu.history, rfl⟩) fun u _ _ => ?_
  exact .ofExcept fun _ _ => .audit fun _ _ => .ret (rightful rfl)

theorem listApiKeys_secure (s : Server) :
    Secure app seed (Rightful app r) (Service.listApiKeys r) s :=
  .bind (getCurrentUserJwtOnly_secure s) fun _ _ _ _ => .free (fun _ => trivial) fun _ _ _ =>
    .ret (rightful rfl)

theorem revokeApiKey_secure (segment : Segment) (s : Server) :
    Secure app seed (Rightful app r) (Service.revokeApiKey app r segment) s := by
  refine .bind (getCurrentUserJwtOnly_secure s) fun user t _ hb => ?_
  split
  · exact .raise _
  · refine .op (fun u hu => hb.bearer.later hu.history) fun u _ _ => ?_
    exact .ofExcept fun _ _ => .audit fun _ _ => .ret (rightful rfl)
  · exact .raise _

theorem askQuestion_secure (runner : Orchestrator.PipelineRunner) (clock : Orchestrator.Clock)
    (s : Server) : Secure app seed (Rightful app r) (Service.askQuestion app r runner clock) s := by
  refine .bind (queryAccess_secure s) fun user t _ hu => .ofBody fun question => ?_
  refine .op (fun u hu' => ⟨hu.1.later hu'.history, hu.2⟩) fun u _ _ => ?_
  exact .free (fun _ => trivial) fun _ _ _ => .ret (rightful rfl)

theorem streamQuery_secure (s : Server) :
    Secure app seed (Rightful app r) (Service.streamQuery app r) s := by
  refine .bind (queryAccess_secure s) fun user t _ hu => .ofBody fun question => ?_
  refine .op (fun u hu' => ⟨hu.1.later hu'.history, hu.2⟩) fun u _ _ => ?_
  exact .ret (rightful rfl)

theorem queryStep_secure (outcome : Option (Except EngineFailure Json)) (s : Server) :
    Secure app seed (Rightful app r) (Service.queryStep app r outcome) s := by
  refine .bind (queryAccess_secure s) fun user t _ hu => ?_
  split
  · exact .raise _
  · refine .op (fun u hu' => ⟨hu.1.later hu'.history, hu.2⟩) fun u _ _ => ?_
    split
    · exact .ret (rightful rfl)
    · exact .raise _

theorem metrics_secure (hr : r.route = .metrics capturedAt) (s : Server) :
    Secure app seed (Rightful app r) (Service.metrics app r capturedAt) s := by
  refine .bind (getCurrentUser_secure s) fun user t _ hu => .requireMinimum fun hrole => ?_
  refine .op (fun _ _ => trivial) fun u hu' hj => ?_
  cases ho : (operate app (.snapshot capturedAt) u).1 with
  | none => exact .raise _
  | some m =>
    refine .ret fun v hv m' hm => ⟨capturedAt, hr, u.effects, user, hv.effects, ?_,
      hu.later (hu'.trans hv).history, hrole⟩
    cases hm
    rw [← hj.metrics]
    exact ho

theorem route_secure (s : Server) : Secure app seed (Rightful app r) (Service.route app r) s := by
  cases hr : r.route <;> rw [Service.route, hr]
  case register => exact register_secure s
  case login => exact login_secure s
  case refresh => exact refresh_secure s
  case logout => exact logout_secure s
  case me => exact me_secure s
  case createApiKey => exact createApiKey_secure s
  case listApiKeys => exact listApiKeys_secure s
  case revokeApiKey segment => exact revokeApiKey_secure segment s
  case query runner clock => exact askQuestion_secure runner clock s
  case queryStream => exact streamQuery_secure s
  case queryStep step outcome => exact queryStep_secure outcome s
  case metrics capturedAt => exact metrics_secure hr s

theorem dispatch_secure (s : Server) :
    Secure app seed (Rightful app r) (Service.dispatch app r) s := by
  rw [Service.dispatch]
  split
  · exact .raise _
  · exact .checkLimit fun t _ => route_secure t

theorem auditFailureIfRelevant_secure (exc : Streaming.Raised) (s : Server) :
    Secure app seed (fun _ _ => True) (Service.auditFailureIfRelevant app r exc) s := by
  rw [Service.auditFailureIfRelevant]
  split
  · exact .free (fun _ => trivial) fun _ _ _ => .free (fun _ => trivial) fun _ _ _ =>
      .ret fun _ _ => trivial
  · split
    · exact .free (fun _ => trivial) fun _ _ _ => .ret fun _ _ => trivial
    · exact .ret fun _ _ => trivial

theorem handleMapped_secure (e : ApiError) (exc : Streaming.Raised) (s : Server) :
    Secure app seed (Rightful app r) (Service.handleMapped app r e exc) s := by
  rw [Service.handleMapped]
  split
  · exact .raise _
  · exact .bind (auditFailureIfRelevant_secure exc s) fun _ _ _ _ => .ret (rightful rfl)

theorem handle_secure (e : ApiError) (s : Server) :
    Secure app seed (Rightful app r) (Service.handle app r e) s := by
  cases e with
  | service error => exact handleMapped_secure _ (raisedBy error) s
  | forbiddenRole message =>
    exact handleMapped_secure (.forbiddenRole message) ⟨"ForbiddenRoleError", message⟩ s
  | rateLimitExceeded error =>
    change Secure app seed _ (Service.handleRateLimitExceeded error) s
    rw [Service.handleRateLimitExceeded]
    split
    · exact .raise _
    · exact .ret (rightful rfl)
  | engine failure =>
    cases failure with
    | raised exc => exact handleMapped_secure _ exc s
    | pipelineExecution message cause => cases cause <;> exact .ret (rightful rfl)
  | httpException | requestValidation => exact .ret (rightful rfl)

theorem serveHttp_secure (s : Server) : Secure app seed (Rightful app r) (serveHttp app r) s := by
  have hh : Secure app seed (Rightful app r) (Service.handled app r) s :=
    .attempt (dispatch_secure s) (fun _ _ ha => .ret fun u hu => ha.later hu) handle_secure
  exact .attempt hh (fun _ _ ha => .ret fun u hu => ha.later hu) fun _ _ => .ret (rightful rfl)

end Routes

section Connections
variable {app : Application} {r : WsRequest}

theorem authenticateAndAuthorize_secure (s : Server) : Secure app seed
    (fun o t => ∀ user, o = .ok user → Resolved t.session.history user ∧
      requireRole user .analyst = .ok ())
    (Service.authenticateAndAuthorize app r) s := by
  have hrefused (reply : WsReply) (t : Server) : Secure app seed (fun o t => ∀ user, o = .ok user →
      Resolved t.session.history user ∧ requireRole user .analyst = .ok ())
      (.ret (.error reply) : Service (Except WsReply UserRead)) t := by
    refine .ret fun _ _ user ho => ?_
    cases ho
  unfold Service.authenticateAndAuthorize
  cases r.credential with
  | none => exact hrefused _ _
  | some token =>
    refine .op (fun _ _ => trivial) fun t _ _ => ?_
    cases ho : (operate app (.getCurrentUser token) t).1 with
    | error e =>
      change Secure app seed _ (if authenticationError e = true then _ else _) _
      split
      · exact hrefused _ _
      · exact .raise _
    | ok user =>
      have hm : ⟨.getCurrentUser token, .ok (.user user)⟩ ∈
          (operate app (.getCurrentUser token) t).2.session.history :=
        mem_answered _ _ _ (by rw [ho]; rfl)
      change Secure app seed _ (Service.authorize app r user) _
      rw [Service.authorize]
      split
      · exact hrefused _ _
      · rename_i hr
        refine .op (fun _ _ => trivial) fun u hu _ => ?_
        split
        · refine .ret fun v hv _ hx => ?_
          cases hx
          exact ⟨.inl ⟨token, (hu.trans ((operate_later app _ u).trans hv)).history.subset hm⟩, hr⟩
        · exact hrefused _ _

theorem serveWs_secure (s : Server) : Secure app seed (fun _ _ => True) (serveWs app r) s := by
  have hs : Secure app seed (fun _ _ => True) (Service.streamQueryWs app r) s := by
    refine .bind (authenticateAndAuthorize_secure s) fun o t _ ho => ?_
    cases o with
    | error reply => exact .ret fun _ _ => trivial
    | ok user =>
      change Secure app seed _ (Service.receiveQuestion r user) _
      rw [Service.receiveQuestion]
      split
      · exact .ret fun _ _ => trivial
      · split
        · exact .ret fun _ _ => trivial
        · obtain ⟨hu, hrole⟩ := ho user rfl
          refine .op (fun u ht => ⟨hu.later ht.history, hrole⟩) fun _ _ _ => ?_
          exact .ret fun _ _ => trivial
  exact .attempt hs (fun _ _ _ => .ret fun _ _ => trivial) fun _ _ => .ret fun _ _ => trivial

end Connections

def Right (app : Application) : ApiCall → Reply → Server → Prop
  | .http r, .http response, s => Rightful app r response s
  | .ws _, .http _, _ | .setActive .., .http _, _ => False
  | _, _, _ => True

theorem serve_secure (app : Application) (call : ApiCall) (s : Server) :
    Secure app seed (Right app call) (serve app call) s := by
  cases call with
  | http r => exact .bind (serveHttp_secure s) fun _ _ _ ha => .ret fun _ hu => ha.later hu
  | ws r => exact .bind (serveWs_secure s) fun _ _ _ _ => .ret fun _ _ => trivial
  | setActive userId active =>
    exact fun t _ _ => ⟨trivial, Secure.ret (a := Reply.done) fun _ _ => trivial⟩

theorem Traced.started {w : World} (hw : Seeded w) (app : Application) :
    Traced app w.db.users (.started w) where
  ledger := .seeded hw
  rows := .seeded w
  accounts := by rintro user (⟨t, ⟨⟩⟩ | ⟨raw, ⟨⟩⟩)
  tokens := nofun
  rotations := nofun
  keys := nofun
  revocations := nofun
  works := nofun
  backed := by rintro - - user (⟨t, ⟨⟩⟩ | ⟨raw, ⟨⟩⟩)
  metrics := rfl

theorem service_traced {app : Application} {w : World} (hw : Seeded w)
    (h : Run (ServerPool.Step app) (.started w) as p) :
    (∀ t ∈ p.tasks, Secure app w.db.users (Right app t.request) t.rest p.shared) ∧
      Traced app w.db.users p.shared :=
  Pool.AllSafe.run (P := fun call o s => ∀ reply, o = .ok reply → Right app call reply s)
    Later.refl (fun _ _ _ => Later.trans) (operate_later app)
    (fun _ _ ht hj => ht.operate hj) (serve_secure app) h (.started hw app)

/-- However the calls interleave, whatever an engine did was asked for by an account of the role,
which was let in for a token or a key that goes back to its password. -/
theorem work_traced {app : Application} {w : World} (hw : Seeded w)
    (hsha : Function.Injective app.env.sha256) (h : Run (ServerPool.Step app) (.started w) as p)
    (hg : Genuine app.env p.shared.session.history)
    (he : .worked user path reading ∈ p.shared.effects) :
    requireRole user .analyst = .ok () ∧ Resolved p.shared.session.history user ∧
      LoggedIn p.shared.session.history user.id := by
  have ht := (service_traced hw h).2
  obtain ⟨hr, hrole⟩ := ht.works _ _ _ he
  exact ⟨hrole, hr, ht.backed hsha hg user hr⟩

deriving instance DecidableEq for Event

theorem initial_seeded : Seeded .initial := ⟨Database.empty_valid, rfl, rfl⟩

theorem genuine_of_pair (k uid : Nat) (pair : TokenPair)
    (hpair : ⟨.createTokenPair uid, .ok (.pair pair)⟩ ∈ h.take k)
    (hearly : ∀ e ∈ h.take k, e.request.presented = none)
    (hlate : ∀ e ∈ h, e.request.presented = none ∨
      e.request.presented = some pair.accessToken ∨
        e.request.presented = some pair.refreshToken) : Genuine env h := by
  intro n e hn t ht p _
  have hk : k ≤ n := by
    apply Nat.le_of_not_lt
    intro hlt
    have he : e ∈ h.take k := by
      apply List.mem_of_getElem? (i := n)
      rw [List.getElem?_take_of_lt hlt, hn]
    rw [hearly e he] at ht
    cases ht
  refine ⟨pair, uid, .created (List.take_subset_take_left _ hk hpair), ?_⟩
  rcases hlate e (List.mem_of_getElem? hn) with hp | hp | hp
  · rw [hp] at ht
    cases ht
  · exact .inl (Option.some.inj (ht.symm.trans hp))
  · exact .inr (Option.some.inj (ht.symm.trans hp))

theorem twoSurfaces_genuine :
    Genuine .readable (reached .initial twoSurfaces).shared.session.history :=
  genuine_of_pair 3 1 alicePair (by decide +kernel) (by decide +kernel) (by decide +kernel)

def Effect.worker : Effect → Option UserRead
  | .worked user _ _ => some user
  | _ => none

theorem worker_some {e : Effect} (h : e.worker = some user) :
    ∃ path reading, e = .worked user path reading := by
  cases e <;> cases h
  exact ⟨_, _, rfl⟩

theorem aliceRead_works : ∃ path reading,
    .worked aliceRead path reading ∈ (reached .initial twoSurfaces).shared.effects := by
  have hm : some aliceRead ∈ (reached .initial twoSurfaces).shared.effects.map (·.worker) := by
    decide +kernel
  obtain ⟨e, he, hw⟩ := List.mem_map.1 hm
  obtain ⟨path, reading, rfl⟩ := worker_some hw
  exact ⟨path, reading, he⟩

theorem work_traced_alice : requireRole aliceRead .analyst = .ok () ∧
    Resolved (reached .initial twoSurfaces).shared.session.history aliceRead ∧
    LoggedIn (reached .initial twoSurfaces).shared.session.history aliceRead.id := by
  obtain ⟨path, reading, he⟩ := aliceRead_works
  exact work_traced initial_seeded (fun _ _ h => h) twoSurfaces_run twoSurfaces_genuine he

/-- However the calls interleave, whoever is let in is a seeded account or a registered analyst. -/
theorem roles_kept {app : Application} {w : World} (hw : Seeded w)
    (h : Run (ServerPool.Step app) (.started w) as p)
    (hu : Resolved p.shared.session.history user) :
    Origin w.db.users p.shared.session.history user :=
  (service_traced hw h).2.accounts user hu

def rootTable : World :=
  { World.initial with
    db := { Database.empty with
      users := [⟨1, "root", "root@example.com", Environment.readable.argon2Hash 0 "treasure", true,
        .admin, true⟩]
      nextUserId := 2 } }

theorem rootTable_seeded : Seeded rootTable :=
  ⟨by constructor <;> decide, rfl, rfl⟩

def rootLogsIn : HttpRequest := post .login 0 0 none
  [("username", .str "root"), ("password", .str "treasure")]

def rootAsks : HttpRequest :=
  post (.query Orchestrator.avatarRunner Orchestrator.stoppedClock) 1 1 alicePair.accessToken
    [("question", .str "How many orders?")]

def rootLooks : HttpRequest := post (.metrics 9) 2 2 alicePair.accessToken []

/-- The administrator looks at the metrics while a question is under way. -/
def measured : List (Pool.Action ApiCall) :=
  [.start (.http rootLogsIn)] ++ takes 0 6 ++ [.start (.http rootLooks), .start (.http rootAsks)] ++
    takes 1 3 ++ takes 2 6 ++ takes 1 1

theorem measured_run :
    Run (ServerPool.Step .readable) (.started rootTable) measured (reached rootTable measured) :=
  reached_run (by decide +kernel)

def rootRead : UserRead := ⟨1, "root", "root@example.com", true, true, .admin⟩

theorem rootRead_resolved :
    Resolved (reached rootTable measured).shared.session.history rootRead :=
  .inl ⟨alicePair.accessToken, by decide +kernel⟩

theorem roles_kept_root : Origin rootTable.db.users
    (reached rootTable measured).shared.session.history rootRead :=
  roles_kept rootTable_seeded measured_run rootRead_resolved

theorem observations_subset (app : Application) (h : xs <+: ys) :
    observations app xs ⊆ observations app ys := by
  obtain ⟨zs, rfl⟩ := h
  rw [Traced.observations_append]
  exact List.subset_append_left _ _

theorem requireRole_admin (h : requireRole user .admin = .ok ()) : user.role = .admin := by
  rw [requireRole] at h
  split at h
  · cases h
  · rename_i hr
    cases hrole : user.role <;> rw [hrole] at hr <;> first | rfl | exact absurd (by decide) hr

/-- However the calls interleave, the metrics that a request is answered with sum up the answers
given up to some moment, and an administrator from before asked for them. -/
theorem metrics_answered {app : Application} {w : World} (hw : Seeded w)
    (h : Run (ServerPool.Step app) (.started w) as p) (ht : t ∈ p.tasks)
    (hr : t.rest = .ret (.http response)) (hm : response.snapshot = some m)
    (hs : ∀ o ∈ observations app p.shared.effects, o.Sound) :
    ∃ r capturedAt seen user, t.request = .http r ∧ r.route = .metrics capturedAt ∧
      seen <+: p.shared.effects ∧ Summary (observations app seen) m ∧
      m.capturedAt = capturedAt ∧ Presented p.shared.session.history r user ∧
      ∃ v ∈ w.db.users, v.id = user.id ∧ v.role = .admin := by
  obtain ⟨hsafe, htraced⟩ := service_traced hw h
  have hright := hsafe t ht
  rw [hr] at hright
  have hright := hright p.shared (.refl _) htraced _ rfl
  obtain ⟨request, log, rest⟩ := t
  cases request with
  | ws | setActive => exact hright.elim
  | http r =>
    obtain ⟨capturedAt, hroute, seen, user, hseen, hsnap, hu, hrole⟩ := hright m hm
    obtain ⟨m', hsnap', hcap, hsum⟩ := snapshot_summary
      (fun o ho => hs o ((observations_subset app hseen) ho)) capturedAt
    cases hsnap.symm.trans hsnap'
    refine ⟨r, capturedAt, seen, user, rfl, hroute, hseen, hsum, hcap, hu, ?_⟩
    exact (htraced.accounts user hu.resolved).admin (requireRole_admin hrole)

def looked (t : Task ApiCall ServiceInterface Empty Reply) : Option MetricsSnapshot :=
  match t.rest with
  | .ret (.http response) => response.snapshot
  | _ => none

theorem looked_some (h : looked t = some m) :
    ∃ response, t.rest = .ret (.http response) ∧ response.snapshot = some m := by
  rw [looked] at h
  split at h
  · rename_i response hr
    exact ⟨response, hr, h⟩
  · cases h

theorem measured_shown : ∃ t ∈ (reached rootTable measured).tasks, ∃ m, looked t = some m := by
  have hany : ((reached rootTable measured).tasks.any fun t => (looked t).isSome) = true := by
    decide +kernel
  obtain ⟨t, ht, hb⟩ := List.any_eq_true.1 hany
  exact ⟨t, ht, Option.isSome_iff_exists.1 hb⟩

theorem metrics_answered_root : ∃ t ∈ (reached rootTable measured).tasks,
    ∃ m r capturedAt seen user, t.request = .http r ∧ r.route = .metrics capturedAt ∧
      seen <+: (reached rootTable measured).shared.effects ∧
      Summary (observations .readable seen) m ∧ m.capturedAt = capturedAt ∧
      Presented (reached rootTable measured).shared.session.history r user ∧
      ∃ v ∈ rootTable.db.users, v.id = user.id ∧ v.role = .admin := by
  obtain ⟨t, ht, m, hl⟩ := measured_shown
  obtain ⟨response, hr, hm⟩ := looked_some hl
  exact ⟨t, ht, m,
    metrics_answered rootTable_seeded measured_run ht hr hm (by decide +kernel)⟩

example : (reached rootTable measured).shared.metrics.pipelineRunCount = 1 := by decide +kernel

end QueryMind.Api
