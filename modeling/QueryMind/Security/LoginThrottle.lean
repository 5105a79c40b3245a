import QueryMind.Auth.Login
import QueryMind.Lib.Json
import QueryMind.Security.RateLimiter
import Mathlib.Algebra.BigOperators.Ring.Finset
import Mathlib.Algebra.Order.BigOperators.Group.Finset

namespace QueryMind.Security
open Lib InMemoryTokenBucketRateLimiter
set_option autoImplicit true

structure Settings where
  rateLimitGeneralPerMinute : Nat := 300
  rateLimitLoginPerMinute : Nat := 5
  rateLimitRegisterPerHour : Nat := 3
  rateLimitRefreshPerMinute : Nat := 20
  rateLimitQueryPerMinute : Nat := 30
  general_pos : 0 < rateLimitGeneralPerMinute := by decide
  login_pos : 0 < rateLimitLoginPerMinute := by decide
  register_pos : 0 < rateLimitRegisterPerHour := by decide
  refresh_pos : 0 < rateLimitRefreshPerMinute := by decide
  query_pos : 0 < rateLimitQueryPerMinute := by decide

/-- What a bucket counts, and for whom. -/
inductive Scope
  | generalIp
  | loginIp
  | loginUsername
  | registerIp
  | refreshIp
  | queryUser
  deriving DecidableEq, Repr

namespace Scope

def label : Scope → String
  | .generalIp => "general:ip:"
  | .loginIp => "login:ip:"
  | .loginUsername => "login:username:"
  | .registerIp => "register:ip:"
  | .refreshIp => "refresh:ip:"
  | .queryUser => "query:user:"

def key (s : Scope) (who : String) : String := s.label ++ who

def capacity (settings : Settings) : Scope → Nat
  | .generalIp => settings.rateLimitGeneralPerMinute
  | .loginIp => settings.rateLimitLoginPerMinute
  | .loginUsername => settings.rateLimitLoginPerMinute
  | .registerIp => settings.rateLimitRegisterPerHour
  | .refreshIp => settings.rateLimitRefreshPerMinute
  | .queryUser => settings.rateLimitQueryPerMinute

def period : Scope → Nat
  | .registerIp => 3600
  | _ => 60

def refillPerSecond (settings : Settings) (s : Scope) : Rat := s.capacity settings / s.period

def check (settings : Settings) (s : Scope) (who : String) (now : Rat) : RateLimitCheck :=
  ⟨s.key who, s.capacity settings, s.refillPerSecond settings, now⟩

@[simp] theorem check_key : (check settings s who now).key = s.key who := rfl

end Scope

def showIp : Option String → String
  | none => "None"
  | some ip => ip

/-- A login as it arrives: who sends it, the text it carries, decoded where it is JSON, whether it
is read as JSON by its content type, and the clock readings of the two checks. -/
structure LoginAttempt where
  ip : Option String
  body : Option Json
  contentTypeJson : Bool
  ipNow : Rat
  usernameNow : Rat

structure RateLimitExceededError where
  message : String
  retryAfterSeconds : Option Rat
  deriving DecidableEq, Repr

def raiseIfBlocked (decision : RateLimitDecision) : Except RateLimitExceededError Unit :=
  if !decision.allowed then
    .error ⟨"Too many requests. Please slow down and try again shortly.",
      decision.retryAfterSeconds⟩
  else
    .ok ()

def getAttemptedUsername (body : Option Json) : Option String :=
  match body with
  | some (.obj members) =>
    match (Json.obj members).child (.name "username") with
    | some (.str username) => some username
    | _ => none
  | _ => none

/-- Both buckets are charged before either of them blocks. -/
def checkLoginRateLimit (settings : Settings) (l : InMemoryTokenBucketRateLimiter)
    (a : LoginAttempt) : Except RateLimitExceededError Unit × InMemoryTokenBucketRateLimiter :=
  let ip := l.check (Scope.loginIp.check settings (showIp a.ip) a.ipNow)
  match getAttemptedUsername a.body with
  | some username =>
    if username ≠ "" then
      let name := ip.2.check (Scope.loginUsername.check settings username a.usernameNow)
      (if !ip.1.allowed then raiseIfBlocked ip.1 else raiseIfBlocked name.1, name.2)
    else
      (raiseIfBlocked ip.1, ip.2)
  | none => (raiseIfBlocked ip.1, ip.2)

structure UserLogin where
  username : String
  password : String
  deriving DecidableEq, Repr

def userLogin : Json → Option UserLogin
  | .obj members =>
    match (Json.obj members).child (.name "username"),
      (Json.obj members).child (.name "password") with
    | some (.str username), some (.str password) =>
      if members.all (fun m => m.1 = "username" || m.1 = "password") then
        some ⟨username, password⟩
      else
        none
    | _, _ => none
  | _ => none

def LoginAttempt.form (a : LoginAttempt) : Option UserLogin :=
  if a.contentTypeJson then a.body.bind userLogin else none

/-- What happens at the service: a login, a check of another limit, a call that is not limited
here. -/
inductive ApiEvent
  | login (attempt : LoginAttempt)
  | general (ip : Option String) (now : Rat)
  | register (ip : Option String) (now : Rat)
  | refresh (ip : Option String) (now : Rat)
  | query (userId : Nat) (now : Rat)
  | call (request : Auth.Request)

structure Gateway where
  limiter : InMemoryTokenBucketRateLimiter
  session : Auth.Session

namespace Gateway

def initial : Gateway := ⟨InMemoryTokenBucketRateLimiter.initial, .initial⟩

section
variable (settings : Settings) (env : Auth.Environment)

def admits (g : Gateway) (a : LoginAttempt) : Option UserLogin :=
  match (checkLoginRateLimit settings g.limiter a).1 with
  | .error _ => none
  | .ok () => a.form

def login (s : Auth.Session) (form : UserLogin) : Auth.Session :=
  let s' := s.perform env (.authenticate form.username form.password)
  match s'.history.getLast? with
  | some ⟨_, .ok (.user user)⟩ => s'.perform env (.createTokenPair user.id)
  | _ => s'

def checkOnly (g : Gateway) (q : RateLimitCheck) : Gateway :=
  { g with limiter := (g.limiter.check q).2 }

def perform (g : Gateway) : ApiEvent → Gateway
  | .login a =>
    { limiter := (checkLoginRateLimit settings g.limiter a).2
      session :=
        match g.admits settings a with
        | none => g.session
        | some form => login env g.session form }
  | .general ip now => g.checkOnly (Scope.generalIp.check settings (showIp ip) now)
  | .register ip now => g.checkOnly (Scope.registerIp.check settings (showIp ip) now)
  | .refresh ip now => g.checkOnly (Scope.refreshIp.check settings (showIp ip) now)
  | .query userId now => g.checkOnly (Scope.queryUser.check settings userId.repr now)
  | .call r => { g with session := g.session.perform env r }

def run (g : Gateway) : List ApiEvent → Gateway
  | [] => g
  | e :: es => (g.perform settings env e).run es

/-- The account a login form names in the state it meets. -/
def names (g : Gateway) (account : Nat) (form : UserLogin) : Bool :=
  (g.session.world.db.findByUsernameOrEmail form.username form.username).any (·.id = account)

/-- The text by which an attempt that reaches `authenticate` names an account. -/
def reaches (account : Nat) (g : Gateway) : ApiEvent → List String
  | .login a => ((g.admits settings a).filter (g.names account)).toList.map (·.username)
  | _ => []

/-- The text by which a login form names an account, let through or not. -/
def submits (account : Nat) (g : Gateway) : ApiEvent → List String
  | .login a => (a.form.filter (g.names account)).toList.map (·.username)
  | _ => []

def collect (f : Gateway → ApiEvent → List String) (g : Gateway) : List ApiEvent → List String
  | [] => []
  | e :: es => f g e ++ collect f (g.perform settings env e) es

def reached (account : Nat) (g : Gateway) (es : List ApiEvent) : List String :=
  collect settings env (reaches settings account) g es

def submitted (account : Nat) (g : Gateway) (es : List ApiEvent) : List String :=
  collect settings env (submits account) g es

end
end Gateway

open Gateway

def checks (settings : Settings) : ApiEvent → List RateLimitCheck
  | .login a =>
    Scope.loginIp.check settings (showIp a.ip) a.ipNow ::
      match getAttemptedUsername a.body with
      | some username =>
        if username ≠ "" then [Scope.loginUsername.check settings username a.usernameNow] else []
      | none => []
  | .general ip now => [Scope.generalIp.check settings (showIp ip) now]
  | .register ip now => [Scope.registerIp.check settings (showIp ip) now]
  | .refresh ip now => [Scope.refreshIp.check settings (showIp ip) now]
  | .query userId now => [Scope.queryUser.check settings userId.repr now]
  | .call _ => []

theorem perform_limiter (settings : Settings) (env : Auth.Environment) (g : Gateway)
    (e : ApiEvent) : (g.perform settings env e).limiter = g.limiter.after (checks settings e) := by
  cases e with
  | login a =>
    simp only [perform, checkLoginRateLimit, checks, after]
    cases getAttemptedUsername a.body with
    | none => rfl
    | some username =>
      simp only
      split
      · rfl
      · rfl
  | call r => rfl
  | _ => rfl

theorem run_limiter (settings : Settings) (env : Auth.Environment) (g : Gateway)
    (es : List ApiEvent) :
    (g.run settings env es).limiter = g.limiter.after (es.flatMap (checks settings)) := by
  induction es generalizing g with
  | nil => rfl
  | cons e es ih =>
    rw [run, ih, perform_limiter, List.flatMap_cons, after_append]

theorem key_loginUsername (h : Scope.key s who = Scope.loginUsername.key text) :
    s = .loginUsername ∧ who = text := by
  have hl := congrArg String.toList h
  cases s with
  | loginUsername =>
    simp only [Scope.key, Scope.label, String.toList_append, List.append_cancel_left_eq] at hl
    exact ⟨rfl, String.toList_inj.1 hl⟩
  | _ =>
    exfalso
    simp [Scope.key, Scope.label] at hl

theorem mem_checks (h : q ∈ checks settings e) :
    ∃ s who now, q = Scope.check settings s who now := by
  cases e with
  | login a =>
    rcases List.mem_cons.1 h with h | h
    · exact ⟨_, _, _, h⟩
    · split at h
      · split at h
        · exact ⟨_, _, _, List.mem_singleton.1 h⟩
        · cases h
      · cases h
  | call r => cases h
  | _ => exact ⟨_, _, _, List.mem_singleton.1 h⟩

theorem checks_uniform (settings : Settings) (text : String) (es : List ApiEvent) :
    Uniform (Scope.loginUsername.key text) settings.rateLimitLoginPerMinute
      (Scope.loginUsername.refillPerSecond settings) (es.flatMap (checks settings)) := by
  intro q hq hk
  obtain ⟨e, _, hq⟩ := List.mem_flatMap.1 hq
  obtain ⟨s, who, now, rfl⟩ := mem_checks hq
  obtain ⟨rfl, _⟩ := key_loginUsername hk
  exact ⟨rfl, rfl⟩

theorem checks_now {text : String} (hq : q ∈ checks settings e)
    (hk : q.key = Scope.loginUsername.key text) : ∃ a, e = .login a ∧ q.now = a.usernameNow := by
  cases e with
  | login a =>
    refine ⟨a, rfl, ?_⟩
    rcases List.mem_cons.1 hq with h | h
    · rw [h] at hk
      cases (key_loginUsername hk).1
    · split at h
      · split at h
        · rw [List.mem_singleton.1 h]
          rfl
        · cases h
      · cases h
  | call r => cases hq
  | _ =>
    rw [List.mem_singleton.1 hq] at hk
    cases (key_loginUsername hk).1

theorem userLogin_attempted (h : userLogin body = some form) :
    getAttemptedUsername (some body) = some form.username := by
  cases body with
  | obj members =>
    simp only [userLogin] at h
    simp only [getAttemptedUsername]
    split at h
    · rename_i u p hu hp
      split at h
      · cases h
        rw [hu]
      · cases h
    · cases h
  | _ => cases h

theorem form_attempted {a : LoginAttempt} (h : a.form = some form) :
    getAttemptedUsername a.body = some form.username := by
  rw [LoginAttempt.form] at h
  split at h
  · cases hb : a.body with
    | none =>
      rw [hb] at h
      cases h
    | some body =>
      rw [hb] at h
      exact userLogin_attempted h
  · cases h

theorem raiseIfBlocked_ok (h : raiseIfBlocked d = .ok ()) : d.allowed = true := by
  rw [raiseIfBlocked] at h
  split at h
  · cases h
  · rename_i hn
    simpa only [Bool.not_eq_true', Bool.not_eq_false] using hn

theorem admits_allowed {g : Gateway} (h : g.admits settings a = some form)
    (hne : form.username ≠ "") : a.form = some form ∧
      allowed (Scope.loginUsername.key form.username) g.limiter (checks settings (.login a)) =
        1 := by
  rw [admits] at h
  split at h
  · cases h
  · rename_i hok
    refine ⟨h, ?_⟩
    have hu := form_attempted h
    simp only [checkLoginRateLimit, hu, if_pos hne] at hok
    have hname : ((g.limiter.check (Scope.loginIp.check settings (showIp a.ip) a.ipNow)).2.check
        (Scope.loginUsername.check settings form.username a.usernameNow)).1.allowed = true := by
      split at hok
      · rename_i hb
        have ha := raiseIfBlocked_ok hok
        rw [ha] at hb
        cases hb
      · exact raiseIfBlocked_ok hok
    have hip : (Scope.loginIp.check settings (showIp a.ip) a.ipNow).key ≠
        Scope.loginUsername.key form.username := by
      intro he
      cases (key_loginUsername he).1
    simp only [checks, hu, if_pos hne]
    rw [allowed, answers, if_neg hip, answers, if_pos (Scope.check_key), answers,
      List.countP_singleton, hname]
    rfl

theorem reached_allowed (settings : Settings) (env : Auth.Environment) (account : Nat)
    (hne : text ≠ "") (g : Gateway) (es : List ApiEvent) :
    (reached settings env account g es).count text ≤
      allowed (Scope.loginUsername.key text) g.limiter (es.flatMap (checks settings)) := by
  induction es generalizing g with
  | nil => exact Nat.zero_le _
  | cons e es ih =>
    have hr := ih (g.perform settings env e)
    rw [perform_limiter] at hr
    rw [List.flatMap_cons, allowed_append, reached, collect, List.count_append]
    refine Nat.add_le_add ?_ hr
    cases e with
    | login a =>
      rw [reaches]
      cases ha : g.admits settings a with
      | none => exact Nat.zero_le _
      | some form =>
        by_cases hn : form.username = text
        · subst hn
          rw [(admits_allowed ha hne).2]
          rw [Option.filter_some]
          split
          · exact List.count_le_length
          · exact Nat.zero_le _
        · rw [Option.filter_some]
          split
          · exact (List.count_eq_zero.2 fun hm => hn (List.mem_singleton.1 hm).symm).trans_le
              (Nat.zero_le _)
          · exact Nat.zero_le _
    | _ => exact Nat.zero_le _

/-- The readings of the attempts of a run lie in a span of time. -/
def InSpan (t₀ t : Rat) (es : List ApiEvent) : Prop :=
  ∀ a, ApiEvent.login a ∈ es → t₀ ≤ a.usernameNow ∧ a.usernameNow ≤ t₀ + t

section Throttle
variable (settings : Settings) (env : Auth.Environment)

theorem reached_per_text (pre mid : List ApiEvent) (account : Nat) (hne : text ≠ "")
    (ht : 0 ≤ t) (hs : InSpan t₀ t mid) :
    ((reached settings env account (initial.run settings env pre) mid).count text : Rat) ≤
      settings.rateLimitLoginPerMinute + Scope.loginUsername.refillPerSecond settings * t := by
  have hr := reached_allowed settings env account hne (initial.run settings env pre) mid
  rw [run_limiter] at hr
  have hpos : (0 : Rat) < Scope.loginUsername.refillPerSecond settings :=
    div_pos (Nat.cast_pos.2 settings.login_pos) (by norm_num [Scope.period])
  have hu := checks_uniform settings text (pre ++ mid)
  rw [List.flatMap_append] at hu
  have hc : (1 : Int) ≤ settings.rateLimitLoginPerMinute := by exact_mod_cast settings.login_pos
  have hq : ∀ q ∈ mid.flatMap (checks settings), q.key = Scope.loginUsername.key text →
      t₀ ≤ q.now ∧ q.now ≤ t₀ + t := by
    intro q hq hk
    obtain ⟨e, he, hq⟩ := List.mem_flatMap.1 hq
    obtain ⟨a, rfl, hn⟩ := checks_now hq hk
    rw [hn]
    exact hs a he
  have hb := span_allowed hc hpos hu ht hq
  apply (Nat.cast_le.2 hr).trans
  exact_mod_cast hb

theorem reaches_submits (account : Nat) (g : Gateway) (e : ApiEvent)
    (h : text ∈ reaches settings account g e) : text ∈ submits account g e := by
  cases e with
  | login a =>
    rw [reaches] at h
    rw [submits]
    rw [admits] at h
    split at h
    · cases h
    · exact h
  | _ => cases h

theorem reached_submitted (account : Nat) (g : Gateway) (es : List ApiEvent)
    (h : text ∈ reached settings env account g es) :
    text ∈ submitted settings env account g es := by
  induction es generalizing g with
  | nil => cases h
  | cons e es ih =>
    rcases List.mem_append.1 h with h | h
    · exact List.mem_append_left _ (reaches_submits settings account g e h)
    · exact List.mem_append_right _ (ih _ h)

/-- Every spelling of an account brings its own bucket: attempts on an account are throttled by one
bucket in every span in which the forms that name it all spell it the same way. -/
theorem login_throttled (pre mid : List ApiEvent) (account : Nat) (ht : 0 ≤ t)
    (hs : InSpan t₀ t mid) :
    ("" ∉ submitted settings env account (initial.run settings env pre) mid →
      ((reached settings env account (initial.run settings env pre) mid).length : Rat) ≤
        (reached settings env account (initial.run settings env pre) mid).toFinset.card *
          (settings.rateLimitLoginPerMinute + Scope.loginUsername.refillPerSecond settings * t)) ∧
    ∀ text, text ≠ "" →
      (∀ s ∈ submitted settings env account (initial.run settings env pre) mid, s = text) →
      ((reached settings env account (initial.run settings env pre) mid).length : Rat) ≤
        settings.rateLimitLoginPerMinute + Scope.loginUsername.refillPerSecond settings * t := by
  constructor
  · intro hne
    rw [← List.sum_toFinset_count_eq_length, Nat.cast_sum, ← nsmul_eq_mul]
    apply Finset.sum_le_card_nsmul
    intro text hm
    apply reached_per_text settings env pre mid account _ ht hs
    intro he
    rw [he, List.mem_toFinset] at hm
    exact hne (reached_submitted settings env account _ _ hm)
  · intro text hne hone
    rw [← List.count_eq_length.2 fun s hm =>
      (hone s (reached_submitted settings env account _ _ hm)).symm]
    exact reached_per_text settings env pre mid account hne ht hs

end Throttle

def guess (ip username : String) : ApiEvent :=
  .login ⟨some ip, some (.obj [("username", .str username), ("password", .str "letmein")]), true,
    0, 0⟩

def addresses : List String :=
  ["192.0.2.1", "192.0.2.2", "192.0.2.3", "192.0.2.4", "192.0.2.5", "192.0.2.6"]

def oneSpelling : List ApiEvent := addresses.map (guess · "alice")

def twoSpellings : List ApiEvent :=
  oneSpelling ++ addresses.map (guess · "alice@example.com")

theorem login_throttled_alice :
    ((reached {} .readable 1 (initial.run {} .readable [.call Auth.alice.request])
        twoSpellings).length : Rat) ≤
      (reached {} .readable 1 (initial.run {} .readable [.call Auth.alice.request])
        twoSpellings).toFinset.card *
        ((5 : Nat) + Scope.loginUsername.refillPerSecond {} * 0) ∧
    ((reached {} .readable 1 (initial.run {} .readable [.call Auth.alice.request])
        oneSpelling).length : Rat) ≤
      (5 : Nat) + Scope.loginUsername.refillPerSecond {} * 0 := by
  have htwo : InSpan 0 0 twoSpellings := by
    simp [InSpan, twoSpellings, oneSpelling, addresses, guess]
  have hone : InSpan 0 0 oneSpelling := by
    simp [InSpan, oneSpelling, addresses, guess]
  constructor
  · exact (login_throttled {} .readable [.call Auth.alice.request] twoSpellings 1 (le_refl _)
      htwo).1 (by decide +kernel)
  · exact (login_throttled {} .readable [.call Auth.alice.request] oneSpelling 1 (le_refl _)
      hone).2 "alice" (by decide) (by decide +kernel)

/-- Guesses by username and guesses by email fill two buckets. -/
theorem spellings_double :
    ¬ ∀ (settings : Settings) (env : Auth.Environment) (pre mid : List ApiEvent) (account : Nat)
      (t₀ t : Rat), 0 ≤ t → InSpan t₀ t mid →
      ((reached settings env account (initial.run settings env pre) mid).length : Rat) ≤
        settings.rateLimitLoginPerMinute + Scope.loginUsername.refillPerSecond settings * t := by
  intro h
  have hs : InSpan 0 0 twoSpellings := by
    simp [InSpan, twoSpellings, oneSpelling, addresses, guess]
  have hn := h {} .readable [.call Auth.alice.request] twoSpellings 1 0 0 (le_refl _) hs
  have hten : (reached {} .readable 1 (initial.run {} .readable [.call Auth.alice.request])
      twoSpellings).length = 10 := by decide +kernel
  rw [hten] at hn
  norm_num at hn

end QueryMind.Security
