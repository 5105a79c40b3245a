import QueryMind.Auth.Models
import QueryMind.Lib.Transition

namespace QueryMind.Frontend
set_option autoImplicit true

inductive AuthStatus
  | idle
  | authenticating
  | authenticated
  | unauthenticated
  deriving DecidableEq, Repr

structure AuthState where
  status : AuthStatus
  accessToken : Option String
  refreshToken : Option String
  user : Option Auth.UserRead
  error : Option String
  deriving DecidableEq, Repr

namespace AuthState

def setTokens (s : AuthState) (tokens : Auth.TokenPair) : AuthState :=
  { s with accessToken := some tokens.accessToken, refreshToken := some tokens.refreshToken }

def clear (s : AuthState) : AuthState :=
  { s with status := .unauthenticated, accessToken := none, refreshToken := none, user := none }

def held (s : AuthState) : Bool := s.accessToken.isSome || s.refreshToken.isSome || s.user.isSome

end AuthState

def truthy (token : Option String) : Option String := token.filter (· ≠ "")

/-- What `response.json()` gives, read as each type that a caller may expect; none, and the text of
the exception, where it cannot be read. -/
structure Body where
  detail : Option String
  tokens : Option Auth.TokenPair
  user : Option Auth.UserRead
  syntaxError : String

/-- What an awaited `fetch` comes to. -/
inductive Answer
  | rejected (message : String)
  | response (status : Nat) (body : Body)

def Answer.status : Answer → Option Nat
  | .rejected _ => none
  | .response status _ => some status

/-- The end of `request`, after any retry: the body as its caller expects it, or the text of what it
throws. -/
def Answer.result (read : Body → Option α) : Answer → Except String α
  | .rejected message => .error message
  | .response status body =>
    if 200 ≤ status ∧ status ≤ 299 then
      match read body with
      | some x => .ok x
      | none => .error body.syntaxError
    else .error (body.detail.getD ("Request failed with status " ++ toString status ++ "."))

/-- Who awaits a request that may be retried: `login` or `restoreSession` the user of a session, or
a component. -/
inductive Caller
  | login (session : Nat)
  | restoreSession (session : Nat)
  | component

/-- A request that waits for the shared refresh, with the answer that made it wait. -/
structure Waiter where
  path : String
  caller : Caller
  answer : Answer
  unauthorized : answer.status = some 401

/-- A call of `fetch` under way. -/
inductive Fetch
  | login (session : Nat)
  | restoreSession (session : Nat) (refreshToken : String)
  | performRefresh (session : Nat) (refreshToken : String)
  | logout
  | request (path : String) (caller : Caller) (retried : Bool)

def noRefreshRetryPaths : List String := ["/auth/login", "/auth/refresh", "/auth/logout"]

/-- The store and the calls under way. Sessions are numbered by the calls of `login`; whose tokens
the store got last, whether a logout was the last word, the refresh tokens that were sent to be
refreshed and, for each failure that took something out of the store, the session that failed with
the one whose tokens were there are kept as history. -/
structure Client where
  store : AuthState
  refreshPromise : Option (List Waiter)
  fetches : List Fetch
  logins : Nat
  session : Nat
  loggedOut : Bool
  submitted : List String
  taken : List (Nat × Nat)

def Client.initial (persisted : Option String) : Client where
  store := ⟨.idle, none, persisted, none, none⟩
  refreshPromise := none
  fetches := []
  logins := 0
  session := 0
  loggedOut := false
  submitted := []
  taken := []

namespace Client

def fetch (c : Client) (f : Fetch) : Client := { c with fetches := c.fetches ++ [f] }

def setTokens (c : Client) (session : Nat) (tokens : Auth.TokenPair) : Client :=
  { c with store := c.store.setTokens tokens, session := session }

/-- A flow of a session fails and leaves the store as given. -/
def fail (c : Client) (session : Nat) (store : AuthState) : Client :=
  { c with
    store := store
    taken := c.taken ++ if c.store.held then [(session, c.session)] else [] }

def getCurrentUser (c : Client) (caller : Caller) : Client :=
  c.fetch (.request "/auth/me" caller false)

def refreshTokenPair (c : Client) (token : String) (f : Fetch) : Client :=
  { c.fetch f with submitted := c.submitted ++ [token] }

def settle (c : Client) (answer : Answer) : Caller → Client
  | .login session =>
    match answer.result Body.user with
    | .ok user =>
      { c with
        store := { c.store with status := .authenticated, user := some user, error := none } }
    | .error message => c.fail session { c.store.clear with error := some message }
  | .restoreSession session =>
    match answer.result Body.user with
    | .ok user =>
      { c with
        store := { c.store with status := .authenticated, user := some user, error := none } }
    | .error _ => c.fail session c.store.clear
  | .component => c

/-- The shared refresh has come to its end, with a token or without. -/
def release : Option String → List Waiter → Client → Client
  | _, [], c => c
  | some token, w :: waiting, c =>
    release (some token) waiting (c.fetch (.request w.path w.caller true))
  | none, w :: waiting, c => release none waiting (c.settle w.answer w.caller)

def getRefreshedAccessToken (c : Client) (w : Waiter) : Client :=
  match c.refreshPromise with
  | some waiting => { c with refreshPromise := some (waiting ++ [w]) }
  | none =>
    match truthy c.store.refreshToken with
    | none => c.settle w.answer w.caller
    | some token =>
      { c.refreshTokenPair token (.performRefresh c.session token) with refreshPromise := some [w] }

/-- What awaited the answer of a fetch runs up to the next fetch. -/
def answered (c : Client) (answer : Answer) : Fetch → Client
  | .login session =>
    match answer.result Body.tokens with
    | .ok tokens => (c.setTokens session tokens).getCurrentUser (.login session)
    | .error message => c.fail session { c.store.clear with error := some message }
  | .restoreSession session _ =>
    match answer.result Body.tokens with
    | .ok tokens => (c.setTokens session tokens).getCurrentUser (.restoreSession session)
    | .error _ => c.fail session c.store.clear
  | .performRefresh session _ =>
    let waiting := c.refreshPromise.getD []
    match answer.result Body.tokens with
    | .ok tokens =>
      release (truthy (some tokens.accessToken)) waiting
        { c.setTokens session tokens with refreshPromise := none }
    | .error _ =>
      release none waiting { c.fail session c.store.clear with refreshPromise := none }
  | .logout => c
  | .request path caller retried =>
    if h : answer.status = some 401 ∧ path ∉ noRefreshRetryPaths ∧ retried = false then
      c.getRefreshedAccessToken ⟨path, caller, answer, h.1⟩
    else c.settle answer caller

end Client

/-- A call of the client, or the answer to one of the fetches under way. -/
inductive ClientEvent
  | login
  | logout
  | restoreSession
  | request (path : String)
  | answer (i : Nat) (answer : Answer)

namespace Client

def login (c : Client) : Client :=
  { c with
    store := { c.store with status := .authenticating, error := none }
    fetches := c.fetches ++ [.login (c.logins + 1)]
    logins := c.logins + 1
    loggedOut := false }

def logout (c : Client) : Client :=
  { c with
    store := ⟨.unauthenticated, none, none, none, none⟩
    fetches := c.fetches ++ (truthy c.store.refreshToken).toList.map fun _ => .logout
    loggedOut := true }

def restoreSession (c : Client) : Client :=
  match truthy c.store.refreshToken with
  | none => { c with store := { c.store with status := .unauthenticated } }
  | some token =>
    { c.refreshTokenPair token (.restoreSession c.session token) with
      store := { c.store with status := .authenticating } }

def step (c : Client) : ClientEvent → Client
  | .login => c.login
  | .logout => c.logout
  | .restoreSession => c.restoreSession
  | .request path => c.fetch (.request path .component false)
  | .answer i answer =>
    match c.fetches[i]? with
    | none => c
    | some f => { c with fetches := c.fetches.eraseIdx i }.answered answer f

theorem settle_frame (c : Client) (answer : Answer) (caller : Caller) :
    ∃ store taken, c.settle answer caller = { c with store := store, taken := taken } ∧
      (store.refreshToken = c.store.refreshToken ∨ store.refreshToken = none) := by
  cases caller with
  | component => exact ⟨_, _, rfl, .inl rfl⟩
  | login session =>
    rw [settle]
    split
    · exact ⟨_, _, rfl, .inl rfl⟩
    · exact ⟨_, _, rfl, .inr rfl⟩
  | restoreSession session =>
    rw [settle]
    split
    · exact ⟨_, _, rfl, .inl rfl⟩
    · exact ⟨_, _, rfl, .inr rfl⟩

theorem release_some (token : String) (waiting : List Waiter) (c : Client) :
    release (some token) waiting c =
      { c with fetches := c.fetches ++ waiting.map fun w => .request w.path w.caller true } := by
  induction waiting generalizing c with
  | nil => rw [release, List.map_nil, List.append_nil]
  | cons w waiting ih =>
    rw [release, ih, fetch, List.map_cons, List.append_assoc, List.singleton_append]

theorem release_none (waiting : List Waiter) (c : Client) :
    ∃ store taken, release none waiting c = { c with store := store, taken := taken } ∧
      (store.refreshToken = c.store.refreshToken ∨ store.refreshToken = none) := by
  induction waiting generalizing c with
  | nil => exact ⟨_, _, rfl, .inl rfl⟩
  | cons w waiting ih =>
    obtain ⟨store, taken, hs, ht⟩ := c.settle_frame w.answer w.caller
    obtain ⟨store', taken', hs', ht'⟩ := ih (c.settle w.answer w.caller)
    rw [hs] at hs' ht'
    refine ⟨store', taken', ?_, ?_⟩
    · rw [release, hs, hs']
    · rcases ht' with ht' | ht'
      · rcases ht with ht | ht
        · exact .inl (ht'.trans ht)
        · exact .inr (ht'.trans ht)
      · exact .inr ht'

end Client

end QueryMind.Frontend
