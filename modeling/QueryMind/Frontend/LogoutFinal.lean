import QueryMind.Frontend.AuthStore

namespace QueryMind.Frontend
open Lib
set_option autoImplicit true

/-- The session that its caller fails in when a request does. -/
def Caller.sessions : Caller → List Nat
  | .login session => [session]
  | .restoreSession session => [session]
  | .component => []

namespace Fetch

def grants (answer : Answer) : Fetch → Option Auth.TokenPair
  | .login _ => (answer.result Body.tokens).toOption
  | .restoreSession _ _ => (answer.result Body.tokens).toOption
  | .performRefresh _ _ => (answer.result Body.tokens).toOption
  | .logout => none
  | .request _ _ _ => none

/-- The user that an answer brings to `login` or `restoreSession`. -/
def admits (answer : Answer) : Fetch → Option Auth.UserRead
  | .request _ (.login _) _ => (answer.result Body.user).toOption
  | .request _ (.restoreSession _) _ => (answer.result Body.user).toOption
  | _ => none

end Fetch

namespace Client

/-- The sessions of the flows that fail with an answer, in the order in which they run. -/
def failing (c : Client) (answer : Answer) : Fetch → List Nat
  | .login session => if (answer.result Body.tokens).toBool then [] else [session]
  | .restoreSession session _ => if (answer.result Body.tokens).toBool then [] else [session]
  | .performRefresh session _ =>
    let waiting := (c.refreshPromise.getD []).flatMap fun w => w.caller.sessions
    match answer.result Body.tokens with
    | .ok tokens => if (truthy (some tokens.accessToken)).isSome then [] else waiting
    | .error _ => session :: waiting
  | .logout => []
  | .request path caller retried =>
    if answer.status = some 401 ∧ path ∉ noRefreshRetryPaths ∧ retried = false then
      if c.refreshPromise.isNone ∧ (truthy c.store.refreshToken).isNone then caller.sessions else []
    else if (answer.result Body.user).toBool then [] else caller.sessions

/-- The session whose tokens the store holds, if it holds anything, when the first flow fails: a
refresh that brings an empty access token has put its tokens there by then. -/
def holder (c : Client) (answer : Answer) : Fetch → Option Nat
  | .performRefresh session _ =>
    if (answer.result Body.tokens).toBool then some session
    else if c.store.held then some c.session else none
  | _ => if c.store.held then some c.session else none

def answering (c : Client) : ClientEvent → Option (Fetch × Answer)
  | .answer i answer => c.fetches[i]?.map fun f => (f, answer)
  | _ => none

def granted (c : Client) (e : ClientEvent) : Option Auth.TokenPair :=
  (c.answering e).bind fun x => x.1.grants x.2

def admitted (c : Client) (e : ClientEvent) : Option Auth.UserRead :=
  (c.answering e).bind fun x => x.1.admits x.2

def failed (c : Client) (e : ClientEvent) : List Nat :=
  ((c.answering e).map fun x => c.failing x.2 x.1).getD []

def holding (c : Client) (e : ClientEvent) : Option Nat :=
  (c.answering e).bind fun x => c.holder x.2 x.1

end Client

/-- After a logout nothing of a session is held, and no one is authenticated without an access
token. -/
structure Consistent (c : Client) : Prop where
  loggedOut : c.loggedOut = true → c.store.held = false
  authenticated : c.store.status = .authenticated → c.store.accessToken.isSome = true

/-- A step after which the client is consistent. No flow that failed has taken the tokens of a newer
session out of the store, and where no failure took anything an answer leaves the tokens, unless it
brings others. -/
structure Final (c : Client) (e : ClientEvent) : Prop where
  after : Consistent (c.step e)
  newer : ∀ x ∈ (c.step e).taken, x.2 ≤ x.1
  kept : (c.answering e).isSome = true → (c.step e).taken = c.taken → c.granted e = none →
    (c.step e).store.accessToken = c.store.accessToken ∧
      (c.step e).store.refreshToken = c.store.refreshToken

/-- No answer comes too late: tokens after a logout, unless a flow that waits for them fails on an
empty one; a user after the access token was cleared; a failure that hits the store first and is of
an older session than the store's. -/
structure Timely (c : Client) (e : ClientEvent) : Prop where
  tokens : c.loggedOut = true → (c.granted e).isSome = true → c.failed e ≠ []
  user : (c.admitted e).isSome = true → c.store.accessToken.isSome = true
  newer : ∀ first holder, (c.failed e).head? = some first → c.holding e = some holder →
    holder ≤ first

/-- The session is gone. -/
structure AuthState.Emptied (s : AuthState) : Prop where
  held : s.held = false
  status : s.status = .unauthenticated

theorem held_eq_false {s : AuthState} (h : s.held = false) :
    s.accessToken = none ∧ s.refreshToken = none := by
  simp only [AuthState.held, Bool.or_eq_false_iff, Option.isSome_eq_false_iff,
    Option.isNone_iff_eq_none] at h
  exact h.1

theorem AuthState.Emptied.tokens {s : AuthState} (h : s.Emptied) :
    s.accessToken = none ∧ s.refreshToken = none := held_eq_false h.held

theorem clear_emptied (s : AuthState) : s.clear.Emptied := ⟨rfl, rfl⟩

theorem fails_of_unauthorized {answer : Answer} (h : answer.status = some 401)
    (read : Body → Option α) : ∃ message, answer.result read = .error message := by
  cases answer with
  | rejected message => cases h
  | response status body =>
    cases Option.some.inj h
    exact ⟨_, rfl⟩

theorem fail_fail (c : Client) {store : AuthState} (h : store.Emptied) (first session : Nat)
    (store' : AuthState) : (c.fail first store).fail session store' = c.fail first store' := by
  rw [Client.fail, Client.fail, Client.fail, h.held, if_neg Bool.false_ne_true, List.append_nil]

theorem settle_error (c : Client) {answer : Answer} (h : answer.result Body.user = .error message)
    (caller : Caller) : (caller.sessions = [] ∧ c.settle answer caller = c) ∨
      ∃ session store, caller.sessions = [session] ∧ store.Emptied ∧
        c.settle answer caller = c.fail session store := by
  cases caller with
  | login session =>
    right
    rw [Client.settle, h]
    exact ⟨session, _, rfl, ⟨rfl, rfl⟩, rfl⟩
  | restoreSession session =>
    right
    rw [Client.settle, h]
    exact ⟨session, _, rfl, clear_emptied _, rfl⟩
  | component => exact .inl ⟨rfl, rfl⟩

theorem release_none_cases (waiting : List Waiter) (c : Client) :
    ((waiting.flatMap fun w => w.caller.sessions) = [] ∧ Client.release none waiting c = c) ∨
      ∃ first rest store, (waiting.flatMap fun w => w.caller.sessions) = first :: rest ∧
        store.Emptied ∧ Client.release none waiting c = c.fail first store := by
  induction waiting generalizing c with
  | nil => exact .inl ⟨rfl, rfl⟩
  | cons w waiting ih =>
    obtain ⟨message, hm⟩ := fails_of_unauthorized w.unauthorized Body.user
    have hrel : Client.release none (w :: waiting) c =
        Client.release none waiting (c.settle w.answer w.caller) := rfl
    rw [List.flatMap_cons, hrel]
    rcases settle_error c hm w.caller with ⟨hs, he⟩ | ⟨session, store, hs, hempty, he⟩
    · rw [hs, he]
      exact ih c
    · right
      rw [hs, he]
      rcases ih (c.fail session store) with ⟨_, hr⟩ | ⟨first, rest, store', _, hempty', hr⟩
      · exact ⟨session, _, store, rfl, hempty, hr⟩
      · refine ⟨session, _, store', rfl, hempty', ?_⟩
        rw [hr, fail_fail c hempty]

theorem fail_release (c : Client) {store : AuthState} (h : store.Emptied) (session : Nat)
    (waiting : List Waiter) : ∃ store', store'.Emptied ∧
      Client.release none waiting { c.fail session store with refreshPromise := none } =
        { c.fail session store' with refreshPromise := none } := by
  rcases release_none_cases waiting { c.fail session store with refreshPromise := none } with
    ⟨_, hr⟩ | ⟨first, rest, store', _, hempty, hr⟩
  · exact ⟨store, h, hr⟩
  · refine ⟨store', hempty, hr.trans ?_⟩
    have hf := fail_fail { c with refreshPromise := none } h session first store'
    exact hf

/-- What an answer can do to the store and to the history of failures. -/
inductive Outcome (c : Client) (answer : Answer) (f : Fetch) (d : Client) : Prop
  | fails (hf : c.failing answer f = first :: rest) (ha : f.admits answer = none)
      (hs : d.store.Emptied)
      (ht : d.taken = c.taken ++ ((c.holder answer f).map (Prod.mk first)).toList)
  | grants (hf : c.failing answer f = []) (hg : f.grants answer = some tokens)
      (ha : f.admits answer = none) (hs : d.store = c.store.setTokens tokens)
      (ht : d.taken = c.taken)
  | admits (hf : c.failing answer f = []) (hg : f.grants answer = none)
      (ha : f.admits answer = some user)
      (hs : d.store = { c.store with status := .authenticated, user := some user, error := none })
      (ht : d.taken = c.taken)
  | keeps (hf : c.failing answer f = []) (hg : f.grants answer = none)
      (ha : f.admits answer = none) (hs : d.store = c.store) (ht : d.taken = c.taken)

theorem fail_taken (c : Client) (session : Nat) (store : AuthState) :
    (c.fail session store).taken = c.taken ++
      ((if c.store.held then some c.session else none).map (Prod.mk session)).toList := by
  rw [Client.fail]
  split <;> rfl

theorem login_outcome (c : Client) (answer : Answer) (session : Nat) :
    Outcome c answer (.login session) (c.answered answer (.login session)) := by
  cases h : answer.result Body.tokens with
  | ok tokens =>
    rw [Client.answered, h]
    refine .grants ?_ ?_ rfl rfl rfl
    · rw [Client.failing, h]
      rfl
    · rw [Fetch.grants, h]
      rfl
  | error message =>
    have hf : c.failing answer (.login session) = [session] := by
      rw [Client.failing, h]
      rfl
    rw [Client.answered, h]
    exact .fails hf rfl ⟨rfl, rfl⟩ (fail_taken c session _)

theorem restoreSession_outcome (c : Client) (answer : Answer) (session : Nat) (token : String) :
    Outcome c answer (.restoreSession session token)
      (c.answered answer (.restoreSession session token)) := by
  cases h : answer.result Body.tokens with
  | ok tokens =>
    rw [Client.answered, h]
    refine .grants ?_ ?_ rfl rfl rfl
    · rw [Client.failing, h]
      rfl
    · rw [Fetch.grants, h]
      rfl
  | error message =>
    have hf : c.failing answer (.restoreSession session token) = [session] := by
      rw [Client.failing, h]
      rfl
    rw [Client.answered, h]
    exact .fails hf rfl (clear_emptied _) (fail_taken c session _)

theorem performRefresh_outcome (c : Client) (answer : Answer) (session : Nat) (token : String) :
    Outcome c answer (.performRefresh session token)
      (c.answered answer (.performRefresh session token)) := by
  cases h : answer.result Body.tokens with
  | ok tokens =>
    have hg : (Fetch.performRefresh session token).grants answer = some tokens := by
      rw [Fetch.grants, h]
      rfl
    have hh : c.holder answer (.performRefresh session token) = some session := by
      rw [Client.holder, h]
      rfl
    rw [Client.answered, h]
    cases ht : truthy (some tokens.accessToken) with
    | some access =>
      have hf : c.failing answer (.performRefresh session token) = [] := by
        rw [Client.failing, h]
        exact if_pos (by rw [ht]; rfl)
      show Outcome c answer _ (Client.release (truthy (some tokens.accessToken)) _ _)
      rw [ht, Client.release_some]
      exact .grants hf hg rfl rfl rfl
    | none =>
      have hf : c.failing answer (.performRefresh session token) =
          (c.refreshPromise.getD []).flatMap fun w => w.caller.sessions := by
        rw [Client.failing, h]
        exact if_neg (by rw [ht]; exact Bool.false_ne_true)
      show Outcome c answer _ (Client.release (truthy (some tokens.accessToken)) _ _)
      rw [ht]
      rcases release_none_cases (c.refreshPromise.getD [])
        { c.setTokens session tokens with refreshPromise := none } with
        ⟨hn, hr⟩ | ⟨first, rest, store, hn, hempty, hr⟩
      · rw [hr]
        exact .grants (hf.trans hn) hg rfl rfl rfl
      · rw [hr]
        refine .fails (hf.trans hn) rfl hempty ?_
        rw [hh]
        rfl
  | error message =>
    have hh : c.holder answer (.performRefresh session token) =
        if c.store.held then some c.session else none := by
      rw [Client.holder, h]
      rfl
    have hf : c.failing answer (.performRefresh session token) =
        session :: (c.refreshPromise.getD []).flatMap fun w => w.caller.sessions := by
      rw [Client.failing, h]
    rw [Client.answered, h]
    obtain ⟨store, hempty, hr⟩ :=
      fail_release c (clear_emptied c.store) session (c.refreshPromise.getD [])
    show Outcome c answer _ (Client.release none _ _)
    rw [hr]
    refine .fails hf rfl hempty ?_
    rw [hh]
    exact fail_taken c session store

theorem admits_error {answer : Answer} (h : answer.result Body.user = .error message)
    (path : String) (caller : Caller) (retried : Bool) :
    (Fetch.request path caller retried).admits answer = none := by
  cases caller with
  | component => rfl
  | login session =>
    rw [Fetch.admits, h]
    rfl
  | restoreSession session =>
    rw [Fetch.admits, h]
    rfl

theorem settle_outcome_error (c : Client) {answer : Answer}
    (h : answer.result Body.user = .error message) (path : String) (caller : Caller)
    (retried : Bool) (hf : c.failing answer (.request path caller retried) = caller.sessions) :
    Outcome c answer (.request path caller retried) (c.settle answer caller) := by
  have ha := admits_error h path caller retried
  rcases settle_error c h caller with ⟨hs, he⟩ | ⟨session, store, hs, hempty, he⟩
  · rw [he]
    exact .keeps (hf.trans hs) rfl ha rfl rfl
  · rw [he]
    exact .fails (hf.trans hs) ha hempty (fail_taken c session store)

theorem getRefreshedAccessToken_outcome (c : Client) (w : Waiter)
    (hp : w.path ∉ noRefreshRetryPaths) :
    Outcome c w.answer (.request w.path w.caller false) (c.getRefreshedAccessToken w) := by
  obtain ⟨message, hm⟩ := fails_of_unauthorized w.unauthorized Body.user
  have ha := admits_error hm w.path w.caller false
  have hf : c.failing w.answer (.request w.path w.caller false) =
      if c.refreshPromise.isNone ∧ (truthy c.store.refreshToken).isNone then w.caller.sessions
      else [] := if_pos ⟨w.unauthorized, hp, rfl⟩
  rw [Client.getRefreshedAccessToken]
  cases hr : c.refreshPromise with
  | some waiting =>
    refine .keeps ?_ rfl ha rfl rfl
    rw [hf, hr]
    rfl
  | none =>
    cases ht : truthy c.store.refreshToken with
    | some token =>
      refine .keeps ?_ rfl ha rfl rfl
      rw [hf, hr, ht]
      rfl
    | none =>
      rw [hr, ht, if_pos ⟨rfl, rfl⟩] at hf
      exact settle_outcome_error c hm w.path w.caller false hf

theorem settle_outcome (c : Client) (answer : Answer) (path : String) (caller : Caller)
    (retried : Bool)
    (h : ¬ (answer.status = some 401 ∧ path ∉ noRefreshRetryPaths ∧ retried = false)) :
    Outcome c answer (.request path caller retried) (c.settle answer caller) := by
  have hf : c.failing answer (.request path caller retried) =
      if (answer.result Body.user).toBool then [] else caller.sessions := if_neg h
  cases hu : answer.result Body.user with
  | error message =>
    rw [hu] at hf
    exact settle_outcome_error c hu path caller retried hf
  | ok user =>
    rw [hu] at hf
    cases caller with
    | component => exact .keeps hf rfl rfl rfl rfl
    | login session =>
      have ha : (Fetch.request path (.login session) retried).admits answer = some user := by
        rw [Fetch.admits, hu]
        rfl
      rw [Client.settle, hu]
      exact .admits hf rfl ha rfl rfl
    | restoreSession session =>
      have ha : (Fetch.request path (.restoreSession session) retried).admits answer =
          some user := by
        rw [Fetch.admits, hu]
        rfl
      rw [Client.settle, hu]
      exact .admits hf rfl ha rfl rfl

theorem answered_outcome (c : Client) (answer : Answer) (f : Fetch) :
    Outcome c answer f (c.answered answer f) := by
  cases f with
  | login session => exact login_outcome c answer session
  | restoreSession session token => exact restoreSession_outcome c answer session token
  | performRefresh session token => exact performRefresh_outcome c answer session token
  | logout => exact .keeps rfl rfl rfl rfl rfl
  | request path caller retried =>
    rw [Client.answered]
    split
    · rename_i h
      obtain ⟨h401, hp, rfl⟩ := h
      exact getRefreshedAccessToken_outcome c ⟨path, caller, answer, h401⟩ hp
    · rename_i h
      exact settle_outcome c answer path caller retried h

theorem Outcome.of_fetches {c d : Client} {fetches : List Fetch}
    (h : Outcome { c with fetches := fetches } answer f d) : Outcome c answer f d := by
  have hf : ({ c with fetches := fetches } : Client).failing answer f = c.failing answer f := by
    cases f <;> rfl
  have hh : ({ c with fetches := fetches } : Client).holder answer f = c.holder answer f := by
    cases f <;> rfl
  cases h with
  | fails hn ha hs ht => exact .fails (hf ▸ hn) ha hs (hh ▸ ht)
  | grants hn hg ha hs ht => exact .grants (hf ▸ hn) hg ha hs ht
  | admits hn hg ha hs ht => exact .admits (hf ▸ hn) hg ha hs ht
  | keeps hn hg ha hs ht => exact .keeps (hf ▸ hn) hg ha hs ht

theorem answered_loggedOut (c : Client) (answer : Answer) (f : Fetch) :
    (c.answered answer f).loggedOut = c.loggedOut := by
  cases f with
  | login session =>
    rw [Client.answered]
    split
    · rfl
    · rfl
  | restoreSession session token =>
    rw [Client.answered]
    split
    · rfl
    · rfl
  | performRefresh session token =>
    simp only [Client.answered]
    split
    · rename_i tokens _
      cases truthy (some tokens.accessToken) with
      | some access => rw [Client.release_some]; rfl
      | none =>
        obtain ⟨store, taken, hs, _⟩ := Client.release_none (c.refreshPromise.getD [])
          { c.setTokens session tokens with refreshPromise := none }
        exact (congrArg Client.loggedOut hs).trans rfl
    · obtain ⟨store, taken, hs, _⟩ := Client.release_none (c.refreshPromise.getD [])
        { c.fail session c.store.clear with refreshPromise := none }
      exact (congrArg Client.loggedOut hs).trans rfl
  | logout => rfl
  | request path caller retried =>
    rw [Client.answered]
    split
    · rw [Client.getRefreshedAccessToken]
      split
      · rfl
      · split
        · obtain ⟨store, taken, hs, _⟩ := c.settle_frame answer caller
          exact (congrArg Client.loggedOut hs).trans rfl
        · rfl
    · obtain ⟨store, taken, hs, _⟩ := c.settle_frame answer caller
      exact (congrArg Client.loggedOut hs).trans rfl

theorem step_answering {c : Client} (h : c.answering e = some (f, answer)) :
    (c.step e).loggedOut = c.loggedOut ∧ Outcome c answer f (c.step e) := by
  cases e with
  | answer i given =>
    obtain ⟨f', hf, hx⟩ := Option.map_eq_some_iff.1 h
    cases hx
    have hstep : c.step (.answer i answer) =
        Client.answered { c with fetches := c.fetches.eraseIdx i } answer f := by
      rw [Client.step, hf]
    rw [hstep]
    exact ⟨answered_loggedOut _ _ _, (answered_outcome _ answer f).of_fetches⟩
  | _ => cases h

theorem AuthState.held_of_accessToken {s : AuthState} (h : s.accessToken.isSome = true) :
    s.held = true := by
  rw [AuthState.held, h]
  rfl

theorem step_unanswering {c : Client} (h : c.answering e = none) (hc : Consistent c) :
    Consistent (c.step e) ∧ (c.step e).taken = c.taken := by
  cases e with
  | login =>
    refine ⟨⟨?_, ?_⟩, rfl⟩
    · intro h
      cases h
    · intro h
      cases h
  | logout => exact ⟨⟨fun _ => rfl, fun h => by cases h⟩, rfl⟩
  | restoreSession =>
    rw [Client.step, Client.restoreSession]
    split
    · exact ⟨⟨hc.loggedOut, fun h => by cases h⟩, rfl⟩
    · exact ⟨⟨hc.loggedOut, fun h => by cases h⟩, rfl⟩
  | request path => exact ⟨⟨hc.loggedOut, hc.authenticated⟩, rfl⟩
  | answer i answer =>
    rw [Client.step, Option.map_eq_none_iff.1 h]
    exact ⟨hc, rfl⟩

/-- A page on which logouts have been final so far. -/
structure Sound (c : Client) : Prop where
  consistent : Consistent c
  newer : ∀ x ∈ c.taken, x.2 ≤ x.1

section Outcomes
variable {c : Client} {e : ClientEvent}

theorem final_iff_of_fails (hc : Sound c) (hf : c.failed e = first :: rest)
    (ha : c.admitted e = none) (hs : (c.step e).store.Emptied)
    (hempty : c.holding e = none → c.store.held = false)
    (ht : (c.step e).taken = c.taken ++ ((c.holding e).map (Prod.mk first)).toList) :
    Final c e ↔ Timely c e := by
  constructor
  · intro hfinal
    refine ⟨fun _ _ => hf ▸ List.cons_ne_nil _ _, ?_, ?_⟩
    · intro hu
      rw [ha] at hu
      cases hu
    · intro first' holder hfirst hholder
      rw [hf] at hfirst
      cases hfirst
      apply hfinal.newer (first, holder)
      rw [ht, hholder]
      exact List.mem_append_right _ (List.mem_singleton_self _)
  · intro htimely
    refine ⟨⟨fun _ => hs.held, ?_⟩, ?_, ?_⟩
    · intro he
      rw [hs.status] at he
      cases he
    · intro x hx
      rw [ht] at hx
      rcases List.mem_append.1 hx with hx | hx
      · exact hc.newer x hx
      · rw [Option.mem_toList] at hx
        obtain ⟨holder, hholder, rfl⟩ := Option.map_eq_some_iff.1 hx
        exact htimely.newer first holder (hf ▸ rfl) hholder
    · intro _ htaken _
      have hnone : c.holding e = none := by
        cases hh : c.holding e with
        | none => rfl
        | some holder =>
          rw [ht, hh] at htaken
          cases List.append_right_eq_self.1 htaken
      exact (held_eq_false (hempty hnone)).imp (fun hx => hs.tokens.1.trans hx.symm)
        fun hx => hs.tokens.2.trans hx.symm

theorem final_iff_of_grants (hc : Sound c) (hl : (c.step e).loggedOut = c.loggedOut)
    (hf : c.failed e = []) (hg : c.granted e = some tokens) (ha : c.admitted e = none)
    (hs : (c.step e).store = c.store.setTokens tokens) (ht : (c.step e).taken = c.taken) :
    Final c e ↔ Timely c e := by
  constructor
  · intro hfinal
    refine ⟨?_, ?_, ?_⟩
    · intro hlog
      have hheld := hfinal.after.loggedOut (hl.trans hlog)
      rw [hs, AuthState.held_of_accessToken rfl] at hheld
      cases hheld
    · intro hu
      rw [ha] at hu
      cases hu
    · intro first holder hfirst
      rw [hf] at hfirst
      cases hfirst
  · intro htimely
    refine ⟨⟨?_, ?_⟩, ht ▸ hc.newer, ?_⟩
    · intro hlog
      refine absurd hf (htimely.tokens (hl.symm.trans hlog) ?_)
      rw [hg]
      rfl
    · intro _
      rw [hs]
      rfl
    · intro _ _ hnone
      rw [hg] at hnone
      cases hnone

theorem final_iff_of_admits (hc : Sound c) (hl : (c.step e).loggedOut = c.loggedOut)
    (hf : c.failed e = []) (hg : c.granted e = none) (ha : c.admitted e = some user)
    (hs : (c.step e).store =
      { c.store with status := .authenticated, user := some user, error := none })
    (ht : (c.step e).taken = c.taken) : Final c e ↔ Timely c e := by
  constructor
  · intro hfinal
    refine ⟨?_, ?_, ?_⟩
    · intro _ ht
      rw [hg] at ht
      cases ht
    · intro _
      have hauth := hfinal.after.authenticated
      rw [hs] at hauth
      exact hauth rfl
    · intro first holder hfirst
      rw [hf] at hfirst
      cases hfirst
  · intro htimely
    have huser : c.store.accessToken.isSome = true := by
      apply htimely.user
      rw [ha]
      rfl
    refine ⟨⟨?_, ?_⟩, ht ▸ hc.newer, ?_⟩
    · intro hlog
      have hheld := hc.consistent.loggedOut (hl.symm.trans hlog)
      rw [AuthState.held_of_accessToken huser] at hheld
      cases hheld
    · intro _
      rw [hs]
      exact huser
    · intro _ _ _
      rw [hs]
      exact ⟨rfl, rfl⟩

theorem final_iff_of_consistent (hc : Sound c) (h : Consistent (c.step e)) (hf : c.failed e = [])
    (hg : c.granted e = none) (ha : c.admitted e = none)
    (hs : (c.answering e).isSome = true → (c.step e).store = c.store)
    (ht : (c.step e).taken = c.taken) : Final c e ↔ Timely c e := by
  apply iff_of_true
  · refine ⟨h, ht ▸ hc.newer, ?_⟩
    intro hsome _ _
    rw [hs hsome]
    exact ⟨rfl, rfl⟩
  · refine ⟨?_, ?_, ?_⟩
    · intro _ ht
      rw [hg] at ht
      cases ht
    · intro hu
      rw [ha] at hu
      cases hu
    · intro first holder hfirst
      rw [hf] at hfirst
      cases hfirst

end Outcomes

theorem holder_none {c : Client} (h : c.holder answer f = none) : c.store.held = false := by
  have hplain : (if c.store.held then some c.session else none) = none → c.store.held = false := by
    intro h
    split at h
    · cases h
    · exact Bool.eq_false_iff.2 ‹_›
  cases f with
  | performRefresh session token =>
    rw [Client.holder] at h
    split at h
    · cases h
    · exact hplain h
  | _ => exact hplain h

/-- A step of a sound client is final just when its answer comes in time. -/
theorem final_iff_timely {c : Client} (hc : Sound c) (e : ClientEvent) :
    Final c e ↔ Timely c e := by
  cases h : c.answering e with
  | none =>
    obtain ⟨hcons, htaken⟩ := step_unanswering h hc.consistent
    apply final_iff_of_consistent hc hcons
    · rw [Client.failed, h]
      rfl
    · rw [Client.granted, h]
      rfl
    · rw [Client.admitted, h]
      rfl
    · intro hsome
      rw [h] at hsome
      cases hsome
    · exact htaken
  | some x =>
    obtain ⟨f, answer⟩ := x
    have hg : c.granted e = f.grants answer := by rw [Client.granted, h]; rfl
    have ha : c.admitted e = f.admits answer := by rw [Client.admitted, h]; rfl
    have hf : c.failed e = c.failing answer f := by rw [Client.failed, h]; rfl
    have hh : c.holding e = c.holder answer f := by rw [Client.holding, h]; rfl
    obtain ⟨hlog, hout⟩ := step_answering h
    cases hout with
    | fails hn hnone hs ht =>
      exact final_iff_of_fails hc (hf.trans hn) (ha.trans hnone) hs
        (fun hempty => holder_none (hh ▸ hempty)) (hh ▸ ht)
    | grants hn hsome hnone hs ht =>
      exact final_iff_of_grants hc hlog (hf.trans hn) (hg.trans hsome) (ha.trans hnone) hs ht
    | admits hn hnone hsome hs ht =>
      exact final_iff_of_admits hc hlog (hf.trans hn) (hg.trans hnone) (ha.trans hsome) hs ht
    | keeps hn hnone hnone' hs ht =>
      refine final_iff_of_consistent hc ⟨?_, ?_⟩ (hf.trans hn) (hg.trans hnone) (ha.trans hnone')
        (fun _ => hs) ht
      · rw [hlog, hs]
        exact hc.consistent.loggedOut
      · rw [hs]
        exact hc.consistent.authenticated

theorem initial_sound (persisted : Option String) : Sound (.initial persisted) := by
  refine ⟨⟨?_, ?_⟩, ?_⟩
  · intro h
    cases h
  · intro h
    cases h
  · intro x hx
    cases hx

/-- Logout is final along a run of a page, and a late failure harmless, just when no answer comes
too late. -/
theorem logout_final_iff (persisted : Option String) (events : List ClientEvent) :
    Along Client.step Final (.initial persisted) events ↔
      Along Client.step Timely (.initial persisted) events :=
  Along.congr (fun _ e hc => final_iff_timely hc e)
    (fun _ _ _ hfinal => ⟨hfinal.after, hfinal.newer⟩) (initial_sound persisted)

/-- A page restores its session; the user logs out before the answer is here. -/
def lateRestore : List ClientEvent :=
  [.restoreSession, .logout,
    .answer 0 (.response 200 ⟨none, some ⟨"access-2", "refresh-2", "bearer"⟩, none, ""⟩)]

theorem late_restore_not_final :
    ¬ Along Client.step Final (.initial (some "refresh-1")) lateRestore := by
  intro h
  have hheld := h.2.2.1.after.loggedOut (by decide)
  exact absurd hheld (by decide)

def unauthorized : Answer := .response 401 ⟨none, none, none, ""⟩

/-- A user logs in while an older session is being refreshed; the new session waits for that
refresh, which fails. -/
def joinedRefresh : List ClientEvent :=
  [.request "/settings", .answer 0 unauthorized, .login,
    .answer 1 (.response 200 ⟨none, some ⟨"access-2", "refresh-2", "bearer"⟩, none, ""⟩),
    .answer 1 unauthorized, .answer 0 unauthorized]

example :
    ¬ Along Client.step Final (.initial (some "refresh-1")) joinedRefresh := by
  intro h
  have hnewer := h.2.2.2.2.2.1.newer (0, 1) (by decide)
  exact absurd hnewer (by decide)

end QueryMind.Frontend
