import QueryMind.Frontend.LogoutFinal
import QueryMind.Lib.Hoare

namespace QueryMind.Frontend
open Lib
set_option autoImplicit true

/-- The refresh token that a fetch has sent to be refreshed. -/
def Fetch.token : Fetch → Option String
  | .restoreSession _ token => some token
  | .performRefresh _ token => some token
  | _ => none

namespace Client

def inFlight (c : Client) : List String := c.fetches.filterMap Fetch.token

/-- The refresh token that an event sends: a call of `restoreSession` its own, and a 401 the one of
the shared refresh that it starts. -/
def sends (c : Client) : ClientEvent → Option String
  | .restoreSession => truthy c.store.refreshToken
  | .answer i answer =>
    match c.fetches[i]? with
    | some (.request path _ retried) =>
      if answer.status = some 401 ∧ path ∉ noRefreshRetryPaths ∧ retried = false ∧
        c.refreshPromise = none then truthy c.store.refreshToken
      else none
    | _ => none
  | _ => none

end Client

/-- The server rotates: it hands out no token that it was sent before. -/
def Rotates (c : Client) (e : ClientEvent) : Prop :=
  ∀ tokens, c.granted e = some tokens → tokens.refreshToken ∉ c.submitted

/-- The server takes every token once. -/
def Honours (c : Client) (e : ClientEvent) : Prop :=
  ∀ f answer token, c.answering e = some (f, answer) → f.token = some token →
    c.submitted.count token = 1 → ∃ tokens, f.grants answer = some tokens ∧ tokens.accessToken ≠ ""

/-- No answer to a refresh clears the session. -/
def Renews (c : Client) (e : ClientEvent) : Prop :=
  ∀ f answer token, c.answering e = some (f, answer) → f.token = some token →
    ∃ tokens, f.grants answer = some tokens ∧ (c.step e).store = c.store.setTokens tokens

/-- What is sent to be refreshed is not on its way already. -/
def Alone (c : Client) (e : ClientEvent) : Prop :=
  ∀ token, c.sends e = some token → token ∉ c.inFlight

/-- The stored token was not sent before, or is on its way. -/
structure Accounted (c : Client) : Prop where
  sent : ∀ token ∈ c.inFlight, token ∈ c.submitted
  stored : ∀ token, c.store.refreshToken = some token → token ∈ c.submitted →
    token ∈ c.inFlight

/-- What an event does to the tokens that were sent and to the stored one. -/
inductive Traffic (c : Client) (e : ClientEvent) (c' : Client) : Prop
  | sends (hs : c.sends e = some token) (ht : c.store.refreshToken = some token)
      (hsub : c'.submitted = c.submitted ++ [token]) (hfl : c'.inFlight = c.inFlight ++ [token])
      (hst : c'.store.refreshToken = c.store.refreshToken)
  | renews (hs : c.sends e = none) (hg : c.granted e = some tokens)
      (hsub : c'.submitted = c.submitted) (hfl : ∀ token ∈ c'.inFlight, token ∈ c.inFlight)
      (hst : c'.store.refreshToken = some tokens.refreshToken ∨ c'.store.refreshToken = none)
  | clears (hs : c.sends e = none) (hsub : c'.submitted = c.submitted)
      (hfl : ∀ token ∈ c'.inFlight, token ∈ c.inFlight) (hst : c'.store.refreshToken = none)
  | keeps (hs : c.sends e = none) (hsub : c'.submitted = c.submitted)
      (hfl : c'.inFlight = c.inFlight) (hst : c'.store.refreshToken = c.store.refreshToken)

theorem Traffic.accounted (h : Traffic c e c') (hr : Rotates c e) (hc : Accounted c) :
    Accounted c' := by
  cases h with
  | sends hs ht hsub hfl hst =>
    constructor
    · intro token hm
      rw [hfl, List.mem_append] at hm
      rw [hsub, List.mem_append]
      exact hm.imp (hc.sent token) id
    · intro token he hm
      rw [hst, ht] at he
      cases he
      rw [hfl]
      exact List.mem_append_right _ (List.mem_singleton_self _)
  | renews hs hg hsub hfl hst =>
    constructor
    · intro token hm
      rw [hsub]
      exact hc.sent token (hfl token hm)
    · intro token he hm
      rw [hsub] at hm
      rcases hst with hst | hst
      · rw [hst] at he
        cases he
        exact absurd hm (hr _ hg)
      · rw [hst] at he
        cases he
  | clears hs hsub hfl hst =>
    constructor
    · intro token hm
      rw [hsub]
      exact hc.sent token (hfl token hm)
    · intro token he
      rw [hst] at he
      cases he
  | keeps hs hsub hfl hst =>
    constructor
    · rw [hsub, hfl]
      exact hc.sent
    · rw [hsub, hfl, hst]
      exact hc.stored

/-- A step sends a token a second time just when it is on its way. -/
theorem Traffic.nodup_iff (h : Traffic c e c') (hc : Accounted c) (hn : c.submitted.Nodup) :
    c'.submitted.Nodup ↔ Alone c e := by
  have hidle : c.sends e = none → c'.submitted = c.submitted →
      (c'.submitted.Nodup ↔ Alone c e) := by
    intro hs hsub
    apply iff_of_true
    · rw [hsub]
      exact hn
    · intro token ht
      rw [hs] at ht
      cases ht
  cases h with
  | @sends token hs ht hsub hfl hst =>
    rw [hsub, ← List.concat_eq_append, List.nodup_concat, and_iff_left hn]
    constructor
    · intro hm other ho
      rw [hs] at ho
      cases ho
      exact fun hf => hm (hc.sent token hf)
    · intro halone hm
      exact halone token hs (hc.stored token ht hm)
  | renews hs hg hsub hfl hst => exact hidle hs hsub
  | clears hs hsub hfl hst => exact hidle hs hsub
  | keeps hs hsub hfl hst => exact hidle hs hsub

theorem truthy_eq_some (h : truthy x = some token) : x = some token :=
  (Option.filter_eq_some_iff.1 h).1

theorem filterMap_eraseIdx {l : List α} {g : α → Option β} (h : l[i]? = some x)
    (hx : g x = none) : (l.eraseIdx i).filterMap g = l.filterMap g := by
  induction l generalizing i with
  | nil => rfl
  | cons a l ih =>
    cases i with
    | zero =>
      cases h
      exact (List.filterMap_cons_none hx).symm
    | succ i =>
      rw [List.eraseIdx_cons_succ, List.filterMap_cons, List.filterMap_cons, ih h]

theorem inFlight_fetch (c : Client) {f : Fetch} (h : f.token = none) :
    (c.fetch f).inFlight = c.inFlight := by
  rw [Client.inFlight, Client.fetch, List.filterMap_append, List.filterMap_cons_none h,
    List.filterMap_nil, List.append_nil]
  rfl

theorem inFlight_fetches (c : Client) {fetches : List Fetch}
    (h : ∀ f ∈ fetches, f.token = none) :
    ({ c with fetches := c.fetches ++ fetches } : Client).inFlight = c.inFlight := by
  rw [Client.inFlight, List.filterMap_append, List.filterMap_eq_nil_iff.2 h, List.append_nil]
  rfl

section Answered
variable {c : Client} {answer : Answer}

/-- The client once an answer has been taken off its fetches. -/
def Client.without (c : Client) (i : Nat) : Client := { c with fetches := c.fetches.eraseIdx i }

theorem inFlight_without (c : Client) (i : Nat) :
    ∀ token ∈ (c.without i).inFlight, token ∈ c.inFlight := by
  intro token hm
  exact ((List.eraseIdx_sublist c.fetches i).filterMap Fetch.token).subset hm

theorem inFlight_without_eq (hf : c.fetches[i]? = some f) (hn : f.token = none) :
    (c.without i).inFlight = c.inFlight := filterMap_eraseIdx hf hn

theorem granted_answer (hf : c.fetches[i]? = some f) :
    c.granted (.answer i answer) = f.grants answer := by
  rw [Client.granted, Client.answering, hf]
  rfl

theorem renewed_traffic (hs : c.sends (.answer i answer) = none)
    (hg : c.granted (.answer i answer) = some tokens) :
    Traffic c (.answer i answer)
      (((c.without i).setTokens session tokens).getCurrentUser caller) := by
  refine .renews hs hg rfl ?_ (.inl rfl)
  intro token hm
  rw [Client.getCurrentUser, inFlight_fetch _ rfl] at hm
  exact inFlight_without c i token hm

theorem login_traffic (hf : c.fetches[i]? = some (.login session)) :
    Traffic c (.answer i answer) ((c.without i).answered answer (.login session)) := by
  have hs : c.sends (.answer i answer) = none := by rw [Client.sends, hf]
  have hg : c.granted (.answer i answer) = (answer.result Body.tokens).toOption :=
    granted_answer hf
  rw [Client.answered]
  cases h : answer.result Body.tokens with
  | ok tokens =>
    rw [h] at hg
    exact renewed_traffic hs hg
  | error message => exact .clears hs rfl (inFlight_without c i) rfl

theorem restoreSession_traffic (hf : c.fetches[i]? = some (.restoreSession session token)) :
    Traffic c (.answer i answer)
      ((c.without i).answered answer (.restoreSession session token)) := by
  have hs : c.sends (.answer i answer) = none := by rw [Client.sends, hf]
  have hg : c.granted (.answer i answer) = (answer.result Body.tokens).toOption :=
    granted_answer hf
  rw [Client.answered]
  cases h : answer.result Body.tokens with
  | ok tokens =>
    rw [h] at hg
    exact renewed_traffic hs hg
  | error message => exact .clears hs rfl (inFlight_without c i) rfl

theorem performRefresh_traffic (hf : c.fetches[i]? = some (.performRefresh session token)) :
    Traffic c (.answer i answer)
      ((c.without i).answered answer (.performRefresh session token)) := by
  have hs : c.sends (.answer i answer) = none := by rw [Client.sends, hf]
  have hg : c.granted (.answer i answer) = (answer.result Body.tokens).toOption :=
    granted_answer hf
  rw [Client.answered]
  cases h : answer.result Body.tokens with
  | ok tokens =>
    rw [h] at hg
    show Traffic c _ (Client.release (truthy (some tokens.accessToken)) _ _)
    cases truthy (some tokens.accessToken) with
    | some access =>
      rw [Client.release_some]
      refine .renews hs hg rfl ?_ (.inl rfl)
      intro token hm
      rw [inFlight_fetches] at hm
      · exact inFlight_without c i token hm
      · intro f hmem
        obtain ⟨w, _, rfl⟩ := List.mem_map.1 hmem
        rfl
    | none =>
      obtain ⟨store, taken, he, ht⟩ := Client.release_none ((c.without i).refreshPromise.getD [])
        { (c.without i).setTokens session tokens with refreshPromise := none }
      rw [he]
      exact .renews hs hg rfl (inFlight_without c i) ht
  | error message =>
    obtain ⟨store, taken, he, ht⟩ := Client.release_none ((c.without i).refreshPromise.getD [])
      { (c.without i).fail session (c.without i).store.clear with refreshPromise := none }
    show Traffic c _ (Client.release none _ _)
    rw [he]
    exact .clears hs rfl (inFlight_without c i) (ht.elim id id)

theorem settle_traffic (hf : c.fetches[i]? = some f) (hn : f.token = none)
    (hs : c.sends (.answer i answer) = none) (caller : Caller) :
    Traffic c (.answer i answer) ((c.without i).settle answer caller) := by
  obtain ⟨store, taken, he, ht⟩ := (c.without i).settle_frame answer caller
  rw [he]
  rcases ht with ht | ht
  · exact .keeps hs rfl (inFlight_without_eq hf hn) ht
  · exact .clears hs rfl (inFlight_without c i) ht

theorem request_traffic (hf : c.fetches[i]? = some (.request path caller retried)) :
    Traffic c (.answer i answer)
      ((c.without i).answered answer (.request path caller retried)) := by
  have hsends : c.sends (.answer i answer) =
      if answer.status = some 401 ∧ path ∉ noRefreshRetryPaths ∧ retried = false ∧
        c.refreshPromise = none then truthy c.store.refreshToken
      else none := by rw [Client.sends, hf]
  rw [Client.answered]
  split
  · rename_i h
    cases hr : c.refreshPromise with
    | some waiting =>
      rw [Client.getRefreshedAccessToken, show (c.without i).refreshPromise = _ from hr]
      refine .keeps ?_ rfl (inFlight_without_eq hf rfl) rfl
      rw [hsends, hr, if_neg]
      exact fun hall => by cases hall.2.2.2
    | none =>
      rw [hr, if_pos ⟨h.1, h.2.1, h.2.2, rfl⟩] at hsends
      cases ht : truthy c.store.refreshToken with
      | none =>
        rw [Client.getRefreshedAccessToken, show (c.without i).refreshPromise = _ from hr,
          show truthy (c.without i).store.refreshToken = _ from ht]
        exact settle_traffic hf rfl (hsends.trans ht) caller
      | some token =>
        rw [Client.getRefreshedAccessToken, show (c.without i).refreshPromise = _ from hr,
          show truthy (c.without i).store.refreshToken = _ from ht]
        refine .sends (hsends.trans ht) (truthy_eq_some ht) rfl ?_ rfl
        show ((c.without i).fetches ++ [_]).filterMap Fetch.token = _
        rw [List.filterMap_append, ← inFlight_without_eq hf rfl]
        rfl
  · rename_i h
    apply settle_traffic hf rfl
    rw [hsends, if_neg]
    exact fun hall => h ⟨hall.1, hall.2.1, hall.2.2.1⟩

theorem answered_traffic (hf : c.fetches[i]? = some f) :
    Traffic c (.answer i answer) ((c.without i).answered answer f) := by
  cases f with
  | login session => exact login_traffic hf
  | restoreSession session token => exact restoreSession_traffic hf
  | performRefresh session token => exact performRefresh_traffic hf
  | logout =>
    exact .keeps (by rw [Client.sends, hf]) rfl (inFlight_without_eq hf rfl) rfl
  | request path caller retried => exact request_traffic hf

end Answered

theorem step_traffic (c : Client) (e : ClientEvent) : Traffic c e (c.step e) := by
  cases e with
  | login => exact .keeps rfl rfl (inFlight_fetch c rfl) rfl
  | logout =>
    refine .clears rfl rfl ?_ rfl
    intro token hm
    have hn : ∀ f ∈ (truthy c.store.refreshToken).toList.map (fun _ => Fetch.logout),
        f.token = none := by
      intro f hf
      obtain ⟨_, _, rfl⟩ := List.mem_map.1 hf
      rfl
    exact inFlight_fetches c hn ▸ hm
  | restoreSession =>
    rw [Client.step, Client.restoreSession]
    cases ht : truthy c.store.refreshToken with
    | none => exact .keeps ht rfl rfl rfl
    | some token =>
      refine .sends ht (truthy_eq_some ht) rfl ?_ rfl
      exact List.filterMap_append ..
  | request path => exact .keeps rfl rfl (inFlight_fetch c rfl) rfl
  | answer i answer =>
    cases hf : c.fetches[i]? with
    | none =>
      rw [Client.step, hf]
      exact .keeps (by rw [Client.sends, hf]) rfl rfl rfl
    | some f =>
      rw [Client.step, hf]
      exact answered_traffic hf

theorem failing_nil {c : Client} (ht : f.token = some token)
    (hg : f.grants answer = some tokens) (hne : tokens.accessToken ≠ "") :
    c.failing answer f = [] := by
  cases f with
  | restoreSession session token =>
    have hok : answer.result Body.tokens = .ok tokens := toOption_eq_some.1 hg
    rw [Client.failing, hok]
    rfl
  | performRefresh session token =>
    have hok : answer.result Body.tokens = .ok tokens := toOption_eq_some.1 hg
    have hsome : truthy (some tokens.accessToken) = some tokens.accessToken :=
      Option.filter_some_pos (decide_eq_true hne)
    rw [Client.failing, hok]
    exact if_pos (by rw [hsome]; rfl)
  | _ => cases ht

theorem step_renews {c : Client} (hc : Accounted c) (hn : c.submitted.Nodup)
    (hh : Honours c e) : Renews c e := by
  intro f answer token ha ht
  have hm : token ∈ c.inFlight := by
    cases e with
    | answer i given =>
      obtain ⟨f', hf, hx⟩ := Option.map_eq_some_iff.1 ha
      cases hx
      exact List.mem_filterMap.2 ⟨f, List.mem_of_getElem? hf, ht⟩
    | _ => cases ha
  obtain ⟨tokens, hg, hne⟩ :=
    hh f answer token ha ht (List.count_eq_one_of_mem hn (hc.sent token hm))
  have hnil : c.failing answer f = [] := failing_nil ht hg hne
  refine ⟨tokens, hg, ?_⟩
  cases (step_answering ha).2 with
  | fails hf _ _ =>
    rw [hnil] at hf
    cases hf
  | grants _ hg' _ hs =>
    rw [hg] at hg'
    cases hg'
    exact hs
  | admits _ hg' _ _ =>
    rw [hg] at hg'
    cases hg'
  | keeps _ hg' _ _ =>
    rw [hg] at hg'
    cases hg'

theorem initial_accounted (persisted : Option String) : Accounted (.initial persisted) := by
  constructor
  · intro token hm
    cases hm
  · intro token _ hm
    cases hm

/-- Against a server that rotates refresh tokens, a page sends none of them twice, and none of its
refreshes clears a session that the server would take once, just when no token is sent again while
it is on its way. -/
theorem single_flight_iff (persisted : Option String) (events : List ClientEvent)
    (hrot : Along Client.step Rotates (.initial persisted) events) :
    (Along Client.step (fun c e => (c.step e).submitted.Nodup) (.initial persisted) events ∧
      (Along Client.step Honours (.initial persisted) events →
        Along Client.step Renews (.initial persisted) events)) ↔
      Along Client.step Alone (.initial persisted) events := by
  have h₀ : Accounted (.initial persisted) ∧ (Client.initial persisted).submitted.Nodup :=
    ⟨initial_accounted persisted, List.nodup_nil⟩
  have hnodup : Along Client.step (fun c e => Rotates c e ∧ (c.step e).submitted.Nodup)
      (.initial persisted) events ↔
      Along Client.step (fun c e => Rotates c e ∧ Alone c e) (.initial persisted) events := by
    apply Along.congr (I := fun c => Accounted c ∧ c.submitted.Nodup) _ _ h₀
    · intro c e hc
      exact and_congr_right (fun _ => (step_traffic c e).nodup_iff hc.1 hc.2)
    · intro c e hc h
      exact ⟨(step_traffic c e).accounted h.1 hc.1, h.2⟩
  rw [Along.and, Along.and, and_iff_right hrot, and_iff_right hrot] at hnodup
  rw [hnodup]
  apply and_iff_left_of_imp
  intro halone hhon
  have hall := Along.and.2 ⟨Along.and.2 ⟨hrot, hnodup.2 halone⟩, hhon⟩
  apply Along.imp (I := fun c => Accounted c ∧ c.submitted.Nodup) _ _ h₀ hall
  · intro c e hc h
    exact step_renews hc.1 hc.2 h.2
  · intro c e hc h
    exact ⟨(step_traffic c e).accounted h.1.1 hc.1, h.1.2⟩

def expired : Answer := .response 401 ⟨some "The token has expired.", none, none, ""⟩

def renewed : Answer := .response 200 ⟨none, some ⟨"access-2", "refresh-2", "bearer"⟩, none, ""⟩

/-- Two requests whose 401s wait on one refresh, after which both are sent again. -/
def refreshedRequests : List ClientEvent :=
  [.request "/settings", .request "/schema", .answer 0 expired, .answer 0 expired,
    .answer 0 renewed]

theorem single_flight_settings :
    Along Client.step (fun c e => (c.step e).submitted.Nodup)
        (.initial (some "refresh-1")) refreshedRequests ∧
      (Along Client.step Honours (.initial (some "refresh-1")) refreshedRequests →
        Along Client.step Renews (.initial (some "refresh-1")) refreshedRequests) := by
  have hrot : Along Client.step Rotates (.initial (some "refresh-1")) refreshedRequests := by
    refine ⟨?_, ?_, ?_, ?_, ?_, trivial⟩
    · intro tokens h
      cases h
    · intro tokens h
      cases h
    · intro tokens h
      cases h
    · intro tokens h
      cases h
    · intro tokens h
      cases h
      decide
  apply (single_flight_iff (some "refresh-1") refreshedRequests hrot).2
  refine ⟨?_, ?_, ?_, ?_, ?_, trivial⟩
  · intro token h
    cases h
  · intro token h
    cases h
  · intro token h
    cases h
    decide
  · intro token h
    cases h
  · intro token h
    cases h

/-- A page restores its session while a request of its own is answered with a 401. -/
def restoredTwice : List ClientEvent := [.request "/settings", .restoreSession, .answer 0 expired]

theorem restored_twice_resent :
    Along Client.step Rotates (.initial (some "refresh-1")) restoredTwice ∧
      ¬ Along Client.step (fun c e => (c.step e).submitted.Nodup)
        (.initial (some "refresh-1")) restoredTwice := by
  constructor
  · refine ⟨?_, ?_, ?_, trivial⟩
    · intro tokens h
      cases h
    · intro tokens h
      cases h
    · intro tokens h
      cases h
  · intro h
    exact absurd h.2.2.1 (by decide)

end QueryMind.Frontend
