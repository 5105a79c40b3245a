import QueryMind.Auth.Login

namespace QueryMind.Auth
open Lib
set_option autoImplicit true

/-- The two calls that spend a refresh token. -/
inductive TokenRequest
  | refreshTokens (refreshToken : String)
  | logout (refreshToken : String)
  deriving DecidableEq, Repr

def TokenRequest.token : TokenRequest → String
  | .refreshTokens t | .logout t => t

def tokenCall (env : Environment) : TokenRequest → Call (Option TokenPair)
  | .refreshTokens t => do pure (some (← refreshTokens env t))
  | .logout t => do
    logout env t
    pure none

abbrev TokenTask := Task TokenRequest Operations ServiceError (Option TokenPair)

abbrev TokenPool := Pool TokenRequest Operations ServiceError (Option TokenPair) World

/-- Calls on refresh tokens, interleaved at the granularity of their operations. -/
abbrev TokenPool.Step (env : Environment) :
    TokenPool → Pool.Action TokenRequest → TokenPool → Prop :=
  Pool.Step (handler env) (tokenCall env)

def Refreshes (env : Environment) (jti : String) : TokenRequest → Prop
  | .refreshTokens t => tokenJti env t = some jti
  | .logout _ => False

def LogsOut (env : Environment) (jti : String) : TokenRequest → Prop
  | .refreshTokens _ => False
  | .logout t => tokenJti env t = some jti

instance : DecidablePred (Refreshes env jti)
  | .refreshTokens _ => inferInstanceAs (Decidable (_ = _))
  | .logout _ => inferInstanceAs (Decidable False)

instance : DecidablePred (LogsOut env jti)
  | .refreshTokens _ => inferInstanceAs (Decidable False)
  | .logout _ => inferInstanceAs (Decidable (_ = _))

def HasRevoked (jti : String) (task : TokenTask) : Prop := Op.revokeRefreshToken jti ∈ task.log

def Finished (task : TokenTask) : Prop :=
  match task.rest with
  | .call _ _ => False
  | _ => True

instance : DecidablePred (HasRevoked jti) := fun _ => inferInstanceAs (Decidable (_ ∈ _))

instance : DecidablePred Finished
  | ⟨_, _, .ret _⟩ => inferInstanceAs (Decidable True)
  | ⟨_, _, .raise _⟩ => inferInstanceAs (Decidable True)
  | ⟨_, _, .call _ _⟩ => inferInstanceAs (Decidable False)

/-- The call at an index is a rotation of the token, and it has returned a pair. -/
def Yields (env : Environment) (jti : String) (p : TokenPool) (i : Nat) : Prop :=
  ∃ task pair, p.tasks[i]? = some task ∧ Refreshes env jti task.request ∧
    task.rest = .ret (some pair)

def LoggedOut (env : Environment) (jti : String) (p : TokenPool) : Prop :=
  ∃ task ∈ p.tasks, LogsOut env jti task.request ∧ task.rest = .ret none

/-- A rotation revokes a row that is not revoked yet; a logout does not overtake a rotation. -/
def Undisturbed (env : Environment) (jti : String) (p : TokenPool) :
    Pool.Action TokenRequest → Prop
  | .start _ => True
  | .step i => p.pending i = some (Op.revokeRefreshToken jti) → ∀ task ∈ p.tasks[i]?,
    (Refreshes env jti task.request →
      ∀ row ∈ p.shared.db.getRefreshToken jti, row.revoked = false) ∧
    (LogsOut env jti task.request →
      ∀ task' ∈ p.tasks, Refreshes env jti task'.request → HasRevoked jti task' → Finished task')

instance : Decidable (Undisturbed env jti p a) :=
  match a with
  | .start _ => inferInstanceAs (Decidable True)
  | .step _ => inferInstanceAs (Decidable (_ = _ → _))

/-- Answers a call may rely on, when the identifiers in `S` have rows. -/
def Answers (S : String → Prop) : (op : Op) → op.Ans → Prop
  | .getRefreshToken jti, r => ∀ row, r = some row → row.jti = jti ∧ S jti
  | _, _ => True

/-- A call revokes only the token it was given, and only when it has a row. -/
def Allowed (env : Environment) (S : String → Prop) (token : String) (op : Op) : Prop :=
  ∀ jti, op = .revokeRefreshToken jti → tokenJti env token = some jti ∧ S jti

theorem allowed_other (h : ∀ jti, op ≠ .revokeRefreshToken jti) : Allowed env S t op :=
  fun jti he => absurd he (h jti)

theorem decodeToken_always (env : Environment) (S : String → Prop) (t t' : String) :
    (decodeToken env t').Always (Answers S) (Allowed env S t)
      (fun c => tokenJti env t' = some c.jti) := by
  simp only [decodeToken]
  split
  · trivial
  · rename_i p hp
    simp only [perform_bind]
    refine .call (allowed_other (by simp)) fun now _ => ?_
    split
    · trivial
    · split
      · trivial
      · rename_i c hc
        show tokenJti env t' = some c.jti
        rw [tokenJti, hp, claims_ok hc]

theorem validateRefreshToken_always (env : Environment) (S : String → Prop) (t : String) :
    (validateRefreshToken env t).Always (Answers S) (Allowed env S t)
      (fun row => tokenJti env t = some row.jti ∧ S row.jti) := by
  simp only [validateRefreshToken, validateToken]
  refine Prog.Always.bind (P := fun c => tokenJti env t = some c.jti) ?_ fun c hc => ?_
  · refine (decodeToken_always env S t t).bind fun c hc => ?_
    split
    · trivial
    · exact hc
  · simp only [perform_bind]
    refine .call (allowed_other (by simp)) fun found hfound => ?_
    split
    · trivial
    · rename_i row
      obtain ⟨hrow, hS⟩ := hfound row rfl
      split
      · trivial
      · refine .call (allowed_other (by simp)) fun now _ => ?_
        split
        · trivial
        · exact ⟨by rw [hrow]; exact hc, by rw [hrow]; exact hS⟩

theorem createTokenPair_always (env : Environment) (S : String → Prop) (t : String) (uid : Nat) :
    (createTokenPair env uid).Always (Answers S) (Allowed env S t) (fun _ => True) := by
  simp only [createTokenPair, createAccessToken, createRefreshToken, encode, perform_bind,
    Prog.call_bind]
  refine .call (allowed_other (by simp)) fun _ _ => .call (allowed_other (by simp)) fun _ _ => ?_
  refine .call (allowed_other (by simp)) fun _ _ => .call (allowed_other (by simp)) fun _ _ => ?_
  simp only [Prog.pure_eq, Prog.ret_bind]
  refine Prog.Always.bind (P := fun _ => True)
    ((decodeToken_always env S t _).bind fun _ _ => trivial)
    fun issued _ => ?_
  refine .call (allowed_other (by simp)) fun stored _ => ?_
  split <;> trivial

theorem rotate_always (env : Environment) {S : String → Prop} {row : RefreshToken}
    (hr : tokenJti env t = some row.jti ∧ S row.jti) (user : User) :
    Prog.Always (Answers S) (Allowed env S t) (fun _ => True)
      (perform (.revokeRefreshToken row.jti) >>= fun _ => createTokenPair env user.id) := by
  simp only [perform_bind]
  refine ⟨fun j hj => ?_, fun _ _ => createTokenPair_always env S t user.id⟩
  cases hj
  exact hr

theorem tokenCall_always (env : Environment) (S : String → Prop) (r : TokenRequest) :
    (tokenCall env r).Always (Answers S) (Allowed env S r.token) (fun _ => True) := by
  cases r with
  | refreshTokens t =>
    refine Prog.Always.bind (P := fun _ => True) ?_ fun _ _ => trivial
    refine (validateRefreshToken_always env S t).bind fun row hr => ?_
    simp only [perform_bind]
    refine .call (allowed_other (by simp)) fun found _ => ?_
    split
    · trivial
    · split
      · trivial
      · exact rotate_always env hr _
  | logout t =>
    refine Prog.Always.bind (P := fun _ => True) ?_ fun _ _ => trivial
    refine (validateRefreshToken_always env S t).bind fun row hr => ?_
    refine ⟨fun j hj => ?_, fun _ _ => trivial⟩
    cases hj
    exact hr

theorem tokenCall_notBefore (env : Environment) (S : String → Prop) (r : TokenRequest)
    (hj : tokenJti env r.token = some jti) :
    (tokenCall env r).NotBefore (Answers S) (· = Op.revokeRefreshToken jti) := by
  cases r with
  | refreshTokens t =>
    refine Prog.NotBefore.bind ?_ _
    refine (validateRefreshToken_always env S t).notBefore_bind fun row hr => ?_
    have he : row.jti = jti := Option.some.inj (hr.1.symm.trans hj)
    simp only [perform_bind]
    refine .call fun found _ => ?_
    split
    · trivial
    · split
      · trivial
      · exact .inl (by rw [he])
  | logout t =>
    refine Prog.NotBefore.bind ?_ _
    refine (validateRefreshToken_always env S t).notBefore_bind fun row hr => ?_
    have he : row.jti = jti := Option.some.inj (hr.1.symm.trans hj)
    exact .inl (by rw [he])

theorem handler_answers (env : Environment) (op : Op) (w : World) :
    Answers (Stored w.db) op (handler env op w).1 := by
  cases op with
  | getRefreshToken jti =>
    intro row hrow
    exact ⟨(Table.lookup_some hrow).2, Option.isSome_iff_exists.2 ⟨row, hrow⟩⟩
  | _ => trivial

theorem answers_mono {S S' : String → Prop} (h : ∀ j, S j → S' j) (ha : Answers S op r) :
    Answers S' op r := by
  cases op with
  | getRefreshToken jti => exact fun row hrow => ⟨(ha row hrow).1, h _ (ha row hrow).2⟩
  | _ => trivial

/-- What a call in flight still keeps to, whatever rows are added later. -/
structure TaskOk (env : Environment) (db : Database) (task : TokenTask) : Prop where
  always : ∀ S : String → Prop, (∀ j, Stored db j → S j) →
    task.rest.Always (Answers S) (Allowed env S task.request.token) (fun _ => True)
  notBefore : ∀ jti, tokenJti env task.request.token = some jti → HasRevoked jti task ∨
    ∀ S : String → Prop, (∀ j, Stored db j → S j) →
      task.rest.NotBefore (Answers S) (· = Op.revokeRefreshToken jti)

theorem TaskOk.start (env : Environment) (db : Database) (r : TokenRequest) :
    TaskOk env db ⟨r, [], tokenCall env r⟩ where
  always S _ := tokenCall_always env S r
  notBefore _ hj := .inr fun S _ => tokenCall_notBefore env S r hj

theorem TaskOk.grows {db db' : Database} (h : TaskOk env db task) (hg : db.Grows db') :
    TaskOk env db' task where
  always S hS := h.always S fun j hj => hS j (hj.grows hg)
  notBefore jti hj := (h.notBefore jti hj).imp id fun hn S hS =>
    hn S fun j hj => hS j (hj.grows hg)

theorem TaskOk.step {w : World} (h : TaskOk env w.db ⟨r, log, .call op k⟩) :
    TaskOk env (handler env op w).2.db ⟨r, log ++ [op], k (handler env op w).1⟩ := by
  have hg := handler_grows env op w
  have hS' : ∀ S : String → Prop, (∀ j, Stored (handler env op w).2.db j → S j) →
      ∀ j, Stored w.db j → S j := fun S hS j hj => hS j (hj.grows hg)
  constructor
  · intro S hS
    exact (h.always S (hS' S hS)).2 _ (answers_mono (hS' S hS) (handler_answers env op w))
  · intro jti hj
    rcases h.notBefore jti hj with hr | hn
    · exact .inl (List.mem_append_left _ hr)
    · by_cases he : op = .revokeRefreshToken jti
      · exact .inl (List.mem_append_right _ (List.mem_singleton.2 he.symm))
      · right
        intro S hS
        exact (hn S (hS' S hS)).resolve_left he _
          (answers_mono (hS' S hS) (handler_answers env op w))

theorem TaskOk.revokes {w : World} (h : TaskOk env w.db ⟨r, log, .call (.revokeRefreshToken j) k⟩) :
    tokenJti env r.token = some j ∧ Stored w.db j :=
  (h.always (Stored w.db) fun _ hj => hj).1 j rfl

theorem TaskOk.returned {db : Database} (h : TaskOk env db ⟨r, log, .ret a⟩)
    (hj : tokenJti env r.token = some j) : HasRevoked j ⟨r, log, .ret a⟩ :=
  (h.notBefore j hj).resolve_right fun hn => hn (fun _ => True) fun _ _ => trivial

/-- The invariant of a pool: one rotation has spent the token, and no logout overtook it. -/
structure Rotated (env : Environment) (jti : String) (p : TokenPool) : Prop where
  valid : p.shared.db.Valid
  tasks : ∀ (n : Nat) task, p.tasks[n]? = some task → TaskOk env p.shared.db task
  one : ∀ (n n' : Nat) task task', p.tasks[n]? = some task → p.tasks[n']? = some task' →
    Refreshes env jti task.request → Refreshes env jti task'.request →
    HasRevoked jti task → HasRevoked jti task' → n = n'
  spent : ∀ (n : Nat) task, p.tasks[n]? = some task → HasRevoked jti task → Revoked p.shared.db jti
  settled : ∀ (n n' : Nat) task task', p.tasks[n]? = some task → p.tasks[n']? = some task' →
    LogsOut env jti task.request → HasRevoked jti task →
    Refreshes env jti task'.request → HasRevoked jti task' → Finished task'

theorem Rotated.initial (env : Environment) (jti : String) {w : World} (hv : w.db.Valid) :
    Rotated env jti ⟨w, []⟩ := by
  constructor
  · exact hv
  all_goals simp

theorem Refreshes.token_names (h : Refreshes env jti r) : tokenJti env r.token = some jti := by
  cases r with
  | refreshTokens t => exact h
  | logout t => exact h.elim

theorem LogsOut.token_names (h : LogsOut env jti r) : tokenJti env r.token = some jti := by
  cases r with
  | refreshTokens t => exact h.elim
  | logout t => exact h

theorem not_logsOut_of_refreshes (h : Refreshes env jti r) : ¬ LogsOut env jti r := by
  cases r with
  | refreshTokens t => exact id
  | logout t => exact h.elim

theorem refreshes_or_logsOut (h : tokenJti env r.token = some jti) :
    Refreshes env jti r ∨ LogsOut env jti r := by
  cases r with
  | refreshTokens t => exact .inl h
  | logout t => exact .inr h

theorem getElem?_append_singleton {l : List α} {n : Nat} (h : (l ++ [a])[n]? = some b) :
    l[n]? = some b ∨ n = l.length ∧ b = a := by
  rcases Nat.lt_trichotomy n l.length with hn | hn | hn
  · rw [List.getElem?_append_left hn] at h
    exact .inl h
  · subst hn
    rw [List.getElem?_concat_length] at h
    exact .inr ⟨rfl, (Option.some.inj h).symm⟩
  · rw [List.getElem?_eq_none (by simp; omega)] at h
    cases h

theorem getElem?_set_some {l : List α} {n i : Nat} (h : (l.set i a)[n]? = some b) :
    (n ≠ i ∧ l[n]? = some b) ∨ (n = i ∧ b = a) := by
  by_cases hn : n = i
  · subst hn
    rw [List.getElem?_set_self'] at h
    obtain ⟨_, _, rfl⟩ := Option.map_eq_some_iff.1 h
    exact .inr ⟨rfl, rfl⟩
  · rw [List.getElem?_set_ne (Ne.symm hn)] at h
    exact .inl ⟨hn, h⟩

theorem Rotated.start {p : TokenPool} (h : Rotated env jti p) (r : TokenRequest) :
    Rotated env jti (p.start (tokenCall env) r) := by
  have hold : ∀ (n : Nat) task, (p.start (tokenCall env) r).tasks[n]? = some task →
      HasRevoked jti task →
      p.tasks[n]? = some task := by
    intro n task hn hrev
    rcases getElem?_append_singleton hn with hn | ⟨_, rfl⟩
    · exact hn
    · cases hrev
  constructor
  · exact h.valid
  · intro n task hn
    rcases getElem?_append_singleton hn with hn | ⟨_, rfl⟩
    · exact h.tasks n task hn
    · exact .start env _ r
  · intro n n' task task' hn hn' hr hr' hl hl'
    exact h.one n n' task task' (hold _ _ hn hl) (hold _ _ hn' hl') hr hr' hl hl'
  · intro n task hn hl
    exact h.spent n task (hold _ _ hn hl) hl
  · intro n n' task task' hn hn' ho hl hr hl'
    exact h.settled n n' task task' (hold _ _ hn hl) (hold _ _ hn' hl') ho hl hr hl'

section Step
variable {p : TokenPool} {i : Nat} {r : TokenRequest} {log : List Op} {op : Op}
  {k : op.Ans → Call (Option TokenPair)}

def stepped (env : Environment) (p : TokenPool) (i : Nat) (r : TokenRequest) (log : List Op)
    (op : Op) (k : op.Ans → Call (Option TokenPair)) : TokenPool where
  shared := (handler env op p.shared).2
  tasks := p.tasks.set i ⟨r, log ++ [op], k (handler env op p.shared).1⟩

theorem hasRevoked_append (h : HasRevoked jti ⟨r, log ++ [op], rest⟩)
    (ho : op ≠ .revokeRefreshToken jti) : HasRevoked jti ⟨r, log, rest'⟩ := by
  rcases List.mem_append.1 h with h | h
  · exact h
  · exact absurd (List.mem_singleton.1 h).symm ho

theorem stepped_tasks (h : Rotated env jti p) (hi : p.tasks[i]? = some ⟨r, log, .call op k⟩)
    {n : Nat} (hn : (stepped env p i r log op k).tasks[n]? = some task) :
    TaskOk env (stepped env p i r log op k).shared.db task := by
  rcases getElem?_set_some hn with ⟨_, hn⟩ | ⟨_, rfl⟩
  · exact (h.tasks n task hn).grows (handler_grows env op _)
  · exact (h.tasks i _ hi).step

theorem Rotated.other (h : Rotated env jti p) (hi : p.tasks[i]? = some ⟨r, log, .call op k⟩)
    (ho : op ≠ .revokeRefreshToken jti) : Rotated env jti (stepped env p i r log op k) := by
  have hv := handler_valid env op p.shared h.valid
  have hold : ∀ (n : Nat) task, (stepped env p i r log op k).tasks[n]? = some task →
      HasRevoked jti task →
      ∃ task₀, p.tasks[n]? = some task₀ ∧ task₀.request = task.request ∧ HasRevoked jti task₀ ∧
        (Finished task₀ → task₀ = task) := by
    intro n task hn hrev
    rcases getElem?_set_some hn with ⟨_, hn⟩ | ⟨rfl, rfl⟩
    · exact ⟨task, hn, rfl, hrev, fun _ => rfl⟩
    · exact ⟨_, hi, rfl, hasRevoked_append hrev ho, fun hf => hf.elim⟩
  constructor
  · exact hv
  · exact fun n task hn => stepped_tasks h hi hn
  · intro n n' task task' hn hn' hr hr' hl hl'
    obtain ⟨t₀, h₀, he, hl₀, _⟩ := hold n task hn hl
    obtain ⟨t₁, h₁, he', hl₁, _⟩ := hold n' task' hn' hl'
    exact h.one n n' t₀ t₁ h₀ h₁ (he ▸ hr) (he' ▸ hr') hl₀ hl₁
  · intro n task hn hl
    obtain ⟨t₀, h₀, _, hl₀, _⟩ := hold n task hn hl
    exact (h.spent n t₀ h₀ hl₀).grows (handler_grows env op _) hv
  · intro n n' task task' hn hn' hout hl hr hl'
    obtain ⟨t₀, h₀, he, hl₀, _⟩ := hold n task hn hl
    obtain ⟨t₁, h₁, he', hl₁, hf⟩ := hold n' task' hn' hl'
    have hfin := h.settled n n' t₀ t₁ h₀ h₁ (he ▸ hout) hl₀ (he' ▸ hr) hl₁
    rw [← hf hfin]
    exact hfin

theorem Rotated.revoke {k : Unit → Call (Option TokenPair)} (h : Rotated env jti p)
    (hi : p.tasks[i]? = some ⟨r, log, .call (.revokeRefreshToken jti) k⟩)
    (hu : Undisturbed env jti p (.step i)) :
    Rotated env jti (stepped env p i r log (.revokeRefreshToken jti) k) := by
  have hv := handler_valid env (.revokeRefreshToken jti) p.shared h.valid
  obtain ⟨hj, hstored⟩ := (h.tasks i _ hi).revokes
  have hrevoked : Revoked (p.shared.db.revokeRefreshToken jti) jti :=
    revoked_revokeRefreshToken hstored
  obtain ⟨hfresh, hlast⟩ := hu (Pool.pending_call hi) _ hi
  have hat : ∀ (n : Nat) task, (stepped env p i r log (.revokeRefreshToken jti) k).tasks[n]? =
      some task → (n ≠ i ∧ p.tasks[n]? = some task) ∨ (n = i ∧ task.request = r) := by
    intro n task hn
    rcases getElem?_set_some hn with hn | ⟨he, rfl⟩
    · exact .inl hn
    · exact .inr ⟨he, rfl⟩
  refine ⟨hv, fun n task hn => stepped_tasks h hi hn, ?_, fun _ _ _ _ => hrevoked, ?_⟩
  all_goals rcases refreshes_or_logsOut hj with hr | hr
  -- a rotation finds the row fresh, so no other call has revoked it
  · have hnone : ∀ (n : Nat) task, p.tasks[n]? = some task → ¬ HasRevoked jti task := by
      intro n task hn hl
      obtain ⟨row, hrow, hrev⟩ := h.spent n task hn hl
      rw [hfresh hr row hrow] at hrev
      cases hrev
    intro n n' task task' hn hn' _ _ hl hl'
    rcases hat n task hn with ⟨_, h₀⟩ | ⟨rfl, _⟩
    · exact absurd hl (hnone n task h₀)
    · rcases hat n' task' hn' with ⟨_, h₁⟩ | ⟨rfl, _⟩
      · exact absurd hl' (hnone n' task' h₁)
      · rfl
  · intro n n' task task' hn hn' hr₀ hr₁ hl hl'
    rcases hat n task hn with ⟨_, h₀⟩ | ⟨_, he⟩
    · rcases hat n' task' hn' with ⟨_, h₁⟩ | ⟨_, he⟩
      · exact h.one n n' task task' h₀ h₁ hr₀ hr₁ hl hl'
      · exact absurd hr (he ▸ not_logsOut_of_refreshes hr₁)
    · exact absurd hr (he ▸ not_logsOut_of_refreshes hr₀)
  · intro n n' task task' hn hn' hout hl _ _
    rcases hat n task hn with ⟨_, h₀⟩ | ⟨_, he⟩
    · obtain ⟨row, hrow, hrev⟩ := h.spent n task h₀ hl
      rw [hfresh hr row hrow] at hrev
      cases hrev
    · exact absurd hout (he ▸ not_logsOut_of_refreshes hr)
  · intro n n' task task' hn hn' _ _ hr₁ hl'
    rcases hat n' task' hn' with ⟨_, h₁⟩ | ⟨_, he⟩
    · exact hlast hr task' (List.mem_of_getElem? h₁) hr₁ hl'
    · exact absurd hr (he ▸ not_logsOut_of_refreshes hr₁)

end Step

theorem Rotated.step {p q : TokenPool} (h : Rotated env jti p)
    (hs : Guarded (TokenPool.Step env) (Undisturbed env jti) p a q) : Rotated env jti q := by
  obtain ⟨hs, hu⟩ := hs
  rcases Pool.Step.cases hs with ⟨r, rfl, rfl⟩ | ⟨i, r, log, op, k, rfl, hi, rfl⟩
  · exact h.start r
  · by_cases ho : op = .revokeRefreshToken jti
    · subst ho
      exact h.revoke hi hu
    · exact h.other hi ho

theorem Rotated.yields {p : TokenPool} (h : Rotated env jti p) (hy : Yields env jti p n) :
    ∃ task pair, p.tasks[n]? = some task ∧ Refreshes env jti task.request ∧
      task.rest = .ret (some pair) ∧ HasRevoked jti task := by
  obtain ⟨⟨r, log, rest⟩, pair, hn, hr, rfl⟩ := hy
  exact ⟨_, pair, hn, hr, rfl, (h.tasks n _ hn).returned hr.token_names⟩

def LogoutRevoked (env : Environment) (jti : String) (p : TokenPool) : Prop :=
  ∃ (n : Nat) (task : TokenTask), p.tasks[n]? = some task ∧ LogsOut env jti task.request ∧
    HasRevoked jti task

theorem Rotated.logoutRevoked {p : TokenPool} (h : Rotated env jti p)
    (hl : LoggedOut env jti p) : LogoutRevoked env jti p := by
  obtain ⟨⟨r, log, rest⟩, hm, hout, rfl⟩ := hl
  obtain ⟨n, hn⟩ := List.getElem?_of_mem hm
  exact ⟨n, _, hn, hout, (h.tasks n _ hn).returned hout.token_names⟩

theorem Rotated.no_more_yields {p q : TokenPool} (h : Rotated env jti p)
    (hl : LogoutRevoked env jti p)
    (hs : Guarded (TokenPool.Step env) (Undisturbed env jti) p a q) :
    LogoutRevoked env jti q ∧ ∀ n, Yields env jti q n → Yields env jti p n := by
  have hq := h.step hs
  obtain ⟨hs, hu⟩ := hs
  obtain ⟨m, out, hm, hout, hrev⟩ := hl
  rcases Pool.Step.cases hs with ⟨r, rfl, rfl⟩ | ⟨i, r, log, op, k, rfl, hi, rfl⟩
  · refine ⟨⟨m, out, ?_, hout, hrev⟩, fun n hy => ?_⟩
    · exact (List.getElem?_append_left (List.getElem?_eq_some_iff.1 hm).1).trans hm
    · obtain ⟨task, pair, hn, hr, hret, hl⟩ := hq.yields hy
      rcases getElem?_append_singleton hn with hn | ⟨_, rfl⟩
      · exact ⟨task, pair, hn, hr, hret⟩
      · cases hl
  · constructor
    · by_cases he : m = i
      · subst he
        rw [hi] at hm
        cases hm
        exact ⟨m, ⟨r, log ++ [op], k (handler env op p.shared).1⟩,
          List.getElem?_set_self (List.getElem?_eq_some_iff.1 hi).1, hout,
          List.mem_append_left _ hrev⟩
      · exact ⟨m, out, by rw [List.getElem?_set_ne (Ne.symm he)]; exact hm, hout, hrev⟩
    · intro n hy
      obtain ⟨task, pair, hn, hr, hret, hl⟩ := hq.yields hy
      rcases getElem?_set_some hn with ⟨_, hn⟩ | ⟨rfl, rfl⟩
      · exact ⟨task, pair, hn, hr, hret⟩
      · exfalso
        rcases List.mem_append.1 hl with hl | hl
        · exact h.settled m n out _ hm hi hout hrev hr hl
        · have ho := List.mem_singleton.1 hl
          subst ho
          obtain ⟨row, hrow, hrow'⟩ := h.spent m out hm hrev
          rw [(hu (Pool.pending_call hi) _ hi).1 hr row hrow] at hrow'
          cases hrow'

/-- Undisturbed, a refresh token yields one pair at most, and none after its logout. -/
theorem refresh_single_use {w : World} (hv : w.db.Valid)
    (h : Run (Guarded (TokenPool.Step env) (Undisturbed env jti)) ⟨w, []⟩ as p) :
    (∀ n n', Yields env jti p n → Yields env jti p n' → n = n') ∧
      ∀ bs q, LoggedOut env jti p →
        Run (Guarded (TokenPool.Step env) (Undisturbed env jti)) p bs q →
        ∀ n, Yields env jti q n → Yields env jti p n := by
  have hp : Rotated env jti p :=
    h.invariant (.initial env jti hv) fun _ _ _ hI hs => hI.step hs
  constructor
  · intro n n' hy hy'
    obtain ⟨_, _, hn, hr, _, hl⟩ := hp.yields hy
    obtain ⟨_, _, hn', hr', _, hl'⟩ := hp.yields hy'
    exact hp.one n n' _ _ hn hn' hr hr' hl hl'
  · intro bs q hout hrun
    refine (hrun.invariant (I := fun q => Rotated env jti q ∧ LogoutRevoked env jti q ∧
      ∀ n, Yields env jti q n → Yields env jti p n) ⟨hp, hp.logoutRevoked hout, fun _ h => h⟩
      ?_).2.2
    rintro s a t ⟨hs, hl, hy⟩ hstep
    obtain ⟨hl', hy'⟩ := hs.no_more_yields hl hstep
    exact ⟨hs.step hstep, hl', fun n hn => hy n (hy' n hn)⟩

def aliceLoggedIn : Session := aliceRegistered.perform .readable (.createTokenPair 1)

def aliceRefreshToken : String := Payload.pack ⟨"1", "1", 0, 1209600, "refresh"⟩

theorem aliceLoggedIn_valid : aliceLoggedIn.world.db.Valid :=
  session_valid (aliceRegistered_run.snoc rfl)

/-- A logout finds the token valid, a rotation of it goes through, the logout revokes the token
again, and another rotation is refused. -/
def oneRefresh : List (Pool.Action TokenRequest) :=
  [.start (.logout aliceRefreshToken), .step 0, .step 0,
    .start (.refreshTokens aliceRefreshToken)] ++ List.replicate 11 (.step 1) ++
    [.step 0, .step 0, .start (.refreshTokens aliceRefreshToken), .step 2, .step 2]

def laterRefresh : List (Pool.Action TokenRequest) :=
  [.start (.refreshTokens aliceRefreshToken), .step 3, .step 3]

def undisturbed : TokenPool → List (Pool.Action TokenRequest) → Option TokenPool :=
  runList (guardedNext (Pool.next (handler .readable) (tokenCall .readable))
    (Undisturbed .readable "1"))

def oneRefreshed : Option TokenPool := undisturbed ⟨aliceLoggedIn.world, []⟩ oneRefresh

theorem oneRefresh_single_use : ∃ p q, oneRefreshed = some p ∧
    undisturbed p laterRefresh = some q ∧ Yields .readable "1" p 1 ∧
    (∀ n n', Yields .readable "1" p n → Yields .readable "1" p n' → n = n') ∧
    ∀ n, Yields .readable "1" q n → Yields .readable "1" p n := by
  obtain ⟨p, hp⟩ : ∃ p, oneRefreshed = some p := ⟨_, rfl⟩
  have hmany : ∃ q, undisturbed p laterRefresh = some q := by
    cases hp
    exact ⟨_, rfl⟩
  have hyields : Yields .readable "1" p 1 := by
    cases hp
    exact ⟨_, _, rfl, rfl, rfl⟩
  have hout : LoggedOut .readable "1" p := by
    cases hp
    exact ⟨_, .head _, rfl, rfl⟩
  obtain ⟨q, hq⟩ := hmany
  have h := refresh_single_use aliceLoggedIn_valid (runList_guarded hp)
  exact ⟨p, q, hp, hq, hyields, h.1, h.2 _ q hout (runList_guarded hq)⟩

def twoRefreshes : List (Pool.Action TokenRequest) :=
  [.start (.refreshTokens aliceRefreshToken), .start (.refreshTokens aliceRefreshToken)] ++
    List.replicate 4 (.step 0) ++ List.replicate 4 (.step 1) ++ List.replicate 7 (.step 0) ++
    List.replicate 7 (.step 1)

/-- Two interleaved rotations of one issued token both return a pair. -/
theorem refresh_twice : ∃ pair as p,
    ⟨.createTokenPair 1, .ok (.pair pair)⟩ ∈ aliceLoggedIn.history ∧
      tokenJti .readable pair.refreshToken = some "1" ∧
      Run (TokenPool.Step .readable) ⟨aliceLoggedIn.world, []⟩ as p ∧
      Yields .readable "1" p 0 ∧ Yields .readable "1" p 1 :=
  ⟨⟨Payload.pack ⟨"1", "0", 0, 1800, "access"⟩, aliceRefreshToken, "bearer"⟩, twoRefreshes, _,
    List.mem_append_right _ (List.mem_singleton.2 rfl), rfl, runList_run rfl,
    ⟨_, _, rfl, rfl, rfl⟩, ⟨_, _, rfl, rfl, rfl⟩⟩

end QueryMind.Auth
