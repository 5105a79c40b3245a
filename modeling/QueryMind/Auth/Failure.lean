import QueryMind.Auth.Lifecycle
import QueryMind.Auth.Rotation

namespace QueryMind.Auth
open Lib
set_option autoImplicit true

/-- The operations that are a repository call, with a transaction of its own. -/
def isRepositoryCall : Op → Bool
  | .now | .uuid4 | .tokenUrlsafe | .argon2Hash _ => false
  | _ => true

/-- Run a call alone while one of its repository calls raises, and is rolled back. -/
def runFailing (env : Environment) (point : Option Nat) (c : Call α) (s : World × Nat) :
    Except (Option ServiceError) α × World × Nat :=
  c.execFailing (handler env) isRepositoryCall point s

/-- The store and the account have what it takes to accept a token at a moment. -/
def UsableAt (env : Environment) (t : String) (db : Database) (now : DateTime) : Prop :=
  ∃ row user, (tokenJti env t).bind db.getRefreshToken = some row ∧ row.revoked = false ∧
    now ≤ row.expiresAt ∧ db.getById row.userId = some user ∧ user.isActive = true

/-- A token is accepted in one state of the database just when it is in another. -/
def AsUsable (env : Environment) (t : String) (db db' : Database) : Prop :=
  ∀ now, UsableAt env t db' now ↔ UsableAt env t db now

/-- The token is valid, its account is active, and the calls up to the revocation do not raise. -/
structure PastRevocation (env : Environment) (t : String) (point : Option Nat) (w : World)
    (row : RefreshToken) : Prop where
  valid : ∃ w₁, runCall env (validateRefreshToken env t) w = (.ok row, w₁)
  active : ∃ user, w.db.getById row.userId = some user ∧ user.isActive = true
  later : ∀ n, point = some n → 3 ≤ n

section Failure
variable {env : Environment} {point : Option Nat}

theorem decodeToken_uncounted (t : String) : (decodeToken env t).Always (fun _ _ => True)
    (fun op => isRepositoryCall op = false) (fun _ => True) := by
  simp only [decodeToken]
  split
  · trivial
  · simp only [perform_bind]
    apply Prog.Always.call
    · rfl
    · intro now _
      split
      · trivial
      · split
        · trivial
        · trivial

theorem validateToken_uncounted (t : String) (ty : TokenType) :
    (validateToken env t ty).Always (fun _ _ => True)
      (fun op => isRepositoryCall op = false) (fun _ => True) := by
  apply (decodeToken_uncounted t).bind
  intro c _
  split
  · trivial
  · trivial

theorem createRefreshToken_uncounted (subject : String) :
    (createRefreshToken env subject).Always (fun _ _ => True)
      (fun op => isRepositoryCall op = false) (fun _ => True) := by
  refine ⟨rfl, fun _ _ => ⟨rfl, fun _ _ => ?_⟩⟩
  apply (decodeToken_uncounted _).bind
  intro c _
  trivial

theorem createAccessToken_uncounted (subject : String) :
    (createAccessToken env subject).Always (fun _ _ => True)
      (fun op => isRepositoryCall op = false) (fun _ => True) :=
  ⟨rfl, fun _ _ => ⟨rfl, fun _ _ => trivial⟩⟩

theorem decodeToken_db (env : Environment) (t : String) (w : World) :
    (runCall env (decodeToken env t) w).2.db = w.db := by
  rw [runCall, decodeToken]
  split
  · rfl
  · rw [perform_bind, Prog.exec_call]
    split
    · rfl
    · split
      · rfl
      · rfl

theorem validateToken_db (env : Environment) (t : String) (ty : TokenType) (w : World) :
    (runCall env (validateToken env t ty) w).2.db = w.db := by
  have hd := decodeToken_db env t w
  rw [runCall] at hd
  rw [runCall, validateToken, Prog.exec_bind]
  rcases he : (decodeToken env t).exec (handler env) w with ⟨_ | c, w₁⟩
  · rw [he] at hd
    rw [he]
    exact hd
  · rw [he] at hd
    rw [he]
    simp only
    split
    · exact hd
    · exact hd

/-- What validation does with the row that the token names. -/
def checkRow (row : Option RefreshToken) : Call RefreshToken :=
  match row with
  | none => .raise (.invalidTokenError "This refresh token was not issued by this server.")
  | some row =>
    if row.revoked then
      .raise (.refreshTokenRevokedError "This refresh token has already been used or revoked.")
    else do
      let now : DateTime ← perform .now
      if row.expiresAt < now then
        .raise (.tokenExpiredError "This refresh token has expired.")
      else
        pure row

theorem validateRefreshToken_eq (t : String) : validateRefreshToken env t =
    validateToken env t .refresh >>= fun c => Prog.call (Op.getRefreshToken c.jti) checkRow := by
  apply congrArg (Prog.bind (validateToken env t .refresh))
  funext c
  apply congrArg (Prog.call (I := Operations) (Op.getRefreshToken c.jti))
  funext row
  cases row with
  | none => rfl
  | some row => rfl

theorem checkRow_failing (env : Environment) (point : Option Nat)
    (row : Option RefreshToken) (s : World × Nat) :
    (∃ e w', runFailing env point (checkRow row) s = (.error (some e), w', s.2) ∧
        runCall env (checkRow row) s.1 = (.error e, w') ∧ w'.db = s.1.db) ∨
      ∃ r w', runFailing env point (checkRow row) s = (.ok r, w', s.2) ∧
        runCall env (checkRow row) s.1 = (.ok r, w') ∧ w'.db = s.1.db := by
  cases row with
  | none => exact .inl ⟨_, s.1, rfl, rfl, rfl⟩
  | some row =>
    have huncounted : (checkRow (some row)).Always (fun _ _ => True)
        (fun op => isRepositoryCall op = false) (fun _ => True) := by
      simp only [checkRow, perform_bind]
      split
      · trivial
      · apply Prog.Always.call
        · rfl
        · intro now _
          split
          · trivial
          · trivial
    rw [runFailing, Prog.execFailing_of_always huncounted, runCall]
    simp only [checkRow, perform_bind]
    split
    · exact .inl ⟨_, s.1, rfl, rfl, rfl⟩
    · rw [exec_now]
      split
      · exact .inl ⟨_, _, rfl, rfl, rfl⟩
      · exact .inr ⟨row, _, rfl, rfl, rfl⟩

/-- Validation reads only: it fails with the store as it was, or accepts as it does alone. -/
theorem validateRefreshToken_failing (env : Environment) (point : Option Nat)
    (t : String) (w : World) :
    (∃ e w' n, runFailing env point (validateRefreshToken env t) (w, 0) = (.error e, w', n) ∧
        w'.db = w.db ∧
        (point = some 0 ∨ ∃ e', (runCall env (validateRefreshToken env t) w).1 = .error e')) ∨
      ∃ row w₁, runFailing env point (validateRefreshToken env t) (w, 0) = (.ok row, w₁, 1) ∧
        runCall env (validateRefreshToken env t) w = (.ok row, w₁) ∧ w₁.db = w.db ∧
        point ≠ some 0 := by
  have hd := validateToken_db env t .refresh w
  rw [runCall] at hd
  rw [validateRefreshToken_eq, runFailing, runCall, Prog.execFailing_bind, Prog.exec_bind,
    Prog.execFailing_of_always (validateToken_uncounted t .refresh)]
  rcases he : (validateToken env t .refresh).exec (handler env) w with ⟨e | c, w₁⟩
  · rw [he] at hd ⊢
    exact .inl ⟨some e, w₁, 0, rfl, hd, .inr ⟨e, rfl⟩⟩
  · rw [he] at hd ⊢
    simp only [Except.mapError]
    by_cases hp : point = some 0
    · rw [Prog.execFailing_raised rfl hp]
      exact .inl ⟨none, w₁, 0, rfl, hd, .inl hp⟩
    · rw [Prog.execFailing_passed rfl hp, Prog.exec_call]
      have hc := checkRow_failing env point (w₁.db.getRefreshToken c.jti)
        (w₁, 1)
      rcases hc with ⟨e, w', hf, hr, hdb⟩ | ⟨r, w', hf, hr, hdb⟩
      · exact .inl ⟨some e, w', 1, hf, hdb.trans hd, .inr ⟨e, congrArg Prod.fst hr⟩⟩
      · exact .inr ⟨r, w', hf, hr, hdb.trans hd, hp⟩

theorem createAccessToken_db (env : Environment) (subject : String) (w : World) :
    ((createAccessToken env subject).exec (handler env) w).2.db = w.db := rfl

theorem createRefreshToken_db (env : Environment) (subject : String) (w : World) :
    ((createRefreshToken env subject).exec (handler env) w).2.db = w.db := by
  rw [createRefreshToken, Prog.exec_bind, ← runCall, encode_exec]
  simp only
  have hd := decodeToken_db env (env.sign
    (encoded env subject .refresh (days env.refreshTokenExpireDays) w)
    env.jwtSecretKey env.jwtAlgorithm)
    { w with clockReads := w.clockReads + 1, uuids := w.uuids + 1 }
  simp only [Prog.pure_eq, Prog.exec_map]
  exact hd

theorem createTokenPair_failing {uid : Nat} {s s' : World × Nat}
    (h : runFailing env point (createTokenPair env uid) s = (.error e, s')) :
    s'.1.db = s.1.db := by
  have ha := createAccessToken_db env uid.repr s.1
  rw [runFailing, createTokenPair, Prog.execFailing_bind,
    Prog.execFailing_of_always (createAccessToken_uncounted uid.repr)] at h
  rcases hx : (createAccessToken env uid.repr).exec (handler env) s.1 with ⟨_ | access, w₁⟩
  · rw [hx] at h ha
    cases h
    exact ha
  rw [hx] at h ha
  simp only [Except.mapError] at h
  have hr := createRefreshToken_db env uid.repr w₁
  rw [Prog.execFailing_bind,
    Prog.execFailing_of_always (createRefreshToken_uncounted uid.repr)] at h
  rcases hy : (createRefreshToken env uid.repr).exec (handler env) w₁ with ⟨_ | issued, w₂⟩
  · rw [hy] at h hr
    cases h
    exact hr.trans ha
  rw [hy] at h hr
  simp only [Except.mapError, perform_bind] at h
  have hop : isRepositoryCall (.storeRefreshToken uid issued.2.jti issued.2.exp) = true := rfl
  by_cases hp : point = some (w₂, s.2).2
  · rw [Prog.execFailing_raised hop hp] at h
    cases h
    exact hr.trans ha
  · rw [Prog.execFailing_passed hop hp] at h
    simp only [handler] at h
    rcases hs : w₂.db.storeRefreshToken uid issued.2.jti issued.2.exp with ⟨e' | row, db'⟩
    · rw [hs] at h
      cases h
      exact (storeRefreshToken_error hs).trans (hr.trans ha)
    · rw [hs] at h
      cases h

theorem asUsable_of_eq (t : String) {db db' : Database} (h : db' = db) : AsUsable env t db db' := by
  intro now
  rw [h]

theorem not_asUsable_revoked {t : String} {w w₁ : World} {row : RefreshToken} {user : User}
    (hv : runCall env (validateRefreshToken env t) w = (.ok row, w₁))
    (hu : w.db.getById row.userId = some user) (ha : user.isActive = true) :
    ¬ AsUsable env t w.db (w.db.revokeRefreshToken row.jti) := by
  have hacc := validateRefreshToken_ok hv
  obtain ⟨p, c, hp, hc, _, hj⟩ := hacc.payload
  have hjti : tokenJti env t = some row.jti := by
    rw [tokenJti_verifies hp, claims_ok hc, hj]
  intro h
  have hbefore : UsableAt env t w.db row.expiresAt := by
    refine ⟨row, user, ?_, hacc.not_revoked, Int.le_refl _, hu, ha⟩
    rw [hjti]
    exact hacc.stored
  obtain ⟨row', _, hrow, hrev, _⟩ := (h row.expiresAt).2 hbefore
  rw [hjti, Option.bind_some, getRefreshToken_revokeRefreshToken, hacc.stored, Option.map_some,
    if_pos rfl] at hrow
  cases hrow
  cases hrev

theorem refreshTokens_failing {t : String} {w : World} {s' : World × Nat}
    (h : runFailing env point (refreshTokens env t) (w, 0) = (.error e, s')) :
    (s'.1.db = w.db ∧ ∀ row, ¬ PastRevocation env t point w row) ∨
      ∃ row, PastRevocation env t point w row ∧ s'.1.db = w.db.revokeRefreshToken row.jti := by
  rw [runFailing, refreshTokens, Prog.execFailing_bind] at h
  rcases validateRefreshToken_failing env point t w with
    ⟨e', w', n, hf, hdb, hwhy⟩ | ⟨row, w₁, hf, hr, hdb, hp₀⟩
  · rw [← runFailing, hf] at h
    cases h
    refine .inl ⟨hdb, ?_⟩
    intro row hpast
    rcases hwhy with h₀ | ⟨e', he'⟩
    · exact absurd (hpast.later 0 h₀) (by decide)
    · obtain ⟨w₁, hv⟩ := hpast.valid
      rw [hv] at he'
      cases he'
  rw [← runFailing, hf] at h
  simp only [perform_bind] at h
  have hrow : ∀ row', PastRevocation env t point w row' → row' = row := by
    intro row' hpast
    obtain ⟨w₂, hv⟩ := hpast.valid
    rw [hr] at hv
    cases hv
    rfl
  have hget : isRepositoryCall (.getById row.userId) = true := rfl
  by_cases hp₁ : point = some (w₁, 1).2
  · rw [Prog.execFailing_raised hget hp₁] at h
    cases h
    exact .inl ⟨hdb, fun row' hpast => absurd (hpast.later 1 hp₁) (by decide)⟩
  rw [Prog.execFailing_passed hget hp₁] at h
  simp only [handler, hdb] at h
  split at h
  · rename_i hu
    cases h
    refine .inl ⟨hdb, ?_⟩
    intro row' hpast
    obtain ⟨user, hu', _⟩ := hpast.active
    rw [hrow row' hpast, hu] at hu'
    cases hu'
  · rename_i user hu
    split at h
    · rename_i hinactive
      cases h
      refine .inl ⟨hdb, ?_⟩
      intro row' hpast
      obtain ⟨user', hu', ha⟩ := hpast.active
      rw [hrow row' hpast, hu] at hu'
      cases hu'
      rw [ha] at hinactive
      cases hinactive
    · rename_i hactive
      have ha : user.isActive = true := by simpa using hactive
      have hrevoke : isRepositoryCall (.revokeRefreshToken row.jti) = true := rfl
      by_cases hp₂ : point = some (w₁, 2).2
      · rw [Prog.execFailing_raised hrevoke hp₂] at h
        cases h
        exact .inl ⟨hdb, fun row' hpast => absurd (hpast.later 2 hp₂) (by decide)⟩
      · rw [Prog.execFailing_passed hrevoke hp₂] at h
        have hlast := createTokenPair_failing h
        refine .inr ⟨row, ⟨⟨w₁, hr⟩, ⟨user, hu, ha⟩, ?_⟩, ?_⟩
        · intro n hn
          by_contra hlt
          have hcases : n = 0 ∨ n = 1 ∨ n = 2 := by omega
          rcases hcases with rfl | rfl | rfl
          · exact hp₀ hn
          · exact hp₁ hn
          · exact hp₂ hn
        · rw [hlast]
          simp only [handler, hdb]

/-- A rotation that raises leaves the token as usable as it was, unless it has got past the
revocation: then the token is revoked, and nothing else is changed. -/
theorem refresh_failure {t : String} {w : World} {s' : World × Nat}
    (h : runFailing env point (refreshTokens env t) (w, 0) = (.error e, s')) :
    (AsUsable env t w.db s'.1.db ↔ ¬ ∃ row, PastRevocation env t point w row) ∧
      ((¬ ∃ row, PastRevocation env t point w row) → s'.1.db = w.db) ∧
      ∀ row, PastRevocation env t point w row → s'.1.db = w.db.revokeRefreshToken row.jti := by
  rcases refreshTokens_failing h with ⟨hdb, hno⟩ | ⟨row, hpast, hdb⟩
  · have hnone : ¬ ∃ row, PastRevocation env t point w row := not_exists.2 hno
    exact ⟨iff_of_true (asUsable_of_eq t hdb) hnone, fun _ => hdb,
      fun row hrow => absurd hrow (hno row)⟩
  · obtain ⟨w₁, hv⟩ := hpast.valid
    obtain ⟨user, hu, ha⟩ := hpast.active
    have hsome : ∃ row, PastRevocation env t point w row := ⟨row, hpast⟩
    have hnot : ¬ AsUsable env t w.db s'.1.db := by
      rw [hdb]
      exact not_asUsable_revoked hv hu ha
    refine ⟨iff_of_false hnot (not_not.2 hsome), fun hno => absurd hsome hno, ?_⟩
    intro row' hpast'
    obtain ⟨w₂, hv'⟩ := hpast'.valid
    rw [hv] at hv'
    cases hv'
    exact hdb

end Failure

theorem refresh_failure_revoking : ∃ s', runFailing .readable (some 2)
      (refreshTokens .readable aliceRefreshToken) (aliceLoggedIn.world, 0) = (.error none, s') ∧
    AsUsable .readable aliceRefreshToken aliceLoggedIn.world.db s'.1.db := by
  have hrun : runFailing .readable (some 2) (refreshTokens .readable aliceRefreshToken)
      (aliceLoggedIn.world, 0) = (.error none, _) := rfl
  refine ⟨_, hrun, (refresh_failure hrun).1.2 ?_⟩
  intro h
  obtain ⟨row, hrow⟩ := h
  exact absurd (hrow.later 2 rfl) (by decide)

theorem refresh_failure_storing : ∃ s', runFailing .readable (some 3)
      (refreshTokens .readable aliceRefreshToken) (aliceLoggedIn.world, 0) = (.error none, s') ∧
    UsableAt .readable aliceRefreshToken aliceLoggedIn.world.db 0 ∧
    ¬ UsableAt .readable aliceRefreshToken s'.1.db 0 ∧
    ¬ AsUsable .readable aliceRefreshToken aliceLoggedIn.world.db s'.1.db := by
  have hbefore : UsableAt .readable aliceRefreshToken aliceLoggedIn.world.db 0 :=
    ⟨_, _, rfl, rfl, by decide, rfl, rfl⟩
  have hafter : ∀ db row,
      (tokenJti .readable aliceRefreshToken).bind db.getRefreshToken = some row →
      row.revoked = true → ¬ UsableAt .readable aliceRefreshToken db 0 := by
    intro db row hrow hrev h
    obtain ⟨row', _, hrow', hrev', _⟩ := h
    rw [hrow] at hrow'
    cases hrow'
    rw [hrev] at hrev'
    cases hrev'
  refine ⟨_, rfl, hbefore, hafter _ _ rfl rfl, ?_⟩
  intro h
  exact hafter _ _ rfl rfl ((h 0).2 hbefore)

end QueryMind.Auth
