import QueryMind.Auth.Service

namespace QueryMind.Auth
open Lib
set_option autoImplicit true

section Contracts
variable {env : Environment}

abbrev runCall (env : Environment) (c : Call α) (w : World) : Except ServiceError α × World :=
  c.exec (handler env) w

@[simp] theorem exec_now (k : DateTime → Call α) (w : World) :
    Prog.exec (handler env) (Prog.call (I := Operations) Op.now k) w =
      (k (env.clock w.clockReads)).exec (handler env)
        { w with clockReads := w.clockReads + 1 } := rfl

theorem runCall_map (c : Call α) (g : α → β) (w : World) :
    runCall env (c >>= fun a => .ret (g a)) w =
      ((runCall env c w).1.map g, (runCall env c w).2) := Prog.exec_map c g w

def Database.findByUsernameOrEmail (db : Database) (username email : String) : Option User :=
  (db.getByUsername username).or (db.getByEmail email)

theorem findByUsernameOrEmail_exec (w : World) :
    runCall env (findByUsernameOrEmail un mail) w =
      (.ok (w.db.findByUsernameOrEmail un mail), w) := by
  simp only [runCall, findByUsernameOrEmail, perform_bind, Prog.exec_call, handler,
    Database.findByUsernameOrEmail]
  cases w.db.getByUsername un <;> rfl

theorem verifyPassword_hash (salt : Nat) (pw : String) :
    verifyPassword env pw (env.argon2Hash salt pw) = .ret true := by
  simp only [verifyPassword, argon2Prefix, env.argon2Hash_prefix, env.argon2Verify_hash, if_true,
    Prog.pure_eq]

theorem verifyPassword_exec (pw ph : String) (w : World) :
    ∃ r, runCall env (verifyPassword env pw ph) w = (r, w) := by
  simp only [runCall, verifyPassword]
  split
  · split <;> exact ⟨_, rfl⟩
  · split <;> exact ⟨_, rfl⟩

theorem registerUser_ok {w w' : World}
    (h : runCall env (registerUser env un mail pw) w = (.ok u, w')) :
    ∃ (salt : Nat) (row : User),
      row = ⟨w.db.nextUserId, un, mail, env.argon2Hash salt pw, false, .analyst, true⟩ ∧
      u = row.read ∧ (∀ v ∈ w.db.users, v.username ≠ un ∧ v.email ≠ mail) ∧
      w'.db = { w.db with users := w.db.users ++ [row], nextUserId := w.db.nextUserId + 1 } := by
  simp only [runCall, registerUser] at h
  obtain ⟨found, w₁, hf, h⟩ := Prog.exec_bind_ok h
  rw [← runCall, findByUsernameOrEmail_exec] at hf
  cases hf
  split at h
  · cases h
  · simp only [hashPassword, perform_bind, Prog.exec_call, handler] at h
    rcases hc : w.db.createUser un mail (env.argon2Hash w.salts pw) with ⟨e | row, db'⟩ <;>
      rw [hc] at h <;> cases h
    obtain ⟨hnew, hrow, hdb⟩ := createUser_ok hc
    exact ⟨w.salts, row, hrow, rfl, hnew, hdb⟩

theorem authenticate_exec (w : World) :
    runCall env (authenticate env un pw) w =
      match w.db.findByUsernameOrEmail un un with
      | none => (.error incorrectLogin, w)
      | some user =>
        match (runCall env (verifyPassword env pw user.passwordHash) w).1 with
        | .error e => (.error e, w)
        | .ok matched =>
          if !matched then (.error incorrectLogin, w)
          else if !user.isActive then
            (.error (.inactiveUserError ("The account " ++ env.repr un ++ " is inactive.")), w)
          else (.ok user.read, w) := by
  rw [runCall, authenticate, Prog.exec_bind, ← runCall, findByUsernameOrEmail_exec]
  cases w.db.findByUsernameOrEmail un un with
  | none => rfl
  | some user =>
    obtain ⟨r, hr⟩ : ∃ r, runCall env (verifyPassword env pw user.passwordHash) w = (r, w) :=
      verifyPassword_exec _ _ _
    simp only [Prog.exec_bind, hr]
    rcases r with e | matched
    · rfl
    · simp only
      split
      · rfl
      · split <;> rfl

def encoded (env : Environment) (subject : String) (tokenType : TokenType) (delta : DateTime)
    (w : World) : Payload :=
  { sub := subject, jti := env.uuid4 w.uuids, iat := env.clock w.clockReads / 1000000
    exp := (env.clock w.clockReads + delta) / 1000000, type := tokenType.value }

theorem encode_exec (w : World) :
    runCall env (encode env sub ty delta) w =
      (.ok (env.sign (encoded env sub ty delta w) env.jwtSecretKey env.jwtAlgorithm),
        { w with clockReads := w.clockReads + 1, uuids := w.uuids + 1 }) := rfl

theorem claims_ok {p : DecodedPayload} (h : p.claims = .ok c) :
    p = ⟨some c.sub, some c.jti, some (c.iat / 1000000), some (c.exp / 1000000), some c.type⟩ := by
  obtain ⟨sub, jti, iat, exp, type⟩ := p
  cases sub <;> cases jti <;> cases iat <;> cases exp <;> cases type <;>
    simp only [DecodedPayload.claims, reduceCtorEq, Except.ok.injEq] at h
  subst h
  simp only [DecodedPayload.mk.injEq, Option.some.injEq, true_and, and_true]
  omega

theorem decodeToken_ok {w w' : World} (h : runCall env (decodeToken env t) w = (.ok c, w')) :
    ∃ p, env.verify t env.jwtSecretKey env.jwtAlgorithm = .ok p ∧ p.claims = .ok c ∧
      w' = { w with clockReads := w.clockReads + 1 } := by
  simp only [runCall, decodeToken] at h
  split at h
  · cases h
  · rename_i p hp
    simp only [perform_bind, Prog.exec_call, handler] at h
    split at h
    · cases h
    · split at h
      · cases h
      · rename_i c' hc
        cases h
        exact ⟨p, hp, hc, rfl⟩

theorem validateToken_ok {w w' : World}
    (h : runCall env (validateToken env t ty) w = (.ok c, w')) :
    ∃ p, env.verify t env.jwtSecretKey env.jwtAlgorithm = .ok p ∧ p.claims = .ok c ∧
      c.type = ty.value ∧ w' = { w with clockReads := w.clockReads + 1 } := by
  simp only [runCall, validateToken] at h
  obtain ⟨c', w₁, hd, h⟩ := Prog.exec_bind_ok h
  obtain ⟨p, hp, hc, rfl⟩ := decodeToken_ok hd
  split at h
  · cases h
  · rename_i ht
    cases h
    exact ⟨p, hp, hc, not_not.1 ht, rfl⟩

def Verifies (env : Environment) (token : String) (p : DecodedPayload) : Prop :=
  env.verify token env.jwtSecretKey env.jwtAlgorithm = .ok p

theorem createTokenPair_ok {w w' : World}
    (h : runCall env (createTokenPair env uid) w = (.ok pair, w')) :
    ∃ (access refresh : Payload) (row : RefreshToken),
      Verifies env pair.accessToken access.decoded ∧ access.sub = uid.repr ∧
      access.type = TokenType.access.value ∧
      Verifies env pair.refreshToken refresh.decoded ∧ refresh.sub = uid.repr ∧
      refresh.type = TokenType.refresh.value ∧
      (∃ u ∈ w.db.users, u.id = uid) ∧ (∀ r ∈ w.db.refreshTokens, r.jti ≠ refresh.jti) ∧
      row = ⟨w.db.nextRefreshTokenId, uid, refresh.jti, refresh.exp * 1000000, false⟩ ∧
      w'.db = { w.db with
        refreshTokens := w.db.refreshTokens ++ [row]
        nextRefreshTokenId := w.db.nextRefreshTokenId + 1 } := by
  simp only [runCall, createTokenPair, createAccessToken] at h
  obtain ⟨accessToken, w₁, ha, h⟩ := Prog.exec_bind_ok h
  rw [← runCall, encode_exec] at ha
  cases ha
  obtain ⟨issued, w₂, hi, h⟩ := Prog.exec_bind_ok h
  simp only [createRefreshToken] at hi
  obtain ⟨token, w₃, hr, hi⟩ := Prog.exec_bind_ok hi
  rw [← runCall, encode_exec] at hr
  cases hr
  obtain ⟨claims, w₄, hd, hi⟩ := Prog.exec_bind_ok hi
  obtain ⟨p, hp, hc, rfl⟩ := decodeToken_ok hd
  cases hi
  rw [env.verify_sign] at hp
  cases hp
  cases hc
  simp only [perform_bind, Prog.exec_call, handler] at h
  generalize hst : w.db.storeRefreshToken _ _ _ = stored at h
  obtain ⟨e | row, db'⟩ := stored
  · cases h
  · cases h
    obtain ⟨⟨u, hu⟩, hnew, hrow, hdb⟩ := storeRefreshToken_ok hst
    obtain ⟨hu, hid⟩ := Table.lookup_some hu
    exact ⟨_, _, row, env.verify_sign _, rfl, rfl, env.verify_sign _, rfl, rfl, ⟨u, hu, hid⟩, hnew,
      hrow, hdb⟩

/-- What a refresh token that passes validation satisfies at that moment. -/
structure RefreshAccepted (env : Environment) (t : String) (w : World) (row : RefreshToken)
    (w' : World) : Prop where
  payload : ∃ p c, Verifies env t p ∧ p.claims = .ok c ∧ c.type = TokenType.refresh.value ∧
    row.jti = c.jti
  stored : w.db.getRefreshToken row.jti = some row
  not_revoked : row.revoked = false
  not_expired : env.clock (w.clockReads + 1) ≤ row.expiresAt
  after : w' = { w with clockReads := w.clockReads + 2 }

theorem validateRefreshToken_ok {w w' : World}
    (h : runCall env (validateRefreshToken env t) w = (.ok row, w')) :
    RefreshAccepted env t w row w' := by
  simp only [runCall, validateRefreshToken] at h
  obtain ⟨c, w₁, hv, h⟩ := Prog.exec_bind_ok h
  obtain ⟨p, hp, hc, hty, rfl⟩ := validateToken_ok hv
  simp only [perform_bind, Prog.exec_call, handler] at h
  split at h
  · cases h
  · rename_i row' hrow
    have hj : row'.jti = c.jti := (Table.lookup_some hrow).2
    split at h
    · cases h
    · rename_i hrev
      simp only [exec_now] at h
      split at h
      · cases h
      · rename_i hex
        cases h
        exact ⟨⟨p, c, hp, hc, hty, hj⟩, by rw [hj]; exact hrow, by simpa using hrev,
          Int.not_lt.1 hex, rfl⟩

/-- A rotation validates, finds the owner active, revokes, and only then issues. -/
theorem refreshTokens_ok {w w' : World}
    (h : runCall env (refreshTokens env t) w = (.ok pair, w')) :
    ∃ (row : RefreshToken) (user : User) (w₁ : World), RefreshAccepted env t w row w₁ ∧
      w.db.getById row.userId = some user ∧
      user.isActive = true ∧
      runCall env (createTokenPair env user.id)
        { w₁ with db := w.db.revokeRefreshToken row.jti } = (.ok pair, w') := by
  simp only [runCall, refreshTokens] at h
  obtain ⟨row, w₁, hv, h⟩ := Prog.exec_bind_ok h
  have ha := validateRefreshToken_ok hv
  simp only [perform_bind, Prog.exec_call, handler] at h
  have hdb : w₁.db = w.db := by rw [ha.after]
  rw [hdb] at h
  split at h
  · cases h
  · rename_i user huser
    split at h
    · cases h
    · rename_i hactive
      simp only [Prog.exec_call, handler, hdb] at h
      exact ⟨row, user, w₁, ha, huser, by simpa using hactive, h⟩

theorem logout_ok {w w' : World} (h : runCall env (logout env t) w = (.ok (), w')) :
    ∃ (row : RefreshToken) (w₁ : World), RefreshAccepted env t w row w₁ ∧
      w' = { w₁ with db := w.db.revokeRefreshToken row.jti } := by
  simp only [runCall, logout] at h
  obtain ⟨row, w₁, hv, h⟩ := Prog.exec_bind_ok h
  have ha := validateRefreshToken_ok hv
  have hdb : w₁.db = w.db := by rw [ha.after]
  cases h
  exact ⟨row, w₁, ha, by rw [← hdb]; rfl⟩

theorem getCurrentUser_ok {w w' : World}
    (h : runCall env (getCurrentUser env t) w = (.ok u, w')) :
    ∃ (p : DecodedPayload) (c : TokenClaims) (user : User),
      Verifies env t p ∧ p.claims = .ok c ∧ c.type = TokenType.access.value ∧
      Text.toInt? c.sub = some (user.id : Int) ∧ w.db.getById user.id = some user ∧
      user.isActive = true ∧ u = user.read ∧ w'.db = w.db := by
  simp only [runCall, getCurrentUser] at h
  obtain ⟨c, w₁, hv, h⟩ := Prog.exec_bind_ok h
  obtain ⟨p, hp, hc, hty, rfl⟩ := validateToken_ok hv
  split at h
  · cases h
  · rename_i n hn
    obtain ⟨found, w₂, hf, h⟩ := Prog.exec_bind_ok h
    simp only [getUserById] at hf
    split at hf
    · rename_i hpos
      cases hf
      split at h
      · cases h
      · rename_i user huser
        split at h
        · cases h
        · rename_i hactive
          cases h
          have hid : user.id = n.toNat := (Table.lookup_some huser).2
          refine ⟨p, c, user, hp, hc, hty, ?_, ?_, by simpa using hactive, rfl, rfl⟩
          · rw [hn, hid, Int.toNat_of_nonneg hpos]
          · rw [hid]
            exact huser
    · cases hf
      cases h

theorem createApiKey_call_ok {w w' : World}
    (h : runCall env (createApiKey env uid nm ex) w = (.ok made, w')) :
    ∃ row : ApiKey,
      row = ⟨w.db.nextApiKeyId, uid, apiKeyPrefix made.rawKey, hashApiKey env made.rawKey, nm, ex,
        none, none⟩ ∧ made.key = row.read ∧
      Text.startsWith made.rawKey apiKeyPrefixText = true ∧
      (∃ u ∈ w.db.users, u.id = uid) ∧ (∀ k ∈ w.db.apiKeys, k.keyHash ≠ row.keyHash) ∧
      w'.db = { w.db with
        apiKeys := w.db.apiKeys ++ [row], nextApiKeyId := w.db.nextApiKeyId + 1 } := by
  simp only [runCall, createApiKey, generateRawApiKey, perform_bind, Prog.call_bind, Prog.pure_eq,
    Prog.ret_bind, Prog.exec_call, handler] at h
  generalize hcr : w.db.createApiKey _ _ _ _ _ = created at h
  obtain ⟨e | row, db'⟩ := created
  · cases h
  · cases h
    obtain ⟨⟨u, hu⟩, hnew, hrow, hdb⟩ := createApiKey_ok hcr
    obtain ⟨hu, hid⟩ := Table.lookup_some hu
    refine ⟨row, hrow, rfl, ?_, ⟨u, hu, hid⟩, by rw [hrow]; exact hnew, hdb⟩
    simp [Text.startsWith, String.toList_append]

theorem createApiKey_call_error {w w' : World}
    (h : runCall env (createApiKey env uid nm ex) w = (.error e, w')) : w'.db = w.db := by
  simp only [runCall, createApiKey, generateRawApiKey, perform_bind, Prog.call_bind, Prog.pure_eq,
    Prog.ret_bind, Prog.exec_call, handler] at h
  generalize hcr : w.db.createApiKey _ _ _ _ _ = created at h
  obtain ⟨e' | row, db'⟩ := created
  · cases h
    exact createApiKey_error hcr
  · cases h

theorem revokeApiKey_cases (env : Environment) (w : World) (by' : UserRead) (kid : Nat) :
    (runCall env (revokeApiKey by' kid) w = (.error (noApiKey kid), w)) ∨
    ∃ row now, w.db.getApiKeyById kid = some row ∧ (row.userId = by'.id ∨ by'.role = .admin) ∧
      runCall env (revokeApiKey by' kid) w =
        (.ok (), { w with db := w.db.revokeApiKey kid now, clockReads := w.clockReads + 1 }) := by
  simp only [runCall, revokeApiKey, perform_bind, Prog.exec_call, handler]
  cases hrow : w.db.getApiKeyById kid with
  | none => exact .inl rfl
  | some row =>
    simp only
    split
    · exact .inl rfl
    · rename_i hauth
      refine .inr ⟨row, env.clock w.clockReads, rfl, ?_, rfl⟩
      simp only [ne_eq, Bool.and_eq_true, decide_eq_true_eq, Bool.not_eq_true', not_and,
        Bool.not_eq_false] at hauth
      by_cases hu : row.userId = by'.id
      · exact .inl hu
      · exact .inr (by simpa [isAdmin, hasRole] using hauth hu)

theorem ownerOfApiKey_ok {w w' : World}
    (h : runCall env (ownerOfApiKey row) w = (.ok u, w')) :
    ∃ user, w.db.getById row.userId = some user ∧ user.isActive = true ∧ u = user.read := by
  simp only [runCall, ownerOfApiKey, perform_bind, Prog.exec_call, handler] at h
  split at h
  · cases h
  · rename_i user huser
    split at h
    · cases h
    · rename_i hactive
      obtain ⟨_, w₁, _, h⟩ := Prog.exec_bind_ok h
      cases h
      exact ⟨user, huser, by simpa using hactive, rfl⟩

theorem authenticateApiKey_ok {w w' : World}
    (h : runCall env (authenticateApiKey env raw) w = (.ok u, w')) :
    ∃ row user, w.db.getApiKeyByHash (hashApiKey env raw) = some row ∧ row.revokedAt = none ∧
      (∀ ex, row.expiresAt = some ex → env.clock w.clockReads ≤ ex) ∧
      w.db.getById row.userId = some user ∧ user.isActive = true ∧ u = user.read := by
  simp only [runCall, authenticateApiKey] at h
  split at h
  · cases h
  · simp only [perform_bind, Prog.exec_call, handler] at h
    split at h
    · cases h
    · rename_i row hrow
      split at h
      · cases h
      · rename_i hrev
        have hr : row.revokedAt = none := by simpa using hrev
        split at h
        · rename_i hex
          obtain ⟨user, huser, hactive, hu⟩ := ownerOfApiKey_ok h
          exact ⟨row, user, hrow, hr, by simp [hex], huser, hactive, hu⟩
        · rename_i ex hex
          simp only [exec_now] at h
          split at h
          · cases h
          · rename_i hlt
            obtain ⟨user, huser, hactive, hu⟩ := ownerOfApiKey_ok h
            refine ⟨row, user, hrow, hr, fun ex' he => ?_, huser, hactive, hu⟩
            rw [hex] at he
            cases he
            exact Int.not_lt.1 hlt

end Contracts

end QueryMind.Auth
