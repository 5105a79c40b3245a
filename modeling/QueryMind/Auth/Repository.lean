import QueryMind.Auth.Models

namespace QueryMind.Auth
open Lib
set_option autoImplicit true

/-- The database refused a row that breaks a unique or foreign key constraint. -/
inductive IntegrityError
  | integrityError
  deriving DecidableEq, Repr

namespace Database

def createUser (db : Database) (username email passwordHash : String) :
    Except IntegrityError User × Database :=
  if db.users.any (fun u => u.username = username || u.email = email) then
    (.error .integrityError, db)
  else
    let user : User := {
      id := db.nextUserId, username, email, passwordHash,
      isSuperuser := false, role := .analyst, isActive := true }
    (.ok user, { db with users := db.users ++ [user], nextUserId := db.nextUserId + 1 })

def getByUsername (db : Database) (username : String) : Option User :=
  Table.lookup User.username username db.users

def getByEmail (db : Database) (email : String) : Option User :=
  Table.lookup User.email email db.users

def getById (db : Database) (userId : Nat) : Option User :=
  Table.lookup User.id userId db.users

/-- Flip the soft-delete flag of an account, as an operator does. -/
def setActive (db : Database) (userId : Nat) (active : Bool) : Database :=
  { db with users := Table.update User.id userId (fun u => { u with isActive := active }) db.users }

def storeRefreshToken (db : Database) (userId : Nat) (jti : String) (expiresAt : DateTime) :
    Except IntegrityError RefreshToken × Database :=
  if (db.getById userId).isNone || db.refreshTokens.any (fun r => r.jti = jti) then
    (.error .integrityError, db)
  else
    let row : RefreshToken := {
      id := db.nextRefreshTokenId, userId, jti, expiresAt, revoked := false }
    (.ok row, { db with
      refreshTokens := db.refreshTokens ++ [row]
      nextRefreshTokenId := db.nextRefreshTokenId + 1 })

def getRefreshToken (db : Database) (jti : String) : Option RefreshToken :=
  Table.lookup RefreshToken.jti jti db.refreshTokens

def revokeRefreshToken (db : Database) (jti : String) : Database :=
  { db with
    refreshTokens :=
      Table.update RefreshToken.jti jti (fun r => { r with revoked := true }) db.refreshTokens }

def createApiKey (db : Database) (userId : Nat) (keyPrefix keyHash name : String)
    (expiresAt : Option DateTime) : Except IntegrityError ApiKey × Database :=
  if (db.getById userId).isNone || db.apiKeys.any (fun k => k.keyHash = keyHash) then
    (.error .integrityError, db)
  else
    let row : ApiKey := {
      id := db.nextApiKeyId, userId, keyPrefix, keyHash, name, expiresAt,
      lastUsedAt := none, revokedAt := none }
    (.ok row, { db with apiKeys := db.apiKeys ++ [row], nextApiKeyId := db.nextApiKeyId + 1 })

def getApiKeyByHash (db : Database) (keyHash : String) : Option ApiKey :=
  Table.lookup ApiKey.keyHash keyHash db.apiKeys

def getApiKeyById (db : Database) (keyId : Nat) : Option ApiKey :=
  Table.lookup ApiKey.id keyId db.apiKeys

def revokeApiKey (db : Database) (keyId : Nat) (now : DateTime) : Database :=
  { db with
    apiKeys := Table.update ApiKey.id keyId
      (fun k => if k.revokedAt = none then { k with revokedAt := some now } else k) db.apiKeys }

def touchApiKeyLastUsed (db : Database) (keyId : Nat) (now : DateTime) : Database :=
  { db with
    apiKeys :=
      Table.update ApiKey.id keyId (fun k => { k with lastUsedAt := some now }) db.apiKeys }

end Database

theorem createUser_ok {db : Database} (h : db.createUser un mail ph = (.ok u, db')) :
    (∀ v ∈ db.users, v.username ≠ un ∧ v.email ≠ mail) ∧
      u = ⟨db.nextUserId, un, mail, ph, false, .analyst, true⟩ ∧
      db' = { db with users := db.users ++ [u], nextUserId := db.nextUserId + 1 } := by
  simp only [Database.createUser] at h
  split at h
  · cases h
  · rename_i hn
    cases h
    refine ⟨fun v hv => ?_, rfl, rfl⟩
    simp only [List.any_eq_true, Bool.or_eq_true, decide_eq_true_eq, not_exists, not_and,
      not_or] at hn
    exact hn v hv

theorem createUser_error {db : Database} (h : db.createUser un mail ph = (.error e, db')) :
    db' = db := by
  simp only [Database.createUser] at h
  split at h <;> cases h
  rfl

theorem storeRefreshToken_ok {db : Database}
    (h : db.storeRefreshToken uid jti ex = (.ok r, db')) :
    (∃ u, db.getById uid = some u) ∧ (∀ r' ∈ db.refreshTokens, r'.jti ≠ jti) ∧
      r = ⟨db.nextRefreshTokenId, uid, jti, ex, false⟩ ∧
      db' = { db with
        refreshTokens := db.refreshTokens ++ [r]
        nextRefreshTokenId := db.nextRefreshTokenId + 1 } := by
  simp only [Database.storeRefreshToken] at h
  split at h
  · cases h
  · rename_i hn
    cases h
    simp only [Bool.or_eq_true, Option.isNone_iff_eq_none, List.any_eq_true, decide_eq_true_eq,
      not_or, not_exists, not_and] at hn
    exact ⟨Option.ne_none_iff_exists'.1 hn.1, hn.2, rfl, rfl⟩

theorem storeRefreshToken_error {db : Database}
    (h : db.storeRefreshToken uid jti ex = (.error e, db')) : db' = db := by
  simp only [Database.storeRefreshToken] at h
  split at h <;> cases h
  rfl

theorem createApiKey_ok {db : Database} (h : db.createApiKey uid pre kh nm ex = (.ok k, db')) :
    (∃ u, db.getById uid = some u) ∧ (∀ k' ∈ db.apiKeys, k'.keyHash ≠ kh) ∧
      k = ⟨db.nextApiKeyId, uid, pre, kh, nm, ex, none, none⟩ ∧
      db' = { db with apiKeys := db.apiKeys ++ [k], nextApiKeyId := db.nextApiKeyId + 1 } := by
  simp only [Database.createApiKey] at h
  split at h
  · cases h
  · rename_i hn
    cases h
    simp only [Bool.or_eq_true, Option.isNone_iff_eq_none, List.any_eq_true, decide_eq_true_eq,
      not_or, not_exists, not_and] at hn
    exact ⟨Option.ne_none_iff_exists'.1 hn.1, hn.2, rfl, rfl⟩

theorem createApiKey_error {db : Database}
    (h : db.createApiKey uid pre kh nm ex = (.error e, db')) : db' = db := by
  simp only [Database.createApiKey] at h
  split at h <;> cases h
  rfl

theorem getRefreshToken_revokeRefreshToken (db : Database) (jti jti' : String) :
    (db.revokeRefreshToken jti).getRefreshToken jti' =
      (db.getRefreshToken jti').map
        (fun r => if r.jti = jti then { r with revoked := true } else r) :=
  Table.lookup_update (g := RefreshToken.jti) fun _ => rfl

theorem Database.Valid.createUser {db : Database} (hv : db.Valid) (un mail ph : String) :
    (db.createUser un mail ph).2.Valid := by
  rcases he : db.createUser un mail ph with ⟨e | u, db'⟩
  · rw [createUser_error he]
    exact hv
  · obtain ⟨hnew, hu, hdb⟩ := createUser_ok he
    subst hdb
    refine { hv with user_ids := ?_, usernames := ?_, emails := ?_, user_id_lt := ?_ }
    · apply Table.nodup_append hv.user_ids
      intro v hm
      have hlt := hv.user_id_lt v hm
      simp only [hu]
      omega
    · exact Table.nodup_append hv.usernames fun v hm => by rw [hu]; exact (hnew v hm).1
    · exact Table.nodup_append hv.emails fun v hm => by rw [hu]; exact (hnew v hm).2
    · intro v hm
      rcases List.mem_append.1 hm with hm | hm
      · exact Nat.lt_succ_of_lt (hv.user_id_lt v hm)
      · rw [List.mem_singleton.1 hm, hu]
        exact Nat.lt_succ_self _

theorem Database.Valid.setActive {db : Database} (hv : db.Valid) (uid : Nat) (b : Bool) :
    (db.setActive uid b).Valid := by
  refine { hv with user_ids := ?_, usernames := ?_, emails := ?_, user_id_lt := ?_ }
  · exact Table.nodup_update (fun _ => rfl) hv.user_ids
  · exact Table.nodup_update (fun _ => rfl) hv.usernames
  · exact Table.nodup_update (fun _ => rfl) hv.emails
  · intro u hu
    obtain ⟨v, hm, he⟩ := Table.mem_update hu
    have hlt := hv.user_id_lt v hm
    rw [he]
    split <;> exact hlt

theorem Database.Valid.storeRefreshToken {db : Database} (hv : db.Valid) (uid : Nat) (jti : String)
    (ex : DateTime) : (db.storeRefreshToken uid jti ex).2.Valid := by
  rcases he : db.storeRefreshToken uid jti ex with ⟨e | r, db'⟩
  · rw [storeRefreshToken_error he]
    exact hv
  · obtain ⟨_, hnew, hr, hdb⟩ := storeRefreshToken_ok he
    subst hdb
    exact { hv with
      jtis := Table.nodup_append hv.jtis fun r' hm => by rw [hr]; exact hnew r' hm }

theorem Database.Valid.revokeRefreshToken {db : Database} (hv : db.Valid) (jti : String) :
    (db.revokeRefreshToken jti).Valid :=
  { hv with jtis := Table.nodup_update (fun _ => rfl) hv.jtis }

theorem Database.Valid.createApiKey {db : Database} (hv : db.Valid) (uid : Nat)
    (pre kh nm : String) (ex : Option DateTime) : (db.createApiKey uid pre kh nm ex).2.Valid := by
  rcases he : db.createApiKey uid pre kh nm ex with ⟨e | k, db'⟩
  · rw [createApiKey_error he]
    exact hv
  · obtain ⟨_, hnew, hk, hdb⟩ := createApiKey_ok he
    subst hdb
    refine { hv with key_ids := ?_, key_hashes := ?_, key_id_lt := ?_ }
    · apply Table.nodup_append hv.key_ids
      intro k' hm
      have hlt := hv.key_id_lt k' hm
      simp only [hk]
      omega
    · exact Table.nodup_append hv.key_hashes fun k' hm => by rw [hk]; exact hnew k' hm
    · intro k' hm
      rcases List.mem_append.1 hm with hm | hm
      · exact Nat.lt_succ_of_lt (hv.key_id_lt k' hm)
      · rw [List.mem_singleton.1 hm, hk]
        exact Nat.lt_succ_self _

theorem Database.Valid.update_keys {db : Database} (hv : db.Valid) (kid : Nat) (f : ApiKey → ApiKey)
    (hid : ∀ k, (f k).id = k.id) (hh : ∀ k, (f k).keyHash = k.keyHash) :
    { db with apiKeys := Table.update ApiKey.id kid f db.apiKeys }.Valid := by
  refine { hv with key_ids := ?_, key_hashes := ?_, key_id_lt := ?_ }
  · exact Table.nodup_update hid hv.key_ids
  · exact Table.nodup_update hh hv.key_hashes
  · intro k hm
    obtain ⟨k', hm', he⟩ := Table.mem_update hm
    have hlt := hv.key_id_lt k' hm'
    rw [he]
    split
    · rw [hid]; exact hlt
    · exact hlt

theorem Database.Valid.revokeApiKey {db : Database} (hv : db.Valid) (kid : Nat) (now : DateTime) :
    (db.revokeApiKey kid now).Valid :=
  hv.update_keys kid _ (fun k => by split <;> rfl) (fun k => by split <;> rfl)

theorem Database.Valid.touchApiKeyLastUsed {db : Database} (hv : db.Valid) (kid : Nat)
    (now : DateTime) : (db.touchApiKeyLastUsed kid now).Valid :=
  hv.update_keys kid _ (fun _ => rfl) (fun _ => rfl)

end QueryMind.Auth
