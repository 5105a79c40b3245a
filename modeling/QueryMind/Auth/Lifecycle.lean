import QueryMind.Auth.Rotation
import QueryMind.Auth.Writes

namespace QueryMind.Auth
open Lib
set_option autoImplicit true

/-- A pair was issued to a user: at a login, or in exchange for an earlier pair of that user. -/
inductive IssuedPair (h : List Event) : TokenPair → Nat → Prop
  | created (he : ⟨.createTokenPair uid, .ok (.pair pair)⟩ ∈ h) : IssuedPair h pair uid
  | rotated (he : ⟨.refreshTokens old.refreshToken, .ok (.pair pair)⟩ ∈ h)
      (hi : IssuedPair h old uid) : IssuedPair h pair uid

theorem IssuedPair.rotate (hi : IssuedPair h old uid)
    (he : ⟨.refreshTokens old.refreshToken, .ok (.pair pair)⟩ ∈ h) : IssuedPair h pair uid :=
  .rotated he hi

theorem IssuedPair.later (hi : IssuedPair h pair uid) (h' : List Event) :
    IssuedPair (h ++ h') pair uid := by
  induction hi with
  | created he => exact .created (List.mem_append_left _ he)
  | rotated he _ ih => exact .rotated (List.mem_append_left _ he) ih

def IssuedKey (h : List Event) (made : ApiKeyCreated) (uid : Nat) (ex : Option DateTime) : Prop :=
  ∃ nm, ⟨.createApiKey uid nm ex, .ok (.key made)⟩ ∈ h

/-- A rotation or a logout has spent the refresh token. -/
def Spent (h : List Event) (t : String) : Prop :=
  ∃ r, ⟨.refreshTokens t, .ok r⟩ ∈ h ∨ ⟨.logout t, .ok r⟩ ∈ h

def KeyRevoked (h : List Event) (kid : Nat) : Prop :=
  ∃ by' r, ⟨.revokeApiKey by' kid, .ok r⟩ ∈ h

def Request.presented : Request → Option String
  | .refreshTokens t | .logout t | .getCurrentUser t => some t
  | _ => none

/-- Signatures are not forged: a presented token that verifies was issued before. -/
def Unforged (env : Environment) (s : Session) (r : Request) : Prop :=
  ∀ t, r.presented = some t → ∀ p, Verifies env t p →
    ∃ pair uid, IssuedPair s.history pair uid ∧ (t = pair.accessToken ∨ t = pair.refreshToken)

def outcome (env : Environment) (s : Session) (r : Request) : Except ServiceError Response :=
  (runCall env (serve env r) s.world).1

def OwnerActive (s : Session) (uid : Nat) : Prop :=
  ∃ u ∈ s.world.db.users, u.id = uid ∧ u.isActive = true

/-- A refresh token issued to a user, unspent, with a row that is neither revoked nor expired. -/
structure Usable (env : Environment) (s : Session) (t : String) (uid : Nat) : Prop where
  issued : ∃ pair, IssuedPair s.history pair uid ∧ pair.refreshToken = t
  unspent : ¬ Spent s.history t
  stored : ∃ row ∈ s.world.db.refreshTokens, tokenJti env t = some row.jti ∧ row.userId = uid ∧
    row.revoked = false ∧ env.clock s.world.clockReads ≤ row.expiresAt

/-- What each call that accepts a credential has checked, and what a revocation may touch. -/
structure Sound (env : Environment) (s : Session) (r : Request) : Prop where
  refresh : ∀ t pair, r = .refreshTokens t → outcome env s r = .ok (.pair pair) →
    ∃ uid, Usable env s t uid ∧ OwnerActive s uid ∧
      IssuedPair (s.perform env r).history pair uid ∧
      (∃ p, Verifies env pair.accessToken p ∧ p.sub = some uid.repr) ∧
      ∃ p, Verifies env pair.refreshToken p ∧ p.sub = some uid.repr
  logout : ∀ t, r = .logout t → outcome env s r = .ok .done → ∃ uid, Usable env s t uid
  apiKey : ∀ raw u, r = .authenticateApiKey raw → outcome env s r = .ok (.user u) →
    ∃ made ex, IssuedKey s.history made u.id ex ∧ made.rawKey = raw ∧
      ¬ KeyRevoked s.history made.key.id ∧
      (∀ e, ex = some e → env.clock s.world.clockReads ≤ e) ∧ OwnerActive s u.id
  access : ∀ t u, r = .getCurrentUser t → outcome env s r = .ok (.user u) →
    ∃ pair, IssuedPair s.history pair u.id ∧ pair.accessToken = t ∧ OwnerActive s u.id
  refresh_not_access : ∀ pair uid, IssuedPair s.history pair uid →
    (r = .refreshTokens pair.accessToken ∨ r = .logout pair.accessToken) →
    ∀ resp, outcome env s r ≠ .ok resp
  access_not_refresh : ∀ pair uid, IssuedPair s.history pair uid →
    r = .getCurrentUser pair.refreshToken → ∀ resp, outcome env s r ≠ .ok resp
  permanent : (∀ row ∈ s.world.db.refreshTokens, row.revoked = true →
      row ∈ (s.perform env r).world.db.refreshTokens) ∧
    ∀ k ∈ s.world.db.apiKeys, k.revokedAt.isSome = true →
      ∃ used, { k with lastUsedAt := used } ∈ (s.perform env r).world.db.apiKeys
  revocation : ∀ by' kid, r = .revokeApiKey by' kid →
    (s.perform env r).world.db.users = s.world.db.users ∧
      (s.perform env r).world.db.refreshTokens = s.world.db.refreshTokens ∧
      (s.perform env r).world.db.apiKeys.map ApiKey.id = s.world.db.apiKeys.map ApiKey.id ∧
      ∀ k ∈ s.world.db.apiKeys, k ∈ (s.perform env r).world.db.apiKeys ∨
        (k.id = kid ∧ (k.userId = by'.id ∨ by'.role = .admin))

/-- The stored row of a signed refresh token belongs to a user. -/
def RowOf (env : Environment) (db : Database) (t : String) (uid : Nat) : Prop :=
  ∃ row ∈ db.refreshTokens, tokenJti env t = some row.jti ∧ row.userId = uid

theorem RowOf.grows {db db' : Database} (h : RowOf env db t uid) (hg : db.Grows db') :
    RowOf env db' t uid := by
  obtain ⟨row, hm, hj, hu⟩ := h
  obtain ⟨b, hm', _⟩ := hg.tokens row hm
  exact ⟨_, hm', hj, hu⟩

theorem RowOf.unique {db : Database} (hv : db.Valid) (h : RowOf env db t uid)
    (h' : RowOf env db t uid') : uid = uid' := by
  obtain ⟨row, hm, hj, hu⟩ := h
  obtain ⟨row', hm', hj', hu'⟩ := h'
  have he : row.jti = row'.jti := Option.some.inj (hj.symm.trans hj')
  rw [← hu, ← hu', List.inj_on_of_nodup_map hv.jtis hm hm' he]

def TokenOf (env : Environment) (t : String) (uid : Nat) (ty : TokenType) : Prop :=
  ∃ p, Verifies env t p ∧ p.sub = some uid.repr ∧ p.type = some ty.value

structure PairOf (env : Environment) (db : Database) (pair : TokenPair) (uid : Nat) : Prop where
  access : TokenOf env pair.accessToken uid .access
  refresh : TokenOf env pair.refreshToken uid .refresh
  row : RowOf env db pair.refreshToken uid

theorem PairOf.grows {db db' : Database} (h : PairOf env db pair uid) (hg : db.Grows db') :
    PairOf env db' pair uid := ⟨h.access, h.refresh, h.row.grows hg⟩

def KeyOf (env : Environment) (db : Database) (made : ApiKeyCreated) (uid : Nat)
    (ex : Option DateTime) : Prop :=
  ∃ k ∈ db.apiKeys, k.id = made.key.id ∧ k.keyHash = hashApiKey env made.rawKey ∧
    k.userId = uid ∧ k.expiresAt = ex

theorem KeyOf.grows {db db' : Database} (h : KeyOf env db made uid ex) (hg : db.Grows db') :
    KeyOf env db' made uid ex := by
  obtain ⟨k, hm, hid, hh, hu, hex⟩ := h
  obtain ⟨us, re, hm', _⟩ := hg.keys k hm
  exact ⟨_, hm', hid, hh, hu, hex⟩

theorem tokenJti_verifies (h : Verifies env t p) : tokenJti env t = p.jti := by
  rw [tokenJti, h]

theorem createTokenPair_pairOf {w w' : World}
    (h : runCall env (createTokenPair env uid) w = (.ok pair, w')) :
    PairOf env w'.db pair uid := by
  obtain ⟨access, refresh, row, ha, has, hat, hr, hrs, hrt, _, _, hrow, hdb⟩ := createTokenPair_ok h
  refine ⟨⟨_, ha, ?_, ?_⟩, ⟨_, hr, ?_, ?_⟩, row, ?_, ?_, ?_⟩
  · rw [← has]; rfl
  · rw [← hat]; rfl
  · rw [← hrs]; rfl
  · rw [← hrt]; rfl
  · rw [hdb]
    exact List.mem_append_right _ (List.mem_singleton.2 rfl)
  · rw [tokenJti_verifies hr, hrow]
    rfl
  · rw [hrow]

theorem RefreshAccepted.rowOf {w w₁ : World} (h : RefreshAccepted env t w row w₁) :
    RowOf env w.db t row.userId := by
  obtain ⟨p, c, hp, hc, _, hj⟩ := h.payload
  refine ⟨row, (Table.lookup_some h.stored).1, ?_, rfl⟩
  rw [tokenJti_verifies hp, claims_ok hc, hj]

theorem RefreshAccepted.revoked {w w₁ : World} (h : RefreshAccepted env t w row w₁) :
    ∃ jti, tokenJti env t = some jti ∧ Revoked (w.db.revokeRefreshToken row.jti) jti := by
  obtain ⟨p, c, hp, hc, _, hj⟩ := h.payload
  refine ⟨row.jti, ?_, revoked_revokeRefreshToken (Option.isSome_iff_exists.2 ⟨row, h.stored⟩)⟩
  rw [tokenJti_verifies hp, claims_ok hc, hj]

theorem refreshTokens_pairOf {w w' : World} (hv : w.db.Valid)
    (h : runCall env (refreshTokens env t) w = (.ok pair, w')) :
    ∃ uid, PairOf env w'.db pair uid ∧ RowOf env w'.db t uid ∧
      ∃ jti, tokenJti env t = some jti ∧ Revoked w'.db jti := by
  obtain ⟨row, user, w₁, ha, huser, _, hc⟩ := refreshTokens_ok h
  have hid : user.id = row.userId := (Table.lookup_some huser).2
  have hg := runCall_grows env (createTokenPair env user.id)
    { w₁ with db := w.db.revokeRefreshToken row.jti }
  have hv' := runCall_valid env (createTokenPair env user.id)
    { w₁ with db := w.db.revokeRefreshToken row.jti } (hv.revokeRefreshToken row.jti)
  rw [hc] at hg hv'
  obtain ⟨jti, hj, hr⟩ := ha.revoked
  refine ⟨user.id, createTokenPair_pairOf hc, ?_, jti, hj, hr.grows hg hv'⟩
  rw [hid]
  exact (ha.rowOf.grows (.revokeRefreshToken w.db row.jti)).grows hg

/-- The keys of a later database are keys of the earlier one, up to use and revocation. -/
def KeysFrom (db db' : Database) : Prop :=
  ∀ k' ∈ db'.apiKeys, ∃ k ∈ db.apiKeys, k'.id = k.id ∧ k'.keyHash = k.keyHash ∧
    k'.userId = k.userId ∧ k'.expiresAt = k.expiresAt

theorem KeysFrom.refl (db : Database) : KeysFrom db db := fun k hk => ⟨k, hk, rfl, rfl, rfl, rfl⟩

theorem KeysFrom.trans {db₁ db₂ db₃ : Database} (h : KeysFrom db₁ db₂) (h' : KeysFrom db₂ db₃) :
    KeysFrom db₁ db₃ := by
  intro k hk
  obtain ⟨k₂, hk₂, hid, hh, hu, he⟩ := h' k hk
  obtain ⟨k₁, hk₁, hid', hh', hu', he'⟩ := h k₂ hk₂
  exact ⟨k₁, hk₁, hid.trans hid', hh.trans hh', hu.trans hu', he.trans he'⟩

theorem KeysFrom.update {db : Database} {f : ApiKey → ApiKey} (hid : ∀ k, (f k).id = k.id)
    (hh : ∀ k, (f k).keyHash = k.keyHash) (hu : ∀ k, (f k).userId = k.userId)
    (he : ∀ k, (f k).expiresAt = k.expiresAt) :
    KeysFrom db { db with apiKeys := Table.update ApiKey.id kid f db.apiKeys } := by
  intro k hk
  obtain ⟨k', hk', rfl⟩ := Table.mem_update hk
  refine ⟨k', hk', ?_⟩
  split
  · exact ⟨hid k', hh k', hu k', he k'⟩
  · exact ⟨rfl, rfl, rfl, rfl⟩

theorem handler_keysFrom (env : Environment) (op : Op) (w : World)
    (h : op.write ≠ some .newApiKey) : KeysFrom w.db (handler env op w).2.db := by
  cases op with
  | createUser un mail ph =>
    rcases he : w.db.createUser un mail ph with ⟨e | u, db'⟩ <;> simp only [handler, he]
    · rw [createUser_error he]
      exact .refl _
    · obtain ⟨_, _, rfl⟩ := createUser_ok he
      exact .refl _
  | storeRefreshToken uid jti ex =>
    rcases he : w.db.storeRefreshToken uid jti ex with ⟨e | u, db'⟩ <;> simp only [handler, he]
    · rw [storeRefreshToken_error he]
      exact .refl _
    · obtain ⟨_, _, _, rfl⟩ := storeRefreshToken_ok he
      exact .refl _
  | createApiKey => exact absurd rfl h
  | revokeApiKey kid =>
    exact .update (fun k => by split <;> rfl) (fun k => by split <;> rfl)
      (fun k => by split <;> rfl) (fun k => by split <;> rfl)
  | touchApiKeyLastUsed kid =>
    exact .update (fun _ => rfl) (fun _ => rfl) (fun _ => rfl) (fun _ => rfl)
  | _ => exact .refl _

theorem serve_keysFrom {env : Environment} {r : Request} (h : .newApiKey ∉ r.writes) (w : World) :
    KeysFrom w.db (runCall env (serve env r) w).2.db :=
  (serve_writes r).exec (R := fun w w' : World => KeysFrom w.db w'.db) (fun _ => .refl _)
    (fun _ _ _ h h' => h.trans h')
    (fun op w' hop => handler_keysFrom env op w' fun he => h (hop _ (by rw [he]; rfl))) w

/-- What the tables know about everything the service has answered. -/
structure Ledger (env : Environment) (s : Session) : Prop where
  valid : s.world.db.Valid
  created : ∀ uid pair, ⟨.createTokenPair uid, .ok (.pair pair)⟩ ∈ s.history →
    PairOf env s.world.db pair uid
  rotated : ∀ t pair, ⟨.refreshTokens t, .ok (.pair pair)⟩ ∈ s.history →
    ∃ uid, PairOf env s.world.db pair uid ∧ RowOf env s.world.db t uid
  spent : ∀ t, Spent s.history t → ∃ jti, tokenJti env t = some jti ∧ Revoked s.world.db jti
  keys : ∀ made uid ex, IssuedKey s.history made uid ex → KeyOf env s.world.db made uid ex
  issued : ∀ k ∈ s.world.db.apiKeys, ∃ made, IssuedKey s.history made k.userId k.expiresAt ∧
    k.keyHash = hashApiKey env made.rawKey ∧ k.id = made.key.id
  revoked : ∀ kid, KeyRevoked s.history kid →
    ∃ k ∈ s.world.db.apiKeys, k.id = kid ∧ k.revokedAt.isSome = true

theorem Ledger.initial (env : Environment) : Ledger env .initial := by
  refine ⟨Database.empty_valid, ?_, ?_, ?_, ?_, ?_, ?_⟩
  · rintro uid pair ⟨⟩
  · rintro t pair ⟨⟩
  · rintro t ⟨r, he | he⟩ <;> cases he
  · rintro made uid ex ⟨nm, ⟨⟩⟩
  · rintro k ⟨⟩
  · rintro kid ⟨by', r, ⟨⟩⟩

section Perform
variable {env : Environment} {s : Session}

theorem new_event (h : (⟨r', o⟩ : Event) = ⟨r, (runCall env (serve env r) s.world).1⟩) :
    r' = r ∧ runCall env (serve env r') s.world = (o, (s.perform env r).world) := by
  cases h
  exact ⟨rfl, rfl⟩

theorem Ledger.perform_created (h : Ledger env s)
    (he : ⟨.createTokenPair uid, .ok (.pair pair)⟩ ∈ (s.perform env r).history) :
    PairOf env (s.perform env r).world.db pair uid := by
  rcases mem_history_perform he with he | he
  · exact (h.created uid pair he).grows (runCall_grows env _ _)
  · obtain ⟨rfl, hc⟩ := new_event he
    obtain ⟨pair', w₁, hp, hc⟩ := Prog.exec_bind_ok hc
    cases hc
    exact createTokenPair_pairOf hp

theorem Ledger.perform_rotated (h : Ledger env s)
    (he : ⟨.refreshTokens t, .ok (.pair pair)⟩ ∈ (s.perform env r).history) :
    ∃ uid, PairOf env (s.perform env r).world.db pair uid ∧
      RowOf env (s.perform env r).world.db t uid := by
  have hg := runCall_grows env (serve env r) s.world
  rcases mem_history_perform he with he | he
  · obtain ⟨uid, hp, hr⟩ := h.rotated t pair he
    exact ⟨uid, hp.grows hg, hr.grows hg⟩
  · obtain ⟨rfl, hc⟩ := new_event he
    obtain ⟨pair', w₁, hp, hc⟩ := Prog.exec_bind_ok hc
    cases hc
    obtain ⟨uid, hpair, hrow, _⟩ := refreshTokens_pairOf h.valid hp
    exact ⟨uid, hpair, hrow⟩

theorem Ledger.perform_spent (h : Ledger env s) (he : Spent (s.perform env r).history t) :
    ∃ jti, tokenJti env t = some jti ∧ Revoked (s.perform env r).world.db jti := by
  have hv := runCall_valid env (serve env r) s.world h.valid
  have hold : Spent s.history t →
      ∃ jti, tokenJti env t = some jti ∧ Revoked (s.perform env r).world.db jti := by
    intro hs
    obtain ⟨jti, hj, hr⟩ := h.spent t hs
    exact ⟨jti, hj, hr.grows (runCall_grows env _ _) hv⟩
  obtain ⟨resp, he | he⟩ := he
  · rcases mem_history_perform he with he | he
    · exact hold ⟨resp, .inl he⟩
    · obtain ⟨rfl, hc⟩ := new_event he
      obtain ⟨pair, w₁, hp, hc⟩ := Prog.exec_bind_ok hc
      obtain ⟨_, _, _, hr⟩ := refreshTokens_pairOf h.valid hp
      cases hc
      exact hr
  · rcases mem_history_perform he with he | he
    · exact hold ⟨resp, .inr he⟩
    · obtain ⟨rfl, hc⟩ := new_event he
      obtain ⟨_, w₁, hp, hc⟩ := Prog.exec_bind_ok hc
      obtain ⟨row, w₂, ha, hw⟩ := logout_ok hp
      cases hc
      have hdb : (s.perform env (.logout t)).world.db = _ := congrArg World.db hw
      rw [hdb]
      exact ha.revoked

theorem Ledger.perform_keys (h : Ledger env s)
    (he : IssuedKey (s.perform env r).history made uid ex) :
    KeyOf env (s.perform env r).world.db made uid ex := by
  obtain ⟨nm, he⟩ := he
  rcases mem_history_perform he with he | he
  · exact (h.keys made uid ex ⟨nm, he⟩).grows (runCall_grows env _ _)
  · obtain ⟨rfl, hc⟩ := new_event he
    obtain ⟨made', w₁, hk, hc⟩ := Prog.exec_bind_ok hc
    cases hc
    obtain ⟨row, hrow, hkey, _, _, _, hdb⟩ := createApiKey_call_ok hk
    refine ⟨row, ?_, ?_, ?_, ?_, ?_⟩
    · rw [hdb]
      exact List.mem_append_right _ (List.mem_singleton.2 rfl)
    · rw [hkey]; rfl
    all_goals rw [hrow]

theorem IssuedKey.later (h : IssuedKey s.history made uid ex) :
    IssuedKey (s.perform env r).history made uid ex := by
  obtain ⟨nm, he⟩ := h
  exact ⟨nm, List.mem_append_left _ he⟩

theorem Ledger.issued_keysFrom (h : Ledger env s)
    (hk : KeysFrom s.world.db (s.perform env r).world.db) :
    ∀ k ∈ (s.perform env r).world.db.apiKeys, ∃ made,
      IssuedKey (s.perform env r).history made k.userId k.expiresAt ∧
        k.keyHash = hashApiKey env made.rawKey ∧ k.id = made.key.id := by
  intro k hm
  obtain ⟨k₀, hm₀, hid, hh, hu, he⟩ := hk k hm
  obtain ⟨made, hi, hh₀, hid₀⟩ := h.issued k₀ hm₀
  rw [hu, he]
  exact ⟨made, hi.later, hh.trans hh₀, hid.trans hid₀⟩

theorem Ledger.perform_issued (h : Ledger env s) :
    ∀ k ∈ (s.perform env r).world.db.apiKeys, ∃ made,
      IssuedKey (s.perform env r).history made k.userId k.expiresAt ∧
        k.keyHash = hashApiKey env made.rawKey ∧ k.id = made.key.id := by
  by_cases hw : .newApiKey ∈ r.writes
  · cases r <;> simp only [Request.writes, List.mem_cons, List.not_mem_nil, or_false, reduceCtorEq,
      or_self] at hw
    rename_i uid nm ex
    have hb : runCall env (serve env (.createApiKey uid nm ex)) s.world = _ :=
      runCall_map (createApiKey env uid nm ex) Response.key s.world
    have hdb' : (s.perform env (.createApiKey uid nm ex)).world.db =
        (runCall env (createApiKey env uid nm ex) s.world).2.db :=
      congrArg (World.db ∘ Prod.snd) hb
    rcases hc : runCall env (createApiKey env uid nm ex) s.world with ⟨e | made, w'⟩ <;>
      rw [hc] at hb hdb'
    · exact h.issued_keysFrom (by rw [hdb', createApiKey_call_error hc]; exact .refl _)
    · obtain ⟨row, hrow, hkey, _, _, _, hdb⟩ := createApiKey_call_ok hc
      have hev : IssuedKey (s.perform env (.createApiKey uid nm ex)).history made uid ex :=
        ⟨nm, List.mem_append_right _ (List.mem_singleton.2 (by rw [hb]; rfl))⟩
      intro k hk
      rw [hdb', hdb] at hk
      rcases List.mem_append.1 hk with hk | hk
      · obtain ⟨made', hi, hh, hid⟩ := h.issued k hk
        exact ⟨made', hi.later, hh, hid⟩
      · rw [List.mem_singleton.1 hk]
        refine ⟨made, ?_, by rw [hrow], by rw [hkey]; rfl⟩
        rw [hrow]
        exact hev
  · exact h.issued_keysFrom (serve_keysFrom hw _)

theorem Ledger.perform_revoked (h : Ledger env s) (hk : KeyRevoked (s.perform env r).history kid) :
    ∃ k ∈ (s.perform env r).world.db.apiKeys, k.id = kid ∧ k.revokedAt.isSome = true := by
  obtain ⟨by', resp, he⟩ := hk
  rcases mem_history_perform he with he | he
  · obtain ⟨k, hm, hid, hr⟩ := h.revoked kid ⟨by', resp, he⟩
    obtain ⟨us, re, hm', hre⟩ := (runCall_grows env (serve env r) s.world).keys k hm
    exact ⟨_, hm', hid, by rw [hre hr]; exact hr⟩
  · obtain ⟨rfl, hc⟩ := new_event he
    obtain ⟨_, w₁, hk, hc⟩ := Prog.exec_bind_ok hc
    rcases revokeApiKey_cases env s.world by' kid with hno | ⟨row, now, hrow, _, hok⟩
    · rw [runCall, hk] at hno
      cases hno
    · rw [runCall, hk] at hok
      cases hc
      have hdb : (s.perform env (.revokeApiKey by' kid)).world.db =
          s.world.db.revokeApiKey kid now :=
        congrArg World.db (Prod.mk.inj hok).2
      obtain ⟨hm, hid⟩ := Table.lookup_some hrow
      have hm' := Table.mem_update_of_mem ApiKey.id kid
        (fun k => if k.revokedAt = none then { k with revokedAt := some now } else k) hm
      rw [if_pos hid] at hm'
      refine ⟨_, by rw [hdb]; exact hm', ?_, ?_⟩
      · split <;> exact hid
      · split
        · rfl
        · rename_i hn
          exact Option.isSome_iff_ne_none.2 hn

theorem Ledger.perform (h : Ledger env s) (r : Request) : Ledger env (s.perform env r) where
  valid := runCall_valid env _ _ h.valid
  created _ _ := h.perform_created
  rotated _ _ := h.perform_rotated
  spent _ := h.perform_spent
  keys _ _ _ := h.perform_keys
  issued := h.perform_issued
  revoked _ := h.perform_revoked

end Perform

theorem session_ledger {env : Environment} (h : Run (Session.Step env) .initial rs s) :
    Ledger env s :=
  h.invariant (.initial env) fun _ _ _ hI hs => hs ▸ hI.perform _

section Sound
variable {env : Environment} {s : Session}

theorem Ledger.pairOf (h : Ledger env s) (hi : IssuedPair s.history pair uid) :
    PairOf env s.world.db pair uid := by
  induction hi with
  | created he => exact h.created _ _ he
  | rotated he _ ih =>
    obtain ⟨uid', hp, hr⟩ := h.rotated _ _ he
    rw [ih.row.unique h.valid hr]
    exact hp

theorem TokenOf.type_eq (h : TokenOf env t uid ty) (hp : Verifies env t p)
    (hc : p.claims = .ok c) : c.type = ty.value ∧ c.sub = uid.repr := by
  obtain ⟨p', hp', hs, hty⟩ := h
  have he : p' = p := Except.ok.inj (hp'.symm.trans hp)
  rw [he, claims_ok hc] at hs hty
  exact ⟨Option.some.inj hty, Option.some.inj hs⟩

theorem RefreshAccepted.usable {w₁ : World} (h : Ledger env s)
    (hu : ∀ p, Verifies env t p → ∃ pair uid, IssuedPair s.history pair uid ∧
      (t = pair.accessToken ∨ t = pair.refreshToken))
    (ha : RefreshAccepted env t s.world row w₁) : Usable env s t row.userId := by
  obtain ⟨p, c, hp, hc, hty, hj⟩ := ha.payload
  obtain ⟨pair, uid, hi, ht⟩ := hu p hp
  have hpair := h.pairOf hi
  have hjti : tokenJti env t = some row.jti := by rw [tokenJti_verifies hp, claims_ok hc, hj]
  have ht' : t = pair.refreshToken := by
    refine ht.resolve_left fun he => ?_
    subst he
    have hacc := (hpair.access.type_eq hp hc).1
    rw [hty] at hacc
    exact absurd hacc (by decide)
  subst ht'
  have huid : uid = row.userId := hpair.row.unique h.valid ha.rowOf
  refine ⟨⟨pair, huid ▸ hi, rfl⟩, fun hs => ?_, row, (Table.lookup_some ha.stored).1, hjti, rfl,
    ha.not_revoked, ?_⟩
  · obtain ⟨jti, hj', row', hrow', hrev⟩ := h.spent _ hs
    have he : jti = row.jti := Option.some.inj (hj'.symm.trans hjti)
    rw [he, ha.stored] at hrow'
    cases hrow'
    rw [ha.not_revoked] at hrev
    cases hrev
  · exact Int.le_trans (env.clock_mono _ _ (Nat.le_succ _)) ha.not_expired

theorem Ledger.refresh_sound (h : Ledger env s) (hu : Unforged env s (.refreshTokens t))
    (ho : outcome env s (.refreshTokens t) = .ok (.pair pair)) :
    ∃ uid, Usable env s t uid ∧ OwnerActive s uid ∧
      IssuedPair (s.perform env (.refreshTokens t)).history pair uid ∧
      (∃ p, Verifies env pair.accessToken p ∧ p.sub = some uid.repr) ∧
      ∃ p, Verifies env pair.refreshToken p ∧ p.sub = some uid.repr := by
  obtain ⟨pair', w₁, hp, hc⟩ := Prog.exec_bind_ok (Prod.ext ho rfl :
    runCall env (serve env (.refreshTokens t)) s.world = (_, _))
  cases hc
  obtain ⟨row, user, w₂, ha, huser, hact, hcr⟩ := refreshTokens_ok hp
  have hid : user.id = row.userId := (Table.lookup_some huser).2
  have hus := ha.usable h fun p hp => hu t rfl p hp
  have hpair := createTokenPair_pairOf hcr
  rw [hid] at hpair
  obtain ⟨old, hold, he⟩ := hus.issued
  refine ⟨row.userId, hus, ⟨user, (Table.lookup_some huser).1, hid, hact⟩, ?_, ?_, ?_⟩
  · refine (hold.later _).rotate (List.mem_append_right _ (List.mem_singleton.2 ?_))
    rw [he]
    exact congrArg _ ho.symm
  · obtain ⟨p, hv, hs, _⟩ := hpair.access
    exact ⟨p, hv, hs⟩
  · obtain ⟨p, hv, hs, _⟩ := hpair.refresh
    exact ⟨p, hv, hs⟩

theorem Ledger.logout_sound (h : Ledger env s) (hu : Unforged env s (.logout t))
    (ho : outcome env s (.logout t) = .ok .done) : ∃ uid, Usable env s t uid := by
  obtain ⟨_, w₁, hp, _⟩ := Prog.exec_bind_ok (Prod.ext ho rfl :
    runCall env (serve env (.logout t)) s.world = (_, _))
  obtain ⟨row, w₂, ha, _⟩ := logout_ok hp
  exact ⟨row.userId, ha.usable h fun p hp => hu t rfl p hp⟩

theorem Ledger.apiKey_sound (h : Ledger env s) (hsha : Function.Injective env.sha256)
    (ho : outcome env s (.authenticateApiKey raw) = .ok (.user u)) :
    ∃ made ex, IssuedKey s.history made u.id ex ∧ made.rawKey = raw ∧
      ¬ KeyRevoked s.history made.key.id ∧
      (∀ e, ex = some e → env.clock s.world.clockReads ≤ e) ∧ OwnerActive s u.id := by
  obtain ⟨u', w₁, hp, hc⟩ := Prog.exec_bind_ok (Prod.ext ho rfl :
    runCall env (serve env (.authenticateApiKey raw)) s.world = (_, _))
  cases hc
  obtain ⟨row, user, hrow, hrev, hex, huser, hact, rfl⟩ := authenticateApiKey_ok hp
  obtain ⟨hm, hh⟩ := Table.lookup_some hrow
  obtain ⟨hum, huid⟩ := Table.lookup_some huser
  obtain ⟨made, hi, hmh, hmid⟩ := h.issued row hm
  have hid : user.read.id = row.userId := huid
  refine ⟨made, row.expiresAt, hid ▸ hi, hsha (hmh.symm.trans hh), fun hkr => ?_, hex,
    user, hum, rfl, hact⟩
  obtain ⟨k, hkm, hkid, hkr⟩ := h.revoked _ hkr
  rw [List.inj_on_of_nodup_map h.valid.key_ids hkm hm (hkid.trans hmid.symm), hrev] at hkr
  cases hkr

theorem Ledger.access_sound (h : Ledger env s) (hu : Unforged env s (.getCurrentUser t))
    (ho : outcome env s (.getCurrentUser t) = .ok (.user u)) :
    ∃ pair, IssuedPair s.history pair u.id ∧ pair.accessToken = t ∧ OwnerActive s u.id := by
  obtain ⟨u', w₁, hp, hc⟩ := Prog.exec_bind_ok (Prod.ext ho rfl :
    runCall env (serve env (.getCurrentUser t)) s.world = (_, _))
  cases hc
  obtain ⟨p, c, user, hv, hc, hty, hsub, huser, hact, rfl, _⟩ := getCurrentUser_ok hp
  obtain ⟨pair, uid, hi, ht⟩ := hu t rfl p hv
  have hpair := h.pairOf hi
  have ht' : t = pair.accessToken := by
    refine ht.resolve_right fun he => ?_
    subst he
    have href := (hpair.refresh.type_eq hv hc).1
    rw [hty] at href
    exact absurd href (by decide)
  subst ht'
  have hid : uid = user.id := by
    rw [(hpair.access.type_eq hv hc).2, Text.toInt?_repr] at hsub
    exact Int.ofNat.inj (Option.some.inj hsub)
  subst hid
  exact ⟨pair, hi, rfl, user, (Table.lookup_some huser).1, rfl, hact⟩

theorem validateToken_refuses (h : TokenOf env t uid ty) (ty' : TokenType) (hne : ty ≠ ty')
    (w w' : World)
    (c : TokenClaims) : runCall env (validateToken env t ty') w ≠ (.ok c, w') := by
  intro hv
  obtain ⟨p, hp, hc, hty, _⟩ := validateToken_ok hv
  have he := (h.type_eq hp hc).1
  rw [hty] at he
  cases ty <;> cases ty' <;> first | exact hne rfl | exact absurd he (by decide)

theorem Ledger.refresh_refuses_access (h : Ledger env s) (hi : IssuedPair s.history pair uid)
    (hr : r = .refreshTokens pair.accessToken ∨ r = .logout pair.accessToken) (resp : Response) :
    outcome env s r ≠ .ok resp := by
  intro ho
  have hno := validateToken_refuses (h.pairOf hi).access .refresh (by decide) s.world
  have hval : ∃ row w', runCall env (validateRefreshToken env pair.accessToken) s.world =
      (.ok row, w') := by
    rcases hr with rfl | rfl
    all_goals
      obtain ⟨_, _, hp, _⟩ := Prog.exec_bind_ok (Prod.ext ho rfl :
        runCall env (serve env _) s.world = (_, _))
      obtain ⟨row, w₁, hv, _⟩ := Prog.exec_bind_ok hp
      exact ⟨row, w₁, hv⟩
  obtain ⟨row, w', hv⟩ := hval
  obtain ⟨c, w₁, hv, _⟩ := Prog.exec_bind_ok hv
  exact hno w₁ c hv

theorem Ledger.access_refuses_refresh (h : Ledger env s) (hi : IssuedPair s.history pair uid)
    (resp : Response) : outcome env s (.getCurrentUser pair.refreshToken) ≠ .ok resp := by
  intro ho
  obtain ⟨_, _, hp, _⟩ := Prog.exec_bind_ok (Prod.ext ho rfl :
    runCall env (serve env (.getCurrentUser pair.refreshToken)) s.world = (_, _))
  obtain ⟨c, w₁, hv, _⟩ := Prog.exec_bind_ok hp
  exact validateToken_refuses (h.pairOf hi).refresh .access (by decide) s.world w₁ c hv

theorem revokeApiKey_frame (env : Environment) (s : Session) (by' : UserRead) (kid : Nat) :
    (s.perform env (.revokeApiKey by' kid)).world.db.users = s.world.db.users ∧
      (s.perform env (.revokeApiKey by' kid)).world.db.refreshTokens = s.world.db.refreshTokens ∧
      (s.perform env (.revokeApiKey by' kid)).world.db.apiKeys.map ApiKey.id =
        s.world.db.apiKeys.map ApiKey.id ∧
      ∀ k ∈ s.world.db.apiKeys, k ∈ (s.perform env (.revokeApiKey by' kid)).world.db.apiKeys ∨
        (k.id = kid ∧ ∃ row, s.world.db.getApiKeyById kid = some row ∧
          (row.userId = by'.id ∨ by'.role = .admin)) := by
  have hmap : (s.perform env (.revokeApiKey by' kid)).world =
      (runCall env (revokeApiKey by' kid) s.world).2 :=
    congrArg Prod.snd (runCall_map (revokeApiKey by' kid) (fun _ => Response.done) s.world)
  rw [hmap]
  rcases revokeApiKey_cases env s.world by' kid with hno | ⟨row, now, hrow, hby, hok⟩
  · rw [hno]
    exact ⟨rfl, rfl, rfl, fun k hk => .inl hk⟩
  · rw [hok]
    refine ⟨rfl, rfl, Table.map_update fun k => by split <;> rfl, fun k hk => ?_⟩
    by_cases hid : k.id = kid
    · exact .inr ⟨hid, row, hrow, hby⟩
    · have hm := Table.mem_update_of_mem ApiKey.id kid
        (fun k => if k.revokedAt = none then { k with revokedAt := some now } else k) hk
      rw [if_neg hid] at hm
      exact .inl hm

end Sound

/-- Every call of every run treats the credential it is given as its life-cycle says. -/
theorem credential_lifecycle (hsha : Function.Injective env.sha256)
    (h : Run (Session.Step env) .initial rs s) (hu : Unforged env s r) : Sound env s r := by
  have hl := session_ledger h
  refine ⟨?_, ?_, ?_, ?_, ?_, ?_, ⟨?_, ?_⟩, ?_⟩
  · rintro t pair rfl ho
    exact hl.refresh_sound hu ho
  · rintro t rfl ho
    exact hl.logout_sound hu ho
  · rintro raw u rfl ho
    exact hl.apiKey_sound hsha ho
  · rintro t u rfl ho
    exact hl.access_sound hu ho
  · rintro pair uid hi hr resp
    exact hl.refresh_refuses_access hi hr resp
  · rintro pair uid hi rfl resp
    exact hl.access_refuses_refresh hi resp
  · intro row hm hr
    obtain ⟨b, hm', hb⟩ := (runCall_grows env (serve env r) s.world).tokens row hm
    rw [hb hr, ← hr] at hm'
    exact hm'
  · intro k hm hr
    obtain ⟨us, re, hm', hre⟩ := (runCall_grows env (serve env r) s.world).keys k hm
    rw [hre hr] at hm'
    exact ⟨us, hm'⟩
  · rintro by' kid rfl
    obtain ⟨h₁, h₂, h₃, h₄⟩ := revokeApiKey_frame env s by' kid
    refine ⟨h₁, h₂, h₃, fun k hk => (h₄ k hk).imp id ?_⟩
    rintro ⟨hid, row, hrow, hby⟩
    obtain ⟨hm, hrid⟩ := Table.lookup_some hrow
    rw [List.inj_on_of_nodup_map hl.valid.key_ids hk hm (hid.trans hrid.symm)]
    exact ⟨hrid, hby⟩

def alicePair : TokenPair :=
  ⟨Payload.pack ⟨"1", "0", 0, 1800, "access"⟩, aliceRefreshToken, "bearer"⟩

theorem alicePair_issued : IssuedPair aliceLoggedIn.history alicePair 1 :=
  .created (List.mem_append_right _ (List.mem_singleton.2 rfl))

theorem credential_lifecycle_alice :
    Sound .readable aliceLoggedIn (.refreshTokens aliceRefreshToken) :=
  credential_lifecycle (fun _ _ h => h) (aliceRegistered_run.snoc rfl) (by
    rintro t ⟨⟩ p _
    exact ⟨alicePair, 1, alicePair_issued, .inr rfl⟩)

def aliceDeactivated : Session := aliceLoggedIn.perform .readable (.setActive 1 false)

/-- A logout accepts the refresh token of an account that is no longer active. -/
theorem logout_of_inactive : ∃ rs s,
    Run (Session.Step .readable) .initial rs s ∧ IssuedPair s.history alicePair 1 ∧
      outcome .readable s (.logout alicePair.refreshToken) = .ok .done ∧ ¬ OwnerActive s 1 := by
  refine ⟨_, aliceDeactivated, (aliceRegistered_run.snoc rfl).snoc rfl,
    alicePair_issued.later _, rfl, ?_⟩
  rintro ⟨u, hu, _, ha⟩
  rw [List.mem_singleton.1 hu] at ha
  cases ha

end QueryMind.Auth
