import QueryMind.Auth.Contracts
import QueryMind.Lib.Transition

namespace QueryMind.Auth
open Lib
set_option autoImplicit true

/-- A call and how it ended. -/
structure Event where
  request : Request
  outcome : Except ServiceError Response

/-- The service between two calls, with everything it has answered so far. -/
structure Session where
  world : World
  history : List Event

def Session.initial : Session := ⟨.initial, []⟩

def Session.perform (env : Environment) (s : Session) (r : Request) : Session where
  world := (runCall env (serve env r) s.world).2
  history := s.history ++ [⟨r, (runCall env (serve env r) s.world).1⟩]

def Session.Step (env : Environment) (s : Session) (r : Request) (t : Session) : Prop :=
  t = s.perform env r

/-- What later writes may change: rows stay, activity may flip, revocation is permanent. -/
structure Database.Grows (db db' : Database) : Prop where
  users : ∀ u ∈ db.users, ∃ b, { u with isActive := b } ∈ db'.users
  tokens : ∀ r ∈ db.refreshTokens, ∃ b, { r with revoked := b } ∈ db'.refreshTokens ∧
    (r.revoked = true → b = true)
  keys : ∀ k ∈ db.apiKeys, ∃ used revoked,
    { k with lastUsedAt := used, revokedAt := revoked } ∈ db'.apiKeys ∧
      (k.revokedAt.isSome = true → revoked = k.revokedAt)

theorem Database.Grows.refl (db : Database) : db.Grows db where
  users u hu := ⟨u.isActive, hu⟩
  tokens r hr := ⟨r.revoked, hr, id⟩
  keys k hk := ⟨k.lastUsedAt, k.revokedAt, hk, fun _ => rfl⟩

theorem Database.Grows.trans {db₁ db₂ db₃ : Database} (h : db₁.Grows db₂) (h' : db₂.Grows db₃) :
    db₁.Grows db₃ where
  users u hu := by
    obtain ⟨b, hb⟩ := h.users u hu
    obtain ⟨b', hb'⟩ := h'.users _ hb
    exact ⟨b', hb'⟩
  tokens r hr := by
    obtain ⟨b, hb, hi⟩ := h.tokens r hr
    obtain ⟨b', hb', hi'⟩ := h'.tokens _ hb
    exact ⟨b', hb', fun h => hi' (hi h)⟩
  keys k hk := by
    obtain ⟨us, re, hm, hi⟩ := h.keys k hk
    obtain ⟨us', re', hm', hi'⟩ := h'.keys _ hm
    refine ⟨us', re', hm', fun h => ?_⟩
    have hre := hi h
    rw [← hre]
    exact hi' (by rw [hre]; exact h)

theorem Database.Grows.append {db db' : Database} (hu : ∃ l, db'.users = db.users ++ l)
    (ht : ∃ l, db'.refreshTokens = db.refreshTokens ++ l)
    (hk : ∃ l, db'.apiKeys = db.apiKeys ++ l) : db.Grows db' := by
  obtain ⟨lu, hu⟩ := hu
  obtain ⟨lt, ht⟩ := ht
  obtain ⟨lk, hk⟩ := hk
  refine ⟨fun u hm => ⟨u.isActive, ?_⟩, fun r hm => ⟨r.revoked, ?_, id⟩,
    fun k hm => ⟨k.lastUsedAt, k.revokedAt, ?_, fun _ => rfl⟩⟩
  · rw [hu]; exact List.mem_append_left _ hm
  · rw [ht]; exact List.mem_append_left _ hm
  · rw [hk]; exact List.mem_append_left _ hm

theorem Database.Grows.createUser (db : Database) (un mail ph : String) :
    db.Grows (db.createUser un mail ph).2 := by
  rcases he : db.createUser un mail ph with ⟨e | u, db'⟩
  · rw [createUser_error he]
    exact .refl db
  · obtain ⟨_, _, rfl⟩ := createUser_ok he
    exact .append ⟨_, rfl⟩ ⟨[], (List.append_nil _).symm⟩ ⟨[], (List.append_nil _).symm⟩

theorem Database.Grows.storeRefreshToken (db : Database) (uid : Nat) (jti : String)
    (ex : DateTime) : db.Grows (db.storeRefreshToken uid jti ex).2 := by
  rcases he : db.storeRefreshToken uid jti ex with ⟨e | r, db'⟩
  · rw [storeRefreshToken_error he]
    exact .refl db
  · obtain ⟨_, _, _, rfl⟩ := storeRefreshToken_ok he
    exact .append ⟨[], (List.append_nil _).symm⟩ ⟨_, rfl⟩ ⟨[], (List.append_nil _).symm⟩

theorem Database.Grows.createApiKey (db : Database) (uid : Nat) (pre kh nm : String)
    (ex : Option DateTime) : db.Grows (db.createApiKey uid pre kh nm ex).2 := by
  rcases he : db.createApiKey uid pre kh nm ex with ⟨e | k, db'⟩
  · rw [createApiKey_error he]
    exact .refl db
  · obtain ⟨_, _, _, rfl⟩ := createApiKey_ok he
    exact .append ⟨[], (List.append_nil _).symm⟩ ⟨[], (List.append_nil _).symm⟩ ⟨_, rfl⟩

theorem Database.Grows.setActive (db : Database) (uid : Nat) (b : Bool) :
    db.Grows (db.setActive uid b) := by
  refine { Database.Grows.refl db with users := fun u hu => ?_ }
  have hm := Table.mem_update_of_mem User.id uid
    (fun u => { u with isActive := b }) hu
  split at hm
  · exact ⟨b, hm⟩
  · exact ⟨u.isActive, hm⟩

theorem Database.Grows.revokeRefreshToken (db : Database) (jti : String) :
    db.Grows (db.revokeRefreshToken jti) := by
  refine { Database.Grows.refl db with tokens := fun r hr => ?_ }
  have hm := Table.mem_update_of_mem RefreshToken.jti jti
    (fun r => { r with revoked := true }) hr
  split at hm
  · exact ⟨true, hm, fun _ => rfl⟩
  · exact ⟨r.revoked, hm, id⟩

theorem Database.Grows.revokeApiKey (db : Database) (kid : Nat) (now : DateTime) :
    db.Grows (db.revokeApiKey kid now) := by
  refine { Database.Grows.refl db with keys := fun k hk => ?_ }
  have hm := Table.mem_update_of_mem ApiKey.id kid
    (fun k => if k.revokedAt = none then { k with revokedAt := some now } else k) hk
  split at hm
  · split at hm
    · rename_i hn
      exact ⟨k.lastUsedAt, some now, hm, fun h => by rw [hn] at h; cases h⟩
    · exact ⟨k.lastUsedAt, k.revokedAt, hm, fun _ => rfl⟩
  · exact ⟨k.lastUsedAt, k.revokedAt, hm, fun _ => rfl⟩

theorem Database.Grows.touchApiKeyLastUsed (db : Database) (kid : Nat) (now : DateTime) :
    db.Grows (db.touchApiKeyLastUsed kid now) := by
  refine { Database.Grows.refl db with keys := fun k hk => ?_ }
  have hm := Table.mem_update_of_mem ApiKey.id kid
    (fun k => { k with lastUsedAt := some now }) hk
  split at hm
  · exact ⟨some now, k.revokedAt, hm, fun _ => rfl⟩
  · exact ⟨k.lastUsedAt, k.revokedAt, hm, fun _ => rfl⟩

theorem handler_grows (env : Environment) (op : Op) (w : World) :
    w.db.Grows (handler env op w).2.db := by
  cases op with
  | createUser un mail ph => exact .createUser w.db un mail ph
  | setActive uid b => exact .setActive w.db uid b
  | storeRefreshToken uid jti ex => exact .storeRefreshToken w.db uid jti ex
  | revokeRefreshToken jti => exact .revokeRefreshToken w.db jti
  | createApiKey uid pre kh nm ex => exact .createApiKey w.db uid pre kh nm ex
  | revokeApiKey kid => exact .revokeApiKey w.db kid _
  | touchApiKeyLastUsed kid => exact .touchApiKeyLastUsed w.db kid _
  | _ => exact .refl w.db

theorem runCall_grows (env : Environment) (c : Call α) (w : World) :
    w.db.Grows (runCall env c w).2.db :=
  Prog.exec_relation (R := fun w w' : World => w.db.Grows w'.db) (fun w => .refl w.db)
    (fun _ _ _ h h' => h.trans h') (handler_grows env) c w

theorem runCall_valid (env : Environment) (c : Call α) (w : World) (hv : w.db.Valid) :
    (runCall env c w).2.db.Valid :=
  Prog.exec_invariant (J := fun w : World => w.db.Valid) (handler_valid env) c w hv

/-- The stored identifier a token names, when its signature is good. -/
def tokenJti (env : Environment) (token : String) : Option String :=
  match env.verify token env.jwtSecretKey env.jwtAlgorithm with
  | .ok p => p.jti
  | .error _ => none

def Stored (db : Database) (jti : String) : Prop := (db.getRefreshToken jti).isSome = true

def Revoked (db : Database) (jti : String) : Prop :=
  ∃ row, db.getRefreshToken jti = some row ∧ row.revoked = true

theorem Stored.grows {db db' : Database} (h : Stored db jti) (hg : db.Grows db') :
    Stored db' jti := by
  obtain ⟨row, hrow⟩ := Option.isSome_iff_exists.1 h
  obtain ⟨hm, hj⟩ := Table.lookup_some hrow
  obtain ⟨b, hm', _⟩ := hg.tokens row hm
  rw [Stored, Option.isSome_iff_ne_none]
  intro hn
  exact Table.lookup_none.1 hn _ hm' hj

theorem Revoked.grows {db db' : Database} (h : Revoked db jti) (hg : db.Grows db')
    (hv : db'.Valid) : Revoked db' jti := by
  obtain ⟨row, hrow, hr⟩ := h
  obtain ⟨hm, hj⟩ := Table.lookup_some hrow
  obtain ⟨b, hm', hb⟩ := hg.tokens row hm
  refine ⟨{ row with revoked := b }, ?_, hb hr⟩
  rw [← hj]
  exact Table.lookup_unique hv.jtis hm'

theorem revoked_revokeRefreshToken {db : Database} (h : Stored db jti) :
    Revoked (db.revokeRefreshToken jti) jti := by
  obtain ⟨row, hrow⟩ := Option.isSome_iff_exists.1 h
  refine ⟨{ row with revoked := true }, ?_, rfl⟩
  rw [getRefreshToken_revokeRefreshToken, hrow, Option.map_some, if_pos (Table.lookup_some hrow).2]

theorem session_valid {env : Environment} (h : Run (Session.Step env) .initial rs s) :
    s.world.db.Valid := by
  refine h.invariant (I := fun s : Session => s.world.db.Valid) Database.empty_valid ?_
  intro s r t hv ht
  rw [ht]
  exact runCall_valid env _ _ hv

theorem mem_history_perform {env : Environment} {s : Session}
    (h : e ∈ (s.perform env r).history) :
    e ∈ s.history ∨ e = ⟨r, (runCall env (serve env r) s.world).1⟩ := by
  rcases List.mem_append.1 h with h | h
  · exact .inl h
  · exact .inr (List.mem_singleton.1 h)

end QueryMind.Auth
