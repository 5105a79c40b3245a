import QueryMind.Auth.Lifecycle

namespace QueryMind.Auth
open Lib
set_option autoImplicit true

/-- Accounts that were there before any call, to which nothing had been issued. -/
structure Seeded (w : World) : Prop where
  valid : w.db.Valid
  refreshTokens : w.db.refreshTokens = []
  apiKeys : w.db.apiKeys = []

/-- An account is a seeded one, or was registered as an analyst; only its activity has changed. -/
def Origin (seed : List User) (h : List Event) (u : UserRead) : Prop :=
  (∃ v ∈ seed, u = { v.read with isActive := u.isActive }) ∨
    ∃ un mail pw registered, ⟨.registerUser un mail pw, .ok (.user registered)⟩ ∈ h ∧
      registered.role = .analyst ∧ registered.isSuperuser = false ∧
      u = { registered with isActive := u.isActive }

theorem Origin.later (h : Origin seed xs u) (hp : xs <+: ys) : Origin seed ys u :=
  h.imp id fun ⟨un, mail, pw, registered, hm, hu⟩ => ⟨un, mail, pw, registered, hp.subset hm, hu⟩

theorem Origin.flip {u' : UserRead} (h : Origin seed hist u)
    (he : u' = { u with isActive := u'.isActive }) : Origin seed hist u' := by
  rcases h with ⟨v, hv, hu⟩ | ⟨un, mail, pw, registered, hm, hr, hs, hu⟩
  · exact .inl ⟨v, hv, by rw [he, hu]⟩
  · exact .inr ⟨un, mail, pw, registered, hm, hr, hs, by rw [he, hu]⟩

theorem Origin.admin (h : Origin seed hist u) (hr : u.role = .admin) :
    ∃ v ∈ seed, v.id = u.id ∧ v.role = .admin := by
  rcases h with ⟨v, hv, hu⟩ | ⟨un, mail, pw, registered, hm, ha, hs, hu⟩
  · rw [hu] at hr ⊢
    exact ⟨v, hv, rfl, hr⟩
  · rw [hu] at hr
    cases ha.symm.trans hr

/-- The accounts of a later database are accounts of the earlier one, up to activity. -/
def UsersFrom (db db' : Database) : Prop :=
  ∀ u' ∈ db'.users, ∃ u ∈ db.users, u' = { u with isActive := u'.isActive }

theorem UsersFrom.refl (db : Database) : UsersFrom db db := fun u hu => ⟨u, hu, rfl⟩

theorem UsersFrom.trans {db₁ db₂ db₃ : Database} (h : UsersFrom db₁ db₂)
    (h' : UsersFrom db₂ db₃) : UsersFrom db₁ db₃ := by
  intro u hu
  obtain ⟨u₂, hu₂, he⟩ := h' u hu
  obtain ⟨u₁, hu₁, he'⟩ := h u₂ hu₂
  exact ⟨u₁, hu₁, by rw [he, he']⟩

theorem handler_usersFrom (env : Environment) (op : Op) (w : World)
    (h : op.write ≠ some .newUser) : UsersFrom w.db (handler env op w).2.db := by
  cases op with
  | createUser => exact absurd rfl h
  | setActive uid b =>
    intro u hu
    obtain ⟨v, hv, rfl⟩ := Table.mem_update hu
    refine ⟨v, hv, ?_⟩
    split <;> rfl
  | storeRefreshToken uid jti ex =>
    rcases he : w.db.storeRefreshToken uid jti ex with ⟨e | u, db'⟩ <;> simp only [handler, he]
    · rw [storeRefreshToken_error he]
      exact .refl _
    · obtain ⟨_, _, _, rfl⟩ := storeRefreshToken_ok he
      exact .refl _
  | createApiKey uid pre kh nm ex =>
    rcases he : w.db.createApiKey uid pre kh nm ex with ⟨e | u, db'⟩ <;> simp only [handler, he]
    · rw [createApiKey_error he]
      exact .refl _
    · obtain ⟨_, _, _, rfl⟩ := createApiKey_ok he
      exact .refl _
  | _ => exact .refl _

theorem serve_usersFrom {env : Environment} {r : Request} (h : .newUser ∉ r.writes) (w : World) :
    UsersFrom w.db (runCall env (serve env r) w).2.db :=
  (serve_writes r).exec (R := fun w w' : World => UsersFrom w.db w'.db) (fun _ => .refl _)
    (fun _ _ _ h h' => h.trans h')
    (fun op w' hop => handler_usersFrom env op w' fun he => h (hop _ (by rw [he]; rfl))) w

theorem registerUser_error {w w' : World}
    (h : runCall env (registerUser env un mail pw) w = (.error e, w')) : w'.db = w.db := by
  simp only [runCall, registerUser] at h
  rw [Prog.exec_bind, ← runCall, findByUsernameOrEmail_exec] at h
  simp only at h
  split at h
  · cases h
    rfl
  · simp only [hashPassword, perform_bind, Prog.exec_call, handler] at h
    rcases hc : w.db.createUser un mail (env.argon2Hash w.salts pw) with ⟨e | row, db'⟩ <;>
      rw [hc] at h <;> cases h
    exact createUser_error hc

def Accounted (seed : List User) (s : Session) : Prop :=
  ∀ u ∈ s.world.db.users, Origin seed s.history u.read

theorem Accounted.perform {env : Environment} {s : Session} (h : Accounted seed s) (r : Request) :
    Accounted seed (s.perform env r) := by
  have hp : s.history <+: (s.perform env r).history := List.prefix_append _ _
  have hold : .newUser ∉ r.writes → Accounted seed (s.perform env r) := by
    intro hw u hu
    obtain ⟨v, hv, he⟩ := serve_usersFrom hw s.world u hu
    exact ((h v hv).flip (by rw [he]; rfl)).later hp
  cases r with
  | registerUser un mail pw =>
    intro u hu
    have hrun : runCall env (serve env (.registerUser un mail pw)) s.world =
        ((runCall env (registerUser env un mail pw) s.world).1.map .user,
          (runCall env (registerUser env un mail pw) s.world).2) := runCall_map _ _ _
    rw [Session.perform, hrun] at hu ⊢
    rcases ho : runCall env (registerUser env un mail pw) s.world with ⟨e | registered, w'⟩ <;>
      rw [ho] at hu
    · rw [registerUser_error ho] at hu
      exact (h u hu).later (List.prefix_append _ _)
    · obtain ⟨salt, row, hrow, rfl, -, hdb⟩ := registerUser_ok ho
      rw [hdb] at hu
      rcases List.mem_append.1 hu with hu | hu
      · exact (h u hu).later (List.prefix_append _ _)
      · rw [List.mem_singleton.1 hu]
        refine .inr ⟨un, mail, pw, row.read, ?_, ?_⟩
        · exact List.mem_append_right _ (List.mem_singleton_self _)
        · rw [hrow]
          exact ⟨rfl, rfl, rfl⟩
  | _ => exact hold nofun

theorem Accounted.seeded (w : World) : Accounted w.db.users ⟨w, []⟩ :=
  fun u hu => .inl ⟨u, hu, rfl⟩

theorem getCurrentUser_active {env : Environment} {s : Session}
    (ho : outcome env s (.getCurrentUser t) = .ok (.user u)) :
    ∃ row ∈ s.world.db.users, row.isActive = true ∧ u = row.read := by
  obtain ⟨u', w₁, hp, hc⟩ := Prog.exec_bind_ok (Prod.ext ho rfl :
    runCall env (serve env (.getCurrentUser t)) s.world = (_, _))
  cases hc
  obtain ⟨_, _, user, _, _, _, _, huser, hact, rfl, _⟩ := getCurrentUser_ok hp
  exact ⟨user, (Table.lookup_some huser).1, hact, rfl⟩

theorem authenticateApiKey_active {env : Environment} {s : Session}
    (ho : outcome env s (.authenticateApiKey raw) = .ok (.user u)) :
    ∃ row ∈ s.world.db.users, row.isActive = true ∧ u = row.read := by
  obtain ⟨u', w₁, hp, hc⟩ := Prog.exec_bind_ok (Prod.ext ho rfl :
    runCall env (serve env (.authenticateApiKey raw)) s.world = (_, _))
  cases hc
  obtain ⟨_, user, _, _, _, huser, hact, rfl⟩ := authenticateApiKey_ok hp
  exact ⟨user, (Table.lookup_some huser).1, hact, rfl⟩

theorem Ledger.seeded {env : Environment} {w : World} (h : Seeded w) : Ledger env ⟨w, []⟩ where
  valid := h.valid
  created := nofun
  rotated := nofun
  spent := by rintro t ⟨r, he | he⟩ <;> cases he
  keys := by rintro made uid ex ⟨nm, ⟨⟩⟩
  issued k hk := by
    rw [h.apiKeys] at hk
    cases hk
  revoked := by rintro kid ⟨by', r, ⟨⟩⟩

end QueryMind.Auth
