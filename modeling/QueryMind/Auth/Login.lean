import QueryMind.Auth.Session

namespace QueryMind.Auth
open Lib
set_option autoImplicit true

def UserCreate.request (body : UserCreate valid) : Request :=
  .registerUser body.username body.email body.password

def Registered (env : Environment) (db : Database) (un mail pw : String) (u : UserRead) : Prop :=
  ∃ salt b, (⟨u.id, un, mail, env.argon2Hash salt pw, u.isSuperuser, u.role, b⟩ : User) ∈ db.users ∧
    u = ⟨u.id, un, mail, true, u.isSuperuser, u.role⟩

theorem Registered.grows {db db' : Database} (h : Registered env db un mail pw u)
    (hg : db.Grows db') : Registered env db' un mail pw u := by
  obtain ⟨salt, b, hm, hu⟩ := h
  obtain ⟨b', hm'⟩ := hg.users _ hm
  exact ⟨salt, b', hm', hu⟩

theorem registerUser_registered {w w' : World}
    (h : runCall env (serve env (.registerUser un mail pw)) w = (.ok (.user u), w')) :
    Registered env w'.db un mail pw u := by
  simp only [runCall, serve] at h
  obtain ⟨u', w₁, hr, h⟩ := Prog.exec_bind_ok h
  cases h
  obtain ⟨salt, row, hrow, hu, _, hdb⟩ := registerUser_ok hr
  subst hu
  refine ⟨salt, true, ?_, ?_⟩
  · rw [hdb, hrow]
    exact List.mem_append_right _ (List.mem_singleton.2 rfl)
  · rw [hrow]
    rfl

theorem session_registered (h : Run (Session.Step env) .initial rs s)
    (hr : ⟨.registerUser un mail pw, .ok (.user u)⟩ ∈ s.history) :
    Registered env s.world.db un mail pw u := by
  refine h.invariant (I := fun s : Session => ∀ un mail pw u,
    ⟨.registerUser un mail pw, .ok (.user u)⟩ ∈ s.history →
      Registered env s.world.db un mail pw u) ?_ ?_ un mail pw u hr
  · intro un mail pw u hr
    cases hr
  · intro s r t ih ht un mail pw u hr
    rw [ht] at hr ⊢
    rcases mem_history_perform hr with hr | hr
    · exact (ih un mail pw u hr).grows (runCall_grows env _ _)
    · cases r <;> simp only [Event.mk.injEq, reduceCtorEq, false_and] at hr
      obtain ⟨hr, ho⟩ := hr
      cases hr
      exact registerUser_registered (Prod.ext ho.symm rfl)

/-- A login with a name and a password is accepted as one account. -/
def AcceptedAs (env : Environment) (s : Session) (login pw : String) (u : UserRead) : Prop :=
  (runCall env (authenticate env login pw) s.world).1 = .ok u

instance : Decidable (AcceptedAs env s login pw u) := inferInstanceAs (Decidable (_ = _))

theorem authenticate_accepts {w : World}
    (hf : w.db.findByUsernameOrEmail login login = some user)
    (hp : user.passwordHash = env.argon2Hash salt pw) (ha : user.isActive = true) :
    (runCall env (authenticate env login pw) w).1 = .ok user.read := by
  rw [authenticate_exec, hf]
  simp only [hp, verifyPassword_hash, runCall, Prog.exec_ret, ha, Bool.not_true, Bool.false_eq_true,
    if_false]

theorem authenticate_finds {w : World}
    (h : (runCall env (authenticate env login pw) w).1 = .ok u) :
    ∃ user, w.db.findByUsernameOrEmail login login = some user ∧ u = user.read := by
  rw [authenticate_exec] at h
  split at h
  · cases h
  · rename_i user hf
    refine ⟨user, hf, ?_⟩
    split at h
    · cases h
    · split at h
      · cases h
      · split at h
        · cases h
        · exact (Except.ok.inj h).symm

/-- Logging in by email works exactly when nobody else took that email as a username. -/
theorem login_identity (h : Run (Session.Step env) .initial rs s)
    (hr : ⟨.registerUser un mail pw, .ok (.user u)⟩ ∈ s.history)
    (ha : ∃ v ∈ s.world.db.users, v.id = u.id ∧ v.isActive = true) :
    AcceptedAs env s un pw u ∧ AcceptedAs env s mail pw u ↔
      ∀ v ∈ s.world.db.users, v.id ≠ u.id → v.username ≠ mail := by
  have hv := session_valid h
  obtain ⟨salt, b, hm, hu⟩ := session_registered h hr
  obtain ⟨v, hvm, hvid, hva⟩ := ha
  have he := List.inj_on_of_nodup_map hv.user_ids hvm hm hvid
  have hread : v.read = u := by
    rw [hu, he]
    have hb : b = true := by rw [he] at hva; exact hva
    rw [hb]
    rfl
  have hhash : v.passwordHash = env.argon2Hash salt pw := by rw [he]
  have hname : v.username = un := by rw [he]
  have hmail : v.email = mail := by rw [he]
  have hbyName : s.world.db.getByUsername un = some v := by
    rw [← hname]
    exact Table.lookup_unique hv.usernames hvm
  have hbyMail : s.world.db.getByEmail mail = some v := by
    rw [← hmail]
    exact Table.lookup_unique hv.emails hvm
  constructor
  · rintro ⟨_, hacc⟩ v' hm' hid' hcap
    obtain ⟨user, hf, hur⟩ := authenticate_finds hacc
    have hcapt : s.world.db.getByUsername mail = some v' := by
      rw [← hcap]
      exact Table.lookup_unique hv.usernames hm'
    rw [Database.findByUsernameOrEmail, hcapt, Option.some_or] at hf
    cases hf
    exact hid' (by rw [hur]; rfl)
  · intro hno
    constructor
    · rw [AcceptedAs, ← hread]
      refine authenticate_accepts ?_ hhash hva
      rw [Database.findByUsernameOrEmail, hbyName, Option.some_or]
    · rw [AcceptedAs, ← hread]
      refine authenticate_accepts ?_ hhash hva
      rw [Database.findByUsernameOrEmail, hbyMail]
      cases hn : s.world.db.getByUsername mail with
      | none => rw [Option.none_or]
      | some v' =>
        obtain ⟨hm', hn'⟩ := Table.lookup_some hn
        have hid : v'.id = u.id := by_contra fun hne => hno v' hm' hne hn'
        rw [Option.some_or, List.inj_on_of_nodup_map hv.user_ids hm' hvm (hid.trans hvid.symm)]

def plainEmail (s : String) : Bool :=
  match s.toList.splitOn '@' with
  | [name, domain] => !name.isEmpty && domain.contains '.' && domain.head? != some '.'
  | _ => false

def alice : UserCreate plainEmail where
  username := "alice"
  email := "alice@example.com"
  password := "correct horse"
  username_length := by decide
  email_valid := by decide
  password_length := by decide

/-- Another user, whose username is the address of the first. -/
def mallory : UserCreate plainEmail where
  username := "alice@example.com"
  email := "mallory@example.com"
  password := "battery staple"
  username_length := by decide
  email_valid := by decide
  password_length := by decide

def bob : UserCreate plainEmail where
  username := "bob"
  email := "bob@example.com"
  password := "correct horse"
  username_length := by decide
  email_valid := by decide
  password_length := by decide

def aliceRead : UserRead := ⟨1, "alice", "alice@example.com", true, false, .analyst⟩

def bobRead : UserRead := ⟨2, "bob", "bob@example.com", true, false, .analyst⟩

def aliceRegistered : Session := Session.initial.perform .readable alice.request

def bobRegistered : Session := aliceRegistered.perform .readable bob.request

def malloryRegistered : Session := aliceRegistered.perform .readable mallory.request

theorem aliceRegistered_run :
    Run (Session.Step .readable) .initial [alice.request] aliceRegistered := .single rfl

theorem bobRegistered_run :
    Run (Session.Step .readable) .initial [alice.request, bob.request] bobRegistered :=
  aliceRegistered_run.snoc rfl

theorem malloryRegistered_run :
    Run (Session.Step .readable) .initial [alice.request, mallory.request] malloryRegistered :=
  aliceRegistered_run.snoc rfl

theorem login_identity_alice :
    (AcceptedAs .readable bobRegistered alice.username alice.password aliceRead ∧
      AcceptedAs .readable bobRegistered alice.email alice.password aliceRead) ∧
    AcceptedAs .readable bobRegistered bob.username bob.password bobRead ∧
      AcceptedAs .readable bobRegistered bob.email bob.password bobRead := by
  constructor
  · exact (login_identity bobRegistered_run (.head _) ⟨_, .head _, rfl, rfl⟩).2 (by decide)
  · exact (login_identity bobRegistered_run (.tail _ (.head _))
      ⟨_, .tail _ (.head _), rfl, rfl⟩).2 (by decide)

/-- Registering with another's address as username locks that other out of her email. -/
theorem login_captured : ∃ s,
    Run (Session.Step .readable) .initial [alice.request, mallory.request] s ∧
      ⟨alice.request, .ok (.user aliceRead)⟩ ∈ s.history ∧
      (∃ v ∈ s.world.db.users, v.id = aliceRead.id ∧ v.isActive = true) ∧
      ¬ AcceptedAs .readable s alice.email alice.password aliceRead :=
  ⟨malloryRegistered, malloryRegistered_run, .head _, ⟨_, .head _, rfl, rfl⟩, by decide⟩

end QueryMind.Auth
