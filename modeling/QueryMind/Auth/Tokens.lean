import QueryMind.Auth.Repository
import QueryMind.Lib.Program
import QueryMind.Lib.Text

namespace QueryMind.Auth
open Lib
set_option autoImplicit true

inductive TokenType
  | access
  | refresh
  deriving DecidableEq, Repr

def TokenType.value : TokenType → String
  | .access => "access"
  | .refresh => "refresh"

/-- The claims `_encode` signs; PyJWT writes both instants in whole seconds. -/
structure Payload where
  sub : String
  jti : String
  iat : Int
  exp : Int
  type : String
  deriving DecidableEq, Repr

structure DecodedPayload where
  sub : Option String
  jti : Option String
  iat : Option Int
  exp : Option Int
  type : Option String
  deriving DecidableEq, Repr

def Payload.decoded (p : Payload) : DecodedPayload :=
  ⟨some p.sub, some p.jti, some p.iat, some p.exp, some p.type⟩

structure TokenClaims where
  sub : String
  jti : String
  iat : DateTime
  exp : DateTime
  type : String
  deriving DecidableEq, Repr

/-- `PasswordHasher.verify` returns true or raises. -/
inductive Argon2Outcome
  | matched
  | verificationError
  | invalidHash (message : String)
  deriving DecidableEq, Repr

/-- The configuration of the service and the libraries it calls, with what it relies on. -/
structure Environment where
  jwtSecretKey : String
  jwtAlgorithm : String
  accessTokenExpireMinutes : Nat
  refreshTokenExpireDays : Nat
  sign : Payload → String → String → String
  verify : String → String → String → Except String DecodedPayload
  argon2Hash : Nat → String → String
  argon2Verify : String → String → Argon2Outcome
  bcryptCheckpw : String → String → Bool
  sha256 : String → String
  repr : String → String
  uuid4 : Nat → String
  tokenUrlsafe : Nat → String
  clock : Nat → DateTime
  verify_sign : ∀ p, verify (sign p jwtSecretKey jwtAlgorithm) jwtSecretKey jwtAlgorithm =
    .ok p.decoded
  argon2Hash_prefix : ∀ salt p, Text.startsWith (argon2Hash salt p) "$argon2" = true
  argon2Verify_hash : ∀ salt p, argon2Verify (argon2Hash salt p) p = .matched
  clock_mono : ∀ m n, m ≤ n → clock m ≤ clock n

def Payload.pack (p : Payload) : String :=
  Text.pack [p.sub, p.jti, p.iat.repr, p.exp.repr, p.type]

def Payload.unpack (token : String) : Option Payload :=
  match Text.unpack 5 token with
  | some [sub, jti, iat, exp, type] =>
    match Text.toInt? iat, Text.toInt? exp with
    | some iat, some exp => some ⟨sub, jti, iat, exp, type⟩
    | _, _ => none
  | _ => none

theorem Payload.unpack_pack (p : Payload) : Payload.unpack p.pack = some p := by
  have hu : Text.unpack 5 p.pack = some [p.sub, p.jti, p.iat.repr, p.exp.repr, p.type] :=
    Text.unpack_pack [p.sub, p.jti, p.iat.repr, p.exp.repr, p.type]
  simp only [unpack, hu, Text.toInt?_intRepr]

/-- An environment without secrets, in which calls can be evaluated. -/
def Environment.readable : Environment where
  jwtSecretKey := "secret"
  jwtAlgorithm := "HS256"
  accessTokenExpireMinutes := 30
  refreshTokenExpireDays := 14
  sign p _ _ := p.pack
  verify token _ _ := ((Payload.unpack token).map Payload.decoded).elim
    (.error "Not enough segments") .ok
  argon2Hash _ p := "$argon2id$" ++ p
  argon2Verify h p := if h = "$argon2id$" ++ p then .matched else .verificationError
  bcryptCheckpw _ _ := false
  sha256 s := s
  repr s := "'" ++ s ++ "'"
  uuid4 n := n.repr
  tokenUrlsafe n := n.repr
  clock _ := 0
  verify_sign p := by rw [Payload.unpack_pack]; rfl
  argon2Hash_prefix _ p := by simp [Text.startsWith, String.toList_append]
  argon2Verify_hash _ p := if_pos rfl
  clock_mono _ _ _ := Int.le_refl 0

/-- The exceptions a service call may raise, each with its text. -/
inductive ServiceError
  | duplicateUserError (message : String)
  | invalidCredentialsError (message : String)
  | inactiveUserError (message : String)
  | invalidTokenError (message : String)
  | tokenExpiredError (message : String)
  | refreshTokenRevokedError (message : String)
  | invalidApiKeyError (message : String)
  | apiKeyExpiredError (message : String)
  | apiKeyRevokedError (message : String)
  | apiKeyNotFoundError (message : String)
  | integrityError
  | valueError (message : String)
  deriving DecidableEq, Repr

/-- The atomic operations of a service call: repository calls, randomness and clock readings. -/
inductive Op
  | now
  | uuid4
  | tokenUrlsafe
  | argon2Hash (password : String)
  | createUser (username email passwordHash : String)
  | getByUsername (username : String)
  | getByEmail (email : String)
  | getById (userId : Nat)
  | setActive (userId : Nat) (active : Bool)
  | storeRefreshToken (userId : Nat) (jti : String) (expiresAt : DateTime)
  | getRefreshToken (jti : String)
  | revokeRefreshToken (jti : String)
  | createApiKey (userId : Nat) (keyPrefix keyHash name : String) (expiresAt : Option DateTime)
  | getApiKeyByHash (keyHash : String)
  | getApiKeyById (keyId : Nat)
  | revokeApiKey (keyId : Nat)
  | touchApiKeyLastUsed (keyId : Nat)
  deriving DecidableEq, Repr

@[reducible] def Op.Ans : Op → Type
  | .now => DateTime
  | .uuid4 | .tokenUrlsafe | .argon2Hash _ => String
  | .createUser .. => Except IntegrityError User
  | .getByUsername _ | .getByEmail _ | .getById _ => Option User
  | .storeRefreshToken .. => Except IntegrityError RefreshToken
  | .getRefreshToken _ => Option RefreshToken
  | .createApiKey .. => Except IntegrityError ApiKey
  | .getApiKeyByHash _ | .getApiKeyById _ => Option ApiKey
  | .setActive .. | .revokeRefreshToken _ | .revokeApiKey _ | .touchApiKeyLastUsed _ => Unit

abbrev Operations : Interface := ⟨Op, Op.Ans⟩

abbrev Call (α : Type) := Prog Operations ServiceError α

def perform (op : Op) : Call op.Ans := Prog.perform (I := Operations) op

@[simp] theorem perform_bind (op : Op) (f : no_index op.Ans → Call α) :
    @bind Call _ (no_index op.Ans) α (perform op) f = Prog.call (I := Operations) op f := rfl

/-- The database, and how often the clock and each source of randomness were read. -/
structure World where
  db : Database
  clockReads : Nat
  uuids : Nat
  tokens : Nat
  salts : Nat
  deriving DecidableEq, Repr

def World.initial : World := ⟨.empty, 0, 0, 0, 0⟩

def handler (env : Environment) : (op : Op) → World → op.Ans × World
  | .now, w => (env.clock w.clockReads, { w with clockReads := w.clockReads + 1 })
  | .uuid4, w => (env.uuid4 w.uuids, { w with uuids := w.uuids + 1 })
  | .tokenUrlsafe, w => (env.tokenUrlsafe w.tokens, { w with tokens := w.tokens + 1 })
  | .argon2Hash p, w => (env.argon2Hash w.salts p, { w with salts := w.salts + 1 })
  | .createUser un mail ph, w =>
    ((w.db.createUser un mail ph).1, { w with db := (w.db.createUser un mail ph).2 })
  | .getByUsername un, w => (w.db.getByUsername un, w)
  | .getByEmail mail, w => (w.db.getByEmail mail, w)
  | .getById uid, w => (w.db.getById uid, w)
  | .setActive uid b, w => ((), { w with db := w.db.setActive uid b })
  | .storeRefreshToken uid jti ex, w =>
    ((w.db.storeRefreshToken uid jti ex).1, { w with db := (w.db.storeRefreshToken uid jti ex).2 })
  | .getRefreshToken jti, w => (w.db.getRefreshToken jti, w)
  | .revokeRefreshToken jti, w => ((), { w with db := w.db.revokeRefreshToken jti })
  | .createApiKey uid pre kh nm ex, w =>
    ((w.db.createApiKey uid pre kh nm ex).1,
      { w with db := (w.db.createApiKey uid pre kh nm ex).2 })
  | .getApiKeyByHash kh, w => (w.db.getApiKeyByHash kh, w)
  | .getApiKeyById kid, w => (w.db.getApiKeyById kid, w)
  | .revokeApiKey kid, w =>
    ((), { w with
      db := w.db.revokeApiKey kid (env.clock w.clockReads), clockReads := w.clockReads + 1 })
  | .touchApiKeyLastUsed kid, w =>
    ((), { w with
      db := w.db.touchApiKeyLastUsed kid (env.clock w.clockReads)
      clockReads := w.clockReads + 1 })

theorem handler_valid (env : Environment) (op : Op) (w : World) (hv : w.db.Valid) :
    (handler env op w).2.db.Valid := by
  cases op with
  | createUser un mail ph => exact hv.createUser un mail ph
  | setActive uid b => exact hv.setActive uid b
  | storeRefreshToken uid jti ex => exact hv.storeRefreshToken uid jti ex
  | revokeRefreshToken jti => exact hv.revokeRefreshToken jti
  | createApiKey uid pre kh nm ex => exact hv.createApiKey uid pre kh nm ex
  | revokeApiKey kid => exact hv.revokeApiKey kid _
  | touchApiKeyLastUsed kid => exact hv.touchApiKeyLastUsed kid _
  | _ => exact hv

end QueryMind.Auth
