import QueryMind.Lib.Table

namespace QueryMind.Auth
set_option autoImplicit true

/-- An instant, in microseconds. -/
abbrev DateTime := Int

def minutes (n : Nat) : DateTime := n * 60 * 1000000

def days (n : Nat) : DateTime := n * 24 * 60 * 60 * 1000000

inductive UserRole
  | admin
  | analyst
  | viewer
  deriving DecidableEq, Repr

structure User where
  id : Nat
  username : String
  email : String
  passwordHash : String
  isSuperuser : Bool
  role : UserRole
  isActive : Bool
  deriving DecidableEq, Repr

structure RefreshToken where
  id : Nat
  userId : Nat
  jti : String
  expiresAt : DateTime
  revoked : Bool
  deriving DecidableEq, Repr

structure ApiKey where
  id : Nat
  userId : Nat
  keyPrefix : String
  keyHash : String
  name : String
  expiresAt : Option DateTime
  lastUsedAt : Option DateTime
  revokedAt : Option DateTime
  deriving DecidableEq, Repr

/-- The three tables of the authentication schema, with the next value of each identity. -/
structure Database where
  users : List User
  refreshTokens : List RefreshToken
  apiKeys : List ApiKey
  nextUserId : Nat
  nextRefreshTokenId : Nat
  nextApiKeyId : Nat
  deriving DecidableEq, Repr

def Database.empty : Database := ⟨[], [], [], 1, 1, 1⟩

/-- A user as a caller sees it: everything but the password hash. -/
structure UserRead where
  id : Nat
  username : String
  email : String
  isActive : Bool
  isSuperuser : Bool
  role : UserRole
  deriving DecidableEq, Repr

def User.read (u : User) : UserRead :=
  ⟨u.id, u.username, u.email, u.isActive, u.isSuperuser, u.role⟩

/-- The body of a registration, for the addresses `EmailStr` admits. -/
structure UserCreate (validEmail : String → Bool) where
  username : String
  email : String
  password : String
  username_length : 3 ≤ username.length ∧ username.length ≤ 50
  email_valid : validEmail email = true
  password_length : 8 ≤ password.length ∧ password.length ≤ 256

structure TokenPair where
  accessToken : String
  refreshToken : String
  tokenType : String := "bearer"
  deriving DecidableEq, Repr

structure ApiKeyRead where
  id : Nat
  keyPrefix : String
  name : String
  expiresAt : Option DateTime
  lastUsedAt : Option DateTime
  revokedAt : Option DateTime
  deriving DecidableEq, Repr

def ApiKey.read (k : ApiKey) : ApiKeyRead :=
  ⟨k.id, k.keyPrefix, k.name, k.expiresAt, k.lastUsedAt, k.revokedAt⟩

structure ApiKeyCreated where
  rawKey : String
  key : ApiKeyRead
  deriving DecidableEq, Repr

/-- The unique and foreign key constraints of the schema, and what its identities promise. -/
structure Database.Valid (db : Database) : Prop where
  user_ids : (db.users.map User.id).Nodup
  usernames : (db.users.map User.username).Nodup
  emails : (db.users.map User.email).Nodup
  jtis : (db.refreshTokens.map RefreshToken.jti).Nodup
  key_ids : (db.apiKeys.map ApiKey.id).Nodup
  key_hashes : (db.apiKeys.map ApiKey.keyHash).Nodup
  user_id_lt : ∀ u ∈ db.users, u.id < db.nextUserId
  key_id_lt : ∀ k ∈ db.apiKeys, k.id < db.nextApiKeyId

theorem Database.empty_valid : Database.empty.Valid := by
  constructor <;> simp [Database.empty]

end QueryMind.Auth
