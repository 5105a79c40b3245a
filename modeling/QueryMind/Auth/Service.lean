import QueryMind.Auth.Tokens

namespace QueryMind.Auth
open Lib
set_option autoImplicit true

def argon2Prefix : String := "$argon2"

def bcryptPrefixes : List String := ["$2a$", "$2b$", "$2y$"]

def apiKeyPrefixText : String := "qm_"

def displayPrefixLength : Nat := apiKeyPrefixText.length + 8

def lastUsedTouchThreshold : DateTime := minutes 5

def hashPassword (password : String) : Call String := perform (.argon2Hash password)

def hashApiKey (env : Environment) (rawKey : String) : String := env.sha256 rawKey

def apiKeyPrefix (rawKey : String) : String := Text.take rawKey displayPrefixLength

def hasRole (user : UserRead) (role : UserRole) : Bool := user.role = role

def isAdmin (user : UserRead) : Bool := hasRole user .admin

section Service
variable (env : Environment)

/-- The hash's own prefix says which scheme made it. -/
def verifyPassword (password passwordHash : String) : Call Bool :=
  if Text.startsWith passwordHash argon2Prefix then
    match env.argon2Verify passwordHash password with
    | .matched => pure true
    | .verificationError => pure false
    | .invalidHash message => .raise (.valueError message)
  else if bcryptPrefixes.any (Text.startsWith passwordHash) then
    pure (env.bcryptCheckpw password passwordHash)
  else
    .raise (.valueError
      ("Unrecognized password hash format: " ++ env.repr (Text.take passwordHash 10) ++ "..."))

def encode (subject : String) (tokenType : TokenType) (expiresDelta : DateTime) : Call String := do
  let now : DateTime ← perform .now
  let jti ← perform .uuid4
  pure (env.sign
    { sub := subject, jti, iat := now / 1000000, exp := (now + expiresDelta) / 1000000
      type := tokenType.value }
    env.jwtSecretKey env.jwtAlgorithm)

def createAccessToken (subject : String) : Call String :=
  encode env subject .access (minutes env.accessTokenExpireMinutes)

def missingClaim (name : String) : ServiceError :=
  .invalidTokenError ("The token is missing a required claim: '" ++ name ++ "'")

/-- Read the claims in the order of the source; the first missing one is reported. -/
def DecodedPayload.claims (p : DecodedPayload) : Except ServiceError TokenClaims :=
  match p.sub, p.jti, p.iat, p.exp, p.type with
  | none, _, _, _, _ => .error (missingClaim "sub")
  | some _, none, _, _, _ => .error (missingClaim "jti")
  | some _, some _, none, _, _ => .error (missingClaim "iat")
  | some _, some _, some _, none, _ => .error (missingClaim "exp")
  | some _, some _, some _, some _, none => .error (missingClaim "type")
  | some sub, some jti, some iat, some exp, some type =>
    .ok { sub, jti, iat := iat * 1000000, exp := exp * 1000000, type }

/-- PyJWT checks `iat` and `exp` when they are there, against one reading of the clock. -/
def DecodedPayload.validateClaims (p : DecodedPayload) (now : DateTime) :
    Except ServiceError Unit :=
  if p.iat.any (fun iat => iat * 1000000 > now) then
    .error (.invalidTokenError "The token is invalid: The token is not yet valid (iat)")
  else if p.exp.any (fun exp => exp * 1000000 ≤ now) then
    .error (.tokenExpiredError "The token has expired.")
  else
    .ok ()

def decodeToken (token : String) : Call TokenClaims :=
  match env.verify token env.jwtSecretKey env.jwtAlgorithm with
  | .error message => .raise (.invalidTokenError ("The token is invalid: " ++ message))
  | .ok payload => do
    let now : DateTime ← perform .now
    match payload.validateClaims now with
    | .error e => .raise e
    | .ok () =>
      match payload.claims with
      | .error e => .raise e
      | .ok claims => pure claims

def createRefreshToken (subject : String) : Call (String × TokenClaims) := do
  let token ← encode env subject .refresh (days env.refreshTokenExpireDays)
  let claims ← decodeToken env token
  pure (token, claims)

def validateToken (token : String) (expectedType : TokenType) : Call TokenClaims := do
  let claims ← decodeToken env token
  if claims.type ≠ expectedType.value then
    .raise (.invalidTokenError ("Expected a " ++ env.repr expectedType.value ++ " token, got " ++
      env.repr claims.type ++ "."))
  else
    pure claims

def alreadyTaken (username email : String) : ServiceError :=
  .duplicateUserError ("Username " ++ env.repr username ++ " or email " ++ env.repr email ++
    " is already taken.")

/-- A lookup by username, and only when that finds nobody a lookup by email. -/
def findByUsernameOrEmail (username email : String) : Call (Option User) := do
  match ← perform (.getByUsername username) with
  | some user => pure (some user)
  | none => perform (.getByEmail email)

def registerUser (username email password : String) : Call UserRead := do
  match ← findByUsernameOrEmail username email with
  | some _ => .raise (alreadyTaken env username email)
  | none =>
    let passwordHash ← hashPassword password
    match ← perform (.createUser username email passwordHash) with
    | .error _ => .raise (alreadyTaken env username email)
    | .ok user => pure user.read

def incorrectLogin : ServiceError :=
  .invalidCredentialsError "Incorrect username/email or password."

def authenticate (username password : String) : Call UserRead := do
  match ← findByUsernameOrEmail username username with
  | none => .raise incorrectLogin
  | some user =>
    let matched ← verifyPassword env password user.passwordHash
    if !matched then
      .raise incorrectLogin
    else if !user.isActive then
      .raise (.inactiveUserError ("The account " ++ env.repr username ++ " is inactive."))
    else
      pure user.read

def createTokenPair (userId : Nat) : Call TokenPair := do
  let accessToken ← createAccessToken env userId.repr
  let issued ← createRefreshToken env userId.repr
  match ← perform (.storeRefreshToken userId issued.2.jti issued.2.exp) with
  | .error _ => .raise .integrityError
  | .ok _ => pure { accessToken, refreshToken := issued.1 }

def validateRefreshToken (refreshToken : String) : Call RefreshToken := do
  let claims ← validateToken env refreshToken .refresh
  match ← perform (.getRefreshToken claims.jti) with
  | none => .raise (.invalidTokenError "This refresh token was not issued by this server.")
  | some row =>
    if row.revoked then
      .raise (.refreshTokenRevokedError "This refresh token has already been used or revoked.")
    else
      let now : DateTime ← perform .now
      if row.expiresAt < now then
        .raise (.tokenExpiredError "This refresh token has expired.")
      else
        pure row

def refreshTokens (refreshToken : String) : Call TokenPair := do
  let row ← validateRefreshToken env refreshToken
  match ← perform (.getById row.userId) with
  | none =>
    .raise (.inactiveUserError "The account for this refresh token is no longer active.")
  | some user =>
    if !user.isActive then
      .raise (.inactiveUserError "The account for this refresh token is no longer active.")
    else
      perform (.revokeRefreshToken row.jti)
      createTokenPair env user.id

def logout (refreshToken : String) : Call Unit := do
  let row ← validateRefreshToken env refreshToken
  perform (.revokeRefreshToken row.jti)

/-- No row has a negative id. -/
def getUserById (userId : Int) : Call (Option User) :=
  if 0 ≤ userId then perform (.getById userId.toNat) else pure none

def getCurrentUser (accessToken : String) : Call UserRead := do
  let claims ← validateToken env accessToken .access
  match Text.toInt? claims.sub with
  | none =>
    .raise (.valueError ("invalid literal for int() with base 10: " ++ env.repr claims.sub))
  | some userId =>
    match ← getUserById userId with
    | none => .raise (.invalidTokenError "This token's subject no longer exists.")
    | some user =>
      if !user.isActive then
        .raise (.inactiveUserError "This account is no longer active.")
      else
        pure user.read

def generateRawApiKey : Call String := do
  let token ← perform .tokenUrlsafe
  pure (apiKeyPrefixText ++ token)

def createApiKey (userId : Nat) (name : String) (expiresAt : Option DateTime) :
    Call ApiKeyCreated := do
  let rawKey ← generateRawApiKey
  match ← perform
      (.createApiKey userId (apiKeyPrefix rawKey) (hashApiKey env rawKey) name expiresAt) with
  | .error _ => .raise .integrityError
  | .ok row => pure { rawKey, key := row.read }

def noApiKey (keyId : Nat) : ServiceError :=
  .apiKeyNotFoundError ("No API key with id " ++ keyId.repr ++ ".")

def revokeApiKey (requestingUser : UserRead) (keyId : Nat) : Call Unit := do
  match ← perform (.getApiKeyById keyId) with
  | none => .raise (noApiKey keyId)
  | some row =>
    if row.userId ≠ requestingUser.id && !isAdmin requestingUser then
      .raise (noApiKey keyId)
    else
      perform (.revokeApiKey keyId)

/-- Writing `last_used_at` only when it is staler than the threshold. -/
def touchIfStale (row : ApiKey) : Call Unit :=
  match row.lastUsedAt with
  | none => perform (.touchApiKeyLastUsed row.id)
  | some lastUsedAt => do
    let now : DateTime ← perform .now
    if now - lastUsedAt > lastUsedTouchThreshold then
      perform (.touchApiKeyLastUsed row.id)
    else
      pure ()

def ownerOfApiKey (row : ApiKey) : Call UserRead := do
  match ← perform (.getById row.userId) with
  | none => .raise (.invalidApiKeyError "This API key's owner no longer exists.")
  | some user =>
    if !user.isActive then
      .raise (.inactiveUserError "This account is no longer active.")
    else
      touchIfStale row
      pure user.read

def authenticateApiKey (rawKey : String) : Call UserRead := do
  if !Text.startsWith rawKey apiKeyPrefixText then
    .raise (.invalidApiKeyError "This API key is not recognized.")
  else
    match ← perform (.getApiKeyByHash (hashApiKey env rawKey)) with
    | none => .raise (.invalidApiKeyError "This API key is not recognized.")
    | some row =>
      if row.revokedAt.isSome then
        .raise (.apiKeyRevokedError "This API key has been revoked.")
      else
        match row.expiresAt with
        | none => ownerOfApiKey row
        | some expiresAt =>
          let now : DateTime ← perform .now
          if expiresAt < now then
            .raise (.apiKeyExpiredError "This API key has expired.")
          else
            ownerOfApiKey row

end Service

/-- The calls a client or an operator can make. -/
inductive Request
  | registerUser (username email password : String)
  | authenticate (username password : String)
  | createTokenPair (userId : Nat)
  | refreshTokens (refreshToken : String)
  | logout (refreshToken : String)
  | getCurrentUser (accessToken : String)
  | createApiKey (userId : Nat) (name : String) (expiresAt : Option DateTime)
  | revokeApiKey (requestingUser : UserRead) (keyId : Nat)
  | authenticateApiKey (rawKey : String)
  | setActive (userId : Nat) (active : Bool)
  deriving DecidableEq, Repr

inductive Response
  | user (user : UserRead)
  | pair (pair : TokenPair)
  | key (created : ApiKeyCreated)
  | done
  deriving DecidableEq, Repr

def serve (env : Environment) : Request → Call Response
  | .registerUser un mail pw => do pure (.user (← registerUser env un mail pw))
  | .authenticate un pw => do pure (.user (← authenticate env un pw))
  | .createTokenPair uid => do pure (.pair (← createTokenPair env uid))
  | .refreshTokens t => do pure (.pair (← refreshTokens env t))
  | .logout t => do
    logout env t
    pure .done
  | .getCurrentUser t => do pure (.user (← getCurrentUser env t))
  | .createApiKey uid nm ex => do pure (.key (← createApiKey env uid nm ex))
  | .revokeApiKey by' kid => do
    revokeApiKey by' kid
    pure .done
  | .authenticateApiKey raw => do pure (.user (← authenticateApiKey env raw))
  | .setActive uid b => do
    perform (.setActive uid b)
    pure .done

end QueryMind.Auth
