import QueryMind.Lib.Text

namespace QueryMind.Security
set_option autoImplicit true

inductive AuditEventType
  | registration
  | registrationFailure
  | loginSuccess
  | loginFailure
  | refreshSuccess
  | refreshFailure
  | logout
  | authorizationDenied
  | apiKeyCreated
  | apiKeyRevoked
  | apiKeyAuthSuccess
  | apiKeyAuthFailure
  deriving DecidableEq, Repr

def AuditEventType.value : AuditEventType → String
  | .registration => "registration"
  | .registrationFailure => "registration_failure"
  | .loginSuccess => "login_success"
  | .loginFailure => "login_failure"
  | .refreshSuccess => "refresh_success"
  | .refreshFailure => "refresh_failure"
  | .logout => "logout"
  | .authorizationDenied => "authorization_denied"
  | .apiKeyCreated => "api_key_created"
  | .apiKeyRevoked => "api_key_revoked"
  | .apiKeyAuthSuccess => "api_key_auth_success"
  | .apiKeyAuthFailure => "api_key_auth_failure"

/-- What `AuditLogger.record` is told. -/
structure AuditRecord where
  eventType : AuditEventType
  success : Bool
  actorUserId : Option Nat := none
  actorUsername : Option String := none
  ipAddress : Option String
  userAgent : Option String
  requestId : String
  correlationId : String
  resource : String
  errorType : Option String := none
  deriving DecidableEq, Repr

end QueryMind.Security
