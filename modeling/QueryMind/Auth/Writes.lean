import QueryMind.Auth.Session

namespace QueryMind.Auth
open Lib
set_option autoImplicit true

/-- The kinds of change an operation can make to the tables. -/
inductive Write
  | newUser
  | activity
  | newRefreshToken
  | refreshTokenRevoked
  | newApiKey
  | apiKeyRevoked
  | apiKeyUsed
  deriving DecidableEq, Repr

def Op.write : Op → Option Write
  | .createUser .. => some .newUser
  | .setActive .. => some .activity
  | .storeRefreshToken .. => some .newRefreshToken
  | .revokeRefreshToken _ => some .refreshTokenRevoked
  | .createApiKey .. => some .newApiKey
  | .revokeApiKey _ => some .apiKeyRevoked
  | .touchApiKeyLastUsed _ => some .apiKeyUsed
  | _ => none

def Request.writes : Request → List Write
  | .registerUser .. => [.newUser]
  | .authenticate .. | .getCurrentUser _ => []
  | .createTokenPair _ => [.newRefreshToken]
  | .refreshTokens _ => [.refreshTokenRevoked, .newRefreshToken]
  | .logout _ => [.refreshTokenRevoked]
  | .createApiKey .. => [.newApiKey]
  | .revokeApiKey .. => [.apiKeyRevoked]
  | .authenticateApiKey _ => [.apiKeyUsed]
  | .setActive .. => [.activity]

/-- Whatever it is answered, a call makes only these kinds of change. -/
def WritesOnly (ws : List Write) (c : Call α) : Prop :=
  c.Always (fun _ _ => True) (fun op : Op => ∀ x ∈ op.write, x ∈ ws) (fun _ => True)

theorem WritesOnly.ret (ws : List Write) (a : α) : WritesOnly ws (.ret a) := trivial

theorem WritesOnly.raise (ws : List Write) (e : ServiceError) :
    WritesOnly ws (.raise e : Call α) := trivial

theorem WritesOnly.read {op : Op} (h : op.write = none) : WritesOnly ws (perform op) :=
  ⟨by simp [h], fun _ _ => trivial⟩

theorem WritesOnly.perform {op : Op} (h : op.write = some x) (hx : x ∈ ws) :
    WritesOnly ws (perform op) := by
  refine ⟨fun y hy => ?_, fun _ _ => trivial⟩
  rw [h] at hy
  cases hy
  exact hx

theorem WritesOnly.bind {c : Call α} {f : α → Call β} (hc : WritesOnly ws c)
    (hf : ∀ a, WritesOnly ws (f a)) : WritesOnly ws (c >>= f) :=
  Prog.Always.bind hc fun a _ => hf a

section Calls
variable {env : Environment}

theorem findByUsernameOrEmail_writes : WritesOnly ws (findByUsernameOrEmail un mail) := by
  refine .bind (.read rfl) fun found => ?_
  split
  · exact .ret _ _
  · exact .read rfl

theorem registerUser_writes (h : .newUser ∈ ws) : WritesOnly ws (registerUser env un mail pw) := by
  refine .bind findByUsernameOrEmail_writes fun found => ?_
  split
  · exact .raise _ _
  · refine .bind (.read rfl) fun ph => .bind (.perform rfl h) fun made => ?_
    split
    · exact .raise _ _
    · exact .ret _ _

theorem verifyPassword_writes : WritesOnly ws (verifyPassword env pw ph) := by
  rw [verifyPassword]
  split
  · split <;> trivial
  · split <;> trivial

theorem authenticate_writes : WritesOnly ws (authenticate env un pw) := by
  refine .bind findByUsernameOrEmail_writes fun found => ?_
  split
  · exact .raise _ _
  · refine .bind verifyPassword_writes fun matched => ?_
    split
    · exact .raise _ _
    · split
      · exact .raise _ _
      · exact .ret _ _

theorem encode_writes : WritesOnly ws (encode env sub ty delta) :=
  .bind (.read rfl) fun _ => .bind (.read rfl) fun _ => .ret _ _

theorem decodeToken_writes : WritesOnly ws (decodeToken env t) := by
  rw [decodeToken]
  split
  · exact .raise _ _
  · refine .bind (.read rfl) fun now => ?_
    split
    · exact .raise _ _
    · split
      · exact .raise _ _
      · exact .ret _ _

theorem validateToken_writes : WritesOnly ws (validateToken env t ty) := by
  refine .bind decodeToken_writes fun c => ?_
  split
  · exact .raise _ _
  · exact .ret _ _

theorem createTokenPair_writes (h : .newRefreshToken ∈ ws) :
    WritesOnly ws (createTokenPair env uid) := by
  refine .bind encode_writes fun access => ?_
  refine .bind (.bind encode_writes fun _ => .bind decodeToken_writes fun _ => .ret _ _)
    fun issued => ?_
  refine .bind (.perform rfl h) fun stored => ?_
  split
  · exact .raise _ _
  · exact .ret _ _

theorem validateRefreshToken_writes : WritesOnly ws (validateRefreshToken env t) := by
  refine .bind validateToken_writes fun c => .bind (.read rfl) fun found => ?_
  split
  · exact .raise _ _
  · split
    · exact .raise _ _
    · refine .bind (.read rfl) fun now => ?_
      split
      · exact .raise _ _
      · exact .ret _ _

theorem refreshTokens_writes (hr : .refreshTokenRevoked ∈ ws) (hn : .newRefreshToken ∈ ws) :
    WritesOnly ws (refreshTokens env t) := by
  refine .bind validateRefreshToken_writes fun row => .bind (.read rfl) fun found => ?_
  split
  · exact .raise _ _
  · split
    · exact .raise _ _
    · exact .bind (.perform rfl hr) fun _ => createTokenPair_writes hn

theorem logout_writes (h : .refreshTokenRevoked ∈ ws) : WritesOnly ws (logout env t) :=
  .bind validateRefreshToken_writes fun _ => .perform rfl h

theorem getCurrentUser_writes : WritesOnly ws (getCurrentUser env t) := by
  refine .bind validateToken_writes fun c => ?_
  split
  · exact .raise _ _
  · refine .bind ?_ fun found => ?_
    · rw [getUserById]
      split
      · exact .read rfl
      · exact .ret _ _
    · split
      · exact .raise _ _
      · split
        · exact .raise _ _
        · exact .ret _ _

theorem createApiKey_writes (h : .newApiKey ∈ ws) :
    WritesOnly ws (createApiKey env uid nm ex) := by
  refine .bind (.bind (.read rfl) fun _ => .ret _ _)
    fun raw => .bind (.perform rfl h) fun made => ?_
  split
  · exact .raise _ _
  · exact .ret _ _

theorem revokeApiKey_writes (h : .apiKeyRevoked ∈ ws) :
    WritesOnly ws (revokeApiKey by' kid) := by
  refine .bind (.read rfl) fun found => ?_
  split
  · exact .raise _ _
  · split
    · exact .raise _ _
    · exact .perform rfl h

theorem ownerOfApiKey_writes (h : .apiKeyUsed ∈ ws) : WritesOnly ws (ownerOfApiKey row) := by
  refine .bind (.read rfl) fun found => ?_
  split
  · exact .raise _ _
  · split
    · exact .raise _ _
    · refine .bind ?_ fun _ => .ret _ _
      rw [touchIfStale]
      split
      · exact .perform rfl h
      · refine .bind (.read rfl) fun now => ?_
        split
        · exact .perform rfl h
        · exact .ret _ _

theorem authenticateApiKey_writes (h : .apiKeyUsed ∈ ws) :
    WritesOnly ws (authenticateApiKey env raw) := by
  rw [authenticateApiKey]
  split
  · exact .raise _ _
  · refine .bind (.read rfl) fun found => ?_
    split
    · exact .raise _ _
    · split
      · exact .raise _ _
      · split
        · exact ownerOfApiKey_writes h
        · refine .bind (.read rfl) fun now => ?_
          split
          · exact .raise _ _
          · exact ownerOfApiKey_writes h

theorem serve_writes (r : Request) : WritesOnly r.writes (serve env r) := by
  cases r with
  | registerUser => exact (registerUser_writes (.head _)).bind fun _ => .ret _ _
  | authenticate => exact authenticate_writes.bind fun _ => .ret _ _
  | createTokenPair => exact (createTokenPair_writes (.head _)).bind fun _ => .ret _ _
  | refreshTokens =>
    exact (refreshTokens_writes (.head _) (.tail _ (.head _))).bind fun _ => .ret _ _
  | logout => exact (logout_writes (.head _)).bind fun _ => .ret _ _
  | getCurrentUser => exact getCurrentUser_writes.bind fun _ => .ret _ _
  | createApiKey => exact (createApiKey_writes (.head _)).bind fun _ => .ret _ _
  | revokeApiKey => exact (revokeApiKey_writes (.head _)).bind fun _ => .ret _ _
  | authenticateApiKey => exact (authenticateApiKey_writes (.head _)).bind fun _ => .ret _ _
  | setActive => exact (WritesOnly.perform rfl (.head _)).bind fun _ => .ret _ _

theorem WritesOnly.exec {c : Call α} (hc : WritesOnly ws c) {R : World → World → Prop}
    (hr : ∀ w, R w w) (ht : ∀ w w' w'', R w w' → R w' w'' → R w w'')
    (hR : ∀ op w, (∀ x ∈ op.write, x ∈ ws) → R w (handler env op w).2) (w : World) :
    R w (runCall env c w).2 := by
  simp only [runCall]
  induction c generalizing w with
  | ret => exact hr w
  | raise => exact hr w
  | call op k ih => exact ht _ _ _ (hR op w hc.1) (ih _ (hc.2 _ trivial) _)

end Calls

end QueryMind.Auth
