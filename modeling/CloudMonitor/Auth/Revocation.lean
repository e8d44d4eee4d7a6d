import CloudMonitor.Auth.Login

/-!
# Access tokens and their revocation

A token is stateless; logging out stores its `jti` until the token expires.
The store's clock and the wall clock run at the same rate, `offset` apart.
Signatures are checked by a function this model does not look into.
-/

namespace CloudMonitor

open Fallible MemoryStore

structure Claims where
  sub : String
  email : String
  role : String
  iat : ℤ
  exp : ℤ
  jti : String
  deriving DecidableEq

/-- The wall clock's lead on the store's clock, and what a token says if its
signature and its required claims are in order. -/
structure TokenEnv where
  offset : ℚ
  verify : String → Option Claims

def unauthorized (detail : String) : ApiError := .http 401 detail []

def notAuthenticated : ApiError :=
  .http 401 "Not authenticated. Provide a Bearer token." [("WWW-Authenticate", "Bearer")]

def tokenExpired : ApiError := unauthorized "Token has expired"

def invalidToken : ApiError := unauthorized "Invalid token"

def tokenRevoked : ApiError := unauthorized "Token has been revoked"

def revokedKey (jti : String) : String := "revoked:" ++ jti

def TokenEnv.wall (tokens : TokenEnv) (now : ℚ) : ℚ := now + tokens.offset

/-- A token is expired from its `exp` on. -/
def decodeAccessToken (tokens : TokenEnv) (token : String) (now : ℚ) : Op Claims :=
  match tokens.verify token with
  | none => raise invalidToken
  | some claims => if (claims.exp : ℚ) ≤ tokens.wall now then raise tokenExpired else return claims

/-- Denylists a token for the whole seconds left until it expires. -/
def revokeToken (tokens : TokenEnv) (claims : Claims) (now : ℚ) : Op Unit := do
  let remaining := truncate (claims.exp - tokens.wall now)
  if 0 < remaining then set (revokedKey claims.jti) "1" remaining now else return ()

def isTokenRevoked (jti : String) (now : ℚ) : Op Bool := contains (revokedKey jti) now

def getTokenClaims (tokens : TokenEnv) (credentials : Option String) (now : ℚ) : Op Claims :=
  match credentials with
  | none => raise notAuthenticated
  | some token => do
    let payload ← decodeAccessToken tokens token now
    if ← isTokenRevoked payload.jti now then raise tokenRevoked else return payload

def logout (tokens : TokenEnv) (credentials : Option String) (now : ℚ) : Op Unit := do
  let claims ← getTokenClaims tokens credentials now
  revokeToken tokens claims now

/-- The key a diagnosis is cached under; `digest` hashes what the model would
be asked. -/
def diagnosisKey (instanceId : ℤ) (digest : String) : String :=
  "diagnosis:" ++ toString instanceId ++ ":" ++ digest

theorem diagnosisKey_eq (instanceId : ℤ) (digest : String) :
    diagnosisKey instanceId digest = "diagnosis:" ++ (toString instanceId ++ (":" ++ digest)) := by
  rw [diagnosisKey, String.append_assoc, String.append_assoc]

theorem accountKey_ne_revokedKey (env : Env) (email jti : String) :
    accountKey env email ≠ revokedKey jti :=
  append_ne_append (by decide) (by decide) _ _

theorem ipKey_ne_revokedKey (clientIp jti : String) : ipKey clientIp ≠ revokedKey jti :=
  append_ne_append (by decide) (by decide) _ _

theorem diagnosisKey_ne_revokedKey (instanceId : ℤ) (digest jti : String) :
    diagnosisKey instanceId digest ≠ revokedKey jti := by
  rw [diagnosisKey_eq]
  exact append_ne_append (by decide) (by decide) _ _

theorem accountKey_ne_diagnosisKey (env : Env) (email : String) (instanceId : ℤ) (digest : String) :
    accountKey env email ≠ diagnosisKey instanceId digest := by
  rw [diagnosisKey_eq]
  exact append_ne_append (by decide) (by decide) _ _

theorem ipKey_ne_diagnosisKey (clientIp : String) (instanceId : ℤ) (digest : String) :
    ipKey clientIp ≠ diagnosisKey instanceId digest := by
  rw [diagnosisKey_eq]
  exact append_ne_append (by decide) (by decide) _ _

-- ---------------------------------------------------------------------------
-- What a request with a token gets
-- ---------------------------------------------------------------------------

section
variable {tokens : TokenEnv} {now : ℚ} {s : MemoryStore} {token : String} {c : Claims}

theorem getTokenClaims_run (hv : tokens.verify token = some c) (s : MemoryStore) (now : ℚ) :
    ∃ s', (getTokenClaims tokens (some token) now).run s =
        (if (c.exp : ℚ) ≤ tokens.wall now then .error tokenExpired
          else if (s.look now (revokedKey c.jti)).isSome then .error tokenRevoked else .ok c, s') ∧
      Keeps now s s' := by
  by_cases he : (c.exp : ℚ) ≤ tokens.wall now
  · exact ⟨s, by simp [getTokenClaims, decodeAccessToken, hv, he], Keeps.refl⟩
  · obtain ⟨s', hrun, hk⟩ := contains_run (revokedKey c.jti) now s
    refine ⟨s', ?_, hk⟩
    by_cases hr : (s.look now (revokedKey c.jti)).isSome
    · simp [getTokenClaims, decodeAccessToken, isTokenRevoked, hv, he, hrun, hr]
    · simp [getTokenClaims, decodeAccessToken, isTokenRevoked, hv, he, hrun, hr]

theorem getTokenClaims_ok {credentials : Option String}
    (h : ((getTokenClaims tokens credentials now).run s).1 = .ok c) :
    ∃ token, credentials = some token ∧ tokens.verify token = some c ∧ tokens.wall now < c.exp ∧
      s.look now (revokedKey c.jti) = none := by
  cases credentials with
  | none => simp [getTokenClaims] at h
  | some token =>
    cases hv : tokens.verify token with
    | none => simp [getTokenClaims, decodeAccessToken, hv] at h
    | some c' =>
      obtain ⟨s', hrun, -⟩ := getTokenClaims_run hv s now
      rw [hrun] at h
      simp only at h
      split_ifs at h with he hr
      obtain rfl : c' = c := Except.ok.inj h
      exact ⟨token, rfl, hv, not_le.mp he, by simpa using hr⟩

theorem getTokenClaims_keeps (tokens : TokenEnv) (now : ℚ) (credentials : Option String)
    (s : MemoryStore) :
    Keeps now s ((getTokenClaims tokens credentials now).run s).2 := by
  cases credentials with
  | none => exact Keeps.refl
  | some token =>
    cases hv : tokens.verify token with
    | none =>
      have hs : ((getTokenClaims tokens (some token) now).run s).2 = s := by
        simp [getTokenClaims, decodeAccessToken, hv]
      rw [hs]
      exact Keeps.refl
    | some c =>
      obtain ⟨s', hrun, hk⟩ := getTokenClaims_run hv s now
      rw [hrun]
      exact hk

/-- A revocation writes one key, or nothing in the token's last second. -/
theorem revokeToken_run (tokens : TokenEnv) (c : Claims) (now : ℚ) (s : MemoryStore) :
    ∃ s', (revokeToken tokens c now).run s = (.ok (), s') ∧
      ((0 < truncate (c.exp - tokens.wall now) ∧
          Writes now (revokedKey c.jti)
            (some { value := "1", expires := now + truncate (c.exp - tokens.wall now) }) s s') ∨
        (truncate (c.exp - tokens.wall now) ≤ 0 ∧ Keeps now s s')) := by
  by_cases h : 0 < truncate (c.exp - tokens.wall now)
  · obtain ⟨s', hrun, hw⟩ :=
      set_run (revokedKey c.jti) "1" (truncate (c.exp - tokens.wall now)) now s
    exact ⟨s', by simp [revokeToken, h, hrun], .inl ⟨h, hw⟩⟩
  · exact ⟨s, by simp [revokeToken, h], .inr ⟨not_lt.mp h, Keeps.refl⟩⟩

theorem logout_ok (h : ((logout tokens (some token) now).run s).1 = .ok ()) :
    ∃ c s', tokens.verify token = some c ∧ tokens.wall now < c.exp ∧
      s.look now (revokedKey c.jti) = none ∧
      Keeps now s s' ∧ ((logout tokens (some token) now).run s).2 =
        ((revokeToken tokens c now).run s').2 := by
  have hk := getTokenClaims_keeps tokens now (some token) s
  cases hg : (getTokenClaims tokens (some token) now).run s with
  | mk r s' =>
    rw [hg] at hk
    cases r with
    | error e => simp [logout, hg] at h
    | ok c =>
      obtain ⟨_, ht, hv, hexp, hlook⟩ := getTokenClaims_ok (congrArg Prod.fst hg)
      obtain rfl := Option.some.inj ht
      exact ⟨c, s', hv, hexp, hlook, hk, by simp [logout, hg]⟩

end

end CloudMonitor
