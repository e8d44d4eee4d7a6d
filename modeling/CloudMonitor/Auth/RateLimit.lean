import CloudMonitor.Store.Counter

/-!
# The login rate limit

An attempt is counted under its account and under its address before the
password is looked at, and refused when either count is over its limit. A
login that succeeds clears the account's counter and gives the address back
the one attempt.
-/

namespace CloudMonitor

open Fallible MemoryStore

def tooManyAttempts : String := "Too many failed login attempts. Try again later."

/-- Lower-cased, so that two spellings share one counter. -/
def accountKey (env : Env) (email : String) : String := "login:account:" ++ env.stripLower email

def ipKey (clientIp : String) : String := "login:ip:" ++ clientIp

def blocked (settings : Settings) (account ip : ℤ × ℤ) : List ℤ :=
  ([(account, settings.loginMaxFailuresPerAccount), (ip, settings.loginMaxFailuresPerIp)].filter
    (fun c => (c.2 : ℤ) < c.1.1)).map (fun c => c.1.2)

def tooMany (blocked : List ℤ) : ApiError :=
  .http 429 tooManyAttempts [("Retry-After", toString (blocked.foldl max 0))]

def refuseBlocked (settings : Settings) (account ip : ℤ × ℤ) : Op Unit :=
  let retries := blocked settings account ip
  if retries.isEmpty then return () else raise (tooMany retries)

def Env.loginWindow (env : Env) : ℤ := env.settings.loginWindowSeconds

def reserveLoginAttempt (env : Env) (email clientIp : String) (now : ℚ) : Op Unit := do
  let account ← add (accountKey env email) 1 env.loginWindow now
  let ip ← add (ipKey clientIp) 1 env.loginWindow now
  refuseBlocked env.settings account ip

def releaseLoginAttempt (env : Env) (email clientIp : String) (now : ℚ) : Op Unit := do
  delete (accountKey env email)
  let _ ← add (ipKey clientIp) (-1) env.loginWindow now

def Env.withLimits (account ip : ℕ) : Env :=
  { Env.every 0 with
    settings := { loginMaxFailuresPerAccount := account, loginMaxFailuresPerIp := ip } }

theorem blocked_eq_nil {settings : Settings} {account ip : ℤ × ℤ} :
    blocked settings account ip = [] ↔
      account.1 ≤ settings.loginMaxFailuresPerAccount ∧ ip.1 ≤ settings.loginMaxFailuresPerIp := by
  simp [blocked, List.filter_cons]
  split <;> split <;> simp <;> omega

theorem refuseBlocked_eq (settings : Settings) (account ip : ℤ × ℤ) (s : MemoryStore) :
    (refuseBlocked settings account ip).run s =
      (if blocked settings account ip = [] then .ok ()
        else .error (tooMany (blocked settings account ip)), s) := by
  by_cases h : blocked settings account ip = []
  · simp [refuseBlocked, h]
  · simp [refuseBlocked, h]

theorem accountKey_ne_ipKey (env : Env) (email clientIp : String) :
    accountKey env email ≠ ipKey clientIp :=
  append_ne_append (by decide) (by decide) _ _

end CloudMonitor
