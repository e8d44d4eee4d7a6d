import CloudMonitor.Auth.Ledger

/-!
# Login

`POST /api/auth/login`: the attempt is reserved, the password is checked, and
a reservation of a login that succeeded is released. `login_run` says what a
login answers and what it does to its two counters.
-/

namespace CloudMonitor

open Fallible MemoryStore

/-- A `LoginRequest` with the address it came from. -/
structure LoginRequest where
  email : String
  password : String
  client : Option String
  deriving DecidableEq

def LoginRequest.clientIp (body : LoginRequest) : String := body.client.getD "unknown"

def invalidLogin : ApiError := .http 401 "Invalid email or password" []

def authenticate (env : Env) (members : Table Member) (body : LoginRequest) : Option Member :=
  (members.rows.find? (fun m => m.email == body.email)).filter
    (fun m => env.verifyPassword body.password m.password)

/-- Returns the member the token is issued for. -/
def login (env : Env) (members : Table Member) (body : LoginRequest) (now : ℚ) : Op Member := do
  reserveLoginAttempt env body.email body.clientIp now
  match authenticate env members body with
  | none => raise invalidLogin
  | some member =>
    releaseLoginAttempt env body.email body.clientIp now
    return member

-- ---------------------------------------------------------------------------
-- What a login does to its two counters
-- ---------------------------------------------------------------------------

abbrev LoginRequest.account (env : Env) (body : LoginRequest) : String := accountKey env body.email

abbrev LoginRequest.address (body : LoginRequest) : String := ipKey body.clientIp

section
variable {ι : Type} [DecidableEq ι]

def Ledger.reserved (env : Env) (body : LoginRequest) (now : ℚ) (i : ι) (l : Ledger ι) : Ledger ι :=
  (l.reserve env now i (body.account env)).reserve env now i body.address

def Ledger.released (env : Env) (body : LoginRequest) (now : ℚ) (i : ι) (l : Ledger ι) : Ledger ι :=
  (l.clear now (body.account env)).giveBack env now i body.address

def Admits (settings : Settings) (account ip : ℤ) : Prop :=
  account ≤ settings.loginMaxFailuresPerAccount ∧ ip ≤ settings.loginMaxFailuresPerIp

variable {env : Env} {body : LoginRequest} {now : ℚ} {l : Ledger ι} {s : MemoryStore} {i : ι}

theorem account_ne_address (env : Env) (body body' : LoginRequest) :
    body.account env ≠ body'.address :=
  accountKey_ne_ipKey env _ _

theorem Ledger.reserved_account :
    l.reserved env body now i (body.account env) =
      (l (body.account env)).reserve env.window now i := by
  rw [Ledger.reserved, Ledger.reserve_other (account_ne_address env body body), Ledger.reserve_self]

theorem Ledger.reserved_address :
    l.reserved env body now i body.address = (l body.address).reserve env.window now i := by
  rw [Ledger.reserved, Ledger.reserve_self,
    Ledger.reserve_other (account_ne_address env body body).symm]

theorem Ledger.reserved_other (ha : key ≠ body.account env) (hx : key ≠ body.address) :
    l.reserved env body now i key = l key := by
  rw [Ledger.reserved, Ledger.reserve_other hx, Ledger.reserve_other ha]

theorem Ledger.released_account :
    l.released env body now i (body.account env) = (l (body.account env)).clear now := by
  rw [Ledger.released, Ledger.giveBack_other (account_ne_address env body body), Ledger.clear_self]

theorem Ledger.released_address :
    l.released env body now i body.address = (l body.address).giveBack env.window now i := by
  rw [Ledger.released, Ledger.giveBack_self,
    Ledger.clear_other (account_ne_address env body body).symm]

theorem Ledger.released_other (ha : key ≠ body.account env) (hx : key ≠ body.address) :
    l.released env body now i key = l key := by
  rw [Ledger.released, Ledger.giveBack_other hx, Ledger.clear_other ha]

theorem refuseBlocked_run (settings : Settings) (account ip : ℤ × ℤ) (s : MemoryStore) :
    (Admits settings account.1 ip.1 ∧ (refuseBlocked settings account ip).run s = (.ok (), s)) ∨
      (¬Admits settings account.1 ip.1 ∧
        ∃ retries, (refuseBlocked settings account ip).run s = (.error (tooMany retries), s)) := by
  by_cases h : blocked settings account ip = []
  · exact .inl ⟨blocked_eq_nil.mp h, by rw [refuseBlocked_eq, if_pos h]⟩
  · exact .inr ⟨fun ha => h (blocked_eq_nil.mpr ha), _, by rw [refuseBlocked_eq, if_neg h]⟩

def Ledger.counts (env : Env) (body : LoginRequest) (now : ℚ) (i : ι) (l : Ledger ι) : ℤ × ℤ :=
  (((l (body.account env)).reserve env.window now i).value,
    ((l body.address).reserve env.window now i).value)

theorem reserveLoginAttempt_run (env : Env) (body : LoginRequest) (h : Follows now s l) (i : ι) :
    ∃ s', Follows now s' (l.reserved env body now i) ∧
      ((Admits env.settings (l.counts env body now i).1 (l.counts env body now i).2 ∧
          (reserveLoginAttempt env body.email body.clientIp now).run s = (.ok (), s')) ∨
        (¬Admits env.settings (l.counts env body now i).1 (l.counts env body now i).2 ∧
          ∃ retries, (reserveLoginAttempt env body.email body.clientIp now).run s =
            (.error (tooMany retries), s'))) := by
  obtain ⟨ra, s₁, ha, hf₁⟩ := Ledger.add_reserve env h (body.account env) i
  obtain ⟨rx, s₂, hx, hf₂⟩ := Ledger.add_reserve env hf₁ body.address i
  rw [Ledger.reserve_self] at ha
  rw [Ledger.reserve_self, Ledger.reserve_other (account_ne_address env body body).symm] at hx
  refine ⟨s₂, hf₂, ?_⟩
  have hrun : (reserveLoginAttempt env body.email body.clientIp now).run s =
      (refuseBlocked env.settings ((l.counts env body now i).1, ra)
        ((l.counts env body now i).2, rx)).run s₂ := by
    simp only [reserveLoginAttempt, run_bind, ha, hx]
    rfl
  rw [hrun]
  exact refuseBlocked_run env.settings ((l.counts env body now i).1, ra)
    ((l.counts env body now i).2, rx) s₂

theorem releaseLoginAttempt_run (env : Env) (body : LoginRequest) (h : Follows now s l) (i : ι) :
    ∃ s', (releaseLoginAttempt env body.email body.clientIp now).run s = (.ok (), s') ∧
      Follows now s' (l.released env body now i) := by
  obtain ⟨s₁, hd, hf₁⟩ := Ledger.delete_clear h (body.account env)
  obtain ⟨r, s₂, hx, hf₂⟩ := Ledger.add_giveBack env hf₁ body.address i
  exact ⟨s₂, by simp only [releaseLoginAttempt, run_bind, hd, hx, run_pure], hf₂⟩

inductive LoginOutcome (env : Env) (members : Table Member) (body : LoginRequest) (now : ℚ) (i : ι)
    (l : Ledger ι) : Except ApiError Member → Ledger ι → Prop
  | refused (retries : List ℤ) :
    ¬Admits env.settings (l.counts env body now i).1 (l.counts env body now i).2 →
    LoginOutcome env members body now i l (.error (tooMany retries)) (l.reserved env body now i)
  | failed :
    Admits env.settings (l.counts env body now i).1 (l.counts env body now i).2 →
    authenticate env members body = none →
    LoginOutcome env members body now i l (.error invalidLogin) (l.reserved env body now i)
  | passed (member : Member) :
    Admits env.settings (l.counts env body now i).1 (l.counts env body now i).2 →
    authenticate env members body = some member →
    LoginOutcome env members body now i l (.ok member)
      ((l.reserved env body now i).released env body now i)

theorem login_run (env : Env) (members : Table Member) (body : LoginRequest) (h : Follows now s l)
    (i : ι) :
    ∃ answer s' l', (login env members body now).run s = (answer, s') ∧ Follows now s' l' ∧
      LoginOutcome env members body now i l answer l' := by
  obtain ⟨s₁, hf₁, ⟨hadm, hrun⟩ | ⟨hadm, retries, hrun⟩⟩ := reserveLoginAttempt_run env body h i
  · cases hm : authenticate env members body with
    | none =>
      exact ⟨_, s₁, _, by simp [login, hrun, hm], hf₁, .failed hadm hm⟩
    | some m =>
      obtain ⟨s₂, hrel, hf₂⟩ := releaseLoginAttempt_run env body hf₁ i
      exact ⟨_, s₂, _, by simp [login, hrun, hm, hrel], hf₂, .passed m hadm hm⟩
  · exact ⟨_, s₁, _, by simp [login, hrun], hf₁, .refused retries hadm⟩

end

end CloudMonitor
