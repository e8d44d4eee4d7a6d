import CloudMonitor.Auth.Logout

/-!
# What Retry-After promises

A refused login is told how many seconds to wait. The windows of the counters
that tripped have ended by then exactly if the longest of them has not more
time left than the seconds it is rounded to.
-/

namespace CloudMonitor

open Fallible MemoryStore

/-- The two counters a login is counted under. -/
inductive LoginCounter
  | account
  | address
  deriving DecidableEq

namespace LoginCounter

def key (env : Env) (body : LoginRequest) : LoginCounter → String
  | .account => body.account env
  | .address => body.address

def limit (settings : Settings) : LoginCounter → ℕ
  | .account => settings.loginMaxFailuresPerAccount
  | .address => settings.loginMaxFailuresPerIp

def pick (c : LoginCounter) (replies : (ℤ × ℤ) × (ℤ × ℤ)) : ℤ × ℤ :=
  match c with
  | .account => replies.1
  | .address => replies.2

section
variable (env : Env) (body : LoginRequest) (s : MemoryStore) (now : ℚ) (c : LoginCounter)

/-- What the counter has before an attempt at `now`. -/
def entry : Entry String ℚ := s.counter env.loginWindow now (c.key env body)

def count : ℤ := (readInt? (c.entry env body s now).value).getD 0

def left : ℚ := (c.entry env body s now).expires - now

/-- An attempt at `now` is one too many. -/
def Trips : Prop := (c.limit env.settings : ℤ) < c.count env body s now + 1

end

end LoginCounter

/-- The two additions of `reserveLoginAttempt`. -/
def countAttempt (env : Env) (email clientIp : String) (now : ℚ) : Op ((ℤ × ℤ) × (ℤ × ℤ)) := do
  let account ← add (accountKey env email) 1 env.loginWindow now
  let ip ← add (ipKey clientIp) 1 env.loginWindow now
  return (account, ip)

section
variable {env : Env} {members : Table Member} {tokens : TokenEnv} {body : LoginRequest}
  {s s' : MemoryStore} {now : ℚ} {c : LoginCounter}

theorem reserveLoginAttempt_eq (env : Env) (email clientIp : String) (now : ℚ) (s : MemoryStore) :
    (reserveLoginAttempt env email clientIp now).run s =
      (countAttempt env email clientIp now >>= fun r =>
        refuseBlocked env.settings r.1 r.2).run s := by
  simp only [reserveLoginAttempt, countAttempt, Fallible.bind_assoc]
  rfl

theorem LoginCounter.key_ne (env : Env) (body : LoginRequest) :
    LoginCounter.account.key env body ≠ LoginCounter.address.key env body :=
  account_ne_address env body body

/-- Both counters hold numbers: each is answered one more, and its entry keeps
its end. -/
theorem countAttempt_run
    (h : ∀ c : LoginCounter, readInt? (c.entry env body s now).value = some (c.count env body s now)) :
    ∃ r s', (countAttempt env body.email body.clientIp now).run s = (.ok r, s') ∧
      ∀ c : LoginCounter,
        c.pick r = (c.count env body s now + 1, max 1 (roundHalfEven (c.left env body s now))) ∧
        ∀ t, now ≤ t → s'.look t (c.key env body) =
          alive t (some { value := toString (c.count env body s now + 1),
                          expires := (c.entry env body s now).expires }) := by
  have hne := LoginCounter.key_ne env body
  obtain ⟨s₁, ha, hwa⟩ := add_run (s := s) _ 1 (h .account)
  have hsame : s₁.counter env.loginWindow now body.address =
      s.counter env.loginWindow now body.address :=
    counter_congr (hwa.other le_rfl hne.symm)
  obtain ⟨s₂, hx, hwx⟩ := add_run (s := s₁) (LoginCounter.address.count env body s now) 1
    (by rw [hsame]; exact h .address)
  rw [hsame] at hx hwx
  have ha' : (add (accountKey env body.email) 1 env.loginWindow now).run s = _ := ha
  have hx' : (add (ipKey body.clientIp) 1 env.loginWindow now).run s₁ = _ := hx
  refine ⟨_, s₂, by simp only [countAttempt, run_bind, ha', hx', run_pure]; rfl, ?_⟩
  rintro (_ | _)
  · exact ⟨rfl, fun t ht => (hwx.other ht hne).trans (hwa.same ht)⟩
  · exact ⟨rfl, fun t ht => hwx.same ht⟩

theorem countAttempt_raises
    (h : ∃ c : LoginCounter, readInt? (c.entry env body s now).value = none) :
    ∃ s', (countAttempt env body.email body.clientIp now).run s = (.error .internal, s') := by
  cases ha : readInt? (LoginCounter.account.entry env body s now).value with
  | none =>
    obtain ⟨s₁, hraise, -⟩ := add_raises 1 ha
    change (add (accountKey env body.email) 1 env.loginWindow now).run s = _ at hraise
    exact ⟨s₁, by simp only [countAttempt, run_bind, hraise]⟩
  | some n =>
    obtain ⟨s₁, hrun, hw⟩ := add_run (s := s) n 1 ha
    obtain ⟨c, hc⟩ := h
    cases c with
    | account => simp [ha] at hc
    | address =>
      have hsame : s₁.counter env.loginWindow now body.address =
          s.counter env.loginWindow now body.address :=
        counter_congr (hw.other le_rfl (LoginCounter.key_ne env body).symm)
      obtain ⟨s₂, hraise, -⟩ := add_raises (s := s₁) 1 (by rw [hsame]; exact hc)
      change (add (accountKey env body.email) 1 env.loginWindow now).run s = _ at hrun
      change (add (ipKey body.clientIp) 1 env.loginWindow now).run s₁ = _ at hraise
      exact ⟨s₂, by simp only [countAttempt, run_bind, hrun, hraise]⟩

theorem mem_blocked {settings : Settings} {r : (ℤ × ℤ) × (ℤ × ℤ)} {x : ℤ} :
    x ∈ blocked settings r.1 r.2 ↔
      ∃ c : LoginCounter, (c.limit settings : ℤ) < (c.pick r).1 ∧ (c.pick r).2 = x := by
  simp only [blocked, List.mem_map, List.mem_filter, List.mem_cons, List.not_mem_nil, or_false,
    decide_eq_true_eq]
  constructor
  · rintro ⟨_, ⟨rfl | rfl, hlt⟩, rfl⟩
    · exact ⟨.account, hlt, rfl⟩
    · exact ⟨.address, hlt, rfl⟩
  · rintro ⟨_ | _, hlt, rfl⟩
    · exact ⟨_, ⟨.inl rfl, hlt⟩, rfl⟩
    · exact ⟨_, ⟨.inr rfl, hlt⟩, rfl⟩

/-- What a login is refused for, and what the refusal leaves. -/
structure Refusal (env : Env) (body : LoginRequest) (s : MemoryStore) (now : ℚ) (r : ℤ)
    (s' : MemoryStore) : Prop where
  reads : ∀ c : LoginCounter,
    readInt? (c.entry env body s now).value = some (c.count env body s now)
  told : ∃ c : LoginCounter, c.Trips env body s now ∧
    r = max 1 (roundHalfEven (c.left env body s now))
  covers : ∀ c : LoginCounter, c.Trips env body s now →
    max 1 (roundHalfEven (c.left env body s now)) ≤ r
  stored : ∀ (c : LoginCounter) (t : ℚ), now ≤ t → s'.look t (c.key env body) =
    alive t (some { value := toString (c.count env body s now + 1),
                    expires := (c.entry env body s now).expires })

theorem refuseBlocked_error {settings : Settings} {r : (ℤ × ℤ) × (ℤ × ℤ)} {n : ℤ}
    (h : (refuseBlocked settings r.1 r.2).run s =
      (.error (.http 429 tooManyAttempts [("Retry-After", toString n)]), s')) :
    s' = s ∧ (∀ x ∈ blocked settings r.1 r.2, x ≤ n) ∧
      ((∀ x ∈ blocked settings r.1 r.2, 0 ≤ x) → n ∈ blocked settings r.1 r.2) := by
  rw [refuseBlocked_eq] at h
  by_cases hb : blocked settings r.1 r.2 = []
  · simp [hb] at h
  · rw [if_neg hb] at h
    obtain ⟨herr, rfl⟩ := Prod.mk.inj h
    have htext : ((blocked settings r.1 r.2).foldl max 0).repr = n.repr := by
      simpa [tooMany] using herr
    have hn : (blocked settings r.1 r.2).foldl max 0 = n :=
      Option.some.inj ((readInt?_repr _).symm.trans ((congrArg readInt? htext).trans
        (readInt?_repr _)))
    rw [List.foldl_max_eq_max hb] at hn
    refine ⟨rfl, fun x hx => ?_, fun hpos => ?_⟩
    · exact hn ▸ (List.le_max_of_mem hx).trans (le_max_right _ _)
    · have hmem := List.max_mem hb
      rw [max_eq_right (hpos _ hmem)] at hn
      exact hn ▸ hmem

theorem reserve_of_login {detail : String} {headers : List (String × String)}
    (h : (login env members body now).run s = (.error (.http 429 detail headers), s')) :
    (reserveLoginAttempt env body.email body.clientIp now).run s =
      (.error (.http 429 detail headers), s') := by
  cases hr : (reserveLoginAttempt env body.email body.clientIp now).run s with
  | mk o s₁ =>
    rw [login, run_bind, hr] at h
    cases o with
    | error e => simpa using h
    | ok =>
      exfalso
      cases ha : authenticate env members body with
      | none => simp [ha, invalidLogin] at h
      | some m =>
        obtain ⟨s₂, hd, -⟩ := delete_run (accountKey env body.email) now s₁
        cases hx : (add (ipKey body.clientIp) (-1) env.loginWindow now).run s₂ with
        | mk o s₃ =>
          cases o with
          | ok a => simp [ha, releaseLoginAttempt, hd, hx] at h
          | error e =>
            obtain rfl := add_error (congrArg Prod.fst hx)
            simp [ha, releaseLoginAttempt, hd, hx] at h

theorem refusal_of_login {r : ℤ} (h : (login env members body now).run s =
    (.error (.http 429 tooManyAttempts [("Retry-After", toString r)]), s')) :
    Refusal env body s now r s' := by
  have hreserve := reserve_of_login h
  have hreads : ∀ c : LoginCounter,
      readInt? (c.entry env body s now).value = some (c.count env body s now) := by
    intro c
    cases hc : readInt? (c.entry env body s now).value with
    | some n => simp [LoginCounter.count, hc]
    | none =>
      exfalso
      obtain ⟨s₁, hrun⟩ := countAttempt_raises ⟨c, hc⟩
      rw [reserveLoginAttempt_eq, run_bind, hrun] at hreserve
      simp at hreserve
  obtain ⟨replies, s₁, hrun, hcounters⟩ := countAttempt_run hreads
  rw [reserveLoginAttempt_eq, run_bind, hrun] at hreserve
  obtain ⟨rfl, hle, hmem⟩ := refuseBlocked_error hreserve
  have hblocked : ∀ x, x ∈ blocked env.settings replies.1 replies.2 ↔
      ∃ c : LoginCounter, c.Trips env body s now ∧
        max 1 (roundHalfEven (c.left env body s now)) = x := by
    intro x
    rw [mem_blocked]
    exact exists_congr fun c => by rw [(hcounters c).1]; rfl
  constructor
  case reads => exact hreads
  case told =>
    obtain ⟨c, hc, hr⟩ := (hblocked r).mp (hmem fun x hx => by
      obtain ⟨c, -, rfl⟩ := (hblocked x).mp hx
      exact zero_le_one.trans (le_max_left _ _))
    exact ⟨c, hc, hr.symm⟩
  case covers => exact fun c hc => hle _ ((hblocked _).mpr ⟨c, hc, rfl⟩)
  case stored => exact fun c => (hcounters c).2

end

-- ---------------------------------------------------------------------------
-- Until the next attempt
-- ---------------------------------------------------------------------------

/-- No attempt for the account or from the address of `body`. -/
def StoreUse.Other (env : Env) (body : LoginRequest) : StoreUse → Prop
  | .login b => b.account env ≠ body.account env ∧ b.address ≠ body.address
  | _ => True

section
variable {env : Env} {members : Table Member} {tokens : TokenEnv} {body : LoginRequest}
  {s s' : MemoryStore} {now : ℚ} {c : LoginCounter}

theorem LoginCounter.revokedKey_ne (c : LoginCounter) (jti : String) :
    revokedKey jti ≠ c.key env body := by
  cases c with
  | account => exact (accountKey_ne_revokedKey env body.email jti).symm
  | address => exact (ipKey_ne_revokedKey body.clientIp jti).symm

theorem LoginCounter.diagnosisKey_ne (c : LoginCounter) (instanceId : ℤ) (digest : String) :
    diagnosisKey instanceId digest ≠ c.key env body := by
  cases c with
  | account => exact (accountKey_ne_diagnosisKey env body.email instanceId digest).symm
  | address => exact (ipKey_ne_diagnosisKey body.clientIp instanceId digest).symm

theorem unmoved_other (e : StoreUse) (h : e.Other env body) (c : LoginCounter) (s : MemoryStore) :
    Unmoved now (c.key env body) s (Process.use env members tokens now e s) := by
  cases e with
  | wait => exact Unmoved.refl s
  | login b =>
    refine unmoved_login b ?_ ?_ s
    · cases c with
      | account => exact h.1
      | address => exact account_ne_address env b body
    · cases c with
      | account => exact (account_ne_address env body b).symm
      | address => exact h.2
  | request credentials => exact Unmoved.of_keeps (getTokenClaims_keeps tokens now credentials s)
  | logout credentials => exact unmoved_logout_of_ne credentials c.revokedKey_ne s
  | readDiagnosis instanceId digest =>
    obtain ⟨s₁, hrun, hk⟩ := get_run (diagnosisKey instanceId digest) now s
    simpa [Process.use, hrun] using Unmoved.of_keeps hk
  | cacheDiagnosis instanceId digest text ttl =>
    obtain ⟨s₁, hrun, hw⟩ := set_run (diagnosisKey instanceId digest) text ttl now s
    simpa [Process.use, hrun] using Unmoved.of_writes hw (c.diagnosisKey_ne instanceId digest)

theorem play_other (members : Table Member) (tokens : TokenEnv) (σ : Process)
    (events : List StoreUse) (h : ∀ e ∈ events, e.Other env body) (c : LoginCounter) :
    σ.now ≤ (play (Process.step env members tokens) σ events).now ∧
      ∀ t, (play (Process.step env members tokens) σ events).now ≤ t →
        (play (Process.step env members tokens) σ events).store.look t (c.key env body) =
          σ.store.look t (c.key env body) := by
  induction events generalizing σ with
  | nil => exact ⟨le_rfl, fun _ _ => rfl⟩
  | cons e events ih =>
    obtain ⟨hle, hlook⟩ := ih (σ.step env members tokens e)
      fun e' he' => h e' (List.mem_cons_of_mem e he')
    have hstep : σ.now ≤ (σ.step env members tokens e).now :=
      le_add_of_nonneg_right e.duration_nonneg
    refine ⟨hstep.trans hle, fun t ht => ?_⟩
    rw [play_cons, hlook t ht]
    exact unmoved_other e (h e List.mem_cons_self) c σ.store t (hstep.trans (hle.trans ht))

end

-- ---------------------------------------------------------------------------
-- The next attempt
-- ---------------------------------------------------------------------------

/-- The window of the counter has ended: the next attempt is counted as the
first of a new one, and this counter does not refuse it. -/
def StartsAnew (env : Env) (body : LoginRequest) (σ : Process) (c : LoginCounter) : Prop :=
  σ.store.look σ.now (c.key env body) = none ∧
    ∃ r s', (countAttempt env body.email body.clientIp σ.now).run σ.store = (.ok r, s') ∧
      (c.pick r).1 = 1 ∧ (c.pick r).1 ≤ c.limit env.settings ∧
      ∀ t, σ.now ≤ t → s'.look t (c.key env body) =
        alive t (some { value := "1", expires := σ.now + env.loginWindow })

/-- The seconds `x` is told as are not fewer. -/
def RoundsUp (x : ℚ) : Prop :=
  x ≤ 1 ∨ Int.fract x = 0 ∨ 1 / 2 < Int.fract x ∨ (Int.fract x = 1 / 2 ∧ ¬Even ⌊x⌋)

theorem roundsUp_iff (x : ℚ) : RoundsUp x ↔ x ≤ (max 1 (roundHalfEven x) : ℤ) := by
  rw [RoundsUp, ← le_roundHalfEven_iff, Int.cast_max, Int.cast_one, le_max_iff]

section
variable {env : Env} {members : Table Member} {tokens : TokenEnv} {body : LoginRequest}
  {s s' : MemoryStore} {now : ℚ} {c : LoginCounter} {r : ℤ}

theorem LoginCounter.exists_longest (h : c.Trips env body s now) :
    ∃ m : LoginCounter, m.Trips env body s now ∧
      ∀ c' : LoginCounter, c'.Trips env body s now →
        c'.left env body s now ≤ m.left env body s now := by
  classical
  let tripped := ([.account, .address] : List LoginCounter).toFinset.filter
    (LoginCounter.Trips env body s now)
  have hmem : ∀ c' : LoginCounter, c' ∈ tripped ↔ c'.Trips env body s now := by
    intro c'
    cases c' <;> simp [tripped]
  obtain ⟨m, hm, hmax⟩ := tripped.exists_max_image (LoginCounter.left env body s now)
    ⟨c, (hmem c).mpr h⟩
  exact ⟨m, (hmem m).mp hm, fun c' hc' => hmax c' ((hmem c').mpr hc')⟩

theorem startsAnew_of_gone {σ : Process} (hlimit : 1 ≤ c.limit env.settings)
    (hreads : ∀ c : LoginCounter,
      readInt? (c.entry env body σ.store σ.now).value = some (c.count env body σ.store σ.now))
    (hgone : σ.store.look σ.now (c.key env body) = none) : StartsAnew env body σ c := by
  obtain ⟨replies, s₁, hrun, hcounters⟩ := countAttempt_run hreads
  obtain ⟨hpick, hstored⟩ := hcounters c
  have hentry : c.entry env body σ.store σ.now =
      { value := toString (0 : ℤ), expires := σ.now + env.loginWindow } := by
    rw [LoginCounter.entry, counter, hgone]
    rfl
  have hcount : c.count env body σ.store σ.now = 0 := by
    rw [LoginCounter.count, hentry]
    exact congrArg (Option.getD · 0) (readInt?_repr 0)
  refine ⟨hgone, replies, s₁, hrun, ?_, ?_, fun t ht => ?_⟩
  · rw [hpick, hcount]
    rfl
  · rw [hpick, hcount]
    exact Int.ofNat_le.mpr hlimit
  · rw [hstored t ht, hcount, hentry]
    rfl

/-- After a refusal the two counters still hold numbers. -/
theorem Refusal.reads_later {σ : Process} (h : Refusal env body s now r s') (hle : now ≤ σ.now)
    (hsame : ∀ c : LoginCounter,
      σ.store.look σ.now (c.key env body) = s'.look σ.now (c.key env body)) (c : LoginCounter) :
    readInt? (c.entry env body σ.store σ.now).value = some (c.count env body σ.store σ.now) := by
  have hlook := (hsame c).trans (h.stored c σ.now hle)
  have hsome : ∃ n, readInt? (c.entry env body σ.store σ.now).value = some n := by
    rw [LoginCounter.entry, counter]
    cases hl : σ.store.look σ.now (c.key env body) with
    | none => exact ⟨0, readInt?_repr 0⟩
    | some e =>
      rw [hl] at hlook
      obtain ⟨he, -⟩ := alive_eq_some.mp hlook.symm
      obtain rfl := Option.some.inj he
      exact ⟨_, readInt?_repr _⟩
  obtain ⟨n, hn⟩ := hsome
  simp [LoginCounter.count, hn]

theorem Refusal.gone_iff {σ : Process} (h : Refusal env body s now r s') (hle : now ≤ σ.now)
    (hsame : σ.store.look σ.now (c.key env body) = s'.look σ.now (c.key env body)) :
    σ.store.look σ.now (c.key env body) = none ↔ now + c.left env body s now ≤ σ.now := by
  rw [hsame, h.stored c σ.now hle, LoginCounter.left, add_sub_cancel]
  simp [alive_eq_none]

/-- The time told is enough, whatever else the store is used for meanwhile,
exactly if every limit that tripped lets one attempt through and the longest
time left is not rounded down. -/
theorem retryAfter_trusted_iff (env : Env) (members : Table Member) (tokens : TokenEnv)
    (h : (login env members body now).run s =
      (.error (.http 429 tooManyAttempts [("Retry-After", toString r)]), s')) :
    (∀ events : List StoreUse, (∀ e ∈ events, e.Other env body) →
      now + r ≤ (play (Process.step env members tokens) ⟨s', now⟩ events).now →
      ∀ c : LoginCounter, c.Trips env body s now →
        StartsAnew env body (play (Process.step env members tokens) ⟨s', now⟩ events) c) ↔
      ∀ c : LoginCounter, c.Trips env body s now → 1 ≤ c.limit env.settings ∧
        ((∀ c' : LoginCounter, c'.Trips env body s now →
          c'.left env body s now ≤ c.left env body s now) → RoundsUp (c.left env body s now)) := by
  have href := refusal_of_login h
  constructor
  · intro htrust c hc
    obtain ⟨m, hm, hr⟩ := href.told
    have hr0 : (0 : ℚ) ≤ r := by
      rw [hr]
      exact_mod_cast zero_le_one.trans (le_max_left 1 _)
    have hanew := htrust [.wait r hr0] (by simp [StoreUse.Other]) le_rfl c hc
    obtain ⟨hgone, replies, s₁, -, hfirst, hlimit, -⟩ := hanew
    refine ⟨by exact_mod_cast hfirst ▸ hlimit, fun hlongest => ?_⟩
    have hend := (href.gone_iff (σ := ⟨s', now + r⟩) (le_add_of_nonneg_right hr0) rfl).mp hgone
    have hle : c.left env body s now ≤ r := by
      simp only at hend
      linarith
    rw [roundsUp_iff]
    refine hle.trans ?_
    rw [hr]
    exact_mod_cast max_le_max le_rfl (roundHalfEven_mono (hlongest m hm))
  · intro hcond events hother hlater c hc
    obtain ⟨m, hm, hlongest⟩ := LoginCounter.exists_longest hc
    have hup := (roundsUp_iff _).mp ((hcond m hm).2 hlongest)
    have hle : c.left env body s now ≤ r :=
      (hlongest c hc).trans (hup.trans (by exact_mod_cast href.covers m hm))
    have hmoved := play_other members tokens ⟨s', now⟩ events hother
    have hsame := fun c => (hmoved c).2 _ le_rfl
    have hnow := (hmoved c).1
    refine startsAnew_of_gone (hcond c hc).1 (href.reads_later hnow hsame) ?_
    exact (href.gone_iff hnow (hsame c)).mpr ((add_le_add_right hle now).trans hlater)

-- ---------------------------------------------------------------------------
-- Ten failures at the instant 0
-- ---------------------------------------------------------------------------

instance (x : ℚ) : Decidable (RoundsUp x) := inferInstanceAs (Decidable (_ ∨ _))

instance (p : LoginCounter → Prop) [DecidablePred p] : Decidable (∀ c, p c) :=
  decidable_of_iff (p .account ∧ p .address)
    ⟨fun h c => by cases c; exacts [h.1, h.2], fun h => ⟨h _, h _⟩⟩

instance (c : LoginCounter) : Decidable (c.Trips env body s now) :=
  inferInstanceAs (Decidable (_ < _))

def adminGuess : LoginRequest where
  email := "admin@techvalley.vn"
  password := "guess"
  client := some "10.0.0.1"

def afterTenGuesses : MemoryStore :=
  (play (Process.step (.every 0) ∅ Process.oneToken) ⟨.new 0, 0⟩
    (List.replicate 10 (.login adminGuess))).store

/-- What an eleventh attempt at `t` gets, and the state it leaves. -/
def eleventh (t : ℚ) : Except ApiError Member × MemoryStore :=
  (login (.every 0) ∅ adminGuess t).run afterTenGuesses

def tenSecondsAfter (t : ℚ) : Process :=
  play (Process.step (.every 0) ∅ Process.oneToken) ⟨(eleventh t).2, t⟩ [.wait 10 (by decide)]

theorem retryAfter_trusted_at_890 :
    (eleventh 890).1 = .error (.http 429 tooManyAttempts [("Retry-After", "10")]) ∧
      StartsAnew (.every 0) adminGuess (tenSecondsAfter 890) .account := by
  have h : (eleventh 890).1 =
      .error (.http 429 tooManyAttempts [("Retry-After", toString (10 : ℤ))]) := by
    decide +kernel
  have hcond : ∀ c : LoginCounter, c.Trips (.every 0) adminGuess afterTenGuesses 890 →
      1 ≤ c.limit (Env.every 0).settings ∧ RoundsUp (c.left (.every 0) adminGuess afterTenGuesses 890) := by
    decide +kernel
  exact ⟨h, (retryAfter_trusted_iff (.every 0) ∅ Process.oneToken (Prod.ext h rfl)).mpr
    (fun c hc => ⟨(hcond c hc).1, fun _ => (hcond c hc).2⟩) [.wait 10 (by decide)]
    (by simp [StoreUse.Other]) (by decide +kernel) .account (by decide +kernel)⟩

/-- With 10.4 seconds left the attempt is told to wait 10, and after them the
window is still there. -/
theorem retryAfter_too_short :
    (eleventh (4448 / 5)).1 = .error (.http 429 tooManyAttempts [("Retry-After", "10")]) ∧
      LoginCounter.account.Trips (.every 0) adminGuess afterTenGuesses (4448 / 5) ∧
      ¬StartsAnew (.every 0) adminGuess (tenSecondsAfter (4448 / 5)) .account ∧
      ((login (.every 0) ∅ adminGuess (4448 / 5 + 10)).run
        (tenSecondsAfter (4448 / 5)).store).1 =
          .error (.http 429 tooManyAttempts [("Retry-After", "1")]) := by
  refine ⟨by decide +kernel, by decide +kernel, ?_, by decide +kernel⟩
  rintro ⟨hgone, -⟩
  revert hgone
  decide +kernel

end

end CloudMonitor
