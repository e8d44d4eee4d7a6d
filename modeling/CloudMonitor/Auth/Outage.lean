import CloudMonitor.Auth.RedisLogin
import CloudMonitor.Auth.Refusals

/-!
# Logins while Redis calls fail

The same requests, once with some of the calls failing and once with none. A
failed reservation lowers a counter, but a failed release leaves one higher,
and a counter whose first reservations failed begins later and so ends later.
`Harmless` rules out both, and then a failure only ever admits more
(`outage_relaxes`).
-/

namespace CloudMonitor

open Fallible RedisServer

-- ---------------------------------------------------------------------------
-- Counters that another one covers
-- ---------------------------------------------------------------------------

namespace RedisCounter

/-- Where `f` is live, `h` counts as many and lasts as long. -/
def Covered (now : ℚ) (f h : RedisCounter) : Prop :=
  ∀ e, alive (now : WithTop ℚ) f = some e → ∃ e', alive (now : WithTop ℚ) h = some e' ∧
    e.value ≤ e'.value ∧ e.expires ≤ e'.expires

def NonNeg (now : ℚ) (h : RedisCounter) : Prop :=
  ∀ e, alive (now : WithTop ℚ) h = some e → 0 ≤ e.value

/-- A counter that `f` begins now ends after the live one of `h`. -/
def Outlives (window now : ℚ) (f h : RedisCounter) : Prop :=
  alive (now : WithTop ℚ) f = none ∧
    ∃ e ∈ alive (now : WithTop ℚ) h, e.expires < ((now + window : ℚ) : WithTop ℚ)

section
variable {window now now' : ℚ} {f g h : RedisCounter} {amount : ℤ} {fails : Bool}

theorem covered_none : Covered now none h := by
  intro e he
  simp at he

theorem Covered.trans (hfg : Covered now f g) (hgh : Covered now g h) : Covered now f h := by
  intro e he
  obtain ⟨e', he', hv, hx⟩ := hfg e he
  obtain ⟨e'', he'', hv', hx'⟩ := hgh e' he'
  exact ⟨e'', he'', hv.trans hv', hx.trans hx'⟩

theorem Covered.later (hc : Covered now f h) (hle : now ≤ now') : Covered now' f h := by
  intro e he
  obtain ⟨hf, hlive⟩ := alive_eq_some.mp he
  have hle' : (now : WithTop ℚ) ≤ (now' : WithTop ℚ) := WithTop.coe_le_coe.mpr hle
  obtain ⟨e', he', hv, hx⟩ := hc e (alive_eq_some.mpr ⟨hf, hle'.trans_lt hlive⟩)
  exact ⟨e', alive_eq_some.mpr ⟨(alive_eq_some.mp he').1, hlive.trans_le hx⟩, hv, hx⟩

theorem NonNeg.later (hn : NonNeg now h) (hle : now ≤ now') : NonNeg now' h := by
  intro e he
  obtain ⟨hh, hlive⟩ := alive_eq_some.mp he
  have hle' : (now : WithTop ℚ) ≤ (now' : WithTop ℚ) := WithTop.coe_le_coe.mpr hle
  exact hn e (alive_eq_some.mpr ⟨hh, hle'.trans_lt hlive⟩)

theorem alive_bump (hw : 0 < window) (now : ℚ) (amount : ℤ) (o : RedisCounter) :
    alive (now : WithTop ℚ) (some (bump window now amount o)) = some (bump window now amount o) :=
  alive_some_of_lt (begun_live hw now o)

theorem begun_of_live (he : alive (now : WithTop ℚ) h = some e) : begun window now h = e := by
  simp [begun, he]

theorem begun_of_none (he : alive (now : WithTop ℚ) h = none) :
    begun window now h = { value := 0, expires := ((now + window : ℚ) : WithTop ℚ) } := by
  simp [begun, he]

theorem NonNeg.begun (hn : NonNeg now h) : 0 ≤ (begun window now h).value := by
  cases he : alive (now : WithTop ℚ) h with
  | none => rw [begun_of_none he]
  | some e => rw [begun_of_live he]; exact hn e he

theorem Covered.begun_value (hc : Covered now f h) (window : ℚ) (hn : NonNeg now h) :
    (RedisCounter.begun window now f).value ≤ (RedisCounter.begun window now h).value := by
  cases he : alive (now : WithTop ℚ) f with
  | none =>
    rw [begun_of_none he]
    exact hn.begun
  | some e =>
    obtain ⟨e', he', hv, -⟩ := hc e he
    rwa [begun_of_live he, begun_of_live he']

theorem begun_expires_of_not_outlives (ho : ¬Outlives window now f h)
    (hf : alive (now : WithTop ℚ) f = none) :
    ((now + window : ℚ) : WithTop ℚ) ≤ (begun window now h).expires := by
  cases he : alive (now : WithTop ℚ) h with
  | none => rw [begun_of_none he]
  | some e =>
    rw [begun_of_live he]
    exact not_lt.mp fun hlt => ho ⟨hf, e, he, hlt⟩

/-- Both counters change by the same amount. -/
theorem Covered.bump (hw : 0 < window) (hc : Covered now f h)
    (hbegin : alive (now : WithTop ℚ) f = none → 0 ≤ (RedisCounter.begun window now h).value ∧
      ((now + window : ℚ) : WithTop ℚ) ≤ (RedisCounter.begun window now h).expires)
    (amount : ℤ) :
    Covered now (some (RedisCounter.bump window now amount f))
      (some (RedisCounter.bump window now amount h)) := by
  intro e he
  rw [alive_bump hw] at he
  obtain rfl := Option.some.inj he
  refine ⟨_, alive_bump hw now amount h, ?_⟩
  cases hf : alive (now : WithTop ℚ) f with
  | none =>
    obtain ⟨hv, hx⟩ := hbegin hf
    simp only [RedisCounter.bump, begun_of_none hf]
    exact ⟨by omega, hx⟩
  | some e =>
    obtain ⟨e', he', hv, hx⟩ := hc e hf
    simp only [RedisCounter.bump, begun_of_live hf, begun_of_live he']
    exact ⟨by omega, hx⟩

/-- Only the covering counter changes, and stays high enough. -/
theorem Covered.bump_right (hw : 0 < window) (hc : Covered now f h)
    (hv : ∀ e e', alive (now : WithTop ℚ) f = some e → alive (now : WithTop ℚ) h = some e' →
      e.value ≤ e'.value + amount) :
    Covered now f (some (RedisCounter.bump window now amount h)) := by
  intro e he
  obtain ⟨e', he', -, hx⟩ := hc e he
  refine ⟨_, alive_bump hw now amount h, ?_⟩
  simp only [RedisCounter.bump, begun_of_live he']
  exact ⟨hv e e' he he', hx⟩

theorem covered_bump_neg (hw : 0 < window) (he : alive (now : WithTop ℚ) h = some e) :
    Covered now (some (bump window now (-1) h)) h := by
  intro e' he'
  rw [alive_bump hw] at he'
  obtain rfl := Option.some.inj he'
  refine ⟨e, he, ?_⟩
  simp only [bump, begun_of_live he]
  exact ⟨by omega, le_rfl⟩

theorem Covered.reserve (hw : 0 < window) (hc : Covered now f h) (hn : NonNeg now h)
    (hbegin : fails = false → ¬Outlives window now f h) :
    Covered now (added fails window now 1 f) (some (RedisCounter.bump window now 1 h)) := by
  cases fails with
  | false =>
    exact hc.bump hw (fun hf => ⟨hn.begun, begun_expires_of_not_outlives (hbegin rfl) hf⟩) 1
  | true =>
    refine hc.bump_right hw fun e e' he he' => ?_
    obtain ⟨e'', he'', hv, -⟩ := hc e he
    rw [he''] at he'
    obtain rfl := Option.some.inj he'
    omega

theorem value_begun (window now : ℚ) (o : RedisCounter) :
    (begun window now o).value = count now o := by
  unfold begun count
  cases alive (now : WithTop ℚ) o <;> rfl

theorem added_not_live (hw : 0 < window)
    (h : alive (now : WithTop ℚ) (added fails window now amount f) = none) :
    fails = true ∧ alive (now : WithTop ℚ) f = none := by
  cases fails with
  | false => simp [added, alive_bump hw] at h
  | true => exact ⟨rfl, h⟩

/-- A release that reaches the failing run's counter. -/
theorem Covered.giveBack (hw : 0 < window) (hc : Covered now f h) (hn : NonNeg now h)
    (hbegin : ¬Outlives window now f h) :
    Covered now (some (RedisCounter.bump window now (-1) (added fails window now 1 f)))
      (some (RedisCounter.bump window now (-1) (some (RedisCounter.bump window now 1 h)))) := by
  refine (hc.reserve hw hn fun _ => hbegin).bump hw (fun hf => ?_) (-1)
  obtain ⟨-, hf⟩ := added_not_live hw hf
  have hv : 0 ≤ (RedisCounter.begun window now h).value := hn.begun
  rw [begun_of_live (alive_bump hw now 1 h)]
  exact ⟨by simp only [RedisCounter.bump]; omega, begun_expires_of_not_outlives hbegin hf⟩

/-- A release that only reaches the healthy run's counter. -/
theorem Covered.giveBack_failed (hw : 0 < window) (hc : Covered now f h) (hn : NonNeg now h)
    (hbegin : fails = false → ¬Outlives window now f h)
    (hlow : fails = true ∨ count now f < count now h) :
    Covered now (added fails window now 1 f)
      (some (RedisCounter.bump window now (-1) (some (RedisCounter.bump window now 1 h)))) := by
  refine (hc.reserve hw hn hbegin).bump_right hw fun e e' he he' => ?_
  rw [alive_bump hw] at he'
  obtain rfl := Option.some.inj he'
  have hvalue := value_begun window now h
  simp only [RedisCounter.bump]
  cases fails with
  | false =>
    simp only [added, Bool.false_eq_true, if_false, alive_bump hw, Option.some.injEq] at he
    have hlow' : count now f < count now h := hlow.resolve_left (by simp)
    rw [← he, bump_one_value]
    omega
  | true =>
    obtain ⟨e'', he'', hv, -⟩ := hc e he
    rw [begun_of_live he'']
    omega

theorem NonNeg.reserve (hw : 0 < window) (hn : NonNeg now h) :
    NonNeg now (some (RedisCounter.bump window now 1 h)) := by
  intro e he
  rw [alive_bump hw] at he
  obtain rfl := Option.some.inj he
  have hv : 0 ≤ (RedisCounter.begun window now h).value := hn.begun
  simp only [RedisCounter.bump]
  omega

theorem NonNeg.giveBack (hw : 0 < window) (hn : NonNeg now h) :
    NonNeg now
      (some (RedisCounter.bump window now (-1) (some (RedisCounter.bump window now 1 h)))) := by
  intro e he
  rw [alive_bump hw] at he
  obtain rfl := Option.some.inj he
  have hv : 0 ≤ (RedisCounter.begun window now h).value := hn.begun
  rw [RedisCounter.bump, begun_of_live (alive_bump hw now 1 h)]
  simp only [RedisCounter.bump]
  omega

end

end RedisCounter

-- ---------------------------------------------------------------------------
-- The two runs
-- ---------------------------------------------------------------------------

/-- The servers of the two runs, after the same requests. -/
structure OutageRun where
  failing : RedisServer
  healthy : RedisServer
  now : ℚ

/-- No call reserves under a counter that would outlive the healthy one. Where
the failing run passes and releases: its give-back begins no such counter, and,
if the healthy run releases as well, a failed `delete` leaves nothing live and
a failed give-back a lower count. -/
def Harmless (client : RedisClient) (env : Env) (members : Table Member) (body : LoginRequest)
    (now : ℚ) (n : ℕ) (f h : String → RedisCounter) : Prop :=
  (client.fails n = false →
    ¬RedisCounter.Outlives env.loginWindow now (f (body.account env)) (h (body.account env))) ∧
  (client.fails (n + 1) = false →
    ¬RedisCounter.Outlives env.loginWindow now (f body.address) (h body.address)) ∧
  (RedisAdmits client env body now n f → authenticate env members body ≠ none →
    (client.fails (n + 3) = false →
      ¬RedisCounter.Outlives env.loginWindow now (f body.address) (h body.address)) ∧
    (RedisAdmits client.healthy env body now n h →
      (client.fails (n + 2) = true → client.fails n = true ∧
        alive (now : WithTop ℚ) (f (body.account env)) = none) ∧
      (client.fails (n + 3) = true → client.fails (n + 1) = true ∨
        RedisCounter.count now (f body.address) < RedisCounter.count now (h body.address))))

namespace OutageRun

def start (now : ℚ) : OutageRun := { failing := .new, healthy := .new, now := now }

section
variable (client : RedisClient) (env : Env) (members : Table Member)

def login (server : RedisServer) (σ : OutageRun) (e : LoginEvent) :
    Except ApiError Member × RedisServer :=
  ((LoginStore.redis client).login env members e.body (σ.now + e.wait)).run server

def step (σ : OutageRun) (e : LoginEvent) : OutageRun where
  failing := (login client env members σ.failing σ e).2
  healthy := (login client.healthy env members σ.healthy σ e).2
  now := σ.now + e.wait

/-- Refused in the failing run, a request is refused in the healthy one. -/
def Relaxes (σ : OutageRun) (e : LoginEvent) : Prop :=
  statusOf (login client env members σ.failing σ e).1 = 429 →
    statusOf (login client.healthy env members σ.healthy σ e).1 = 429

def HarmlessStep (σ : OutageRun) (e : LoginEvent) : Prop :=
  Harmless client env members e.body (σ.now + e.wait) σ.failing.calls
    (client.counter σ.failing (σ.now + e.wait)) (client.counter σ.healthy (σ.now + e.wait))

/-- Every counter of the failing run is covered by the healthy one. -/
def Inv (σ : OutageRun) : Prop :=
  ∃ f h, Shows client σ.failing f ∧ Shows client.healthy σ.healthy h ∧
    (∀ key, RedisCounter.Covered σ.now (f key) (h key)) ∧
    ∀ key, RedisCounter.NonNeg σ.now (h key)

end

section
variable {client : RedisClient} {env : Env} {members : Table Member} {body : LoginRequest}
  {now : ℚ} {n k : ℕ} {f h f' h' : String → RedisCounter} {a a' : Except ApiError Member}

theorem inv_start (now : ℚ) : Inv client (start now) :=
  ⟨_, _, shows_new client, shows_new client.healthy, fun _ => RedisCounter.covered_none,
    fun _ e he => by simp at he⟩

theorem not_refused_without_window (hw : env.loginWindow ≤ 0) {σ : OutageRun} {e : LoginEvent} :
    statusOf (login client env members σ.failing σ e).1 ≠ 429 := by
  have hanswer := login_unlimited client hw members e.body (σ.now + e.wait) σ.failing
  rcases hanswer with ⟨s', hrun⟩ | ⟨member, s', hrun⟩
  · simp [login, hrun, statusOf, invalidLogin, ApiError.status]
  · simp [login, hrun, statusOf]

theorem harmless_live :
    Harmless client env members body now n (fun key => alive (now : WithTop ℚ) (f key))
        (fun key => alive (now : WithTop ℚ) (h key)) ↔
      Harmless client env members body now n f h := by
  simp only [Harmless, RedisCounter.Outlives, RedisAdmits, RedisCounter.reserved,
    RedisCounter.count, alive_alive (le_refl (now : WithTop ℚ))]

theorem refused_iff (ho : RedisOutcome client env body now members n f a f') :
    statusOf a = 429 ↔ ¬RedisAdmits client env body now n f := by
  cases ho with
  | refused retries hadm => exact iff_of_true rfl hadm
  | failed hadm _ => simp [hadm, statusOf, invalidLogin, ApiError.status]
  | passed member hadm _ => simp [hadm, statusOf]

theorem reserved_le (fails : Bool) {o o' : RedisCounter} (hc : RedisCounter.Covered now o o')
    (hn : RedisCounter.NonNeg now o') :
    RedisCounter.reserved fails now o ≤ RedisCounter.reserved false now o' := by
  have hle := hc.begun_value 0 hn
  have hpos : 0 ≤ (RedisCounter.begun 0 now o').value := hn.begun
  rw [RedisCounter.value_begun] at hle hpos
  rw [RedisCounter.value_begun] at hle
  cases fails <;> simp only [RedisCounter.reserved, Bool.false_eq_true, if_true, if_false] <;> omega

/-- What the healthy run admits, the failing run admits. -/
theorem admits_of_covered (hc : ∀ key, RedisCounter.Covered now (f key) (h key))
    (hn : ∀ key, RedisCounter.NonNeg now (h key))
    (hadm : RedisAdmits client.healthy env body now k h) :
    RedisAdmits client env body now n f :=
  ⟨(reserved_le _ (hc _) (hn _)).trans hadm.1, (reserved_le _ (hc _) (hn _)).trans hadm.2⟩

theorem covered_reserved (hw : (0 : ℚ) < env.loginWindow)
    (hc : ∀ key, RedisCounter.Covered now (f key) (h key))
    (hn : ∀ key, RedisCounter.NonNeg now (h key))
    (hh : Harmless client env members body now n f h) (key : String) :
    RedisCounter.Covered now (reservedCounters client env body now n f key)
      (reservedCounters client.healthy env body now k h key) := by
  by_cases hx : key = body.address
  · subst hx
    rw [reservedCounters_address, reservedCounters_address]
    exact (hc _).reserve hw (hn _) hh.2.1
  · by_cases ha : key = body.account env
    · subst ha
      rw [reservedCounters_account, reservedCounters_account]
      exact (hc _).reserve hw (hn _) hh.1
    · rw [reservedCounters_other ha hx, reservedCounters_other ha hx]
      exact hc key

theorem nonNeg_reserved (hw : (0 : ℚ) < env.loginWindow)
    (hn : ∀ key, RedisCounter.NonNeg now (h key)) (key : String) :
    RedisCounter.NonNeg now (reservedCounters client.healthy env body now k h key) := by
  by_cases hx : key = body.address
  · subst hx
    rw [reservedCounters_address]
    exact (hn _).reserve hw
  · by_cases ha : key = body.account env
    · subst ha
      rw [reservedCounters_account]
      exact (hn _).reserve hw
    · rw [reservedCounters_other ha hx]
      exact hn key

theorem nonNeg_released (hw : (0 : ℚ) < env.loginWindow)
    (hn : ∀ key, RedisCounter.NonNeg now (h key)) (key : String) :
    RedisCounter.NonNeg now (releasedCounters client.healthy env body now (k + 2)
      (reservedCounters client.healthy env body now k h) key) := by
  by_cases hx : key = body.address
  · subst hx
    rw [releasedCounters_address, reservedCounters_address]
    exact (hn _).giveBack hw
  · by_cases ha : key = body.account env
    · subst ha
      rw [releasedCounters_account]
      intro e he
      simp [RedisCounter.cleared, RedisClient.healthy] at he
    · rw [releasedCounters_other ha hx, reservedCounters_other ha hx]
      exact hn key

/-- The failing run releases, the healthy run has refused. -/
theorem covered_released_refused (hw : (0 : ℚ) < env.loginWindow)
    (hc : ∀ key, RedisCounter.Covered now (f key) (h key))
    (hn : ∀ key, RedisCounter.NonNeg now (h key))
    (hh : Harmless client env members body now n f h)
    (hbegin : client.fails (n + 3) = false →
      ¬RedisCounter.Outlives env.loginWindow now (f body.address) (h body.address))
    (key : String) :
    RedisCounter.Covered now (releasedCounters client env body now (n + 2)
        (reservedCounters client env body now n f) key)
      (reservedCounters client.healthy env body now k h key) := by
  have hres := covered_reserved (k := k) hw hc hn hh
  by_cases hx : key = body.address
  · subst hx
    rw [releasedCounters_address]
    cases hfail : client.fails (n + 3) with
    | true => exact hres _
    | false =>
      rw [reservedCounters_address, reservedCounters_address]
      exact ((hc _).giveBack hw (hn _) (hbegin hfail)).trans
        (RedisCounter.covered_bump_neg hw (RedisCounter.alive_bump hw now 1 _))
  · by_cases ha : key = body.account env
    · subst ha
      rw [releasedCounters_account]
      cases client.fails (n + 2) with
      | true => exact hres (body.account env)
      | false => exact RedisCounter.covered_none
    · rw [releasedCounters_other ha hx]
      exact hres key

/-- Both runs release. -/
theorem covered_released (hw : (0 : ℚ) < env.loginWindow)
    (hc : ∀ key, RedisCounter.Covered now (f key) (h key))
    (hn : ∀ key, RedisCounter.NonNeg now (h key))
    (hh : Harmless client env members body now n f h)
    (hbegin : client.fails (n + 3) = false →
      ¬RedisCounter.Outlives env.loginWindow now (f body.address) (h body.address))
    (hclear : client.fails (n + 2) = true → client.fails n = true ∧
      alive (now : WithTop ℚ) (f (body.account env)) = none)
    (hlow : client.fails (n + 3) = true → client.fails (n + 1) = true ∨
      RedisCounter.count now (f body.address) < RedisCounter.count now (h body.address))
    (key : String) :
    RedisCounter.Covered now (releasedCounters client env body now (n + 2)
        (reservedCounters client env body now n f) key)
      (releasedCounters client.healthy env body now (k + 2)
        (reservedCounters client.healthy env body now k h) key) := by
  have hres := covered_reserved (k := k) hw hc hn hh
  by_cases hx : key = body.address
  · subst hx
    rw [releasedCounters_address, releasedCounters_address, reservedCounters_address,
      reservedCounters_address]
    cases hfail : client.fails (n + 3) with
    | true => exact (hc _).giveBack_failed hw (hn _) hh.2.1 (hlow hfail)
    | false => exact (hc _).giveBack hw (hn _) (hbegin hfail)
  · by_cases ha : key = body.account env
    · subst ha
      rw [releasedCounters_account, releasedCounters_account]
      cases hfail : client.fails (n + 2) with
      | true =>
        obtain ⟨hdropped, hgone⟩ := hclear hfail
        rw [reservedCounters_account, hdropped]
        intro e he
        exact absurd (hgone.symm.trans he) (by simp)
      | false => exact RedisCounter.covered_none
    · rw [releasedCounters_other ha hx, releasedCounters_other ha hx]
      exact hres key

theorem covered_after (hw : (0 : ℚ) < env.loginWindow)
    (hc : ∀ key, RedisCounter.Covered now (f key) (h key))
    (hn : ∀ key, RedisCounter.NonNeg now (h key))
    (hh : Harmless client env members body now n f h)
    (ho : RedisOutcome client env body now members n f a f')
    (ho' : RedisOutcome client.healthy env body now members k h a' h') :
    (∀ key, RedisCounter.Covered now (f' key) (h' key)) ∧
      ∀ key, RedisCounter.NonNeg now (h' key) := by
  cases ho' with
  | refused retries' hadm' =>
    refine ⟨?_, nonNeg_reserved hw hn⟩
    cases ho with
    | refused | failed => exact covered_reserved hw hc hn hh
    | passed member hadm hm =>
      exact covered_released_refused hw hc hn hh (hh.2.2 hadm (by simp [hm])).1
  | failed hadm' hm' =>
    refine ⟨?_, nonNeg_reserved hw hn⟩
    cases ho with
    | refused | failed => exact covered_reserved hw hc hn hh
    | passed member hadm hm => simp [hm'] at hm
  | passed member' hadm' hm' =>
    refine ⟨?_, nonNeg_released hw hn⟩
    cases ho with
    | refused retries hadm => exact absurd (admits_of_covered hc hn hadm') hadm
    | failed hadm hm => simp [hm'] at hm
    | passed member hadm hm =>
      obtain ⟨hbegin, hrelease⟩ := hh.2.2 hadm (by simp [hm])
      obtain ⟨hclear, hlow⟩ := hrelease hadm'
      exact covered_released hw hc hn hh hbegin hclear hlow

end

section
variable {client : RedisClient} {env : Env} {members : Table Member} {σ : OutageRun}

theorem Inv.step (hw : 0 < env.loginWindow) (hinv : Inv client σ) (e : LoginEvent)
    (hh : HarmlessStep client env members σ e) :
    Relaxes client env members σ e ∧ Inv client (step client env members σ e) := by
  obtain ⟨f, h, hf, hh', hc, hn⟩ := hinv
  have hlater : σ.now ≤ σ.now + e.wait := le_add_of_nonneg_right e.wait_nonneg
  replace hc := fun key => (hc key).later hlater
  replace hn := fun key => (hn key).later hlater
  have hharm : Harmless client env members e.body (σ.now + e.wait) σ.failing.calls f h := by
    have hcf : client.counter σ.failing (σ.now + e.wait) =
        fun key => alive ((σ.now + e.wait : ℚ) : WithTop ℚ) (f key) := funext fun _ => hf.counter
    have hch : client.counter σ.healthy (σ.now + e.wait) =
        fun key => alive ((σ.now + e.wait : ℚ) : WithTop ℚ) (h key) := funext fun _ => hh'.counter
    rw [HarmlessStep, hcf, hch] at hh
    exact harmless_live.mp hh
  obtain ⟨a, s, f', hrun, hs, ho⟩ := login_outcome hf hw members e.body (σ.now + e.wait)
  obtain ⟨a', s', h', hrun', hs', ho'⟩ := login_outcome hh' hw members e.body (σ.now + e.wait)
  have hwq : (0 : ℚ) < env.loginWindow := Int.cast_pos.mpr hw
  obtain ⟨hc', hn'⟩ := covered_after hwq hc hn hharm ho ho'
  constructor
  · intro hrefused
    simp only [login, hrun, hrun'] at hrefused ⊢
    rw [refused_iff ho] at hrefused
    rw [refused_iff ho']
    exact fun hadm => hrefused (admits_of_covered hc hn hadm)
  · refine ⟨f', h', ?_, ?_, hc', hn'⟩
    · simpa only [OutageRun.step, login, hrun] using hs
    · simpa only [OutageRun.step, login, hrun'] using hs'

/-- If no failing call leaves a counter higher or longer than it would be, no
request is refused that would pass if all calls worked. -/
theorem outage_relaxes (client : RedisClient) (env : Env) (members : Table Member) (now : ℚ)
    (events : List LoginEvent)
    (h : Along (step client env members) (HarmlessStep client env members) (start now) events) :
    Along (step client env members) (Relaxes client env members) (start now) events := by
  rcases lt_or_ge 0 env.loginWindow with hw | hw
  · exact Along.imp (fun _ e hinv hh => hinv.step hw e hh) (inv_start now) h
  · exact Along.imp (P := fun _ => True)
      (fun _ _ _ _ => ⟨fun hrefused => absurd hrefused (not_refused_without_window hw), trivial⟩)
      trivial h

end

-- ---------------------------------------------------------------------------
-- Two outages
-- ---------------------------------------------------------------------------

instance (window now : ℚ) (f h : RedisCounter) :
    Decidable (RedisCounter.Outlives window now f h) :=
  inferInstanceAs (Decidable (_ ∧ _))

instance (client : RedisClient) (env : Env) (body : LoginRequest) (now : ℚ) (n : ℕ)
    (m : String → RedisCounter) : Decidable (RedisAdmits client env body now n m) :=
  inferInstanceAs (Decidable (_ ∧ _))

instance (client : RedisClient) (env : Env) (members : Table Member) (σ : OutageRun)
    (e : LoginEvent) : Decidable (HarmlessStep client env members σ e) :=
  inferInstanceAs (Decidable (_ ∧ _ ∧ (_ → _ → (_ → _) ∧ (_ → (_ → _) ∧ (_ → _)))))

instance (client : RedisClient) (env : Env) (members : Table Member) (σ : OutageRun)
    (e : LoginEvent) : Decidable (Relaxes client env members σ e) :=
  inferInstanceAs (Decidable (_ → _))

def failingAt (calls : List ℕ) : RedisClient where
  keyPrefix := "cims:"
  fails n := calls.contains n

def administrator : Member := ⟨1, "admin@techvalley.vn", "admin123!", "Admin", .admin⟩

def staff : Table Member where
  rows := [administrator]
  sorted := List.pairwise_singleton _ _

def wrong : LoginEvent := LoginRun.guess "admin@techvalley.vn"

def right : LoginEvent :=
  { wrong with body := { wrong.body with password := "admin123!" } }

/-- The second guess goes uncounted, and is let through for it. -/
theorem outage_relaxes_unreserved :
    Along (step (failingAt [2]) (.withLimits 1 9) staff)
        (HarmlessStep (failingAt [2]) (.withLimits 1 9) staff) (start 0) [wrong, wrong, wrong] ∧
      Along (step (failingAt [2]) (.withLimits 1 9) staff)
        (Relaxes (failingAt [2]) (.withLimits 1 9) staff) (start 0) [wrong, wrong, wrong] :=
  ⟨by decide +kernel, outage_relaxes _ _ _ _ _ (by decide +kernel)⟩

/-- The account's counter is not deleted after its login, so the next wrong
password is refused. -/
theorem outage_refuses :
    ¬Along (step (failingAt [2]) (.withLimits 1 9) staff)
      (Relaxes (failingAt [2]) (.withLimits 1 9) staff) (start 0) [right, wrong] := by
  decide +kernel

end OutageRun

end CloudMonitor
