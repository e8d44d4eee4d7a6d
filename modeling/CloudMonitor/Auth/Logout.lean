import CloudMonitor.Auth.Revocation
import CloudMonitor.Store.Keys
import CloudMonitor.Lib.Schedule
import Mathlib.Tactic.Linarith
import Mathlib.Tactic.Ring

/-!
# What a logout is worth

Whatever the process does after a logout, an entry of the denylist stays until
it expires. The entry lasts for whole seconds, so it reaches the end of the
token exactly when the logout happens on a whole second.
-/

namespace CloudMonitor

open Fallible MemoryStore

structure Process where
  store : MemoryStore
  now : ℚ

inductive StoreUse
  | wait (d : ℚ) (nonneg : 0 ≤ d)
  | login (body : LoginRequest)
  | request (credentials : Option String)
  | logout (credentials : Option String)
  | readDiagnosis (instanceId : ℤ) (digest : String)
  | cacheDiagnosis (instanceId : ℤ) (digest text : String) (ttl : ℤ)

def StoreUse.duration : StoreUse → ℚ
  | .wait d _ => d
  | _ => 0

theorem StoreUse.duration_nonneg (e : StoreUse) : 0 ≤ e.duration := by
  cases e with
  | wait d hd => exact hd
  | _ => exact le_rfl

namespace Process

variable (env : Env) (members : Table Member) (tokens : TokenEnv)

def use (now : ℚ) : StoreUse → MemoryStore → MemoryStore
  | .wait _ _, s => s
  | .login body, s => ((login env members body now).run s).2
  | .request credentials, s => ((getTokenClaims tokens credentials now).run s).2
  | .logout credentials, s => ((CloudMonitor.logout tokens credentials now).run s).2
  | .readDiagnosis instanceId digest, s =>
    ((MemoryStore.get (diagnosisKey instanceId digest) now).run s).2
  | .cacheDiagnosis instanceId digest text ttl, s =>
    ((MemoryStore.set (diagnosisKey instanceId digest) text ttl now).run s).2

def step (σ : Process) (e : StoreUse) : Process where
  store := use env members tokens σ.now e σ.store
  now := σ.now + e.duration

/-- A request with this token is turned away, as expired or as revoked. -/
def Rejected (σ : Process) (token : String) : Prop :=
  ((getTokenClaims tokens (some token) σ.now).run σ.store).1 = .error tokenExpired ∨
    ((getTokenClaims tokens (some token) σ.now).run σ.store).1 = .error tokenRevoked

def loggedOut (s : MemoryStore) (token : String) (now : ℚ) : Process where
  store := ((CloudMonitor.logout tokens (some token) now).run s).2
  now := now

end Process

-- ---------------------------------------------------------------------------
-- Nothing else touches the denylist
-- ---------------------------------------------------------------------------

/-- From `now` on the entry under `key` is what it was. -/
def Unmoved (now : ℚ) (key : String) (s s' : MemoryStore) : Prop :=
  ∀ t, now ≤ t → s'.look t key = s.look t key

section
variable {now : ℚ} {key k : String} {s s' : MemoryStore} {env : Env} {members : Table Member}
  {tokens : TokenEnv}

theorem Unmoved.refl (s : MemoryStore) : Unmoved now key s s := fun _ _ => rfl

theorem Unmoved.trans {s'' : MemoryStore} (h : Unmoved now key s s') (h' : Unmoved now key s' s'') :
    Unmoved now key s s'' := fun t ht => (h' t ht).trans (h t ht)

theorem Unmoved.of_keeps (h : Keeps now s s') : Unmoved now key s s' := fun t ht => h t ht key

theorem Unmoved.of_writes (h : Writes now k o s s') (hk : k ≠ key) : Unmoved now key s s' :=
  fun _ ht => h.other ht hk.symm

theorem unmoved_bind {x : Op α} {f : α → Op β} (hx : Within (Unmoved now key) x)
    (hf : ∀ a, Within (Unmoved now key) (f a)) : Within (Unmoved now key) (x >>= f) :=
  Within.bind (R := Unmoved now key) Unmoved.trans hx hf

theorem unmoved_add (amount ttl : ℤ) (hk : k ≠ key) :
    Within (Unmoved now key) (add k amount ttl now) :=
  fun s _ ht => (add_usesOnly k now amount ttl).other s ht hk.symm

theorem unmoved_delete (hk : k ≠ key) : Within (Unmoved now key) (delete k) :=
  fun s _ ht => (delete_usesOnly k now (W := fun _ => False)).other s ht hk.symm

theorem unmoved_login (body : LoginRequest) (haccount : body.account env ≠ key)
    (hip : body.address ≠ key) :
    Within (Unmoved now key) (login env members body now) := by
  refine unmoved_bind ?_ fun _ => ?_
  · refine unmoved_bind (unmoved_add _ _ haccount) fun _ => ?_
    refine unmoved_bind (unmoved_add _ _ hip) fun _ => ?_
    exact Within.ite (Within.pure Unmoved.refl _) (Within.raise Unmoved.refl _)
  · cases authenticate env members body with
    | none => exact Within.raise Unmoved.refl _
    | some m =>
      refine unmoved_bind ?_ fun _ => Within.pure Unmoved.refl _
      refine unmoved_bind (unmoved_delete haccount) fun _ => ?_
      exact unmoved_bind (unmoved_add _ _ hip) fun _ => Within.pure Unmoved.refl _

theorem unmoved_logout_of_ne (credentials : Option String)
    (hkey : ∀ jti, revokedKey jti ≠ key) :
    Within (Unmoved now key) (logout tokens credentials now) := by
  refine unmoved_bind (fun s => Unmoved.of_keeps (getTokenClaims_keeps tokens now credentials s))
    fun claims s => ?_
  obtain ⟨s', hrun, ⟨-, hw⟩ | ⟨-, hk⟩⟩ := revokeToken_run tokens claims now s
  · rw [hrun]
    exact Unmoved.of_writes hw (hkey claims.jti)
  · rw [hrun]
    exact Unmoved.of_keeps hk

/-- A logout does not touch an entry of the denylist that is there: its own
token is turned away. -/
theorem unmoved_logout (credentials : Option String) {jti : String}
    (hr : (s.look now (revokedKey jti)).isSome) :
    Unmoved now (revokedKey jti) s ((logout tokens credentials now).run s).2 := by
  have hk := getTokenClaims_keeps tokens now credentials s
  cases hg : (getTokenClaims tokens credentials now).run s with
  | mk r s₁ =>
    rw [hg] at hk
    have hmoved : Unmoved now (revokedKey jti) s s₁ := Unmoved.of_keeps hk
    cases r with
    | error e => simpa [logout, hg] using hmoved
    | ok c =>
      obtain ⟨_, -, -, -, hlook⟩ := getTokenClaims_ok (congrArg Prod.fst hg)
      have hjti : revokedKey c.jti ≠ revokedKey jti := by
        intro h
        rw [← h, hlook] at hr
        simp at hr
      obtain ⟨s₂, hrun, ⟨-, hw⟩ | ⟨-, hk₂⟩⟩ := revokeToken_run tokens c now s₁
      · simpa [logout, hg, hrun] using hmoved.trans (Unmoved.of_writes hw hjti)
      · simpa [logout, hg, hrun] using hmoved.trans (Unmoved.of_keeps hk₂)

theorem unmoved_use (e : StoreUse) {jti : String} (hr : (s.look now (revokedKey jti)).isSome) :
    Unmoved now (revokedKey jti) s (Process.use env members tokens now e s) := by
  cases e with
  | wait => exact Unmoved.refl s
  | login body =>
    exact unmoved_login body (accountKey_ne_revokedKey env body.email jti)
      (ipKey_ne_revokedKey body.clientIp jti) s
  | request credentials => exact Unmoved.of_keeps (getTokenClaims_keeps tokens now credentials s)
  | logout credentials => exact unmoved_logout credentials hr
  | readDiagnosis instanceId digest =>
    obtain ⟨s', hrun, h⟩ := get_run (diagnosisKey instanceId digest) now s
    simpa [Process.use, hrun] using Unmoved.of_keeps h
  | cacheDiagnosis instanceId digest text ttl =>
    obtain ⟨s', hrun, h⟩ := set_run (diagnosisKey instanceId digest) text ttl now s
    simpa [Process.use, hrun] using Unmoved.of_writes h
      (diagnosisKey_ne_revokedKey instanceId digest jti)

end

-- ---------------------------------------------------------------------------
-- After a logout
-- ---------------------------------------------------------------------------

namespace Process

variable {env : Env} {members : Table Member} {tokens : TokenEnv} {σ : Process} {jti token : String}
  {until_ now : ℚ}
  {c : Claims} {s : MemoryStore}

def RevokedUntil (jti : String) (until_ : ℚ) (σ : Process) : Prop :=
  ∀ t, σ.now ≤ t → t < until_ → (σ.store.look t (revokedKey jti)).isSome

theorem RevokedUntil.step (h : RevokedUntil jti until_ σ) (e : StoreUse) :
    RevokedUntil jti until_ (σ.step env members tokens e) := by
  intro t ht hu
  have hle : σ.now ≤ σ.now + e.duration := le_add_of_nonneg_right e.duration_nonneg
  have hnow : (σ.store.look σ.now (revokedKey jti)).isSome :=
    h σ.now le_rfl (hle.trans_lt (ht.trans_lt hu))
  have hkept : ((σ.step env members tokens e).store.look t (revokedKey jti)) =
      σ.store.look t (revokedKey jti) :=
    unmoved_use e hnow t (hle.trans ht)
  rw [hkept]
  exact h t (hle.trans ht) hu

theorem rejected_iff (hv : tokens.verify token = some c) :
    Rejected tokens σ token ↔
      (c.exp : ℚ) ≤ tokens.wall σ.now ∨ (σ.store.look σ.now (revokedKey c.jti)).isSome := by
  obtain ⟨s', hrun, -⟩ := getTokenClaims_run hv σ.store σ.now
  unfold Rejected
  rw [hrun]
  by_cases he : (c.exp : ℚ) ≤ tokens.wall σ.now
  · simp [he]
  · by_cases hr : (σ.store.look σ.now (revokedKey c.jti)).isSome
    · simp [he, hr]
    · simp [he, hr]

theorem play_revokedUntil (h : RevokedUntil jti until_ σ) (events : List StoreUse) :
    RevokedUntil jti until_ (play (step env members tokens) σ events) :=
  play_keeps (fun _ e hσ => hσ.step e) events h

/-- What the denylist holds right after an accepted logout: the entry lasts
for the whole seconds of the token's remaining life, if there are any. -/
theorem loggedOut_look (hv : tokens.verify token = some c)
    (hok : ((CloudMonitor.logout tokens (some token) now).run s).1 = .ok ()) :
    tokens.wall now < c.exp ∧
      ∀ t, now ≤ t →
        (((loggedOut tokens s token now).store.look t (revokedKey c.jti)).isSome ↔
          t < now + ⌊(c.exp : ℚ) - tokens.wall now⌋) := by
  obtain ⟨c', s', hv', hexp, hlook, hkeep, hstore⟩ := logout_ok hok
  obtain rfl : c' = c := Option.some.inj (hv'.symm.trans hv)
  have hleft : 0 ≤ (c'.exp : ℚ) - tokens.wall now := by linarith
  have hfloor : truncate ((c'.exp : ℚ) - tokens.wall now) = ⌊(c'.exp : ℚ) - tokens.wall now⌋ :=
    truncate_of_nonneg hleft
  refine ⟨hexp, fun t ht => ?_⟩
  obtain ⟨s'', hrun, hcases⟩ := revokeToken_run tokens c' now s'
  have hs : (loggedOut tokens s token now).store = s'' := by
    rw [loggedOut, hstore, hrun]
  rw [hs]
  rw [hfloor] at hcases
  rcases hcases with ⟨hpos, hw⟩ | ⟨hzero, hk⟩
  · rw [hw.same ht]
    by_cases hlt : t < now + ⌊(c'.exp : ℚ) - tokens.wall now⌋
    · simp [alive_some_of_lt, hlt]
    · have hnone : alive t (some (⟨"1", now + ⌊(c'.exp : ℚ) - tokens.wall now⌋⟩ : Entry String ℚ)) =
          none := by simpa [alive_eq_none] using not_lt.mp hlt
      simp [hnone, hlt]
  · have hgone : s''.look t (revokedKey c'.jti) = none := by
      rw [hk t ht, hkeep t ht]
      exact look_none_of_le ht hlook
    have hle : now + ⌊(c'.exp : ℚ) - tokens.wall now⌋ ≤ t := by
      have : ((⌊(c'.exp : ℚ) - tokens.wall now⌋ : ℤ) : ℚ) ≤ 0 := by exact_mod_cast hzero
      linarith
    simp [hgone, hle]

/-- Between the end of the entry and the end of the token there is an instant
at which the token is let in. -/
theorem loggedOut_accepted (env : Env) (members : Table Member) (hv : tokens.verify token = some c)
    (hok : ((CloudMonitor.logout tokens (some token) now).run s).1 = .ok ())
    (hgap : ((⌊(c.exp : ℚ) - tokens.wall now⌋ : ℤ) : ℚ) < (c.exp : ℚ) - tokens.wall now) :
    ∃ (d : ℚ) (hd : 0 ≤ d), now < now + d ∧
      ¬Rejected tokens (step env members tokens (loggedOut tokens s token now) (.wait d hd))
        token := by
  obtain ⟨hexp, hlook⟩ := loggedOut_look hv hok
  have hnonneg : (0 : ℚ) ≤ ⌊(c.exp : ℚ) - tokens.wall now⌋ := by
    have : 0 ≤ ⌊(c.exp : ℚ) - tokens.wall now⌋ := Int.floor_nonneg.mpr (by linarith)
    exact_mod_cast this
  obtain ⟨d, hd, hd'⟩ := exists_between hgap
  refine ⟨d, hnonneg.trans hd.le, by linarith, ?_⟩
  rw [rejected_iff hv]
  simp only [step, loggedOut, StoreUse.duration, use]
  rintro (hover | hrevoked)
  · simp only [TokenEnv.wall] at hover hd'
    linarith
  · have := (hlook (now + d) (by linarith)).mp hrevoked
    linarith

/-- The entry of a logout on a whole second ends with the token. -/
theorem loggedOut_rejected (env : Env) (members : Table Member) (hv : tokens.verify token = some c)
    (hok : ((CloudMonitor.logout tokens (some token) now).run s).1 = .ok ())
    (hwhole : ((⌊(c.exp : ℚ) - tokens.wall now⌋ : ℤ) : ℚ) = (c.exp : ℚ) - tokens.wall now)
    (events : List StoreUse) :
    Rejected tokens (play (step env members tokens) (loggedOut tokens s token now) events)
      token := by
  obtain ⟨-, hlook⟩ := loggedOut_look hv hok
  have hrevoked : RevokedUntil c.jti (now + ((c.exp : ℚ) - tokens.wall now))
      (loggedOut tokens s token now) := by
    intro t ht hu
    exact (hlook t ht).mpr (by rw [hwhole]; exact hu)
  have hafter : RevokedUntil c.jti _ (play (step env members tokens) _ events) :=
    play_revokedUntil hrevoked events
  rw [rejected_iff hv]
  rcases le_or_gt (c.exp : ℚ)
    (tokens.wall (play (step env members tokens) (loggedOut tokens s token now) events).now)
    with hle | hgt
  · exact .inl hle
  · refine .inr (hafter _ le_rfl ?_)
    simp only [TokenEnv.wall] at hgt ⊢
    linarith

/-- After a logout the token is never let in again, whatever happens, exactly
if the logout was on a whole second of the wall clock. -/
theorem logout_final_iff (env : Env) (members : Table Member) (hv : tokens.verify token = some c)
    (hok : ((CloudMonitor.logout tokens (some token) now).run s).1 = .ok ()) :
    (∀ events : List StoreUse,
        now < (play (step env members tokens) (loggedOut tokens s token now) events).now →
          Rejected tokens (play (step env members tokens) (loggedOut tokens s token now) events)
            token) ↔
      ∃ n : ℤ, tokens.wall now = n := by
  constructor
  · intro h
    by_contra hfrac
    have hgap : ((⌊(c.exp : ℚ) - tokens.wall now⌋ : ℤ) : ℚ) < (c.exp : ℚ) - tokens.wall now := by
      refine lt_of_le_of_ne (Int.floor_le _) fun heq => ?_
      refine hfrac ⟨c.exp - ⌊c.exp - tokens.wall now⌋, ?_⟩
      push_cast
      linarith
    obtain ⟨d, hd, hlater, haccepted⟩ := loggedOut_accepted env members hv hok hgap
    exact haccepted (h [.wait d hd] hlater)
  · rintro ⟨n, hn⟩ events -
    have hwhole : ((⌊(c.exp : ℚ) - tokens.wall now⌋ : ℤ) : ℚ) = (c.exp : ℚ) - tokens.wall now := by
      rw [hn, ← Int.cast_sub, Int.floor_intCast]
    exact loggedOut_rejected env members hv hok hwhole events

-- ---------------------------------------------------------------------------
-- One token that expires at the instant 100
-- ---------------------------------------------------------------------------

instance : Decidable (Rejected tokens σ token) := inferInstanceAs (Decidable (_ ∨ _))

def oneToken : TokenEnv where
  offset := 0
  verify token :=
    if token = "token" then
      some ⟨"1", "admin@techvalley.vn", "ADMIN", 0, 100, "a3f1"⟩
    else none

theorem logout_final_at_90 :
    Rejected oneToken
      (play (step (.every 0) ∅ oneToken) (loggedOut oneToken (.new 90) "token" 90)
        [.wait 5 (by decide)]) "token" :=
  (logout_final_iff (.every 0) ∅ rfl (by decide +kernel)).mpr
    ⟨90, by simp [TokenEnv.wall, oneToken]⟩
    [.wait 5 (by decide)] (by decide +kernel)

/-- Logged out at 90.5, the entry ends at 99.5; at 99.75 the token works. -/
theorem logout_not_final :
    ((CloudMonitor.logout oneToken (some "token") (181 / 2)).run (.new (181 / 2))).1 = .ok () ∧
      ¬Rejected oneToken
        (play (step (.every 0) ∅ oneToken) (loggedOut oneToken (.new (181 / 2)) "token" (181 / 2))
          [.wait (37 / 4) (by decide +kernel)]) "token" := by
  decide +kernel

end Process

end CloudMonitor
