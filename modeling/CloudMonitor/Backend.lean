import CloudMonitor.Auth.Logout
import CloudMonitor.Auth.Tokens
import CloudMonitor.Effects
import CloudMonitor.Lib.TtlMap
import CloudMonitor.Seed

/-!
# The API behind its tokens

One process with its database and its store. Members log in, use their tokens
and log out, and what the other features put into the store comes in between.
A logout checks its token and revokes it at two instants. Each token's session
is kept in a book beside, which says what every request with it is answered.
-/

namespace CloudMonitor

open Fallible MemoryStore

/-- A login that got a token: the how-manieth, for whom, with what, when. -/
structure Grant where
  serial : ℕ
  member : Member
  body : LoginRequest
  since : ℚ
  deriving DecidableEq

structure TokenResponse where
  accessToken : String
  tokenType : String := "bearer"
  role : Role
  name : String
  deriving DecidableEq

inductive BackendEvent
  | wait (d : ℚ) (nonneg : 0 ≤ d)
  | login (body : LoginRequest)
  | api (credentials : Option String) (req : MemberRequest)
  | checkLogout (i : ℕ) (credentials : Option String)
  | revoke (i : ℕ)
  | readDiagnosis (instanceId : ℤ) (digest : String)
  | cacheDiagnosis (instanceId : ℤ) (digest text : String) (ttl : ℤ)

def BackendEvent.credentials : BackendEvent → Option String
  | .api credentials _ => credentials
  | .checkLogout _ credentials => credentials
  | _ => none

inductive BackendReply
  | nothing
  | token (response : Except ApiError TokenResponse)
  | payload (response : Except ApiError Payload)
  | left (response : Except ApiError Unit)
  deriving DecidableEq

/-- `leaving` has the logouts that have checked their token. `grants` and
`closed` are the book: no answer depends on them. -/
structure Backend where
  world : World
  store : MemoryStore
  now : ℚ
  drawn : ℕ
  leaving : ℕ → Option Claims
  grants : List Grant
  closed : String → Option ℚ

def Grant.claims (issuer : TokenIssuer) (g : Grant) : Claims :=
  issuer.accessClaims g.serial g.member g.since

def Grant.token (issuer : TokenIssuer) (g : Grant) : String :=
  issuer.createAccessToken g.serial g.member g.since

/-- `get_current_member` with the claims it depends on, and the endpoint. -/
def answerClaims (env : Env) (payload : Claims) (req : MemberRequest) : Svc Payload :=
  match readInt? payload.sub with
  | none => raise .internal
  | some sub => answer env sub (.ofMember req)

namespace Backend

/-- A process that starts with these rows. Tokens of an earlier life of the
process are still good. -/
def start (world : World) (now : ℚ) (drawn : ℕ) (grants : List Grant) : Backend where
  world := world
  store := .new now
  now := now
  drawn := drawn
  leaving _ := none
  grants := grants
  closed _ := none

section
variable (env : Env) (issuer : TokenIssuer)

def login (σ : Backend) (body : LoginRequest) : BackendReply × Backend :=
  let r := (CloudMonitor.login env σ.world.db.members body σ.now).run σ.store
  match r.1 with
  | .error e => (.token (.error e), { σ with store := r.2 })
  | .ok member =>
    (.token (.ok
      { accessToken := issuer.createAccessToken σ.drawn member σ.now
        role := member.role
        name := member.name }),
      { σ with
        store := r.2
        drawn := σ.drawn + 1
        grants := ⟨σ.drawn, member, body, σ.now⟩ :: σ.grants })

def api (σ : Backend) (credentials : Option String) (req : MemberRequest) :
    BackendReply × Backend :=
  let r := (getTokenClaims issuer.toTokenEnv credentials σ.now).run σ.store
  match r.1 with
  | .error e => (.payload (.error e), { σ with store := r.2 })
  | .ok payload =>
    let a := (answerClaims env payload req).run σ.world.session
    (.payload a.1, { σ with store := r.2, world := a.2.world })

def checkLogout (σ : Backend) (i : ℕ) (credentials : Option String) : BackendReply × Backend :=
  let r := (getTokenClaims issuer.toTokenEnv credentials σ.now).run σ.store
  match r.1 with
  | .error e => (.left (.error e), { σ with store := r.2 })
  | .ok claims =>
    (.nothing, { σ with store := r.2, leaving := Function.update σ.leaving i (some claims) })

/-- Until when the store will know that a token revoked now is revoked. -/
def closing (claims : Claims) (now : ℚ) : Option ℚ :=
  let remaining := truncate (claims.exp - issuer.wall now)
  if 0 < remaining then some (now + remaining) else none

def revoke (σ : Backend) (i : ℕ) : BackendReply × Backend :=
  match σ.leaving i with
  | none => (.nothing, σ)
  | some claims =>
    (.left (.ok ()),
      { σ with
        store := ((revokeToken issuer.toTokenEnv claims σ.now).run σ.store).2
        leaving := Function.update σ.leaving i none
        closed := Function.update σ.closed claims.jti
          ((closing issuer claims σ.now).or (σ.closed claims.jti)) })

def step (σ : Backend) : BackendEvent → BackendReply × Backend
  | .wait d _ => (.nothing, { σ with now := σ.now + d })
  | .login body => σ.login env issuer body
  | .api credentials req => σ.api env issuer credentials req
  | .checkLogout i credentials => σ.checkLogout issuer i credentials
  | .revoke i => σ.revoke issuer i
  | .readDiagnosis instanceId digest =>
    (.nothing,
      { σ with store := ((MemoryStore.get (diagnosisKey instanceId digest) σ.now).run σ.store).2 })
  | .cacheDiagnosis instanceId digest text ttl =>
    let write := MemoryStore.set (diagnosisKey instanceId digest) text ttl σ.now
    (.nothing, { σ with store := (write.run σ.store).2 })

end

-- ---------------------------------------------------------------------------
-- The denylist is the book's
-- ---------------------------------------------------------------------------

section
variable {env : Env} {issuer : TokenIssuer} {σ : Backend} {jti : String}

/-- What is left alone by every step but a revocation. -/
structure Frame (σ σ' : Backend) (store : MemoryStore) : Prop where
  store : σ'.store = store
  now : σ'.now = σ.now
  closed : σ'.closed = σ.closed

theorem login_frame (σ : Backend) (body : LoginRequest) :
    Frame σ (σ.login env issuer body).2
      ((CloudMonitor.login env σ.world.db.members body σ.now).run σ.store).2 := by
  simp only [login]
  split <;> exact ⟨rfl, rfl, rfl⟩

theorem api_frame (σ : Backend) (credentials : Option String) (req : MemberRequest) :
    Frame σ (σ.api env issuer credentials req).2
      ((getTokenClaims issuer.toTokenEnv credentials σ.now).run σ.store).2 := by
  simp only [api]
  split <;> exact ⟨rfl, rfl, rfl⟩

theorem checkLogout_frame (σ : Backend) (i : ℕ) (credentials : Option String) :
    Frame σ (σ.checkLogout issuer i credentials).2
      ((getTokenClaims issuer.toTokenEnv credentials σ.now).run σ.store).2 := by
  simp only [checkLogout]
  split <;> exact ⟨rfl, rfl, rfl⟩

/-- The store has an entry for a token as long as the book has it closed. -/
def Denies (σ : Backend) : Prop :=
  ∀ jti t, σ.now ≤ t →
    (σ.store.look t (revokedKey jti)).isSome = (σ.closed jti).any fun until_ => t < until_

theorem Denies.frame (h : Denies σ) {σ' : Backend} {s : MemoryStore} (hf : Frame σ σ' s)
    (hs : ∀ jti, Unmoved σ.now (revokedKey jti) σ.store s) : Denies σ' := by
  intro jti t ht
  rw [hf.now] at ht
  rw [hf.closed, hf.store, hs jti t ht]
  exact h jti t ht

theorem Denies.revoke (h : Denies σ) (i : ℕ) : Denies (σ.revoke issuer i).2 := by
  unfold Backend.revoke
  split
  · exact h
  · next claims _ =>
    intro jti t ht
    obtain ⟨s', hrun, ⟨hpos, hw⟩ | ⟨hzero, hk⟩⟩ :=
      revokeToken_run issuer.toTokenEnv claims σ.now σ.store
    · simp only [hrun, closing, if_pos hpos]
      rcases eq_or_ne jti claims.jti with rfl | hne
      · rw [hw.same ht, Function.update_self]
        simp [alive, Option.isSome_filter]
      · have hkey : revokedKey jti ≠ revokedKey claims.jti := fun he =>
          hne ((String.append_right_inj _).mp he)
        rw [hw.other ht hkey, Function.update_of_ne hne]
        exact h jti t ht
    · simp only [hrun, closing, if_neg (not_lt.mpr hzero), Option.none_or,
        Function.update_eq_self]
      rw [hk t ht]
      exact h jti t ht

theorem Denies.step (h : Denies σ) (e : BackendEvent) : Denies (σ.step env issuer e).2 := by
  cases e with
  | wait d hd => exact fun jti t ht => h jti t ((le_add_of_nonneg_right hd).trans ht)
  | revoke i => exact h.revoke i
  | login body =>
    refine h.frame (login_frame σ body) fun jti => ?_
    exact unmoved_login body (accountKey_ne_revokedKey env body.email jti)
      (ipKey_ne_revokedKey body.clientIp jti) σ.store
  | api credentials req =>
    exact h.frame (api_frame σ credentials req) fun jti => .of_keeps (getTokenClaims_keeps _ _ _ _)
  | checkLogout i credentials =>
    refine h.frame (checkLogout_frame σ i credentials) fun jti => ?_
    exact .of_keeps (getTokenClaims_keeps _ _ _ _)
  | readDiagnosis instanceId digest =>
    refine h.frame ⟨rfl, rfl, rfl⟩ fun jti => ?_
    obtain ⟨s', hrun, hk⟩ := get_run (diagnosisKey instanceId digest) σ.now σ.store
    simpa [Backend.step, hrun] using Unmoved.of_keeps hk
  | cacheDiagnosis instanceId digest text ttl =>
    refine h.frame ⟨rfl, rfl, rfl⟩ fun jti => ?_
    obtain ⟨s', hrun, hw⟩ := set_run (diagnosisKey instanceId digest) text ttl σ.now σ.store
    simpa [Backend.step, hrun] using
      Unmoved.of_writes hw (diagnosisKey_ne_revokedKey instanceId digest jti)

end

-- ---------------------------------------------------------------------------
-- The book
-- ---------------------------------------------------------------------------

section
variable {env : Env} {issuer : TokenIssuer} {σ : Backend} {g : Grant} {c : Claims}

/-- Every grant is of a login that had the right password. -/
structure Genuine (env : Env) (σ : Backend) : Prop where
  granted : ∀ g ∈ σ.grants, authenticate env σ.world.db.members g.body = some g.member
  serial : ∀ g ∈ σ.grants, g.serial < σ.drawn
  unique : ∀ g ∈ σ.grants, ∀ g' ∈ σ.grants, g.serial = g'.serial → g = g'
  since : ∀ g ∈ σ.grants, g.since ≤ σ.now

theorem authenticate_mem {members : Table Member} {body : LoginRequest} {m : Member}
    (h : authenticate env members body = some m) : m ∈ members :=
  List.mem_of_find?_eq_some (Option.eq_some_of_filter_eq_some h)

theorem answerClaims_members (payload : Claims) (req : MemberRequest) (w : World) :
    ((answerClaims env payload req).run w.session).2.world.db.members = w.db.members := by
  unfold answerClaims
  cases readInt? payload.sub with
  | none => rfl
  | some sub => exact Effect.members_eq (serve_effect_unscoped env sub (.ofMember req) w)

theorem Genuine.same (h : Genuine env σ) {σ' : Backend}
    (hmembers : σ'.world.db.members = σ.world.db.members) (hgrants : σ'.grants = σ.grants)
    (hdrawn : σ'.drawn = σ.drawn) (hnow : σ.now ≤ σ'.now) : Genuine env σ' where
  granted := by
    rw [hmembers, hgrants]
    exact h.granted
  serial := by
    rw [hdrawn, hgrants]
    exact h.serial
  unique := by
    rw [hgrants]
    exact h.unique
  since := by
    rw [hgrants]
    exact fun g hg => (h.since g hg).trans hnow

theorem login_ok_authenticate {members : Table Member} {body : LoginRequest} {now : ℚ}
    {s : MemoryStore} {m : Member}
    (h : ((CloudMonitor.login env members body now).run s).1 = .ok m) :
    authenticate env members body = some m := by
  simp only [CloudMonitor.login, run_bind] at h
  split at h
  · split at h
    · cases h
    · next member hm =>
      simp only [run_bind] at h
      split at h
      · cases h
        exact hm
      · cases h
  · cases h

theorem Genuine.login (h : Genuine env σ) (body : LoginRequest) :
    Genuine env (σ.login env issuer body).2 := by
  simp only [Backend.login]
  split
  · exact h.same rfl rfl rfl le_rfl
  · next member hok =>
    have hnew : ∀ g ∈ σ.grants, σ.drawn ≠ g.serial := fun g hg => (h.serial g hg).ne'
    refine ⟨?_, ?_, ?_, ?_⟩
    · exact List.forall_mem_cons.mpr ⟨login_ok_authenticate hok, h.granted⟩
    · exact List.forall_mem_cons.mpr
        ⟨Nat.lt_succ_self _, fun g hg => Nat.lt_succ_of_lt (h.serial g hg)⟩
    · refine List.forall_mem_cons.mpr ⟨?_, fun g hg => ?_⟩
      · exact List.forall_mem_cons.mpr ⟨fun _ => rfl, fun g hg he => absurd he (hnew g hg)⟩
      · exact List.forall_mem_cons.mpr ⟨fun he => absurd he.symm (hnew g hg), h.unique g hg⟩
    · exact List.forall_mem_cons.mpr ⟨le_rfl, h.since⟩

theorem Genuine.step (h : Genuine env σ) (e : BackendEvent) :
    Genuine env (σ.step env issuer e).2 := by
  cases e with
  | wait d hd => exact h.same rfl rfl rfl (le_add_of_nonneg_right hd)
  | login body => exact h.login body
  | api credentials req =>
    simp only [Backend.step, api]
    split
    · exact h.same rfl rfl rfl le_rfl
    · exact h.same (answerClaims_members _ _ _) rfl rfl le_rfl
  | checkLogout i credentials =>
    simp only [Backend.step, checkLogout]
    split <;> exact h.same rfl rfl rfl le_rfl
  | revoke i =>
    simp only [Backend.step, Backend.revoke]
    split
    · exact h
    · exact h.same rfl rfl rfl le_rfl
  | readDiagnosis | cacheDiagnosis => exact h.same rfl rfl rfl le_rfl

end

-- ---------------------------------------------------------------------------
-- What a session is answered
-- ---------------------------------------------------------------------------

def runBackend (env : Env) (issuer : TokenIssuer) : Backend → List BackendEvent → Backend :=
  after (step env issuer)

/-- Who a request with this grant's token comes from, by the book. -/
def sessionAnswer (issuer : TokenIssuer) (σ : Backend) (g : Grant) : Except ApiError Member :=
  if ((g.claims issuer).exp : ℚ) ≤ issuer.wall σ.now then .error tokenExpired
  else if (σ.closed (g.claims issuer).jti).any (σ.now < ·) then .error tokenRevoked
  else .ok g.member

/-- A logout that goes on to the revocation has not replied yet. -/
def checkReply : Except ApiError Member → BackendReply
  | .error e => .left (.error e)
  | .ok _ => .nothing

section
variable {env : Env} {issuer : TokenIssuer} {σ : Backend} {g : Grant} {token : String}

theorem denies_start (world : World) (now : ℚ) (drawn : ℕ) (grants : List Grant) :
    Denies (start world now drawn grants) := fun _ _ _ => rfl

theorem denies_run (env : Env) (issuer : TokenIssuer) (h : Denies σ) (events : List BackendEvent) :
    Denies (runBackend env issuer σ events) :=
  play_keeps (fun _ e h => h.step e) events h

theorem verify_token (issuer : TokenIssuer) (g : Grant) :
    issuer.verify (g.token issuer) = some (g.claims issuer) := issuer.verify_encode _

theorem getTokenClaims_answer (hd : Denies σ) (hv : issuer.verify token = some (g.claims issuer)) :
    ((getTokenClaims issuer.toTokenEnv (some token) σ.now).run σ.store).1 =
      (sessionAnswer issuer σ g).map fun _ => g.claims issuer := by
  obtain ⟨s', hrun, -⟩ := getTokenClaims_run hv σ.store σ.now
  rw [hrun, hd _ _ le_rfl]
  unfold sessionAnswer
  split_ifs <;> rfl

theorem answerClaims_grant (issuer : TokenIssuer) (g : Grant) (req : MemberRequest) :
    answerClaims env (g.claims issuer) req = answer env g.member.id (.ofMember req) := by
  have hsub : readInt? (g.claims issuer).sub = some g.member.id := TokenIssuer.readInt?_sub
  rw [answerClaims, hsub]

theorem api_answer (hd : Denies σ) (hv : issuer.verify token = some (g.claims issuer))
    (req : MemberRequest) :
    (σ.step env issuer (.api (some token) req)).1 = .payload
      (sessionAnswer issuer σ g >>= fun m => (serve env m.id (.ofMember req) σ.world).1) := by
  have hclaims := getTokenClaims_answer hd hv
  simp only [Backend.step, api, hclaims]
  cases hanswer : sessionAnswer issuer σ g with
  | error e => rfl
  | ok m =>
    have hm : m = g.member := by
      unfold sessionAnswer at hanswer
      split_ifs at hanswer
      exact (Except.ok.inj hanswer).symm
    simp only [Except.map, answerClaims_grant, hm]
    rfl

theorem checkLogout_answer (hd : Denies σ) (hv : issuer.verify token = some (g.claims issuer))
    (i : ℕ) : (σ.step env issuer (.checkLogout i (some token))).1 =
      checkReply (sessionAnswer issuer σ g) := by
  have hclaims := getTokenClaims_answer hd hv
  simp only [Backend.step, checkLogout, hclaims]
  cases sessionAnswer issuer σ g <;> rfl

theorem login_grant {body : LoginRequest} {r : TokenResponse}
    (h : (σ.step env issuer (.login body)).1 = .token (.ok r)) :
    ∃ g ∈ (σ.step env issuer (.login body)).2.grants, g.body = body ∧ g.since = σ.now ∧
      r = { accessToken := g.token issuer, role := g.member.role, name := g.member.name } := by
  revert h
  simp only [Backend.step, Backend.login]
  split
  · exact fun h => nomatch h
  · next member _ =>
    rintro ⟨⟩
    exact ⟨_, List.mem_cons_self, rfl, rfl, rfl⟩

/-- The token a login hands out has its session in the book; a request with it
is answered by the book, whatever has been logged in, logged out, counted or
cached in the meantime. -/
theorem sessions_answered (env : Env) (issuer : TokenIssuer) (world : World) (now : ℚ) (drawn : ℕ)
    (grants : List Grant) (events : List BackendEvent) :
    let σ := runBackend env issuer (start world now drawn grants) events
    (∀ body r, (σ.step env issuer (.login body)).1 = .token (.ok r) →
      ∃ g ∈ (σ.step env issuer (.login body)).2.grants, g.body = body ∧ g.since = σ.now ∧
        r = { accessToken := g.token issuer, role := g.member.role, name := g.member.name }) ∧
    ∀ g,
      (∀ req, (σ.step env issuer (.api (some (g.token issuer)) req)).1 = .payload
        (sessionAnswer issuer σ g >>= fun m => (serve env m.id (.ofMember req) σ.world).1)) ∧
      ∀ i, (σ.step env issuer (.checkLogout i (some (g.token issuer)))).1 =
        checkReply (sessionAnswer issuer σ g) := by
  intro σ
  have h : Denies σ := denies_run env issuer (denies_start world now drawn grants) events
  refine ⟨fun body r => login_grant, fun g => ⟨fun req => ?_, fun i => ?_⟩⟩
  · exact api_answer h (verify_token issuer g) req
  · exact checkLogout_answer h (verify_token issuer g) i

end

-- ---------------------------------------------------------------------------
-- No token is forged
-- ---------------------------------------------------------------------------

def Unforged (issuer : TokenIssuer) (σ : Backend) (e : BackendEvent) : Prop :=
  ∀ token, e.credentials = some token → ∀ c, issuer.verify token = some c →
    ∃ g ∈ σ.grants, c = g.claims issuer

/-- Only sessions in the book are closed, and each until the last second of
its token. -/
structure Closes (issuer : TokenIssuer) (σ : Backend) : Prop where
  leaving : ∀ i c, σ.leaving i = some c → ∃ g ∈ σ.grants, c = g.claims issuer
  closed : ∀ jti until_, σ.closed jti = some until_ → ∃ g ∈ σ.grants,
    jti = (g.claims issuer).jti ∧ ((g.claims issuer).exp - 1 : ℚ) < issuer.wall until_ ∧
      issuer.wall until_ ≤ (g.claims issuer).exp

section
variable {env : Env} {issuer : TokenIssuer} {σ : Backend} {g : Grant} {c : Claims} {jti : String}
  {now until_ : ℚ}

theorem closing_bounds (h : closing issuer c now = some until_) :
    (c.exp - 1 : ℚ) < issuer.wall until_ ∧ issuer.wall until_ ≤ c.exp := by
  simp only [closing] at h
  split_ifs at h with hpos
  cases h
  obtain ⟨hlt, hle⟩ := truncate_bounds hpos
  simp only [TokenEnv.wall] at hlt hle ⊢
  constructor <;> linarith

theorem closing_isSome (h : issuer.wall now + 1 ≤ c.exp) : (closing issuer c now).isSome := by
  have hleft : 1 ≤ (c.exp : ℚ) - issuer.wall now := by linarith
  rw [closing, if_pos (truncate_pos hleft)]
  rfl

theorem grants_step (e : BackendEvent) : σ.grants ⊆ (σ.step env issuer e).2.grants := by
  cases e with
  | login body =>
    simp only [Backend.step, Backend.login]
    split
    · exact List.Subset.refl _
    · exact List.subset_cons_self _ _
  | api credentials req =>
    simp only [Backend.step, api]
    split <;> exact List.Subset.refl _
  | checkLogout i credentials =>
    simp only [Backend.step, checkLogout]
    split <;> exact List.Subset.refl _
  | revoke i =>
    simp only [Backend.step, Backend.revoke]
    split <;> exact List.Subset.refl _
  | wait | readDiagnosis | cacheDiagnosis => exact List.Subset.refl _

theorem closes_start (issuer : TokenIssuer) (world : World) (now : ℚ) (drawn : ℕ)
    (grants : List Grant) : Closes issuer (start world now drawn grants) :=
  ⟨fun _ _ h => (nomatch h), fun _ _ h => (nomatch h)⟩

theorem Closes.same (h : Closes issuer σ) {σ' : Backend} (hleaving : σ'.leaving = σ.leaving)
    (hclosed : σ'.closed = σ.closed) (hgrants : σ.grants ⊆ σ'.grants) : Closes issuer σ' where
  leaving i c hc := by
    obtain ⟨g, hg, hgc⟩ := h.leaving i c (hleaving ▸ hc)
    exact ⟨g, hgrants hg, hgc⟩
  closed jti until_ hc := by
    obtain ⟨g, hg, hjti⟩ := h.closed jti until_ (hclosed ▸ hc)
    exact ⟨g, hgrants hg, hjti⟩

theorem Closes.checkLogout (h : Closes issuer σ) (i : ℕ) (credentials : Option String)
    (hunforged : Unforged issuer σ (.checkLogout i credentials)) :
    Closes issuer (σ.checkLogout issuer i credentials).2 := by
  simp only [Backend.checkLogout]
  split
  · exact h.same rfl rfl (List.Subset.refl _)
  · next claims hok =>
    obtain ⟨token, hcredentials, hv, -⟩ := getTokenClaims_ok hok
    refine ⟨fun j c hc => ?_, h.closed⟩
    rcases eq_or_ne j i with rfl | hne
    · simp only [Function.update_self] at hc
      cases hc
      exact hunforged token hcredentials claims hv
    · simp only [Function.update_of_ne hne] at hc
      exact h.leaving j c hc

theorem Closes.revoke (h : Closes issuer σ) (i : ℕ) : Closes issuer (σ.revoke issuer i).2 := by
  simp only [Backend.revoke]
  split
  · exact h
  · next claims hclaims =>
    refine ⟨fun j c hc => ?_, fun jti until_ hc => ?_⟩
    · rcases eq_or_ne j i with rfl | hne
      · simp at hc
      · simp only [Function.update_of_ne hne] at hc
        exact h.leaving j c hc
    · rcases eq_or_ne jti claims.jti with rfl | hne
      · simp only [Function.update_self] at hc
        cases hclosing : closing issuer claims σ.now with
        | none =>
          rw [hclosing, Option.none_or] at hc
          exact h.closed _ _ hc
        | some u =>
          rw [hclosing, Option.some_or] at hc
          cases hc
          obtain ⟨g, hg, rfl⟩ := h.leaving i claims hclaims
          exact ⟨g, hg, rfl, closing_bounds hclosing⟩
      · simp only [Function.update_of_ne hne] at hc
        exact h.closed _ _ hc

theorem Closes.step (h : Closes issuer σ) (e : BackendEvent) (hunforged : Unforged issuer σ e) :
    Closes issuer (σ.step env issuer e).2 := by
  have hgrants : σ.grants ⊆ (σ.step env issuer e).2.grants := grants_step e
  cases e with
  | revoke i => exact h.revoke i
  | checkLogout i credentials => exact h.checkLogout i credentials hunforged
  | login body =>
    refine h.same ?_ (login_frame σ body).closed hgrants
    simp only [Backend.step, Backend.login]
    split <;> rfl
  | api credentials req =>
    refine h.same ?_ (api_frame σ credentials req).closed hgrants
    simp only [Backend.step, api]
    split <;> rfl
  | wait | readDiagnosis | cacheDiagnosis => exact h.same rfl rfl hgrants

theorem closed_step (e : BackendEvent) (h : (σ.closed jti).isSome) :
    ((σ.step env issuer e).2.closed jti).isSome := by
  cases e with
  | login body => rwa [Backend.step, (login_frame σ body).closed]
  | api credentials req => rwa [Backend.step, (api_frame σ credentials req).closed]
  | checkLogout i credentials => rwa [Backend.step, (checkLogout_frame σ i credentials).closed]
  | revoke i =>
    simp only [Backend.step, Backend.revoke]
    split
    · exact h
    · next claims _ =>
      rcases eq_or_ne jti claims.jti with rfl | hne
      · simp [h]
      · simpa [hne] using h
  | wait | readDiagnosis | cacheDiagnosis => exact h

theorem grants_run (σ : Backend) (events : List BackendEvent) :
    σ.grants ⊆ (runBackend env issuer σ events).grants :=
  play_keeps (P := fun σ' : Backend => σ.grants ⊆ σ'.grants)
    (fun _ e h => List.Subset.trans h (grants_step e)) events (List.Subset.refl _)

theorem closed_run (events : List BackendEvent) (h : (σ.closed jti).isSome) :
    ((runBackend env issuer σ events).closed jti).isSome :=
  play_keeps (P := fun σ : Backend => (σ.closed jti).isSome) (fun _ e h => closed_step e h) events h

/-- The state of a run without forged tokens. -/
structure Kept (env : Env) (issuer : TokenIssuer) (σ : Backend) : Prop where
  genuine : Genuine env σ
  denies : Denies σ
  closes : Closes issuer σ

theorem kept_start {world : World} {drawn : ℕ} {grants : List Grant}
    (h : Genuine env (start world now drawn grants)) :
    Kept env issuer (start world now drawn grants) :=
  ⟨h, denies_start world now drawn grants, closes_start issuer world now drawn grants⟩

theorem Kept.step (h : Kept env issuer σ) (e : BackendEvent) (hunforged : Unforged issuer σ e) :
    Kept env issuer (σ.step env issuer e).2 :=
  ⟨h.genuine.step e, h.denies.step e, h.closes.step e hunforged⟩

theorem Kept.run (h : Kept env issuer σ) {events : List BackendEvent}
    (hunforged : Along (fun σ e => (Backend.step env issuer σ e).2) (Unforged issuer) σ events) :
    Kept env issuer (runBackend env issuer σ events) :=
  play_invariant (fun _ e h hu => h.step e hu) h hunforged

/-- A session that is closed stays so until its token's last second. -/
theorem Kept.closed_until (h : Kept env issuer σ) (hg : g ∈ σ.grants)
    (hclosed : σ.closed (g.claims issuer).jti = some until_) :
    ((g.claims issuer).exp - 1 : ℚ) < issuer.wall until_ ∧
      issuer.wall until_ ≤ (g.claims issuer).exp := by
  obtain ⟨g', hg', hjti, hbounds⟩ := h.closes.closed _ _ hclosed
  obtain rfl := h.genuine.unique g hg g' hg' (issuer.newJti_injective hjti)
  exact hbounds

end

section
variable {env : Env} {issuer : TokenIssuer} {world : World} {now : ℚ} {drawn : ℕ}
  {grants : List Grant}

/-- Once a logout with at least a second to go is through, its token is refused
in every state of every continuation, but perhaps in the last second before it
expires: other sessions, other logouts of the same token that were under way,
counters and caches do not matter. -/
theorem logout_holds (hgenuine : Genuine env (start world now drawn grants))
    (before afterwards : List BackendEvent) (i : ℕ) (g : Grant)
    (hunforged : Along (fun σ e => (step env issuer σ e).2) (Unforged issuer)
      (start world now drawn grants) (before ++ .revoke i :: afterwards))
    (hleaving : (runBackend env issuer (start world now drawn grants) before).leaving i =
      some (g.claims issuer))
    (hleft : issuer.wall (runBackend env issuer (start world now drawn grants) before).now + 1 ≤
      (g.claims issuer).exp) (req : MemberRequest) :
    let σ :=
      runBackend env issuer (start world now drawn grants) (before ++ .revoke i :: afterwards)
    (issuer.wall σ.now ≤ (g.claims issuer).exp - 1 →
      (σ.step env issuer (.api (some (g.token issuer)) req)).1 = .payload (.error tokenRevoked)) ∧
    ((g.claims issuer).exp ≤ issuer.wall σ.now →
      (σ.step env issuer (.api (some (g.token issuer)) req)).1 =
        .payload (.error tokenExpired)) := by
  intro σ
  have hσ : Kept env issuer σ := (kept_start hgenuine).run hunforged
  let σ₁ := runBackend env issuer (start world now drawn grants) before
  have h₁ : Kept env issuer σ₁ := (kept_start hgenuine).run (Along.append.mp hunforged).1
  have hrun : σ = runBackend env issuer (σ₁.step env issuer (.revoke i)).2 afterwards :=
    after_append
  -- the book has the session, and has it closed for good
  obtain ⟨g', hg', hclaims⟩ := h₁.closes.leaving i _ hleaving
  have hgrants : g' ∈ σ.grants := by
    rw [hrun]
    exact grants_run _ _ (grants_step (.revoke i) hg')
  have hclosed : (σ.closed (g.claims issuer).jti).isSome := by
    rw [hrun]
    refine closed_run afterwards ?_
    have hleaving₁ : σ₁.leaving i = some (g.claims issuer) := hleaving
    have hsome : (closing issuer (g.claims issuer) σ₁.now).isSome := closing_isSome hleft
    simp [Backend.step, Backend.revoke, hleaving₁, hsome]
  obtain ⟨until_, huntil⟩ := Option.isSome_iff_exists.mp hclosed
  obtain ⟨hlate, hearly⟩ := hσ.closed_until hgrants (hclaims ▸ huntil)
  rw [← hclaims] at hlate hearly
  rw [api_answer hσ.denies (verify_token issuer g)]
  simp only [TokenEnv.wall] at hlate hearly ⊢
  constructor
  · intro hnow
    have hlive : ¬((g.claims issuer).exp : ℚ) ≤ issuer.wall σ.now := by
      simp only [TokenEnv.wall]
      linarith
    have hlt : σ.now < until_ := by linarith
    simp only [sessionAnswer, if_neg hlive, huntil, Option.any_some, hlt, decide_true, if_true]
    rfl
  · intro hnow
    have hover : ((g.claims issuer).exp : ℚ) ≤ issuer.wall σ.now := hnow
    simp only [sessionAnswer, if_pos hover]
    rfl

end

-- ---------------------------------------------------------------------------
-- A session of the administrator
-- ---------------------------------------------------------------------------

def adminLogin : LoginRequest := ⟨"admin@techvalley.vn", "admin123!", none⟩

def adminGrant : Grant where
  serial := 0
  member := ⟨1, "admin@techvalley.vn", "admin123!", "TechValley Admin", .admin⟩
  body := adminLogin
  since := 0

/-- The seeded process at the instant zero. -/
abbrev fresh : Backend := start (seeded (.every 1)) 0 0 []

def leavingAdmin : List BackendEvent :=
  [.login adminLogin, .wait 7 (by decide), .checkLogout 0 (some (adminGrant.token plainTokens))]

theorem genuine_fresh : Genuine (.every 1) fresh :=
  ⟨fun _ h => (nomatch h), fun _ h => (nomatch h), fun _ h => (nomatch h), fun _ h => (nomatch h)⟩

theorem unforged_own {issuer : TokenIssuer} {σ : Backend} {g : Grant} {e : BackendEvent}
    (hg : g ∈ σ.grants) (he : e.credentials = some (g.token issuer)) : Unforged issuer σ e := by
  intro token htoken c hc
  obtain rfl := Option.some.inj (he.symm.trans htoken)
  rw [verify_token] at hc
  exact ⟨g, hg, (Option.some.inj hc).symm⟩

theorem unforged_without {issuer : TokenIssuer} {σ : Backend} {e : BackendEvent}
    (he : e.credentials = none) : Unforged issuer σ e :=
  fun _ htoken => nomatch he.symm.trans htoken

/-- Ten seconds after its logout the session is closed. -/
theorem logout_holds_admin :
    ((runBackend (.every 1) plainTokens fresh
      (leavingAdmin ++ [.revoke 0, .wait 10 (by decide)])).step (.every 1) plainTokens
        (.api (some (adminGrant.token plainTokens)) .report)).1 =
      .payload (.error tokenRevoked) := by
  refine (logout_holds genuine_fresh leavingAdmin [.wait 10 (by decide)] 0 adminGrant ?_
    (by decide +kernel) (by decide +kernel) .report).1 (by decide +kernel)
  refine ⟨unforged_without rfl, unforged_without rfl, unforged_own ?_ rfl, unforged_without rfl,
    unforged_without rfl, trivial⟩
  decide +kernel

section
variable {env : Env} {issuer : TokenIssuer} {world : World} {now : ℚ} {drawn : ℕ}
  {grants : List Grant}

theorem getTokenClaims_error {tokens : TokenEnv} {credentials : Option String} {s : MemoryStore}
    {e : ApiError} (h : ((getTokenClaims tokens credentials now).run s).1 = .error e) :
    e ∈ [notAuthenticated, invalidToken, tokenExpired, tokenRevoked] := by
  cases credentials with
  | none => simp_all [getTokenClaims]
  | some token =>
    cases hv : tokens.verify token with
    | none => simp_all [getTokenClaims, decodeAccessToken]
    | some c =>
      obtain ⟨s', hrun, -⟩ := getTokenClaims_run hv s now
      rw [hrun] at h
      simp only at h
      split_ifs at h <;> cases h <;> simp

/-- A request is turned away without touching a row, or it comes from a member
whose login with the right password is less than a token's lifetime ago and
not logged out, and does what this member may do. -/
theorem requests_authenticated (hgenuine : Genuine env (start world now drawn grants))
    (events : List BackendEvent) (credentials : Option String) (req : MemberRequest)
    (hunforged : Along (fun σ e => (step env issuer σ e).2) (Unforged issuer)
      (start world now drawn grants) (events ++ [.api credentials req])) :
    let σ := runBackend env issuer (start world now drawn grants) events
    let next := σ.step env issuer (.api credentials req)
    (next.2.world = σ.world ∧ ∃ e ∈ [notAuthenticated, invalidToken, tokenExpired, tokenRevoked],
      next.1 = .payload (.error e)) ∨
    ∃ g ∈ σ.grants, authenticate env σ.world.db.members g.body = some g.member ∧
      g.since ≤ σ.now ∧ issuer.wall σ.now < issuer.wall g.since + issuer.lifetime ∧
      (∀ until_, σ.closed (g.claims issuer).jti = some until_ →
        (g.claims issuer).exp - 1 < issuer.wall σ.now) ∧
      next.1 = .payload (serve env g.member.id (.ofMember req) σ.world).1 ∧
      Effect env (accessibleClientIds g.member) σ.world next.2.world := by
  intro σ next
  have hparts := Along.append.mp hunforged
  have hσ : Kept env issuer σ := (kept_start hgenuine).run hparts.1
  cases hclaims : ((getTokenClaims issuer.toTokenEnv credentials σ.now).run σ.store).1 with
  | error e =>
    have hnext : next = (.payload (.error e), { σ with
        store := ((getTokenClaims issuer.toTokenEnv credentials σ.now).run σ.store).2 }) := by
      simp only [next, Backend.step, api, hclaims]
    rw [hnext]
    exact .inl ⟨rfl, e, getTokenClaims_error hclaims, rfl⟩
  | ok c =>
    obtain ⟨token, rfl, hv, hexp, hlook⟩ := getTokenClaims_ok hclaims
    obtain ⟨g, hg, rfl⟩ := hparts.2.1 token rfl c hv
    have hmember : g.member ∈ σ.world.db.members := authenticate_mem (hσ.genuine.granted g hg)
    have hworld : next = (.payload (serve env g.member.id (.ofMember req) σ.world).1,
        { σ with
          store := ((getTokenClaims issuer.toTokenEnv (some token) σ.now).run σ.store).2
          world := (serve env g.member.id (.ofMember req) σ.world).2 }) := by
      simp only [next, Backend.step, api, hclaims, answerClaims_grant]
      rfl
    refine .inr ⟨g, hg, hσ.genuine.granted g hg, hσ.genuine.since g hg, ?_, ?_, ?_, ?_⟩
    · exact hexp.trans_le TokenIssuer.accessClaims_exp.1
    · intro until_ huntil
      have hover : until_ ≤ σ.now := by
        have hdenied := hσ.denies (g.claims issuer).jti σ.now le_rfl
        rw [hlook, huntil] at hdenied
        simpa using hdenied
      have hlate := (hσ.closed_until hg huntil).1
      simp only [TokenEnv.wall] at hlate ⊢
      linarith
    · rw [hworld]
    · rw [hworld]
      exact serve_effect env (.ofMember req) σ.world hmember

end

theorem requests_authenticated_admin :
    let σ := runBackend (.every 1) plainTokens fresh [.login adminLogin]
    ∃ g ∈ σ.grants,
      (σ.step (.every 1) plainTokens (.api (some (adminGrant.token plainTokens)) .report)).1 =
        .payload (serve (.every 1) g.member.id (.ofMember .report) σ.world).1 := by
  intro σ
  have hunforged : Along (fun σ e => (step (.every 1) plainTokens σ e).2) (Unforged plainTokens)
      fresh [.login adminLogin, .api (some (adminGrant.token plainTokens)) .report] := by
    refine ⟨unforged_without rfl, unforged_own ?_ rfl, trivial⟩
    decide +kernel
  obtain ⟨-, e, he, hrefused⟩ | ⟨g, hg, -, -, -, -, hserved, -⟩ :=
    requests_authenticated genuine_fresh [.login adminLogin] _ .report hunforged
  · exfalso
    revert e
    decide +kernel
  · exact ⟨g, hg, hserved⟩

end Backend

end CloudMonitor
