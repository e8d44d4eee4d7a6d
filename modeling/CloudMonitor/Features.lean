import CloudMonitor.Auth.Revocation
import CloudMonitor.Lib.Sharing
import CloudMonitor.Store.Keys

/-!
# The features that share the store

Login attempts by account and by address, revoked tokens and cached diagnoses
have keys in one dictionary, and any text may come after a feature's prefix.
No key has two prefixes, so each feature is answered as by a store of its own.
-/

namespace CloudMonitor

open Fallible MemoryStore

inductive Feature
  | account
  | address
  | revocation
  | diagnosis
  deriving DecidableEq

namespace Feature

def keyPrefix : Feature → String
  | account => "login:account:"
  | address => "login:ip:"
  | revocation => "revoked:"
  | diagnosis => "diagnosis:"

def Owns (f : Feature) (key : String) : Prop := f.keyPrefix.toList <+: key.toList

theorem owns_append (f : Feature) (text : String) : f.Owns (f.keyPrefix ++ text) := by
  rw [Owns, String.toList_append]
  exact List.prefix_append _ _

/-- No prefix begins another. -/
theorem Owns.unique {f g : Feature} {key : String} (hf : f.Owns key) (hg : g.Owns key) : f = g := by
  have h := List.prefix_or_prefix_of_prefix hf hg
  revert h
  cases f <;> cases g <;> decide

end Feature

-- ---------------------------------------------------------------------------
-- The features' calls
-- ---------------------------------------------------------------------------

/-- A use of the store by one feature. A login attempt that is reserved or
released is two, and those of another request may come between them. -/
inductive FeatureCall
  | countAccount (email : String)
  | clearAccount (email : String)
  | countAddress (clientIp : String)
  | giveBackAddress (clientIp : String)
  | revoke (claims : Claims)
  | isRevoked (jti : String)
  | readDiagnosis (instanceId : ℤ) (digest : String)
  | cacheDiagnosis (instanceId : ℤ) (digest text : String) (ttl : ℤ)
  deriving DecidableEq

namespace FeatureCall

def feature : FeatureCall → Feature
  | countAccount _ | clearAccount _ => .account
  | countAddress _ | giveBackAddress _ => .address
  | revoke _ | isRevoked _ => .revocation
  | readDiagnosis _ _ | cacheDiagnosis _ _ _ _ => .diagnosis

def key (env : Env) : FeatureCall → String
  | countAccount email | clearAccount email => accountKey env email
  | countAddress clientIp | giveBackAddress clientIp => ipKey clientIp
  | revoke claims => revokedKey claims.jti
  | isRevoked jti => revokedKey jti
  | readDiagnosis instanceId digest | cacheDiagnosis instanceId digest _ _ =>
    diagnosisKey instanceId digest

def counted (r : ℤ × ℤ) : StoreReply String ℤ := .counted r.1 r.2

def run (env : Env) (tokens : TokenEnv) (now : ℚ) : FeatureCall → Op (StoreReply String ℤ)
  | countAccount email => do return counted (← add (accountKey env email) 1 env.loginWindow now)
  | clearAccount email => do
    delete (accountKey env email)
    return .done
  | countAddress clientIp => do return counted (← add (ipKey clientIp) 1 env.loginWindow now)
  | giveBackAddress clientIp => do
    return counted (← add (ipKey clientIp) (-1) env.loginWindow now)
  | revoke claims => do
    revokeToken tokens claims now
    return .done
  | isRevoked jti => do return .contained (← isTokenRevoked jti now)
  | readDiagnosis instanceId digest => do return .got (← get (diagnosisKey instanceId digest) now)
  | cacheDiagnosis instanceId digest text ttl => do
    set (diagnosisKey instanceId digest) text ttl now
    return .done

/-- What a call may leave under its key. -/
def Wrote : FeatureCall → Entry String ℚ → Prop
  | countAccount _, e | countAddress _, e | giveBackAddress _, e => ∃ n : ℤ, e.value = toString n
  | revoke _, e => e.value = "1"
  | cacheDiagnosis _ _ text _, e => e.value = text
  | _, _ => False

section
variable {env : Env} {tokens : TokenEnv} {now : ℚ}

theorem owns_key (c : FeatureCall) : c.feature.Owns (c.key env) := by
  cases c with
  | countAccount email | clearAccount email => exact Feature.owns_append .account _
  | countAddress clientIp | giveBackAddress clientIp => exact Feature.owns_append .address _
  | revoke claims => exact Feature.owns_append .revocation _
  | isRevoked jti => exact Feature.owns_append .revocation _
  | readDiagnosis instanceId digest | cacheDiagnosis instanceId digest text ttl =>
    rw [key, diagnosisKey_eq]
    exact Feature.owns_append .diagnosis _

theorem revokeToken_usesOnly (claims : Claims) :
    UsesOnly now (revokedKey claims.jti) (fun e => e.value = "1")
      (revokeToken tokens claims now) := by
  by_cases h : 0 < truncate (claims.exp - tokens.wall now)
  · simp only [revokeToken, h, if_true]
    exact set_usesOnly _ _ _ _
  · simp only [revokeToken, h, if_false]
    exact UsesOnly.of_keeps (r := fun _ => .ok ()) fun s => ⟨s, rfl, Keeps.refl⟩

theorem run_usesOnly (c : FeatureCall) :
    UsesOnly now (c.key env) c.Wrote (c.run env tokens now) := by
  cases c with
  | countAccount email => exact (add_usesOnly _ _ _ _).map _
  | clearAccount email => exact (delete_usesOnly _ _).map _
  | countAddress clientIp => exact (add_usesOnly _ _ _ _).map _
  | giveBackAddress clientIp => exact (add_usesOnly _ _ _ _).map _
  | revoke claims => exact (revokeToken_usesOnly claims).map _
  | isRevoked jti => exact (contains_usesOnly _ _).map _
  | readDiagnosis instanceId digest => exact (get_usesOnly _ _).map _
  | cacheDiagnosis instanceId digest text ttl => exact (set_usesOnly _ _ _ _).map _

end

-- ---------------------------------------------------------------------------
-- Runs
-- ---------------------------------------------------------------------------

section
variable (env : Env) (tokens : TokenEnv)

/-- A call at a time; the state has the time of the last one. -/
def step (s : ℚ × MemoryStore) (e : ℚ × FeatureCall) :
    Except ApiError (StoreReply String ℤ) × (ℚ × MemoryStore) :=
  let (reply, s') := (e.2.run env tokens e.1).run s.2
  (reply, (e.1, s'))

/-- Times do not decrease. -/
def InOrder (start : ℚ) (calls : List (ℚ × FeatureCall)) : Prop :=
  Along (fun s e => (step env tokens s e).2) (fun s e => s.1 ≤ e.1) (start, new start) calls

def shared (start : ℚ) (calls : List (ℚ × FeatureCall)) : ℚ × MemoryStore :=
  after (step env tokens) (start, new start) calls

/-- The calls of one feature. -/
def part (f : Feature) (calls : List (ℚ × FeatureCall)) : List (ℚ × FeatureCall) :=
  calls.filter fun e => e.2.feature = f

/-- The store of one feature that saw only its own calls. -/
def alone (f : Feature) (start : ℚ) (calls : List (ℚ × FeatureCall)) : ℚ × MemoryStore :=
  shared env tokens start (part f calls)

end

-- ---------------------------------------------------------------------------
-- A feature on its own
-- ---------------------------------------------------------------------------

/-- The same is found under the feature's keys. -/
def Agrees (f : Feature) (s t : ℚ × MemoryStore) : Prop :=
  ∀ key, f.Owns key → ∀ now, s.1 ≤ now → s.2.look now key = t.2.look now key

section
variable {env : Env} {tokens : TokenEnv} {f : Feature} {s t : ℚ × MemoryStore}
  {e : ℚ × FeatureCall} {start now : ℚ} {calls : List (ℚ × FeatureCall)}

theorem Agrees.refl (s : ℚ × MemoryStore) : Agrees f s s := fun _ _ _ _ => rfl

theorem Agrees.own (h : Agrees f s t) (hle : s.1 ≤ e.1) (hf : e.2.feature = f) :
    (step env tokens s e).1 = (step env tokens t e).1 ∧
      Agrees f (step env tokens s e).2 (step env tokens t e).2 := by
  obtain ⟨now, c⟩ := e
  have huses : UsesOnly now (c.key env) c.Wrote (c.run env tokens now) := c.run_usesOnly
  have hlook := h (c.key env) (hf ▸ c.owns_key) now hle
  refine ⟨huses.reply hlook, fun key hkey later hlater => ?_⟩
  rcases eq_or_ne key (c.key env) with rfl | hne
  · exact huses.same hlater hlook
  · calc (step env tokens s (now, c)).2.2.look later key = s.2.look later key :=
          huses.other s.2 hlater hne
      _ = t.2.look later key := h key hkey later (hle.trans hlater)
      _ = (step env tokens t (now, c)).2.2.look later key := (huses.other t.2 hlater hne).symm

theorem Agrees.others (h : Agrees f s t) (hle : s.1 ≤ e.1) (hf : e.2.feature ≠ f) :
    Agrees f (step env tokens s e).2 t := by
  intro key hkey later hlater
  have hne : key ≠ e.2.key env := by
    rintro rfl
    exact hf (e.2.owns_key.unique hkey)
  exact (e.2.run_usesOnly.other s.2 hlater hne).trans (h key hkey later (hle.trans hlater))

theorem replies_alone (f : Feature) (h : InOrder env tokens start calls) :
    repliesTo (fun e => e.2.feature = f) (step env tokens) (start, new start) calls =
        replies (step env tokens) (start, new start) (part f calls) ∧
      Agrees f (shared env tokens start calls) (alone env tokens f start calls) := by
  refine repliesTo_filter (fun s t e hst hle hf => ?_) (fun s t e hst hle hf => ?_)
    (Agrees.refl _) h
  · exact hst.own hle (by simpa using hf)
  · exact hst.others hle (by simpa using hf)

-- ---------------------------------------------------------------------------
-- Where an entry comes from
-- ---------------------------------------------------------------------------

/-- Every entry that is live has been left by an earlier call for its key. -/
def Traced (env : Env) (past : List (ℚ × FeatureCall)) (s : ℚ × MemoryStore) : Prop :=
  ∀ key entry, s.2.look s.1 key = some entry → ∃ c ∈ past, c.2.key env = key ∧ c.2.Wrote entry

theorem traced_new (env : Env) (start : ℚ) : Traced env [] (start, new start) :=
  fun _ _ he => nomatch he

theorem Traced.later (h : Traced env calls s) (hle : s.1 ≤ now) {key : String}
    {entry : Entry String ℚ} (he : s.2.look now key = some entry) :
    ∃ c ∈ calls, c.2.key env = key ∧ c.2.Wrote entry := by
  rw [← alive_look hle] at he
  exact h key entry (alive_eq_some.mp he).1

theorem Traced.step (h : Traced env calls s) (hle : s.1 ≤ e.1) :
    Traced env (calls ++ [e]) (step env tokens s e).2 := by
  intro key entry he
  rcases e.2.run_usesOnly.found he with hbefore | ⟨rfl, hwrote⟩
  · obtain ⟨c, hc, hrest⟩ := h.later hle hbefore
    exact ⟨c, List.mem_append_left _ hc, hrest⟩
  · exact ⟨e, by simp, rfl, hwrote⟩

theorem shared_traced (h : InOrder env tokens start calls) :
    Traced env calls (shared env tokens start calls) :=
  after_history (Q := fun past s => Traced env past s) (fun _ _ _ hs hle => hs.step hle)
    (traced_new env start) h

/-- What counters find is a number. -/
theorem Traced.number (h : Traced env calls s) (hle : s.1 ≤ now) {c : FeatureCall}
    (hc : c.feature = .account ∨ c.feature = .address) {entry : Entry String ℚ}
    (he : s.2.look now (c.key env) = some entry) : ∃ n : ℤ, entry.value = toString n := by
  obtain ⟨⟨_, c'⟩, -, hkey, hwrote⟩ := h.later hle he
  have howns : c'.feature.Owns (c.key env) := hkey ▸ c'.owns_key
  have hfeature := howns.unique c.owns_key
  cases c' with
  | countAccount _ | countAddress _ | giveBackAddress _ => exact hwrote
  | clearAccount _ | isRevoked _ | readDiagnosis _ _ => exact hwrote.elim
  | revoke _ | cacheDiagnosis _ _ _ _ =>
    rw [← hfeature] at hc
    simp [feature] at hc

theorem Traced.revoked (h : Traced env calls s) (hle : s.1 ≤ now) {jti : String}
    (he : (s.2.look now (revokedKey jti)).isSome) :
    ∃ e ∈ calls, ∃ claims, e.2 = .revoke claims ∧ claims.jti = jti := by
  obtain ⟨entry, hentry⟩ := Option.isSome_iff_exists.mp he
  obtain ⟨⟨t, c⟩, hc, hkey, hwrote⟩ := h.later hle hentry
  have howns : c.feature.Owns (revokedKey jti) := hkey ▸ c.owns_key
  have hfeature := howns.unique (Feature.owns_append .revocation jti)
  cases c with
  | revoke claims => exact ⟨_, hc, claims, rfl, String.append_right_inj _ |>.mp hkey⟩
  | isRevoked _ => exact hwrote.elim
  | _ => simp [feature] at hfeature

-- ---------------------------------------------------------------------------
-- Counters never fail
-- ---------------------------------------------------------------------------

theorem add_ok {key : String} {s : MemoryStore} (amount ttl : ℤ)
    (h : ∀ entry, s.look now key = some entry → ∃ n : ℤ, entry.value = toString n) :
    ∃ r, ((add key amount ttl now).run s).1 = .ok r := by
  have hnumber : ∃ n, readInt? (s.counter ttl now key).value = some n := by
    unfold counter
    cases hs : s.look now key with
    | none => exact ⟨0, readInt?_repr 0⟩
    | some entry =>
      obtain ⟨n, hn⟩ := h entry hs
      exact ⟨n, hn ▸ readInt?_repr n⟩
  obtain ⟨n, hn⟩ := hnumber
  obtain ⟨s', hrun, -⟩ := add_run n amount hn
  exact ⟨_, by rw [hrun]⟩

theorem Traced.add_ok (h : Traced env calls s) (hle : s.1 ≤ now) {c : FeatureCall}
    (hc : c.feature = .account ∨ c.feature = .address) (amount ttl : ℤ) :
    ∃ r, ((add (c.key env) amount ttl now).run s.2).1 = .ok r :=
  FeatureCall.add_ok amount ttl fun _ he => h.number hle hc he

theorem Traced.ok (h : Traced env calls s) (hle : s.1 ≤ now) (c : FeatureCall) :
    ∃ r, ((c.run env tokens now).run s.2).1 = .ok r := by
  have hmap {α : Type} {x : Op α} {g : α → StoreReply String ℤ}
      (hx : ∃ a, (x.run s.2).1 = .ok a) : ∃ r, ((x >>= fun a => pure (g a)).run s.2).1 = .ok r := by
    obtain ⟨a, ha⟩ := hx
    exact ⟨g a, by rw [run_map, ha]; rfl⟩
  have hok {α : Type} {x : Op α} {a : α} {P : MemoryStore → Prop}
      (hx : ∃ s', x.run s.2 = (.ok a, s') ∧ P s') : ∃ a, (x.run s.2).1 = .ok a := by
    obtain ⟨s', hrun, -⟩ := hx
    exact ⟨a, by rw [hrun]⟩
  cases c with
  | countAccount email => exact hmap (h.add_ok hle (c := .countAccount email) (.inl rfl) _ _)
  | countAddress clientIp => exact hmap (h.add_ok hle (c := .countAddress clientIp) (.inr rfl) _ _)
  | giveBackAddress clientIp =>
    exact hmap (h.add_ok hle (c := .giveBackAddress clientIp) (.inr rfl) _ _)
  | clearAccount email => exact hmap (hok (delete_run _ now s.2))
  | revoke claims => exact hmap (hok (revokeToken_run tokens claims now s.2))
  | isRevoked jti => exact hmap (hok (contains_run _ now s.2))
  | readDiagnosis instanceId digest => exact hmap (hok (get_run _ now s.2))
  | cacheDiagnosis instanceId digest text ttl => exact hmap (hok (set_run _ text ttl now s.2))

-- ---------------------------------------------------------------------------
-- Login attempts
-- ---------------------------------------------------------------------------

variable (tokens) (email clientIp : String)

/-- A reservation makes both counts and goes by what each feature alone
answers. -/
theorem Traced.reserve {account address : ℚ × MemoryStore} (h : Traced env calls s)
    (hle : s.1 ≤ now) (haccount : Agrees .account s account)
    (haddress : Agrees .address s address) :
    ∃ a b, ((add (accountKey env email) 1 env.loginWindow now).run account.2).1 = .ok a ∧
      ((add (ipKey clientIp) 1 env.loginWindow now).run address.2).1 = .ok b ∧
      (reserveLoginAttempt env email clientIp now).run s.2 =
        (if blocked env.settings a b = [] then .ok ()
          else .error (tooMany (blocked env.settings a b)),
          (after (FeatureCall.step env tokens) s
            [(now, .countAccount email), (now, .countAddress clientIp)]).2) := by
  let counted := (FeatureCall.step env tokens s (now, .countAccount email)).2
  have hcounted : counted.2 = ((add (accountKey env email) 1 env.loginWindow now).run s.2).2 :=
    run_map_state _ _ _
  have hend : (after (FeatureCall.step env tokens) s
      [(now, .countAccount email), (now, .countAddress clientIp)]).2 =
        ((add (ipKey clientIp) 1 env.loginWindow now).run counted.2).2 :=
    run_map_state _ _ _
  have htraced : Traced env (calls ++ [(now, .countAccount email)]) counted := h.step hle
  obtain ⟨a, ha⟩ : ∃ a, ((add (accountKey env email) 1 env.loginWindow now).run s.2).1 = .ok a :=
    h.add_ok hle (c := .countAccount email) (.inl rfl) _ _
  obtain ⟨b, hb⟩ : ∃ b, ((add (ipKey clientIp) 1 env.loginWindow now).run counted.2).1 = .ok b :=
    htraced.add_ok le_rfl (c := .countAddress clientIp) (.inr rfl) _ _
  have hlook : s.2.look now (accountKey env email) = account.2.look now (accountKey env email) :=
    haccount _ (Feature.owns_append .account _) now hle
  have hlook' : counted.2.look now (ipKey clientIp) = address.2.look now (ipKey clientIp) :=
    haddress.others hle (by simp [feature]) _ (Feature.owns_append .address _) now le_rfl
  refine ⟨a, b, (add_usesOnly _ _ _ _).reply hlook ▸ ha, (add_usesOnly _ _ _ _).reply hlook' ▸ hb,
    ?_⟩
  rw [hend, reserveLoginAttempt, run_bind_ok ha, ← hcounted, run_bind_ok hb, refuseBlocked_eq]

theorem Traced.release (h : Traced env calls s) (hle : s.1 ≤ now) :
    (releaseLoginAttempt env email clientIp now).run s.2 =
      (.ok (), (after (FeatureCall.step env tokens) s
        [(now, .clearAccount email), (now, .giveBackAddress clientIp)]).2) := by
  let cleared := (FeatureCall.step env tokens s (now, .clearAccount email)).2
  have hend : (after (FeatureCall.step env tokens) s
      [(now, .clearAccount email), (now, .giveBackAddress clientIp)]).2 =
        ((add (ipKey clientIp) (-1) env.loginWindow now).run cleared.2).2 :=
    run_map_state _ _ _
  have htraced : Traced env (calls ++ [(now, .clearAccount email)]) cleared := h.step hle
  obtain ⟨b, hb⟩ : ∃ b, ((add (ipKey clientIp) (-1) env.loginWindow now).run cleared.2).1 = .ok b :=
    htraced.add_ok le_rfl (c := .giveBackAddress clientIp) (.inr rfl) _ _
  have hdelete : ((delete (accountKey env email)).run s.2) = (.ok (), cleared.2) := rfl
  rw [hend, releaseLoginAttempt, run_bind_ok (congrArg Prod.fst hdelete), hdelete, run_bind_ok hb]
  rfl

end

end FeatureCall

-- ---------------------------------------------------------------------------
-- Runs of the features' functions
-- ---------------------------------------------------------------------------

/-- A login attempt that is reserved or released at once, or a single call. -/
inductive FeatureUse
  | reserve (email clientIp : String)
  | release (email clientIp : String)
  | call (c : FeatureCall)

namespace FeatureUse

def calls : FeatureUse → List FeatureCall
  | reserve email clientIp => [.countAccount email, .countAddress clientIp]
  | release email clientIp => [.clearAccount email, .giveBackAddress clientIp]
  | call c => [c]

def callsOf (uses : List (ℚ × FeatureUse)) : List (ℚ × FeatureCall) :=
  uses.flatMap fun e => e.2.calls.map fun c => (e.1, c)

section
variable (env : Env) (tokens : TokenEnv)

def use (now : ℚ) : FeatureUse → MemoryStore → MemoryStore
  | reserve email clientIp, s => ((reserveLoginAttempt env email clientIp now).run s).2
  | release email clientIp, s => ((releaseLoginAttempt env email clientIp now).run s).2
  | call c, s => ((c.run env tokens now).run s).2

def step (s : ℚ × MemoryStore) (e : ℚ × FeatureUse) : ℚ × MemoryStore :=
  (e.1, e.2.use env tokens e.1 s.2)

/-- Times do not decrease. -/
def InOrder (start : ℚ) (uses : List (ℚ × FeatureUse)) : Prop :=
  Along (step env tokens) (fun s e => s.1 ≤ e.1) (start, new start) uses

instance (start : ℚ) (uses : List (ℚ × FeatureUse)) : Decidable (InOrder env tokens start uses) :=
  inferInstanceAs (Decidable (Along _ _ _ _))

end

section
variable {env : Env} {tokens : TokenEnv} {s : ℚ × MemoryStore} {past : List (ℚ × FeatureCall)}

theorem along_same_time (env : Env) (tokens : TokenEnv) {now : ℚ} (hle : s.1 ≤ now) (cs : List FeatureCall) :
    Along (fun s e => (FeatureCall.step env tokens s e).2) (fun s e => s.1 ≤ e.1) s
      (cs.map fun c => (now, c)) := by
  induction cs generalizing s with
  | nil => trivial
  | cons c cs ih => exact ⟨hle, ih le_rfl⟩

/-- No login attempt revokes a token. -/
theorem mem_of_revoke {uses : List (ℚ × FeatureUse)} {e : ℚ × FeatureCall} {claims : Claims}
    (he : e ∈ callsOf uses) (hclaims : e.2 = .revoke claims) :
    (e.1, .call (.revoke claims)) ∈ uses := by
  obtain ⟨⟨now, u⟩, hu, hmap⟩ := List.mem_flatMap.mp he
  obtain ⟨c, hc, rfl⟩ := List.mem_map.mp hmap
  cases u with
  | call c' =>
    obtain rfl : c = c' := List.mem_singleton.mp hc
    exact hclaims ▸ hu
  | reserve _ _ | release _ _ =>
    obtain rfl : c = .revoke claims := hclaims
    simp [calls] at hc

/-- A use leaves what its calls leave: its first call never fails. -/
theorem step_eq_after (h : FeatureCall.Traced env past s) (e : ℚ × FeatureUse) (hle : s.1 ≤ e.1) :
    step env tokens s e =
      after (FeatureCall.step env tokens) s (e.2.calls.map fun c => (e.1, c)) := by
  obtain ⟨now, u⟩ := e
  cases u with
  | reserve email clientIp =>
    obtain ⟨_, _, -, -, hrun⟩ :=
      h.reserve tokens email clientIp hle (FeatureCall.Agrees.refl s) (FeatureCall.Agrees.refl s)
    have hstate := congrArg Prod.snd hrun
    exact Prod.ext rfl hstate
  | release email clientIp =>
    have hstate := congrArg Prod.snd (h.release tokens email clientIp hle)
    exact Prod.ext rfl hstate
  | call c => rfl

theorem play_eq_after {uses : List (ℚ × FeatureUse)} (h : FeatureCall.Traced env past s)
    (huses : Along (step env tokens) (fun s e => s.1 ≤ e.1) s uses) :
    Along (fun s e => (FeatureCall.step env tokens s e).2) (fun s e => s.1 ≤ e.1) s
        (callsOf uses) ∧
      play (step env tokens) s uses = after (FeatureCall.step env tokens) s (callsOf uses) := by
  induction uses generalizing s past with
  | nil => exact ⟨trivial, rfl⟩
  | cons e uses ih =>
    have hcalls := along_same_time env tokens huses.1 e.2.calls
    have hnext : FeatureCall.Traced env (past ++ e.2.calls.map fun c => (e.1, c))
        (after (FeatureCall.step env tokens) s (e.2.calls.map fun c => (e.1, c))) :=
      after_history (Q := fun past s => FeatureCall.Traced env past s)
        (fun _ _ _ hs hle => hs.step hle) h hcalls
    have hlater := huses.2
    rw [step_eq_after h e huses.1] at hlater
    obtain ⟨halong, hplay⟩ := ih hnext hlater
    have hcons : callsOf (e :: uses) = (e.2.calls.map fun c => (e.1, c)) ++ callsOf uses := rfl
    rw [hcons, play_cons, step_eq_after h e huses.1, after_append]
    exact ⟨Along.append.mpr ⟨hcalls, halong⟩, hplay⟩

end

-- ---------------------------------------------------------------------------
-- Noninterference
-- ---------------------------------------------------------------------------

open FeatureCall (alone shared)

/-- In a run that mixes the uses of all features, each feature is answered as
on a store that saw its own calls only. The next login attempt goes by what the
two limits answer alone, only a revoked token is found revoked, a counter finds
numbers only, and no call fails. -/
theorem features_never_interfere (env : Env) (tokens : TokenEnv) (start : ℚ)
    (uses : List (ℚ × FeatureUse)) (h : InOrder env tokens start uses) :
    (∀ f : Feature,
      repliesTo (fun e => e.2.feature = f) (FeatureCall.step env tokens) (start, new start)
          (callsOf uses) =
        replies (FeatureCall.step env tokens) (start, new start)
          ((callsOf uses).filter fun e => e.2.feature = f)) ∧
    ∀ s, s = play (step env tokens) (start, new start) uses →
      s = shared env tokens start (callsOf uses) ∧ ∀ now, s.1 ≤ now →
      (∀ email clientIp,
        (∃ account ip,
          ((add (accountKey env email) 1 env.loginWindow now).run
            (alone env tokens .account start (callsOf uses)).2).1 = .ok account ∧
          ((add (ipKey clientIp) 1 env.loginWindow now).run
            (alone env tokens .address start (callsOf uses)).2).1 = .ok ip ∧
          ((reserveLoginAttempt env email clientIp now).run s.2).1 =
            if blocked env.settings account ip = [] then .ok ()
            else .error (tooMany (blocked env.settings account ip))) ∧
        ((releaseLoginAttempt env email clientIp now).run s.2).1 = .ok ()) ∧
      (∀ jti, ((isTokenRevoked jti now).run s.2).1 = .ok true →
        ∃ e ∈ uses, ∃ claims, e.2 = .call (.revoke claims) ∧ claims.jti = jti) ∧
      (∀ c : FeatureCall, c.feature = .account ∨ c.feature = .address →
        ∀ entry, s.2.look now (c.key env) = some entry → ∃ n : ℤ, entry.value = toString n) ∧
      ∀ c : FeatureCall, ∃ reply, ((c.run env tokens now).run s.2).1 = .ok reply := by
  obtain ⟨hcalls, hplay⟩ := play_eq_after (FeatureCall.traced_new env start) h
  refine ⟨fun f => (FeatureCall.replies_alone f hcalls).1, ?_⟩
  rintro s rfl
  refine ⟨hplay, ?_⟩
  rw [hplay]
  intro now hle
  have htraced := FeatureCall.shared_traced hcalls
  refine ⟨fun email clientIp => ⟨?_, ?_⟩, fun jti hjti => ?_,
    fun c hc entry he => htraced.number hle hc he, fun c => htraced.ok hle c⟩
  · obtain ⟨account, ip, ha, hip, hrun⟩ := htraced.reserve tokens email clientIp hle
      (FeatureCall.replies_alone .account hcalls).2 (FeatureCall.replies_alone .address hcalls).2
    exact ⟨account, ip, ha, hip, congrArg Prod.fst hrun⟩
  · exact congrArg Prod.fst (htraced.release tokens email clientIp hle)
  · obtain ⟨s', hrun, -⟩ := contains_run (revokedKey jti) now
      (after (FeatureCall.step env tokens) (start, new start) (callsOf uses)).2
    rw [isTokenRevoked, hrun] at hjti
    obtain ⟨e, he, claims, hclaims, hsame⟩ := htraced.revoked hle (Except.ok.inj hjti)
    exact ⟨_, mem_of_revoke he hclaims, claims, rfl, hsame⟩

def noTokens : TokenEnv := { offset := 0, verify := fun _ => none }

def mallory : Claims :=
  { sub := "7", email := "mallory@techvalley.vn", role := "MANAGER", iat := 0, exp := 900,
    jti := "login:account:admin@techvalley.vn" }

/-- Texts made to look like other features' keys, and a purge at 400. -/
def crossedUses : List (ℚ × FeatureUse) :=
  [(0, .reserve " Admin@techvalley.vn" "10.0.0.1"), (1 / 2, .call (.revoke mallory)),
    (1, .reserve "revoked:login:account:admin@techvalley.vn" ":10.0.0.1"),
    (2, .call (.cacheDiagnosis 7 "login:ip:10.0.0.1" "Disk full." 300)),
    (3, .call (.countAccount "diagnosis:7")),
    (4, .call (.isRevoked "login:account:admin@techvalley.vn")),
    (4, .release "admin@techvalley.vn" "10.0.0.1"), (400, .reserve "admin@techvalley.vn" ""),
    (401, .call (.readDiagnosis 7 "login:ip:10.0.0.1"))]

theorem features_never_interfere_crossed :
    InOrder (.every 0) noTokens 0 crossedUses ∧
      (∀ f : Feature,
        repliesTo (fun e => e.2.feature = f) (FeatureCall.step (.every 0) noTokens) (0, new 0)
            (callsOf crossedUses) =
          replies (FeatureCall.step (.every 0) noTokens) (0, new 0)
            ((callsOf crossedUses).filter fun e => e.2.feature = f)) ∧
      play (step (.every 0) noTokens) (0, new 0) crossedUses =
        shared (.every 0) noTokens 0 (callsOf crossedUses) :=
  have h : InOrder (.every 0) noTokens 0 crossedUses := by decide +kernel
  have halone := features_never_interfere (.every 0) noTokens 0 crossedUses h
  ⟨h, halone.1, (halone.2 _ rfl).1⟩

end FeatureUse

end CloudMonitor
