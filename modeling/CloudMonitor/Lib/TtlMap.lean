import CloudMonitor.Lib.Expiring
import CloudMonitor.Lib.Schedule
import Mathlib.Algebra.Order.Ring.Int
import Mathlib.Data.Int.Cast.Lemmas
import Mathlib.Algebra.Order.Ring.Cast

/-!
# Maps with a time to live

What a store with expiring keys is for: every key has what was last written
there, until its expiry, and a counter keeps the end of the window it was begun
with. Nothing is ever dropped: an entry that has expired counts as absent. A
store that answers the same calls simulates this map (`replies_simulate`).
-/

namespace CloudMonitor

-- ---------------------------------------------------------------------------
-- Systems that answer
-- ---------------------------------------------------------------------------

section
variable {σ σ' ε ρ ρ' : Type}

def replies (step : σ → ε → ρ × σ) : σ → List ε → List ρ
  | _, [] => []
  | s, e :: events => (step s e).1 :: replies step (step s e).2 events

def after (step : σ → ε → ρ × σ) : σ → List ε → σ := play fun s e => (step s e).2

theorem after_append {step : σ → ε → ρ × σ} {s : σ} {es fs : List ε} :
    after step s (es ++ fs) = after step (after step s es) fs :=
  play_append _ _

/-- Two systems that keep `R` and give related replies while they do. -/
theorem replies_simulate {step : σ → ε → ρ × σ} {step' : σ' → ε → ρ' × σ'} {C : σ → ε → Prop}
    {R : σ → σ' → Prop} {Q : ρ → ρ' → Prop}
    (hstep : ∀ s s' e, R s s' → C s e → Q (step s e).1 (step' s' e).1 ∧
      R (step s e).2 (step' s' e).2) {s : σ} {s' : σ'} {events : List ε} (h : R s s')
    (hc : Along (fun s e => (step s e).2) C s events) :
    List.Forall₂ Q (replies step s events) (replies step' s' events) ∧
      R (after step s events) (after step' s' events) := by
  induction events generalizing s s' with
  | nil => exact ⟨.nil, h⟩
  | cons e events ih =>
    obtain ⟨hq, hr⟩ := hstep s s' e h hc.1
    obtain ⟨hqs, hrs⟩ := ih hr hc.2
    exact ⟨.cons hq hqs, hrs⟩

end

-- ---------------------------------------------------------------------------
-- Calls and replies
-- ---------------------------------------------------------------------------

inductive StoreCall (κ ν : Type)
  | get (key : κ)
  | set (key : κ) (value : ν) (ttl : ℤ)
  | contains (key : κ)
  | delete (key : κ)
  | add (key : κ) (amount ttl : ℤ)
  deriving DecidableEq

/-- Neither sets nor deletes the key. -/
def StoreCall.Spares (key : κ) : StoreCall κ ν → Prop
  | .set k _ _ => k ≠ key
  | .delete k => k ≠ key
  | _ => True

/-- A counter is answered with the time its window has left. -/
inductive StoreReply (ν S : Type)
  | got (value : Option ν)
  | contained (found : Bool)
  | done
  | counted (value : ℤ) (left : S)
  deriving DecidableEq

def StoreReply.map (f : S → S') : StoreReply ν S → StoreReply ν S'
  | .got value => .got value
  | .contained found => .contained found
  | .done => .done
  | .counted value left => .counted value (f left)

/-- What a key holds: a value that was set, or a counter. -/
inductive Content (ν : Type)
  | value (v : ν)
  | count (n : ℤ)
  deriving DecidableEq

/-- What a read finds, with the digits of a counter. -/
def Content.shown (digits : ℤ → ν) : Content ν → ν
  | .value v => v
  | .count n => digits n

def Content.isCount : Content ν → Bool
  | .value _ => false
  | .count _ => true

def Content.number : Content ν → ℤ
  | .value _ => 0
  | .count n => n

-- ---------------------------------------------------------------------------
-- The map
-- ---------------------------------------------------------------------------

abbrev TtlMap (κ ν K : Type) : Type := κ → Option (Entry (Content ν) K)

namespace TtlMap

section
variable {κ ν K : Type} [DecidableEq κ] [LinearOrder K]

def empty : TtlMap κ ν K := fun _ => none

def look (m : TtlMap κ ν K) (now : K) (key : κ) : Option (Entry (Content ν) K) := alive now (m key)

theorem look_update_self (m : TtlMap κ ν K) (now : K) (key : κ)
    (o : Option (Entry (Content ν) K)) : look (Function.update m key o) now key = alive now o := by
  rw [look, Function.update_self]

theorem look_update_of_ne (m : TtlMap κ ν K) (now : K) {k key : κ} (h : k ≠ key)
    (o : Option (Entry (Content ν) K)) : look (Function.update m key o) now k = m.look now k := by
  rw [look, Function.update_of_ne h, look]

variable [Ring K]

/-- What a counter goes on from: its live entry, else zero and a new window. -/
def begun (window now : K) (o : Option (Entry (Content ν) K)) : Entry ℤ K :=
  ((alive now o).map (Entry.map Content.number)).getD { value := 0, expires := now + window }

def bumped (window now : K) (amount : ℤ) (o : Option (Entry (Content ν) K)) : Entry ℤ K :=
  { begun window now o with value := (begun window now o).value + amount }

def call (digits : ℤ → ν) (now : K) (m : TtlMap κ ν K) :
    StoreCall κ ν → StoreReply ν K × TtlMap κ ν K
  | .get key => (.got ((m.look now key).map fun e => e.value.shown digits), m)
  | .set key v ttl =>
    (.done, Function.update m key (some { value := .value v, expires := now + ttl }))
  | .contains key => (.contained (m.look now key).isSome, m)
  | .delete key => (.done, Function.update m key none)
  | .add key amount ttl =>
    let e := bumped (ttl : K) now amount (m key)
    (.counted e.value (e.expires - now), Function.update m key (some (e.map .count)))

/-- A positive time to live, and a counter only under a key that is absent or
was last written by `add`. -/
def Allows (m : TtlMap κ ν K) (now : K) : StoreCall κ ν → Prop
  | .set _ _ ttl => 0 < ttl
  | .add key _ ttl => 0 < ttl ∧ ∀ e ∈ m.look now key, e.value.isCount
  | _ => True

/-- A call at a time; the state has the time of the last one. -/
def step (digits : ℤ → ν) (s : K × TtlMap κ ν K) (e : K × StoreCall κ ν) :
    StoreReply ν K × (K × TtlMap κ ν K) :=
  let (reply, m) := s.2.call digits e.1 e.2
  (reply, (e.1, m))

/-- Times do not decrease, and the calls are allowed. -/
def Proper (s : K × TtlMap κ ν K) (e : K × StoreCall κ ν) : Prop := s.1 ≤ e.1 ∧ s.2.Allows e.1 e.2

instance (m : TtlMap κ ν K) (now : K) : ∀ c, Decidable (m.Allows now c)
  | .get _ => isTrue trivial
  | .set _ _ ttl => inferInstanceAs (Decidable (0 < ttl))
  | .contains _ => isTrue trivial
  | .delete _ => isTrue trivial
  | .add key _ ttl =>
    inferInstanceAs (Decidable (0 < ttl ∧ ∀ e ∈ m.look now key, e.value.isCount))

instance (s : K × TtlMap κ ν K) (e : K × StoreCall κ ν) : Decidable (Proper s e) :=
  inferInstanceAs (Decidable (_ ∧ _))

theorem begun_absent {window now : K} {o : Option (Entry (Content ν) K)} (h : alive now o = none) :
    begun window now o = { value := 0, expires := now + window } := by
  rw [begun, h]
  rfl

theorem begun_live {window now : K} {o : Option (Entry (Content ν) K)} {e : Entry (Content ν) K}
    (h : alive now o = some e) : begun window now o = e.map Content.number := by
  rw [begun, h]
  rfl

theorem lt_begun_expires [IsOrderedRing K] {window now : K} (hw : 0 < window)
    (o : Option (Entry (Content ν) K)) : now < (begun window now o).expires := by
  cases h : alive now o with
  | none =>
    rw [begun_absent h]
    exact lt_add_of_pos_right now hw
  | some e =>
    rw [begun_live h]
    exact (alive_eq_some.mp h).2

-- ---------------------------------------------------------------------------
-- Windows
-- ---------------------------------------------------------------------------

/-- Until `limit` the key has an entry that expires then. -/
def Ends (key : κ) (limit : K) (s : K × TtlMap κ ν K) : Prop :=
  s.1 < limit → ∃ e, s.2 key = some e ∧ e.expires = limit

theorem Ends.step {digits : ℤ → ν} {key : κ} {limit : K} {s : K × TtlMap κ ν K}
    {e : K × StoreCall κ ν} (h : Ends key limit s) (hle : s.1 ≤ e.1) (hspares : e.2.Spares key) :
    Ends key limit (TtlMap.step digits s e).2 := by
  obtain ⟨now, c⟩ := e
  intro hlt
  obtain ⟨entry, hentry, hexp⟩ := h (hle.trans_lt hlt)
  cases c with
  | get k => exact ⟨entry, hentry, hexp⟩
  | contains k => exact ⟨entry, hentry, hexp⟩
  | set k v ttl => exact ⟨entry, (Function.update_of_ne (Ne.symm hspares) _ _).trans hentry, hexp⟩
  | delete k => exact ⟨entry, (Function.update_of_ne (Ne.symm hspares) _ _).trans hentry, hexp⟩
  | add k amount ttl =>
    rcases eq_or_ne key k with rfl | hk
    · have hlive : alive now (s.2 key) = some entry := alive_eq_some.mpr ⟨hentry, hexp ▸ hlt⟩
      refine ⟨_, Function.update_self .., ?_⟩
      simp only [Entry.map, bumped, begun_live hlive]
      exact hexp
    · exact ⟨entry, (Function.update_of_ne hk _ _).trans hentry, hexp⟩

/-- Calls that neither set nor delete a key leave its window as it is. -/
theorem Ends.after {digits : ℤ → ν} {key : κ} {limit : K} {s : K × TtlMap κ ν K}
    {events : List (K × StoreCall κ ν)} (h : Ends key limit s)
    (hspares : ∀ e ∈ events, e.2.Spares key)
    (hp : Along (fun s e => (TtlMap.step digits s e).2) Proper s events) :
    Ends key limit (after (TtlMap.step digits) s events) := by
  induction events generalizing s with
  | nil => exact h
  | cons e events ih =>
    exact ih (h.step hp.1.1 (hspares e List.mem_cons_self))
      (fun e' he' => hspares e' (List.mem_cons_of_mem e he')) hp.2

end

end TtlMap

end CloudMonitor
