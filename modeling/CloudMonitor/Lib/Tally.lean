import CloudMonitor.Lib.Expiring
import Mathlib.Algebra.Order.Monoid.Defs
import Mathlib.Data.Finset.Max
import Mathlib.Data.Int.Interval
import Mathlib.Order.Interval.Finset.Defs

/-!
# Counters in fixed windows

A counter begins a life with the first change it gets while nothing is
stored; the life ends `window` later, or when the counter is cleared. A tally
is one such counter with a record of its past: when each life began, when a
life was cleared away, and in which life and as which number each participant
was counted.

`Sound` relates the record to the clock, `Counted` holds while participants
are only counted, and `Balanced` while each is given back in the life that
counted it.
-/

namespace CloudMonitor

structure Slot (K : Type) where
  life : ℕ
  count : ℤ
  instant : K
  deriving DecidableEq

structure Tally (ι K : Type) where
  stored : Option (Entry ℤ K)
  lives : ℕ
  born : ℕ → K
  cleared : List K
  slot : ι → Option (Slot K)
  givenBack : ι → Bool

namespace Tally

section
variable {ι K : Type} [LinearOrder K]

def fresh [Zero K] : Tally ι K where
  stored := none
  lives := 0
  born _ := 0
  cleared := []
  slot _ := none
  givenBack _ := false

def live (now : K) (t : Tally ι K) : Option (Entry ℤ K) := alive now t.stored

def value (t : Tally ι K) : ℤ := (t.stored.map Entry.value).getD 0

def renew [Add K] (window now : K) (t : Tally ι K) : Tally ι K :=
  { t with
    stored := some { value := 0, expires := now + window }
    lives := t.lives + 1
    born := Function.update t.born (t.lives + 1) now }

def bump (amount : ℤ) (t : Tally ι K) : Tally ι K :=
  { t with stored := t.stored.map fun e => { e with value := e.value + amount } }

/-- A life is running: the one that is, else a new one. -/
def ensure [Add K] (window now : K) (t : Tally ι K) : Tally ι K :=
  if (t.live now).isSome then t else t.renew window now

def add [Add K] (window now : K) (amount : ℤ) (t : Tally ι K) : Tally ι K :=
  (t.ensure window now).bump amount

def assign [DecidableEq ι] (now : K) (i : ι) (t : Tally ι K) : Tally ι K :=
  { t with
    slot := Function.update t.slot i
      (some { life := t.lives, count := t.value, instant := now }) }

def reserve [DecidableEq ι] [Add K] (window now : K) (i : ι) (t : Tally ι K) : Tally ι K :=
  (t.add window now 1).assign now i

def giveBack [DecidableEq ι] [Add K] (window now : K) (i : ι) (t : Tally ι K) : Tally ι K :=
  let t := t.add window now (-1)
  { t with givenBack := Function.update t.givenBack i true }

def clear (now : K) (t : Tally ι K) : Tally ι K :=
  { t with
    stored := none
    cleared := if (t.live now).isSome then now :: t.cleared else t.cleared }

/-- Life `n` is over by the instant `u`. -/
def Ended [Add K] (window : K) (t : Tally ι K) (n : ℕ) (u : K) : Prop :=
  t.born n + window ≤ u ∨ ∃ d ∈ t.cleared, t.born n ≤ d ∧ d ≤ u

end

-- ---------------------------------------------------------------------------
-- The record and the clock
-- ---------------------------------------------------------------------------

section
variable {ι K : Type} [AddCommMonoid K] [LinearOrder K]
variable {window now now' : K} {t : Tally ι K} {i j : ι} {s s' : Slot K} {e : Entry ℤ K}
  {amount : ℤ}

structure Sound (window now : K) (t : Tally ι K) : Prop where
  begun : ∀ n, 0 < n → n ≤ t.lives → t.born n ≤ now
  apart : ∀ m n, 0 < m → m < n → n ≤ t.lives → t.born m ≤ t.born n ∧ t.Ended window m (t.born n)
  running : ∀ e, t.stored = some e → 0 < t.lives ∧ e.expires = t.born t.lives + window
  stopped : t.stored = none → 0 < t.lives → t.Ended window t.lives now
  slots : ∀ i s, t.slot i = some s →
    0 < s.life ∧ s.life ≤ t.lives ∧ t.born s.life ≤ s.instant ∧ s.instant ≤ now
  earlier : ∀ i s n, t.slot i = some s → s.life < n → n ≤ t.lives → s.instant ≤ t.born n

theorem Ended.later {n : ℕ} (h : t.Ended window n now) (hle : now ≤ now') : t.Ended window n now' :=
  h.imp (fun h => h.trans hle) (fun ⟨d, hd, hb, hn⟩ => ⟨d, hd, hb, hn.trans hle⟩)

omit [AddCommMonoid K] in
theorem live_later (hle : now ≤ now') (h : t.live now' = some e) : t.live now = some e := by
  rw [live, alive_eq_some] at h ⊢
  exact ⟨h.1, hle.trans_lt h.2⟩

theorem ensure_live (h : t.live now = some e) : t.ensure window now = t := by
  simp [ensure, h]

theorem ensure_none (h : t.live now = none) : t.ensure window now = t.renew window now := by
  simp [ensure, h]

omit [LinearOrder K] in
theorem renew_born_self : (t.renew window now).born (t.renew window now).lives = now := by
  simp [renew]

omit [LinearOrder K] in
theorem renew_born {n : ℕ} (h : n ≤ t.lives) : (t.renew window now).born n = t.born n := by
  simp [renew, show n ≠ t.lives + 1 by omega]

theorem renew_ended {n : ℕ} {u : K} (h : n ≤ t.lives) :
    (t.renew window now).Ended window n u ↔ t.Ended window n u := by
  simp only [Ended, renew_born h]
  rfl

theorem Sound.fresh : Sound window now (fresh : Tally ι K) where
  begun n h0 h := absurd h (by simpa [Tally.fresh] using h0.ne')
  apart m n h0 hmn h := absurd h (by simp [Tally.fresh]; omega)
  running e h := by simp [Tally.fresh] at h
  stopped _ h := by simp [Tally.fresh] at h
  slots i s h := by simp [Tally.fresh] at h
  earlier i s n h := by simp [Tally.fresh] at h

theorem Sound.later (h : Sound window now t) (hle : now ≤ now') : Sound window now' t where
  begun n h0 hn := (h.begun n h0 hn).trans hle
  apart := h.apart
  running := h.running
  stopped hs h0 := (h.stopped hs h0).later hle
  slots i s hs := by
    obtain ⟨h0, hl, hb, hn⟩ := h.slots i s hs
    exact ⟨h0, hl, hb, hn.trans hle⟩
  earlier := h.earlier

theorem Sound.ended (h : Sound window now t) (hn : t.live now = none) (h0 : 0 < t.lives) :
    t.Ended window t.lives now := by
  cases hs : t.stored with
  | none => exact h.stopped hs h0
  | some e =>
    have he : e.expires ≤ now := by simpa [live, hs, alive_eq_none] using hn
    exact .inl ((h.running e hs).2 ▸ he)

theorem Sound.renew (h : Sound window now t) (hl : t.live now = none) :
    Sound window now (t.renew window now) where
  begun n h0 hn := by
    rcases Nat.le_succ_iff.mp hn with hn | rfl
    · exact (renew_born hn).trans_le (h.begun n h0 hn)
    · exact renew_born_self.le
  apart m n h0 hmn hn := by
    have hm : m ≤ t.lives := Nat.lt_succ_iff.mp (hmn.trans_le hn)
    rw [renew_ended hm, renew_born hm]
    rcases Nat.le_succ_iff.mp hn with hn | rfl
    · rw [renew_born hn]
      exact h.apart m n h0 hmn hn
    · refine ⟨(h.begun m h0 hm).trans_eq renew_born_self.symm, Ended.later ?_ renew_born_self.ge⟩
      -- the last life is over now, the ones before it were over when it began
      rcases Nat.lt_or_eq_of_le hm with hlt | rfl
      · exact (h.apart m t.lives h0 hlt le_rfl).2.later (h.begun _ (h0.trans hlt) le_rfl)
      · exact h.ended hl h0
  running := by
    rintro _ ⟨⟩
    exact ⟨Nat.succ_pos _, congrArg (· + window) renew_born_self.symm⟩
  stopped := by simp [Tally.renew]
  slots i s hs := by
    obtain ⟨h0, hle, hb, hi⟩ := h.slots i s hs
    exact ⟨h0, Nat.le_succ_of_le hle, (renew_born hle).trans_le hb, hi⟩
  earlier i s n hs hlt hn := by
    rcases Nat.le_succ_iff.mp hn with hn | rfl
    · rw [renew_born hn]
      exact h.earlier i s n hs hlt hn
    · exact (h.slots i s hs).2.2.2.trans_eq renew_born_self.symm

theorem Sound.bump (h : Sound window now t) : Sound window now (t.bump amount) where
  begun := h.begun
  apart := h.apart
  running := by
    intro e he
    obtain ⟨e', he', rfl⟩ := Option.map_eq_some_iff.mp he
    exact h.running e' he'
  stopped hs := h.stopped (Option.map_eq_none_iff.mp hs)
  slots := h.slots
  earlier := h.earlier

theorem Sound.ensure (h : Sound window now t) : Sound window now (t.ensure window now) := by
  cases hl : t.live now with
  | some e => exact (ensure_live hl).symm ▸ h
  | none => exact (ensure_none hl).symm ▸ h.renew hl

theorem ensure_stored (window now : K) (t : Tally ι K) :
    ∃ e, (t.ensure window now).stored = some e := by
  cases hl : t.live now with
  | some e => exact ⟨e, (ensure_live hl).symm ▸ (alive_eq_some.mp hl).1⟩
  | none => exact ⟨_, congrArg stored (ensure_none hl)⟩

theorem Sound.add (h : Sound window now t) : Sound window now (t.add window now amount) :=
  h.ensure.bump

theorem Sound.assign [DecidableEq ι] (h : Sound window now t) (h0 : 0 < t.lives) :
    Sound window now (t.assign now i) where
  begun := h.begun
  apart := h.apart
  running := h.running
  stopped := h.stopped
  slots j s hs := by
    by_cases hj : j = i
    · subst hj
      obtain rfl : _ = s := by simpa [Tally.assign] using hs
      exact ⟨h0, le_rfl, h.begun _ h0 le_rfl, le_rfl⟩
    · exact h.slots j s (by simpa [Tally.assign, hj] using hs)
  earlier j s n hs hlt hn := by
    by_cases hj : j = i
    · subst hj
      obtain rfl : _ = s := by simpa [Tally.assign] using hs
      exact absurd hlt (not_lt.mpr hn)
    · exact h.earlier j s n (by simpa [Tally.assign, hj] using hs) hlt hn

theorem Sound.reserve [DecidableEq ι] (h : Sound window now t) :
    Sound window now (t.reserve window now i) := by
  obtain ⟨e, he⟩ := ensure_stored window now t
  exact h.add.assign (h.ensure.running e he).1

theorem Sound.giveBack [DecidableEq ι] (h : Sound window now t) :
    Sound window now (t.giveBack window now i) :=
  have h' : Sound window now (t.add window now (-1)) := h.add
  ⟨h'.begun, h'.apart, h'.running, h'.stopped, h'.slots, h'.earlier⟩

theorem Ended.clear {n : ℕ} {u : K} (h : t.Ended window n u) : (t.clear now).Ended window n u := by
  refine h.imp id ?_
  rintro ⟨d, hd, hb⟩
  refine ⟨d, ?_, hb⟩
  simp only [Tally.clear]
  split
  · exact List.mem_cons_of_mem _ hd
  · exact hd

theorem Sound.clear (h : Sound window now t) : Sound window now (t.clear now) where
  begun := h.begun
  apart m n h0 hmn hn := ⟨(h.apart m n h0 hmn hn).1, (h.apart m n h0 hmn hn).2.clear⟩
  running e he := by simp [Tally.clear] at he
  stopped _ h0 := by
    cases hl : t.live now with
    | none => exact (h.ended hl h0).clear
    | some e => exact .inr ⟨now, by simp [Tally.clear, hl], h.begun _ h0 le_rfl, le_rfl⟩
  slots := h.slots
  earlier := h.earlier

-- ---------------------------------------------------------------------------
-- Participants that are only counted
-- ---------------------------------------------------------------------------

/-- Within a life the numbers given out are positive and all different. -/
structure Counted (t : Tally ι K) : Prop where
  nonneg : ∀ e, t.stored = some e → 0 ≤ e.value
  pos : ∀ i s, t.slot i = some s → 0 < s.count
  within : ∀ i s e, t.slot i = some s → s.life = t.lives → t.stored = some e → s.count ≤ e.value
  apart : ∀ i j s s', t.slot i = some s → t.slot j = some s' → s.life = s'.life →
    s.count = s'.count → i = j

omit [LinearOrder K] in
theorem Counted.fresh : Counted (fresh : Tally ι K) where
  nonneg e h := by simp [Tally.fresh] at h
  pos i s h := by simp [Tally.fresh] at h
  within i s e h := by simp [Tally.fresh] at h
  apart i j s s' h := by simp [Tally.fresh] at h

theorem Counted.ensure (h : Counted t) (hs : Sound window now t) :
    Counted (t.ensure window now) := by
  cases hl : t.live now with
  | some e => exact (ensure_live hl).symm ▸ h
  | none =>
    rw [ensure_none hl]
    exact {
      nonneg := by
        rintro _ ⟨⟩
        exact le_rfl
      pos := h.pos
      within := by
        intro i s e hi hlife
        exact absurd (hs.slots i s hi).2.1 (by rw [hlife]; exact Nat.not_succ_le_self _)
      apart := h.apart }

omit [AddCommMonoid K] [LinearOrder K] in
theorem Counted.assign [DecidableEq ι] (h : Counted t) (he : t.stored = some e) (h0 : 0 < e.value)
    (hlt : ∀ i s, t.slot i = some s → s.life = t.lives → s.count < e.value) :
      Counted (t.assign now i) := by
  have hv : t.value = e.value := by simp [value, he]
  have hslot : ∀ j s, (t.assign now i).slot j = some s →
      (j = i ∧ s.life = t.lives ∧ s.count = e.value) ∨ (j ≠ i ∧ t.slot j = some s) := by
    intro j s hs
    by_cases hj : j = i
    · subst hj
      obtain rfl : _ = s := by simpa [Tally.assign] using hs
      exact .inl ⟨rfl, rfl, hv⟩
    · exact .inr ⟨hj, by simpa [Tally.assign, hj] using hs⟩
  constructor
  case nonneg => exact h.nonneg
  case pos =>
    intro j s hs
    rcases hslot j s hs with ⟨-, -, hc⟩ | ⟨-, hs⟩
    · exact hc ▸ h0
    · exact h.pos j s hs
  case within =>
    intro j s e' hs hlife he'
    obtain rfl : e = e' := Option.some.inj (he.symm.trans he')
    rcases hslot j s hs with ⟨-, -, hc⟩ | ⟨-, hs⟩
    · exact hc.le
    · exact h.within j s e hs hlife he
  case apart =>
    intro j k s s' hs hs' hlife hcount
    rcases hslot j s hs with ⟨hj, hl, hc⟩ | ⟨-, hold⟩ <;>
        rcases hslot k s' hs' with ⟨hk, hl', hc'⟩ | ⟨-, hold'⟩
    · exact hj.trans hk.symm
    · exact absurd (hcount.symm.trans hc) (hlt k s' hold' (hlife.symm.trans hl)).ne
    · exact absurd (hcount.trans hc') (hlt j s hold (hlife.trans hl')).ne
    · exact h.apart j k s s' hold hold' hlife hcount

theorem Counted.reserve [DecidableEq ι] (h : Counted t) (hs : Sound window now t) :
    Counted (t.reserve window now i) := by
  have h' := h.ensure hs
  obtain ⟨e, he⟩ := ensure_stored window now t
  have he1 : (t.add window now 1).stored = some { e with value := e.value + 1 } := by
    simp [Tally.add, Tally.bump, he]
  have hadd : Counted (t.add window now 1) := {
    nonneg := by
      intro e' he'
      obtain rfl := Option.some.inj (he1.symm.trans he')
      exact Int.add_nonneg (h'.nonneg e he) (by decide)
    pos := h'.pos
    within := by
      intro j s e' hj hlife he'
      obtain rfl := Option.some.inj (he1.symm.trans he')
      exact (h'.within j s e hj hlife he).trans (Int.le_add_one le_rfl)
    apart := h'.apart }
  refine hadd.assign he1 (Int.lt_add_one_of_le (h'.nonneg e he)) ?_
  exact fun j s hj hlife => Int.lt_add_one_of_le (h'.within j s e hj hlife he)

omit [AddCommMonoid K] in
theorem Counted.clear (h : Counted t) : Counted (t.clear now) where
  nonneg e he := by simp [Tally.clear] at he
  pos := h.pos
  within i s e _ _ he := by simp [Tally.clear] at he
  apart := h.apart

omit [AddCommMonoid K] [LinearOrder K] in
theorem Counted.card_le (h : Counted t) {n limit : ℕ} {S : Finset ι}
    (hS : ∀ i ∈ S, ∃ s, t.slot i = some s ∧ s.life = n ∧ s.count ≤ limit) : S.card ≤ limit := by
  let number : ι → ℤ := fun i => ((t.slot i).map Slot.count).getD 0
  have hmaps : ∀ i ∈ S, number i ∈ Finset.Icc (1 : ℤ) limit := by
    intro i hi
    obtain ⟨s, hs, -, hc⟩ := hS i hi
    have h1 : 1 ≤ s.count := h.pos i s hs
    simpa [number, hs, hc] using h1
  have hinj : Set.InjOn number S := by
    intro i hi j hj hij
    obtain ⟨s, hs, hl, -⟩ := hS i hi
    obtain ⟨s', hs', hl', -⟩ := hS j hj
    exact h.apart i j s s' hs hs' (hl.trans hl'.symm) (by simpa [number, hs, hs'] using hij)
  calc S.card ≤ (Finset.Icc (1 : ℤ) limit).card := Finset.card_le_card_of_injOn number hmaps hinj
    _ = limit := by simp

/-- Three lives do not touch one window in which none is cleared away. -/
theorem Sound.not_three [IsOrderedAddMonoid K] (h : Sound window now t) {start : K} {a b c : Slot K}
    {k : ι}
    (hi : t.slot i = some a) (hj : t.slot j = some b) (hk : t.slot k = some c)
    (hab : a.life < b.life)
    (hbc : b.life < c.life) (ha : start ≤ a.instant) (hc : c.instant < start + window)
    (hkept : ∀ d ∈ t.cleared, start ≤ d → start + window ≤ d) : False := by
  obtain ⟨hb0, hbl, -, -⟩ := h.slots j b hj
  obtain ⟨-, hcl, hcborn, -⟩ := h.slots k c hk
  have hborn : start ≤ t.born b.life := ha.trans (h.earlier i a b.life hi hab hbl)
  have hend : t.born c.life < start + window := hcborn.trans_lt hc
  rcases (h.apart b.life c.life hb0 hbc hcl).2 with hlast | ⟨d, hd, hbd, hdc⟩
  · exact absurd ((add_le_add_left hborn window).trans hlast) (not_le.mpr hend)
  · exact absurd ((hkept d hd (hborn.trans hbd)).trans hdc) (not_le.mpr hend)

/-- Any window in which no life is cleared away gives out at most twice
`limit` numbers up to `limit`. -/
theorem Counted.card_window_le [IsOrderedAddMonoid K] (h : Counted t) (hs : Sound window now t)
    {start : K} {limit : ℕ} {S : Finset ι} (hkept : ∀ d ∈ t.cleared, start ≤ d → start + window ≤ d)
    (hS : ∀ i ∈ S, ∃ s, t.slot i = some s ∧ start ≤ s.instant ∧ s.instant < start + window ∧
      s.count ≤ limit) :
    S.card ≤ 2 * limit := by
  rcases S.eq_empty_or_nonempty with rfl | hne
  · simp
  let lifeOf : ι → ℕ := fun i => ((t.slot i).map Slot.life).getD 0
  obtain ⟨m, hm, hmin⟩ := S.exists_min_image lifeOf hne
  obtain ⟨a, ha, hastart, -, -⟩ := hS m hm
  have hfirst : (S.filter (fun i => lifeOf i = lifeOf m)).card ≤ limit := by
    refine h.card_le (n := lifeOf m) fun i hi => ?_
    obtain ⟨hi, hlife⟩ := Finset.mem_filter.mp hi
    obtain ⟨s, hs, -, -, hc⟩ := hS i hi
    exact ⟨s, hs, by simpa [lifeOf, hs] using hlife, hc⟩
  -- what is not in the earliest life is all in one later life
  have hsecond : (S.filter (fun i => ¬lifeOf i = lifeOf m)).card ≤ limit := by
    rcases (S.filter (fun i => ¬lifeOf i = lifeOf m)).eq_empty_or_nonempty with he | ⟨j, hj⟩
    · simp [he]
    obtain ⟨hjS, hjm⟩ := Finset.mem_filter.mp hj
    refine h.card_le (n := lifeOf j) fun i hi => ?_
    obtain ⟨hiS, him⟩ := Finset.mem_filter.mp hi
    obtain ⟨b, hb, -, hbend, -⟩ := hS j hjS
    obtain ⟨c, hcs, -, hcend, hcount⟩ := hS i hiS
    have hlm : lifeOf m = a.life := by simp [lifeOf, ha]
    have hlj : lifeOf j = b.life := by simp [lifeOf, hb]
    have hli : lifeOf i = c.life := by simp [lifeOf, hcs]
    have hmj := hmin j hjS
    have hmi := hmin i hiS
    refine ⟨c, hcs, ?_, hcount⟩
    rcases lt_trichotomy c.life b.life with hlt | heq | hlt
    · exact (hs.not_three ha hcs hb (by omega) hlt hastart hbend hkept).elim
    · exact heq.trans hlj.symm
    · exact (hs.not_three ha hb hcs (by omega) hlt hastart hcend hkept).elim
  have hsplit := S.card_filter_add_card_filter_not (fun i => lifeOf i = lifeOf m)
  omega

-- ---------------------------------------------------------------------------
-- Participants that are given back in the life that counted them
-- ---------------------------------------------------------------------------

def Held (t : Tally ι K) (n : ℕ) (i : ι) : Prop :=
  (∃ s, t.slot i = some s ∧ s.life = n) ∧ t.givenBack i = false

/-- The counter is the number of those the present life holds. -/
def Balanced (t : Tally ι K) : Prop :=
  ∀ e, t.stored = some e → ∃ F : Finset ι, (∀ i, i ∈ F ↔ t.Held t.lives i) ∧ e.value = F.card

/-- No life holds more than `limit` of those it gave a number up to `limit`. -/
def Bounded (limit : ℕ) (t : Tally ι K) : Prop :=
  ∀ (n : ℕ) (S : Finset ι),
    (∀ i ∈ S, t.Held n i ∧ ∃ s, t.slot i = some s ∧ s.count ≤ limit) → S.card ≤ limit

omit [LinearOrder K] in
theorem Balanced.fresh : Balanced (fresh : Tally ι K) := by
  intro e he
  simp [Tally.fresh] at he

omit [LinearOrder K] in
theorem Bounded.fresh {limit : ℕ} : Bounded limit (fresh : Tally ι K) := by
  intro n S hS
  have hempty : S = ∅ := by
    refine Finset.eq_empty_of_forall_notMem fun i hi => ?_
    obtain ⟨-, s, hs, -⟩ := hS i hi
    simp [Tally.fresh] at hs
  simp [hempty]

theorem Balanced.ensure (h : Balanced t) (hs : Sound window now t) :
    Balanced (t.ensure window now) := by
  cases hl : t.live now with
  | some e => exact (ensure_live hl).symm ▸ h
  | none =>
    rw [ensure_none hl]
    rintro _ ⟨⟩
    refine ⟨∅, fun i => ⟨fun hi => by simp at hi, ?_⟩, rfl⟩
    rintro ⟨⟨s, hi, hlife⟩, -⟩
    exact absurd (hs.slots i s hi).2.1 (by rw [hlife]; exact Nat.not_succ_le_self _)

theorem ensure_cleared : (t.ensure window now).cleared = t.cleared := by
  cases hl : t.live now with
  | some e => rw [ensure_live hl]
  | none => rw [ensure_none hl, Tally.renew]

theorem ensure_slot :
    (t.ensure window now).slot = t.slot ∧ (t.ensure window now).givenBack = t.givenBack := by
  cases hl : t.live now with
  | some e => exact (ensure_live hl).symm ▸ ⟨rfl, rfl⟩
  | none => exact (ensure_none hl).symm ▸ ⟨rfl, rfl⟩

theorem ensure_held {n : ℕ} : (t.ensure window now).Held n i ↔ t.Held n i := by
  simp only [Held, ensure_slot]

variable [DecidableEq ι]

theorem reserve_stored (he : (t.ensure window now).stored = some e) :
    (t.reserve window now i).stored = some { e with value := e.value + 1 } := by
  simp [Tally.reserve, Tally.assign, Tally.add, Tally.bump, he]

theorem reserve_slot_self (he : (t.ensure window now).stored = some e) :
    (t.reserve window now i).slot i =
      some { life := (t.ensure window now).lives, count := e.value + 1, instant := now } := by
  simp [Tally.reserve, Tally.assign, Tally.add, Tally.bump, value, he]

theorem reserve_slot_other (hj : j ≠ i) : (t.reserve window now i).slot j = t.slot j := by
  simp [Tally.reserve, Tally.assign, Tally.add, Tally.bump, hj, ensure_slot]

theorem reserve_givenBack : (t.reserve window now i).givenBack = t.givenBack := ensure_slot.2

theorem reserve_cleared : (t.reserve window now i).cleared = t.cleared := ensure_cleared

theorem reserve_held {n : ℕ} (hj : j ≠ i) : (t.reserve window now i).Held n j ↔ t.Held n j := by
  simp only [Held, reserve_slot_other hj, reserve_givenBack]

theorem reserve_held_self {n : ℕ} (hb : t.givenBack i = false) :
    (t.reserve window now i).Held n i ↔ n = (t.ensure window now).lives := by
  obtain ⟨e, he⟩ := ensure_stored window now t
  simp [Held, reserve_slot_self he, reserve_givenBack, hb, eq_comm]

theorem Balanced.reserve (h : Balanced t) (hs : Sound window now t) (hi : t.slot i = none)
    (hb : t.givenBack i = false) :
    ∃ (e : Entry ℤ K) (F : Finset ι), (t.ensure window now).stored = some e ∧
      (∀ j, j ∈ F ↔ (t.reserve window now i).Held (t.ensure window now).lives j) ∧
        e.value + 1 = F.card := by
  obtain ⟨e, he⟩ := ensure_stored window now t
  obtain ⟨F, hF, hcard⟩ := h.ensure hs e he
  have hnot : i ∉ F := by
    rw [hF, ensure_held]
    rintro ⟨⟨s, hs, -⟩, -⟩
    simp [hi] at hs
  refine ⟨e, insert i F, he, fun j => ?_, by rw [Finset.card_insert_of_notMem hnot, hcard]; rfl⟩
  rw [Finset.mem_insert]
  by_cases hj : j = i
  · subst hj
    simp [reserve_held_self hb]
  · rw [hF, ensure_held, reserve_held hj]
    exact or_iff_right hj

theorem Balanced.reserved (h : Balanced t) (hs : Sound window now t) (hi : t.slot i = none)
    (hb : t.givenBack i = false) : Balanced (t.reserve window now i) := by
  obtain ⟨e, F, he, hF, hcard⟩ := h.reserve hs hi hb
  intro e' he'
  obtain rfl := Option.some.inj ((reserve_stored he).symm.trans he')
  exact ⟨F, hF, hcard⟩

theorem Bounded.reserve {limit : ℕ} (h : Bounded limit t) (hbal : Balanced t)
    (hs : Sound window now t)
    (hi : t.slot i = none)
    (hb : t.givenBack i = false) : Bounded limit (t.reserve window now i) := by
  intro n S hS
  by_cases hiS : i ∈ S
  · obtain ⟨e, F, he, hF, hcard⟩ := hbal.reserve hs hi hb
    obtain ⟨hheld, s, hslot, hcount⟩ := hS i hiS
    obtain rfl := (reserve_held_self hb).mp hheld
    obtain rfl := Option.some.inj ((reserve_slot_self he).symm.trans hslot)
    have hsub : S ⊆ F := fun j hj => (hF j).mpr (hS j hj).1
    have hle : (S.card : ℤ) ≤ limit := by
      calc (S.card : ℤ) ≤ F.card := by exact_mod_cast Finset.card_le_card hsub
        _ = e.value + 1 := hcard.symm
        _ ≤ limit := hcount
    exact_mod_cast hle
  · refine h n S fun j hj => ?_
    have hji : j ≠ i := fun hji => hiS (hji ▸ hj)
    simpa only [reserve_held hji, reserve_slot_other hji] using hS j hj

theorem giveBack_slot : (t.giveBack window now i).slot = t.slot := ensure_slot.1

theorem giveBack_cleared : (t.giveBack window now i).cleared = t.cleared := ensure_cleared

theorem giveBack_givenBack :
    (t.giveBack window now i).givenBack = Function.update t.givenBack i true := by
  simp [Tally.giveBack, Tally.add, Tally.bump, ensure_slot]

theorem giveBack_givenBack_other (hj : j ≠ i) :
    (t.giveBack window now i).givenBack j = t.givenBack j := by
  rw [giveBack_givenBack, Function.update_of_ne hj]

theorem giveBack_held {n : ℕ} : (t.giveBack window now i).Held n j ↔ j ≠ i ∧ t.Held n j := by
  by_cases hj : j = i
  · simp [Held, giveBack_givenBack, hj]
  · simp [Held, giveBack_givenBack, hj, giveBack_slot]

theorem giveBack_stored (hl : t.live now = some e) :
    (t.giveBack window now i).stored = some { e with value := e.value + -1 } := by
  simp [Tally.giveBack, Tally.add, Tally.bump, ensure_live hl, (alive_eq_some.mp hl).1]

theorem giveBack_lives (hl : t.live now = some e) : (t.giveBack window now i).lives = t.lives := by
  simp [Tally.giveBack, Tally.add, Tally.bump, ensure_live hl]

theorem Balanced.giveBack (h : Balanced t) (hl : t.live now = some e) (hi : t.Held t.lives i) :
    Balanced (t.giveBack window now i) := by
  obtain ⟨F, hF, hcard⟩ := h e (alive_eq_some.mp hl).1
  intro e' he'
  obtain rfl := Option.some.inj ((giveBack_stored hl).symm.trans he')
  refine ⟨F.erase i, fun j => ?_, ?_⟩
  · rw [giveBack_lives hl, giveBack_held, Finset.mem_erase, hF]
  · have hmem : i ∈ F := (hF i).mpr hi
    rw [Finset.card_erase_of_mem hmem, Nat.cast_sub (Finset.card_pos.mpr ⟨i, hmem⟩)]
    simp [hcard, Int.sub_eq_add_neg]

theorem Bounded.giveBack {limit : ℕ} (h : Bounded limit t) :
    Bounded limit (t.giveBack window now i) := by
  intro n S hS
  refine h n S fun j hj => ?_
  obtain ⟨hheld, s, hs, hc⟩ := hS j hj
  rw [giveBack_slot] at hs
  exact ⟨(giveBack_held.mp hheld).2, s, hs, hc⟩

end

end Tally

end CloudMonitor
