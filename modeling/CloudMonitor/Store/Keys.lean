import CloudMonitor.Store.Memory

/-!
# An operation has one key

What an operation of the store answers, and what it leaves under its key,
depends on what it finds there. Other keys are left as they are, even by the
purge, as far as a lookup can tell.
-/

namespace CloudMonitor

open Fallible

namespace MemoryStore

/-- The entry left is the one found or satisfies `W`. -/
def UsesOnly (now : ℚ) (key : String) (W : Entry String ℚ → Prop) (x : Op α) : Prop :=
  ∃ f : Option (Entry String ℚ) → Except ApiError α × Option (Entry String ℚ),
    (∀ o e, (f o).2 = some e → o = some e ∨ W e) ∧
    ∀ s, ∃ s', x.run s = ((f (s.look now key)).1, s') ∧
      Writes now key (f (s.look now key)).2 s s'

section
variable {now t : ℚ} {key k : String} {s s' : MemoryStore} {W : Entry String ℚ → Prop}
  {x : Op α}

/-- To keep everything is to leave under any key what is found there. -/
theorem Keeps.writes_found (h : Keeps now s s') (key : String) :
    Writes now key (s.look now key) s s' := by
  intro t ht k
  rw [h t ht k]
  split
  · next hk => rw [hk, alive_look ht]
  · rfl

theorem UsesOnly.of_keeps {r : Option (Entry String ℚ) → Except ApiError α}
    (h : ∀ s, ∃ s', x.run s = (r (s.look now key), s') ∧ Keeps now s s') :
    UsesOnly now key W x := by
  refine ⟨fun o => (r o, o), fun _ _ he => .inl he, fun s => ?_⟩
  obtain ⟨s', hrun, hk⟩ := h s
  exact ⟨s', hrun, hk.writes_found key⟩

theorem UsesOnly.of_writes {r : Except ApiError α} {o : Option (Entry String ℚ)}
    (ho : ∀ e, o = some e → W e) (h : ∀ s, ∃ s', x.run s = (r, s') ∧ Writes now key o s s') :
    UsesOnly now key W x :=
  ⟨fun _ => (r, o), fun _ e he => .inr (ho e he), h⟩

theorem UsesOnly.map (h : UsesOnly now key W x) (g : α → β) :
    UsesOnly now key W (x >>= fun a => pure (g a)) := by
  obtain ⟨f, hf, hrun⟩ := h
  refine ⟨fun o => ((f o).1.map g, (f o).2), hf, fun s => ?_⟩
  obtain ⟨s', hx, hw⟩ := hrun s
  refine ⟨s', ?_, hw⟩
  rw [run_map, hx]

-- ---------------------------------------------------------------------------
-- What follows from it
-- ---------------------------------------------------------------------------

theorem UsesOnly.other (h : UsesOnly now key W x) (s : MemoryStore) (ht : now ≤ t)
    (hk : k ≠ key) : (x.run s).2.look t k = s.look t k := by
  obtain ⟨f, -, hrun⟩ := h
  obtain ⟨s', hx, hw⟩ := hrun s
  rw [hx]
  exact hw.other ht hk

theorem UsesOnly.reply (h : UsesOnly now key W x) (hlook : s.look now key = s'.look now key) :
    (x.run s).1 = (x.run s').1 := by
  obtain ⟨f, -, hrun⟩ := h
  obtain ⟨t, hx, -⟩ := hrun s
  obtain ⟨t', hx', -⟩ := hrun s'
  rw [hx, hx', hlook]

/-- Stores that agree on the key agree on it afterwards. -/
theorem UsesOnly.same (h : UsesOnly now key W x) (ht : now ≤ t)
    (hlook : s.look now key = s'.look now key) :
    (x.run s).2.look t key = (x.run s').2.look t key := by
  obtain ⟨f, -, hrun⟩ := h
  obtain ⟨u, hx, hw⟩ := hrun s
  obtain ⟨u', hx', hw'⟩ := hrun s'
  rw [hx, hx', hw.same ht, hw'.same ht, hlook]

/-- A live entry was there before or has been written now. -/
theorem UsesOnly.found (h : UsesOnly now key W x) {e : Entry String ℚ}
    (he : (x.run s).2.look now k = some e) : s.look now k = some e ∨ (k = key ∧ W e) := by
  rcases eq_or_ne k key with rfl | hk
  · obtain ⟨f, hf, hrun⟩ := h
    obtain ⟨s', hx, hw⟩ := hrun s
    rw [hx, hw.same le_rfl] at he
    exact (hf _ e (alive_eq_some.mp he).1).imp_right fun hW => ⟨rfl, hW⟩
  · rw [h.other s le_rfl hk] at he
    exact .inl he

end

-- ---------------------------------------------------------------------------
-- The operations
-- ---------------------------------------------------------------------------

section
variable (key : String) (now : ℚ) {W : Entry String ℚ → Prop}

theorem get_usesOnly : UsesOnly now key W (get key now) :=
  UsesOnly.of_keeps (r := fun o => .ok (o.map Entry.value)) (get_run key now)

theorem contains_usesOnly : UsesOnly now key W (contains key now) :=
  UsesOnly.of_keeps (r := fun o => .ok o.isSome) (contains_run key now)

theorem delete_usesOnly : UsesOnly now key W (delete key) :=
  UsesOnly.of_writes (by simp) (delete_run key now)

theorem set_usesOnly (value : String) (ttl : ℤ) :
    UsesOnly now key (fun e => e.value = value) (set key value ttl now) := by
  refine UsesOnly.of_writes ?_ (set_run key value ttl now)
  rintro _ ⟨⟩
  rfl

/-- What a counter's digits are made of decides between the two runs of `add`. -/
theorem add_usesOnly (amount ttl : ℤ) :
    UsesOnly now key (fun e => ∃ n : ℤ, e.value = toString n) (add key amount ttl now) := by
  let begun (o : Option (Entry String ℚ)) : Entry String ℚ :=
    o.getD { value := toString (0 : ℤ), expires := now + ttl }
  refine ⟨fun o => (readInt? (begun o).value).elim (.error .internal, o) fun n =>
    (.ok (n + amount, max 1 (roundHalfEven ((begun o).expires - now))),
      some { value := toString (n + amount), expires := (begun o).expires }), ?_, ?_⟩
  · intro o e he
    cases hr : readInt? (begun o).value with
    | some n =>
      simp only [hr, Option.elim_some] at he
      obtain rfl := Option.some.inj he
      exact .inr ⟨n + amount, rfl⟩
    | none =>
      simp only [hr, Option.elim_none] at he
      exact .inl he
  · intro s
    have hbegun : begun (s.look now key) = s.counter ttl now key := rfl
    cases hr : readInt? (s.counter ttl now key).value with
    | some n =>
      simp only [hbegun, hr, Option.elim_some]
      exact add_run n amount hr
    | none =>
      simp only [hbegun, hr, Option.elim_none]
      obtain ⟨s', hrun, hk⟩ := add_raises amount hr
      exact ⟨s', hrun, hk.writes_found key⟩

end

end MemoryStore

end CloudMonitor
