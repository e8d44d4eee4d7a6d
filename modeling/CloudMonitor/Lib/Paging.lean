import CloudMonitor.Lib.OrderBy

/-!
# Pages of a list that changes

`OFFSET` counts rows from the top. Someone who reads one page after another
while rows come and go may miss a row, namely when one above it loses its place
in between: all but as many rows are shown, in their order (`Drift.shows`).
-/

namespace CloudMonitor

variable {α : Type} {d e k size : ℕ} {l l' m n : List α}

-- ---------------------------------------------------------------------------
-- Rows that lose their place
-- ---------------------------------------------------------------------------

/-- Two selections of one list share the rows that neither leaves out. -/
theorem exists_shared (h : l.Sublist n) (h' : l'.Sublist n) :
    ∃ s : List α, s.Sublist l ∧ s.Sublist l' ∧ l.length + l'.length ≤ s.length + n.length := by
  induction h generalizing l' with
  | slnil => exact ⟨[], .slnil, List.nil_sublist _, by simpa using h'.length_le⟩
  | cons a h ih =>
    cases h' with
    | cons _ h' =>
      obtain ⟨s, hs, hs', hlen⟩ := ih h'
      exact ⟨s, hs, hs', by simp only [List.length_cons]; omega⟩
    | cons_cons _ h' =>
      obtain ⟨s, hs, hs', hlen⟩ := ih h'
      exact ⟨s, hs, hs'.cons a, by simp only [List.length_cons]; omega⟩
  | cons_cons a h ih =>
    cases h' with
    | cons _ h' =>
      obtain ⟨s, hs, hs', hlen⟩ := ih h'
      exact ⟨s, hs.cons a, hs', by simp only [List.length_cons]; omega⟩
    | cons_cons _ h' =>
      obtain ⟨s, hs, hs', hlen⟩ := ih h'
      exact ⟨a :: s, hs.cons_cons a, hs'.cons_cons a, by simp only [List.length_cons]; omega⟩

/-- All rows of `l` but `d` are in `l'`, in the same order. -/
def Displaces (d : ℕ) (l l' : List α) : Prop :=
  ∃ kept : List α, kept.Sublist l ∧ kept.Sublist l' ∧ l.length ≤ kept.length + d

theorem Displaces.refl (l : List α) : Displaces 0 l l := ⟨l, .refl l, .refl l, le_rfl⟩

theorem Displaces.trans (h : Displaces d l m) (h' : Displaces e m n) :
    Displaces (d + e) l n := by
  obtain ⟨kept, hl, hm, hlen⟩ := h
  obtain ⟨kept', hm', hn, hlen'⟩ := h'
  obtain ⟨s, hs, hs', hshared⟩ := exists_shared hm hm'
  exact ⟨s, hs.trans hl, hs'.trans hn, by omega⟩

theorem Displaces.drop (h : Displaces d l l') (i : ℕ) : Displaces d (l.drop i) (l'.drop i) := by
  obtain ⟨kept, hl, hl', hlen⟩ := h
  refine ⟨kept.drop i, hl.drop i, hl'.drop i, ?_⟩
  simp only [List.length_drop]
  omega

theorem Displaces.mono (h : Displaces d l l') (hde : d ≤ e) : Displaces e l l' := by
  obtain ⟨kept, hl, hl', hlen⟩ := h
  exact ⟨kept, hl, hl', by omega⟩

theorem Displaces.sublist (h : Displaces 0 l l') : l.Sublist l' := by
  obtain ⟨kept, hl, hl', hlen⟩ := h
  rwa [hl.eq_of_length_le hlen] at hl'

theorem Displaces.append_left (h : Displaces d l l') (pre : List α) :
    Displaces d (pre ++ l) (pre ++ l') := by
  obtain ⟨kept, hl, hl', hlen⟩ := h
  refine ⟨pre ++ kept, hl.append_left pre, hl'.append_left pre, ?_⟩
  simp only [List.length_append]
  omega

-- ---------------------------------------------------------------------------
-- Reading page after page
-- ---------------------------------------------------------------------------

/-- One page of each list, the first of them page `k + 1`. -/
def readPages (size : ℕ) : ℕ → List (List α) → List α
  | _, [] => []
  | k, rows :: rest => (rows.drop (k * size)).take size ++ readPages size (k + 1) rest

/-- The list changes from one reading to the next, by `d` rows in all. -/
inductive Drift {α : Type} : ℕ → List α → List (List α) → Prop
  | done (l : List α) : Drift 0 l []
  | next {d e : ℕ} {l l' : List α} {rest : List (List α)} (h : Displaces d l l')
      (t : Drift e l' rest) : Drift (d + e) l (l' :: rest)

/-- The last list has no rows after the last page read. -/
def Exhausts (size : ℕ) : ℕ → List α → List (List α) → Prop
  | k, l, [] => l.length ≤ k * size
  | k, _, l :: rest => Exhausts size (k + 1) l rest

theorem Drift.shows {lists : List (List α)} (h : Drift d l lists)
    (hlast : Exhausts size k l lists) :
    Displaces d (l.drop (k * size)) (readPages size k lists) := by
  induction h generalizing k with
  | done l =>
    rw [List.drop_eq_nil_of_le hlast]
    exact .refl _
  | @next _ _ _ l' rest hstep _ ih =>
    -- what the page leaves of the new list is what the later pages are read for
    have hrest := ih (k := k + 1) hlast
    rw [Nat.succ_mul, ← List.drop_drop] at hrest
    have hpage := hrest.append_left ((l'.drop (k * size)).take size)
    rw [List.take_append_drop] at hpage
    exact (hstep.drop (k * size)).trans hpage

-- ---------------------------------------------------------------------------
-- Lists in an order
-- ---------------------------------------------------------------------------

section
variable {β : Type} {keys : List (SortKey α)} {f : α → β}

/-- Rows that find an equal in another list by the same order keep their order there. -/
theorem sublist_of_ties (hkeys : ∀ key ∈ keys, key.Ranked) (hl : l.Pairwise (Before keys))
    (hl' : l'.Pairwise (Before keys))
    (hties : ∀ a ∈ l, ∃ b ∈ l', f b = f a ∧ ¬Before keys a b ∧ ¬Before keys b a) :
    (l.map f).Sublist (l'.map f) := by
  induction l generalizing l' with
  | nil => exact List.nil_sublist _
  | cons a l ih =>
    obtain ⟨hafter, hl⟩ := List.pairwise_cons.mp hl
    obtain ⟨b, hb, hf, hab, hba⟩ := hties a (List.mem_cons_self ..)
    obtain ⟨pre, post, rfl⟩ := List.append_of_mem hb
    have hpost : (b :: post).Pairwise (Before keys) := hl'.sublist (List.sublist_append_right _ _)
    have hrest : (l.map f).Sublist (post.map f) := by
      refine ih hl (List.pairwise_cons.mp hpost).2 fun x hx => ?_
      obtain ⟨y, hy, hfy, hxy, hyx⟩ := hties x (.tail _ hx)
      refine ⟨y, ?_, hfy, hxy, hyx⟩
      -- anything up to `b` would put `x` before `a`
      have hafter_b : Before keys y b ∨ y = b → y ∈ post := by
        intro hle
        have hby : ¬Before keys b y := by
          rcases hle with hlt | rfl
          · exact before_asymm hkeys hlt
          · exact fun h => before_asymm hkeys h h
        have hxb := not_before_trans hkeys hyx hby
        exact absurd (hafter x hx) (not_before_trans hkeys hxb hab)
      rcases List.mem_append.mp hy with hpre | htail
      · exact hafter_b (.inl ((List.pairwise_append.mp hl').2.2 y hpre b (List.mem_cons_self ..)))
      · rcases List.mem_cons.mp htail with heq | hin
        · exact hafter_b (.inr heq)
        · exact hin
    rw [List.map_append, List.map_cons, List.map_cons, ← hf]
    exact (hrest.cons_cons _).trans (List.sublist_append_right _ _)

theorem displaces_of_ties (kept : α → Bool) (hkeys : ∀ key ∈ keys, key.Ranked)
    (hl : l.Pairwise (Before keys)) (hl' : l'.Pairwise (Before keys))
    (hties : ∀ a ∈ l, kept a = true → ∃ b ∈ l', f b = f a ∧ ¬Before keys a b ∧ ¬Before keys b a) :
    Displaces (l.countP fun a => !kept a) (l.map f) (l'.map f) := by
  refine ⟨(l.filter kept).map f, List.filter_sublist.map f, ?_, ?_⟩
  · refine sublist_of_ties hkeys (hl.filter kept) hl' fun a ha => ?_
    obtain ⟨hmem, hkept⟩ := List.mem_filter.mp ha
    exact hties a hmem hkept
  · have hcount := List.length_eq_countP_add_countP kept (l := l)
    simp only [List.length_map, ← List.countP_eq_length_filter]
    simpa only [Bool.not_eq_true, Bool.decide_eq_false] using hcount.le

end

end CloudMonitor
