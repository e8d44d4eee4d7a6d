import CloudMonitor.Lib.Rounding
import Mathlib.Algebra.Order.Archimedean.Basic
import Mathlib.Data.Rat.Floor

/-!
# Text

The two number formats Python f-strings use here, `:0nd` and `:.nf`, the
decimal integers `str` writes and `int` reads back, and `strip().lower()`.
-/

namespace CloudMonitor

/-- `{n:0width d}` of a natural number. -/
def zeroPadded (width n : ℕ) : String :=
  let digits := toString n
  String.ofList (List.replicate (width - digits.length) '0') ++ digits

/-- `{x:.digits f}`: the decimals are rounded half to even. -/
def fixed (digits : ℕ) (x : ℚ) : String :=
  let scaled := (roundHalfEven (|x| * 10 ^ digits)).toNat
  let sign := if x < 0 then "-" else ""
  let whole := toString (scaled / 10 ^ digits)
  if digits = 0 then sign ++ whole
  else sign ++ whole ++ "." ++ zeroPadded digits (scaled % 10 ^ digits)

example : fixed 1 (183 / 2) = "91.5" := by decide +kernel
example : fixed 0 80 = "80" := by decide +kernel

/-- `text.strip().lower()` of ASCII text. -/
def stripLowerAscii (text : String) : String :=
  let stripLeft := fun (cs : List Char) => (cs.dropWhile Char.isWhitespace).reverse
  String.ofList ((stripLeft (stripLeft text.toList)).map Char.toLower)

example : stripLowerAscii " Admin@techvalley.vn" = "admin@techvalley.vn" := by decide +kernel

def digits? (cs : List Char) : Option ℕ :=
  if cs ≠ [] ∧ cs.all Char.isDigit then some (Nat.ofDigitChars 10 cs 0) else none

/-- `int(text)` on the numerals `str` writes. -/
def readInt? (text : String) : Option ℤ :=
  match text.toList with
  | '-' :: cs => (digits? cs).map fun n => -(n : ℤ)
  | cs => (digits? cs).map Int.ofNat

theorem digits?_toDigits (n : ℕ) : digits? (Nat.toDigits 10 n) = some n := by
  have hd : (Nat.toDigits 10 n).all Char.isDigit := by
    rw [List.all_eq_true]
    exact fun c hc => Nat.isDigit_of_mem_toDigits (by decide) (by decide) hc
  simp [digits?, hd, Nat.toDigits_ne_nil]

theorem toDigits_ne_minus (n : ℕ) (cs : List Char) : Nat.toDigits 10 n ≠ '-' :: cs := by
  intro h
  have hd : '-'.isDigit :=
    Nat.isDigit_of_mem_toDigits (b := 10) (n := n) (by decide) (by decide) (by simp [h])
  simp at hd

@[simp] theorem readInt?_repr (v : ℤ) : readInt? v.repr = some v := by
  unfold readInt?
  cases v with
  | ofNat n =>
    have ht : (Int.ofNat n).repr.toList = Nat.toDigits 10 n := Nat.toList_repr
    rw [ht]
    split
    · next cs h => exact absurd h (toDigits_ne_minus n cs)
    · rw [digits?_toDigits]
      rfl
  | negSucc n =>
    have hs : (Int.negSucc n).repr = "-" ++ Nat.repr (n + 1) := rfl
    have ht : (Int.negSucc n).repr.toList = '-' :: Nat.toDigits 10 (n + 1) := by
      simp [hs, String.toList_append, Nat.toList_repr]
    rw [ht, Int.negSucc_eq]
    simp [digits?_toDigits]

theorem mem_repr {v : ℤ} {c : Char} (h : c ∈ v.repr.toList) : c = '-' ∨ c.isDigit := by
  cases v with
  | ofNat n =>
    have ht : (Int.ofNat n).repr.toList = Nat.toDigits 10 n := Nat.toList_repr
    rw [ht] at h
    exact .inr (Nat.isDigit_of_mem_toDigits (by decide) (by decide) h)
  | negSucc n =>
    have hs : (Int.negSucc n).repr = "-" ++ Nat.repr (n + 1) := rfl
    rw [hs, String.toList_append, Nat.toList_repr] at h
    rcases List.mem_append.mp h with h | h
    · exact .inl (by simpa using h)
    · exact .inr (Nat.isDigit_of_mem_toDigits (by decide) (by decide) h)

/-- Texts that begin differently are different, whatever comes after. -/
theorem append_ne_append {x y : String} (hx : ¬x.toList <+: y.toList)
    (hy : ¬y.toList <+: x.toList) (u v : String) : x ++ u ≠ y ++ v := by
  intro h
  have hxv : x.toList <+: (y ++ v).toList := by
    rw [← h, String.toList_append]
    exact List.prefix_append _ _
  have hyv : y.toList <+: (y ++ v).toList := by
    rw [String.toList_append]
    exact List.prefix_append _ _
  exact (List.prefix_or_prefix_of_prefix hxv hyv).elim hx hy

/-- Text is cut in one way at the first separator. -/
theorem cut_unique {α : Type} {c : α} {x y u v : List α} (hx : c ∉ x) (hy : c ∉ y)
    (h : x ++ c :: u = y ++ c :: v) : x = y ∧ u = v := by
  induction x generalizing y with
  | nil =>
    cases y with
    | nil => exact ⟨rfl, (List.cons.inj h).2⟩
    | cons b y => exact absurd ((List.cons.inj h).1 ▸ List.mem_cons_self) hy
  | cons a x ih =>
    cases y with
    | nil => exact absurd ((List.cons.inj h).1 ▸ List.mem_cons_self) hx
    | cons b y =>
      obtain ⟨rfl, htail⟩ := List.cons.inj h
      obtain ⟨rfl, rfl⟩ := ih (fun hm => hx (List.mem_cons_of_mem a hm))
        (fun hm => hy (List.mem_cons_of_mem a hm)) htail
      exact ⟨rfl, rfl⟩

end CloudMonitor
