import CloudMonitor.Lib.Format
import Mathlib.Data.List.DropRight

/-!
# Literals read from text

Bytes as two hexadecimal digits each, and integers as `int` reads them: both
readers pass over ASCII whitespace, and what is written is read back.
-/

namespace CloudMonitor

abbrev Bytes : Type := List UInt8

def isAsciiSpace (c : Char) : Bool := c ∈ [' ', '\t', '\n', '\x0b', '\x0c', '\r']

-- ---------------------------------------------------------------------------
-- Hexadecimal
-- ---------------------------------------------------------------------------

def byteHex (b : UInt8) : List Char := [(b.toNat / 16).digitChar, (b.toNat % 16).digitChar]

/-- `data.hex()` -/
def toHex (data : Bytes) : List Char := data.flatMap byteHex

def hexValue? (c : Char) : Option ℕ :=
  if c.isDigit then some (c.toNat - '0'.toNat)
  else if 'a' ≤ c ∧ c ≤ 'f' then some (c.toNat - 'a'.toNat + 10)
  else if 'A' ≤ c ∧ c ≤ 'F' then some (c.toNat - 'A'.toNat + 10)
  else none

/-- `bytes.fromhex(text)`: whitespace may stand before a byte and at the end,
not between its two digits. -/
def fromHex? : List Char → Option Bytes
  | [] => some []
  | [c] => if isAsciiSpace c then some [] else none
  | c :: d :: cs =>
    if isAsciiSpace c then fromHex? (d :: cs)
    else
      match hexValue? c, hexValue? d with
      | some x, some y => (fromHex? cs).map (UInt8.ofNat (16 * x + y) :: ·)
      | _, _ => none

/-- Pairs of hexadecimal digits, and ASCII whitespace around them. -/
inductive SpacedHex : List Char → Prop
  | nil : SpacedHex []
  | space {c : Char} {cs : List Char} (hc : isAsciiSpace c) (hcs : SpacedHex cs) :
    SpacedHex (c :: cs)
  | byte {c d : Char} {cs : List Char} (hc : (hexValue? c).isSome) (hd : (hexValue? d).isSome)
    (hcs : SpacedHex cs) : SpacedHex (c :: d :: cs)

theorem hexValue?_digitChar : ∀ n < 16, hexValue? n.digitChar = some n := by decide

theorem hexValue?_space {c : Char} (h : isAsciiSpace c) : hexValue? c = none := by
  simp only [isAsciiSpace, List.mem_cons, List.not_mem_nil, or_false, decide_eq_true_eq] at h
  rcases h with rfl | rfl | rfl | rfl | rfl | rfl <;> decide

theorem not_space_of_hexValue? {c : Char} {n : ℕ} (h : hexValue? c = some n) :
    ¬isAsciiSpace c = true := by
  intro hspace
  rw [hexValue?_space hspace] at h
  cases h

theorem mem_toHex {data : Bytes} {c : Char} (h : c ∈ toHex data) : ∃ n < 16, c = n.digitChar := by
  obtain ⟨b, -, hb⟩ := List.mem_flatMap.mp h
  have hlt := b.toNat_lt
  simp only [byteHex, List.mem_cons, List.not_mem_nil, or_false] at hb
  rcases hb with rfl | rfl
  · exact ⟨_, by omega, rfl⟩
  · exact ⟨_, by omega, rfl⟩

theorem fromHex?_toHex (data : Bytes) : fromHex? (toHex data) = some data := by
  induction data with
  | nil => rfl
  | cons b data ih =>
    have hlt := b.toNat_lt
    have hhigh : hexValue? (b.toNat / 16).digitChar = some (b.toNat / 16) :=
      hexValue?_digitChar _ (by omega)
    have hlow : hexValue? (b.toNat % 16).digitChar = some (b.toNat % 16) :=
      hexValue?_digitChar _ (by omega)
    have hcons : toHex (b :: data) =
      (b.toNat / 16).digitChar :: (b.toNat % 16).digitChar :: toHex data := rfl
    rw [hcons, fromHex?, if_neg (not_space_of_hexValue? hhigh), hhigh, hlow, ih]
    simp only [Option.map_some, Nat.div_add_mod, UInt8.ofNat_toNat]

theorem toHex_injective : Function.Injective toHex := by
  intro data data' h
  have hread := fromHex?_toHex data
  rw [h, fromHex?_toHex] at hread
  exact (Option.some.inj hread).symm

theorem fromHex?_isSome (cs : List Char) : (fromHex? cs).isSome ↔ SpacedHex cs := by
  constructor
  · intro h
    fun_induction fromHex? cs with
    | case1 => exact .nil
    | case2 c hc => exact .space hc .nil
    | case3 c hc => simp at h
    | case4 c d cs hc ih => exact .space hc (ih h)
    | case5 c d cs _ x y hd hc ih =>
      exact .byte (by simp [hc]) (by simp [hd]) (ih (by simpa using h))
    | case6 => simp at h
  · intro h
    induction h with
    | nil => rfl
    | @space c cs hc _ ih =>
      cases cs with
      | nil => simp [fromHex?, hc]
      | cons d cs => rwa [fromHex?, if_pos hc]
    | @byte c d cs hc hd _ ih =>
      obtain ⟨x, hx⟩ := Option.isSome_iff_exists.mp hc
      obtain ⟨y, hy⟩ := Option.isSome_iff_exists.mp hd
      rw [fromHex?, if_neg (not_space_of_hexValue? hx), hx, hy]
      simpa using ih

-- ---------------------------------------------------------------------------
-- Fields
-- ---------------------------------------------------------------------------

theorem length_splitOn [DecidableEq α] (a : α) (as : List α) :
    (as.splitOn a).length = as.count a + 1 := by
  induction as with
  | nil => rfl
  | cons b as ih =>
    rw [List.splitOn_cons_eq_if_modifyHead]
    by_cases h : b = a
    · simp [h, ih]
    · simp [h, ih]

-- ---------------------------------------------------------------------------
-- Integers
-- ---------------------------------------------------------------------------

/-- The spaces and decimal digits beyond ASCII. -/
structure Unicode where
  isSpace : Char → Bool
  decimal? : Char → Option (Fin 10)

def Unicode.toAscii (unicode : Unicode) (c : Char) : Char :=
  if c.toNat < 127 then c
  else if unicode.isSpace c then ' '
  else
    match unicode.decimal? c with
    | some d => Nat.digitChar d
    | none => '?'

/-- The most digits `int` reads. -/
def maxIntDigits : ℕ := 4300

/-- Digits with single underscores between them. -/
def grouped? (cs : List Char) : Option ℕ :=
  let groups := cs.splitOn '_'
  if groups.all (fun g => (digits? g).isSome) ∧ groups.flatten.length ≤ maxIntDigits then
    digits? groups.flatten
  else none

def strip (cs : List Char) : List Char := (cs.dropWhile isAsciiSpace).rdropWhile isAsciiSpace

/-- `int(text)`, with a sign, underscores and whitespace around it. -/
def int? (unicode : Unicode) (text : List Char) : Option ℤ :=
  match strip (text.map unicode.toAscii) with
  | '-' :: cs => (grouped? cs).map fun n => -(n : ℤ)
  | '+' :: cs => (grouped? cs).map Int.ofNat
  | cs => (grouped? cs).map Int.ofNat

theorem strip_eq_self {cs : List Char} (h : ∀ c ∈ cs, ¬isAsciiSpace c = true) : strip cs = cs := by
  have hdrop : cs.dropWhile isAsciiSpace = cs :=
    List.dropWhile_eq_self_iff.mpr fun hl => h _ (List.getElem_mem hl)
  rw [strip, hdrop, List.rdropWhile_eq_self_iff]
  exact fun hne => h _ (List.getLast_mem hne)

section
variable {c : Char} (h : c.isDigit = true)
include h

theorem toAscii_digit (unicode : Unicode) : unicode.toAscii c = c := by
  have hle := (Char.isDigit_iff_toNat.mp h).2
  rw [Unicode.toAscii, if_pos (hle.trans_lt (by decide))]

theorem not_space_of_isDigit : ¬isAsciiSpace c = true :=
  not_space_of_hexValue? (by rw [hexValue?, if_pos h])

end

/-- What `str` writes, `int` reads. -/
theorem int?_toDigits (unicode : Unicode) {n : ℕ} (h : (Nat.toDigits 10 n).length ≤ maxIntDigits) :
    int? unicode (Nat.toDigits 10 n) = some (n : ℤ) := by
  have hdigit : ∀ c ∈ Nat.toDigits 10 n, c.isDigit = true :=
    fun c hc => Nat.isDigit_of_mem_toDigits (by decide) (by decide) hc
  have hmap : (Nat.toDigits 10 n).map unicode.toAscii = Nat.toDigits 10 n :=
    (List.map_congr_left fun c hc => toAscii_digit (hdigit c hc) unicode).trans (List.map_id _)
  have hgroups : (Nat.toDigits 10 n).splitOn '_' = [Nat.toDigits 10 n] :=
    List.splitOn_eq_singleton fun hm => by simpa using hdigit '_' hm
  have hgrouped : grouped? (Nat.toDigits 10 n) = some n := by
    simp [grouped?, hgroups, digits?_toDigits, h]
  rw [int?, hmap, strip_eq_self fun c hc => not_space_of_isDigit (hdigit c hc)]
  split
  · next cs hcs => simpa using hdigit '-' (hcs ▸ List.mem_cons_self)
  · next cs hcs => simpa using hdigit '+' (hcs ▸ List.mem_cons_self)
  · rw [hgrouped]
    rfl

end CloudMonitor
