import CloudMonitor.Auth.Login
import CloudMonitor.Lib.Literals

/-!
# Password records

A password is stored as four fields between dollar signs: the algorithm, the
iterations in decimal, and the salt and the digest in hexadecimal. PBKDF2 itself
is a function this model does not look into.
-/

namespace CloudMonitor

inductive PyException
  | valueError
  | typeError
  | overflowError
  deriving DecidableEq

def pbkdf2Iterations : ℕ := 260000

/-- `text.encode()` -/
def encode (text : String) : Bytes := text.toList.flatMap String.utf8EncodeChar

/-- `bytes.fromhex(text)` -/
def fromHex (text : List Char) : Except PyException Bytes :=
  match fromHex? text with
  | some data => .ok data
  | none => .error .valueError

/-- `int(text)` -/
def parseInt (unicode : Unicode) (text : List Char) : Except PyException ℤ :=
  match int? unicode text with
  | some n => .ok n
  | none => .error .valueError

/-- `hmac.compare_digest` of two texts, which have to be ASCII. -/
def compareDigest (a b : List Char) : Except PyException Bool :=
  if (a ++ b).all (fun c => c.toNat < 128) then .ok (a = b) else .error .typeError

def passwordRecord (salt digest : Bytes) : String :=
  "pbkdf2_sha256" ++ "$" ++ toString pbkdf2Iterations ++ "$" ++ String.ofList (toHex salt) ++ "$" ++
    String.ofList (toHex digest)

section
variable (pbkdf2 : Bytes → Bytes → ℕ → Bytes) (unicode : Unicode)

/-- `hashlib.pbkdf2_hmac`: the iterations have to fit a C `long`, be positive
and fit a C `int`, in this order. -/
def pbkdf2Hmac (password salt : Bytes) (iterations : ℤ) : Except PyException Bytes :=
  if iterations < -2 ^ 63 ∨ 2 ^ 63 ≤ iterations then .error .overflowError
  else if iterations < 1 then .error .valueError
  else if 2 ^ 31 ≤ iterations then .error .overflowError
  else .ok (pbkdf2 password salt iterations.toNat)

/-- `salt` is what `os.urandom` draws. -/
def hashPassword (salt : Bytes) (password : String) : Except PyException String := do
  let digest ← pbkdf2Hmac pbkdf2 (encode password) salt pbkdf2Iterations
  return passwordRecord salt digest

def verifyFields (password : String) : List (List Char) → Except PyException Bool
  | [_, iterations, saltHex, digestHex] => do
    let password := encode password
    let salt ← fromHex saltHex
    let iterations ← parseInt unicode iterations
    let digest ← pbkdf2Hmac pbkdf2 password salt iterations
    compareDigest (toHex digest) digestHex
  | _ => .error .valueError

/-- An `OverflowError` is neither of the two exceptions caught. -/
def verifyPassword (password stored : String) : Except PyException Bool :=
  match verifyFields pbkdf2 unicode password (stored.toList.splitOn '$') with
  | .error .valueError | .error .typeError => .ok false
  | answer => answer

end

-- ---------------------------------------------------------------------------
-- The record is read back
-- ---------------------------------------------------------------------------

theorem dollar_notMem_toHex (data : Bytes) : '$' ∉ toHex data := by
  intro h
  obtain ⟨n, hn, hc⟩ := mem_toHex h
  have hvalue := hexValue?_digitChar n hn
  rw [← hc] at hvalue
  simp [hexValue?] at hvalue

theorem dollar_notMem_toDigits (n : ℕ) : '$' ∉ Nat.toDigits 10 n := by
  intro h
  have hdigit : '$'.isDigit = true := Nat.isDigit_of_mem_toDigits (by decide) (by decide) h
  simp at hdigit

theorem toHex_ascii {data : Bytes} {c : Char} (h : c ∈ toHex data) : c.toNat < 128 := by
  have hdigit : ∀ n < 16, n.digitChar.toNat < 128 := by decide
  obtain ⟨n, hn, rfl⟩ := mem_toHex h
  exact hdigit n hn

theorem toList_fields (a b c d : String) :
    (a ++ "$" ++ b ++ "$" ++ c ++ "$" ++ d).toList =
      ['$'].intercalate [a.toList, b.toList, c.toList, d.toList] := by
  simp [String.toList_append, List.intercalate]

theorem splitOn_fields {a b c d : String}
    (h : ∀ l ∈ [a.toList, b.toList, c.toList, d.toList], '$' ∉ l) :
    (a ++ "$" ++ b ++ "$" ++ c ++ "$" ++ d).toList.splitOn '$' =
      [a.toList, b.toList, c.toList, d.toList] := by
  rw [toList_fields]
  exact List.splitOn_intercalate '$' h (by simp)

theorem splitOn_passwordRecord (salt digest : Bytes) :
    (passwordRecord salt digest).toList.splitOn '$' =
      ["pbkdf2_sha256".toList, Nat.toDigits 10 pbkdf2Iterations, toHex salt, toHex digest] := by
  have hiterations : (toString pbkdf2Iterations).toList = Nat.toDigits 10 pbkdf2Iterations :=
    Nat.toList_repr
  have hfields := splitOn_fields (a := "pbkdf2_sha256") (b := toString pbkdf2Iterations)
    (c := String.ofList (toHex salt)) (d := String.ofList (toHex digest))
  simp only [hiterations, String.toList_ofList] at hfields
  refine hfields ?_
  simp only [List.mem_cons, List.not_mem_nil, or_false]
  rintro l (rfl | rfl | rfl | rfl)
  · decide
  · exact dollar_notMem_toDigits _
  · exact dollar_notMem_toHex salt
  · exact dollar_notMem_toHex digest

theorem compareDigest_toHex (a b : Bytes) :
    compareDigest (toHex a) (toHex b) = .ok (decide (a = b)) := by
  have hascii : (toHex a ++ toHex b).all (fun c => c.toNat < 128) := by
    simp only [List.all_eq_true, List.mem_append, decide_eq_true_eq]
    rintro c (hc | hc)
    · exact toHex_ascii hc
    · exact toHex_ascii hc
  rw [compareDigest, if_pos hascii]
  simp only [toHex_injective.eq_iff]

section
variable (pbkdf2 : Bytes → Bytes → ℕ → Bytes) (unicode : Unicode)

theorem hashPassword_eq (salt : Bytes) (password : String) :
    hashPassword pbkdf2 salt password =
      .ok (passwordRecord salt (pbkdf2 (encode password) salt pbkdf2Iterations)) := rfl

theorem verifyPassword_passwordRecord (password : String) (salt digest : Bytes) :
    verifyPassword pbkdf2 unicode password (passwordRecord salt digest) =
      .ok (decide (pbkdf2 (encode password) salt pbkdf2Iterations = digest)) := by
  have hsalt : fromHex (toHex salt) = .ok salt := by
    rw [fromHex, fromHex?_toHex]
  have hiterations :
      parseInt unicode (Nat.toDigits 10 pbkdf2Iterations) = .ok pbkdf2Iterations := by
    rw [parseInt, int?_toDigits unicode (by decide)]
  have hverify : verifyFields pbkdf2 unicode password
      ["pbkdf2_sha256".toList, Nat.toDigits 10 pbkdf2Iterations, toHex salt, toHex digest] =
        .ok (decide (pbkdf2 (encode password) salt pbkdf2Iterations = digest)) := by
    rw [verifyFields, hsalt, hiterations]
    exact compareDigest_toHex _ _
  rw [verifyPassword, splitOn_passwordRecord, hverify]

-- ---------------------------------------------------------------------------
-- What is no record
-- ---------------------------------------------------------------------------

theorem verifyPassword_of_count_ne {stored : String} (password : String)
    (h : stored.toList.count '$' ≠ 3) :
    verifyPassword pbkdf2 unicode password stored = .ok false := by
  have hlength := length_splitOn '$' stored.toList
  have hverify : verifyFields pbkdf2 unicode password (stored.toList.splitOn '$') =
      .error .valueError := by
    unfold verifyFields
    split
    · next hfields =>
      rw [hfields] at hlength
      simp at hlength
      omega
    · rfl
  rw [verifyPassword, hverify]

/-- The salt is looked at before the iterations. -/
theorem verifyPassword_of_not_hex {algorithm iterations saltHex digestHex : String}
    (password : String) (h : ¬SpacedHex saltHex.toList) :
    verifyPassword pbkdf2 unicode password
      (algorithm ++ "$" ++ iterations ++ "$" ++ saltHex ++ "$" ++ digestHex) = .ok false := by
  by_cases hcount : (algorithm ++ "$" ++ iterations ++ "$" ++ saltHex ++ "$" ++
      digestHex).toList.count '$' = 3
  · have hfields : ∀ l ∈ [algorithm.toList, iterations.toList, saltHex.toList, digestHex.toList],
        '$' ∉ l := by
      have hdollar : "$".toList.count '$' = 1 := by decide
      simp only [String.toList_append, List.count_append, hdollar] at hcount
      simp only [List.mem_cons, List.not_mem_nil, or_false]
      rintro l (rfl | rfl | rfl | rfl) <;> exact List.count_eq_zero.mp (by omega)
    have hsalt : fromHex saltHex.toList = .error .valueError := by
      rw [← fromHex?_isSome, Option.not_isSome_iff_eq_none] at h
      rw [fromHex, h]
    rw [verifyPassword, splitOn_fields hfields, verifyFields, hsalt]
    rfl
  · exact verifyPassword_of_count_ne pbkdf2 unicode password hcount

end

-- ---------------------------------------------------------------------------
-- A login against a record
-- ---------------------------------------------------------------------------

/-- Passwords as the code checks them. An `OverflowError` would leave the login
unanswered; no record of `hashPassword` raises one. -/
def Env.withPasswords (env : Env) (pbkdf2 : Bytes → Bytes → ℕ → Bytes) (unicode : Unicode) : Env :=
  { env with
    verifyPassword := fun password stored =>
      decide (CloudMonitor.verifyPassword pbkdf2 unicode password stored = .ok true) }

theorem authenticate_hashPassword {pbkdf2 : Bytes → Bytes → ℕ → Bytes} {unicode : Unicode}
    {env : Env} {members : Table Member} {body : LoginRequest} {m : Member} {salt : Bytes}
    {q : String} (hm : members.rows.find? (fun m => m.email == body.email) = some m)
    (hq : hashPassword pbkdf2 salt q = .ok m.password) :
    authenticate (env.withPasswords pbkdf2 unicode) members body =
      if pbkdf2 (encode body.password) salt pbkdf2Iterations =
        pbkdf2 (encode q) salt pbkdf2Iterations then some m else none := by
  rw [hashPassword_eq] at hq
  have hpassword := Except.ok.inj hq
  have hverify := verifyPassword_passwordRecord pbkdf2 unicode body.password salt
    (pbkdf2 (encode q) salt pbkdf2Iterations)
  rw [hpassword] at hverify
  simp only [authenticate, hm, Option.filter_some, Env.withPasswords, hverify, Except.ok.injEq,
    decide_eq_true_eq]

-- ---------------------------------------------------------------------------
-- The round trip
-- ---------------------------------------------------------------------------

/-- A record made of one password is passed by another exactly if PBKDF2 gives
both one digest. Text with another number of dollar signs, or with a salt field
that is not pairs of hexadecimal digits with ASCII whitespace around them, is
passed by no password. -/
theorem password_record_round_trips (pbkdf2 : Bytes → Bytes → ℕ → Bytes) (unicode : Unicode) :
    (∀ (salt : Bytes) (q : String), ∃ stored, hashPassword pbkdf2 salt q = .ok stored ∧
      (∀ p, verifyPassword pbkdf2 unicode p stored =
        .ok (decide (pbkdf2 (encode p) salt pbkdf2Iterations =
          pbkdf2 (encode q) salt pbkdf2Iterations))) ∧
      verifyPassword pbkdf2 unicode q stored = .ok true) ∧
    (∀ p stored : String, stored.toList.count '$' ≠ 3 →
      verifyPassword pbkdf2 unicode p stored = .ok false) ∧
    ∀ p algorithm iterations saltHex digestHex : String, ¬SpacedHex saltHex.toList →
      verifyPassword pbkdf2 unicode p
        (algorithm ++ "$" ++ iterations ++ "$" ++ saltHex ++ "$" ++ digestHex) = .ok false := by
  refine ⟨fun salt q => ?_, fun p _ h => verifyPassword_of_count_ne pbkdf2 unicode p h,
    fun p _ _ _ _ h => verifyPassword_of_not_hex pbkdf2 unicode p h⟩
  refine ⟨_, hashPassword_eq pbkdf2 salt q,
    fun p => verifyPassword_passwordRecord pbkdf2 unicode p salt _, ?_⟩
  rw [verifyPassword_passwordRecord, decide_eq_true rfl]

-- ---------------------------------------------------------------------------
-- One password and its digest
-- ---------------------------------------------------------------------------

def managerSalt : Bytes :=
  [0x00, 0x11, 0x22, 0x33, 0x44, 0x55, 0x66, 0x77, 0x88, 0x99, 0xaa, 0xbb, 0xcc, 0xdd, 0xee, 0xff]

def managerDigest : Bytes :=
  [0xcc, 0x9e, 0x2a, 0x37, 0x38, 0xb7, 0x85, 0xc5, 0x7b, 0xd0, 0x92, 0xa4, 0x4b, 0x22, 0x8d, 0x04,
    0xab, 0x9a, 0x4d, 0x3c, 0x13, 0xf1, 0x34, 0x94, 0xae, 0xd3, 0xe7, 0xfb, 0xe7, 0xa9, 0x98, 0x2d]

/-- PBKDF2 where the runs below ask it. -/
def managerPbkdf2 (password salt : Bytes) (iterations : ℕ) : Bytes :=
  if password = encode "manager123!" ∧ salt = managerSalt ∧ iterations = 260000 then managerDigest
  else List.replicate 32 0

def asciiOnly : Unicode := { isSpace := fun _ => false, decimal? := fun _ => none }

/-- Spaces between the bytes of the salt do not keep the password out. -/
theorem spaced_salt_passes :
    "00112233 44556677 8899aabb ccddeeff".toList.all (fun c => (hexValue? c).isSome) = false ∧
      verifyPassword managerPbkdf2 asciiOnly "manager123!"
        ("pbkdf2_sha256$260000$" ++ "00112233 44556677 8899aabb ccddeeff" ++ "$" ++
          "cc9e2a3738b785c57bd092a44b228d04ab9a4d3c13f13494aed3e7fbe7a9982d") = .ok true := by
  decide +kernel

theorem password_record_round_trips_manager :
    (∃ stored, hashPassword managerPbkdf2 managerSalt "manager123!" = .ok stored ∧
      verifyPassword managerPbkdf2 asciiOnly "manager123!" stored = .ok true) ∧
    verifyPassword managerPbkdf2 asciiOnly "manager123!"
      "pbkdf2_sha256$260000$00112233445566778899aabbccddeeff" = .ok false ∧
    verifyPassword managerPbkdf2 asciiOnly "manager123!"
      ("pbkdf2_sha256" ++ "$" ++ "260000" ++ "$" ++ "0011223" ++ "$" ++
        "cc9e2a3738b785c57bd092a44b228d04ab9a4d3c13f13494aed3e7fbe7a9982d") = .ok false := by
  obtain ⟨hhashed, hcount, hhex⟩ := password_record_round_trips managerPbkdf2 asciiOnly
  obtain ⟨stored, hstored, -, hpasses⟩ := hhashed managerSalt "manager123!"
  exact ⟨⟨stored, hstored, hpasses⟩, hcount _ _ (by decide +kernel),
    hhex _ _ _ _ _ (by rw [← fromHex?_isSome]; decide +kernel)⟩

end CloudMonitor
