import CloudMonitor.Auth.Revocation
import Mathlib.Algebra.Order.Floor.Ring
import Mathlib.Data.Rat.Floor

/-!
# Issuing access tokens

A login signs a token for the member it found. Instants go into a token as
whole seconds, and every token has an id of its own.
-/

namespace CloudMonitor

/-- `jwt.encode`, whose tokens pass the check with what was put into them, and
`uuid.uuid4().hex`, which never comes twice. -/
structure TokenIssuer extends TokenEnv where
  accessTokenExpireMinutes : ℤ := 120
  encode : Claims → String
  verify_encode : ∀ c, verify (encode c) = some c
  newJti : ℕ → String
  newJti_injective : Function.Injective newJti

namespace TokenIssuer

variable (issuer : TokenIssuer)

/-- `timedelta(minutes=settings.ACCESS_TOKEN_EXPIRE_MINUTES)`, in seconds. -/
def lifetime : ℤ := issuer.accessTokenExpireMinutes * 60

/-- What `create_access_token` signs at this instant of the store's clock; `serial`
counts the ids drawn before. -/
def accessClaims (serial : ℕ) (member : Member) (now : ℚ) : Claims where
  sub := toString member.id
  email := member.email
  role := member.role.value
  iat := ⌊issuer.wall now⌋
  exp := ⌊issuer.wall now + issuer.lifetime⌋
  jti := issuer.newJti serial

def createAccessToken (serial : ℕ) (member : Member) (now : ℚ) : String :=
  issuer.encode (issuer.accessClaims serial member now)

variable {issuer} {serial : ℕ} {member : Member} {now : ℚ}

@[simp] theorem accessClaims_jti :
    (issuer.accessClaims serial member now).jti = issuer.newJti serial := rfl

theorem readInt?_sub :
    readInt? (issuer.accessClaims serial member now).sub = some member.id :=
  readInt?_repr member.id

/-- A token lasts for its lifetime, or up to one second less. -/
theorem accessClaims_exp :
    (issuer.accessClaims serial member now).exp ≤ issuer.wall now + issuer.lifetime ∧
      issuer.wall now + issuer.lifetime < (issuer.accessClaims serial member now).exp + 1 :=
  ⟨Int.floor_le _, Int.lt_floor_add_one _⟩

end TokenIssuer

-- ---------------------------------------------------------------------------
-- Tokens in plain text
-- ---------------------------------------------------------------------------

namespace PlainToken

/-- A text after its length in strokes. -/
def field (text : String) : List Char :=
  List.replicate text.toList.length '|' ++ '.' :: text.toList

def field? (cs : List Char) : Option (String × List Char) :=
  let length := (cs.takeWhile (· == '|')).length
  match cs.drop length with
  | '.' :: rest => some (String.ofList (rest.take length), rest.drop length)
  | _ => none

def encode (c : Claims) : String :=
  String.ofList (field c.sub ++ (field c.email ++ (field c.role ++ (field c.iat.repr ++
    (field c.exp.repr ++ field c.jti)))))

def decode (token : String) : Option Claims := do
  let (sub, rest) ← field? token.toList
  let (email, rest) ← field? rest
  let (role, rest) ← field? rest
  let (iat, rest) ← field? rest
  let (exp, rest) ← field? rest
  let (jti, _) ← field? rest
  return { sub := sub, email := email, role := role, iat := ← readInt? iat, exp := ← readInt? exp,
           jti := jti }

@[simp] theorem field?_field (text : String) (rest : List Char) :
    field? (field text ++ rest) = some (text, rest) := by
  have htake : (field text ++ rest).takeWhile (· == '|') =
      List.replicate text.toList.length '|' := by
    rw [field, List.append_assoc, List.takeWhile_append_of_pos (by simp)]
    simp
  have hdrop : (field text ++ rest).drop text.toList.length = '.' :: (text.toList ++ rest) := by
    rw [field, List.append_assoc, List.drop_left' (by simp), List.cons_append]
  simp only [field?, htake, List.length_replicate, hdrop]
  rw [List.take_left' rfl, List.drop_left' rfl, String.ofList_toList]

theorem decode_encode (c : Claims) : decode (encode c) = some c := by
  have hlast : field? (field c.jti) = some (c.jti, []) := by simpa using field?_field c.jti []
  simp [decode, encode, hlast]

end PlainToken

theorem toString_injective : Function.Injective (toString : ℕ → String) := by
  intro k l h
  have hrepr : (k : ℤ).repr = (l : ℤ).repr := h
  simpa using congrArg readInt? hrepr

/-- Tokens nobody signs, for a process whose clocks agree. -/
def plainTokens : TokenIssuer where
  offset := 0
  verify := PlainToken.decode
  encode := PlainToken.encode
  verify_encode := PlainToken.decode_encode
  newJti := toString
  newJti_injective := toString_injective

end CloudMonitor
