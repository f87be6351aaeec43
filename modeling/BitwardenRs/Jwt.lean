import BitwardenRs.Chrono
import Mathlib.Data.List.Basic

/-!
# Purpose-scoped tokens

Every token the server issues is a JWT signed with one RSA key pair, and what
it is *for* is written in its issuer: `JWT_LOGIN_ISSUER` is the configured
domain origin followed by `|login`, and likewise `|invite`, `|delete`,
`|verifyemail` and `|admin`. `decode_jwt` asks jsonwebtoken to check the
signature, then `exp` and `nbf` against the clock with a leeway of 30
seconds, then that `iss` is exactly the issuer of the purpose it was called
for. Three of the five claims types – delete, verify-email and admin – have
the same four fields, so the issuer is the only thing that keeps a delete
token from being read as an admin session.

A token is modelled from its claims set, the JSON object a verified token
carries. The key is what verifying does (`DecodingKey`): the RSA computation
is not modelled, and every theorem holds for every key. jsonwebtoken reads the
registered claims out of the claims set itself, not out of the struct serde
builds, so the struct's `iss` is the checked one only because serde takes it
from the same key (`JwtClaims.deserialize_registered`).

`decode_purpose_sound` is the main result: a token one decoder accepts has
that decoder's issuer and a valid time window, and no token is accepted by two
decoders.
-/

namespace BitwardenRs

/-! ## Claims sets -/

/-- **A JSON value of a claims set**, as far as the claims structs of
`auth.rs` can tell values apart: `null`, booleans, integers, strings, arrays
of strings, and `other` for every value none of their fields reads (a float,
an object, an array holding a non-string). -/
inductive ClaimValue where
  | null
  | bool (b : Bool)
  | num (n : Int)
  | str (s : String)
  | strs (xs : List String)
  | other
  deriving DecidableEq

/-- The claims set of a token: its JSON object. -/
abbrev ClaimsSet := List (String × ClaimValue)

namespace ClaimValue

/-- serde reads an `i64`. -/
def asI64 : ClaimValue → Option Int
  | num n => if -9223372036854775808 ≤ n ∧ n < 9223372036854775808 then some n else none
  | _ => none

/-- serde reads a `u64` (`from_value::<u64>` in jsonwebtoken). -/
def asU64 : ClaimValue → Option UInt64
  | num n => if 0 ≤ n ∧ n < 18446744073709551616 then some (UInt64.ofNat n.toNat) else none
  | _ => none

/-- serde reads a `String`. -/
def asString : ClaimValue → Option String
  | str s => some s
  | _ => none

/-- serde reads a `bool`. -/
def asBool : ClaimValue → Option Bool
  | bool b => some b
  | _ => none

/-- serde reads a `Vec<String>`. -/
def asStrings : ClaimValue → Option (List String)
  | strs xs => some xs
  | _ => none

theorem asI64_eq_some {v : ClaimValue} {n : Int} (h : v.asI64 = some n) : v = num n := by
  cases v <;> simp_all [asI64]

theorem asString_eq_some {v : ClaimValue} {s : String} (h : v.asString = some s) :
    v = str s := by
  cases v <;> simp_all [asString]

theorem asU64_eq_some {v : ClaimValue} {e : UInt64} (h : v.asU64 = some e) :
    v = num e.toNat := by
  cases v with
  | num n => ?_
  | _ => simp [asU64] at h
  simp only [asU64, Option.ite_none_right_eq_some, Option.some.injEq] at h
  obtain ⟨⟨h0, h1⟩, rfl⟩ := h
  have hlt : n.toNat < UInt64.size := by
    simp only [UInt64.size]; omega
  rw [UInt64.toNat_ofNat_of_lt hlt, Int.toNat_of_nonneg h0]

end ClaimValue

namespace ClaimsSet

/-- The value under a key. -/
def get (m : ClaimsSet) (k : String) : Option ClaimValue := m.lookup k

/-- A required field of a derived `Deserialize`: present, and of its type. -/
def field (m : ClaimsSet) (k : String) (f : ClaimValue → Option α) : Option α :=
  (m.get k).bind f

/-- An `Option<String>` field: missing or `null` is `None`. -/
def optField (m : ClaimsSet) (k : String) : Option (Option String) :=
  match m.get k with
  | none => some none
  | some .null => some none
  | some (.str s) => some (some s)
  | some _ => none

theorem field_eq_some {m : ClaimsSet} {k : String} {f : ClaimValue → Option α} {a : α}
    (h : m.field k f = some a) : ∃ v, m.get k = some v ∧ f v = some a :=
  Option.bind_eq_some.mp h

end ClaimsSet

/-- **What `decode_jwt` asks of a claims type**: serde's `Deserialize` as a
partial function of the claims set, together with the registered claims the
validation reads, each of which serde takes from its own key. -/
class JwtClaims (T : Type) where
  /-- The derived `Deserialize`. -/
  deserialize : ClaimsSet → Option T
  /-- `nbf`. -/
  nbf : T → Int
  /-- `exp`. -/
  exp : T → Int
  /-- `iss`. -/
  iss : T → String
  /-- The struct's registered claims are the claims set's. -/
  deserialize_registered : ∀ m c, deserialize m = some c →
    m.get "nbf" = some (.num (nbf c)) ∧ m.get "exp" = some (.num (exp c)) ∧
      m.get "iss" = some (.str (iss c))

/-! ## The claims structs -/

/-- `LoginJWTClaims`, the claims of a session token. -/
structure LoginJWTClaims where
  nbf : Int
  exp : Int
  iss : String
  sub : String
  premium : Bool
  name : String
  email : String
  emailVerified : Bool
  orgowner : List String
  orgadmin : List String
  orguser : List String
  orgmanager : List String
  /-- The user's `security_stamp` when the token was issued. -/
  sstamp : String
  /-- The device's uuid. -/
  device : String
  scope : List String
  amr : List String
  deriving DecidableEq

/-- `InviteJWTClaims`, the claims of an organization invitation. -/
structure InviteJWTClaims where
  nbf : Int
  exp : Int
  iss : String
  sub : String
  email : String
  orgId : Option String
  userOrgId : Option String
  invitedByEmail : Option String
  deriving DecidableEq

/-- `DeleteJWTClaims`, the claims of an account-deletion token. -/
structure DeleteJWTClaims where
  nbf : Int
  exp : Int
  iss : String
  sub : String
  deriving DecidableEq

/-- `VerifyEmailJWTClaims`: the four fields of `DeleteJWTClaims`, read by
serde the same way. -/
abbrev VerifyEmailJWTClaims := DeleteJWTClaims

/-- `AdminJWTClaims`: the four fields of `DeleteJWTClaims` again. -/
abbrev AdminJWTClaims := DeleteJWTClaims

/-- The derived `Deserialize` of `LoginJWTClaims`: every field required. -/
def LoginJWTClaims.deserialize (m : ClaimsSet) : Option LoginJWTClaims :=
  LoginJWTClaims.mk <$> m.field "nbf" ClaimValue.asI64 <*> m.field "exp" ClaimValue.asI64
    <*> m.field "iss" ClaimValue.asString <*> m.field "sub" ClaimValue.asString
    <*> m.field "premium" ClaimValue.asBool <*> m.field "name" ClaimValue.asString
    <*> m.field "email" ClaimValue.asString <*> m.field "email_verified" ClaimValue.asBool
    <*> m.field "orgowner" ClaimValue.asStrings <*> m.field "orgadmin" ClaimValue.asStrings
    <*> m.field "orguser" ClaimValue.asStrings <*> m.field "orgmanager" ClaimValue.asStrings
    <*> m.field "sstamp" ClaimValue.asString <*> m.field "device" ClaimValue.asString
    <*> m.field "scope" ClaimValue.asStrings <*> m.field "amr" ClaimValue.asStrings

/-- The derived `Deserialize` of `InviteJWTClaims`: the `Option` fields may
be missing. -/
def InviteJWTClaims.deserialize (m : ClaimsSet) : Option InviteJWTClaims :=
  InviteJWTClaims.mk <$> m.field "nbf" ClaimValue.asI64 <*> m.field "exp" ClaimValue.asI64
    <*> m.field "iss" ClaimValue.asString <*> m.field "sub" ClaimValue.asString
    <*> m.field "email" ClaimValue.asString <*> m.optField "org_id"
    <*> m.optField "user_org_id" <*> m.optField "invited_by_email"

/-- The derived `Deserialize` of `DeleteJWTClaims`, `VerifyEmailJWTClaims`
and `AdminJWTClaims`. -/
def DeleteJWTClaims.deserialize (m : ClaimsSet) : Option DeleteJWTClaims :=
  DeleteJWTClaims.mk <$> m.field "nbf" ClaimValue.asI64 <*> m.field "exp" ClaimValue.asI64
    <*> m.field "iss" ClaimValue.asString <*> m.field "sub" ClaimValue.asString

/-- `<*>` on `Option` succeeds only when both sides do. -/
theorem seq_eq_some {α β : Type} {f : Option (α → β)} {x : Option α} {c : β}
    (h : (f <*> x) = some c) : ∃ g a, f = some g ∧ x = some a ∧ g a = c := by
  cases f <;> cases x <;> simp_all [Seq.seq, Option.bind]

/-- The registered claims read by serde are the claims set's own. -/
theorem registered_of_fields {m : ClaimsSet} {a b : Int} {s : String}
    (ha : m.field "nbf" ClaimValue.asI64 = some a) (hb : m.field "exp" ClaimValue.asI64 = some b)
    (hs : m.field "iss" ClaimValue.asString = some s) :
    m.get "nbf" = some (.num a) ∧ m.get "exp" = some (.num b) ∧ m.get "iss" = some (.str s) := by
  obtain ⟨va, hva, ha⟩ := ClaimsSet.field_eq_some ha
  obtain ⟨vb, hvb, hb⟩ := ClaimsSet.field_eq_some hb
  obtain ⟨vs, hvs, hs⟩ := ClaimsSet.field_eq_some hs
  rw [hva, hvb, hvs, ClaimValue.asI64_eq_some ha, ClaimValue.asI64_eq_some hb,
    ClaimValue.asString_eq_some hs]
  exact ⟨rfl, rfl, rfl⟩

instance : JwtClaims LoginJWTClaims where
  deserialize := LoginJWTClaims.deserialize
  nbf := LoginJWTClaims.nbf
  exp := LoginJWTClaims.exp
  iss := LoginJWTClaims.iss
  deserialize_registered _ _ h := by
    unfold LoginJWTClaims.deserialize at h
    repeat (replace h := seq_eq_some h; obtain ⟨_, _, h, _, rfl⟩ := h)
    obtain ⟨_, hn, rfl⟩ := Option.map_eq_some'.mp h
    exact registered_of_fields hn ‹_› ‹_›

instance : JwtClaims InviteJWTClaims where
  deserialize := InviteJWTClaims.deserialize
  nbf := InviteJWTClaims.nbf
  exp := InviteJWTClaims.exp
  iss := InviteJWTClaims.iss
  deserialize_registered _ _ h := by
    unfold InviteJWTClaims.deserialize at h
    repeat (replace h := seq_eq_some h; obtain ⟨_, _, h, _, rfl⟩ := h)
    obtain ⟨_, hn, rfl⟩ := Option.map_eq_some'.mp h
    exact registered_of_fields hn ‹_› ‹_›

instance : JwtClaims DeleteJWTClaims where
  deserialize := DeleteJWTClaims.deserialize
  nbf := DeleteJWTClaims.nbf
  exp := DeleteJWTClaims.exp
  iss := DeleteJWTClaims.iss
  deserialize_registered _ _ h := by
    unfold DeleteJWTClaims.deserialize at h
    repeat (replace h := seq_eq_some h; obtain ⟨_, _, h, _, rfl⟩ := h)
    obtain ⟨_, hn, rfl⟩ := Option.map_eq_some'.mp h
    exact registered_of_fields hn ‹_› ‹_›

/-! ## jsonwebtoken's decode -/

/-- **The public key**, as what verifying with it does: jsonwebtoken's
`verify_signature` under `PUBLIC_RSA_KEY` – the header names RS256, the
signature checks, the payload is a JSON object – gives the claims set. -/
structure DecodingKey where
  /-- The claims set of a token whose signature checks. -/
  verify : String → Option ClaimsSet

/-- `jsonwebtoken::Validation` as `decode_jwt` fills it in. Its `aud` and
`sub` are `None` there, so nothing is checked for them; they are left out. -/
structure Validation where
  leeway : UInt64
  validateExp : Bool
  validateNbf : Bool
  iss : Option String

/-- The jsonwebtoken `ErrorKind`s a decode can end in. -/
inductive ErrorKind
  | InvalidSignature
  | Json
  | ExpiredSignature
  | ImmatureSignature
  | InvalidIssuer
  deriving DecidableEq

namespace Jsonwebtoken

/-- The `exp` check of `validate`: the claim is there, reads as a `u64`, and
is not before `now - leeway`, computed in `u64`. -/
def validateExp (claims : ClaimsSet) (options : Validation) (now : UInt64) :
    Except ErrorKind Unit :=
  if options.validateExp then
    match claims.get "exp" with
    | none => .error .ExpiredSignature
    | some v =>
      match v.asU64 with
      | none => .error .Json
      | some exp => if exp < now - options.leeway then .error .ExpiredSignature else .ok ()
  else .ok ()

/-- The `nbf` check of `validate`: the claim is there, reads as a `u64`, and
is not after `now + leeway`. -/
def validateNbf (claims : ClaimsSet) (options : Validation) (now : UInt64) :
    Except ErrorKind Unit :=
  if options.validateNbf then
    match claims.get "nbf" with
    | none => .error .ImmatureSignature
    | some v =>
      match v.asU64 with
      | none => .error .Json
      | some nbf => if nbf > now + options.leeway then .error .ImmatureSignature else .ok ()
  else .ok ()

/-- The `iss` check of `validate`: the claim is there and is exactly the
expected issuer. -/
def validateIss (claims : ClaimsSet) (options : Validation) : Except ErrorKind Unit :=
  match options.iss with
  | none => .ok ()
  | some correctIss =>
    match claims.get "iss" with
    | none => .error .InvalidIssuer
    | some v =>
      match v.asString with
      | none => .error .Json
      | some iss => if iss ≠ correctIss then .error .InvalidIssuer else .ok ()

/-- `validate`: `exp`, then `nbf`, then `iss`, the order of the spec. -/
def validate (claims : ClaimsSet) (options : Validation) (now : UInt64) :
    Except ErrorKind Unit := do
  validateExp claims options now
  validateNbf claims options now
  validateIss claims options

/-- `decode`: verify the signature, deserialize the claims, validate the
claims set. -/
def decode {T : Type} [JwtClaims T] (key : DecodingKey) (token : String)
    (validation : Validation) (now : UInt64) : Except ErrorKind T :=
  match key.verify token with
  | none => .error .InvalidSignature
  | some claims =>
    match JwtClaims.deserialize claims with
    | none => .error .Json
    | some decoded => (validate claims validation now).map fun _ => decoded

variable {claims : ClaimsSet} {options : Validation} {now : UInt64}

/-- A token that passes the `exp` check is not expired by more than the
leeway, whatever `u64` wrap-around `now - leeway` makes. -/
theorem validateExp_ok (h : validateExp claims options now = .ok ())
    (he : options.validateExp = true) :
    ∃ e : Int, claims.get "exp" = some (.num e) ∧
      (now.toNat : Int) - options.leeway.toNat ≤ e := by
  simp only [validateExp, he, if_true] at h
  split at h
  · cases h
  · rename_i v _
    split at h
    · cases h
    · rename_i exp hexp
      split at h
      · cases h
      · rename_i hlt
        rw [UInt64.lt_def, UInt64.sub_def] at hlt
        refine ⟨exp.toNat, by rwa [← ClaimValue.asU64_eq_some hexp], ?_⟩
        simp only [UInt64.toNat]
        bv_omega

/-- A token that passes the `nbf` check is not early by more than the
leeway. -/
theorem validateNbf_ok (h : validateNbf claims options now = .ok ())
    (hn : options.validateNbf = true) :
    ∃ n : Int, claims.get "nbf" = some (.num n) ∧ n ≤ now.toNat + options.leeway.toNat := by
  simp only [validateNbf, hn, if_true] at h
  split at h
  · cases h
  · rename_i v _
    split at h
    · cases h
    · rename_i nbf hnbf
      split at h
      · cases h
      · rename_i hgt
        rw [gt_iff_lt, UInt64.lt_def, UInt64.add_def] at hgt
        refine ⟨nbf.toNat, by rwa [← ClaimValue.asU64_eq_some hnbf], ?_⟩
        simp only [UInt64.toNat]
        bv_omega

/-- A token that passes the `iss` check carries exactly the expected
issuer. -/
theorem validateIss_ok (h : validateIss claims options = .ok ()) {i : String}
    (hi : options.iss = some i) : claims.get "iss" = some (.str i) := by
  simp only [validateIss, hi] at h
  split at h
  · cases h
  · rename_i v hv
    split at h
    · cases h
    · rename_i iss hiss
      split at h
      · cases h
      · rename_i heq
        rw [hv, ClaimValue.asString_eq_some hiss, not_not.mp heq]

theorem validate_ok (h : validate claims options now = .ok ()) :
    validateExp claims options now = .ok () ∧ validateNbf claims options now = .ok () ∧
      validateIss claims options = .ok () := by
  cases h1 : validateExp claims options now with
  | error e => simp [validate, h1, bind, Except.bind] at h
  | ok u =>
    cases h2 : validateNbf claims options now with
    | error e => simp [validate, h1, h2, bind, Except.bind] at h
    | ok u' =>
      simp only [validate, h1, h2, bind, Except.bind] at h
      exact ⟨rfl, rfl, h⟩

/-- **What a successful decode has seen**: a verified claims set, the struct
serde built from it, and a validation that passed. -/
theorem decode_ok {T : Type} [JwtClaims T] {key : DecodingKey} {token : String}
    {validation : Validation} {c : T} (h : decode key token validation now = .ok c) :
    ∃ m, key.verify token = some m ∧ JwtClaims.deserialize m = some c ∧
      validate m validation now = .ok () := by
  unfold decode at h
  split at h
  · cases h
  · rename_i m hm
    split at h
    · cases h
    · rename_i d hd
      cases hv : validate m validation now with
      | error e => rw [hv] at h; cases h
      | ok u => rw [hv] at h; cases h; exact ⟨m, hm, hd, hv⟩

end Jsonwebtoken

/-! ## `decode_jwt` and the five purposes -/

/-- What the token functions read besides their arguments, passed in rather
than kept in `Lazy` statics: `CONFIG.domain_origin()`, the public key, and the
clock jsonwebtoken reads (`get_current_timestamp`). -/
structure TokenEnv where
  domainOrigin : String
  publicKey : DecodingKey
  now : UInt64

/-- Rust's `char::is_whitespace`: the characters with Unicode's `White_Space`
property. -/
def charIsWhitespace (c : Char) : Bool :=
  let n := c.toNat
  (9 ≤ n && n ≤ 13) || n == 32 || n == 0x85 || n == 0xA0 || n == 0x1680 ||
    (0x2000 ≤ n && n ≤ 0x200A) || n == 0x2028 || n == 0x2029 || n == 0x202F ||
    n == 0x205F || n == 0x3000

/-- `token.replace(char::is_whitespace, "")`. -/
def removeWhitespace (token : String) : String :=
  String.mk (token.toList.filter fun c => !charIsWhitespace c)

/-- **`decode_jwt`**: strip the whitespace, then decode with a leeway of 30
seconds, `exp` and `nbf` checked, and the issuer it is given. Every
jsonwebtoken error becomes "Error decoding JWT". -/
def decodeJwt {T : Type} [JwtClaims T] (env : TokenEnv) (token : String) (issuer : String) :
    Except String T :=
  let validation : Validation :=
    { leeway := 30, validateExp := true, validateNbf := true, iss := some issuer }
  let token := removeWhitespace token
  match Jsonwebtoken.decode env.publicKey token validation env.now with
  | .ok claims => .ok claims
  | .error _ => .error "Error decoding JWT"

/-- **What `decode_jwt` guarantees**: the verified claims set of the token
names the issuer asked for, and the struct returned carries that issuer and a
time window that contains `now`, give or take the 30 seconds of leeway. -/
theorem decodeJwt_ok {T : Type} [JwtClaims T] {env : TokenEnv} {token issuer : String}
    {c : T} (h : decodeJwt env token issuer = .ok c) :
    ∃ m, env.publicKey.verify (removeWhitespace token) = some m ∧
      m.get "iss" = some (.str issuer) ∧ JwtClaims.iss c = issuer ∧
      JwtClaims.nbf c ≤ env.now.toNat + 30 ∧ (env.now.toNat : Int) - 30 ≤ JwtClaims.exp c := by
  dsimp only [decodeJwt] at h
  split at h
  · rename_i c' hd
    cases h
    obtain ⟨m, hm, hc, hv⟩ := Jsonwebtoken.decode_ok hd
    obtain ⟨hexp, hnbf, hiss⟩ := Jsonwebtoken.validate_ok hv
    obtain ⟨hn, he, hi⟩ := JwtClaims.deserialize_registered m _ hc
    obtain ⟨e, he', hle⟩ := Jsonwebtoken.validateExp_ok hexp rfl
    obtain ⟨n, hn', hln⟩ := Jsonwebtoken.validateNbf_ok hnbf rfl
    have hiss' := Jsonwebtoken.validateIss_ok hiss rfl
    rw [he, Option.some.injEq, ClaimValue.num.injEq] at he'
    rw [hn, Option.some.injEq, ClaimValue.num.injEq] at hn'
    rw [hi, Option.some.injEq, ClaimValue.str.injEq] at hiss'
    subst he' hn'
    exact ⟨m, hm, hiss' ▸ hi, hiss', hln, hle⟩
  · cases h

/-- `format!("{}|{suffix}", CONFIG.domain_origin())`: the issuer of one
purpose. -/
def jwtIssuer (domainOrigin suffix : String) : String := domainOrigin ++ "|" ++ suffix

/-- `JWT_LOGIN_ISSUER`. -/
def jwtLoginIssuer (domainOrigin : String) : String := jwtIssuer domainOrigin "login"

/-- `JWT_INVITE_ISSUER`. -/
def jwtInviteIssuer (domainOrigin : String) : String := jwtIssuer domainOrigin "invite"

/-- `JWT_DELETE_ISSUER`. -/
def jwtDeleteIssuer (domainOrigin : String) : String := jwtIssuer domainOrigin "delete"

/-- `JWT_VERIFYEMAIL_ISSUER`. -/
def jwtVerifyemailIssuer (domainOrigin : String) : String :=
  jwtIssuer domainOrigin "verifyemail"

/-- `JWT_ADMIN_ISSUER`. -/
def jwtAdminIssuer (domainOrigin : String) : String := jwtIssuer domainOrigin "admin"

/-- One origin's issuers differ exactly where their suffixes do. -/
theorem jwtIssuer_inj {o s t : String} (h : jwtIssuer o s = jwtIssuer o t) : s = t := by
  have := congrArg String.data h
  simp only [jwtIssuer, String.data_append, List.append_assoc] at this
  exact String.ext (List.append_cancel_left (List.append_cancel_left this))

/-- `decode_login`. -/
def decodeLogin (env : TokenEnv) (token : String) : Except String LoginJWTClaims :=
  decodeJwt env token (jwtLoginIssuer env.domainOrigin)

/-- `decode_invite`. -/
def decodeInvite (env : TokenEnv) (token : String) : Except String InviteJWTClaims :=
  decodeJwt env token (jwtInviteIssuer env.domainOrigin)

/-- `decode_delete`. -/
def decodeDelete (env : TokenEnv) (token : String) : Except String DeleteJWTClaims :=
  decodeJwt env token (jwtDeleteIssuer env.domainOrigin)

/-- `decode_verify_email`. -/
def decodeVerifyEmail (env : TokenEnv) (token : String) : Except String VerifyEmailJWTClaims :=
  decodeJwt env token (jwtVerifyemailIssuer env.domainOrigin)

/-- `decode_admin`. -/
def decodeAdmin (env : TokenEnv) (token : String) : Except String AdminJWTClaims :=
  decodeJwt env token (jwtAdminIssuer env.domainOrigin)

/-- **The five purposes** a token can be issued for. -/
inductive Purpose
  | login
  | invite
  | delete
  | verifyemail
  | admin
  deriving DecidableEq

namespace Purpose

/-- The suffix of the purpose's issuer. -/
def suffix : Purpose → String
  | login => "login"
  | invite => "invite"
  | delete => "delete"
  | verifyemail => "verifyemail"
  | admin => "admin"

theorem suffix_inj {P Q : Purpose} (h : P.suffix = Q.suffix) : P = Q := by
  cases P <;> cases Q <;> first | rfl | exact absurd h (by decide)

/-- The claims struct a purpose's decoder returns. -/
def Claims : Purpose → Type
  | login => LoginJWTClaims
  | invite => InviteJWTClaims
  | delete => DeleteJWTClaims
  | verifyemail => VerifyEmailJWTClaims
  | admin => AdminJWTClaims

instance instJwtClaims : (P : Purpose) → JwtClaims P.Claims
  | login => inferInstanceAs (JwtClaims LoginJWTClaims)
  | invite => inferInstanceAs (JwtClaims InviteJWTClaims)
  | delete => inferInstanceAs (JwtClaims DeleteJWTClaims)
  | verifyemail => inferInstanceAs (JwtClaims DeleteJWTClaims)
  | admin => inferInstanceAs (JwtClaims DeleteJWTClaims)

/-- The decoder of a purpose: `decode_login`, `decode_invite`,
`decode_delete`, `decode_verify_email` or `decode_admin`. -/
def decode : (P : Purpose) → TokenEnv → String → Except String P.Claims
  | login => decodeLogin
  | invite => decodeInvite
  | delete => decodeDelete
  | verifyemail => decodeVerifyEmail
  | admin => decodeAdmin

/-- Each decoder is `decode_jwt` at its own issuer. -/
theorem decode_eq (P : Purpose) (env : TokenEnv) (token : String) :
    P.decode env token = decodeJwt env token (jwtIssuer env.domainOrigin P.suffix) := by
  cases P <;> rfl

end Purpose

/-- **Purpose scoping.** A token accepted by the decoder of purpose `P`
carries `P`'s issuer for the configured origin, and its time window contains
the validation time up to the 30 seconds of leeway; so no token is accepted by
the decoders of two different purposes, however alike their claims
structs. -/
theorem decode_purpose_sound (env : TokenEnv) (token : String) :
    (∀ (P : Purpose) (c : P.Claims), P.decode env token = .ok c →
      JwtClaims.iss c = jwtIssuer env.domainOrigin P.suffix ∧
        JwtClaims.nbf c ≤ env.now.toNat + 30 ∧ (env.now.toNat : Int) - 30 ≤ JwtClaims.exp c) ∧
    ∀ P Q : Purpose, P ≠ Q → (P.decode env token).isOk = true →
      (Q.decode env token).isOk = false := by
  refine ⟨fun P c h => ?_, fun P Q hPQ hP => ?_⟩
  · rw [Purpose.decode_eq] at h
    obtain ⟨_, _, _, hi, hn, he⟩ := decodeJwt_ok h
    exact ⟨hi, hn, he⟩
  · cases hQ : Q.decode env token with
    | error _ => rfl
    | ok cQ =>
      cases hP' : P.decode env token with
      | error _ => rw [hP'] at hP; cases hP
      | ok cP =>
        rw [Purpose.decode_eq] at hP' hQ
        obtain ⟨m, hm, hiss, _⟩ := decodeJwt_ok hP'
        obtain ⟨m', hm', hiss', _⟩ := decodeJwt_ok hQ
        rw [hm, Option.some.injEq] at hm'
        rw [← hm', hiss, Option.some.injEq, ClaimValue.str.injEq] at hiss'
        exact absurd (Purpose.suffix_inj (jwtIssuer_inj hiss')) hPQ

/-! ## The organization lists of a login token -/

namespace LoginJWTClaims

/-- `is_organization_owner`. -/
def isOrganizationOwner (c : LoginJWTClaims) (orgUuid : String) : Bool :=
  if c.orgowner.contains orgUuid then true else false

/-- `is_organization_admin`. -/
def isOrganizationAdmin (c : LoginJWTClaims) (orgUuid : String) : Bool :=
  if c.orgadmin.contains orgUuid then true else c.isOrganizationOwner orgUuid

/-- `is_organization_manager`. -/
def isOrganizationManager (c : LoginJWTClaims) (orgUuid : String) : Bool :=
  if c.orgmanager.contains orgUuid then true else c.isOrganizationAdmin orgUuid

/-- `is_organization_user`. -/
def isOrganizationUser (c : LoginJWTClaims) (orgUuid : String) : Bool :=
  if c.orguser.contains orgUuid then true else c.isOrganizationManager orgUuid

variable (c : LoginJWTClaims) (o : String)

@[simp] theorem isOrganizationOwner_iff : c.isOrganizationOwner o = true ↔ o ∈ c.orgowner := by
  simp [isOrganizationOwner]

@[simp] theorem isOrganizationAdmin_iff :
    c.isOrganizationAdmin o = true ↔ o ∈ c.orgadmin ∨ o ∈ c.orgowner := by
  by_cases h : o ∈ c.orgadmin <;> simp [isOrganizationAdmin, h]

@[simp] theorem isOrganizationManager_iff :
    c.isOrganizationManager o = true ↔ o ∈ c.orgmanager ∨ o ∈ c.orgadmin ∨ o ∈ c.orgowner := by
  by_cases h : o ∈ c.orgmanager <;> simp [isOrganizationManager, h]

@[simp] theorem isOrganizationUser_iff :
    c.isOrganizationUser o = true ↔
      o ∈ c.orguser ∨ o ∈ c.orgmanager ∨ o ∈ c.orgadmin ∨ o ∈ c.orgowner := by
  by_cases h : o ∈ c.orguser <;> simp [isOrganizationUser, h]

/-- **The token's roles are nested**: each check is membership in its own
list or in the list of a higher role, so owner implies admin implies manager
implies user, for every token and every organization. -/
theorem organization_roles_nested :
    (c.isOrganizationOwner o = true ↔ o ∈ c.orgowner) ∧
    (c.isOrganizationAdmin o = true ↔ o ∈ c.orgadmin ∨ o ∈ c.orgowner) ∧
    (c.isOrganizationManager o = true ↔ o ∈ c.orgmanager ∨ o ∈ c.orgadmin ∨ o ∈ c.orgowner) ∧
    (c.isOrganizationUser o = true ↔
      o ∈ c.orguser ∨ o ∈ c.orgmanager ∨ o ∈ c.orgadmin ∨ o ∈ c.orgowner) ∧
    (c.isOrganizationOwner o = true → c.isOrganizationAdmin o = true) ∧
    (c.isOrganizationAdmin o = true → c.isOrganizationManager o = true) ∧
    (c.isOrganizationManager o = true → c.isOrganizationUser o = true) := by
  simp only [isOrganizationOwner_iff, isOrganizationAdmin_iff, isOrganizationManager_iff,
    isOrganizationUser_iff]
  tauto

end LoginJWTClaims

end BitwardenRs
