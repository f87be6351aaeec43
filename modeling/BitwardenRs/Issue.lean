import BitwardenRs.Jwt

/-!
# Issuing tokens

`encode_jwt` signs the serialized claims with the private key, and the
`generate_*_claims` functions make the claims of an invitation, an account
deletion, an email verification and an admin session: valid from the current
second (`nbf`), for five days – twenty minutes for an admin session – (`exp`),
under the issuer of their purpose.

A token the server issues is taken back by the decoder of its purpose, and
exactly when its time window says: `decode_*` returns the claims issued at
every clock reading from thirty seconds before `nbf` to thirty seconds after
`exp`, and an error at every other (`issuedTokens_decode`). Three things have
to line up for that: serde's `Serialize` and `Deserialize` of each claims
struct (`LoginJWTClaims.deserialize_serialize` and its siblings), the issuer
`generate_*_claims` writes and the one `decode_*` asks for, and jsonwebtoken's
`u64` arithmetic on the clock – in which `now - 30` wraps around in the first
thirty seconds after the epoch, so that no token is accepted then.

The keys are what signing and verifying do (`EncodingKey`, `DecodingKey`).
All that is assumed of them is `Signs`: the public key verifies the token the
private key made, and that token – base64url and dots – has no whitespace for
`decode_jwt` to strip.
-/

namespace BitwardenRs

/-! ## serde's `Serialize` -/

/-- An `Option<String>` field: `None` is written as `null`. -/
def ClaimValue.ofOption : Option String → ClaimValue
  | none => .null
  | some s => .str s

/-- **What `encode_jwt` asks of a claims type**: serde's `Serialize`, which
writes a struct as a JSON object with one key per field. -/
class JwtSerialize (T : Type) where
  serialize : T → ClaimsSet

/-- The derived `Serialize` of `LoginJWTClaims`. -/
def LoginJWTClaims.serialize (c : LoginJWTClaims) : ClaimsSet :=
  [("nbf", .num c.nbf), ("exp", .num c.exp), ("iss", .str c.iss), ("sub", .str c.sub),
   ("premium", .bool c.premium), ("name", .str c.name), ("email", .str c.email),
   ("email_verified", .bool c.emailVerified), ("orgowner", .strs c.orgowner),
   ("orgadmin", .strs c.orgadmin), ("orguser", .strs c.orguser),
   ("orgmanager", .strs c.orgmanager), ("sstamp", .str c.sstamp), ("device", .str c.device),
   ("scope", .strs c.scope), ("amr", .strs c.amr)]

/-- The derived `Serialize` of `InviteJWTClaims`. -/
def InviteJWTClaims.serialize (c : InviteJWTClaims) : ClaimsSet :=
  [("nbf", .num c.nbf), ("exp", .num c.exp), ("iss", .str c.iss), ("sub", .str c.sub),
   ("email", .str c.email), ("org_id", .ofOption c.orgId),
   ("user_org_id", .ofOption c.userOrgId), ("invited_by_email", .ofOption c.invitedByEmail)]

/-- The derived `Serialize` of `DeleteJWTClaims`, `VerifyEmailJWTClaims` and
`AdminJWTClaims`. -/
def DeleteJWTClaims.serialize (c : DeleteJWTClaims) : ClaimsSet :=
  [("nbf", .num c.nbf), ("exp", .num c.exp), ("iss", .str c.iss), ("sub", .str c.sub)]

instance : JwtSerialize LoginJWTClaims := ⟨LoginJWTClaims.serialize⟩

instance : JwtSerialize InviteJWTClaims := ⟨InviteJWTClaims.serialize⟩

instance : JwtSerialize DeleteJWTClaims := ⟨DeleteJWTClaims.serialize⟩

/-- An `Option<String>` written by `Serialize` reads back as itself. -/
@[simp] theorem ClaimsSet.optField_ofOption {m : ClaimsSet} {k : String} {o : Option String}
    (h : m.get k = some (ClaimValue.ofOption o)) : m.optField k = some o := by
  cases o <;> simp [ClaimsSet.optField, h, ClaimValue.ofOption]

/-! ## serde's round trip

What `Serialize` writes, `Deserialize` reads back, as long as the times are
`i64`s – which they are in Rust. -/

section RoundTrip

variable {nbf exp : Int} (hn : -9223372036854775808 ≤ nbf ∧ nbf < 9223372036854775808)
  (he : -9223372036854775808 ≤ exp ∧ exp < 9223372036854775808)
include hn he

theorem LoginJWTClaims.deserialize_serialize {iss sub name email sstamp device : String}
    {premium emailVerified : Bool} {orgowner orgadmin orguser orgmanager scope amr : List String} :
    LoginJWTClaims.deserialize
        (LoginJWTClaims.serialize ⟨nbf, exp, iss, sub, premium, name, email, emailVerified,
          orgowner, orgadmin, orguser, orgmanager, sstamp, device, scope, amr⟩) =
      some ⟨nbf, exp, iss, sub, premium, name, email, emailVerified, orgowner, orgadmin, orguser,
        orgmanager, sstamp, device, scope, amr⟩ := by
  simp [LoginJWTClaims.deserialize, LoginJWTClaims.serialize, ClaimsSet.field, ClaimsSet.get,
    List.lookup_cons, ClaimValue.asI64, ClaimValue.asString, ClaimValue.asBool, ClaimValue.asStrings,
    hn, he]

theorem InviteJWTClaims.deserialize_serialize {iss sub email : String}
    {orgId userOrgId invitedByEmail : Option String} :
    InviteJWTClaims.deserialize
        (InviteJWTClaims.serialize ⟨nbf, exp, iss, sub, email, orgId, userOrgId, invitedByEmail⟩) =
      some ⟨nbf, exp, iss, sub, email, orgId, userOrgId, invitedByEmail⟩ := by
  simp [InviteJWTClaims.deserialize, InviteJWTClaims.serialize, ClaimsSet.field, ClaimsSet.get,
    List.lookup_cons, ClaimValue.asI64, ClaimValue.asString, hn, he, @ClaimsSet.optField_ofOption _ _ orgId,
    @ClaimsSet.optField_ofOption _ _ userOrgId, @ClaimsSet.optField_ofOption _ _ invitedByEmail]

theorem DeleteJWTClaims.deserialize_serialize {iss sub : String} :
    DeleteJWTClaims.deserialize (DeleteJWTClaims.serialize ⟨nbf, exp, iss, sub⟩) =
      some ⟨nbf, exp, iss, sub⟩ := by
  simp [DeleteJWTClaims.deserialize, DeleteJWTClaims.serialize, ClaimsSet.field, ClaimsSet.get,
    List.lookup_cons, ClaimValue.asI64, ClaimValue.asString, hn, he]

end RoundTrip

/-! ## jsonwebtoken's validation of a claims set -/

namespace Jsonwebtoken

variable {claims : ClaimsSet} {leeway now : UInt64}

/-- The `exp` check passes exactly when `exp` is a `u64` that is not below
`now - leeway`, subtracted in `u64`. -/
theorem validateExp_eq_ok_iff {e : Int} {vn : Bool} {iss : Option String}
    (he : claims.get "exp" = some (.num e)) :
    validateExp claims ⟨leeway, true, vn, iss⟩ now = .ok () ↔
      0 ≤ e ∧ e < 18446744073709551616 ∧ ((now - leeway).toNat : Int) ≤ e := by
  simp only [validateExp, if_true, he, ClaimValue.asU64]
  by_cases hr : 0 ≤ e ∧ e < 18446744073709551616
  · have hlt : e.toNat < UInt64.size := by simp only [UInt64.size]; omega
    simp only [if_pos hr, UInt64.lt_def, BitVec.lt_def, UInt64.toBitVec_eq_of_lt hlt,
      UInt64.toNat]
    split_ifs
    · exact iff_of_false (fun h => by cases h) fun h => by omega
    · exact iff_of_true rfl ⟨hr.1, hr.2, by omega⟩
  · simp only [if_neg hr]
    exact iff_of_false (fun h => by cases h) fun h => hr ⟨h.1, h.2.1⟩

/-- The `nbf` check passes exactly when `nbf` is a `u64` that is not above
`now + leeway`, added in `u64`. -/
theorem validateNbf_eq_ok_iff {n : Int} {ve : Bool} {iss : Option String}
    (hn : claims.get "nbf" = some (.num n)) :
    validateNbf claims ⟨leeway, ve, true, iss⟩ now = .ok () ↔
      0 ≤ n ∧ n < 18446744073709551616 ∧ n ≤ ((now + leeway).toNat : Int) := by
  simp only [validateNbf, if_true, hn, ClaimValue.asU64]
  by_cases hr : 0 ≤ n ∧ n < 18446744073709551616
  · have hlt : n.toNat < UInt64.size := by simp only [UInt64.size]; omega
    simp only [if_pos hr, gt_iff_lt, UInt64.lt_def, BitVec.lt_def, UInt64.toBitVec_eq_of_lt hlt,
      UInt64.toNat]
    split_ifs
    · exact iff_of_false (fun h => by cases h) fun h => by omega
    · exact iff_of_true rfl ⟨hr.1, hr.2, by omega⟩
  · simp only [if_neg hr]
    exact iff_of_false (fun h => by cases h) fun h => hr ⟨h.1, h.2.1⟩

/-- The `iss` check passes exactly on the expected issuer. -/
theorem validateIss_eq_ok_iff {i issuer : String} {options : Validation}
    (hi : claims.get "iss" = some (.str i)) (h : options.iss = some issuer) :
    validateIss claims options = .ok () ↔ i = issuer := by
  simp only [validateIss, h, hi, ClaimValue.asString]
  by_cases hc : i = issuer <;> simp [hc]

/-- **The validation `decode_jwt` asks for**, on a claims set whose registered
claims are there: `exp` and `nbf` within the leeway, in `u64`, and the
issuer. -/
theorem validate_eq_ok_iff {e n : Int} {i issuer : String}
    (he : claims.get "exp" = some (.num e)) (hn : claims.get "nbf" = some (.num n))
    (hi : claims.get "iss" = some (.str i)) :
    validate claims ⟨leeway, true, true, some issuer⟩ now = .ok () ↔
      (0 ≤ e ∧ e < 18446744073709551616 ∧ ((now - leeway).toNat : Int) ≤ e) ∧
        (0 ≤ n ∧ n < 18446744073709551616 ∧ n ≤ ((now + leeway).toNat : Int)) ∧ i = issuer := by
  rw [← validateExp_eq_ok_iff he, ← validateNbf_eq_ok_iff hn,
    ← @validateIss_eq_ok_iff claims i issuer ⟨leeway, true, true, some issuer⟩ hi rfl]
  refine ⟨validate_ok, fun ⟨h1, h2, h3⟩ => ?_⟩
  simp only [validate, h1, h2, h3, bind, Except.bind]

end Jsonwebtoken

/-! ## `encode_jwt` -/

/-- **The private key**, as what signing with it does: jsonwebtoken's
`encode` under `JWT_HEADER` (RS256) with `PRIVATE_RSA_KEY` makes the compact
token of a claims set. It does not fail once the key has loaded; a key file
that cannot be read panics when the `Lazy` is first forced, which is left
out. -/
structure EncodingKey where
  /-- The token of a claims set. -/
  sign : ClaimsSet → String

/-- **`encode_jwt`**: the token of the serialized claims. -/
def encodeJwt {T : Type} [JwtSerialize T] (key : EncodingKey) (claims : T) : String :=
  key.sign (JwtSerialize.serialize claims)

/-- **What is assumed of the key pair**, for one claims set: the public key
verifies the token the private key made of it, and that token has no
whitespace. -/
def Signs (key : EncodingKey) (publicKey : DecodingKey) (m : ClaimsSet) : Prop :=
  publicKey.verify (key.sign m) = some m ∧ ∀ ch ∈ (key.sign m).toList, charIsWhitespace ch = false

theorem removeWhitespace_of_forall {s : String} (h : ∀ ch ∈ s.toList, charIsWhitespace ch = false) :
    removeWhitespace s = s := by
  rw [removeWhitespace, List.filter_eq_self.2 fun ch hch => by simp [h ch hch]]
  rfl

/-- **The clock readings at which jsonwebtoken's validation accepts the
times of a claims set**, with `decode_jwt`'s leeway of thirty seconds: `exp`
and `nbf` are `u64`s, `exp` is not below `now - 30` and `nbf` not above
`now + 30`, both computed in `u64`. -/
def Jsonwebtoken.inWindow (nbf exp : Int) (now : UInt64) : Prop :=
  (0 ≤ exp ∧ exp < 18446744073709551616 ∧ ((now - 30).toNat : Int) ≤ exp) ∧
    (0 ≤ nbf ∧ nbf < 18446744073709551616 ∧ nbf ≤ ((now + 30).toNat : Int))

instance (nbf exp : Int) (now : UInt64) : Decidable (Jsonwebtoken.inWindow nbf exp now) :=
  inferInstanceAs (Decidable (_ ∧ _))

/-- **`decode_jwt` of a token `encode_jwt` made**: the claims, exactly when
the registered claims pass the validation. -/
theorem decodeJwt_encodeJwt {T : Type} [JwtClaims T] [JwtSerialize T] {key : EncodingKey}
    {env : TokenEnv} {c : T} {issuer : String}
    (hrt : JwtClaims.deserialize (JwtSerialize.serialize c) = some c)
    (hkey : Signs key env.publicKey (JwtSerialize.serialize c)) :
    decodeJwt env (encodeJwt key c) issuer =
      if Jsonwebtoken.inWindow (JwtClaims.nbf c) (JwtClaims.exp c) env.now ∧
          JwtClaims.iss c = issuer
      then .ok c else .error "Error decoding JWT" := by
  obtain ⟨hn, he, hi⟩ := JwtClaims.deserialize_registered _ _ hrt
  have hdec : Jsonwebtoken.decode env.publicKey (removeWhitespace (encodeJwt key c))
      ⟨30, true, true, some issuer⟩ env.now =
        (Jsonwebtoken.validate (JwtSerialize.serialize c) ⟨30, true, true, some issuer⟩ env.now).map
          fun _ => c := by
    rw [encodeJwt, removeWhitespace_of_forall hkey.2, Jsonwebtoken.decode, hkey.1]
    simp only [hrt]
  have hv := @Jsonwebtoken.validate_eq_ok_iff _ 30 env.now _ _ _ issuer he hn hi
  simp only [decodeJwt, hdec]
  by_cases hw : Jsonwebtoken.inWindow (JwtClaims.nbf c) (JwtClaims.exp c) env.now ∧
      JwtClaims.iss c = issuer
  · rw [if_pos hw, hv.2 ⟨hw.1.1, hw.1.2, hw.2⟩]
    rfl
  · rw [if_neg hw]
    cases h : Jsonwebtoken.validate (JwtSerialize.serialize c) ⟨30, true, true, some issuer⟩ env.now with
    | error _ => rfl
    | ok u => exact absurd ⟨⟨(hv.1 h).1, (hv.1 h).2.1⟩, (hv.1 h).2.2⟩ hw

/-! ## `generate_*_claims` -/

/-- **`generate_invite_claims`**: an invitation valid for five days from
now. -/
def generateInviteClaims (domainOrigin : String) (timeNow : NaiveDateTime) (uuid email : String)
    (orgId userOrgId invitedByEmail : Option String) : Except String InviteJWTClaims := do
  let exp ← timeNow.add (← Duration.days 5)
  pure { nbf := timeNow.timestamp, exp := exp.timestamp, iss := jwtInviteIssuer domainOrigin,
         sub := uuid, email, orgId, userOrgId, invitedByEmail }

/-- The body `generate_delete_claims`, `generate_verify_email_claims` and
`generate_admin_claims` share: valid from now for `validity`, under
`issuer`, about `sub`. -/
def generateClaims (issuer : String) (validity : Except String Duration) (sub : String)
    (timeNow : NaiveDateTime) : Except String DeleteJWTClaims := do
  let exp ← timeNow.add (← validity)
  pure { nbf := timeNow.timestamp, exp := exp.timestamp, iss := issuer, sub }

/-- **`generate_delete_claims`**: five days. -/
def generateDeleteClaims (domainOrigin : String) (timeNow : NaiveDateTime) (uuid : String) :
    Except String DeleteJWTClaims :=
  generateClaims (jwtDeleteIssuer domainOrigin) (Duration.days 5) uuid timeNow

/-- **`generate_verify_email_claims`**: five days, as a `DeleteJWTClaims`
under the verify-email issuer. -/
def generateVerifyEmailClaims (domainOrigin : String) (timeNow : NaiveDateTime) (uuid : String) :
    Except String DeleteJWTClaims :=
  generateClaims (jwtVerifyemailIssuer domainOrigin) (Duration.days 5) uuid timeNow

/-- **`generate_admin_claims`**: twenty minutes, about `admin_panel`. -/
def generateAdminClaims (domainOrigin : String) (timeNow : NaiveDateTime) :
    Except String AdminJWTClaims :=
  generateClaims (jwtAdminIssuer domainOrigin) (Duration.minutes 20) "admin_panel" timeNow

theorem days_five : Duration.days 5 = .ok ⟨432000 * 1000000000⟩ := by
  rw [Duration.days_of_i32 (by decide) (by decide)]; rfl

theorem minutes_twenty : Duration.minutes 20 = .ok ⟨1200 * 1000000000⟩ := by
  simp only [Duration.minutes]; rfl

/-- The claims `generate_*_claims` make: from the current second, for the
whole seconds of the validity. -/
theorem generateClaims_eq_ok {issuer sub : String} {k : Int} {timeNow : NaiveDateTime}
    {c : DeleteJWTClaims} (h : generateClaims issuer (.ok ⟨k * 1000000000⟩) sub timeNow = .ok c) :
    c = ⟨timeNow.timestamp, timeNow.timestamp + k, issuer, sub⟩ := by
  simp only [generateClaims, bind, Except.bind, pure, Except.pure] at h
  split at h
  · cases h
  · rename_i r hr
    cases h
    rw [NaiveDateTime.timestamp_add hr rfl]

theorem generateInviteClaims_eq_ok {domainOrigin uuid email : String}
    {orgId userOrgId invitedByEmail : Option String} {timeNow : NaiveDateTime} {c : InviteJWTClaims}
    (h : generateInviteClaims domainOrigin timeNow uuid email orgId userOrgId invitedByEmail = .ok c) :
    c = ⟨timeNow.timestamp, timeNow.timestamp + 432000, jwtInviteIssuer domainOrigin, uuid, email,
      orgId, userOrgId, invitedByEmail⟩ := by
  simp only [generateInviteClaims, days_five, bind, Except.bind, pure, Except.pure] at h
  split at h
  · cases h
  · rename_i r hr
    cases h
    rw [NaiveDateTime.timestamp_add hr rfl]

/-! ## Issued tokens decode -/

/-- **The clock readings at which a token issued at second `t` for
`lifetime` seconds is accepted**: from thirty seconds before `t` to thirty
seconds after it expires, for a token issued after the epoch, and not in the
first thirty seconds after the epoch. -/
def acceptedAt (t lifetime : Int) (now : UInt64) : Prop :=
  0 ≤ t ∧ 30 ≤ now.toNat ∧ (now.toNat : Int) ≤ t + lifetime + 30 ∧ t ≤ now.toNat + 30

instance (t lifetime : Int) (now : UInt64) : Decidable (acceptedAt t lifetime now) :=
  inferInstanceAs (Decidable (0 ≤ t ∧ 30 ≤ now.toNat ∧ _ ∧ _))

/-- `now - 30` in `u64`: it wraps around in the first thirty seconds. -/
theorem now_sub_thirty_toNat (now : UInt64) : (now - 30).toNat =
    if 30 ≤ now.toNat then now.toNat - 30 else now.toNat + 18446744073709551586 := by
  have h := now.toNat_lt_size
  simp only [UInt64.toNat, UInt64.sub_def, BitVec.toNat_sub, UInt64.toBitVec_ofNat,
    BitVec.toNat_ofNat, UInt64.size] at h ⊢
  split_ifs <;> omega

/-- `now + 30` in `u64`. -/
theorem now_add_thirty_toNat (now : UInt64) :
    (now + 30).toNat = (now.toNat + 30) % 18446744073709551616 := by
  simp only [UInt64.toNat, UInt64.add_def, BitVec.toNat_add, UInt64.toBitVec_ofNat,
    BitVec.toNat_ofNat]

/-- For a timestamp chrono can produce and a lifetime of at most five days,
the `u64` window of the validation is `acceptedAt`. -/
theorem window_iff_acceptedAt {t lifetime : Int} {now : UInt64} (hl : 0 ≤ lifetime)
    (hl' : lifetime ≤ 432000) (ht : -8334632851200 ≤ t ∧ t ≤ 8210298412799) :
    Jsonwebtoken.inWindow t (t + lifetime) now ↔ acceptedAt t lifetime now := by
  have hnow := now.toNat_lt_size
  simp only [UInt64.size] at hnow
  unfold Jsonwebtoken.inWindow acceptedAt
  rw [now_sub_thirty_toNat, now_add_thirty_toNat]
  split_ifs <;> omega

/-- The validation of an issued token's claims: its window, and the issuer it
was issued under. -/
theorem decodeJwt_issued {T : Type} [JwtClaims T] [JwtSerialize T] {key : EncodingKey}
    {env : TokenEnv} {c : T} {issuer : String} {k : Int} (hk : 0 ≤ k) (hk' : k ≤ 432000)
    (hrt : JwtClaims.deserialize (JwtSerialize.serialize c) = some c)
    (hkey : Signs key env.publicKey (JwtSerialize.serialize c))
    (he : JwtClaims.exp c = JwtClaims.nbf c + k)
    (ht : -8334632851200 ≤ JwtClaims.nbf c ∧ JwtClaims.nbf c ≤ 8210298412799)
    (hi : JwtClaims.iss c = issuer) :
    decodeJwt env (encodeJwt key c) issuer =
      if acceptedAt (JwtClaims.nbf c) k env.now then .ok c else .error "Error decoding JWT" := by
  rw [decodeJwt_encodeJwt hrt hkey, he, hi]
  simp only [and_true, window_iff_acceptedAt hk hk' ht]

/-- The times of a token issued by chrono for at most five days are
`i64`s. -/
theorem timestamp_i64 (timeNow : NaiveDateTime) {k : Int} (hk : 0 ≤ k) (hk' : k ≤ 432000) :
    (-9223372036854775808 ≤ timeNow.timestamp ∧ timeNow.timestamp < 9223372036854775808) ∧
      (-9223372036854775808 ≤ timeNow.timestamp + k ∧ timeNow.timestamp + k < 9223372036854775808) := by
  have := timeNow.timestamp_range
  omega

/-- **The `generateClaims` family decodes back**: the claims of a token
valid for `k ≤ 432000` seconds, and the decoder under their issuer. -/
theorem generateClaims_decode {domainOrigin issuer sub : String} {key : EncodingKey}
    {publicKey : DecodingKey} {now : UInt64} {timeNow : NaiveDateTime} {k : Int} {c : DeleteJWTClaims}
    (hk : 0 ≤ k) (hk' : k ≤ 432000)
    (h : generateClaims issuer (.ok ⟨k * 1000000000⟩) sub timeNow = .ok c)
    (hkey : Signs key publicKey (JwtSerialize.serialize c)) :
    c.nbf = timeNow.timestamp ∧ c.exp = timeNow.timestamp + k ∧
      decodeJwt ⟨domainOrigin, publicKey, now⟩ (encodeJwt key c) issuer =
        if acceptedAt timeNow.timestamp k now then .ok c else .error "Error decoding JWT" := by
  obtain rfl := generateClaims_eq_ok h
  obtain ⟨hn, he⟩ := timestamp_i64 timeNow hk hk'
  exact ⟨rfl, rfl, decodeJwt_issued hk hk' (DeleteJWTClaims.deserialize_serialize hn he) hkey rfl
    timeNow.timestamp_range rfl⟩

/-- **A token the server issues decodes, with the decoder of its purpose, to
exactly the claims issued, exactly while it is valid.** An invitation, an
account deletion, an email verification and an admin session issued at
`timeNow` are valid from that second for five days – twenty minutes for the
admin session – and `decode_*` returns their claims at every clock reading
`acceptedAt` that window, and "Error decoding JWT" at every other. -/
theorem issuedTokens_decode (domainOrigin : String) (key : EncodingKey) (publicKey : DecodingKey)
    (now : UInt64) (timeNow : NaiveDateTime) :
    (∀ uuid email orgId userOrgId invitedByEmail c,
      generateInviteClaims domainOrigin timeNow uuid email orgId userOrgId invitedByEmail = .ok c →
      Signs key publicKey (JwtSerialize.serialize c) →
      c.nbf = timeNow.timestamp ∧ c.exp = timeNow.timestamp + 432000 ∧
        decodeInvite ⟨domainOrigin, publicKey, now⟩ (encodeJwt key c) =
          if acceptedAt timeNow.timestamp 432000 now then .ok c else .error "Error decoding JWT") ∧
    (∀ uuid c, generateDeleteClaims domainOrigin timeNow uuid = .ok c →
      Signs key publicKey (JwtSerialize.serialize c) →
      c.nbf = timeNow.timestamp ∧ c.exp = timeNow.timestamp + 432000 ∧
        decodeDelete ⟨domainOrigin, publicKey, now⟩ (encodeJwt key c) =
          if acceptedAt timeNow.timestamp 432000 now then .ok c else .error "Error decoding JWT") ∧
    (∀ uuid c, generateVerifyEmailClaims domainOrigin timeNow uuid = .ok c →
      Signs key publicKey (JwtSerialize.serialize c) →
      c.nbf = timeNow.timestamp ∧ c.exp = timeNow.timestamp + 432000 ∧
        decodeVerifyEmail ⟨domainOrigin, publicKey, now⟩ (encodeJwt key c) =
          if acceptedAt timeNow.timestamp 432000 now then .ok c else .error "Error decoding JWT") ∧
    (∀ c, generateAdminClaims domainOrigin timeNow = .ok c →
      Signs key publicKey (JwtSerialize.serialize c) →
      c.nbf = timeNow.timestamp ∧ c.exp = timeNow.timestamp + 1200 ∧
        decodeAdmin ⟨domainOrigin, publicKey, now⟩ (encodeJwt key c) =
          if acceptedAt timeNow.timestamp 1200 now then .ok c else .error "Error decoding JWT") := by
  refine ⟨fun uuid email orgId userOrgId invitedByEmail c h hkey => ?_,
    fun uuid c h => generateClaims_decode (by decide) (Int.le_refl _) (by rwa [← days_five]),
    fun uuid c h => generateClaims_decode (by decide) (Int.le_refl _) (by rwa [← days_five]),
    fun c h => generateClaims_decode (by decide) (by decide) (by rwa [← minutes_twenty])⟩
  obtain rfl := generateInviteClaims_eq_ok h
  obtain ⟨hn, he⟩ := timestamp_i64 timeNow (by decide) (Int.le_refl 432000)
  exact ⟨rfl, rfl, decodeJwt_issued (by decide) (Int.le_refl _)
    (InviteJWTClaims.deserialize_serialize hn he) hkey rfl timeNow.timestamp_range rfl⟩

/-- The claims of an admin session issued at 2024-01-01T00:00:00 under
`https://vault.example`. -/
def sampleAdminClaims : AdminJWTClaims :=
  ⟨1704067200, 1704068400, "https://vault.example|admin", "admin_panel"⟩

/-- A key pair for one token: the private key signs everything as `tok`, and
the public key verifies `tok` to the sample admin session. -/
def sampleKeys : EncodingKey × DecodingKey :=
  (⟨fun _ => "tok"⟩, ⟨fun t => if t = "tok" then some sampleAdminClaims.serialize else none⟩)

/-- The sample admin session, issued at 2024-01-01T00:00:00, is decoded back
thirteen minutes and twenty seconds later. -/
theorem issuedTokens_decode_admin :
    generateAdminClaims "https://vault.example" ⟨1704067200000000000, by decide⟩ =
        .ok sampleAdminClaims ∧
      decodeAdmin ⟨"https://vault.example", sampleKeys.2, 1704068000⟩
          (encodeJwt sampleKeys.1 sampleAdminClaims) = .ok sampleAdminClaims := by
  have hgen : generateAdminClaims "https://vault.example" ⟨1704067200000000000, by decide⟩ =
      .ok sampleAdminClaims := rfl
  obtain ⟨-, -, h⟩ := (issuedTokens_decode "https://vault.example" sampleKeys.1 sampleKeys.2
    1704068000 ⟨1704067200000000000, by decide⟩).2.2.2 sampleAdminClaims hgen ⟨rfl, by decide⟩
  exact ⟨hgen, h.trans (if_pos (by decide))⟩

end BitwardenRs
