import BitwardenRs.Issue
import BitwardenRs.Guards

/-!
# A session, from the token to the guard

A login token reaches `Headers::from_request` as `Authorization: Bearer
<token>`. The guard takes the text after the last `Bearer `, decodes it as a
login token, and loads the device and the user it names. What a success of
the guard implies is proved with the guards; this module proves the converse
for the tokens `encode_jwt` makes: such a token is accepted exactly when its
times pass jsonwebtoken's validation, its issuer is the login issuer, the pool
hands out a connection, its device and user are stored and the user's
security stamp is still the one it carries – and the handler then receives
the claims that were signed (`headers_accept_issued_sessions`).

Two things make the round trip go through: the token has no whitespace
(`Signs`), so no `Bearer ` inside it can move the split; and serde's
`Deserialize` reads back what `Serialize` wrote, for times that are `i64`s.
-/

namespace BitwardenRs

/-- Splitting at the first occurrence of a pattern whose first character
does not occur before it. -/
theorem takeBefore_append_self {p : Char} {ps s : List Char} (hp : p ∉ s) :
    takeBefore (p :: ps) (s ++ p :: ps) = s := by
  induction s with
  | nil => simp [takeBefore, List.isPrefixOf_iff_prefix]
  | cons c s ih =>
    have hc : (p == c) = false := beq_eq_false_iff_ne.2 fun h => hp (h ▸ List.mem_cons_self c s)
    simp only [List.cons_append, takeBefore, List.isPrefixOf, hc, Bool.false_and,
      Bool.false_eq_true, if_false, List.append_eq, ih fun h => hp (List.mem_cons_of_mem c h)]

namespace Headers

/-- **The token of `Authorization: Bearer <token>`**, for a token without a
space. -/
theorem accessToken_bearer {req : Request} {t : String}
    (ha : req.getOne "Authorization" = some ("Bearer " ++ t)) (ht : ' ' ∉ t.toList) :
    accessToken req = .ok t := by
  rw [accessToken_isOk ha, show ("Bearer " ++ t).toList.reverse =
    t.toList.reverse ++ ' ' :: "reraeB".toList from List.reverse_append _ _,
    show "Bearer ".toList.reverse = ' ' :: "reraeB".toList from rfl,
    takeBefore_append_self (by rwa [List.mem_reverse]), List.reverse_reverse]
  rfl

/-- **Once the token decodes, the store decides**: a connection, the device,
and the user with the token's stamp; and a success hands on the decoded
claims. -/
theorem fromRequest_of_decoded {env : GuardEnv} {req : Request} {t : String} {c : LoginJWTClaims}
    (ht : accessToken req = .ok t) (hc : decodeLogin env.tokens t = .ok c) :
    ((fromRequest env req).isSuccess = true ↔
      env.dbAvailable = true ∧ (env.db.findDevice c.device).isSome = true ∧
        ∃ u, env.db.findUser c.sub = some u ∧ u.securityStamp = c.sstamp) ∧
    ∀ h, fromRequest env req = .success h → h.claims = c ∧ h.host = getHost env req := by
  unfold fromRequest
  rw [ht]
  dsimp only
  rw [hc]
  dsimp only
  cases env.dbAvailable with
  | false => simp [Outcome.isSuccess]
  | true =>
    cases env.db.findDevice c.device with
    | none => simp [Outcome.isSuccess]
    | some d =>
      cases env.db.findUser c.sub with
      | none => simp [Outcome.isSuccess]
      | some u => by_cases hs : u.securityStamp = c.sstamp <;> simp [Outcome.isSuccess, hs]

end Headers

/-- **The guard admits exactly the live sessions among the tokens the
server signs.** A login token made by `encode_jwt` and sent as
`Authorization: Bearer <token>` passes `Headers::from_request` exactly when
its times pass the validation, its issuer is the login issuer, a connection
is available, its device is stored, and its user is stored with the security
stamp it carries; and then the guard hands on the claims that were signed,
with the request's host. -/
theorem headers_accept_issued_sessions (env : GuardEnv) (key : EncodingKey) (c : LoginJWTClaims)
    (hn : -9223372036854775808 ≤ c.nbf ∧ c.nbf < 9223372036854775808)
    (he : -9223372036854775808 ≤ c.exp ∧ c.exp < 9223372036854775808)
    (hkey : Signs key env.tokens.publicKey c.serialize) (req : Request)
    (hreq : req.getOne "Authorization" = some ("Bearer " ++ encodeJwt key c)) :
    ((Headers.fromRequest env req).isSuccess = true ↔
      Jsonwebtoken.inWindow c.nbf c.exp env.tokens.now ∧
        c.iss = jwtLoginIssuer env.tokens.domainOrigin ∧ env.dbAvailable = true ∧
        (env.db.findDevice c.device).isSome = true ∧
        ∃ u, env.db.findUser c.sub = some u ∧ u.securityStamp = c.sstamp) ∧
    ∀ h, Headers.fromRequest env req = .success h → h.claims = c ∧ h.host = getHost env req := by
  have hrt : LoginJWTClaims.deserialize c.serialize = some c := by
    cases c
    exact LoginJWTClaims.deserialize_serialize hn he
  have ht := Headers.accessToken_bearer hreq fun h => absurd (hkey.2 ' ' h) (by decide)
  have hdec : decodeLogin env.tokens (encodeJwt key c) =
      if Jsonwebtoken.inWindow c.nbf c.exp env.tokens.now ∧
          c.iss = jwtLoginIssuer env.tokens.domainOrigin
      then .ok c else .error "Error decoding JWT" :=
    decodeJwt_encodeJwt hrt hkey
  by_cases hw : Jsonwebtoken.inWindow c.nbf c.exp env.tokens.now ∧
      c.iss = jwtLoginIssuer env.tokens.domainOrigin
  · rw [if_pos hw] at hdec
    simp only [hw, true_and]
    exact Headers.fromRequest_of_decoded ht hdec
  · rw [if_neg hw] at hdec
    have hf : Headers.fromRequest env req = .failure "Invalid claim" := by
      unfold Headers.fromRequest
      rw [ht]
      dsimp only
      rw [hdec]
    rw [hf]
    exact ⟨iff_of_false (fun h => nomatch h) fun h => hw ⟨h.1, h.2.1⟩, fun h h' => nomatch h'⟩

/-- A private key whose token for every claims set is `tok`, which the sample
state's public key verifies to the sample claims. -/
def sampleSessionKey : EncodingKey := ⟨fun _ => "tok"⟩

/-- The sample login token, sent with its `Bearer ` prefix one second after it
was issued, passes the guard. -/
theorem headers_accept_issued_sessions_sample :
    (-9223372036854775808 ≤ sampleLoginClaims.nbf ∧ sampleLoginClaims.nbf < 9223372036854775808) ∧
      (-9223372036854775808 ≤ sampleLoginClaims.exp ∧ sampleLoginClaims.exp < 9223372036854775808) ∧
      Signs sampleSessionKey sampleEnv.tokens.publicKey sampleLoginClaims.serialize ∧
      (sampleRequest "Bearer tok").getOne "Authorization" =
        some ("Bearer " ++ encodeJwt sampleSessionKey sampleLoginClaims) ∧
      (Headers.fromRequest sampleEnv (sampleRequest "Bearer tok")).isSuccess = true :=
  have hn : -9223372036854775808 ≤ sampleLoginClaims.nbf ∧
      sampleLoginClaims.nbf < 9223372036854775808 := by decide
  have he : -9223372036854775808 ≤ sampleLoginClaims.exp ∧
      sampleLoginClaims.exp < 9223372036854775808 := by decide
  have hkey : Signs sampleSessionKey sampleEnv.tokens.publicKey sampleLoginClaims.serialize :=
    ⟨rfl, by decide⟩
  have hreq : (sampleRequest "Bearer tok").getOne "Authorization" =
      some ("Bearer " ++ encodeJwt sampleSessionKey sampleLoginClaims) := rfl
  ⟨hn, he, hkey, hreq,
    (headers_accept_issued_sessions sampleEnv sampleSessionKey sampleLoginClaims hn he hkey _ hreq).1.2
      ⟨by decide, rfl, rfl, rfl, _, rfl, rfl⟩⟩

end BitwardenRs
