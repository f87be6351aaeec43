import BitwardenRs.Jwt
import BitwardenRs.Db

/-!
# The request guards

A handler that takes `Headers` runs only after the guard has found a bearer
token in `Authorization`, decoded it as a login token, loaded the device and
the user it names, and compared the user's security stamp with the one in the
token. `OrgHeaders` asks `Headers` first, then picks an organization id – the
second route segment when it parses as a uuid, else the `organizationId`
query value – and requires a confirmed membership of the user in it.
`AdminHeaders` and `OwnerHeaders` ask `OrgHeaders` first, then consult the
organization lists carried in the token.

Each guard is a function of the request and the state it reads
(`GuardEnv`) to Rocket's `Outcome`, with the failure messages of
`err_handler!`. The results below are about every request and every state:
what a success implies (`guards_sound`), and how the last two guards decide
(`AdminHeaders.fromRequest_eq`, `OwnerHeaders.fromRequest_eq`).

The token is taken out of the header with `rsplit("Bearer ").next()`, which
returns the text after the last `Bearer ` and the whole value when there is
none; it never returns `None`, so the branch that would answer "No access
token provided" to a header without the prefix is dead
(`Headers.accessToken_of_no_bearer`).
-/

namespace BitwardenRs

/-- **A request**, as the guards read it. -/
structure Request where
  /-- The header lines, in order. -/
  headers : List (String × String)
  /-- The path segments below the mount point, each as `FromParam for
  String` converts it; percent-decoding can fail. -/
  params : List (Except String String)
  /-- The query items, each value as `FromFormValue for String` converts
  it. -/
  query : List (String × Except String String)

namespace Request

/-- Header names are `Uncased`: equal up to ASCII case. -/
def eqIgnoreAsciiCase (a b : String) : Bool :=
  a.toList.map Char.toLower == b.toList.map Char.toLower

/-- `headers().get_one(name)`: the first value of the header. -/
def getOne (req : Request) (name : String) : Option String :=
  (req.headers.find? fun h => eqIgnoreAsciiCase h.1 name).map Prod.snd

/-- `get_param::<String>(n)`. -/
def getParam (req : Request) (n : Nat) : Option (Except String String) :=
  req.params.get? n

/-- `get_query_value::<String>(key)`: the last item with the key. -/
def getQueryValue (req : Request) (key : String) : Option (Except String String) :=
  (req.query.reverse.find? (·.1 == key)).map Prod.snd

end Request

/-- Rocket's `Outcome` of a request guard. Every failure the guards produce
is `err_handler!`'s, with status `Unauthorized` and a message. -/
inductive Outcome (α : Type) where
  | success (a : α)
  | failure (msg : String)
  | forward

/-- Whether a guard let the request through. -/
def Outcome.isSuccess {α : Type} : Outcome α → Bool
  | .success _ => true
  | _ => false

/-- **What the guards read besides the request**: the configuration, the
token keys and clock, whether the pool hands out a connection, the database,
and which strings the uuid crate parses. -/
structure GuardEnv where
  /-- `CONFIG.domain_set()`. -/
  domainSet : Bool
  /-- `CONFIG.domain()`. -/
  domain : String
  /-- `env::var("ROCKET_TLS").is_ok()`. -/
  rocketTls : Bool
  tokens : TokenEnv
  /-- `request.guard::<DbConn>()` succeeds. -/
  dbAvailable : Bool
  db : Db
  /-- `uuid::Uuid::parse_str(s).is_ok()`. -/
  uuidParses : String → Bool

/-! ## `Headers` -/

/-- The characters before the first occurrence of `pat`, or all of them. -/
def takeBefore (pat : List Char) : List Char → List Char
  | [] => []
  | c :: cs => if pat.isPrefixOf (c :: cs) then [] else c :: takeBefore pat cs

/-- `s.rsplit(pat).next()`: the first segment `rsplit` yields, which is the
text after the last occurrence of `pat`, or all of `s` when `pat` does not
occur. A split iterator yields at least one segment, so this is never
`none`. -/
def rsplitNext (s pat : String) : Option String :=
  some (String.mk (takeBefore pat.toList.reverse s.toList.reverse).reverse)

/-- The origin the request came from, for building links: the configured
domain, else `Referer`, else the forwarded or plain host. -/
def getHost (env : GuardEnv) (req : Request) : String :=
  if env.domainSet then env.domain
  else match req.getOne "Referer" with
  | some referer => referer
  | none =>
    let protocol :=
      match req.getOne "X-Forwarded-Proto" with
      | some proto => proto
      | none => if env.rocketTls then "https" else "http"
    let host :=
      match req.getOne "X-Forwarded-Host" with
      | some host => host
      | none =>
        match req.getOne "Host" with
        | some host => host
        | none => ""
    protocol ++ "://" ++ host

/-- What `Headers` hands to a handler. -/
structure Headers where
  host : String
  device : Device
  user : User
  claims : LoginJWTClaims

namespace Headers

/-- The `access_token` of `Headers::from_request`, or the failure message. -/
def accessToken (req : Request) : Except String String :=
  match req.getOne "Authorization" with
  | some a =>
    match rsplitNext a "Bearer " with
    | some split => .ok split
    | none => .error "No access token provided"
  | none => .error "No access token provided"

/-- **`Headers::from_request`**. -/
def fromRequest (env : GuardEnv) (req : Request) : Outcome Headers :=
  let host := getHost env req
  match accessToken req with
  | .error msg => .failure msg
  | .ok accessToken =>
    match decodeLogin env.tokens accessToken with
    | .error _ => .failure "Invalid claim"
    | .ok claims =>
      if !env.dbAvailable then .failure "Error getting DB"
      else
        match env.db.findDevice claims.device with
        | none => .failure "Invalid device id"
        | some device =>
          match env.db.findUser claims.sub with
          | none => .failure "Device has no user associated"
          | some user =>
            if user.securityStamp ≠ claims.sstamp then .failure "Invalid security stamp"
            else .success { host, device, user, claims }

/-- **What `Headers` guarantees**: the token it decoded came out of the
header, it is a valid login token, and the device and user it names exist,
the user with the stamp the token carries. -/
theorem fromRequest_success {env : GuardEnv} {req : Request} {h : Headers}
    (hs : fromRequest env req = .success h) :
    ∃ t, accessToken req = .ok t ∧ decodeLogin env.tokens t = .ok h.claims ∧
      env.db.findDevice h.claims.device = some h.device ∧
      env.db.findUser h.claims.sub = some h.user ∧ h.user.securityStamp = h.claims.sstamp := by
  unfold fromRequest at hs
  split at hs
  · cases hs
  · rename_i t ht
    split at hs
    · cases hs
    · rename_i c hc
      split at hs
      · cases hs
      · split at hs
        · cases hs
        · rename_i d hd
          split at hs
          · cases hs
          · rename_i u hu
            split at hs
            · cases hs
            · rename_i heq
              cases hs
              exact ⟨t, ht, hc, hd, hu, not_not.mp heq⟩

/-- The stamp check cannot be passed by a token whose stamp is not the
user's. -/
theorem fromRequest_stale {env : GuardEnv} {req : Request} {t : String} {c : LoginJWTClaims}
    (ht : accessToken req = .ok t) (hc : decodeLogin env.tokens t = .ok c)
    (hstale : ∀ u, env.db.findUser c.sub = some u → u.securityStamp ≠ c.sstamp) :
    (fromRequest env req).isSuccess = false := by
  cases hs : fromRequest env req with
  | success h =>
    obtain ⟨t', ht', hc', -, hu, hst⟩ := fromRequest_success hs
    rw [ht, Except.ok.injEq] at ht'
    subst ht'
    rw [hc, Except.ok.injEq] at hc'
    subst hc'
    exact absurd hst (hstale _ hu)
  | failure _ => rfl
  | forward => rfl

theorem takeBefore_of_not_infix {pat s : List Char} (h : ¬ pat <:+: s) :
    takeBefore pat s = s := by
  induction s with
  | nil => rfl
  | cons c cs ih =>
    have hp : pat.isPrefixOf (c :: cs) = false := by
      by_contra hp
      exact h (List.isPrefixOf_iff_prefix.mp (by simpa using hp)).isInfix
    rw [takeBefore, hp, if_neg Bool.false_ne_true,
      ih fun hi => h (hi.trans (List.suffix_cons c cs).isInfix)]

/-- A header with no `Bearer ` in it is passed to `decode_login` whole: the
"No access token provided" of the code never answers a present header. -/
theorem accessToken_of_no_bearer {req : Request} {a : String}
    (ha : req.getOne "Authorization" = some a) (hb : ¬ "Bearer ".toList <:+: a.toList) :
    accessToken req = .ok a := by
  have hrev : ¬ "Bearer ".toList.reverse <:+: a.toList.reverse := by
    rwa [List.reverse_infix]
  simp only [accessToken, ha, rsplitNext, takeBefore_of_not_infix hrev, List.reverse_reverse]
  rfl

/-- A present `Authorization` header always yields a token. -/
theorem accessToken_isOk {req : Request} {a : String}
    (ha : req.getOne "Authorization" = some a) :
    accessToken req = .ok (String.mk
      (takeBefore "Bearer ".toList.reverse a.toList.reverse).reverse) := by
  simp [accessToken, ha, rsplitNext]

end Headers

/-! ## `OrgHeaders` -/

/-- **`get_org_id`**: the second route segment when it parses as a uuid,
else the `organizationId` query value when that does. -/
def getOrgId (uuidParses : String → Bool) (req : Request) : Option String :=
  let fromParam :=
    match req.getParam 1 with
    | some (.ok orgId) => if uuidParses orgId then some orgId else none
    | _ => none
  let fromQuery :=
    match req.getQueryValue "organizationId" with
    | some (.ok orgId) => if uuidParses orgId then some orgId else none
    | _ => none
  match fromParam with
  | some orgId => some orgId
  | none => fromQuery

/-- The organization id `get_org_id` picks: the route segment when it
parses, and only otherwise the query value, which must parse too. -/
theorem getOrgId_eq_some {p : String → Bool} {req : Request} {o : String}
    (h : getOrgId p req = some o) :
    p o = true ∧ (req.getParam 1 = some (.ok o) ∨
      ((∀ x, req.getParam 1 = some (.ok x) → p x = false) ∧
        req.getQueryValue "organizationId" = some (.ok o))) := by
  -- either lookup yields `o` only from a value `o` that parses
  have parsed : ∀ v : Option (Except String String),
      (match v with
        | some (.ok orgId) => if p orgId then some orgId else none
        | _ => none) = some o → p o = true ∧ v = some (.ok o) := by
    rintro (_ | _ | x) hv
    · cases hv
    · cases hv
    · by_cases hx : p x = true <;> simp_all
  unfold getOrgId at h
  dsimp only at h
  split at h
  · rename_i o' hfp
    cases h
    exact ⟨(parsed _ hfp).1, .inl (parsed _ hfp).2⟩
  · rename_i hfp
    obtain ⟨ho, hq⟩ := parsed _ h
    refine ⟨ho, .inr ⟨fun x hx => ?_, hq⟩⟩
    rw [hx] at hfp
    simpa using hfp

/-- What `OrgHeaders` hands to a handler. -/
structure OrgHeaders where
  host : String
  device : Device
  user : User
  claims : LoginJWTClaims
  contextOrgUuid : String

/-- **`OrgHeaders::from_request`**. The membership row is loaded only to be
checked; the user handed on is the one `Headers` loaded. -/
def OrgHeaders.fromRequest (env : GuardEnv) (req : Request) : Outcome OrgHeaders :=
  match Headers.fromRequest env req with
  | .forward => .forward
  | .failure f => .failure f
  | .success headers =>
    match getOrgId env.uuidParses req with
    | some orgId =>
      if !env.dbAvailable then .failure "Error getting DB"
      else
        let user := headers.user
        match env.db.findUserOrg user.uuid orgId with
        | some membership =>
          if membership.status = UserOrgStatus.Confirmed.toI32 then
            .success { host := headers.host, device := headers.device, user,
                       claims := headers.claims, contextOrgUuid := orgId }
          else .failure "The current user isn't confirmed member of the organization"
        | none => .failure "The current user isn't member of the organization"
    | none => .failure "Error getting the organization id"

/-- **What `OrgHeaders` guarantees**: `Headers` succeeded with the same user
and claims, the organization is the one `get_org_id` picked, and the store
holds a confirmed membership of the user in it. -/
theorem OrgHeaders.fromRequest_success {env : GuardEnv} {req : Request} {o : OrgHeaders}
    (hs : OrgHeaders.fromRequest env req = .success o) :
    ∃ h, Headers.fromRequest env req = .success h ∧ o.host = h.host ∧ o.device = h.device ∧
      o.user = h.user ∧ o.claims = h.claims ∧ getOrgId env.uuidParses req = some o.contextOrgUuid ∧
      ∃ m, env.db.findUserOrg o.user.uuid o.contextOrgUuid = some m ∧
        m.status = UserOrgStatus.Confirmed.toI32 := by
  unfold OrgHeaders.fromRequest at hs
  split at hs
  · cases hs
  · cases hs
  · rename_i h hh
    split at hs
    · rename_i orgId horg
      split at hs
      · cases hs
      · dsimp only at hs
        split at hs
        · rename_i m hm
          split at hs
          · rename_i hconf
            cases hs
            exact ⟨h, hh, rfl, rfl, rfl, rfl, horg, m, hm, hconf⟩
          · cases hs
        · cases hs
    · cases hs

/-! ## `AdminHeaders` and `OwnerHeaders` -/

/-- What `AdminHeaders` hands to a handler. -/
structure AdminHeaders where
  host : String
  device : Device
  user : User
  claims : LoginJWTClaims
  contextOrgUuid : String

/-- **`AdminHeaders::from_request`**: the token's `orgadmin` and `orgowner`
lists decide. -/
def AdminHeaders.fromRequest (env : GuardEnv) (req : Request) : Outcome AdminHeaders :=
  match OrgHeaders.fromRequest env req with
  | .forward => .forward
  | .failure f => .failure f
  | .success headers =>
    if headers.claims.isOrganizationAdmin headers.contextOrgUuid then
      .success { host := headers.host, device := headers.device, user := headers.user,
                 claims := headers.claims, contextOrgUuid := headers.contextOrgUuid }
    else .failure "You need to be Admin or Owner to call this endpoint"

/-- What `OwnerHeaders` hands to a handler. -/
structure OwnerHeaders where
  host : String
  device : Device
  user : User
  claims : LoginJWTClaims
  contextOrgUuid : String

/-- **`OwnerHeaders::from_request`**: the token's `orgowner` list decides. -/
def OwnerHeaders.fromRequest (env : GuardEnv) (req : Request) : Outcome OwnerHeaders :=
  match OrgHeaders.fromRequest env req with
  | .forward => .forward
  | .failure f => .failure f
  | .success headers =>
    if headers.claims.isOrganizationOwner headers.contextOrgUuid then
      .success { host := headers.host, device := headers.device, user := headers.user,
                 claims := headers.claims, contextOrgUuid := headers.contextOrgUuid }
    else .failure "You need to be Owner to call this endpoint"

/-- **How `AdminHeaders` decides**: it succeeds exactly when `OrgHeaders`
does and the token lists the organization under `orgadmin` or `orgowner`;
the stored membership's role is never read. -/
theorem AdminHeaders.fromRequest_eq (env : GuardEnv) (req : Request) :
    (AdminHeaders.fromRequest env req).isSuccess =
      match OrgHeaders.fromRequest env req with
      | .success o => o.claims.isOrganizationAdmin o.contextOrgUuid
      | _ => false := by
  unfold AdminHeaders.fromRequest
  cases OrgHeaders.fromRequest env req with
  | success o =>
    dsimp only
    by_cases ha : o.claims.isOrganizationAdmin o.contextOrgUuid = true
    · rw [if_pos ha, ha]; rfl
    · rw [if_neg ha, Bool.eq_false_iff.mpr ha]; rfl
  | failure _ => rfl
  | forward => rfl

/-- **How `OwnerHeaders` decides**: by the token's `orgowner` list. -/
theorem OwnerHeaders.fromRequest_eq (env : GuardEnv) (req : Request) :
    (OwnerHeaders.fromRequest env req).isSuccess =
      match OrgHeaders.fromRequest env req with
      | .success o => o.claims.isOrganizationOwner o.contextOrgUuid
      | _ => false := by
  unfold OwnerHeaders.fromRequest
  cases OrgHeaders.fromRequest env req with
  | success o =>
    dsimp only
    by_cases ha : o.claims.isOrganizationOwner o.contextOrgUuid = true
    · rw [if_pos ha, ha]; rfl
    · rw [if_neg ha, Bool.eq_false_iff.mpr ha]; rfl
  | failure _ => rfl
  | forward => rfl

/-! ## What the four guards guarantee -/

theorem OrgHeaders.isSuccess_of_admin {env : GuardEnv} {req : Request}
    (h : (AdminHeaders.fromRequest env req).isSuccess = true) :
    (OrgHeaders.fromRequest env req).isSuccess = true := by
  rw [AdminHeaders.fromRequest_eq] at h
  split at h
  · rename_i heq; rw [heq]; rfl
  · cases h

theorem OrgHeaders.isSuccess_of_owner {env : GuardEnv} {req : Request}
    (h : (OwnerHeaders.fromRequest env req).isSuccess = true) :
    (OrgHeaders.fromRequest env req).isSuccess = true := by
  rw [OwnerHeaders.fromRequest_eq] at h
  split at h
  · rename_i heq; rw [heq]; rfl
  · cases h

theorem Headers.isSuccess_of_org {env : GuardEnv} {req : Request}
    (h : (OrgHeaders.fromRequest env req).isSuccess = true) :
    (Headers.fromRequest env req).isSuccess = true := by
  cases ho : OrgHeaders.fromRequest env req with
  | success o =>
    obtain ⟨hd, hh, -⟩ := OrgHeaders.fromRequest_success ho
    rw [hh]; rfl
  | failure _ => rw [ho] at h; cases h
  | forward => rw [ho] at h; cases h

/-- **The guard chain is sound**, for every request and every state. A
success of `Headers` means a login token from the header that decodes, a
device and a user that exist, and a security stamp that matches; a success of
`OrgHeaders` means that, an organization id chosen by `get_org_id`'s
precedence that parses as a uuid, and a confirmed membership in the store;
`AdminHeaders` and `OwnerHeaders` succeed only where `OrgHeaders` does. So a
token whose stamp is no longer the user's passes none of the four, whatever
its expiry. -/
theorem guards_sound (env : GuardEnv) (req : Request) :
    (∀ h, Headers.fromRequest env req = .success h →
      ∃ t, Headers.accessToken req = .ok t ∧ decodeLogin env.tokens t = .ok h.claims ∧
        env.db.findDevice h.claims.device = some h.device ∧
        env.db.findUser h.claims.sub = some h.user ∧ h.user.securityStamp = h.claims.sstamp) ∧
    (∀ o, OrgHeaders.fromRequest env req = .success o →
      (∃ h, Headers.fromRequest env req = .success h ∧ o.user = h.user ∧ o.claims = h.claims) ∧
      env.uuidParses o.contextOrgUuid = true ∧
      (req.getParam 1 = some (.ok o.contextOrgUuid) ∨
        ((∀ x, req.getParam 1 = some (.ok x) → env.uuidParses x = false) ∧
          req.getQueryValue "organizationId" = some (.ok o.contextOrgUuid))) ∧
      ∃ m, env.db.findUserOrg o.user.uuid o.contextOrgUuid = some m ∧
        m.status = UserOrgStatus.Confirmed.toI32) ∧
    ((AdminHeaders.fromRequest env req).isSuccess = true →
      (OrgHeaders.fromRequest env req).isSuccess = true) ∧
    ((OwnerHeaders.fromRequest env req).isSuccess = true →
      (OrgHeaders.fromRequest env req).isSuccess = true) ∧
    (∀ t c, Headers.accessToken req = .ok t → decodeLogin env.tokens t = .ok c →
      (∀ u, env.db.findUser c.sub = some u → u.securityStamp ≠ c.sstamp) →
      (Headers.fromRequest env req).isSuccess = false ∧
        (OrgHeaders.fromRequest env req).isSuccess = false ∧
        (AdminHeaders.fromRequest env req).isSuccess = false ∧
        (OwnerHeaders.fromRequest env req).isSuccess = false) := by
  refine ⟨fun h hs => Headers.fromRequest_success hs, fun o ho => ?_,
    OrgHeaders.isSuccess_of_admin, OrgHeaders.isSuccess_of_owner,
    fun t c ht hc hstale => ?_⟩
  · obtain ⟨h, hh, -, -, hu, hc, horg, hm⟩ := OrgHeaders.fromRequest_success ho
    exact ⟨⟨h, hh, hu, hc⟩, getOrgId_eq_some horg |>.1, getOrgId_eq_some horg |>.2, hm⟩
  · have hH := Headers.fromRequest_stale ht hc hstale
    have hO : (OrgHeaders.fromRequest env req).isSuccess = false :=
      Bool.eq_false_iff.mpr fun h => by rw [Headers.isSuccess_of_org h] at hH; cases hH
    refine ⟨hH, hO, Bool.eq_false_iff.mpr fun h => ?_, Bool.eq_false_iff.mpr fun h => ?_⟩
    · rw [OrgHeaders.isSuccess_of_admin h] at hO; cases hO
    · rw [OrgHeaders.isSuccess_of_owner h] at hO; cases hO

/-! ## A request the token's lists let through

One user, `u1`, with one device and a confirmed membership of the
organization `sampleOrgUuid` whose stored role is `User`, holding a login
token minted while it was listed as an owner there. -/

/-- The sample organization's id. -/
def sampleOrgUuid : String := "7c9e6679-7425-40de-944b-e07fc1f99ae7"

/-- The claims set of the sample token. -/
def sampleClaimsSet : ClaimsSet :=
  [("nbf", .num 1704067200), ("exp", .num 1704074400),
   ("iss", .str "https://vault.example|login"), ("sub", .str "u1"), ("premium", .bool true),
   ("name", .str "A"), ("email", .str "a@example.com"), ("email_verified", .bool true),
   ("orgowner", .strs [sampleOrgUuid]), ("orgadmin", .strs []), ("orguser", .strs []),
   ("orgmanager", .strs []), ("sstamp", .str "s1"), ("device", .str "d1"),
   ("scope", .strs ["api", "offline_access"]), ("amr", .strs ["Application"])]

/-- The sample token's claims, as `LoginJWTClaims`. -/
def sampleLoginClaims : LoginJWTClaims :=
  ⟨1704067200, 1704074400, "https://vault.example|login", "u1", true, "A", "a@example.com", true,
    [sampleOrgUuid], [], [], [], "s1", "d1", ["api", "offline_access"], ["Application"]⟩

/-- 2024-01-01T00:00:00. -/
def sampleTime : NaiveDateTime := ⟨1704067200000000000, by decide⟩

/-- A hexadecimal digit, in either case. -/
def isHexDigit (c : Char) : Bool := c.isDigit || ('a' ≤ c && c ≤ 'f') || ('A' ≤ c && c ≤ 'F')

/-- `uuid::Uuid::parse_str(s).is_ok()` on the simple and the hyphenated
forms: 32 hex digits, or the same in groups of 8, 4, 4, 4 and 12 joined by
hyphens. (Its `urn:uuid:` form is left out.) -/
def uuidParseStr (s : String) : Bool :=
  (s.length == 32 && s.toList.all isHexDigit) ||
    (s.length == 36 && s.toList.enum.all fun (i, c) =>
      if i ∈ [8, 13, 18, 23] then c == '-' else isHexDigit c)

/-- The state of the sample: the token `tok` verifies to the claims set
above, and is checked one second after it was issued. -/
def sampleEnv : GuardEnv where
  domainSet := false
  domain := ""
  rocketTls := false
  tokens :=
    { domainOrigin := "https://vault.example"
      publicKey := ⟨fun t => if t = "tok" then some sampleClaimsSet else none⟩
      now := 1704067201 }
  dbAvailable := true
  db :=
    { users := [⟨"u1", "a@example.com", "A", "s1", sampleTime⟩],
      devices := [⟨"d1"⟩],
      usersOrganizations :=
        [⟨"u1", sampleOrgUuid, UserOrgType.User.toI32, UserOrgStatus.Confirmed.toI32⟩],
      emergencyAccesses := ⟨[], List.nodup_nil⟩ }
  uuidParses := uuidParseStr

/-- A request on `/organizations/<sampleOrgUuid>/..` with an `Authorization`
value. -/
def sampleRequest (authorization : String) : Request where
  headers := [("Authorization", authorization)]
  params := [.ok "organizations", .ok sampleOrgUuid]
  query := []

/-- The admin and owner guards admit a member whose stored role is `User`,
because the token still lists the organization under `orgowner`. -/
theorem adminHeaders_follows_token_lists :
    (sampleEnv.db.findUserOrg "u1" sampleOrgUuid).map UserOrganization.atype =
        some UserOrgType.User.toI32 ∧
      (AdminHeaders.fromRequest sampleEnv (sampleRequest "Bearer tok")).isSuccess = true ∧
      (OwnerHeaders.fromRequest sampleEnv (sampleRequest "Bearer tok")).isSuccess = true := by
  decide

/-- A bare token, with no `Bearer ` before it, is decoded and accepted; and
of a value with two `Bearer `, the part after the last one is used. -/
theorem headers_accepts_unprefixed_token :
    Headers.accessToken (sampleRequest "tok") = .ok "tok" ∧
      (Headers.fromRequest sampleEnv (sampleRequest "tok")).isSuccess = true ∧
      Headers.accessToken (sampleRequest "Bearer x Bearer tok") = .ok "tok" :=
  ⟨Headers.accessToken_of_no_bearer rfl fun h => absurd h.length_le (by decide), by decide, rfl⟩

end BitwardenRs
