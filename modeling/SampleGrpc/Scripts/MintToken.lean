import Mathlib.Data.List.DropRight
import SampleGrpc.Auth.Requests
import SampleGrpc.Auth.TokenExtension
import SampleGrpc.Text.JsonDumps

/-!
# The script that mints admin tokens

`scripts/mint-cluster-token.sh` signs a one-hour admin token with the secret it reads from the
cluster. It is the second issuer of session tokens: `ValidateJWT` checks them under the bytes of
`JWT_SECRET`. The two sides get the same secret on different ways. The script's shell reads it by
command substitution, which strips the newlines it ends in.

Main results: `mintedToken_valid_iff`, when the server takes a minted token, and
`mintedToken_accepted_iff`, for which secrets that is the case.
-/

namespace SampleGrpc

def utf8 (s : String) : Bytes := s.toUTF8.toList

/-! ## The shell -/

/-- What `$(...)` makes of a command's output: NULs are dropped, and the newlines it ends in. -/
def commandSubstitution (output : String) : String :=
  String.ofList ((output.toList.filter (· ≠ '\x00')).rdropWhile (· = '\n'))

/-! ## The Python program -/

/-- `base64.urlsafe_b64encode`, padded to a multiple of four characters. -/
def urlsafeB64encode (bs : Bytes) : String :=
  Base64Url.encode bs ++ String.ofList (List.replicate ((3 - bs.length % 3) % 3) '=')

/-- `.rstrip(b"=")` -/
def rstripPadding (s : String) : String := String.ofList (s.toList.rdropWhile (· = '='))

def mintHeader : List (String × Scalar) := [("alg", .str "HS256"), ("typ", .str "JWT")]

/-- `int(time.time()) + 3600` -/
def mintExpiry (now : Time) : ℕ := Time.unix now + 3600

def mintPayload (now : Time) : List (String × Scalar) :=
  [("user_id", .str "admin"), ("is_admin", .bool true), ("exp", .int (mintExpiry now))]

/-- A JSON segment of the token. -/
def segment (fields : List (String × Scalar)) : String :=
  rstripPadding (urlsafeB64encode (utf8 (JsonDumps.dumps fields)))

/-- `f"{header}.{payload}"` -/
def mintSigningString (now : Time) : String :=
  segment mintHeader ++ "." ++ segment (mintPayload now)

/-- The token the script prints, given the value of the cluster secret. -/
def mintClusterToken (J : GolangJwt) (jwtSecret : String) (now : Time) : String :=
  let secret := commandSubstitution jwtSecret
  let sig := J.mac .sha256 (utf8 secret) (mintSigningString now)
  mintSigningString now ++ "." ++ rstripPadding (urlsafeB64encode sig)

/-! ## Its text -/

/-- Stripping the padding leaves unpadded base64url. -/
theorem rstripPadding_urlsafeB64encode (bs : Bytes) :
    rstripPadding (urlsafeB64encode bs) = Base64Url.encode bs := by
  have hpad : ∀ n : ℕ, ((Base64Url.encode bs).toList ++ List.replicate n '=').rdropWhile (· = '=') =
      (Base64Url.encode bs).toList := by
    intro n
    induction n with
    | zero =>
      rw [List.replicate_zero, List.append_nil, List.rdropWhile_eq_self_iff]
      intro hne
      have hmem := Base64Url.mem_encode (List.getLast_mem hne)
      have hall : Base64Url.alphabet.all (· ≠ '=') = true := by decide +kernel
      simpa using List.all_eq_true.mp hall _ hmem
    | succ n ih =>
      rw [List.replicate_succ', ← List.append_assoc, List.rdropWhile_concat_pos _ _ _ (by simp), ih]
  rw [rstripPadding, urlsafeB64encode, String.toList_append, String.toList_ofList, hpad,
    String.ofList_toList]

/-- A segment is what the library decodes: unpadded base64url of the JSON text. -/
theorem segment_eq (fields : List (String × Scalar)) :
    segment fields = Base64Url.encode (utf8 (JsonDumps.dumps fields)) :=
  rstripPadding_urlsafeB64encode _

theorem mintClusterToken_eq (J : GolangJwt) (jwtSecret : String) (now : Time) :
    mintClusterToken J jwtSecret now = mintSigningString now ++ "." ++
      Base64Url.encode
        (J.mac .sha256 (utf8 (commandSubstitution jwtSecret)) (mintSigningString now)) := by
  rw [mintClusterToken, rstripPadding_urlsafeB64encode]

example : segment mintHeader = "eyJhbGciOiJIUzI1NiIsInR5cCI6IkpXVCJ9" := by decide +kernel

/-- Command substitution keeps a text without NUL exactly when it does not end in a newline. -/
theorem commandSubstitution_eq_iff {s : String} (hnul : '\x00' ∉ s.toList) :
    commandSubstitution s = s ↔ s.toList.getLast? ≠ some '\n' := by
  have hfilter : s.toList.filter (· ≠ '\x00') = s.toList := by
    rw [List.filter_eq_self]
    intro c hc
    have hne : c ≠ '\x00' := by
      intro h
      exact hnul (h ▸ hc)
    simpa using hne
  rw [commandSubstitution, hfilter, ← String.toList_inj, String.toList_ofList,
    List.rdropWhile_eq_self_iff]
  by_cases hl : s.toList = []
  · simp [hl]
  · simp [List.getLast?_eq_some_getLast, hl]

/-! ## The server's side -/

/-- The library decodes the JSON of these header and payload: over their segments, and any
signature segment, it parses a token with the method that `alg` names and these claims, and the
integers in them are dates that fit. -/
def GolangJwt.DecodesJson (J : GolangJwt) (header claims : List (String × Scalar)) : Prop :=
  ∀ seg : String, '.' ∉ seg.toList →
    ∃ t, J.parseUnverified (segment header ++ "." ++ segment claims ++ "." ++ seg) = .ok t ∧
      t.signingString = segment header ++ "." ++ segment claims ∧ t.signatureSegment = seg ∧
      (∀ alg, header.lookup "alg" = some (.str alg) → getSigningMethod alg = some t.method) ∧
      (∀ key, t.claims.get key = (claims.lookup key).map Scalar.toJson) ∧
      ∀ key n, claims.lookup key = some (.int n) → J.seconds n = n

/-- The server takes the token for the admin's, and `ListUsers` runs its handler on it. -/
def AcceptedAsAdmin (J : GolangJwt) (env : Environ) (now : Time) (token : String) : Prop :=
  validateJWT J now token env.jwtSecret = .ok ⟨"admin", true⟩ ∧
    ∀ s ctx, Bearer ctx token →
      serve J env s now ctx .listUsers = handler J s (withClaims ctx ⟨"admin", true⟩) .listUsers

/-- From the mint time until `floor(mint time) + 3600` seconds. -/
def AcceptedForAnHour (J : GolangJwt) (env : Environ) (jwtSecret : String) (t₀ : Time) : Prop :=
  ∀ t, t₀ ≤ t → t < (Time.unix t₀ + 3600) * Time.second →
    AcceptedAsAdmin J env t (mintClusterToken J jwtSecret t₀)

variable {J : GolangJwt} {env : Environ} {jwtSecret : String} {t₀ : Time}

/-- A valid admin token opens `ListUsers`. -/
theorem acceptedAsAdmin_iff {now : Time} {token : String} :
    AcceptedAsAdmin J env now token ↔
      validateJWT J now token env.jwtSecret = .ok ⟨"admin", true⟩ := by
  refine ⟨fun h => h.1, fun h => ⟨h, fun s ctx hb => ?_⟩⟩
  exact serve_of_authenticated s (by decide) ⟨token, hb, h⟩ rfl

/-- What a minted token parses to. -/
theorem minted_token (hdec : J.DecodesJson mintHeader (mintPayload t₀)) :
    ∃ t, J.parseUnverified (mintClusterToken J jwtSecret t₀) = .ok t ∧
      t.method = .hmac .sha256 ∧ t.signingString = mintSigningString t₀ ∧
      t.signatureSegment = Base64Url.encode
        (J.mac .sha256 (utf8 (commandSubstitution jwtSecret)) (mintSigningString t₀)) ∧
      t.claims.getString "user_id" = "admin" ∧ t.claims.getBool "is_admin" = true ∧
      t.claims.get "exp" = some (.num (mintExpiry t₀)) ∧ t.claims.get "nbf" = none ∧
      J.seconds (mintExpiry t₀) = mintExpiry t₀ := by
  obtain ⟨t, ht, htext, hseg, hmethod, hget, hseconds⟩ := hdec _ (Base64Url.dot_notMem_encode
    (J.mac .sha256 (utf8 (commandSubstitution jwtSecret)) (mintSigningString t₀)))
  have hid : t.claims.get "user_id" = some (.str "admin") := by
    rw [hget]; rfl
  have hadmin : t.claims.get "is_admin" = some (.bool true) := by
    rw [hget]; rfl
  refine ⟨t, ?_, ?_, htext, hseg, ?_, ?_, ?_, ?_, ?_⟩
  · rw [mintClusterToken_eq]
    exact ht
  · exact (Option.some.inj (hmethod "HS256" rfl)).symm
  · simp [MapClaims.getString, hid]
  · simp [MapClaims.getBool, hadmin]
  · rw [hget]; rfl
  · rw [hget]; rfl
  · exact_mod_cast hseconds "exp" _ rfl

/-- **A minted token is valid during its hour exactly when the signature that the script made is
the one that the server computes.** -/
theorem mintedToken_valid_iff (hdec : J.DecodesJson mintHeader (mintPayload t₀)) {t : Time}
    (ht : t < (Time.unix t₀ + 3600) * Time.second) (secret : Bytes) :
    validateJWT J t (mintClusterToken J jwtSecret t₀) secret = .ok ⟨"admin", true⟩ ↔
      J.mac .sha256 (utf8 (commandSubstitution jwtSecret)) (mintSigningString t₀) =
        J.mac .sha256 secret (mintSigningString t₀) := by
  obtain ⟨tok, htok, hmethod, htext, hseg, hid, hadmin, hexp, hnbf, hfits⟩ :=
    @minted_token J jwtSecret t₀ hdec
  rw [validateJWT_ok_iff]
  constructor
  · intro h
    obtain ⟨-, tok', ⟨hparse, alg, hm, hdecode⟩, -⟩ := h
    obtain rfl : tok = tok' := Except.ok.inj (htok.symm.trans hparse)
    obtain rfl : alg = .sha256 := SigningMethod.hmac.inj (hm.symm.trans hmethod)
    rw [hseg, Base64Url.decode_encode, htext] at hdecode
    exact Option.some.inj hdecode
  · intro hmac
    have hne : mintClusterToken J jwtSecret t₀ ≠ "" := by
      intro h
      rw [mintClusterToken_eq] at h
      simpa using congrArg String.length h
    refine ⟨hne, tok, ⟨htok, .sha256, hmethod, ?_⟩, ?_, ?_, by rw [hid, hadmin]⟩
    · rw [hseg, Base64Url.decode_encode, htext, hmac]
    · exact (MapClaims.expOk_of_whole J.seconds_zero hexp hfits t).mpr ht
    · exact MapClaims.nbfOk_of_absent hnbf t

/-- **The server takes a minted token for its hour exactly when the secret does not end in a
newline.** The script signs with the secret as the shell hands it over; `hsep` excludes that the two
secrets give the token the same signature. -/
theorem mintedToken_accepted_iff (henv : env.JWT_SECRET = some (utf8 jwtSecret))
    (hnul : '\x00' ∉ jwtSecret.toList) (hdec : J.DecodesJson mintHeader (mintPayload t₀))
    (hsep : J.mac .sha256 (utf8 (commandSubstitution jwtSecret)) (mintSigningString t₀) =
      J.mac .sha256 (utf8 jwtSecret) (mintSigningString t₀) →
        commandSubstitution jwtSecret = jwtSecret) :
    AcceptedForAnHour J env jwtSecret t₀ ↔ jwtSecret.toList.getLast? ≠ some '\n' := by
  have hkey : env.jwtSecret = utf8 jwtSecret := by simp [Environ.jwtSecret, henv]
  rw [← commandSubstitution_eq_iff hnul]
  constructor
  · intro h
    have hlife : t₀ < (t₀.unix + 3600) * Time.second := t₀.lt_unix_add (by decide)
    have hmint := acceptedAsAdmin_iff.mp (h t₀ le_rfl hlife)
    rw [hkey] at hmint
    exact hsep ((mintedToken_valid_iff hdec hlife _).mp hmint)
  · intro hsame t _ ht
    rw [acceptedAsAdmin_iff, hkey, mintedToken_valid_iff hdec ht, hsame]

namespace Sample

def mintTime : Time := 1700000000 * Time.second

/-- HMAC-SHA256 of the token minted at `mintTime`, under a secret and under that secret with a
newline behind it. -/
def mintMac (h : HashAlg) (k : Bytes) (text : String) : Bytes :=
  if h = .sha256 ∧ text = mintSigningString mintTime ∧ k = utf8 "cluster-jwt-secret" then
    [253, 82, 83, 200, 94, 74, 118, 41, 214, 176, 253, 254, 36, 33, 35, 44, 96, 121, 117, 123, 108,
     27, 32, 252, 139, 77, 250, 209, 254, 166, 29, 2]
  else if h = .sha256 ∧ text = mintSigningString mintTime ∧ k = utf8 "cluster-jwt-secret\n" then
    [51, 127, 224, 231, 78, 239, 235, 93, 131, 234, 18, 170, 167, 20, 234, 97, 68, 154, 248, 177,
     240, 176, 159, 126, 236, 195, 163, 167, 109, 95, 134, 221]
  else jwt.mac h k text

/-- The token the script mints at `mintTime`. -/
def minted : ExtraToken :=
  { method := .hmac .sha256
    header := readClaims mintHeader
    claims := readClaims (mintPayload mintTime)
    signingString := mintSigningString mintTime
    key := .bytes (utf8 "cluster-jwt-secret")
    signature := mintMac .sha256 (utf8 "cluster-jwt-secret") (mintSigningString mintTime) }

theorem minted_fresh : ∀ m c, jwt.signingString m c ≠ mintSigningString mintTime :=
  jwt_fresh (by decide +kernel)

def mintJwt : GolangJwt := jwt.withToken minted mintMac minted_fresh

theorem mintJwt_decodesJson : mintJwt.DecodesJson mintHeader (mintPayload mintTime) := by
  intro seg hseg
  refine ⟨minted.token seg, GolangJwt.withToken_parse hseg, rfl, rfl, ?_, ?_, ?_⟩
  · intro alg halg
    obtain rfl : "HS256" = alg := by
      have h := Option.some.inj halg
      simpa using h
    rfl
  · exact TokenTable.lookup_readClaims (mintPayload mintTime)
  · exact fun _ n _ => Int.floor_intCast n

def mintEnviron (jwtSecret : String) : Environ := { JWT_SECRET := some (utf8 jwtSecret) }

end Sample

/-- A secret without a newline at its end. -/
theorem mintedToken_accepted_plain :
    AcceptedForAnHour Sample.mintJwt (Sample.mintEnviron "cluster-jwt-secret")
        "cluster-jwt-secret" Sample.mintTime ↔
      "cluster-jwt-secret".toList.getLast? ≠ some '\n' :=
  mintedToken_accepted_iff rfl (by decide) Sample.mintJwt_decodesJson
    (fun _ => by decide +kernel)

/-- A secret that ends in a newline: the server refuses the token at the moment it is minted. -/
theorem mintedToken_refused_newline :
    ¬ ∀ (J : GolangJwt) (env : Environ) (jwtSecret : String) (t₀ : Time), jwtSecret ≠ "" →
      '\x00' ∉ jwtSecret.toList → env.JWT_SECRET = some (utf8 jwtSecret) →
      J.DecodesJson mintHeader (mintPayload t₀) → AcceptedForAnHour J env jwtSecret t₀ := by
  intro h
  have hacc := h Sample.mintJwt (Sample.mintEnviron "cluster-jwt-secret\n") "cluster-jwt-secret\n"
    Sample.mintTime (by decide) (by decide) rfl Sample.mintJwt_decodesJson
  have hlife := Sample.mintTime.lt_unix_add (n := 3600) (by decide)
  have hvalid := acceptedAsAdmin_iff.mp (hacc Sample.mintTime le_rfl hlife)
  have hmac := (mintedToken_valid_iff Sample.mintJwt_decodesJson hlife _).mp hvalid
  revert hmac
  decide +kernel

end SampleGrpc
