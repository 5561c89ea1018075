import Mathlib.Data.List.Nodup
import SampleGrpc.Auth.Jwks
import SampleGrpc.Auth.Session

/-!
# A token library from a table

The laws of `GolangJwt` are satisfiable: a finite table of signed tokens gives a library that
parses, signs and verifies the tokens of the table and refuses all other text. It behaves as the
real library does on tokens whose text, claims, key and signature are entered in it.
-/

namespace SampleGrpc

/-- A signed token. -/
structure TableEntry where
  method : SigningMethod
  header : MapClaims
  claims : List (String × Scalar)
  signingString : String
  key : Key
  signature : Bytes

/-- Tokens with distinct, non-empty signing strings. -/
structure TokenTable where
  entries : List TableEntry
  distinct : (entries.map (·.signingString)).Nodup
  nonempty : ∀ e ∈ entries, e.signingString ≠ ""

def readClaims (c : List (String × Scalar)) : MapClaims := c.map fun kv => (kv.1, kv.2.toJson)

/-- The token's text. -/
def TableEntry.text (e : TableEntry) : String :=
  e.signingString ++ "." ++ Base64Url.encode e.signature

def TableEntry.token (e : TableEntry) (seg : String) : Token :=
  { method := e.method, header := e.header, claims := readClaims e.claims,
    signingString := e.signingString, signatureSegment := seg }

/-- The token of an entry, if the text is the entry's signing string, a dot and a segment. -/
def TableEntry.parse (e : TableEntry) (s : String) : Option Token :=
  match s.toList.dropPrefix? (e.signingString ++ ".").toList with
  | some seg => if '.' ∈ seg then none else some (e.token (String.ofList seg))
  | none => none

/-- Parse the token, find its key, then check the signature and the dates. -/
def parseThenVerify (parse : String → Except String Token)
    (verify : SigningMethod → String → Bytes → Key → Bool) (seconds : ℚ → ℤ) (now : Time)
    (s : String) (keyFunc : Token → Except String Key) : Except String Token :=
  match parse s with
  | .error err => .error err
  | .ok t =>
    match Base64Url.decode t.signatureSegment, keyFunc t with
    | some sig, .ok key =>
      if verify t.method t.signingString sig key ∧ t.claims.expOk seconds now ∧
          t.claims.nbfOk seconds now then
        .ok t
      else .error "token is invalid"
    | _, _ => .error "token is unverifiable"

theorem parseThenVerify_ok {parse : String → Except String Token}
    {verify : SigningMethod → String → Bytes → Key → Bool} {seconds : ℚ → ℤ} {now : Time}
    {s : String} {keyFunc : Token → Except String Key} {t : Token} :
    parseThenVerify parse verify seconds now s keyFunc = .ok t ↔
      parse s = .ok t ∧
        (∃ sig key, Base64Url.decode t.signatureSegment = some sig ∧ keyFunc t = .ok key ∧
          verify t.method t.signingString sig key = true) ∧
        t.claims.expOk seconds now = true ∧ t.claims.nbfOk seconds now = true := by
  unfold parseThenVerify
  cases hp : parse s with
  | error err =>
    refine ⟨?_, ?_⟩
    · intro h
      cases h
    · intro h
      obtain ⟨h, -⟩ := h
      cases h
  | ok t' =>
    refine ⟨?_, ?_⟩
    · intro h
      dsimp only at h
      split at h
      · next sig key hsig hkey =>
        split at h
        · next hall =>
          obtain rfl := Except.ok.inj h
          exact ⟨rfl, ⟨sig, key, hsig, hkey, hall.1⟩, hall.2⟩
        · cases h
      · cases h
    · intro h
      obtain ⟨h, ⟨sig, key, hsig, hkey, hverify⟩, htime⟩ := h
      obtain rfl := Except.ok.inj h
      simp [hsig, hkey, hverify, htime]

namespace TokenTable

def parseUnverified (T : TokenTable) (s : String) : Except String Token :=
  match T.entries.findSome? fun e => e.parse s with
  | some t => .ok t
  | none => .error "token is malformed"

def signingString (T : TokenTable) (m : SigningMethod) (c : List (String × Scalar)) : String :=
  match T.entries.find? fun e => e.method = m && e.claims = c with
  | some e => e.signingString
  | none => ""

def mac (T : TokenTable) (h : HashAlg) (k : Bytes) (text : String) : Bytes :=
  match T.entries.find? fun e =>
    e.method = .hmac h && e.key = .bytes k && e.signingString = text with
  | some e => e.signature
  | none => []

def verify (T : TokenTable) : SigningMethod → String → Bytes → Key → Bool
  | .hmac h, text, sig, .bytes k => sig = T.mac h k text
  | m, text, sig, key => T.entries.any fun e =>
    e.method = m && e.key = key && e.signingString = text && e.signature = sig

def parseWithClaims (T : TokenTable) (now : Time) (s : String)
    (keyFunc : Token → Except String Key) : Except String Token :=
  parseThenVerify T.parseUnverified T.verify Int.floor now s keyFunc

theorem lookup_readClaims (c : List (String × Scalar)) (key : String) :
    (readClaims c).lookup key = (c.lookup key).map Scalar.toJson := by
  induction c with
  | nil => rfl
  | cons kv c ih =>
    obtain ⟨k, v⟩ := kv
    simp only [readClaims, List.map_cons, List.lookup_cons] at ih ⊢
    cases key == k with
    | true => rfl
    | false => exact ih

theorem parse_eq_some {e : TableEntry} {s : String} {t : Token} :
    e.parse s = some t ↔ ∃ seg : String, '.' ∉ seg.toList ∧
      t = e.token seg ∧ s = e.signingString ++ "." ++ seg := by
  unfold TableEntry.parse
  refine ⟨?_, ?_⟩
  · intro h
    split at h
    · next seg hseg =>
      rw [List.dropPrefix?_eq_some_iff] at hseg
      obtain ⟨pre, hs, hpre⟩ := hseg
      split at h
      · cases h
      · next hdot =>
        refine ⟨String.ofList seg, by rwa [String.toList_ofList], (Option.some.inj h).symm, ?_⟩
        rw [← String.toList_inj, hs, beq_iff_eq.mp hpre, ← String.toList_ofList (l := seg),
          ← String.toList_append, String.toList_ofList]
    · cases h
  · intro h
    obtain ⟨seg, hdot, rfl, rfl⟩ := h
    have hdrop : (e.signingString ++ "." ++ seg).toList.dropPrefix?
        (e.signingString ++ ".").toList = some seg.toList := by
      rw [List.dropPrefix?_eq_some_iff]
      exact ⟨(e.signingString ++ ".").toList, String.toList_append, beq_self_eq_true _⟩
    simp only [hdrop, hdot, if_false, String.ofList_toList]

theorem parseUnverified_ok {T : TokenTable} {s : String} {t : Token}
    (h : T.parseUnverified s = .ok t) :
    ∃ e ∈ T.entries, ∃ seg : String, '.' ∉ seg.toList ∧ t = e.token seg ∧
      s = e.signingString ++ "." ++ seg := by
  unfold parseUnverified at h
  split at h
  · next t' ht' =>
    obtain rfl := Except.ok.inj h
    obtain ⟨e, he, hparse⟩ := List.exists_of_findSome?_eq_some ht'
    exact ⟨e, he, parse_eq_some.mp hparse⟩
  · cases h

/-- The text of a token of the table parses as that token, whatever its signature segment. -/
theorem parseUnverified_entry {T : TokenTable} {e : TableEntry} (he : e ∈ T.entries) {seg : String}
    (hseg : '.' ∉ seg.toList) :
    T.parseUnverified (e.signingString ++ "." ++ seg) = .ok (e.token seg) := by
  unfold parseUnverified
  split
  · next t ht =>
    obtain ⟨e', he', hparse⟩ := List.exists_of_findSome?_eq_some ht
    obtain ⟨seg', hseg', rfl, htext⟩ := parse_eq_some.mp hparse
    obtain ⟨hsigning, rfl⟩ := append_dot_inj hseg hseg' htext
    rw [List.inj_on_of_nodup_map T.distinct he he' hsigning]
  · next hnone =>
    rw [List.findSome?_eq_none_iff] at hnone
    have := hnone e he
    rw [parse_eq_some.mpr ⟨seg, hseg, rfl, rfl⟩] at this
    cases this

theorem parseWithClaims_ok {T : TokenTable} {now : Time} {s : String}
    {keyFunc : Token → Except String Key} {t : Token} :
    T.parseWithClaims now s keyFunc = .ok t ↔
      T.parseUnverified s = .ok t ∧
        (∃ sig key, Base64Url.decode t.signatureSegment = some sig ∧ keyFunc t = .ok key ∧
          T.verify t.method t.signingString sig key = true) ∧
        t.claims.expOk Int.floor now = true ∧ t.claims.nbfOk Int.floor now = true :=
  parseThenVerify_ok

/-- **The laws of the token library hold of a table.** -/
def toGolangJwt (T : TokenTable) : GolangJwt where
  parseUnverified := T.parseUnverified
  parseWithClaims := T.parseWithClaims
  signingString := T.signingString
  signedString m c k :=
    .ok (T.signingString m c ++ "." ++ Base64Url.encode
      (match m with
        | .hmac h => T.mac h k (T.signingString m c)
        | _ => []))
  verify := T.verify
  mac := T.mac
  seconds := Int.floor
  parseUnverified_raw h := by
    obtain ⟨e, -, seg, -, rfl, rfl⟩ := parseUnverified_ok h
    rfl
  parseUnverified_signed {s t m c} h htext := by
    obtain ⟨e, he, seg, -, rfl, -⟩ := parseUnverified_ok h
    unfold signingString at htext
    split at htext
    · next e' he' =>
      obtain rfl : e = e' :=
        List.inj_on_of_nodup_map T.distinct he (List.mem_of_find?_eq_some he') htext
      have hmatch := List.find?_some he'
      simp only [Bool.and_eq_true, decide_eq_true_eq] at hmatch
      exact ⟨hmatch.1, fun key => hmatch.2 ▸ lookup_readClaims e.claims key,
        fun _ n _ => Int.floor_intCast n⟩
    · exact absurd htext (T.nonempty e he)
  parseWithClaims_ok := parseWithClaims_ok
  seconds_eq _ := rfl
  verify_hmac := decide_eq_true_iff
  signedString_hmac := rfl

/-- A table signs the texts entered in it. -/
theorem signingString_cases (T : TokenTable) (m : SigningMethod) (c : List (String × Scalar)) :
    T.signingString m c = "" ∨ ∃ e ∈ T.entries, T.signingString m c = e.signingString := by
  unfold signingString
  split
  · next e he => exact Or.inr ⟨e, List.mem_of_find?_eq_some he, rfl⟩
  · exact Or.inl rfl

/-- A table reads back the tokens entered in it. -/
theorem readsBack {T : TokenTable} {e : TableEntry} (he : e ∈ T.entries) :
    T.toGolangJwt.ReadsBack e.method e.claims := by
  have hfind : ∃ e' ∈ T.entries, T.signingString e.method e.claims = e'.signingString := by
    unfold signingString
    split
    · next e' he' => exact ⟨e', List.mem_of_find?_eq_some he', rfl⟩
    · next hnone =>
      rw [List.find?_eq_none] at hnone
      simpa using hnone e he
  obtain ⟨e', he', htext⟩ := hfind
  intro seg hseg
  refine ⟨e'.token seg, ?_, htext.symm, rfl⟩
  change T.parseUnverified (T.signingString e.method e.claims ++ "." ++ seg) = _
  rw [htext]
  exact parseUnverified_entry he' hseg

/-- The signature of an entry verifies under its key. -/
theorem verify_entry {T : TokenTable} {e : TableEntry} (he : e ∈ T.entries) :
    T.verify e.method e.signingString e.signature e.key = true := by
  unfold verify
  split
  · next m text sig h k hm hkey =>
    rw [decide_eq_true_eq, mac]
    split
    · next e' he' =>
      have hmatch := List.find?_some he'
      simp only [Bool.and_eq_true, decide_eq_true_eq] at hmatch
      rw [List.inj_on_of_nodup_map T.distinct (List.mem_of_find?_eq_some he') he hmatch.2]
    · next hnone =>
      rw [List.find?_eq_none] at hnone
      simpa [hm, hkey] using hnone e he
  · exact List.any_eq_true.mpr ⟨e, he, by simp⟩

theorem parseUnverified_text {T : TokenTable} {e : TableEntry} (he : e ∈ T.entries) :
    T.toGolangJwt.parseUnverified e.text = .ok (e.token (Base64Url.encode e.signature)) :=
  parseUnverified_entry he (Base64Url.dot_notMem_encode _)

/-- A line break behind the text of a token is part of its signature segment, where the decoder
skips it. -/
theorem parseUnverified_break {T : TokenTable} {e : TableEntry} (he : e ∈ T.entries) :
    T.toGolangJwt.parseUnverified (e.text ++ "\n") =
      .ok (e.token (Base64Url.encode e.signature ++ "\n")) := by
  rw [TableEntry.text, String.append_assoc]
  apply parseUnverified_entry he
  have hdot := Base64Url.dot_notMem_encode e.signature
  simp [String.toList_append, hdot]

theorem parseWithClaims_break {T : TokenTable} {e : TableEntry} (he : e ∈ T.entries) {now : Time}
    {keyFunc : Token → Except String Key}
    (hkey : keyFunc (e.token (Base64Url.encode e.signature ++ "\n")) = .ok e.key)
    (hexp : MapClaims.expOk Int.floor now (readClaims e.claims) = true)
    (hnbf : MapClaims.nbfOk Int.floor now (readClaims e.claims) = true) :
    T.toGolangJwt.parseWithClaims now (e.text ++ "\n") keyFunc =
      .ok (e.token (Base64Url.encode e.signature ++ "\n")) := by
  refine parseWithClaims_ok.mpr ⟨parseUnverified_break he, ⟨e.signature, e.key, ?_, hkey,
    verify_entry he⟩, hexp, hnbf⟩
  exact (Base64Url.decode_newline _).trans (Base64Url.decode_encode _)

/-- A token of the table is accepted by a key function that gives its key. -/
theorem parseWithClaims_text {T : TokenTable} {e : TableEntry} (he : e ∈ T.entries) {now : Time}
    {keyFunc : Token → Except String Key}
    (hkey : keyFunc (e.token (Base64Url.encode e.signature)) = .ok e.key)
    (hexp : MapClaims.expOk Int.floor now (readClaims e.claims) = true)
    (hnbf : MapClaims.nbfOk Int.floor now (readClaims e.claims) = true) :
    T.toGolangJwt.parseWithClaims now e.text keyFunc =
      .ok (e.token (Base64Url.encode e.signature)) :=
  parseWithClaims_ok.mpr ⟨parseUnverified_text he,
    ⟨e.signature, e.key, Base64Url.decode_encode _, hkey, verify_entry he⟩, hexp, hnbf⟩

end TokenTable

/-! ## Sample tokens -/

namespace Sample

def modulus : Bytes :=
  [209, 42, 156, 144, 99, 202, 134, 10, 54, 204, 63, 18, 57, 244, 52, 81, 255, 25, 187, 6, 123,
   183, 116, 120, 242, 251, 255, 82, 42, 211, 171, 216, 107, 110, 30, 14, 50, 150, 184, 135, 211,
   33, 215, 12, 16, 71, 188, 152, 191, 89, 215, 160, 180, 93, 25, 60, 97, 105, 165, 149, 192,
   188, 198, 220, 136, 100, 199, 123, 230, 198, 199, 30, 230, 7, 56, 220, 118, 212, 230, 59, 54,
   45, 240, 212, 74, 214, 66, 145, 98, 72, 117, 128, 195, 40, 26, 135, 123, 89, 67, 99, 152, 192,
   13, 21, 7, 249, 139, 109, 65, 42, 80, 195, 97, 110, 131, 115, 182, 54, 201, 164, 168, 178,
   123, 110, 17, 188, 99, 77]

/-- A JSON Web Key of 1024 bits. -/
def jwk : JwkKey :=
  { kid := "k1"
    kty := "RSA"
    alg := "RS256"
    n := Base64Url.encode modulus
    e := "AQAB" }

def publicKey : RSAPublicKey := { n := setBytes modulus, e := 65537 }

def secret : Bytes := "test-secret-32-bytes-of-padding!!".toUTF8.toList

/-- A Google ID token for `ada@example.com`. -/
def adaIDToken : TableEntry :=
  { method := .rsa .sha256
    header := [("alg", .str "RS256"), ("kid", .str "k1"), ("typ", .str "JWT")]
    claims :=
      [("iss", .str "https://accounts.google.com"),
       ("aud", .str "sample.apps.googleusercontent.com"),
       ("sub", .str "108176814619778123456"), ("email", .str "ada@example.com"),
       ("name", .str "Ada"), ("iat", .int 1699999940), ("exp", .int 1700003540)]
    signingString :=
      "eyJhbGciOiJSUzI1NiIsImtpZCI6ImsxIiwidHlwIjoiSldUIn0.eyJpc3MiOiJodHRwczovL2FjY291bnRz" ++
      "Lmdvb2dsZS5jb20iLCJhdWQiOiJzYW1wbGUuYXBwcy5nb29nbGV1c2VyY29udGVudC5jb20iLCJzdWIiOiIx" ++
      "MDgxNzY4MTQ2MTk3NzgxMjM0NTYiLCJlbWFpbCI6ImFkYUBleGFtcGxlLmNvbSIsIm5hbWUiOiJBZGEiLCJp" ++
      "YXQiOjE2OTk5OTk5NDAsImV4cCI6MTcwMDAwMzU0MH0"
    key := .rsa publicKey
    signature :=
      [105, 7, 162, 207, 237, 166, 80, 240, 185, 91, 143, 145, 5, 239, 162, 97, 87, 141, 185, 77,
       131, 58, 13, 59, 149, 139, 2, 237, 20, 84, 103, 133, 108, 89, 191, 114, 185, 59, 33, 0,
       135, 226, 93, 42, 212, 121, 203, 136, 193, 101, 154, 65, 211, 138, 167, 186, 102, 106,
       130, 24, 23, 54, 99, 161, 154, 52, 91, 75, 163, 108, 51, 243, 194, 216, 198, 15, 51, 170,
       156, 138, 98, 34, 226, 165, 106, 44, 231, 139, 30, 91, 107, 233, 156, 178, 188, 209, 253,
       233, 130, 60, 199, 58, 193, 46, 18, 82, 58, 239, 148, 40, 137, 230, 186, 238, 51, 171,
       123, 125, 72, 243, 162, 210, 110, 148, 227, 39, 237, 2] }

/-- A Google ID token without a `sub` claim. -/
def noSubIDToken : TableEntry :=
  { method := .rsa .sha256
    header := [("alg", .str "RS256"), ("kid", .str "k1"), ("typ", .str "JWT")]
    claims :=
      [("iss", .str "https://accounts.google.com"),
       ("aud", .str "sample.apps.googleusercontent.com"),
       ("email", .str "eve@example.com"), ("name", .str "Eve"), ("iat", .int 1699999940),
       ("exp", .int 1700003540)]
    signingString :=
      "eyJhbGciOiJSUzI1NiIsImtpZCI6ImsxIiwidHlwIjoiSldUIn0.eyJpc3MiOiJodHRwczovL2FjY291bnRz" ++
      "Lmdvb2dsZS5jb20iLCJhdWQiOiJzYW1wbGUuYXBwcy5nb29nbGV1c2VyY29udGVudC5jb20iLCJlbWFpbCI6" ++
      "ImV2ZUBleGFtcGxlLmNvbSIsIm5hbWUiOiJFdmUiLCJpYXQiOjE2OTk5OTk5NDAsImV4cCI6MTcwMDAwMzU0" ++
      "MH0"
    key := .rsa publicKey
    signature :=
      [157, 141, 83, 241, 61, 145, 100, 119, 138, 142, 137, 230, 120, 15, 30, 10, 192, 131, 68,
       96, 169, 131, 117, 100, 181, 184, 102, 53, 128, 22, 146, 32, 44, 158, 201, 244, 92, 130,
       91, 7, 196, 163, 4, 148, 24, 90, 235, 14, 60, 77, 138, 199, 110, 201, 91, 61, 131, 245,
       27, 4, 192, 137, 3, 126, 205, 80, 120, 4, 166, 246, 203, 52, 153, 154, 71, 158, 42, 56,
       59, 162, 67, 7, 150, 81, 2, 90, 134, 16, 162, 156, 171, 157, 92, 88, 15, 116, 114, 39,
       245, 99, 225, 127, 251, 85, 139, 196, 52, 90, 0, 247, 9, 225, 219, 114, 100, 21, 104, 83,
       159, 156, 18, 110, 206, 134, 209, 74, 128, 20] }

/-- An admin's session token under `secret`. -/
def adminSession : TableEntry :=
  { method := .hmac .sha256
    header := [("alg", .str "HS256"), ("typ", .str "JWT")]
    claims := sessionClaims "3f2b8c1e-9d4a-4e6f-8a7b-0c1d2e3f4a5b" true (1700000000 * Time.second)
    signingString :=
      "eyJhbGciOiJIUzI1NiIsInR5cCI6IkpXVCJ9.eyJleHAiOjE3MDAwODY0MDAsImlhdCI6MTcwMDAwMDAwMCw" ++
      "iaXNfYWRtaW4iOnRydWUsInVzZXJfaWQiOiIzZjJiOGMxZS05ZDRhLTRlNmYtOGE3Yi0wYzFkMmUzZjRhNWI" ++
      "ifQ"
    key := .bytes secret
    signature :=
      [206, 38, 96, 118, 67, 58, 138, 160, 163, 166, 51, 59, 100, 140, 231, 166, 239, 169, 117,
       9, 90, 4, 28, 24, 175, 141, 156, 87, 163, 164, 172, 211] }

/-- A session token that anyone can make: signed with the empty key. -/
def emptyKeySession : TableEntry :=
  { method := .hmac .sha256
    header := [("alg", .str "HS256"), ("typ", .str "JWT")]
    claims := sessionClaims "admin" true (1700000000 * Time.second)
    signingString :=
      "eyJhbGciOiJIUzI1NiIsInR5cCI6IkpXVCJ9.eyJleHAiOjE3MDAwODY0MDAsImlhdCI6MTcwMDAwMDAwMCw" ++
      "iaXNfYWRtaW4iOnRydWUsInVzZXJfaWQiOiJhZG1pbiJ9"
    key := .bytes []
    signature :=
      [135, 154, 193, 211, 20, 182, 55, 89, 109, 22, 104, 143, 6, 116, 211, 222, 248, 212, 4,
       174, 42, 18, 21, 134, 25, 51, 82, 200, 1, 23, 175, 99] }

def table : TokenTable :=
  { entries := [adaIDToken, noSubIDToken, adminSession, emptyKeySession]
    distinct := by decide +kernel
    nonempty := by decide +kernel }

def jwt : GolangJwt := table.toGolangJwt

theorem selectRSAKey_jwk : selectRSAKey "k1" (.body (.ok ⟨[jwk]⟩)) = .ok publicKey := by
  have hn : Base64Url.decode jwk.n = some modulus := Base64Url.decode_encode _
  have he : Base64Url.decode jwk.e = some [1, 0, 1] := by decide +kernel
  have hkey := jwkToRSA_of_decode hn he
  have hexp : int64 (setBytes [1, 0, 1]) = 65537 := by decide +kernel
  rw [hexp] at hkey
  have hkid : jwk.kid = "k1" := rfl
  have hfind : [jwk].find? (fun k => k.kid = "k1") = some jwk := by
    rw [List.find?_cons_of_pos (by simp [hkid])]
  exact selectRSAKey_ok_iff.mpr ⟨⟨[jwk]⟩, rfl, jwk, hfind, hkey⟩

end Sample

end SampleGrpc
