import SampleGrpc.Auth.TokenTable

/-!
# One more token

A token library extended by a token with arbitrary claims, and by message authentication codes: the
laws of the library are kept.
-/

namespace SampleGrpc

/-- A token with its text, and the key and signature that go together on it. -/
structure ExtraToken where
  method : SigningMethod
  header : MapClaims
  claims : MapClaims
  signingString : String
  key : Key
  signature : Bytes

namespace ExtraToken

def entry (x : ExtraToken) : TableEntry :=
  { method := x.method, header := x.header, claims := [], signingString := x.signingString,
    key := x.key, signature := x.signature }

def token (x : ExtraToken) (seg : String) : Token := { x.entry.token seg with claims := x.claims }

def parse (x : ExtraToken) (s : String) : Option Token :=
  (x.entry.parse s).map fun t => { t with claims := x.claims }

theorem parse_eq_some {x : ExtraToken} {s : String} {t : Token} :
    x.parse s = some t ↔ ∃ seg : String, '.' ∉ seg.toList ∧
      t = x.token seg ∧ s = x.signingString ++ "." ++ seg := by
  rw [parse, Option.map_eq_some_iff]
  constructor
  · intro h
    obtain ⟨t', ht', rfl⟩ := h
    obtain ⟨seg, hdot, rfl, hs⟩ := TokenTable.parse_eq_some.mp ht'
    exact ⟨seg, hdot, rfl, hs⟩
  · intro h
    obtain ⟨seg, hdot, rfl, hs⟩ := h
    exact ⟨_, TokenTable.parse_eq_some.mpr ⟨seg, hdot, rfl, hs⟩, rfl⟩

end ExtraToken

namespace GolangJwt

/-- The token, where the text is its; the library otherwise. -/
def parseExtra (J : GolangJwt) (x : ExtraToken) (s : String) : Except String Token :=
  match x.parse s with
  | some t => .ok t
  | none => J.parseUnverified s

def verifyExtra (J : GolangJwt) (x : ExtraToken) (mac : HashAlg → Bytes → String → Bytes) :
    SigningMethod → String → Bytes → Key → Bool
  | .hmac h, text, sig, .bytes k => sig = mac h k text
  | m, text, sig, key =>
    (m = x.method && key = x.key && text = x.signingString && sig = x.signature) ||
      J.verify m text sig key

theorem parseExtra_cases {J : GolangJwt} {x : ExtraToken} {s : String} {t : Token}
    (h : J.parseExtra x s = .ok t) :
    (∃ seg : String, t = x.token seg ∧ s = x.signingString ++ "." ++ seg) ∨
      J.parseUnverified s = .ok t := by
  unfold parseExtra at h
  cases hx : x.parse s with
  | some t' =>
    simp only [hx, Except.ok.injEq] at h
    obtain ⟨seg, -, ht, hs⟩ := ExtraToken.parse_eq_some.mp hx
    exact Or.inl ⟨seg, h ▸ ht, hs⟩
  | none =>
    simp only [hx] at h
    exact Or.inr h

/-- **The library with one more token.** -/
def withToken (J : GolangJwt) (x : ExtraToken) (mac : HashAlg → Bytes → String → Bytes)
    (hfresh : ∀ m c, J.signingString m c ≠ x.signingString) : GolangJwt where
  parseUnverified := J.parseExtra x
  parseWithClaims := parseThenVerify (J.parseExtra x) (J.verifyExtra x mac) J.seconds
  signingString := J.signingString
  signedString m c k :=
    match m with
    | .hmac h => .ok (J.signingString (.hmac h) c ++ "." ++
        Base64Url.encode (mac h k (J.signingString (.hmac h) c)))
    | m => J.signedString m c k
  verify := J.verifyExtra x mac
  mac := mac
  seconds := J.seconds
  parseUnverified_raw h := by
    rcases parseExtra_cases h with ⟨seg, rfl, rfl⟩ | h
    · rfl
    · exact J.parseUnverified_raw h
  parseUnverified_signed {s t m c} h htext := by
    rcases parseExtra_cases h with ⟨seg, rfl, -⟩ | h
    · exact absurd htext.symm (hfresh m c)
    · exact J.parseUnverified_signed h htext
  parseWithClaims_ok := parseThenVerify_ok
  seconds_eq := J.seconds_eq
  verify_hmac := decide_eq_true_iff
  signedString_hmac := rfl

variable {J : GolangJwt} {x : ExtraToken} {mac : HashAlg → Bytes → String → Bytes}
variable {hfresh : ∀ m c, J.signingString m c ≠ x.signingString}

/-- The added token parses, whatever its signature segment. -/
theorem withToken_parse {seg : String} (hseg : '.' ∉ seg.toList) :
    (J.withToken x mac hfresh).parseUnverified (x.signingString ++ "." ++ seg) =
      .ok (x.token seg) := by
  show J.parseExtra x _ = _
  rw [parseExtra, ExtraToken.parse_eq_some.mpr ⟨seg, hseg, rfl, rfl⟩]

/-- The signature of an added RSA token verifies under its key. -/
theorem withToken_verify_rsa {h : HashAlg} (hmethod : x.method = .rsa h) :
    (J.withToken x mac hfresh).verify (.rsa h) x.signingString x.signature x.key = true := by
  show J.verifyExtra x mac (.rsa h) x.signingString x.signature x.key = true
  simp [verifyExtra, hmethod]

end GolangJwt

namespace Sample

/-- A text that is not one of the sample tokens is fresh. -/
theorem jwt_fresh {text : String}
    (h : ("" :: table.entries.map (·.signingString)).all (· ≠ text) = true)
    (m : SigningMethod) (c : List (String × Scalar)) : jwt.signingString m c ≠ text := by
  have hne (s : String) (hs : s ∈ "" :: table.entries.map (·.signingString)) : s ≠ text := by
    simpa using List.all_eq_true.mp h s hs
  rcases table.signingString_cases m c with hempty | ⟨e, he, hentry⟩
  · exact hne _ (List.mem_cons.mpr (Or.inl hempty))
  · exact hne _ (List.mem_cons.mpr (Or.inr (List.mem_map.mpr ⟨e, he, hentry.symm⟩)))

end Sample

end SampleGrpc
