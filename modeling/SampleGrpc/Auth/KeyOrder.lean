import Mathlib.Data.List.Perm.Basic
import SampleGrpc.Auth.GoogleTokens

/-!
# The order of the keys

`fetchRSAKey` stops at the first entry with the kid of the token, before it is known whether the
entry decodes and whether it verifies the signature. The order of the keys is without effect exactly
when the entries with that kid agree on the signature, or the token is refused for another reason.

* `verifiedWith` — the result for a key document, as a function of the list of its keys.
* `Ambiguous` — a token that passes every other check, with entries that disagree.
* `order_free_iff` — independence of the order, and acceptance in every order.
-/

namespace SampleGrpc

open Prog

/-! ## The first match and permutations -/

/-- Any entry that matches can be made the first one. -/
theorem exists_perm_find? {α : Type} [DecidableEq α] {p : α → Bool} {xs : List α} {x : α}
    (hx : x ∈ xs) (hp : p x = true) : ∃ ys : List α, ys.Perm xs ∧ ys.find? p = some x :=
  ⟨x :: xs.erase x, (List.perm_cons_erase hx).symm, List.find?_cons_of_pos hp⟩

theorem find?_isSome_of_perm {α : Type} {p : α → Bool} {xs ys : List α} (h : xs.Perm ys) {x : α}
    (hx : xs.find? p = some x) : ∃ y ∈ ys, p y = true ∧ ys.find? p = some y := by
  have hsome : (ys.find? p).isSome := by
    rw [List.find?_isSome]
    exact ⟨x, h.mem_iff.mp (List.mem_of_find?_eq_some hx), List.find?_some hx⟩
  obtain ⟨y, hy⟩ := Option.isSome_iff_exists.mp hsome
  exact ⟨y, List.mem_of_find?_eq_some hy, List.find?_some hy, hy⟩

/-! ## Acceptance, key by key -/

/-- The checks that do not involve the keys. -/
structure PassesOtherChecks (J : GolangJwt) (rawToken clientID : String) (now : Time)
    (tok : Token) : Prop where
  parsed : J.parseUnverified rawToken = .ok tok
  exp : tok.claims.expOk J.seconds now = true
  nbf : tok.claims.nbfOk J.seconds now = true
  issuer : issuerOk tok.claims = true
  audience : clientID ≠ "" → audMatch tok.claims clientID = true

/-- The entry decodes to a key that verifies the signature. -/
def JwkKey.Verifies (J : GolangJwt) (tok : Token) (entry : JwkKey) : Prop :=
  ∃ key h sig, jwkToRSA entry = .ok key ∧ tok.method = .rsa h ∧
    Base64Url.decode tok.signatureSegment = some sig ∧
    J.verify (.rsa h) tok.signingString sig (.rsa key) = true

/-- The search condition of `fetchRSAKey`. -/
def Token.named (tok : Token) (k : JwkKey) : Bool := k.kid = tok.header.getString "kid"

variable {J : GolangJwt} {rawToken jwksURL clientID : String} {es : ℕ → Env} {t : UsersTable}
variable {keys keys' : List JwkKey}

theorem verifyGoogleIDToken_ok_iff {g : GoogleClaims} :
    (play exec (verifyGoogleIDToken J rawToken jwksURL clientID) es t).1 = .ok g ↔
      ∃ doc tok entry, (es 0).http jwksURL = .body (.ok doc) ∧
        PassesOtherChecks J rawToken clientID (es 1).now tok ∧
        doc.keys.find? tok.named = some entry ∧ entry.Verifies J tok ∧
        g = googleClaims tok.claims := by
  rw [verifyGoogleIDToken_play]
  constructor
  · intro h
    obtain ⟨unverified, pubKey, tok, hparsed, hselect, hverified, hissuer, haud, hg⟩ := h
    obtain ⟨hparsed', ⟨sig, key, hsig, hkeyFunc, hverify⟩, hexp, hnbf⟩ :=
      J.parseWithClaims_ok.mp hverified
    -- Both parses read the same text.
    obtain rfl : unverified = tok := Except.ok.inj (hparsed.symm.trans hparsed')
    obtain ⟨⟨alg, hmethod⟩, rfl⟩ := rsaKeyFunc_ok_iff.mp hkeyFunc
    obtain ⟨doc, hdoc, entry, hentry, hkey⟩ := selectRSAKey_ok_iff.mp hselect
    rw [hmethod] at hverify
    exact ⟨doc, unverified, entry, hdoc, ⟨hparsed, hexp, hnbf, hissuer, haud⟩, hentry,
      ⟨pubKey, alg, sig, hkey, hmethod, hsig, hverify⟩, hg⟩
  · intro h
    obtain ⟨doc, tok, entry, hdoc, hpass, hentry, ⟨key, alg, sig, hkey, hmethod, hsig, hverify⟩,
      hg⟩ := h
    have hkeyFunc : rsaKeyFunc key tok = .ok (.rsa key) :=
      rsaKeyFunc_ok_iff.mpr ⟨⟨alg, hmethod⟩, rfl⟩
    rw [← hmethod] at hverify
    exact ⟨tok, key, tok, hpass.parsed, selectRSAKey_ok_iff.mpr ⟨doc, hdoc, entry, hentry, hkey⟩,
      J.parseWithClaims_ok.mpr ⟨hpass.parsed, ⟨sig, _, hsig, hkeyFunc, hverify⟩, hpass.exp,
        hpass.nbf⟩, hpass.issuer, hpass.audience, hg⟩

/-! ## The result for a list of keys -/

/-- A server whose download of the keys gives this list, in this order. -/
def withKeys (keys : List JwkKey) (e : Env) : Env := { e with http := fun _ => .body (.ok ⟨keys⟩) }

def verifiedWith (J : GolangJwt) (rawToken jwksURL clientID : String) (es : ℕ → Env)
    (t : UsersTable) (keys : List JwkKey) : Except AuthError GoogleClaims :=
  (play exec (verifyGoogleIDToken J rawToken jwksURL clientID) (fun i => withKeys keys (es i)) t).1

theorem verifiedWith_ok_iff {g : GoogleClaims} :
    verifiedWith J rawToken jwksURL clientID es t keys = .ok g ↔
      ∃ tok, PassesOtherChecks J rawToken clientID (es 1).now tok ∧
        (∃ entry, keys.find? tok.named = some entry ∧ entry.Verifies J tok) ∧
        g = googleClaims tok.claims := by
  rw [verifiedWith, verifyGoogleIDToken_ok_iff]
  constructor
  · intro h
    obtain ⟨doc, tok, entry, hdoc, hpass, hentry, hverifies, hg⟩ := h
    obtain rfl : ⟨keys⟩ = doc := Except.ok.inj (HttpReply.body.inj hdoc)
    exact ⟨tok, hpass, ⟨entry, hentry, hverifies⟩, hg⟩
  · intro h
    obtain ⟨tok, hpass, ⟨entry, hentry, hverifies⟩, hg⟩ := h
    exact ⟨⟨keys⟩, tok, entry, rfl, hpass, hentry, hverifies, hg⟩

theorem checkGoogleIDToken_error {pubKey : RSAPublicKey} {now : Time} {err : AuthError}
    (h : (play exec (checkGoogleIDToken J rawToken clientID pubKey now) es t).1 = .error err) :
    err = .errUnauthenticated := by
  rcases checkGoogleIDToken_cases J rawToken clientID pubKey now with
    ⟨format, args, hrefused⟩ | ⟨tok, -, -, -, hvalid⟩
  · rw [hrefused, refuse_play] at h
    exact (Except.error.inj h).symm
  · rw [hvalid] at h
    cases h

theorem withRSAKey_error {kid : String} {reply : HttpReply} {err : AuthError}
    (h : (play exec (withRSAKey J rawToken clientID kid reply) es t).1 = .error err) :
    err = .errUnauthenticated := by
  rcases withRSAKey_cases J rawToken clientID kid reply with
    ⟨format, args, hrefused⟩ | ⟨pubKey, -, hcheck⟩
  · rw [hrefused, refuse_play] at h
    exact (Except.error.inj h).symm
  · rw [hcheck] at h
    exact checkGoogleIDToken_error h

/-- Every refusal is the same error. -/
theorem verifyGoogleIDToken_error {err : AuthError}
    (h : (play exec (verifyGoogleIDToken J rawToken jwksURL clientID) es t).1 = .error err) :
    err = .errUnauthenticated := by
  rcases verifyGoogleIDToken_cases J rawToken jwksURL clientID with
    ⟨format, args, hrefused⟩ | ⟨tok, -, hfetch⟩
  · rw [hrefused, refuse_play] at h
    exact (Except.error.inj h).symm
  · rw [hfetch] at h
    exact withRSAKey_error h

/-- Two lists of keys give the same result if they accept the same tokens. -/
theorem verifiedWith_ext
    (h : ∀ g, verifiedWith J rawToken jwksURL clientID es t keys = .ok g ↔
      verifiedWith J rawToken jwksURL clientID es t keys' = .ok g) :
    verifiedWith J rawToken jwksURL clientID es t keys =
      verifiedWith J rawToken jwksURL clientID es t keys' := by
  cases hkeys : verifiedWith J rawToken jwksURL clientID es t keys with
  | ok g => exact ((h g).mp hkeys).symm
  | error err =>
    cases hkeys' : verifiedWith J rawToken jwksURL clientID es t keys' with
    | ok g => exact hkeys.symm.trans ((h g).mpr hkeys')
    | error err' =>
      rw [verifyGoogleIDToken_error hkeys, verifyGoogleIDToken_error hkeys']

/-! ## Independence of the order -/

/-- No order of the keys changes the result. -/
def OrderFree (J : GolangJwt) (rawToken jwksURL clientID : String) (es : ℕ → Env)
    (t : UsersTable) (keys : List JwkKey) : Prop :=
  ∀ keys' : List JwkKey, keys'.Perm keys →
    verifiedWith J rawToken jwksURL clientID es t keys' =
      verifiedWith J rawToken jwksURL clientID es t keys

/-- A token that passes the other checks is accepted as soon as one RSA entry with its kid verifies
it, whatever the order of the keys. -/
def AnyKeyAccepts (J : GolangJwt) (rawToken jwksURL clientID : String) (es : ℕ → Env)
    (t : UsersTable) (keys : List JwkKey) : Prop :=
  ∀ tok, PassesOtherChecks J rawToken clientID (es 1).now tok →
    (∃ entry ∈ keys, entry.kty = "RSA" ∧ tok.named entry = true ∧ entry.Verifies J tok) →
    ∀ keys' : List JwkKey, keys'.Perm keys →
      verifiedWith J rawToken jwksURL clientID es t keys' = .ok (googleClaims tok.claims)

/-- The token passes every other check, and of the entries with its kid one verifies the signature
and another does not. -/
def Ambiguous (J : GolangJwt) (rawToken clientID : String) (now : Time) (keys : List JwkKey) :
    Prop :=
  ∃ tok, PassesOtherChecks J rawToken clientID now tok ∧
    (∃ entry ∈ keys, tok.named entry = true ∧ entry.Verifies J tok) ∧
    ∃ entry ∈ keys, tok.named entry = true ∧ ¬entry.Verifies J tok

theorem Ambiguous.perm {now : Time} (hperm : keys.Perm keys')
    (h : Ambiguous J rawToken clientID now keys) : Ambiguous J rawToken clientID now keys' := by
  obtain ⟨tok, hpass, ⟨entry, hentry, hgood⟩, entry', hentry', hbad⟩ := h
  exact ⟨tok, hpass, ⟨entry, hperm.mem_iff.mp hentry, hgood⟩, entry', hperm.mem_iff.mp hentry',
    hbad⟩

/-- Where the entries agree, acceptance survives a permutation. -/
theorem verifiedWith_of_perm (hperm : keys.Perm keys')
    (hagree : ¬Ambiguous J rawToken clientID (es 1).now keys) {g : GoogleClaims}
    (h : verifiedWith J rawToken jwksURL clientID es t keys = .ok g) :
    verifiedWith J rawToken jwksURL clientID es t keys' = .ok g := by
  obtain ⟨tok, hpass, ⟨entry, hentry, hverifies⟩, hg⟩ := verifiedWith_ok_iff.mp h
  obtain ⟨entry', hmem, hnamed, hentry'⟩ := find?_isSome_of_perm hperm hentry
  refine verifiedWith_ok_iff.mpr ⟨tok, hpass, ⟨entry', hentry', ?_⟩, hg⟩
  by_contra hbad
  exact hagree ⟨tok, hpass,
    ⟨entry, List.mem_of_find?_eq_some hentry, List.find?_some hentry, hverifies⟩,
    entry', hperm.mem_iff.mpr hmem, hnamed, hbad⟩

theorem orderFree_of_agree (h : ¬Ambiguous J rawToken clientID (es 1).now keys) :
    OrderFree J rawToken jwksURL clientID es t keys := by
  intro keys' hperm
  refine verifiedWith_ext fun g => ⟨?_, ?_⟩
  · exact verifiedWith_of_perm hperm fun hambiguous => h (hambiguous.perm hperm)
  · exact verifiedWith_of_perm hperm.symm h

theorem anyKeyAccepts_of_agree (h : ¬Ambiguous J rawToken clientID (es 1).now keys) :
    AnyKeyAccepts J rawToken jwksURL clientID es t keys := by
  intro tok hpass hsome keys' hperm
  obtain ⟨entry, hmem, -, hnamed, hverifies⟩ := hsome
  obtain ⟨ys, hys, hfind⟩ := exists_perm_find? hmem hnamed
  have hok : verifiedWith J rawToken jwksURL clientID es t ys = .ok (googleClaims tok.claims) :=
    verifiedWith_ok_iff.mpr ⟨tok, hpass, ⟨entry, hfind, hverifies⟩, rfl⟩
  rw [orderFree_of_agree h keys' hperm, ← orderFree_of_agree h ys hys, hok]

theorem not_orderFree (h : Ambiguous J rawToken clientID (es 1).now keys) :
    ¬OrderFree J rawToken jwksURL clientID es t keys := by
  obtain ⟨tok, hpass, ⟨entry, hmem, hnamed, hverifies⟩, entry', hmem', hnamed', hbad⟩ := h
  intro hfree
  obtain ⟨ys, hys, hfind⟩ := exists_perm_find? hmem hnamed
  obtain ⟨ys', hys', hfind'⟩ := exists_perm_find? hmem' hnamed'
  have hok : verifiedWith J rawToken jwksURL clientID es t ys = .ok (googleClaims tok.claims) :=
    verifiedWith_ok_iff.mpr ⟨tok, hpass, ⟨entry, hfind, hverifies⟩, rfl⟩
  rw [hfree ys hys, ← hfree ys' hys'] at hok
  obtain ⟨tok', hpass', ⟨first, hfirst, hfirstVerifies⟩, -⟩ := verifiedWith_ok_iff.mp hok
  obtain rfl : tok = tok' := Except.ok.inj (hpass.parsed.symm.trans hpass'.parsed)
  obtain rfl : entry' = first := Option.some.inj (hfind'.symm.trans hfirst)
  exact hbad hfirstVerifies

/-- **The order of the keys.** The result of `VerifyGoogleIDToken` is the same for every order of
the keys, and any RSA entry that verifies the token gets it accepted, exactly when the entries with
the kid of the token agree on its signature or the token fails another check. -/
theorem order_free_iff (J : GolangJwt) (rawToken jwksURL clientID : String) (es : ℕ → Env)
    (t : UsersTable) (keys : List JwkKey) :
    OrderFree J rawToken jwksURL clientID es t keys ∧
        AnyKeyAccepts J rawToken jwksURL clientID es t keys ↔
      ¬Ambiguous J rawToken clientID (es 1).now keys := by
  constructor
  · intro h hambiguous
    exact not_orderFree hambiguous h.1
  · intro h
    exact ⟨orderFree_of_agree h, anyKeyAccepts_of_agree h⟩

namespace Sample

/-- An elliptic-curve key under the kid of the RSA key. -/
def ecJwk : JwkKey := { kid := "k1", kty := "EC", alg := "ES256", n := "", e := "" }

theorem jwk_verifies : jwk.Verifies jwt adaToken := by
  have hgoogle := adaIDToken_signed "https://keys"
  obtain ⟨⟨entry, key, alg, sig, hentry, hverifies⟩, -⟩ :=
    (signed_timely_iff hgoogle.parsed).mp hgoogle.verified
  obtain rfl : entry = jwk := by simpa using List.mem_of_find?_eq_some hentry
  exact ⟨key, alg, sig, hverifies⟩

/-- No sample token was signed for the zero modulus. -/
theorem ecJwk_verifies : ¬ecJwk.Verifies jwt adaToken := by
  intro h
  obtain ⟨key, alg, sig, hkey, -, -, hverify⟩ := h
  have hzero : jwkToRSA ecJwk = .ok { n := 0, e := 0 } := by decide +kernel
  obtain rfl : { n := 0, e := 0 } = key := Except.ok.inj (hzero.symm.trans hkey)
  have hkeys : table.entries.all (fun e => e.key ≠ .rsa { n := 0, e := 0 }) = true := by
    decide +kernel
  obtain ⟨e, he, hmatch⟩ := List.any_eq_true.mp hverify
  have hne := List.all_eq_true.mp hkeys e he
  simp only [Bool.and_eq_true, decide_eq_true_eq] at hmatch hne
  exact hne hmatch.1.1.2

theorem adaToken_passes : PassesOtherChecks jwt adaIDToken.text "sample.apps.googleusercontent.com"
    env.now adaToken := by
  have hgoogle := adaIDToken_signed "https://keys"
  obtain ⟨key, -, hverified⟩ := hgoogle.verified
  obtain ⟨hparsed, -, hexp, hnbf⟩ := jwt.parseWithClaims_ok.mp hverified
  exact ⟨hparsed, hexp, hnbf, hgoogle.issuer, fun _ => sample_audience (.inl rfl)⟩

end Sample

/-- An EC entry before the RSA entry of the same kid gets the token refused. -/
theorem not_orderFree_ec :
    ¬OrderFree Sample.jwt Sample.adaIDToken.text "https://keys"
      "sample.apps.googleusercontent.com" (fun _ => Sample.env) Sample.users
      [Sample.jwk, Sample.ecJwk] :=
  not_orderFree ⟨Sample.adaToken, Sample.adaToken_passes,
    ⟨Sample.jwk, by simp, by decide +kernel, Sample.jwk_verifies⟩,
    Sample.ecJwk, by simp, by decide +kernel, Sample.ecJwk_verifies⟩

end SampleGrpc
