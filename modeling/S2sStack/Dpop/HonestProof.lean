import S2sStack.Dpop.ProofRoundTrip
import S2sStack.Effect.Returns

set_option autoImplicit false

/- A proof of `signDPoP` where nothing fails: a call that it is made for accepts it. -/
namespace S2s

open Effect Effect.Program
open Js (Json Obj)

/-- A process whose key manager has this key and whose signatures are sound. -/
structure SoundSigner (P : Platform) (key : ActiveKey) (trace : List ClientEvent) : Prop where
  held : ∀ reply, ⟨.activeKey, reply⟩ ∈ trace → reply = .ok key
  drawn : ∀ jti, ⟨.randomUUID, jti⟩ ∈ trace → jti ≠ ""
  signs : ∀ header claims signer reply, ⟨.signJwt header claims signer, reply⟩ ∈ trace →
    ∃ proof, reply = .ok proof ∧ SignedJwt P header claims signer proof
  published : P.importJWK (.obj key.publicJwk) (.str "ES256") = .ok key.privateKey.publicKey

theorem SoundSigner.mono {P : Platform} {key : ActiveKey} {trace part : List ClientEvent}
    (signer : SoundSigner P key trace) (inside : part ⊆ trace) : SoundSigner P key part where
  held reply read := signer.held reply (inside read)
  drawn jti drew := signer.drawn jti (inside drew)
  signs header claims key reply signed := signer.signs header claims key reply (inside signed)
  published := signer.published

/-- What `signDPoP` makes of these options with this key. -/
structure HonestProof (P : Platform) (options : SignDPoPOptions) (key : ActiveKey)
    (signedAt : Millis) (proof : DPoPProof) : Prop where
  signed : ∃ ath, athClaim P options.accessToken = .ok ath ∧ SignedJwt P (dpopHeader key)
    (dpopClaims options proof.jti ath signedAt) key.privateKey proof.proof
  named : proof.jti ≠ ""
  published : P.importJWK (.obj key.publicJwk) (.str "ES256") = .ok key.privateKey.publicKey

/-- A sound signer makes a proof of whatever can be hashed. -/
theorem SigningRun.honest {P : Platform} {options : SignDPoPOptions} {trace : List ClientEvent}
    {outcome : Except Fault DPoPProof} {key : ActiveKey} {ath : Obj}
    (run : SigningRun P options trace outcome) (signer : SoundSigner P key trace)
    (hashed : athClaim P options.accessToken = .ok ath) :
    ∃ proof signedAt, outcome = .ok proof ∧ ⟨.date, signedAt⟩ ∈ trace ∧
      HonestProof P options key signedAt proof := by
  cases run with
  | unhashed jti fault failed => cases failed.symm.trans hashed
  | keyless jti ath err hashed => cases signer.held (.error err) (by simp)
  | signed jti ath active signedAt reply hashed =>
      obtain ⟨proof, rfl, signature⟩ := signer.signs _ _ _ _ (List.mem_of_mem_getLast? rfl)
      cases signer.held (.ok active) (by simp)
      exact ⟨{ proof := proof, jti := jti }, signedAt, rfl, by simp, {
        signed := ⟨ath, hashed, signature⟩
        named := signer.drawn jti (by simp)
        published := signer.published }⟩

/-- The call asks for what the proof was made for, and for its key. -/
structure FitsProof (P : Platform) (options : SignDPoPOptions) (key : ActiveKey) (proof : DPoPProof)
    (input : VerifyDPoPInput) (thumbprint : String) : Prop where
  presented : input.dpopProof = proof.proof
  method : options.htm = input.expectedHtm
  url : options.htu = input.expectedHtu
  token : input.expectAth = true → ∃ accessToken, input.accessToken = some accessToken ∧
    options.accessToken = some (.str accessToken)
  computed : P.calculateJwkThumbprint (.obj key.publicJwk) = .ok thumbprint
  bound : checkBinding input thumbprint = .ok ()

/-- The clock is right, the nonce is live, and nobody has claimed the `jti`. -/
structure TakesProof (deps : VerifyDPoPDeps) (nonce : Option String) (signedAt : Millis)
    (jti : String) (trace : List Event) : Prop where
  timely : ∀ nowMs, ⟨.now, nowMs⟩ ∈ trace →
    |(toSeconds nowMs : Rat) - (toSeconds signedAt : Nat)| ≤ deps.tolerance
  live : deps.requireNonce = true → ∃ store text, deps.nonceStore = some store ∧
    nonce = some text ∧ text ≠ "" ∧
    ∀ reply, ⟨.redisDel (store.key text), reply⟩ ∈ trace → reply = .ok 1
  fresh : ∀ ttl reply, ⟨.redisSet (deps.jtiKey (.str jti)) ttl, reply⟩ ∈ trace → reply = .ok true

namespace HonestProof

variable {P : Platform} {options : SignDPoPOptions} {key : ActiveKey} {signedAt : Millis}
  {proof : DPoPProof} {deps : VerifyDPoPDeps} {input : VerifyDPoPInput} {thumbprint : String}
  {trace : List Event}

/-- The checks that need no Redis yield the key and the claims of the proof. -/
theorem checkProof_returns (fits : FitsProof P options key proof input thumbprint)
    (takes : TakesProof deps options.nonce signedAt proof.jti trace) {claims : Obj}
    (lookups : ProofLookups P options proof.jti signedAt claims)
    (signature : SignedJwt P (dpopHeader key) claims key.privateKey proof.proof)
    (published : P.importJWK (.obj key.publicJwk) (.str "ES256") = .ok key.privateKey.publicKey) :
    Returns (· ∈ trace) (fun checked => checked.1 = .obj key.publicJwk ∧ checked.2.claims = claims)
      (checkProof P deps input) := by
  have decoded := signature.header
  rw [← fits.presented] at decoded
  have carried : proofJwk (dpopHeader key) = .ok (.obj key.publicJwk) := rfl
  have imported : importProofKey P (.obj key.publicJwk) = .ok key.privateKey.publicKey :=
    replaceError_eq_ok.mpr published
  have date : Returns (· ∈ trace) (fun _ => True) Act.date :=
    .command fun reply _ => ⟨reply, rfl, trivial⟩
  have now : Returns (· ∈ trace) (fun nowMs => ⟨.now, nowMs⟩ ∈ trace) Act.now :=
    .command fun reply read => ⟨reply, rfl, read⟩
  rw [checkProof]
  refine .ofExcept_bind (replaceError_eq_ok.mpr decoded) (.ofExcept_bind carried
    (.ofExcept_bind imported (date.bind fun currentDate _ => ?_)))
  obtain ⟨payload, verified⟩ := signature.accepted currentDate (lookups.datesHold currentDate)
  obtain ⟨same, -⟩ := signature.read currentDate payload verified
  rw [← fits.presented] at verified
  have named : checkMethodAndUrl input payload = .ok () := by
    rw [checkMethodAndUrl, same, lookups.htm, lookups.htu, fits.method, fits.url]
    exact if_pos ⟨(Js.isText_iff _ _).mpr rfl, (Js.isText_iff _ _).mpr rfl⟩
  refine .ofExcept_bind (replaceError_eq_ok.mpr verified) (.ofExcept_bind named
    (now.bind fun nowMs read => ?_))
  have fresh : checkIat deps payload nowMs = .ok () := by
    rw [checkIat_ok_iff, JwtPayload.dateOrZero, same, lookups.dateOrZero_iat]
    exact takes.timely nowMs read
  have hashed : checkAth P input payload = .ok () := by
    unfold checkAth
    cases expected : input.expectAth with
    | false => rfl
    | true =>
        obtain ⟨token, given, bound⟩ := fits.token expected
        obtain ⟨absent, -⟩ | ⟨signedToken, signed, ath⟩ := lookups.ath
        · cases absent.symm.trans bound
        · cases signed.symm.trans bound
          simp only [given, same, ath, Js.isText, decide_true, Bool.not_true, Bool.false_eq_true,
            ↓reduceIte]
  exact .ofExcept_bind fresh (.ofExcept_bind hashed (.returning ⟨rfl, same⟩))

theorem consumeNonce_returns (takes : TakesProof deps options.nonce signedAt proof.jti trace)
    {payload : JwtPayload} (lookups : ProofLookups P options proof.jti signedAt payload.claims) :
    Returns (· ∈ trace) (fun _ => True) (consumeNonce deps payload) := by
  cases required : deps.requireNonce with
  | false =>
      simp only [consumeNonce, required, Bool.not_false, ↓reduceIte]
      exact .returning trivial
  | true =>
      obtain ⟨store, nonce, present, signed, filled, deletes⟩ := takes.live required
      have echoed : payload.claims.get? "nonce" = some (.str nonce) := by
        rw [lookups.nonce, signed]
        rfl
      have consumes : Returns (· ∈ trace) (· = true) (store.consume nonce) := by
        intro part outcome run events
        obtain ⟨reply, rfl, rfl⟩ := RedisNonceStore.consume_runs_iff.mp run
        rw [deletes reply (events _ List.mem_cons_self)]
        exact ⟨true, rfl, rfl⟩
      simp only [consumeNonce, required, present, echoed, Js.truthy, Json.truthy, Js.toText,
        Json.toText, decide_eq_true filled, Bool.not_true, Bool.false_eq_true, ↓reduceIte]
      refine consumes.bind fun consumed removed => ?_
      rw [removed]
      exact .returning trivial

theorem claimJti_returns (takes : TakesProof deps options.nonce signedAt proof.jti trace)
    {payload : JwtPayload} (lookups : ProofLookups P options proof.jti signedAt payload.claims)
    (named : proof.jti ≠ "") : Returns (· ∈ trace) (fun _ => True) (claimJti deps payload) := by
  have claims : Returns (· ∈ trace) (· = true)
      (Act.redisSet (deps.jtiKey (.str proof.jti)) deps.nonceTtl) :=
    .command fun reply set => ⟨true, takes.fresh _ reply set, rfl⟩
  simp only [claimJti, lookups.jti, Json.truthy, decide_eq_true named, Bool.not_true,
    Bool.false_eq_true, ↓reduceIte]
  refine claims.bind fun claimed stored => ?_
  rw [stored]
  exact .returning trivial

/-- An honest proof is accepted, and its key is reported. -/
theorem accepted (honest : HonestProof P options key signedAt proof)
    (fits : FitsProof P options key proof input thumbprint)
    (takes : TakesProof deps options.nonce signedAt proof.jti trace) :
    Returns (· ∈ trace) (fun result => result.jwkThumbprint = thumbprint)
      (verifyDPoP P deps input) := by
  obtain ⟨ath, hashed, signature⟩ := honest.signed
  have lookups : ProofLookups P options proof.jti signedAt
      (dpopClaims options proof.jti ath signedAt) := dpopClaims_lookups hashed
  refine (checkProof_returns fits takes lookups signature honest.published).bind ?_
  rintro ⟨jwk, payload⟩ ⟨rfl, same⟩
  dsimp only at same
  rw [← same] at lookups
  refine (consumeNonce_returns takes lookups).bind fun _ _ => ?_
  refine (claimJti_returns takes lookups honest.named).bind fun jti _ => ?_
  exact .ofExcept_bind (boundThumbprint_ok_iff.mpr ⟨fits.computed, fits.bound⟩) (.returning rfl)

end HonestProof

end S2s
