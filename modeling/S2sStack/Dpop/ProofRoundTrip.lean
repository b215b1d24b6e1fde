import S2sStack.Client.KeyRotation
import S2sStack.Envelope.RoundTrip

set_option autoImplicit false

/- `dpop/signDPoP.ts` against `dpop/verifyDPoP.ts`: which calls accept a proof of this library. -/
namespace S2s

open Effect Effect.Program
open Js (Json Obj)

/-- The claims of a proof, name by name. -/
structure ProofLookups (P : Platform) (options : SignDPoPOptions) (jti : String) (signedAt : Millis)
    (claims : Obj) : Prop where
  htm : claims.get? "htm" = some (.str options.htm)
  htu : claims.get? "htu" = some (.str options.htu)
  jti : claims.get? "jti" = some (.str jti)
  ath : (options.accessToken = none ∧ claims.get? "ath" = none) ∨
    ∃ token, options.accessToken = some (.str token) ∧
      claims.get? "ath" = some (.str (P.sha256Base64url token.toUTF8))
  nonce : claims.get? "nonce" = options.nonce.map Json.str
  iat : claims.get? "iat" = some (.num (toSeconds signedAt : Nat))
  nbf : claims.get? "nbf" = none
  exp : claims.get? "exp" = none
  queueArn : claims.get? "queue_arn" = none

theorem dpopClaims_lookups {P : Platform} {options : SignDPoPOptions} {jti : String} {ath : Obj}
    {signedAt : Millis} (hashed : athClaim P options.accessToken = .ok ath) :
    ProofLookups P options jti signedAt (dpopClaims options jti ath signedAt) := by
  have token : (options.accessToken = none ∧ ath = []) ∨
      ∃ token, options.accessToken = some (.str token) ∧
        ath = [("ath", .str (P.sha256Base64url token.toUTF8))] := by
    unfold athClaim at hashed
    split at hashed
    · rename_i absent
      cases hashed
      exact .inl ⟨absent, rfl⟩
    · rename_i token present
      cases hashed
      exact .inr ⟨token, present, rfl⟩
    · cases hashed
  obtain ⟨absent, rfl⟩ | ⟨token, present, rfl⟩ := token
  · cases given : options.nonce <;> constructor <;>
      simp [dpopClaims, nonceClaim, Obj.get?, absent, given]
  · cases given : options.nonce <;> constructor <;>
      simp [dpopClaims, nonceClaim, Obj.get?, present, given]

theorem ProofLookups.dateOrZero_iat {P : Platform} {options : SignDPoPOptions} {jti : String}
    {signedAt : Millis} {claims : Obj} (lookups : ProofLookups P options jti signedAt claims) :
    dateOrZero claims "iat" = (toSeconds signedAt : Nat) := by
  simp only [dateOrZero, lookups.iat]

/-- A proof has no date but `iat`. -/
theorem ProofLookups.datesHold {P : Platform} {options : SignDPoPOptions} {jti : String}
    {signedAt : Millis} {claims : Obj} (lookups : ProofLookups P options jti signedAt claims)
    (moment : Millis) : DatesHold claims moment := by
  refine .of_undated ?_ lookups.nbf lookups.exp moment
  intro name member value found
  simp only [List.mem_cons, List.not_mem_nil, or_false] at member
  obtain rfl | rfl | rfl := member
  · rw [lookups.exp] at found
    cases found
  · rw [lookups.nbf] at found
    cases found
  · rw [lookups.iat] at found
    exact ⟨_, (Option.some.inj found).symm⟩

/-- The binding holds for the thumbprint of the key exactly if the expected one is it, or is empty
and need not be there. -/
theorem checkBinding_ok_iff {input : VerifyDPoPInput} {thumbprint : String} :
    checkBinding input thumbprint = .ok () ↔
      (input.requireCnfBinding = true → ∃ jkt, input.expectedJkt = some jkt ∧ jkt ≠ "") ∧
      ∀ jkt, input.expectedJkt = some jkt → jkt ≠ "" → jkt = thumbprint := by
  unfold checkBinding
  cases expected : input.expectedJkt with
  | none => simp
  | some jkt =>
      by_cases empty : jkt = ""
      · simp [empty]
      · simp [empty]

/-- A thread of a process signs a proof, with any rotations of the key before and after it; and
somebody verifies the proof, within the tolerance and before anybody has claimed its `jti`. -/
structure ProofCheck (P : Platform) (Thread : Type) [DecidableEq Thread] where
  initial : Option ActiveKey
  history : History outbound Thread
  signer : Thread
  options : SignDPoPOptions
  proof : DPoPProof
  signs : Runs (signDPoP P options) (history.trace signer) (.ok proof)
  replies : ∀ before step after, history = before ++ step :: after →
    KeyManagerReplies (currentKey initial before) step.event
  /-- the key that is active when the proof is signed -/
  key : ActiveKey
  active : ∀ before step after, history = before ++ step :: after → step.thread = signer →
    step.event.op = .activeKey → currentKey initial before = some key
  identified : ∀ jti, ⟨.randomUUID, jti⟩ ∈ history.trace signer → jti ≠ ""
  signed : ∀ header claims key,
    ⟨.signJwt header claims key, .ok proof.proof⟩ ∈ history.trace signer →
    SignedJwt P header claims key proof.proof
  published : P.importJWK (.obj key.publicJwk) (.str "ES256") = .ok key.privateKey.publicKey
  thumbprint : String
  computed : P.calculateJwkThumbprint (.obj key.publicJwk) = .ok thumbprint
  hashes : Function.Injective P.sha256Base64url
  deps : VerifyDPoPDeps
  input : VerifyDPoPInput
  presented : input.dpopProof = proof.proof
  given : input.expectAth = true → input.accessToken ≠ none
  trace : List Event
  outcome : Except Fault DPoPVerificationResult
  verifies : Runs (verifyDPoP P deps input) trace outcome
  timely : ∀ signedAt nowMs, ⟨.date, signedAt⟩ ∈ history.trace signer → ⟨.now, nowMs⟩ ∈ trace →
    |(toSeconds nowMs : Rat) - (toSeconds signedAt : Nat)| ≤ deps.tolerance
  /-- whether Redis holds a key when a command of the call reaches it -/
  live : String → Bool
  deletes : ∀ key reply, ⟨.redisDel key, reply⟩ ∈ trace → reply = .ok (if live key then 1 else 0)
  sets : ∀ key ttl reply, ⟨.redisSet key ttl, reply⟩ ∈ trace → reply = .ok !live key
  unclaimed : live (deps.jtiKey (.str proof.jti)) = false
  /-- a nonce is 32 random bytes, and no other text is ever issued -/
  drawn : ∀ store, deps.nonceStore = some store → live (store.key "") = false

namespace ProofCheck

variable {P : Platform} {Thread : Type} [DecidableEq Thread] (check : ProofCheck P Thread)

/-- What the call asks for is what was signed. -/
structure Matches : Prop where
  method : check.options.htm = check.input.expectedHtm
  url : check.options.htu = check.input.expectedHtu
  token : check.input.expectAth = true →
    check.options.accessToken = check.input.accessToken.map Json.str
  nonce : check.deps.requireNonce = true → ∃ store nonce, check.deps.nonceStore = some store ∧
    check.options.nonce = some nonce ∧ check.live (store.key nonce) = true
  bound : check.input.requireCnfBinding = true →
    ∃ jkt, check.input.expectedJkt = some jkt ∧ jkt ≠ ""
  key : ∀ jkt, check.input.expectedJkt = some jkt → jkt ≠ "" → jkt = check.thumbprint

variable {check}

theorem key_of_reading {key : ActiveKey}
    (read : ⟨.activeKey, .ok key⟩ ∈ check.history.trace check.signer) : key = check.key := by
  obtain ⟨step, member, own, event⟩ := History.mem_trace.mp read
  obtain ⟨before, after, split⟩ := List.append_of_mem member
  have current := check.active before step after split own (by rw [event])
  have replied := check.replies before step after split
  rw [event, current] at replied
  exact Except.ok.inj replied

/-- What the proof was signed with. -/
theorem exists_signed : ∃ claims signedAt,
    ProofLookups P check.options check.proof.jti signedAt claims ∧ check.proof.jti ≠ "" ∧
    ⟨.date, signedAt⟩ ∈ check.history.trace check.signer ∧
    SignedJwt P (dpopHeader check.key) claims check.key.privateKey check.proof.proof := by
  have run := signDPoP_run check.signs
  generalize shape : check.history.trace check.signer = trace at run
  generalize ended : Except.ok check.proof = outcome at run
  cases run with
  | unhashed jti fault hashed => cases ended
  | keyless jti ath err hashed => cases ended
  | signed jti ath key signedAt reply hashed =>
      cases reply with
      | error err => cases ended
      | ok proof =>
          have same : check.proof = { proof := proof, jti := jti } := Except.ok.inj ended
          have read : key = check.key := check.key_of_reading (by simp [shape])
          have signature := check.signed (dpopHeader key)
            (dpopClaims check.options jti ath signedAt) key.privateKey (by simp [shape, same])
          rw [read] at signature
          refine ⟨_, signedAt, ?_, ?_, by simp, signature⟩
          · rw [same]
            exact dpopClaims_lookups hashed
          · rw [same]
            exact check.identified jti (by simp [shape])

/-- The signature verifies at any moment, and gives the signed claims. -/
theorem exists_payload {claims : Obj} {signedAt : Millis}
    (lookups : ProofLookups P check.options check.proof.jti signedAt claims)
    (signature : SignedJwt P (dpopHeader check.key) claims check.key.privateKey check.proof.proof)
    (moment : Millis) : ∃ payload, payload.claims = claims ∧
      P.jwtVerify check.input.dpopProof check.key.privateKey.publicKey
        { algorithms := some ["ES256"], currentDate := moment } = .ok payload := by
  obtain ⟨payload, verified⟩ := signature.accepted moment (lookups.datesHold moment)
  obtain ⟨same, -⟩ := signature.read moment payload verified
  rw [check.presented]
  exact ⟨payload, same, verified⟩

/-- The hash in the proof is that of the token of the call exactly if the tokens are the same. -/
theorem checkAth_ok_iff {claims : Obj} {signedAt : Millis} {payload : JwtPayload}
    (lookups : ProofLookups P check.options check.proof.jti signedAt claims)
    (same : payload.claims = claims) :
    checkAth P check.input payload = .ok () ↔ (check.input.expectAth = true →
      check.options.accessToken = check.input.accessToken.map Json.str) := by
  unfold checkAth
  rw [same]
  by_cases expected : check.input.expectAth = true
  · simp only [expected, Bool.not_true, Bool.false_eq_true, ↓reduceIte, forall_const]
    obtain ⟨token, present⟩ := Option.ne_none_iff_exists'.mp (check.given expected)
    simp only [present, Option.map_some]
    obtain ⟨absent, unhashed⟩ | ⟨signedToken, bound, hashed⟩ := lookups.ath
    · simp [unhashed, absent, Js.isText]
    · have equal : P.sha256Base64url signedToken.toUTF8 = P.sha256Base64url token.toUTF8 ↔
          signedToken = token := check.hashes.eq_iff.trans String.toByteArray_inj
      simp only [hashed, bound, Js.isText, equal, decide_eq_true_eq, Option.some.injEq,
        Json.str.injEq]
      split
      · rename_i accepted
        exact iff_of_true rfl accepted
      · rename_i refused
        exact iff_of_false (by simp) refused
  · simp [expected]

theorem checkMethodAndUrl_ok_iff {claims : Obj} {signedAt : Millis} {payload : JwtPayload}
    (lookups : ProofLookups P check.options check.proof.jti signedAt claims)
    (same : payload.claims = claims) :
    checkMethodAndUrl check.input payload = .ok () ↔
      check.options.htm = check.input.expectedHtm ∧
        check.options.htu = check.input.expectedHtu := by
  constructor
  · intro passed
    obtain ⟨method, url⟩ := checkMethodAndUrl_ok passed
    rw [same, lookups.htm] at method
    rw [same, lookups.htu] at url
    exact ⟨Json.str.inj (Option.some.inj method), Json.str.inj (Option.some.inj url)⟩
  · rintro ⟨method, url⟩
    have named : Js.isText (payload.claims.get? "htm") check.input.expectedHtm ∧
        Js.isText (payload.claims.get? "htu") check.input.expectedHtu := by
      rw [Js.isText_iff, Js.isText_iff, same, lookups.htm, lookups.htu, method, url]
      exact ⟨rfl, rfl⟩
    exact if_pos named

/-- A nonce that is live is consumed. -/
theorem consumeNonce_passes {claims : Obj} {signedAt : Millis} {payload : JwtPayload}
    (lookups : ProofLookups P check.options check.proof.jti signedAt claims)
    (same : payload.claims = claims) (matching : check.Matches) {part : List Event}
    {outcome : Except Fault Unit} (within : part ⊆ check.trace)
    (run : Runs (consumeNonce check.deps payload) part outcome) : outcome = .ok () := by
  by_cases required : check.deps.requireNonce = true
  · obtain ⟨store, nonce, present, signed, live⟩ := matching.nonce required
    have filled : nonce ≠ "" := by
      rintro rfl
      rw [check.drawn store present] at live
      cases live
    have echoed : payload.claims.get? "nonce" = some (.str nonce) := by
      rw [same, lookups.nonce, signed]
      rfl
    simp only [consumeNonce, required, present, echoed, Js.truthy, Json.truthy, Js.toText,
      Json.toText, decide_eq_true filled, Bool.not_true, Bool.false_eq_true, ↓reduceIte] at run
    rw [runs_bind_iff] at run
    simp only [RedisNonceStore.consume_runs_iff] at run
    obtain ⟨consumed, _, after, rfl, ⟨reply, rfl, removed⟩, rest⟩ |
      ⟨fault, ⟨reply, rfl, removed⟩, -⟩ := run
    · have deleted := check.deletes (store.key nonce) reply (within List.mem_cons_self)
      rw [live] at deleted
      rw [deleted] at removed
      cases removed
      exact (runs_pure_iff.mp rest).2
    · have deleted := check.deletes (store.key nonce) reply (within List.mem_cons_self)
      rw [deleted] at removed
      cases removed
  · simp only [consumeNonce, required, Bool.not_false, ↓reduceIte] at run
    exact (runs_pure_iff.mp run).2

/-- The `jti` can be claimed. -/
theorem claimJti_passes {claims : Obj} {signedAt : Millis} {payload : JwtPayload}
    (lookups : ProofLookups P check.options check.proof.jti signedAt claims)
    (filled : check.proof.jti ≠ "") (same : payload.claims = claims) {part : List Event}
    {outcome : Except Fault Json} (within : part ⊆ check.trace)
    (run : Runs (claimJti check.deps payload) part outcome) :
    outcome = .ok (.str check.proof.jti) := by
  have carried : payload.claims.get? "jti" = some (.str check.proof.jti) := by
    rw [same]
    exact lookups.jti
  simp only [claimJti, carried, Json.truthy, decide_eq_true filled, Bool.not_true,
    Bool.false_eq_true, ↓reduceIte] at run
  rw [runs_bind_iff] at run
  simp only [Act.runs_redisSet_iff] at run
  obtain ⟨claimed, _, after, rfl, rfl, rest⟩ | ⟨fault, rfl, -⟩ := run
  · have stored := check.sets _ _ _ (within List.mem_cons_self)
    rw [check.unclaimed] at stored
    cases stored
    exact (runs_pure_iff.mp rest).2
  · have stored := check.sets _ _ _ (within List.mem_cons_self)
    cases stored

/-- What is accepted was asked for as it was signed, and its key is the signing key. -/
theorem matches_of_accepted {result : DPoPVerificationResult}
    (accepted : check.outcome = .ok result) :
    check.Matches ∧ result.jwkThumbprint = check.thumbprint := by
  obtain ⟨claims, signedAt, lookups, filled, clock, signature⟩ := check.exists_signed
  have run := check.verifies
  rw [accepted] at run
  obtain ⟨jwk, key, currentDate, payload, nowMs, jti, thumbprint, consuming, proof, consume, shape,
    rfl⟩ := verifyDPoP_ok run
  -- the header carries the signing key
  obtain ⟨header, decoded, carried⟩ := proof.header
  rw [check.presented, signature.header] at decoded
  cases decoded
  have own : jwk = .obj check.key.publicJwk := (Except.ok.inj carried).symm
  have imported := proof.imported
  have computed := proof.computed
  rw [own, check.published] at imported
  rw [own, check.computed] at computed
  cases imported
  cases computed
  have same : payload.claims = claims := by
    have verified := proof.signature
    rw [check.presented] at verified
    exact (signature.read currentDate payload verified).1
  obtain ⟨method, url⟩ := (checkMethodAndUrl_ok_iff lookups same).mp proof.methodAndUrl
  obtain ⟨bound, expected⟩ := checkBinding_ok_iff.mp proof.binding
  refine ⟨⟨method, url, (checkAth_ok_iff lookups same).mp proof.ath, ?_, bound, expected⟩, rfl⟩
  intro required
  obtain ⟨off, -⟩ | ⟨-, store, nonce, present, echoed, rfl⟩ := consumeNonce_ok consume
  · rw [off] at required
    cases required
  · rw [same, lookups.nonce] at echoed
    obtain ⟨text, signed, rfl⟩ := Option.map_eq_some_iff.mp echoed
    refine ⟨store, text, present, signed, ?_⟩
    have deleted := check.deletes (store.key text) (.ok 1) (by simp [shape, Json.toText])
    cases live : check.live (store.key text) with
    | true => rfl
    | false =>
        rw [live] at deleted
        cases deleted

/-- A call that asks for what was signed gets past the checks. -/
theorem checkProof_passes {claims : Obj} {signedAt : Millis}
    (lookups : ProofLookups P check.options check.proof.jti signedAt claims)
    (signature : SignedJwt P (dpopHeader check.key) claims check.key.privateKey check.proof.proof)
    (clock : ⟨.date, signedAt⟩ ∈ check.history.trace check.signer) (matching : check.Matches)
    {part : List Event} {outcome : Except Fault (Json × JwtPayload)} (within : part ⊆ check.trace)
    (run : Runs (checkProof P check.deps check.input) part outcome) :
    ∃ payload, payload.claims = claims ∧ outcome = .ok (.obj check.key.publicJwk, payload) := by
  have decoded := signature.header
  rw [← check.presented] at decoded
  have carried : proofJwk (dpopHeader check.key) = .ok (.obj check.key.publicJwk) := rfl
  have imported : importProofKey P (.obj check.key.publicJwk) =
      .ok check.key.privateKey.publicKey := replaceError_eq_ok.mpr check.published
  rw [checkProof, runs_ofExcept_bind_iff (replaceError_eq_ok.mpr decoded),
    runs_ofExcept_bind_iff carried, runs_ofExcept_bind_iff imported, Act.date,
    runs_reply_bind_iff] at run
  obtain ⟨currentDate, _, rfl, run⟩ := run
  obtain ⟨payload, same, verified⟩ := exists_payload lookups signature currentDate
  have named := (checkMethodAndUrl_ok_iff lookups same).mpr ⟨matching.method, matching.url⟩
  have verifying : verifyProofSignature P check.input.dpopProof check.key.privateKey.publicKey
      currentDate = .ok payload := replaceError_eq_ok.mpr verified
  rw [runs_ofExcept_bind_iff verifying, runs_ofExcept_bind_iff named, Act.now,
    runs_reply_bind_iff] at run
  obtain ⟨nowMs, _, rfl, run⟩ := run
  have fresh : checkIat check.deps payload nowMs = .ok () := by
    rw [checkIat_ok_iff, JwtPayload.dateOrZero, same, lookups.dateOrZero_iat]
    exact check.timely signedAt nowMs clock (within (by simp))
  have hashed := (checkAth_ok_iff lookups same).mpr matching.token
  rw [runs_ofExcept_bind_iff fresh, runs_ofExcept_bind_iff hashed] at run
  exact ⟨payload, same, (runs_pure_iff.mp run).2⟩

/-- A call that asks for what was signed accepts the proof. -/
theorem accepts_of_matches (matching : check.Matches) : ∃ result, check.outcome = .ok result := by
  obtain ⟨claims, signedAt, lookups, filled, clock, signature⟩ := check.exists_signed
  have run := check.verifies
  rw [verifyDPoP, runs_bind_iff] at run
  obtain ⟨proof, checking, rest, split, checked, run⟩ | ⟨fault, checked, -⟩ := run
  · have whole : checking ++ rest ⊆ check.trace := by
      rw [← split]
      exact List.Subset.refl _
    rw [List.append_subset] at whole
    obtain ⟨payload, same, passed⟩ :=
      checkProof_passes lookups signature clock matching whole.1 checked
    cases passed
    dsimp only at run
    rw [finishProof, runs_bind_iff] at run
    obtain ⟨_, consuming, later, rfl, consume, run⟩ | ⟨fault, consume, -⟩ := run
    · rw [List.append_subset] at whole
      rw [runs_bind_iff] at run
      obtain ⟨jti, claiming, last, rfl, claim, run⟩ | ⟨fault, claim, -⟩ := run
      · have bound : boundThumbprint P check.input (.obj check.key.publicJwk) =
            .ok check.thumbprint := by
          apply boundThumbprint_ok_iff.mpr
          exact ⟨check.computed, checkBinding_ok_iff.mpr ⟨matching.bound, matching.key⟩⟩
        rw [runs_ofExcept_bind_iff bound] at run
        exact ⟨_, (runs_pure_iff.mp run).2⟩
      · cases claimJti_passes lookups filled same whole.2.2 claim
    · cases consumeNonce_passes lookups same matching whole.2 consume
  · obtain ⟨_, -, passed⟩ :=
      checkProof_passes lookups signature clock matching (List.Subset.refl _) checked
    cases passed

/-- A proof is accepted exactly by the calls that ask for what was signed, whatever rotations there
are; and the thumbprint they report is that of the signing key. -/
theorem accepts_iff : ((∃ result, check.outcome = .ok result) ↔ check.Matches) ∧
    ∀ result, check.outcome = .ok result → result.jwkThumbprint = check.thumbprint := by
  refine ⟨⟨?_, accepts_of_matches⟩, ?_⟩
  · rintro ⟨result, accepted⟩
    exact (matches_of_accepted accepted).1
  · intro result accepted
    exact (matches_of_accepted accepted).2

end ProofCheck

section RotatedSigner

def signedOptions : SignDPoPOptions where
  accessToken := some (.str "access-token")
  htm := "POST"
  htu := "https://ledger.internal/api/ledger/entries"
  nonce := some "nonce-1"

def signedProofClaims : Obj :=
  dpopClaims signedOptions "jti-1" [("ath", .str (hexDigest "access-token".toUTF8))] 1000000

def signedProofTable : TokenTable where
  tokens := [⟨"proof", dpopHeader firstKey,
    JwtPayload.ofClaims signedProofClaims (by decide +kernel), ⟨1⟩⟩]

def proofSigning : List ClientEvent := [⟨.randomUUID, "jti-1"⟩, ⟨.activeKey, .ok firstKey⟩,
  ⟨.date, 1000000⟩, ⟨.signJwt (dpopHeader firstKey) signedProofClaims ⟨1⟩, .ok "proof"⟩]

/-- The key is rotated right after the proof is signed. -/
def rotatedHistory : History outbound PostingThread :=
  proofSigning.map (Step.mk .posting 0) ++ rotationTrace.map (Step.mk .rotating 0)

theorem rotatedHistory_trace : rotatedHistory.trace .posting = proofSigning := by
  simp only [rotatedHistory, History.trace_append, History.trace_of_thread, ↓reduceIte,
    reduceCtorEq, List.append_nil]

theorem proofSigning_runs : Runs (signDPoP signedProofTable.hashing signedOptions) proofSigning
    (.ok { proof := "proof", jti := "jti-1" }) := by
  refine Runs.reply_bind ?_
  refine Runs.ofExcept_bind rfl ?_
  exact .call _ (.call _ (.call _ (.done _)))

theorem rotatedHistory_replies : Along (fun before step =>
    KeyManagerReplies (currentKey (some firstKey) before) step.event) [] rotatedHistory :=
  ⟨trivial, rfl, trivial, trivial, rfl, trivial, trivial, trivial⟩

theorem rotatedHistory_active : Along (fun before step => step.event.op = .activeKey →
    currentKey (some firstKey) before = some firstKey) [] rotatedHistory :=
  ⟨nofun, fun _ => rfl, nofun, nofun, nofun, nofun, nofun, trivial⟩

theorem signedProof_lookups :
    ProofLookups signedProofTable.hashing signedOptions "jti-1" 1000000 signedProofClaims :=
  dpopClaims_lookups rfl

theorem signedProof_signed : SignedJwt signedProofTable.hashing (dpopHeader firstKey)
    signedProofClaims ⟨1⟩ "proof" where
  header := rfl
  accepted _ _ := ⟨_, rfl⟩
  read moment payload verified := by
    cases verified
    exact ⟨rfl, signedProof_lookups.datesHold moment⟩

def strictDeps : VerifyDPoPDeps where
  nonceStore := some {}
  requireNonce := true

def strictInput : VerifyDPoPInput where
  dpopProof := "proof"
  accessToken := some "access-token"
  expectedHtm := "POST"
  expectedHtu := "https://ledger.internal/api/ledger/entries"
  expectedJkt := some "thumbprint-1"
  requireCnfBinding := true

def strictServices : SteadyServices where
  moment := 1000000
  keys _ := []
  signing := { privateKey := ⟨7⟩, publicJwk := [], kid := "" }
  signed := ""

theorem strictVerification_trace :
    strictServices.trace (verifyDPoP signedProofTable.hashing strictDeps strictInput) =
      [⟨.date, 1000000⟩, ⟨.now, 1000000⟩, ⟨.redisDel "dpop:nonce:nonce-1", .ok 1⟩,
        ⟨.redisSet "dpop:jti:jti-1" 120, .ok true⟩] := by
  decide +kernel

/-- Both clocks read the same second. -/
theorem strictVerification_timely (signedAt nowMs : Millis)
    (signs : ⟨.date, signedAt⟩ ∈ rotatedHistory.trace .posting)
    (reads : ⟨.now, nowMs⟩ ∈
      strictServices.trace (verifyDPoP signedProofTable.hashing strictDeps strictInput)) :
    |(toSeconds nowMs : Rat) - (toSeconds signedAt : Nat)| ≤ strictDeps.tolerance := by
  rw [rotatedHistory_trace] at signs
  rw [strictVerification_trace] at reads
  simp only [proofSigning, List.mem_cons, Effect.Event.mk.injEq, reduceCtorEq, false_and,
    false_or, or_false, true_and, heq_eq_eq, List.not_mem_nil] at signs reads
  rw [signs, reads]
  decide +kernel

def rotatedCheck : ProofCheck signedProofTable.hashing PostingThread where
  initial := some firstKey
  history := rotatedHistory
  signer := .posting
  options := signedOptions
  proof := { proof := "proof", jti := "jti-1" }
  signs := by
    rw [rotatedHistory_trace]
    exact proofSigning_runs
  replies _ _ _ split := rotatedHistory_replies.at_split split
  key := firstKey
  active _ _ _ split _ reads := rotatedHistory_active.at_split split reads
  identified := by
    rw [rotatedHistory_trace]
    simp [proofSigning]
  signed := by
    intro header claims key member
    rw [rotatedHistory_trace] at member
    simp only [proofSigning, List.mem_cons, Effect.Event.mk.injEq, reduceCtorEq, false_and,
      false_or, List.not_mem_nil, or_false, ClientOp.signJwt.injEq] at member
    obtain ⟨⟨rfl, rfl, rfl⟩, -⟩ := member
    exact signedProof_signed
  published := rfl
  thumbprint := "thumbprint-1"
  computed := rfl
  hashes := hexDigest_injective
  deps := strictDeps
  input := strictInput
  presented := rfl
  given := by simp [strictInput]
  trace := strictServices.trace (verifyDPoP signedProofTable.hashing strictDeps strictInput)
  outcome := strictServices.outcome (verifyDPoP signedProofTable.hashing strictDeps strictInput)
  verifies := SteadyServices.runs _ _
  timely := strictVerification_timely
  live key := key = "dpop:nonce:nonce-1"
  deletes := by
    rw [strictVerification_trace]
    simp
  sets := by
    rw [strictVerification_trace]
    intro key ttl reply member
    simp only [List.mem_cons, Effect.Event.mk.injEq, reduceCtorEq, false_and, false_or,
      List.not_mem_nil, or_false, Op.redisSet.injEq] at member
    obtain ⟨⟨rfl, rfl⟩, same⟩ := member
    cases same
    rfl
  unclaimed := by decide
  drawn := by
    rintro store same
    cases same
    decide

/-- The proof is accepted after the rotation, as one of the key that has been replaced. -/
theorem rotatedCheck_accepted : (∃ result, rotatedCheck.outcome = .ok result) ∧
    ∀ result, rotatedCheck.outcome = .ok result → result.jwkThumbprint = "thumbprint-1" := by
  refine ⟨rotatedCheck.accepts_iff.1.mpr ?_, rotatedCheck.accepts_iff.2⟩
  exact {
    method := rfl
    url := rfl
    token := fun _ => rfl
    nonce := fun _ => ⟨{}, "nonce-1", rfl, rfl, rfl⟩
    bound := fun _ => ⟨"thumbprint-1", rfl, by decide⟩
    key := by
      rintro jkt same -
      exact (Option.some.inj same).symm }

end RotatedSigner

end S2s
