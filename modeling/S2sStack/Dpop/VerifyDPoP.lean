import S2sStack.Dpop.Nonce
import Mathlib.Algebra.Order.Group.Unbundled.Abs
import Mathlib.Algebra.Order.Ring.Rat

set_option autoImplicit false

/- `dpop/verifyDPoP.ts` -/
namespace S2s

open Effect Effect.Program
open Js (Json Obj)

structure VerifyDPoPDeps where
  nonceTtlSeconds : Option Nat := none
  iatToleranceSeconds : Option Rat := none
  nonceStore : Option RedisNonceStore := none
  requireNonce : Bool := false
  jtiKeyPrefix : Option String := none

structure VerifyDPoPInput where
  dpopProof : String
  accessToken : Option String := none
  expectedHtm : String
  expectedHtu : String
  /-- `input.expectAth !== false` -/
  expectAth : Bool := true
  expectedJkt : Option String := none
  requireCnfBinding : Bool := false

namespace VerifyDPoPDeps

def nonceTtl (deps : VerifyDPoPDeps) : Nat := deps.nonceTtlSeconds.getD 120

def tolerance (deps : VerifyDPoPDeps) : Rat := deps.iatToleranceSeconds.getD 60

/-- The replay record of a proof's `jti`. -/
def jtiKey (deps : VerifyDPoPDeps) (jti : Json) : String :=
  deps.jtiKeyPrefix.getD "dpop:jti:" ++ jti.toText

end VerifyDPoPDeps

def invalidProof (message : String) : Fault := unauthorized .invalidDpopProof message

/-- `catch { throw fault }` around a library call. -/
def replaceError {α : Type} (fault : Fault) : Except Fault α → Except Fault α
  | .ok value => .ok value
  | .error _ => .error fault

/-- The key a proof header carries, where the header is one of a proof. -/
def proofJwk (header : Obj) : Except Fault Json :=
  match header.get? "jwk" with
  | some jwk =>
      if Js.isText (header.get? "typ") "dpop+jwt" ∧ Js.isText (header.get? "alg") "ES256" ∧
          jwk.truthy then .ok jwk
      else .error (invalidProof "dpop header must be typ=dpop+jwt alg=ES256 with jwk")
  | none => .error (invalidProof "dpop header must be typ=dpop+jwt alg=ES256 with jwk")

def importProofKey (P : Platform) (jwk : Json) : Except Fault PublicKey :=
  replaceError (invalidProof "invalid jwk") (P.importJWK jwk (.str "ES256"))

/-- `jwtVerify(dpopProof, key, { algorithms: ['ES256'] })`, which reads the real clock. -/
def verifyProofSignature (P : Platform) (dpopProof : String) (key : PublicKey)
    (currentDate : Millis) : Except Fault JwtPayload :=
  replaceError (invalidProof "signature verification failed")
    (P.jwtVerify dpopProof key { algorithms := some ["ES256"], currentDate := currentDate })

def checkMethodAndUrl (input : VerifyDPoPInput) (payload : JwtPayload) : Except Fault Unit :=
  if Js.isText (payload.claims.get? "htm") input.expectedHtm ∧
      Js.isText (payload.claims.get? "htu") input.expectedHtu then .ok ()
  else .error (unauthorized .dpopBindingMismatch "htm/htu mismatch")

def checkIat (deps : VerifyDPoPDeps) (payload : JwtPayload) (nowMs : Millis) : Except Fault Unit :=
  if |(toSeconds nowMs : Rat) - payload.dateOrZero "iat"| > deps.tolerance then
    .error (unauthorized .dpopProofExpired
      ("iat outside ±" ++ Js.numberToString deps.tolerance ++ "s"))
  else .ok ()

def checkAth (P : Platform) (input : VerifyDPoPInput) (payload : JwtPayload) : Except Fault Unit :=
  if !input.expectAth then .ok ()
  else
    match input.accessToken with
    | none =>
        .error (plainError "verifyDPoP: accessToken is required when expectAth is not false")
    | some accessToken =>
        if Js.isText (payload.claims.get? "ath") (P.sha256Base64url accessToken.toUTF8) then .ok ()
        else .error (unauthorized .dpopTokenMismatch "ath claim does not match access token hash")

/-- The error that carries a nonce for the next attempt. -/
def nonceChallenge (fresh : String) : Fault :=
  .auth {
    status := 401
    code := .useDpopNonce
    message := "server requires DPoP-Nonce echo"
    challengeNonce := if fresh = "" then none else some fresh }

/-- Issue a nonce and throw it as a challenge. -/
def issueChallenge {α : Type} (store : RedisNonceStore) : Act α := do
  let fresh ← Act.generateDPoPNonce
  -- a collision does not stop the challenge
  let _ ← attempt (store.issue fresh)
  Act.fail (nonceChallenge fresh)

def consumeNonce (deps : VerifyDPoPDeps) (payload : JwtPayload) : Act Unit :=
  if !deps.requireNonce then return ()
  else
    match deps.nonceStore with
    | none => Act.fail (plainError "verifyDPoP: requireNonce=true requires nonceStore dep")
    | some store =>
        let nonce := payload.claims.get? "nonce"
        if !Js.truthy nonce then issueChallenge store
        else do
          let consumed ← store.consume (Js.toText nonce)
          if consumed then return () else issueChallenge store

/-- Record the `jti`; a record that exists is a replay. -/
def claimJti (deps : VerifyDPoPDeps) (payload : JwtPayload) : Act Json :=
  match payload.claims.get? "jti" with
  | some jti =>
      if !jti.truthy then Act.fail (invalidProof "missing jti")
      else do
        let ok ← Act.redisSet (deps.jtiKey jti) deps.nonceTtl
        if ok then return jti else Act.fail (unauthorized .dpopNonceReuse "dpop jti replay")
  | none => Act.fail (invalidProof "missing jti")

/-- The sender constraint of the token against the key of the proof. -/
def checkBinding (input : VerifyDPoPInput) (thumbprint : String) : Except Fault Unit :=
  let unbound := input.expectedJkt = none ∨ input.expectedJkt = some ""
  if input.requireCnfBinding ∧ unbound then
    .error (unauthorized .dpopKeyMismatch
      "access token is not sender-constrained (missing cnf.jkt)")
  else if ¬ unbound ∧ input.expectedJkt ≠ some thumbprint then
    .error (unauthorized .dpopKeyMismatch "dpop key thumbprint does not match token cnf.jkt")
  else .ok ()

/-- The checks that need no Redis; they yield the proof's key and its claims. -/
def checkProof (P : Platform) (deps : VerifyDPoPDeps) (input : VerifyDPoPInput) :
    Act (Json × JwtPayload) := do
  let header ← ofExcept (replaceError (invalidProof "malformed dpop proof header")
    (P.decodeProtectedHeader input.dpopProof))
  let jwk ← ofExcept (proofJwk header)
  let key ← ofExcept (importProofKey P jwk)
  let currentDate ← Act.date
  let payload ← ofExcept (verifyProofSignature P input.dpopProof key currentDate)
  ofExcept (checkMethodAndUrl input payload)
  let nowMs ← Act.now
  ofExcept (checkIat deps payload nowMs)
  ofExcept (checkAth P input payload)
  return (jwk, payload)

/-- The thumbprint of the proof's key, where that is the key the token is bound to. -/
def boundThumbprint (P : Platform) (input : VerifyDPoPInput) (jwk : Json) : Except Fault String :=
  match P.calculateJwkThumbprint jwk with
  | .error err => .error err
  | .ok thumbprint =>
      match checkBinding input thumbprint with
      | .error err => .error err
      | .ok _ => .ok thumbprint

/-- The rest of the verification: nonce, replay record and sender constraint. -/
def finishProof (P : Platform) (deps : VerifyDPoPDeps) (input : VerifyDPoPInput)
    (jwk : Json) (payload : JwtPayload) : Act DPoPVerificationResult := do
  consumeNonce deps payload
  let jti ← claimJti deps payload
  let thumbprint ← ofExcept (boundThumbprint P input jwk)
  return { jti := jti, jwkThumbprint := thumbprint, iat := payload.dateOrZero "iat" }

def verifyDPoP (P : Platform) (deps : VerifyDPoPDeps) (input : VerifyDPoPInput) :
    Act DPoPVerificationResult := do
  let (jwk, payload) ← checkProof P deps input
  finishProof P deps input jwk payload

@[simp] theorem replaceError_eq_ok {α : Type} {fault : Fault} {result : Except Fault α}
    {value : α} : replaceError fault result = .ok value ↔ result = .ok value := by
  cases result <;> simp [replaceError]

theorem checkMethodAndUrl_ok {input : VerifyDPoPInput} {payload : JwtPayload}
    (passed : checkMethodAndUrl input payload = .ok ()) :
    payload.claims.get? "htm" = some (.str input.expectedHtm) ∧
      payload.claims.get? "htu" = some (.str input.expectedHtu) := by
  unfold checkMethodAndUrl at passed
  split at passed
  · rename_i both
    exact ⟨(Js.isText_iff _ _).mp both.1, (Js.isText_iff _ _).mp both.2⟩
  · cases passed

theorem checkIat_ok_iff {deps : VerifyDPoPDeps} {payload : JwtPayload} {nowMs : Millis} :
    checkIat deps payload nowMs = .ok () ↔
      |(toSeconds nowMs : Rat) - payload.dateOrZero "iat"| ≤ deps.tolerance := by
  unfold checkIat
  split
  · rename_i outside
    simp only [reduceCtorEq, false_iff, not_le]
    exact outside
  · rename_i inside
    simp only [true_iff]
    exact not_lt.mp inside

theorem checkAth_ok {P : Platform} {input : VerifyDPoPInput} {payload : JwtPayload}
    (expected : input.expectAth = true) (passed : checkAth P input payload = .ok ()) :
    ∃ accessToken, input.accessToken = some accessToken ∧
      payload.claims.get? "ath" = some (.str (P.sha256Base64url accessToken.toUTF8)) := by
  unfold checkAth at passed
  simp only [expected, Bool.not_true, Bool.false_eq_true, ↓reduceIte] at passed
  split at passed
  · cases passed
  · rename_i accessToken present
    split at passed
    · rename_i hashed
      exact ⟨accessToken, present, (Js.isText_iff _ _).mp hashed⟩
    · cases passed

theorem checkBinding_ok {input : VerifyDPoPInput} {thumbprint : String}
    (required : input.requireCnfBinding = true)
    (passed : checkBinding input thumbprint = .ok ()) :
    input.expectedJkt = some thumbprint ∧ thumbprint ≠ "" := by
  unfold checkBinding at passed
  simp only [required, true_and] at passed
  split at passed
  · cases passed
  · rename_i bound
    split at passed
    · cases passed
    · rename_i matching
      have same : input.expectedJkt = some thumbprint := by
        by_contra other
        exact matching ⟨bound, other⟩
      refine ⟨same, ?_⟩
      intro empty
      exact bound (.inr (by rw [same, empty]))

theorem boundThumbprint_ok_iff {P : Platform} {input : VerifyDPoPInput} {jwk : Json}
    {thumbprint : String} :
    boundThumbprint P input jwk = .ok thumbprint ↔
      P.calculateJwkThumbprint jwk = .ok thumbprint ∧ checkBinding input thumbprint = .ok () := by
  constructor
  · intro bound
    unfold boundThumbprint at bound
    split at bound
    · cases bound
    · rename_i computed
      split at bound
      · cases bound
      · rename_i passed
        cases bound
        exact ⟨computed, passed⟩
  · rintro ⟨computed, passed⟩
    simp only [boundThumbprint, computed, passed]

theorem issueChallenge_not_ok {α : Type} {store : RedisNonceStore} {trace : List Event}
    {value : α} (run : Runs (issueChallenge store) trace (.ok value)) : False := by
  rw [issueChallenge, Act.generateDPoPNonce, runs_reply_bind_iff] at run
  obtain ⟨fresh, rest, rfl, run⟩ := run
  rw [runs_bind_ok] at run
  obtain ⟨_, _, _, _, _, run⟩ := run
  cases (runs_throwing_iff.mp run).2

/-- Where a nonce is required, exactly the nonce of the proof was consumed. -/
theorem consumeNonce_ok {deps : VerifyDPoPDeps} {payload : JwtPayload} {trace : List Event}
    (run : Runs (consumeNonce deps payload) trace (.ok ())) :
    (deps.requireNonce = false ∧ trace = []) ∨
      (deps.requireNonce = true ∧ ∃ store nonce, deps.nonceStore = some store ∧
        payload.claims.get? "nonce" = some nonce ∧
        trace = [⟨.redisDel (store.key nonce.toText), .ok 1⟩]) := by
  unfold consumeNonce at run
  split at run
  · rename_i off
    exact .inl ⟨by simpa using off, (runs_pure_iff.mp run).1⟩
  · rename_i on
    split at run
    · cases (runs_throwing_iff.mp run).2
    · rename_i store present
      dsimp only at run
      split at run
      · exact absurd run issueChallenge_not_ok
      · rename_i echoed
        rw [runs_bind_ok] at run
        obtain ⟨consumed, consuming, after, rfl, consume, run⟩ := run
        obtain ⟨reply, rfl, same⟩ := RedisNonceStore.consume_runs_iff.mp consume
        split at run
        · rename_i removed
          obtain ⟨rfl, _⟩ := runs_pure_iff.mp run
          cases reply with
          | error fault => cases same
          | ok count =>
              simp only [Except.map, Except.ok.injEq] at same
              rw [same, decide_eq_true_eq] at removed
              subst removed
              cases found : payload.claims.get? "nonce" with
              | none => simp [found, Js.truthy] at echoed
              | some nonce =>
                  exact .inr ⟨by simpa using on, store, nonce, present, rfl, rfl⟩
        · exact absurd run issueChallenge_not_ok

theorem claimJti_ok {deps : VerifyDPoPDeps} {payload : JwtPayload} {trace : List Event}
    {jti : Json} (run : Runs (claimJti deps payload) trace (.ok jti)) :
    payload.claims.get? "jti" = some jti ∧ jti.truthy = true ∧
      trace = [⟨.redisSet (deps.jtiKey jti) deps.nonceTtl, .ok true⟩] := by
  unfold claimJti at run
  split at run
  · rename_i found present
    split at run
    · cases (runs_throwing_iff.mp run).2
    · rename_i filled
      rw [runs_bind_ok] at run
      obtain ⟨ok, _, after, rfl, set, run⟩ := run
      rw [Act.runs_redisSet_iff] at set
      subst set
      split at run
      · rename_i claimed
        obtain ⟨rfl, same⟩ := runs_pure_iff.mp run
        cases same
        subst claimed
        exact ⟨present, by simpa using filled, rfl⟩
      · cases (runs_throwing_iff.mp run).2
  · cases (runs_throwing_iff.mp run).2

/-- A challenge is thrown whether or not its nonce could be stored. -/
theorem issueChallenge_runs_iff {α : Type} {store : RedisNonceStore} {trace : List Event}
    {outcome : Except Fault α} :
    Runs (issueChallenge store) trace outcome ↔
      ∃ fresh reply, trace = [⟨.generateDPoPNonce, fresh⟩,
        ⟨.redisSet (store.key fresh) store.ttl, reply⟩] ∧
        outcome = .error (nonceChallenge fresh) := by
  constructor
  · intro run
    rw [issueChallenge, Act.generateDPoPNonce, runs_reply_bind_iff] at run
    obtain ⟨fresh, rest, rfl, run⟩ := run
    obtain ⟨inner, before, after, rfl, issue, tail⟩ := runs_attempt_bind_iff.mp run
    obtain ⟨reply, rfl⟩ := RedisNonceStore.issue_runs issue
    obtain ⟨rfl, rfl⟩ := runs_throwing_iff.mp tail
    exact ⟨fresh, reply, rfl, rfl⟩
  · rintro ⟨fresh, reply, rfl, rfl⟩
    refine Runs.reply_bind ?_
    obtain ⟨inner, issue⟩ := RedisNonceStore.issue_total store fresh reply
    exact Runs.bind (runs_attempt_iff.mpr ⟨inner, issue, rfl⟩) (.done _)

theorem consumeNonce_runs {deps : VerifyDPoPDeps} {store : RedisNonceStore} {payload : JwtPayload}
    {nonce : Json} (required : deps.requireNonce = true) (present : deps.nonceStore = some store)
    (echoed : payload.claims.get? "nonce" = some nonce) (filled : nonce.truthy = true) :
    Runs (consumeNonce deps payload) [⟨.redisDel (store.key nonce.toText), .ok 1⟩] (.ok ()) := by
  unfold consumeNonce
  simp only [required, present, echoed, Js.truthy, filled, Js.toText, Bool.not_true,
    Bool.false_eq_true, ↓reduceIte]
  exact Runs.bind (RedisNonceStore.consume_runs_iff.mpr ⟨.ok 1, rfl, rfl⟩) (.done _)

theorem claimJti_runs {deps : VerifyDPoPDeps} {payload : JwtPayload} {jti : Json}
    (present : payload.claims.get? "jti" = some jti) (filled : jti.truthy = true) :
    Runs (claimJti deps payload) [⟨.redisSet (deps.jtiKey jti) deps.nonceTtl, .ok true⟩]
      (.ok jti) := by
  unfold claimJti
  simp only [present, filled, Bool.not_true, Bool.false_eq_true, ↓reduceIte]
  exact Runs.bind (Act.runs_redisSet_iff.mpr rfl) (.done _)

theorem claimJti_refused {deps : VerifyDPoPDeps} {payload : JwtPayload} {jti : Json}
    (present : payload.claims.get? "jti" = some jti) (filled : jti.truthy = true) :
    Runs (claimJti deps payload) [⟨.redisSet (deps.jtiKey jti) deps.nonceTtl, .ok false⟩]
      (.error (unauthorized .dpopNonceReuse "dpop jti replay")) := by
  unfold claimJti
  simp only [present, filled, Bool.not_true, Bool.false_eq_true, ↓reduceIte]
  exact Runs.bind (Act.runs_redisSet_iff.mpr rfl) (.done _)

/-- What `checkProof` has established about a proof. -/
structure CheckedProof (P : Platform) (deps : VerifyDPoPDeps) (input : VerifyDPoPInput)
    (jwk : Json) (key : PublicKey) (currentDate : Millis) (payload : JwtPayload) (nowMs : Millis) :
    Prop where
  header : ∃ header, P.decodeProtectedHeader input.dpopProof = .ok header ∧
    proofJwk header = .ok jwk
  imported : P.importJWK jwk (.str "ES256") = .ok key
  signature : P.jwtVerify input.dpopProof key
    { algorithms := some ["ES256"], currentDate := currentDate } = .ok payload
  methodAndUrl : checkMethodAndUrl input payload = .ok ()
  fresh : checkIat deps payload nowMs = .ok ()
  ath : checkAth P input payload = .ok ()

theorem checkProof_ok_iff {P : Platform} {deps : VerifyDPoPDeps} {input : VerifyDPoPInput}
    {jwk : Json} {payload : JwtPayload} {trace : List Event} :
    Runs (checkProof P deps input) trace (.ok (jwk, payload)) ↔
      ∃ key currentDate nowMs, CheckedProof P deps input jwk key currentDate payload nowMs ∧
        trace = [⟨.date, currentDate⟩, ⟨.now, nowMs⟩] := by
  constructor
  · intro run
    rw [checkProof, runs_ofExcept_bind_ok] at run
    obtain ⟨header, decoded, run⟩ := run
    rw [runs_ofExcept_bind_ok] at run
    obtain ⟨jwk, carried, run⟩ := run
    rw [runs_ofExcept_bind_ok] at run
    obtain ⟨key, imported, run⟩ := run
    rw [Act.date, runs_reply_bind_iff] at run
    obtain ⟨currentDate, _, rfl, run⟩ := run
    rw [runs_ofExcept_bind_ok] at run
    obtain ⟨payload, verified, run⟩ := run
    rw [runs_ofExcept_bind_ok] at run
    obtain ⟨_, methodAndUrl, run⟩ := run
    rw [Act.now, runs_reply_bind_iff] at run
    obtain ⟨nowMs, _, rfl, run⟩ := run
    rw [runs_ofExcept_bind_ok] at run
    obtain ⟨_, fresh, run⟩ := run
    rw [runs_ofExcept_bind_ok] at run
    obtain ⟨_, ath, run⟩ := run
    obtain ⟨rfl, same⟩ := runs_pure_iff.mp run
    cases same
    exact ⟨key, currentDate, nowMs, {
      header := ⟨header, replaceError_eq_ok.mp decoded, carried⟩
      imported := replaceError_eq_ok.mp imported
      signature := replaceError_eq_ok.mp verified
      methodAndUrl := methodAndUrl
      fresh := fresh
      ath := ath }, rfl⟩
  · rintro ⟨key, currentDate, nowMs, checked, rfl⟩
    obtain ⟨header, decoded, carried⟩ := checked.header
    refine Runs.ofExcept_bind (replaceError_eq_ok.mpr decoded) ?_
    refine Runs.ofExcept_bind carried ?_
    refine Runs.ofExcept_bind (replaceError_eq_ok.mpr checked.imported) ?_
    refine Runs.reply_bind ?_
    refine Runs.ofExcept_bind (replaceError_eq_ok.mpr checked.signature) ?_
    refine Runs.ofExcept_bind checked.methodAndUrl ?_
    refine Runs.reply_bind ?_
    refine Runs.ofExcept_bind checked.fresh ?_
    exact Runs.ofExcept_bind checked.ath (.done _)

/-- A checked proof whose `jti` is claimed and whose key is the expected one. -/
structure AcceptedProof (P : Platform) (deps : VerifyDPoPDeps) (input : VerifyDPoPInput)
    (jwk : Json) (key : PublicKey) (currentDate : Millis) (payload : JwtPayload) (nowMs : Millis)
    (jti : Json) (thumbprint : String) : Prop
    extends CheckedProof P deps input jwk key currentDate payload nowMs where
  jtiClaim : payload.claims.get? "jti" = some jti
  jtiTruthy : jti.truthy = true
  computed : P.calculateJwkThumbprint jwk = .ok thumbprint
  binding : checkBinding input thumbprint = .ok ()

/-- An accepting run reads the clocks, consumes the nonce where one is required, and
claims the `jti`, in this order and with no other event. -/
theorem verifyDPoP_ok {P : Platform} {deps : VerifyDPoPDeps} {input : VerifyDPoPInput}
    {result : DPoPVerificationResult} {trace : List Event}
    (run : Runs (verifyDPoP P deps input) trace (.ok result)) :
    ∃ jwk key currentDate payload nowMs jti thumbprint consuming,
      AcceptedProof P deps input jwk key currentDate payload nowMs jti thumbprint ∧
      Runs (consumeNonce deps payload) consuming (.ok ()) ∧
      trace = ⟨.date, currentDate⟩ :: ⟨.now, nowMs⟩ ::
        (consuming ++ [⟨.redisSet (deps.jtiKey jti) deps.nonceTtl, .ok true⟩]) ∧
      result = { jti := jti, jwkThumbprint := thumbprint, iat := payload.dateOrZero "iat" } := by
  rw [verifyDPoP, runs_bind_ok] at run
  obtain ⟨⟨jwk, payload⟩, _, _, rfl, check, run⟩ := run
  obtain ⟨key, currentDate, nowMs, checked, rfl⟩ := checkProof_ok_iff.mp check
  dsimp only at run
  rw [finishProof, runs_bind_ok] at run
  obtain ⟨_, consuming, _, rfl, consume, run⟩ := run
  rw [runs_bind_ok] at run
  obtain ⟨jti, claiming, _, rfl, claim, run⟩ := run
  rw [runs_ofExcept_bind_ok] at run
  obtain ⟨thumbprint, bound, run⟩ := run
  obtain ⟨computed, binding⟩ := boundThumbprint_ok_iff.mp bound
  obtain ⟨rfl, same⟩ := runs_pure_iff.mp run
  cases same
  obtain ⟨jtiClaim, jtiTruthy, rfl⟩ := claimJti_ok claim
  refine ⟨jwk, key, currentDate, payload, nowMs, jti, thumbprint, consuming, ?_, consume, ?_, rfl⟩
  · exact {
      toCheckedProof := checked
      jtiClaim := jtiClaim
      jtiTruthy := jtiTruthy
      computed := computed
      binding := binding }
  · simp

/-- After the checks a verification is what its rest does. -/
theorem CheckedProof.runs {P : Platform} {deps : VerifyDPoPDeps} {input : VerifyDPoPInput}
    {jwk : Json} {key : PublicKey} {currentDate : Millis} {payload : JwtPayload} {nowMs : Millis}
    (checked : CheckedProof P deps input jwk key currentDate payload nowMs) {trace : List Event}
    {outcome : Except Fault DPoPVerificationResult}
    (rest : Runs (finishProof P deps input jwk payload) trace outcome) :
    Runs (verifyDPoP P deps input) (⟨.date, currentDate⟩ :: ⟨.now, nowMs⟩ :: trace) outcome :=
  Runs.bind (checkProof_ok_iff.mpr ⟨key, currentDate, nowMs, checked, rfl⟩) rest

/-- Conversely a proof that passes every check is accepted, where the nonce is
consumed and the `jti` is new. -/
theorem AcceptedProof.runs {P : Platform} {deps : VerifyDPoPDeps} {input : VerifyDPoPInput}
    {jwk : Json} {key : PublicKey} {currentDate : Millis} {payload : JwtPayload} {nowMs : Millis}
    {jti : Json} {thumbprint : String} {consuming : List Event}
    (accepted : AcceptedProof P deps input jwk key currentDate payload nowMs jti thumbprint)
    (consume : Runs (consumeNonce deps payload) consuming (.ok ())) :
    Runs (verifyDPoP P deps input)
      (⟨.date, currentDate⟩ :: ⟨.now, nowMs⟩ ::
        (consuming ++ [⟨.redisSet (deps.jtiKey jti) deps.nonceTtl, .ok true⟩]))
      (.ok { jti := jti, jwkThumbprint := thumbprint, iat := payload.dateOrZero "iat" }) := by
  apply accepted.toCheckedProof.runs
  refine Runs.bind consume ?_
  rw [← List.append_nil [_]]
  refine Runs.bind (claimJti_runs accepted.jtiClaim accepted.jtiTruthy) ?_
  have bound := boundThumbprint_ok_iff.mpr ⟨accepted.computed, accepted.binding⟩
  exact Runs.ofExcept_bind bound (.done _)

/-- The operations of a proof verification. -/
def isProofOp (requireNonce : Bool) : Op → Prop
  | .date | .now | .redisSet _ _ => True
  | .generateDPoPNonce | .redisDel _ => requireNonce = true
  | _ => False

theorem within_issueChallenge {α : Type} (store : RedisNonceStore) :
    Within (isProofOp true) (issueChallenge store : Act α) := by
  refine Within.bind (Within.command rfl) fun fresh => ?_
  refine Within.bind (Within.attempt ?_) fun _ => Within.done _
  refine Within.bind (Within.command trivial) fun ok => ?_
  split
  · exact Within.done _
  · exact Within.done _

theorem within_consumeNonce (deps : VerifyDPoPDeps) (payload : JwtPayload) :
    Within (isProofOp deps.requireNonce) (consumeNonce deps payload) := by
  unfold consumeNonce
  split
  · exact Within.done _
  · rename_i on
    have required : deps.requireNonce = true := by simpa using on
    rw [required]
    split
    · exact Within.done _
    · dsimp only
      split
      · exact within_issueChallenge _
      · refine Within.bind (Within.bind (Within.command rfl) fun _ => Within.done _)
          fun consumed => ?_
        split
        · exact Within.done _
        · exact within_issueChallenge _

theorem within_claimJti (deps : VerifyDPoPDeps) (payload : JwtPayload) :
    Within (isProofOp deps.requireNonce) (claimJti deps payload) := by
  unfold claimJti
  split
  · split
    · exact Within.done _
    · refine Within.bind (Within.command trivial) fun ok => ?_
      split
      · exact Within.done _
      · exact Within.done _
  · exact Within.done _

/-- The checks only read the two clocks. -/
theorem within_checkProof {allowed : Op → Prop} (date : allowed .date) (now : allowed .now)
    (P : Platform) (deps : VerifyDPoPDeps) (input : VerifyDPoPInput) :
    Within allowed (checkProof P deps input) := by
  refine Within.bind (Within.ofExcept _) fun header => ?_
  refine Within.bind (Within.ofExcept _) fun jwk => ?_
  refine Within.bind (Within.ofExcept _) fun key => ?_
  refine Within.bind (Within.command date) fun currentDate => ?_
  refine Within.bind (Within.ofExcept _) fun payload => ?_
  refine Within.bind (Within.ofExcept _) fun _ => ?_
  refine Within.bind (Within.command now) fun nowMs => ?_
  refine Within.bind (Within.ofExcept _) fun _ => ?_
  exact Within.bind (Within.ofExcept _) fun _ => Within.done _

theorem within_verifyDPoP (P : Platform) (deps : VerifyDPoPDeps) (input : VerifyDPoPInput) :
    Within (isProofOp deps.requireNonce) (verifyDPoP P deps input) := by
  refine Within.bind (within_checkProof trivial trivial P deps input) fun proof => ?_
  refine Within.bind (within_consumeNonce deps proof.2) fun _ => ?_
  refine Within.bind (within_claimJti deps proof.2) fun jti => ?_
  exact Within.bind (Within.ofExcept _) fun _ => Within.done _

end S2s
