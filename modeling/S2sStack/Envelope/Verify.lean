import S2sStack.Envelope.Sign
import Mathlib.Algebra.Order.Ring.Rat

set_option autoImplicit false

/- `envelope/verifyEnvelope.ts` -/
namespace S2s

open Effect Effect.Program
open Js (Json Obj)

inductive StalenessQueueType where
  | sqsStandard
  | sqsFifo
  | dlq
  | eventbridge
  deriving DecidableEq, Repr

/-- `DEFAULT_STALENESS` -/
def StalenessQueueType.defaultStaleness : StalenessQueueType → Nat
  | sqsStandard => 15 * 60
  | sqsFifo => 5 * 60
  | dlq => 24 * 60 * 60
  | eventbridge => 15 * 60

structure VerifyEnvelopeOptions where
  expectedQueueArn : String
  queueType : Option StalenessQueueType := none
  stalenessThresholdSeconds : Option Rat := none
  skipDedup : Bool := false

def VerifyEnvelopeOptions.threshold (options : VerifyEnvelopeOptions) : Rat :=
  options.stalenessThresholdSeconds.getD
    ((options.queueType.getD .sqsStandard).defaultStaleness : Nat)

structure VerifiedEnvelope where
  principal : String
  action : String
  claims : Obj
  verifiedAt : Millis

/-- The key that the envelope itself carries. -/
def envelopeKey (P : Platform) (envelope : String) : Except Fault PublicKey :=
  match P.decodeProtectedHeader envelope with
  | .error err => .error err
  | .ok header =>
      match header.get? "jwk" with
      | some jwk =>
          if jwk.truthy then P.importJWK jwk (.str "ES256")
          else .error (plainError "envelope header missing jwk")
      | none => .error (plainError "envelope header missing jwk")

def checkQueueArn (options : VerifyEnvelopeOptions) (claims : Obj) : Except Fault Unit :=
  if Js.isText (claims.get? "queue_arn") options.expectedQueueArn then .ok ()
  else .error (plainError ("queue_arn mismatch: expected " ++ options.expectedQueueArn ++ " got " ++
    Js.toText (claims.get? "queue_arn")))

def checkBodyHash (P : Platform) (payload : EnvelopePayload) (claims : Obj) : Except Fault Unit :=
  match payloadBytes P payload with
  | .error err => .error err
  | .ok bytes =>
      if Js.isText (claims.get? "body_hash") (P.sha256Base64url bytes) then .ok ()
      else .error (plainError "body_hash mismatch — payload tampered or out of order")

def checkStaleness (options : VerifyEnvelopeOptions) (claims : Obj) (nowMs : Millis) :
    Except Fault Unit :=
  let iat := dateOrZero claims "iat"
  if (toSeconds nowMs : Rat) - iat > options.threshold then
    .error (plainError ("envelope is stale (iat " ++ Js.numberToString iat ++ ", threshold " ++
      Js.numberToString options.threshold ++ "s)"))
  else .ok ()

def dedup (dedupTtlSeconds : Nat) (options : VerifyEnvelopeOptions) (claims : Obj) : Act Unit :=
  if options.skipDedup then return ()
  else do
    let ok ← Act.redisSet ("env:jti:" ++ Js.toText (claims.get? "jti")) dedupTtlSeconds
    if ok then return () else Act.fail (plainError "envelope dedup detected jti replay")

def verifyEnvelope (P : Platform) (dedupTtlSeconds : Nat) (envelope : String)
    (payload : EnvelopePayload) (options : VerifyEnvelopeOptions) : Act VerifiedEnvelope := do
  let key ← ofExcept (envelopeKey P envelope)
  let currentDate ← Act.date
  let verified ← ofExcept
    (P.jwtVerify envelope key { algorithms := some ["ES256"], currentDate := currentDate })
  let claims := verified.claims
  ofExcept (checkQueueArn options claims)
  ofExcept (checkBodyHash P payload claims)
  let nowMs ← Act.now
  ofExcept (checkStaleness options claims nowMs)
  dedup dedupTtlSeconds options claims
  let verifiedAt ← Act.now
  return {
    principal := Js.toText (claims.get? "iss")
    action := Js.toText (claims.get? "action")
    claims := claims
    verifiedAt := verifiedAt }

/-- What an envelope passes in front of the replay check. -/
structure CheckedEnvelope (P : Platform) (envelope : String) (payload : EnvelopePayload)
    (options : VerifyEnvelopeOptions) (currentDate nowMs : Millis) (signed : JwtPayload) : Prop where
  signature : ∃ key, envelopeKey P envelope = .ok key ∧
    P.jwtVerify envelope key { algorithms := some ["ES256"], currentDate := currentDate } =
      .ok signed
  queue : checkQueueArn options signed.claims = .ok ()
  body : checkBodyHash P payload signed.claims = .ok ()
  fresh : checkStaleness options signed.claims nowMs = .ok ()

section Verify

variable {P : Platform} {dedupTtlSeconds : Nat} {envelope : String} {payload : EnvelopePayload}
  {options : VerifyEnvelopeOptions} {trace : List Event}

theorem checkQueueArn_ok_iff {claims : Obj} : checkQueueArn options claims = .ok () ↔
    claims.get? "queue_arn" = some (.str options.expectedQueueArn) := by
  rw [← Js.isText_iff, checkQueueArn]
  simp

theorem checkBodyHash_ok_iff {claims : Obj} : checkBodyHash P payload claims = .ok () ↔
    ∃ bytes, payloadBytes P payload = .ok bytes ∧
      claims.get? "body_hash" = some (.str (P.sha256Base64url bytes)) := by
  unfold checkBodyHash
  cases payloadBytes P payload with
  | error err => simp
  | ok bytes =>
      simp only [Except.ok.injEq, exists_eq_left', ← Js.isText_iff]
      split
      · rename_i hashed
        exact iff_of_true rfl hashed
      · rename_i different
        exact iff_of_false (by simp) different

theorem checkStaleness_ok_iff {claims : Obj} {nowMs : Millis} :
    checkStaleness options claims nowMs = .ok () ↔
      (toSeconds nowMs : Rat) - dateOrZero claims "iat" ≤ options.threshold := by
  simp only [checkStaleness]
  split
  · rename_i stale
    exact iff_of_false (by simp) (not_le.mpr stale)
  · rename_i fresh
    exact iff_of_true rfl (not_lt.mp fresh)

/-- The key of the replay record of these claims. -/
def dedupKey (claims : Obj) : String := "env:jti:" ++ Js.toText (claims.get? "jti")

theorem dedup_ok_iff {claims : Obj} (dedups : options.skipDedup = false) :
    Runs (dedup dedupTtlSeconds options claims) trace (.ok ()) ↔
      trace = [⟨.redisSet (dedupKey claims) dedupTtlSeconds, .ok true⟩] := by
  simp only [dedup, dedups, Bool.false_eq_true, ↓reduceIte]
  rw [runs_bind_ok]
  constructor
  · rintro ⟨claimed, _, _, rfl, set, rest⟩
    rw [Act.runs_redisSet_iff] at set
    cases claimed with
    | true => rw [set, (runs_pure_iff.mp rest).1, List.append_nil, dedupKey]
    | false => cases (runs_throwing_iff.mp rest).2
  · rintro rfl
    exact ⟨true, _, [], (List.append_nil _).symm, Act.runs_redisSet_iff.mpr rfl, .done _⟩

/-- An accepted envelope has passed all checks, at the clock readings of the call. -/
theorem verifyEnvelope_ok {verified : VerifiedEnvelope}
    (run : Runs (verifyEnvelope P dedupTtlSeconds envelope payload options) trace (.ok verified)) :
    ∃ currentDate nowMs signed deduping verifiedAt,
      CheckedEnvelope P envelope payload options currentDate nowMs signed ∧
      trace = ⟨.date, currentDate⟩ :: ⟨.now, nowMs⟩ :: deduping ++ [⟨.now, verifiedAt⟩] ∧
      Runs (dedup dedupTtlSeconds options signed.claims) deduping (.ok ()) ∧
      verified = {
        principal := Js.toText (signed.claims.get? "iss")
        action := Js.toText (signed.claims.get? "action")
        claims := signed.claims
        verifiedAt := verifiedAt } := by
  rw [verifyEnvelope, runs_ofExcept_bind_ok] at run
  obtain ⟨key, carried, run⟩ := run
  rw [Act.date, runs_reply_bind_iff] at run
  obtain ⟨currentDate, _, rfl, run⟩ := run
  rw [runs_ofExcept_bind_ok] at run
  obtain ⟨signed, signature, run⟩ := run
  dsimp only at run
  rw [runs_ofExcept_bind_ok] at run
  obtain ⟨_, queue, run⟩ := run
  rw [runs_ofExcept_bind_ok] at run
  obtain ⟨_, body, run⟩ := run
  rw [Act.now, runs_reply_bind_iff] at run
  obtain ⟨nowMs, _, rfl, run⟩ := run
  rw [runs_ofExcept_bind_ok] at run
  obtain ⟨_, fresh, run⟩ := run
  rw [runs_bind_ok] at run
  obtain ⟨_, deduping, _, rfl, dedup, run⟩ := run
  rw [runs_reply_bind_iff] at run
  obtain ⟨verifiedAt, _, rfl, run⟩ := run
  obtain ⟨rfl, same⟩ := runs_pure_iff.mp run
  cases same
  exact ⟨currentDate, nowMs, signed, deduping, verifiedAt, ⟨⟨key, carried, signature⟩, queue, body,
    fresh⟩, rfl, dedup, rfl⟩

/-- The replay check and the result of an envelope that passed all other checks. -/
def admitEnvelope (dedupTtlSeconds : Nat) (options : VerifyEnvelopeOptions) (claims : Obj) :
    Act VerifiedEnvelope := do
  dedup dedupTtlSeconds options claims
  let verifiedAt ← Act.now
  return {
    principal := Js.toText (claims.get? "iss")
    action := Js.toText (claims.get? "action")
    claims := claims
    verifiedAt := verifiedAt }

theorem CheckedEnvelope.runs_iff {currentDate nowMs : Millis} {signed : JwtPayload}
    {outcome : Except Fault VerifiedEnvelope}
    (checked : CheckedEnvelope P envelope payload options currentDate nowMs signed) :
    Runs (verifyEnvelope P dedupTtlSeconds envelope payload options)
        (⟨.date, currentDate⟩ :: ⟨.now, nowMs⟩ :: trace) outcome ↔
      Runs (admitEnvelope dedupTtlSeconds options signed.claims) trace outcome := by
  obtain ⟨key, carried, signature⟩ := checked.signature
  rw [verifyEnvelope, runs_ofExcept_bind_iff carried, Act.date, runs_reply_bind_cons_iff,
    runs_ofExcept_bind_iff signature]
  dsimp only
  rw [runs_ofExcept_bind_iff checked.queue, runs_ofExcept_bind_iff checked.body, Act.now,
    runs_reply_bind_cons_iff, runs_ofExcept_bind_iff checked.fresh]
  rfl

/-- The replay record alone decides on a checked envelope. -/
theorem runs_admitEnvelope {claims : Obj} {outcome : Except Fault VerifiedEnvelope}
    (dedups : options.skipDedup = false)
    (run : Runs (admitEnvelope dedupTtlSeconds options claims) trace outcome) :
    ∃ reply rest, trace = ⟨.redisSet (dedupKey claims) dedupTtlSeconds, reply⟩ :: rest ∧
      (reply = .ok true ↔ ∃ verified, outcome = .ok verified) ∧
      ∀ event ∈ rest, event.op = .now := by
  rw [admitEnvelope, runs_bind_iff] at run
  rcases run with ⟨_, deduping, rest, rfl, dedup, run⟩ | ⟨fault, dedup, rfl⟩
  · rw [dedup_ok_iff dedups] at dedup
    subst dedup
    obtain ⟨verifiedAt, _, rfl, reading⟩ := runs_reply_bind_iff.mp run
    obtain ⟨rfl, rfl⟩ := runs_pure_iff.mp reading
    refine ⟨.ok true, _, rfl, iff_of_true rfl ⟨_, rfl⟩, ?_⟩
    intro event member
    rw [List.mem_singleton.mp member]
  · simp only [S2s.dedup, dedups, Bool.false_eq_true, ↓reduceIte] at dedup
    rcases runs_bind_iff.mp dedup with ⟨claimed, _, rest, rfl, set, refused⟩ | ⟨_, set, _⟩
    · rw [Act.runs_redisSet_iff] at set
      cases claimed with
      | true => cases (runs_pure_iff.mp refused).2
      | false =>
          rw [(runs_throwing_iff.mp refused).1, set]
          exact ⟨.ok false, [], rfl, by simp, by simp⟩
    · rw [Act.runs_redisSet_iff] at set
      exact ⟨.error _, [], set, by simp, by simp⟩

/-- What `verifyEnvelope` checks of an envelope with these claims: the signature, the queue, the
body and the age, and Redis stores a new replay record unless the caller skips it. -/
def PassesChecks (P : Platform) (dedupTtlSeconds : Nat) (envelope : String)
    (payload : EnvelopePayload) (options : VerifyEnvelopeOptions) (trace : List Event)
    (signed : JwtPayload) : Prop :=
  ∃ currentDate nowMs rest, trace = ⟨.date, currentDate⟩ :: ⟨.now, nowMs⟩ :: rest ∧
    CheckedEnvelope P envelope payload options currentDate nowMs signed ∧
    (options.skipDedup = false → ∃ after,
      rest = ⟨.redisSet (dedupKey signed.claims) dedupTtlSeconds, .ok true⟩ :: after)

theorem PassesChecks.append {signed : JwtPayload}
    (passes : PassesChecks P dedupTtlSeconds envelope payload options trace signed)
    (more : List Event) :
    PassesChecks P dedupTtlSeconds envelope payload options (trace ++ more) signed := by
  obtain ⟨currentDate, nowMs, rest, rfl, checked, record⟩ := passes
  refine ⟨currentDate, nowMs, rest ++ more, rfl, checked, fun dedups => ?_⟩
  obtain ⟨after, rfl⟩ := record dedups
  exact ⟨after ++ more, rfl⟩

theorem PassesChecks.unique {first second : JwtPayload}
    (passesFirst : PassesChecks P dedupTtlSeconds envelope payload options trace first)
    (passesSecond : PassesChecks P dedupTtlSeconds envelope payload options trace second) :
    first = second := by
  obtain ⟨currentDate, nowMs, rest, rfl, checkedFirst, _⟩ := passesFirst
  obtain ⟨_, _, _, same, checkedSecond, _⟩ := passesSecond
  cases same
  obtain ⟨key, carried, verifiesFirst⟩ := checkedFirst.signature
  obtain ⟨_, carriedSame, verifiesSecond⟩ := checkedSecond.signature
  rw [carried] at carriedSame
  cases carriedSame
  rw [verifiesFirst] at verifiesSecond
  exact Except.ok.inj verifiesSecond

theorem admitEnvelope_ok {claims : Obj} {outcome : Except Fault VerifiedEnvelope}
    (run : Runs (admitEnvelope dedupTtlSeconds options claims) trace outcome)
    (record : options.skipDedup = false → ∃ after,
      trace = ⟨.redisSet (dedupKey claims) dedupTtlSeconds, .ok true⟩ :: after) :
    ∃ verified, outcome = .ok verified := by
  cases dedups : options.skipDedup with
  | false =>
      obtain ⟨after, rfl⟩ := record dedups
      obtain ⟨reply, rest, shape, accepted, _⟩ := runs_admitEnvelope dedups run
      cases shape
      exact accepted.mp rfl
  | true =>
      rw [admitEnvelope, dedup, if_pos dedups] at run
      obtain ⟨verifiedAt, _, rfl, reading⟩ := runs_reply_bind_iff.mp run
      exact ⟨_, (runs_pure_iff.mp reading).2⟩

theorem passesChecks_of_verified {verified : VerifiedEnvelope}
    (run : Runs (verifyEnvelope P dedupTtlSeconds envelope payload options) trace (.ok verified)) :
    ∃ signed, PassesChecks P dedupTtlSeconds envelope payload options trace signed ∧
      Js.toText (signed.claims.get? "iss") = verified.principal := by
  obtain ⟨currentDate, nowMs, signed, deduping, verifiedAt, checked, rfl, deduped, rfl⟩ :=
    verifyEnvelope_ok run
  refine ⟨signed, ⟨currentDate, nowMs, _, rfl, checked, fun dedups => ?_⟩, rfl⟩
  rw [(dedup_ok_iff dedups).mp deduped]
  exact ⟨_, rfl⟩

/-- An envelope is accepted exactly if it passes the checks, under the name in its `iss`. -/
theorem verifyEnvelope_accepts_iff {outcome : Except Fault VerifiedEnvelope}
    (run : Runs (verifyEnvelope P dedupTtlSeconds envelope payload options) trace outcome)
    (principal : String) :
    (∃ verified, outcome = .ok verified ∧ verified.principal = principal) ↔
      ∃ signed, PassesChecks P dedupTtlSeconds envelope payload options trace signed ∧
        Js.toText (signed.claims.get? "iss") = principal := by
  constructor
  · rintro ⟨verified, rfl, rfl⟩
    exact passesChecks_of_verified run
  · rintro ⟨signed, passes, rfl⟩
    have accepted : ∃ verified, outcome = .ok verified := by
      obtain ⟨currentDate, nowMs, rest, rfl, checked, record⟩ := passes
      exact admitEnvelope_ok (checked.runs_iff.mp run) record
    obtain ⟨verified, rfl⟩ := accepted
    obtain ⟨again, passesAgain, named⟩ := passesChecks_of_verified run
    exact ⟨verified, rfl, by rw [← named, passes.unique passesAgain]⟩

/-- Only a checked envelope claims a replay record. -/
theorem checked_of_claim {outcome : Except Fault VerifiedEnvelope} {key : String} {ttl : Nat}
    {reply : Except Fault Bool}
    (run : Runs (verifyEnvelope P dedupTtlSeconds envelope payload options) trace outcome)
    (claim : ⟨.redisSet key ttl, reply⟩ ∈ trace) :
    ∃ currentDate nowMs signed rest, trace = ⟨.date, currentDate⟩ :: ⟨.now, nowMs⟩ :: rest ∧
      CheckedEnvelope P envelope payload options currentDate nowMs signed ∧
      Runs (admitEnvelope dedupTtlSeconds options signed.claims) rest outcome ∧
      ⟨.redisSet key ttl, reply⟩ ∈ rest := by
  replace run := runs_ofExcept_bind_of_mem run claim
  obtain ⟨publicKey, carried, run⟩ := run
  rw [Act.date, runs_reply_bind_iff] at run
  obtain ⟨currentDate, _, rfl, run⟩ := run
  replace claim := List.mem_of_ne_of_mem (by simp) claim
  replace run := runs_ofExcept_bind_of_mem run claim
  obtain ⟨signed, signature, run⟩ := run
  dsimp only at run
  replace run := runs_ofExcept_bind_of_mem run claim
  obtain ⟨_, queue, run⟩ := run
  replace run := runs_ofExcept_bind_of_mem run claim
  obtain ⟨_, body, run⟩ := run
  rw [Act.now, runs_reply_bind_iff] at run
  obtain ⟨nowMs, rest, rfl, run⟩ := run
  replace claim := List.mem_of_ne_of_mem (by simp) claim
  replace run := runs_ofExcept_bind_of_mem run claim
  obtain ⟨_, fresh, run⟩ := run
  exact ⟨currentDate, nowMs, signed, rest, rfl,
    ⟨⟨publicKey, carried, signature⟩, queue, body, fresh⟩, run, claim⟩

end Verify

/-- The operations of a verification. -/
def isVerificationOp : Op → Prop
  | .date | .now | .redisSet _ _ => True
  | _ => False

theorem within_verifyEnvelope (P : Platform) (dedupTtlSeconds : Nat) (envelope : String)
    (payload : EnvelopePayload) (options : VerifyEnvelopeOptions) :
    Within isVerificationOp (verifyEnvelope P dedupTtlSeconds envelope payload options) := by
  refine Within.bind (Within.ofExcept _) fun key => ?_
  refine Within.bind (Within.command trivial) fun currentDate => ?_
  refine Within.bind (Within.ofExcept _) fun verified => ?_
  refine Within.bind (Within.ofExcept _) fun _ => ?_
  refine Within.bind (Within.ofExcept _) fun _ => ?_
  refine Within.bind (Within.command trivial) fun nowMs => ?_
  refine Within.bind (Within.ofExcept _) fun _ => ?_
  refine Within.bind ?_ fun _ => Within.bind (Within.command trivial) fun _ => Within.done _
  unfold dedup
  split
  · exact Within.done _
  · refine Within.bind (Within.command trivial) fun ok => ?_
    split
    · exact Within.done _
    · exact Within.done _

end S2s
