import S2sStack.Token.ActorChain
import S2sStack.Token.ValidateUserToken

set_option autoImplicit false

/- `lib/subjectTokenValidator.ts` -/
namespace S2s

open Effect Effect.Program
open Js (Json Obj)

structure SubjectTokenValidatorOptions where
  brokerIssuerUrl : String
  brokerJwksUri : String
  userIssuerUrl : String
  userIssuerJwksUri : String
  userIssuerAudience : String

structure SubjectTokenValidationResult where
  user : UserContext
  previousActorChain : Option ActorChain
  isReentry : Bool

/-- The `iss` text of a token, or nothing where the token has none. -/
def readIssuerClaim (P : Platform) (token : String) : Option String :=
  match P.decodeJwt token with
  | .ok payload => (payload.get? "iss").bind Json.str?
  | .error _ => none

/-- The validator of user tokens. -/
def userTokenOptions (opts : SubjectTokenValidatorOptions) : ValidateUserTokenOptions where
  jwksUri := opts.userIssuerJwksUri
  expectedIssuer := opts.userIssuerUrl
  expectedAudience := opts.userIssuerAudience

/-- The validators of broker tokens, which differ in the audience they expect. -/
def brokerTokenOptions (opts : SubjectTokenValidatorOptions) (audience : String) :
    ValidateUserTokenOptions where
  jwksUri := opts.brokerJwksUri
  expectedIssuer := opts.brokerIssuerUrl
  expectedAudience := audience

/-- The audience a broker token was minted for: a text, or the first of an array. -/
def fallbackAudience (aud : Option Json) : String :=
  match aud with
  | some (.str audience) => audience
  | some (.arr (.str audience :: _)) => audience
  | _ => ""

def isInvalidAudience : Fault → Bool
  | .auth err => err.code = .invalidAudience
  | .error _ _ => false

/-- The handler of a failed re-entry validation: only a wrong audience is forgiven, by
validating again against the audience in the token. -/
def acceptOwnAudience (P : Platform) (opts : SubjectTokenValidatorOptions) (subjectToken : String)
    (err : Fault) : Act UserContext :=
  if isInvalidAudience err then do
    let payload ← ofExcept (P.decodeJwt subjectToken)
    let fallbackAud := fallbackAudience (payload.get? "aud")
    if fallbackAud = "" then Act.fail err
    else validateUserToken P (brokerTokenOptions opts fallbackAud) subjectToken
  else Act.fail err

/-- The user of a broker token; its issuer is the one the token names, else the default. -/
def reentryUser (opts : SubjectTokenValidatorOptions) (payload : Obj) : UserContext where
  sub := Js.textOrEmpty (payload.get? "sub")
  roles := Js.stringItems (payload.get? "roles")
  groups := Js.stringItems (payload.get? "groups")
  claims := Obj.without reservedClaims payload
  issuer :=
    match Obj.get? "user_issuer" (Obj.without reservedClaims payload) with
    | some (.str claimsIssuer) => claimsIssuer
    | _ => opts.userIssuerUrl

/-- The texts of an array; nothing else lists any. -/
inductive Texts : Option Json → List String → Prop
  | array (items : List Json) : Texts (some (.arr items)) (items.filterMap Json.str?)
  | other {claim : Option Json} : (∀ items, claim ≠ some (.arr items)) → Texts claim []

theorem texts_stringItems (claim : Option Json) : Texts claim (Js.stringItems claim) := by
  cases claim with
  | none => exact .other (by simp)
  | some value =>
      cases value with
      | arr items => exact .array items
      | _ => exact .other (by simp)

/-- The user that the claims of an exchanged token name, who may be of another issuer. -/
structure ResumesUser (opts : SubjectTokenValidatorOptions) (claims : Obj) (user : UserContext) :
    Prop where
  sub : Js.Spells (claims.get? "sub") user.sub
  roles : Texts (claims.get? "roles") user.roles
  groups : Texts (claims.get? "groups") user.groups
  issuer : claims.get? "user_issuer" = some (.str user.issuer) ∨
    (∀ text, claims.get? "user_issuer" ≠ some (.str text)) ∧ user.issuer = opts.userIssuerUrl

theorem resumesUser_reentryUser (opts : SubjectTokenValidatorOptions) (claims : Obj) :
    ResumesUser opts claims (reentryUser opts claims) where
  sub := Js.spells_iff.mpr rfl
  roles := texts_stringItems _
  groups := texts_stringItems _
  issuer := by
    have kept : Obj.get? "user_issuer" (Obj.without reservedClaims claims) =
        claims.get? "user_issuer" := Obj.get?_without _ (by decide)
    simp only [reentryUser, kept]
    split
    · rename_i text found
      exact .inl found
    · rename_i other
      exact .inr ⟨other, rfl⟩

def validateSubjectToken (P : Platform) (opts : SubjectTokenValidatorOptions)
    (subjectToken requestedAudience : String) : Act SubjectTokenValidationResult :=
  match readIssuerClaim P subjectToken with
  | none => Act.fail (unauthorized .invalidToken "subject token missing issuer")
  | some iss =>
      if iss = "" then Act.fail (unauthorized .invalidToken "subject token missing issuer")
      else if iss = opts.brokerIssuerUrl then do
        let _ ← catching
          (validateUserToken P (brokerTokenOptions opts requestedAudience) subjectToken)
          (acceptOwnAudience P opts subjectToken)
        let payload ← ofExcept (P.decodeJwt subjectToken)
        return {
          user := reentryUser opts payload
          previousActorChain := (payload.get? "act").bind buildChain
          isReentry := true }
      else if iss ≠ opts.userIssuerUrl then
        Act.fail (unauthorized .invalidToken ("unrecognised subject token issuer: " ++ iss))
      else do
        let user ← validateUserToken P (userTokenOptions opts) subjectToken
        return { user := user, previousActorChain := none, isReentry := false }

/-- A subject token that was accepted as a user token. -/
def AcceptedAsUserToken (P : Platform) (opts : SubjectTokenValidatorOptions) (token : String)
    (result : SubjectTokenValidationResult) (trace : List Event) : Prop :=
  ∃ payload checkedAt,
    AcceptedUserToken P (userTokenOptions opts) token payload checkedAt trace ∧
      result = {
        user := userContext payload.claims
        previousActorChain := none
        isReentry := false }

/-- A subject token that was accepted as an exchanged token of the broker. -/
def AcceptedAsBrokerToken (P : Platform) (opts : SubjectTokenValidatorOptions) (token : String)
    (result : SubjectTokenValidationResult) (trace : List Event) : Prop :=
  ∃ audience payload checkedAt,
    AcceptedUserToken P (brokerTokenOptions opts audience) token payload checkedAt trace ∧
      result = {
        user := reentryUser opts payload.claims
        previousActorChain := (payload.claims.get? "act").bind buildChain
        isReentry := true }

theorem acceptOwnAudience_ok {P : Platform} {opts : SubjectTokenValidatorOptions} {token : String}
    {err : Fault} {user : UserContext} {trace : List Event}
    (run : Runs (acceptOwnAudience P opts token err) trace (.ok user)) :
    ∃ audience, Runs (validateUserToken P (brokerTokenOptions opts audience) token) trace
      (.ok user) := by
  unfold acceptOwnAudience at run
  split at run
  · rw [runs_ofExcept_bind_ok] at run
    obtain ⟨payload, _, run⟩ := run
    dsimp only at run
    split at run
    · cases (runs_throwing_iff.mp run).2
    · exact ⟨_, run⟩
  · cases (runs_throwing_iff.mp run).2

/-- Every accepted subject token was verified as one of the two kinds. -/
theorem validateSubjectToken_ok {P : Platform} (agrees : P.PayloadAgrees)
    {opts : SubjectTokenValidatorOptions} {token requestedAudience : String}
    {result : SubjectTokenValidationResult} {trace : List Event}
    (run : Runs (validateSubjectToken P opts token requestedAudience) trace (.ok result)) :
    AcceptedAsUserToken P opts token result trace ∨
      AcceptedAsBrokerToken P opts token result trace := by
  unfold validateSubjectToken at run
  split at run
  · cases (runs_throwing_iff.mp run).2
  · split at run
    · cases (runs_throwing_iff.mp run).2
    · split at run
      · rw [runs_bind_ok] at run
        obtain ⟨user, validating, after, rfl, validated, run⟩ := run
        rw [runs_ofExcept_bind_ok] at run
        obtain ⟨claims, decoded, run⟩ := run
        rw [runs_pure_iff] at run
        obtain ⟨rfl, same⟩ := run
        cases same
        have accepted : ∃ audience part, part ⊆ validating ∧
            Runs (validateUserToken P (brokerTokenOptions opts audience) token) part
              (.ok user) := by
          rw [runs_catching_iff] at validated
          rcases validated with ⟨value, run, same⟩ | ⟨err, before, after, rfl, _, run⟩
          · cases same
            exact ⟨_, validating, List.Subset.refl _, run⟩
          · obtain ⟨audience, run⟩ := acceptOwnAudience_ok run
            exact ⟨audience, after, List.subset_append_right before after, run⟩
        obtain ⟨audience, part, inside, run⟩ := accepted
        obtain ⟨payload, checkedAt, acceptance, _⟩ := validateUserToken_ok run
        have sameClaims := acceptance.verified.decoded agrees
        rw [decoded] at sameClaims
        cases sameClaims
        refine .inr ⟨audience, payload, checkedAt, acceptance.mono ?_, rfl⟩
        exact List.subset_append_of_subset_left _ inside
      · split at run
        · cases (runs_throwing_iff.mp run).2
        · rw [runs_bind_ok] at run
          obtain ⟨user, validating, after, rfl, validated, run⟩ := run
          rw [runs_pure_iff] at run
          obtain ⟨rfl, same⟩ := run
          cases same
          obtain ⟨payload, checkedAt, acceptance, rfl⟩ := validateUserToken_ok validated
          exact .inl ⟨payload, checkedAt, acceptance.mono (List.subset_append_left _ _), rfl⟩

/-- A token of another issuer than the broker is accepted as a user token or not at all. -/
theorem validateSubjectToken_user {P : Platform} (agrees : P.PayloadAgrees)
    {opts : SubjectTokenValidatorOptions} {token requestedAudience iss : String} {claims : Obj}
    {result : SubjectTokenValidationResult} {trace : List Event}
    (decoded : P.decodeJwt token = .ok claims) (issuer : claims.get? "iss" = some (.str iss))
    (notBroker : iss ≠ opts.brokerIssuerUrl)
    (run : Runs (validateSubjectToken P opts token requestedAudience) trace (.ok result)) :
    result = { user := userContext claims, previousActorChain := none, isReentry := false } := by
  have named : readIssuerClaim P token = some iss := by
    simp [readIssuerClaim, decoded, issuer, Json.str?]
  simp only [validateSubjectToken, named, notBroker, ↓reduceIte] at run
  split at run
  · cases (runs_throwing_iff.mp run).2
  · split at run
    · cases (runs_throwing_iff.mp run).2
    · rw [runs_bind_ok] at run
      obtain ⟨user, _, _, rfl, validate, run⟩ := run
      obtain ⟨payload, _, accepted, rfl⟩ := validateUserToken_ok validate
      have same := accepted.verified.decoded agrees
      rw [decoded] at same
      cases same
      exact Except.ok.inj (runs_pure_iff.mp run).2

/-- The record of an exchanged token. -/
def reentryResult (opts : SubjectTokenValidatorOptions) (claims : Obj) :
    SubjectTokenValidationResult where
  user := reentryUser opts claims
  previousActorChain := (claims.get? "act").bind buildChain
  isReentry := true

/-- A token of the broker is read back as an exchanged token or not at all. -/
theorem validateSubjectToken_reentry {P : Platform} {opts : SubjectTokenValidatorOptions}
    {token requestedAudience : String} {claims : Obj} {result : SubjectTokenValidationResult}
    {trace : List Event} (decoded : P.decodeJwt token = .ok claims)
    (issuer : claims.get? "iss" = some (.str opts.brokerIssuerUrl))
    (run : Runs (validateSubjectToken P opts token requestedAudience) trace (.ok result)) :
    result = reentryResult opts claims := by
  have named : readIssuerClaim P token = some opts.brokerIssuerUrl := by
    simp [readIssuerClaim, decoded, issuer, Json.str?]
  simp only [validateSubjectToken, named, ↓reduceIte] at run
  split at run
  · cases (runs_throwing_iff.mp run).2
  · rw [runs_bind_ok] at run
    obtain ⟨_, _, _, rfl, _, run⟩ := run
    rw [decoded] at run
    exact Except.ok.inj (runs_pure_iff.mp run).2

/-- An unexpired token of the broker for one audience, whose key every fetched set has. -/
structure LiveBrokerToken (P : Platform) (opts : SubjectTokenValidatorOptions)
    (token audience : String) (key : PublicKey) (claims : Obj) (trace : List Event) : Prop where
  decoded : P.decodeJwt token = .ok claims
  issuer : claims.get? "iss" = some (.str opts.brokerIssuerUrl)
  minted : claims.get? "aud" = some (.str audience)
  audienceNamed : audience ≠ ""
  published : Publishes P opts.brokerJwksUri token key trace
  verifies : VerifiesTo P token key claims trace
  unexpired : ∀ moment, ⟨.now, moment⟩ ∈ trace →
    (toSeconds moment : Rat) < dateOrZero claims "exp"

namespace LiveBrokerToken

variable {P : Platform} {opts : SubjectTokenValidatorOptions} {token audience : String}
  {key : PublicKey} {claims : Obj} {trace part : List Event}

theorem mono (live : LiveBrokerToken P opts token audience key claims trace)
    (inside : part ⊆ trace) : LiveBrokerToken P opts token audience key claims part :=
  { live with
    published := live.published.mono inside
    verifies := live.verifies.mono inside
    unexpired := fun moment read => live.unexpired moment (inside read) }

/-- A validation for an expected audience turns on that audience alone. -/
theorem validated (live : LiveBrokerToken P opts token audience key claims trace)
    {expected : String} {result : Except Fault UserContext}
    (run : Runs (validateUserToken P (brokerTokenOptions opts expected) token) trace result) :
    result = if audience = expected then .ok (userContext claims) else .error audienceMismatch := by
  have sameUri : Publishes P (brokerTokenOptions opts expected).jwksUri token key trace :=
    live.published
  have passed := validateUserToken_verified sameUri live.verifies live.unexpired live.issuer run
  rw [passed, live.minted]
  by_cases same : audience = expected
  · simp [audienceMatches, brokerTokenOptions, same]
  · simp [audienceMatches, brokerTokenOptions, same]

/-- After a mismatch the token is validated for the audience it was minted for. -/
theorem accepted_own_audience (live : LiveBrokerToken P opts token audience key claims trace)
    {result : Except Fault UserContext}
    (run : Runs (acceptOwnAudience P opts token audienceMismatch) trace result) :
    result = .ok (userContext claims) := by
  have filled : ¬ audience = "" := live.audienceNamed
  have decodes : ofExcept (P.decodeJwt token) = (ofExcept (.ok claims) : Act Obj) := by
    rw [live.decoded]
  simp only [acceptOwnAudience, isInvalidAudience, audienceMismatch, unauthorized, decide_true,
    ↓reduceIte, decodes] at run
  have revalidation : Runs (validateUserToken P (brokerTokenOptions opts audience) token) trace
      result := by
    rcases runs_bind_iff.mp run with ⟨payload, _, _, rfl, decode, rest⟩ | ⟨_, decode, _⟩
    · obtain ⟨rfl, same⟩ := runs_ofExcept_iff.mp decode
      cases same
      simpa only [live.minted, fallbackAudience, filled, ↓reduceIte, List.nil_append] using rest
    · cases (runs_ofExcept_iff.mp decode).2
  have passed := live.validated revalidation
  rwa [if_pos rfl] at passed

theorem accepted (live : LiveBrokerToken P opts token audience key claims trace)
    {requestedAudience : String} {result : Except Fault UserContext}
    (run : Runs (catching (validateUserToken P (brokerTokenOptions opts requestedAudience) token)
      (acceptOwnAudience P opts token)) trace result) : result = .ok (userContext claims) := by
  rcases runs_catching_iff.mp run with ⟨user, validate, rfl⟩ |
    ⟨fault, before, after, rfl, validate, handle⟩
  · have same := live.validated validate
    split at same
    · exact same
    · cases same
  · have same := (live.mono (List.subset_append_left before after)).validated validate
    split at same
    · cases same
    · cases same
      exact (live.mono (List.subset_append_right before after)).accepted_own_audience handle

end LiveBrokerToken

/-- A broker token under a published key is accepted for every requested audience: the
second validation is against the audience it was minted for. -/
theorem validateSubjectToken_accepts {P : Platform} {opts : SubjectTokenValidatorOptions}
    {token requestedAudience audience : String} {key : PublicKey} {claims : Obj}
    {trace : List Event} {outcome : Except Fault SubjectTokenValidationResult}
    (live : LiveBrokerToken P opts token audience key claims trace)
    (issuerNamed : opts.brokerIssuerUrl ≠ "")
    (run : Runs (validateSubjectToken P opts token requestedAudience) trace outcome) :
    outcome = .ok (reentryResult opts claims) := by
  have named : readIssuerClaim P token = some opts.brokerIssuerUrl := by
    simp [readIssuerClaim, live.decoded, live.issuer, Json.str?]
  simp only [validateSubjectToken, named, issuerNamed, ↓reduceIte] at run
  rcases runs_bind_iff.mp run with ⟨user, before, after, rfl, validate, rest⟩ |
    ⟨fault, validate, rfl⟩
  · rw [live.decoded] at rest
    exact (runs_pure_iff.mp rest).2
  · cases live.accepted validate

theorem within_validateSubjectToken (P : Platform) (opts : SubjectTokenValidatorOptions)
    (token requestedAudience : String) :
    Within isValidationOp (validateSubjectToken P opts token requestedAudience) := by
  unfold validateSubjectToken
  split
  · exact Within.done _
  · split
    · exact Within.done _
    · split
      · refine Within.bind (Within.catching (within_validateUserToken P _ token) fun err => ?_)
          fun _ => ?_
        · unfold acceptOwnAudience
          split
          · refine Within.bind (Within.ofExcept _) fun payload => ?_
            dsimp only
            split
            · exact Within.done _
            · exact within_validateUserToken P _ token
          · exact Within.done _
        · exact Within.bind (Within.ofExcept _) fun _ => Within.done _
      · split
        · exact Within.done _
        · exact Within.bind (within_validateUserToken P _ token) fun _ => Within.done _

end S2s
