import S2sStack.System.Run

set_option autoImplicit false

/- Where a token of the broker comes from: a login, and one exchange after the other. -/
namespace S2s

open Effect Effect.Program
open Js (Json Obj)

/-- A signature of the exchange endpoint, with the values behind it. -/
structure Hop where
  req : Request
  trace : List Event
  grant : Grant

/-- At some moment of the exchange these claims had not expired. -/
def Hop.InTime (hop : Hop) (claims : Obj) : Prop :=
  ∃ checkedAt, ⟨.now, checkedAt⟩ ∈ hop.trace ∧ (toSeconds checkedAt : Rat) < dateOrZero claims "exp"

/-- The exchanges behind a token, the last one first, and the user who signed in before them. Each
is of the token that the one before it signed, and in its time. -/
inductive Hops (P : Platform) (d : Deployment) (user : TestUser) :
    List SystemStep → List Hop → Prop
  | first {before after : List SystemStep} {hop : Hop} {req : Request} {trace : List Event}
      {key : PrivateKey} {claims : Obj} : .login req trace ∈ before → SignsIn P req user →
      (SystemStep.login req trace).Signs key claims hop.grant.request.subjectToken →
      hop.InTime claims → hop.grant.Passes P d.broker hop.req hop.trace →
      Hops P d user (before ++ .exchange hop.req hop.trace :: after) [hop]
  | next {before after : List SystemStep} {hop last : Hop} {earlier : List Hop} :
      Hops P d user before (last :: earlier) →
      hop.grant.request.subjectToken = last.grant.token →
      hop.InTime (last.grant.claims d.broker) → hop.grant.Passes P d.broker hop.req hop.trace →
      Hops P d user (before ++ .exchange hop.req hop.trace :: after) (hop :: last :: earlier)

/-- The actors of the exchanges, oldest first. -/
def hopActors (hops : List Hop) : List String :=
  (hops.map fun hop => hop.grant.actor.clientId).reverse

section Hops

variable {P : Platform} {d : Deployment} {user : TestUser} {steps : List SystemStep}
  {hops : List Hop}

/-- Every exchange is a step of the run and has gone through its gates. -/
theorem Hops.passes (chain : Hops P d user steps hops) :
    ∀ hop ∈ hops, .exchange hop.req hop.trace ∈ steps ∧
      hop.grant.Passes P d.broker hop.req hop.trace := by
  induction chain with
  | first login signsIn signed young passes =>
      intro other member
      cases List.mem_singleton.mp member
      exact ⟨by simp, passes⟩
  | next chain fed young passes ih =>
      intro other member
      rcases List.mem_cons.mp member with rfl | inner
      · exact ⟨by simp, passes⟩
      · obtain ⟨inside, passed⟩ := ih other inner
        exact ⟨List.mem_append_left _ inside, passed⟩

/-- The user has signed in. -/
theorem Hops.signedIn (chain : Hops P d user steps hops) :
    ∃ req trace, .login req trace ∈ steps ∧ SignsIn P req user := by
  induction chain with
  | first login signsIn signed young passes =>
      exact ⟨_, _, List.mem_append_left _ login, signsIn⟩
  | next chain fed young passes ih =>
      obtain ⟨req, trace, login, signsIn⟩ := ih
      exact ⟨req, trace, List.mem_append_left _ login, signsIn⟩

end Hops

namespace Grant

variable {P : Platform} {deps : TokenRouterDeps} {req : Request} {trace : List Event}
  {grant : Grant}

theorem Passes.actor_ne_empty (passes : grant.Passes P deps req trace) :
    grant.actor.clientId ≠ "" := by
  obtain ⟨secret, parsed, _, _⟩ := authenticateActor_ok passes.authenticated
  exact clientId_ne_empty parsed

theorem chain_named (passes : grant.Passes P deps req trace)
    (previous : ∀ chain ∈ grant.validated.previousActorChain, Named chain) : Named grant.chain :=
  named_compose passes.actor_ne_empty previous

/-- An exchange of a user token speaks for its user through its actor. -/
theorem carries_user {user : UserContext} (passes : grant.Passes P deps req trace)
    (validated : grant.validated =
      { user := user, previousActorChain := none, isReentry := false }) :
    CarriesDelegation deps user [grant.actor.clientId] grant := by
  have chain : grant.chain = .root grant.actor.clientId := by
    rw [Grant.chain, validated]
    rfl
  have named : Named grant.chain := chain_named passes (by simp [validated])
  refine ⟨?_, named, ?_, ?_, ?_, ?_⟩
  · rw [chain]
    rfl
  all_goals rw [validated]

/-- An exchange of the token of another one adds its actor. -/
theorem carries_reentry {user : UserContext} {actors : List String} {before : Grant}
    (passes : grant.Passes P deps req trace) (carries : CarriesDelegation deps user actors before)
    (validated : grant.validated = reentryResult deps.subjectValidator (before.claims deps)) :
    CarriesDelegation deps user (actors ++ [grant.actor.clientId]) grant := by
  have previous : grant.validated.previousActorChain = some before.chain := by
    rw [validated, reentryResult, before.claims_act]
    exact buildChain_toJson before.chain carries.named
  have named : Named grant.chain := by
    apply chain_named passes
    rw [previous]
    intro chain same
    cases same
    exact carries.named
  obtain ⟨sub, roles, groups, issuer⟩ := before.reentryUser_claims deps deps.subjectValidator
  refine ⟨?_, named, ?_, ?_, ?_, ?_⟩
  · rw [Grant.chain, previous, actorChainAsString_compose, carries.actors]
  · rw [validated, reentryResult, sub, carries.sub]
  · rw [validated, reentryResult, roles, carries.roles]
  · rw [validated, reentryResult, groups, carries.groups]
  · rw [validated, reentryResult, issuer, carries.issuer]

end Grant

namespace SystemRun

variable {P : Platform} {L : ClientLibrary} {d : Deployment} (run : SystemRun P L d)

/-- A token that verifies under a fetched key of its owner was signed by the owner before. -/
theorem signed_of_verified {before after : List SystemStep} {step : SystemStep}
    (split : run.steps = before ++ step :: after) {token jwksUri : String} {owner : KeyOwner}
    {payload : JwtPayload} {trace : List Event} (presents : step.Presents token)
    (keys : KeysOf P d jwksUri owner trace) (held : owner ≠ .other)
    (verified : VerifiedUnder P jwksUri token payload trace) :
    ∃ signer, d.owner signer = owner ∧ SignedBefore before signer payload.claims token := by
  obtain ⟨forced, fetched, jwk, key, moment, reply, member, imported, _, accepted⟩ := verified
  let signer : PrivateKey := ⟨key.pair⟩
  have owned : d.owner signer = owner := keys forced fetched reply jwk member signer imported
  have kept : d.owner signer ≠ .other := by rwa [owned]
  exact ⟨signer, owned,
    run.unforgeable before step after split token presents signer _ payload kept accepted⟩

/-- The user issuer's signatures are those of logins. -/
theorem login_of_signed {steps : List SystemStep} (within : steps ⊆ run.steps) {signer : PrivateKey}
    {claims : Obj} {token : String} (owned : d.owner signer = .userIssuer)
    (signed : SignedBefore steps signer claims token) :
    ∃ req trace user key nowMs jti, .login req trace ∈ steps ∧ SignsIn P req user ∧
      (SystemStep.login req trace).Signs signer claims token ∧
      claims = userTokenClaims d.issuer user key nowMs jti := by
  obtain ⟨step, member, signs⟩ := signed
  obtain ⟨_, _, takes⟩ := run.taken.takes (within member)
  have keeps := run.keys step (within member)
  cases takes with
  | @login req trace _ ran =>
      obtain ⟨header, event⟩ := signs
      obtain ⟨user, key, nowMs, jti, signsIn, _, _, _, same⟩ := (login_run ran).2.signs event
      exact ⟨req, trace, user, key, nowMs, jti, member, signsIn, ⟨header, event⟩, same⟩
  | exchange ran =>
      obtain ⟨header, event⟩ := signs
      obtain ⟨grant, passes, signature⟩ := tokenRouter_signs ran event
      have broker := keeps.1 grant.signing passes.loaded
      rw [← signature.key, owned] at broker
      cases broker
  | forge =>
      obtain ⟨-, rfl, -⟩ := signs
      rw [show d.owner signer = .other from keeps] at owned
      cases owned
  | loanRefused | loanFailed | loanFiled | entryRefused | entryFailed | entryFiled =>
      exact signs.elim

/-- The broker's signatures are those of exchanges. -/
theorem exchange_of_signed {steps : List SystemStep} (within : steps ⊆ run.steps)
    {signer : PrivateKey} {claims : Obj} {token : String} (owned : d.owner signer = .broker)
    (signed : SignedBefore steps signer claims token) :
    ∃ hop : Hop, .exchange hop.req hop.trace ∈ steps ∧
      hop.grant.Passes P d.broker hop.req hop.trace ∧ claims = hop.grant.claims d.broker ∧
      token = hop.grant.token := by
  obtain ⟨step, member, signs⟩ := signed
  obtain ⟨_, _, takes⟩ := run.taken.takes (within member)
  have keeps := run.keys step (within member)
  cases takes with
  | login ran =>
      obtain ⟨header, event⟩ := signs
      obtain ⟨user, key, nowMs, jti, signsIn, loaded, _, rfl, _⟩ := (login_run ran).2.signs event
      have userIssuer := keeps key loaded
      rw [owned] at userIssuer
      cases userIssuer
  | @exchange req trace _ ran =>
      obtain ⟨header, event⟩ := signs
      obtain ⟨grant, passes, signature⟩ := tokenRouter_signs ran event
      exact ⟨⟨req, trace, grant⟩, member, passes, signature.claims, signature.token⟩
  | forge =>
      obtain ⟨-, rfl, -⟩ := signs
      rw [show d.owner signer = .other from keeps] at owned
      cases owned
  | loanRefused | loanFailed | loanFiled | entryRefused | entryFailed | entryFiled =>
      exact signs.elim

/-- Behind every signature of the broker stands a chain of exchanges that begins with a login, and
its claims speak for that user through the actors of the chain. -/
theorem hops_of_signed (agrees : P.PayloadAgrees) {before after : List SystemStep}
    (split : run.steps = before ++ after) {signer : PrivateKey} {claims : Obj} {token : String}
    (owned : d.owner signer = .broker) (signed : SignedBefore before signer claims token) :
    ∃ user hop earlier, Hops P d user before (hop :: earlier) ∧
      claims = hop.grant.claims d.broker ∧ token = hop.grant.token ∧
      CarriesDelegation d.broker (user.context d.issuer) (hopActors (hop :: earlier)) hop.grant := by
  -- the exchanges behind a token stand further and further to the front
  induction length : before.length using Nat.strong_induction_on generalizing
    before after signer claims token with
  | _ size ih =>
    have within : before ⊆ run.steps := by
      rw [split]
      exact List.subset_append_left _ _
    obtain ⟨hop, member, passes, sameClaims, sameToken⟩ :=
      run.exchange_of_signed within owned signed
    obtain ⟨front, rest, parts⟩ := List.append_of_mem member
    have place : run.steps = front ++ .exchange hop.req hop.trace :: (rest ++ after) := by
      rw [split, parts]
      simp
    have shorter : front.length < size := by
      rw [← length, parts, List.length_append, List.length_cons]
      omega
    have inFront : front ⊆ run.steps := by
      rw [place]
      exact List.subset_append_left _ _
    have presents : (SystemStep.exchange hop.req hop.trace).Presents
        hop.grant.request.subjectToken := (readExchangeRequest_ok passes.requested).subjectToken
    obtain ⟨-, userKeys, brokerKeys⟩ := run.keys _ (within member)
    obtain ⟨part, inside, validate⟩ := passes.subject
    rcases validateSubjectToken_ok agrees validate with
      ⟨payload, checkedAt, accepted, validated⟩ | ⟨audience, payload, checkedAt, accepted, validated⟩
    · obtain ⟨holder, held, sooner⟩ := run.signed_of_verified place presents userKeys (by simp)
        (accepted.verified.mono inside)
      obtain ⟨req, trace, user, key, nowMs, jti, login, signsIn, signs, same⟩ :=
        run.login_of_signed inFront held sooner
      have young : hop.InTime payload.claims :=
        ⟨checkedAt, inside accepted.clock, accepted.unexpired⟩
      rw [same, userContext_userToken] at validated
      refine ⟨user, hop, [], ?_, sameClaims, sameToken, Grant.carries_user passes validated⟩
      rw [parts]
      exact .first login signsIn signs young passes
    · obtain ⟨holder, held, sooner⟩ := run.signed_of_verified place presents brokerKeys (by simp)
        (accepted.verified.mono inside)
      obtain ⟨user, last, earlier, chain, same, fed, carries⟩ :=
        ih _ shorter place held sooner rfl
      have young : hop.InTime payload.claims :=
        ⟨checkedAt, inside accepted.clock, accepted.unexpired⟩
      rw [same] at validated young
      refine ⟨user, hop, last :: earlier, ?_, sameClaims, sameToken, ?_⟩
      · rw [parts]
        exact .next chain fed young passes
      · have further := Grant.carries_reentry passes carries validated
        simpa [hopActors] using further

end SystemRun

end S2s
