import S2sStack.System.Identity
import Mathlib.Tactic.Linarith

set_option autoImplicit false

/- How long a login has effects: every exchange behind a request adds one lifetime of the broker's
tokens to that of the user token, and there are few of them. -/
namespace S2s

open Effect Effect.Program
open Js (Json Obj)

/-- The clock readings of the trace lie within this many milliseconds. -/
def ReadsWithin (limit : Nat) (trace : List Event) : Prop :=
  ∀ first second, ⟨.now, first⟩ ∈ trace → ⟨.now, second⟩ ∈ trace → second ≤ first + limit

/-- By how much an exchange outlasts the token that it is given, if it takes no longer than this. -/
def Deployment.extension (d : Deployment) (limit : Nat) : Rat :=
  d.broker.exchangedTokenTtlSeconds + toSeconds limit + 1

theorem toSeconds_le_of_within {first second limit : Nat} (close : second ≤ first + limit) :
    (toSeconds second : Rat) ≤ toSeconds first + toSeconds limit + 1 := by
  have rounded : toSeconds second ≤ toSeconds first + toSeconds limit + 1 := by
    unfold toSeconds
    omega
  exact_mod_cast rounded

theorem userTokenClaims_exp (opts : LocalIssuerOptions) (user : TestUser) (key : LoadedSigningKey)
    (nowMs : Millis) (jti : String) :
    dateOrZero (userTokenClaims opts user key nowMs jti) "exp" = toSeconds nowMs + opts.ttl := by
  simp [dateOrZero, userTokenClaims, signedPayload, Obj.get?_set_ne, issuerSignOptions]

/-- The token of an exchange outlasts the one it was given by little. -/
theorem Hop.exp_lt {P : Platform} {d : Deployment} {hop : Hop} {claims : Obj} {limit : Nat}
    (passes : hop.grant.Passes P d.broker hop.req hop.trace) (young : hop.InTime claims)
    (brisk : ReadsWithin limit hop.trace) :
    dateOrZero (hop.grant.claims d.broker) "exp" < dateOrZero claims "exp" + d.extension limit := by
  obtain ⟨checkedAt, read, unexpired⟩ := young
  have minted := toSeconds_le_of_within (brisk checkedAt hop.grant.nowMs read passes.dated)
  rw [Grant.claims_exp, Deployment.extension]
  linarith

/-- The signature of a login has the date of a clock reading. -/
def DatedLogins (d : Deployment) (steps : List SystemStep) : Prop :=
  ∀ req trace key claims token, .login req trace ∈ steps →
    (SystemStep.login req trace).Signs key claims token →
      ∃ signedAt, ⟨.now, signedAt⟩ ∈ trace ∧
        dateOrZero claims "exp" = toSeconds signedAt + d.issuer.ttl

/-- The login behind these exchanges, and when the last token expires. -/
theorem Hops.exp_lt {P : Platform} {d : Deployment} {user : TestUser} {steps : List SystemStep}
    {hops : List Hop} {limit : Nat} (chain : Hops P d user steps hops)
    (dated : DatedLogins d steps)
    (brisk : ∀ req trace, .exchange req trace ∈ steps → ReadsWithin limit trace) :
    ∃ req trace signedAt, .login req trace ∈ steps ∧ SignsIn P req user ∧
      ⟨.now, signedAt⟩ ∈ trace ∧ ∀ hop ∈ hops.head?,
        dateOrZero (hop.grant.claims d.broker) "exp" <
          toSeconds signedAt + d.issuer.ttl + hops.length * d.extension limit := by
  induction chain with
  | @first before after hop req trace key claims login signsIn signs young passes =>
      have inside : SystemStep.login req trace ∈ before ++ .exchange hop.req hop.trace :: after :=
        List.mem_append_left _ login
      obtain ⟨signedAt, read, exp⟩ := dated req trace key claims _ inside signs
      have later := Hop.exp_lt passes young (brisk hop.req hop.trace (by simp))
      refine ⟨req, trace, signedAt, inside, signsIn, read, fun last member => ?_⟩
      cases member
      rw [exp] at later
      simpa using later
  | @next before after hop last earlier chain fed young passes ih =>
      have front : before ⊆ before ++ .exchange hop.req hop.trace :: after :=
        List.subset_append_left _ _
      obtain ⟨req, trace, signedAt, login, signsIn, read, exp⟩ := ih
        (fun req trace key claims token member => dated req trace key claims token (front member))
        (fun req trace member => brisk req trace (front member))
      have sooner := exp last rfl
      have later := Hop.exp_lt passes young (brisk hop.req hop.trace (by simp))
      refine ⟨req, trace, signedAt, front login, signsIn, read, fun newest member => ?_⟩
      cases member
      simp only [List.length_cons, Nat.cast_add, Nat.cast_one] at sooner ⊢
      linarith

namespace SystemRun

variable {P : Platform} {L : ClientLibrary} {d : Deployment} (run : SystemRun P L d)

theorem datedLogins {before : List SystemStep} (within : before ⊆ run.steps) :
    DatedLogins d before := by
  intro req trace key claims token login signs
  obtain ⟨_, _, takes⟩ := run.taken.takes (within login)
  cases takes with
  | login ran =>
      obtain ⟨header, event⟩ := signs
      obtain ⟨user, signing, nowMs, jti, _, _, read, _, rfl⟩ := (login_run ran).2.signs event
      exact ⟨nowMs, read, userTokenClaims_exp d.issuer user signing nowMs jti⟩

/-- A request is let through at most the lifetime of a user token, and a few times that of the
broker's tokens, after its user has signed in. -/
theorem acts_in_time (agrees : P.PayloadAgrees) {before after : List SystemStep}
    {step : SystemStep} {auth : RequestAuth} (split : run.steps = before ++ step :: after)
    (admits : step.Admits auth) {limit : Nat}
    (brisk : ∀ req trace, .exchange req trace ∈ before → ReadsWithin limit trace) :
    ∃ user req trace signedAt checkedAt, .login req trace ∈ before ∧ SignsIn P req user ∧
      auth.sub = user.sub ∧ ⟨.now, signedAt⟩ ∈ trace ∧ ⟨.now, checkedAt⟩ ∈ step.checks ∧
      ∃ exchanges : Nat, exchanges ≤ maxActorChainDepth ∧ (toSeconds checkedAt : Rat) <
        toSeconds signedAt + d.issuer.ttl + exchanges * d.extension limit := by
  obtain ⟨backing⟩ := run.exists_backing agrees split admits
  have within : before ⊆ run.steps := by
    rw [split]
    exact List.subset_append_left _ _
  obtain ⟨req, trace, signedAt, login, signsIn, read, exp⟩ :=
    backing.hops.exp_lt (run.datedLogins within) brisk
  obtain ⟨part, inside, validate⟩ := backing.admission.validation
  obtain ⟨payload, checkedAt, accepted, same⟩ := validateToken_ok validate
  have raw : backing.validated.raw = payload.claims := by
    rw [same]
    rfl
  have unexpired := accepted.unexpired
  rw [JwtPayload.dateOrZero, ← raw, backing.claims] at unexpired
  refine ⟨backing.user, req, trace, signedAt, checkedAt, login, signsIn, ?_, read,
    inside accepted.clock, _, backing.length_le, ?_⟩
  · exact (congrArg RequestAuth.sub backing.auth).trans backing.sub
  · exact lt_trans unexpired (exp backing.hop rfl)

end SystemRun

/-- The entry of alice is filed within 900 seconds and five times 601 after her login. -/
theorem entry_acts_in_time :
    ∃ user req trace signedAt checkedAt,
      .login req trace ∈ [loginStep, firstExchangeStep, secondExchangeStep] ∧
      SignsIn entryTable.platform req user ∧ entryAuth.sub = user.sub ∧
      ⟨.now, signedAt⟩ ∈ trace ∧ ⟨.now, checkedAt⟩ ∈ entryStep.checks ∧
      ∃ exchanges : Nat, exchanges ≤ maxActorChainDepth ∧ (toSeconds checkedAt : Rat) <
        toSeconds signedAt + entryDeployment.issuer.ttl +
          exchanges * entryDeployment.extension 0 := by
  refine entryRun.acts_in_time entryTable.platform_agrees rfl entryStep_admits ?_
  have steady {req : Request} {signed drawn : String} : ReadsWithin 0
      ((brokerServices signed drawn).trace (tokenRouter entryTable.platform brokerDeps req)) := by
    intro first second early late
    obtain ⟨_, rfl⟩ := SteadyServices.replied early
    obtain ⟨_, rfl⟩ := SteadyServices.replied late
    exact Nat.le_refl _
  intro req trace member
  simp only [List.mem_cons, List.not_mem_nil, or_false] at member
  rcases member with impossible | first | second
  · cases impossible
  · cases first
    exact steady
  · cases second
    exact steady

end S2s
