import S2sStack.Token.ValidateToken
import S2sStack.Token.ValidateUserToken
import S2sStack.TokenTable
import Mathlib.Data.List.Basic
import Mathlib.Tactic.Linarith
import Mathlib.Tactic.NormNum

set_option autoImplicit false

/- Which signed payloads `validateToken` accepts. -/
namespace S2s

open Effect Effect.Program
open Js (Json Obj)

/-- The dates among the claims are ones that `jose` takes at this clock reading. -/
structure WellDated (claims : Obj) (moment : Millis) : Prop where
  numeric : ∀ name ∈ ["iat", "nbf", "exp"], ∀ value, claims.get? name = some value →
    ∃ number, value = .num number
  begun : ∀ nbf, claims.get? "nbf" = some (.num nbf) → nbf ≤ (toSeconds moment : Nat)
  unexpired : ∀ exp, claims.get? "exp" = some (.num exp) → ((toSeconds moment : Nat) : Rat) < exp

/-- Under the key that signed it, a token verifies or not by the dates among its claims. -/
structure SignedClaims (P : Platform) (token : String) (key : PublicKey) (claims : Obj) : Prop where
  verified : ∀ moment, WellDated claims moment → ∃ payload, payload.claims = claims ∧
    P.jwtVerify token key { algorithms := none, currentDate := moment } = .ok payload
  refused : ∀ moment, ¬ WellDated claims moment → ∃ fault,
    P.jwtVerify token key { algorithms := none, currentDate := moment } = .error fault ∧
      fault.code? ≠ some "ERR_JWS_SIGNATURE_VERIFICATION_FAILED"

section Verification

variable {P : Platform} {jwksUri token : String} {key : PublicKey} {claims : Obj}
  {trace : List Event}

theorem findKey_readsNoClock {kid : Option Json} :
    Within (fun op : Op => op ≠ .now) (findKey jwksUri kid) := by
  refine Within.bind (Within.command (by simp)) fun keys => ?_
  split
  · exact Within.done _
  · refine Within.bind (Within.command (by simp)) fun refreshed => ?_
    split
    · exact Within.done _
    · exact Within.done _

/-- A verification under the key of the token reads the clock once. -/
theorem verifyAgainstJwks_signed {outcome : Except Fault JwtPayload}
    (published : Publishes P jwksUri token key trace) (signed : SignedClaims P token key claims)
    (run : Runs (verifyAgainstJwks P jwksUri token) trace outcome) :
    ∃ moment, (∀ reading, ⟨.now, reading⟩ ∈ trace ↔ reading = moment) ∧
      ((WellDated claims moment ∧ ∃ payload, payload.claims = claims ∧ outcome = .ok payload) ∨
        ¬ WellDated claims moment ∧ ∃ fault, outcome = .error fault) := by
  rw [verifyAgainstJwks, runs_bind_iff] at run
  obtain ⟨jwk, searching, after, rfl, search, run⟩ | ⟨fault, search, rfl⟩ := run
  · obtain ⟨_, same, imported⟩ :=
      findKey_of_publishes (published.mono (List.subset_append_left _ _)) search
    cases same
    have silent : ∀ reading, ⟨.now, reading⟩ ∉ searching :=
      fun reading member => findKey_readsNoClock _ _ search _ member rfl
    have only {moment : Millis} : ∀ reading, ⟨.now, reading⟩ ∈ searching ++
        [(⟨.now, moment⟩ : Event)] ↔ reading = moment := by
      intro reading
      simp [silent]
    rw [imported] at run
    obtain ⟨payload, verified, rfl⟩ | ⟨fault, before, rest, rfl, failed, handled⟩ :=
      runs_catching_iff.mp run
    · obtain ⟨moment, rfl, accepted⟩ := verifyNow_runs verified
      refine ⟨moment, only, .inl ?_⟩
      by_cases dated : WellDated claims moment
      · obtain ⟨found, same, verifies⟩ := signed.verified moment dated
        rw [verifies] at accepted
        cases accepted
        exact ⟨dated, _, same, rfl⟩
      · obtain ⟨fault, refused, -⟩ := signed.refused moment dated
        rw [refused] at accepted
        cases accepted
    · obtain ⟨moment, rfl, rejected⟩ := verifyNow_runs failed
      by_cases dated : WellDated claims moment
      · obtain ⟨found, same, verifies⟩ := signed.verified moment dated
        rw [verifies] at rejected
        cases rejected
      · obtain ⟨thrown, refused, code⟩ := signed.refused moment dated
        rw [refused] at rejected
        cases rejected
        have ends : rest = [] ∧ ∃ fault, outcome = .error fault := by
          by_cases expired : fault.code? = some "ERR_JWT_EXPIRED"
          · rw [if_pos expired] at handled
            obtain ⟨rfl, rfl⟩ := runs_throwing_iff.mp handled
            exact ⟨rfl, _, rfl⟩
          · rw [if_neg expired, if_neg code] at handled
            obtain ⟨rfl, rfl⟩ := runs_throwing_iff.mp handled
            exact ⟨rfl, _, rfl⟩
        rw [ends.1]
        exact ⟨moment, only, .inr ⟨dated, ends.2⟩⟩
  · obtain ⟨_, impossible, _⟩ := findKey_of_publishes published search
    cases impossible

end Verification

def clockReading : Event → Option Millis
  | ⟨.now, moment⟩ => some moment
  | _ => none

/-- What the clock shows when the signature is verified. -/
def firstReading (trace : List Event) : Option Millis := trace.findSome? clockReading

theorem clockReading_eq_some {event : Event} {moment : Millis}
    (reads : clockReading event = some moment) : event = ⟨.now, moment⟩ := by
  obtain ⟨op, reply⟩ := event
  cases op with
  | now =>
      cases reads
      rfl
  | _ => cases reads

theorem firstReading_append {first rest : List Event} {moment : Millis}
    (only : ∀ reading, ⟨.now, reading⟩ ∈ first ↔ reading = moment) :
    firstReading (first ++ rest) = some moment := by
  have read : first.findSome? clockReading = some moment := by
    cases found : first.findSome? clockReading with
    | none =>
        have silent := List.findSome?_eq_none_iff.mp found _ ((only moment).mpr rfl)
        cases silent
    | some reading =>
        obtain ⟨event, member, reads⟩ := List.exists_of_findSome?_eq_some found
        rw [clockReading_eq_some reads] at member
        rw [(only reading).mp member]
  rw [firstReading, List.findSome?_append, read, Option.some_or]

/-- The audience that a payload names has this member. A string is a set of one element. -/
def InAudience (aud : Option Json) (expected : String) : Prop :=
  aud = some (.str expected) ∨ ∃ texts, aud = some (strings texts) ∧ expected ∈ texts

/-- A validation of claims that the key named by the token has signed. -/
structure ClaimsRun (P : Platform) (deps : ValidateTokenDeps) (expectedAudience : String) where
  token : String
  key : PublicKey
  claims : Obj
  exp : Rat
  trace : List Event
  outcome : Except Fault ValidatedToken
  run : Runs (validateToken P deps token expectedAudience) trace outcome
  published : Publishes P deps.jwksUri token key trace
  signed : SignedClaims P token key claims
  audience : (∃ text, claims.get? "aud" = some (.str text)) ∨
    ∃ texts, claims.get? "aud" = some (strings texts)
  numericExp : claims.get? "exp" = some (.num exp)
  begun : ∀ nbf moment, claims.get? "nbf" = some (.num nbf) → ⟨.now, moment⟩ ∈ trace →
    1000 * nbf ≤ (moment : Nat)

namespace ClaimsRun

variable {P : Platform} {deps : ValidateTokenDeps} {expectedAudience : String}
  (run : ClaimsRun P deps expectedAudience)

def Accepted : Prop := ∃ validated, run.outcome = .ok validated

/-- What a payload is to be accepted for. -/
structure Entitled : Prop where
  unexpired : ∀ moment, ⟨.now, moment⟩ ∈ run.trace → ((moment : Nat) : Rat) < 1000 * run.exp
  issuer : run.claims.get? "iss" = some (.str deps.expectedIssuer)
  audience : InAudience (run.claims.get? "aud") expectedAudience

/-- What the code asks of a payload: seconds are compared, and texts after `String`. -/
structure Checks : Prop where
  dates : ∀ moment, firstReading run.trace = some moment → WellDated run.claims moment
  unexpired : ∀ moment, ⟨.now, moment⟩ ∈ run.trace → ((toSeconds moment : Nat) : Rat) < run.exp
  audience : Js.textOrEmpty (run.claims.get? "aud") = expectedAudience
  issuer : Js.textOrEmpty (run.claims.get? "iss") = deps.expectedIssuer
  convertible : ∀ name ∈ ["aud", "iss", "scope", "sub"],
    Js.convertible (run.claims.get? name) = true

/-- The expected audience stands beside others; a date is not a number, or begins in the second that
has begun; or a claim that nothing is compared with cannot be converted. -/
inductive Misread : Prop
  | beside (texts : List String) : run.claims.get? "aud" = some (strings texts) →
      expectedAudience ∈ texts → texts ≠ [expectedAudience] → Misread
  | undated (name : String) (value : Json) : name ∈ ["iat", "nbf"] →
      run.claims.get? name = some value → (∀ number, value ≠ .num number) → Misread
  | beginning (nbf : Rat) (moment : Millis) : run.claims.get? "nbf" = some (.num nbf) →
      firstReading run.trace = some moment → ((toSeconds moment : Nat) : Rat) < nbf → Misread
  | unconvertible (name : String) : name ∈ ["scope", "sub"] →
      Js.convertible (run.claims.get? name) = false → Misread

/-- The token ends in the second that has begun, the issuer is no string, or the audience is a list
that only its joined text makes right. -/
inductive Lenient : Prop
  | ending (moment : Millis) : ⟨.now, moment⟩ ∈ run.trace →
      1000 * run.exp ≤ (moment : Nat) → Lenient
  | untypedIssuer : run.claims.get? "iss" ≠ some (.str deps.expectedIssuer) → Lenient
  | joined (texts : List String) : run.claims.get? "aud" = some (strings texts) →
      expectedAudience ∉ texts → Lenient

variable {run}

/-- The clock is read at least for the verification. -/
theorem exists_firstReading (run : ClaimsRun P deps expectedAudience) :
    ∃ moment, firstReading run.trace = some moment := by
  have whole := run.run
  rw [validateToken, runs_bind_iff] at whole
  obtain ⟨payload, verifying, after, parts, verify, -⟩ | ⟨fault, verify, -⟩ := whole
  · have inside : verifying ⊆ run.trace := by
      rw [parts]
      exact List.subset_append_left _ _
    obtain ⟨moment, readings, -⟩ :=
      verifyAgainstJwks_signed (run.published.mono inside) run.signed verify
    rw [parts]
    exact ⟨moment, firstReading_append readings⟩
  · obtain ⟨moment, readings, -⟩ := verifyAgainstJwks_signed run.published run.signed verify
    rw [← List.append_nil run.trace]
    exact ⟨moment, firstReading_append readings⟩

/-- With good dates the checks are those of the code, at the two moments when it reads the clock. -/
theorem passesClaims_iff {payload : JwtPayload} {moment nowMs : Millis}
    (same : payload.claims = run.claims) (dated : WellDated run.claims moment)
    (first : firstReading run.trace = some moment)
    (clock : ∀ reading, ⟨.now, reading⟩ ∈ run.trace ↔ reading = moment ∨ reading = nowMs) :
    PassesClaims deps expectedAudience payload nowMs ↔ run.Checks := by
  have exp : payload.dateOrZero "exp" = run.exp := by
    have numeric := run.numericExp
    rw [← same] at numeric
    simp [JwtPayload.dateOrZero, dateOrZero, numeric]
  constructor
  · intro passes
    exact {
      dates := by
        intro reading read
        rw [first] at read
        cases read
        exact dated
      unexpired := by
        intro reading member
        obtain rfl | rfl := (clock reading).mp member
        · exact dated.unexpired _ run.numericExp
        · rw [← exp]
          exact passes.unexpired
      audience := same ▸ passes.audience
      issuer := same ▸ passes.issuer
      convertible := same ▸ passes.convertible }
  · intro checks
    exact {
      unexpired := by
        rw [exp]
        exact checks.unexpired nowMs ((clock nowMs).mpr (.inr rfl))
      audience := same ▸ checks.audience
      issuer := same ▸ checks.issuer
      convertible := same ▸ checks.convertible }

theorem accepted_iff : run.Accepted ↔ run.Checks := by
  have whole := run.run
  rw [validateToken, runs_bind_iff] at whole
  obtain ⟨payload, verifying, after, parts, verify, rest⟩ | ⟨fault, verify, failed⟩ := whole
  · have inside : verifying ⊆ run.trace := by
      rw [parts]
      exact List.subset_append_left _ _
    obtain ⟨moment, readings, ⟨dated, found, sameClaims, same⟩ | ⟨_, _, impossible⟩⟩ :=
      verifyAgainstJwks_signed (run.published.mono inside) run.signed verify
    · cases same
      rw [Act.now, runs_reply_bind_iff] at rest
      obtain ⟨nowMs, tail, rfl, rest⟩ := rest
      obtain ⟨rfl, checked⟩ := runs_ofExcept_iff.mp rest
      have clock : ∀ reading, ⟨.now, reading⟩ ∈ run.trace ↔ reading = moment ∨ reading = nowMs := by
        intro reading
        rw [parts, List.mem_append, readings]
        simp
      have first : firstReading run.trace = some moment := by
        rw [parts]
        exact firstReading_append readings
      rw [← passesClaims_iff sameClaims dated first clock, Accepted, checked]
      constructor
      · rintro ⟨validated, passed⟩
        exact (checkClaims_ok_iff.mp passed).1
      · intro passes
        exact ⟨_, checkClaims_ok_iff.mpr ⟨passes, rfl⟩⟩
    · cases impossible
  · obtain ⟨moment, readings, ⟨_, _, _, impossible⟩ | ⟨undated, _, _⟩⟩ :=
      verifyAgainstJwks_signed run.published run.signed verify
    · cases impossible
    · constructor
      · rintro ⟨validated, accepted⟩
        rw [failed] at accepted
        cases accepted
      · intro checks
        have first : firstReading run.trace = some moment := by
          rw [← List.append_nil run.trace]
          exact firstReading_append readings
        exact absurd (checks.dates moment first) undated

theorem toSeconds_lt {moment : Millis} {exp : Rat} (early : (moment : Rat) < 1000 * exp) :
    ((toSeconds moment : Nat) : Rat) < exp := by
  have whole : 1000 * toSeconds moment ≤ moment := by
    unfold toSeconds
    omega
  have seconds : (1000 : Rat) * (toSeconds moment : Nat) ≤ moment := by exact_mod_cast whole
  linarith

theorem mem_of_firstReading {trace : List Event} {moment : Millis}
    (first : firstReading trace = some moment) : ⟨.now, moment⟩ ∈ trace := by
  obtain ⟨event, member, reads⟩ := List.exists_of_findSome?_eq_some first
  rwa [clockReading_eq_some reads] at member

theorem inAudience_strings_iff {texts : List String} {expected : String} :
    InAudience (some (strings texts)) expected ↔ expected ∈ texts := by
  constructor
  · rintro (impossible | ⟨others, same, member⟩)
    · cases impossible
    · have items : others = texts := by
        have lists := Json.arr.inj (Option.some.inj same)
        exact (List.map_injective_iff.mpr (fun _ _ => Json.str.inj) lists).symm
      exact items ▸ member
  · intro member
    exact .inr ⟨texts, rfl, member⟩

/-- The rule of `validateUserToken` is membership. -/
theorem audienceMatches_iff (run : ClaimsRun P deps expectedAudience) :
    audienceMatches (run.claims.get? "aud") expectedAudience = true ↔
      InAudience (run.claims.get? "aud") expectedAudience := by
  obtain ⟨text, aud⟩ | ⟨texts, aud⟩ := run.audience
  · rw [aud]
    constructor
    · intro matching
      have same : text = expectedAudience := by simpa [audienceMatches] using matching
      exact .inl (by rw [same])
    · rintro (same | ⟨texts, impossible, _⟩)
      · cases same
        simp [audienceMatches]
      · cases impossible
  · rw [aud, inAudience_strings_iff]
    simp [audienceMatches, strings, Js.isText]

/-- A payload that passes the checks is read in none of these ways. -/
theorem Checks.not_misread (checks : run.Checks) : ¬ run.Misread := by
  intro misread
  obtain ⟨moment, first⟩ := run.exists_firstReading
  have dated := checks.dates moment first
  cases misread with
  | beside texts aud member several =>
      have joined := checks.audience
      rw [aud, strings, Js.textOrEmpty_strings] at joined
      exact several ((Js.intercalate_eq_member_iff member).mp joined)
  | undated name value member present untyped =>
      have dateName : name ∈ ["iat", "nbf", "exp"] := by
        simp only [List.mem_cons, List.not_mem_nil, or_false] at member ⊢
        exact member.elim .inl fun nbf => .inr (.inl nbf)
      obtain ⟨number, same⟩ := dated.numeric name dateName value present
      exact untyped number same
  | beginning nbf other present reading future =>
      rw [first] at reading
      cases reading
      exact absurd (dated.begun nbf present) (not_le.mpr future)
  | unconvertible name member fails =>
      have converts := checks.convertible name (by
        simp only [List.mem_cons, List.not_mem_nil, or_false] at member ⊢
        exact .inr (.inr member))
      rw [fails] at converts
      cases converts

/-- The dates of a payload that deserves to be accepted hold, unless they are misread. -/
theorem Entitled.wellDated (entitled : run.Entitled) (clear : ¬ run.Misread) {moment : Millis}
    (first : firstReading run.trace = some moment) : WellDated run.claims moment where
  numeric := by
    have numeric {name : String} (member : name ∈ ["iat", "nbf"]) {value : Json}
        (present : run.claims.get? name = some value) : ∃ number, value = .num number := by
      by_contra untyped
      exact clear (.undated name value member present fun number same => untyped ⟨number, same⟩)
    intro name member value present
    simp only [List.mem_cons, List.not_mem_nil, or_false] at member
    obtain rfl | rfl | rfl := member
    · exact numeric (by simp) present
    · exact numeric (by simp) present
    · rw [run.numericExp] at present
      cases present
      exact ⟨_, rfl⟩
  begun := by
    intro nbf present
    by_contra future
    exact clear (.beginning nbf moment present first (not_le.mp future))
  unexpired := by
    intro exp present
    rw [run.numericExp] at present
    cases present
    exact toSeconds_lt (entitled.unexpired moment (mem_of_firstReading first))

/-- The audience of a payload that deserves to be accepted is read as the expected one, unless it
is misread. -/
theorem Entitled.readsAudience (entitled : run.Entitled) (clear : ¬ run.Misread) :
    Js.textOrEmpty (run.claims.get? "aud") = expectedAudience ∧
      Js.convertible (run.claims.get? "aud") = true := by
  obtain text | ⟨texts, aud, member⟩ := entitled.audience
  · rw [text]
    exact ⟨Js.textOrEmpty_str _, rfl⟩
  · have alone : texts = [expectedAudience] := by
      by_contra several
      exact clear (.beside texts aud member several)
    rw [aud, alone, strings, Js.textOrEmpty_strings, String.intercalate_singleton]
    exact ⟨rfl, rfl⟩

/-- A payload that deserves to be accepted passes the checks, unless it is misread. -/
theorem Entitled.checks (entitled : run.Entitled) (clear : ¬ run.Misread) : run.Checks := by
  obtain ⟨aud, convertible⟩ := entitled.readsAudience clear
  have others {name : String} (member : name ∈ ["scope", "sub"]) :
      Js.convertible (run.claims.get? name) = true := by
    cases converts : Js.convertible (run.claims.get? name) with
    | true => rfl
    | false => exact absurd (.unconvertible name member converts) clear
  exact {
    dates := fun moment first => entitled.wellDated clear first
    unexpired := fun moment reading => toSeconds_lt (entitled.unexpired moment reading)
    audience := aud
    issuer := by rw [entitled.issuer, Js.textOrEmpty_str]
    convertible := by
      intro name member
      simp only [List.mem_cons, List.not_mem_nil, or_false] at member
      obtain rfl | rfl | rfl | rfl := member
      · exact convertible
      · rw [entitled.issuer]
        rfl
      · exact others (by simp)
      · exact others (by simp) }

/-- A payload that passes the checks deserves it, but for these reasons. -/
theorem Checks.entitled_iff (checks : run.Checks) : run.Entitled ↔ ¬ run.Lenient := by
  constructor
  · intro entitled lenient
    cases lenient with
    | ending moment reading late =>
        exact absurd (entitled.unexpired moment reading) (not_lt.mpr late)
    | untypedIssuer untyped => exact untyped entitled.issuer
    | joined texts aud outside =>
        have inside := entitled.audience
        rw [aud, inAudience_strings_iff] at inside
        exact outside inside
  · intro strict
    exact {
      unexpired := by
        intro moment reading
        by_contra late
        exact strict (.ending moment reading (not_lt.mp late))
      issuer := by
        by_contra untyped
        exact strict (.untypedIssuer untyped)
      audience := by
        obtain ⟨text, aud⟩ | ⟨texts, aud⟩ := run.audience
        · have same := checks.audience
          rw [aud, Js.textOrEmpty_str] at same
          rw [aud, same]
          exact .inl rfl
        · rw [aud, inAudience_strings_iff]
          by_contra outside
          exact strict (.joined texts aud outside) }

/-- Acceptance is what it should be, and the second validator's rule is membership, exactly if the
payload is neither refused nor accepted for one of these reasons. -/
theorem exact_iff (run : ClaimsRun P deps expectedAudience) :
    ((run.Accepted ↔ run.Entitled) ∧
        (audienceMatches (run.claims.get? "aud") expectedAudience = true ↔
          InAudience (run.claims.get? "aud") expectedAudience)) ↔
      ¬ (run.Entitled ∧ run.Misread) ∧ ¬ (run.Checks ∧ run.Lenient) := by
  rw [accepted_iff]
  constructor
  · rintro ⟨same, -⟩
    constructor
    · rintro ⟨entitled, misread⟩
      exact (same.mpr entitled).not_misread misread
    · rintro ⟨checks, lenient⟩
      exact checks.entitled_iff.mp (same.mp checks) lenient
  · rintro ⟨clear, strict⟩
    refine ⟨⟨?_, ?_⟩, run.audienceMatches_iff⟩
    · intro checks
      exact checks.entitled_iff.mpr fun lenient => strict ⟨checks, lenient⟩
    · intro entitled
      exact entitled.checks fun misread => clear ⟨entitled, misread⟩

end ClaimsRun

section Audiences

def audienceClaims (aud : Json) : Obj :=
  [("iss", .str "https://broker"), ("sub", .str "calling-service"), ("aud", aud),
    ("exp", .num 1900), ("iat", .num 1000)]

def audienceRow (aud : Json) : SignedToken where
  token := "token"
  header := [("kid", .str "k1")]
  payload := .ofClaims (audienceClaims aud) rfl
  signer := ⟨7⟩

def audienceTable (aud : Json) : TokenTable where
  tokens := [audienceRow aud]

def audienceServices : SteadyServices where
  moment := 1000000
  keys _ := [("kid", .str "k1") :: TokenTable.jwkOf ⟨7⟩]
  signing := ⟨⟨7⟩, TokenTable.jwkOf ⟨7⟩, "k1"⟩
  signed := "token"

def audienceDeps : ValidateTokenDeps where
  jwksUri := "https://broker/.well-known/jwks.json"
  expectedIssuer := "https://broker"

theorem audience_found (aud : Json) : (audienceTable aud).find "token" = some (audienceRow aud) := by
  simp [TokenTable.find, audienceTable, audienceRow]

theorem audience_kid (aud : Json) :
    readKid (audienceTable aud).platform "token" = some (.str "k1") := by
  have segment : Js.beforeFirst '.' "token" = "token" := by decide +kernel
  simp [readKid, segment, TokenTable.platform, audienceTable, audienceRow, Obj.get?, Js.nullish]

theorem audience_verify (aud : Json) (moment : Millis) :
    (audienceTable aud).platform.jwtVerify "token" ⟨7⟩ ⟨none, moment⟩ =
      if (1900 : Rat) ≤ (toSeconds moment : Nat) then
        .error (.error (some "ERR_JWT_EXPIRED") "\"exp\" claim timestamp check failed")
      else .ok (audienceRow aud).payload := by
  change (audienceTable aud).verify "token" ⟨7⟩ ⟨none, moment⟩ = _
  rw [TokenTable.verify, audience_found]
  rfl

theorem audience_dated (aud : Json) (moment : Millis) : WellDated (audienceClaims aud) moment ↔
    ((toSeconds moment : Nat) : Rat) < 1900 := by
  constructor
  · intro dated
    exact dated.unexpired 1900 rfl
  · intro early
    constructor
    · intro name member value present
      simp only [List.mem_cons, List.not_mem_nil, or_false] at member
      obtain rfl | rfl | rfl := member
      · cases present
        exact ⟨_, rfl⟩
      · cases present
      · cases present
        exact ⟨_, rfl⟩
    · intro nbf present
      cases present
    · intro exp present
      cases present
      exact early

theorem audience_signed (aud : Json) :
    SignedClaims (audienceTable aud).platform "token" ⟨7⟩ (audienceClaims aud) where
  verified moment dated := by
    have early := not_le.mpr ((audience_dated aud moment).mp dated)
    exact ⟨_, rfl, by rw [audience_verify, if_neg early]⟩
  refused moment undated := by
    have late := not_lt.mp (mt (audience_dated aud moment).mpr undated)
    exact ⟨_, by rw [audience_verify, if_pos late], by simp [Fault.code?]⟩

/-- A token for this audience, validated by a service that expects `ledger`. -/
def audienceRun (aud : Json)
    (shape : (∃ text, aud = .str text) ∨ ∃ texts, aud = strings texts) :
    ClaimsRun (audienceTable aud).platform audienceDeps "ledger" where
  token := "token"
  key := ⟨7⟩
  claims := audienceClaims aud
  exp := 1900
  trace := audienceServices.trace
    (validateToken (audienceTable aud).platform audienceDeps "token" "ledger")
  outcome := audienceServices.outcome
    (validateToken (audienceTable aud).platform audienceDeps "token" "ledger")
  run := audienceServices.runs _
  published := by
    intro forced reply fetched
    obtain ⟨_, rfl⟩ := SteadyServices.replied fetched
    refine ⟨_, ("kid", .str "k1") :: TokenTable.jwkOf ⟨7⟩, rfl, ?_, rfl⟩
    rw [audience_kid]
    rfl
  signed := audience_signed aud
  audience := by
    obtain ⟨text, rfl⟩ | ⟨texts, rfl⟩ := shape
    · exact .inl ⟨text, rfl⟩
    · exact .inr ⟨texts, rfl⟩
  numericExp := rfl
  begun nbf moment present _ := by cases present

theorem audienceRun_unexpired {aud : Json}
    {shape : (∃ text, aud = .str text) ∨ ∃ texts, aud = strings texts} {moment : Millis}
    (reading : ⟨.now, moment⟩ ∈ (audienceRun aud shape).trace) :
    ((moment : Nat) : Rat) < 1000 * (audienceRun aud shape).exp := by
  obtain ⟨_, rfl⟩ := SteadyServices.replied reading
  norm_num [audienceRun, SteadyServices.environment, audienceServices]

/-- A token for one audience. -/
def soleRun := audienceRun (.str "ledger") (.inl ⟨_, rfl⟩)

theorem soleRun_exact : (soleRun.Accepted ↔ soleRun.Entitled) ∧
    (audienceMatches (soleRun.claims.get? "aud") "ledger" = true ↔
      InAudience (soleRun.claims.get? "aud") "ledger") := by
  apply soleRun.exact_iff.mpr
  constructor
  · rintro ⟨-, misread⟩
    cases misread with
    | beside texts aud _ _ => cases aud
    | undated name value member present untyped =>
        simp only [List.mem_cons, List.not_mem_nil, or_false] at member
        obtain rfl | rfl := member
        · cases present
          exact untyped _ rfl
        · cases present
    | beginning nbf moment present _ _ => cases present
    | unconvertible name member fails =>
        simp only [List.mem_cons, List.not_mem_nil, or_false] at member
        obtain rfl | rfl := member
        · cases fails
        · cases fails
  · rintro ⟨-, lenient⟩
    cases lenient with
    | ending moment reading late => exact absurd (audienceRun_unexpired reading) (not_lt.mpr late)
    | untypedIssuer untyped => exact untyped rfl
    | joined texts aud _ => cases aud

/-- A token for two audiences. -/
def pairRun := audienceRun (strings ["ledger", "other"]) (.inr ⟨_, rfl⟩)

theorem pairRun_refused : pairRun.Entitled ∧ ¬ pairRun.Accepted ∧
    audienceMatches (pairRun.claims.get? "aud") "ledger" = true := by
  have entitled : pairRun.Entitled := {
    unexpired := fun _ reading => audienceRun_unexpired reading
    issuer := rfl
    audience := .inr ⟨_, rfl, List.mem_cons_self⟩ }
  refine ⟨entitled, ?_, pairRun.audienceMatches_iff.mpr entitled.audience⟩
  intro accepted
  have checks := ClaimsRun.accepted_iff.mp accepted
  exact checks.not_misread
    (.beside ["ledger", "other"] rfl List.mem_cons_self (by simp))

end Audiences

end S2s
