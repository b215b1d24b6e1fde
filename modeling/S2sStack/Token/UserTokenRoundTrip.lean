import S2sStack.Broker.Delegation

set_option autoImplicit false

/- What `validateUserToken` gives back of what `signUserJwt` was given. -/
namespace S2s

open Effect Effect.Program
open Js (Json Obj)

namespace Js.Obj

/-- Setting a name does not matter where it is left out. -/
theorem without_set {name : String} {names : List String} (member : name ∈ names) (value : Json)
    (obj : Obj) : without names (set name value obj) = without names obj := by
  induction obj with
  | nil => simp [set, without, member]
  | cons field rest ih =>
      obtain ⟨key, old⟩ := field
      by_cases same : key = name
      · subst same
        simp [set, without, member]
      · simp only [without] at ih
        simp only [set, same, ↓reduceIte, without, List.filter_cons, ih]

theorem without_without {fewer names : List String} (inside : fewer ⊆ names) (obj : Obj) :
    without names (without fewer obj) = without names obj := by
  rw [without, without, without, List.filter_filter]
  apply List.filter_congr
  intro field _
  by_cases named : field.1 ∈ fewer
  · simp [named, inside named]
  · simp [named]

end Js.Obj

/-- The claims that `signUserJwt` sets or leaves out for itself, whatever the custom ones are. -/
def protocolClaims (opts : SignUserJwtOptions) (input : SignUserJwtInput) (nowSec : Nat)
    (jti : String) : Obj :=
  signedPayload opts { input with customClaims := none } nowSec jti

/-- The user that `signUserJwt` was given. -/
def signedUser (opts : SignUserJwtOptions) (input : SignUserJwtInput) : UserContext where
  sub := input.sub
  roles := input.roles.getD []
  groups := input.groups.getD []
  claims := Obj.without reservedClaims (input.customClaims.getD [])
  issuer := opts.issuer

/-- Where a list is not given, no custom claim has its name. -/
structure ListsOwned (input : SignUserJwtInput) : Prop where
  roles : input.roles = none → Obj.get? "roles" (input.customClaims.getD []) = none
  groups : input.groups = none → Obj.get? "groups" (input.customClaims.getD []) = none

section Payload

variable {opts : SignUserJwtOptions} {input : SignUserJwtInput} {nowSec : Nat} {jti : String}

theorem signedPayload_without :
    extractCustomClaims (signedPayload opts input nowSec jti) =
      Obj.without reservedClaims (input.customClaims.getD []) := by
  have list {name : String} (member : name ∈ reservedClaims) (texts : Option (List String))
      (claims : Obj) : Obj.without reservedClaims (setList name texts claims) =
        Obj.without reservedClaims claims := by
    cases texts with
    | none => rfl
    | some texts => exact Obj.without_set member _ _
  have setters : extractCustomClaims (signedPayload opts input nowSec jti) =
      Obj.without reservedClaims (userClaims input) := by
    unfold extractCustomClaims signedPayload
    rw [Obj.without_set (by decide), Obj.without_set (by decide), Obj.without_set (by decide),
      Obj.without_set (by decide), Obj.without_set (by decide), Obj.without_set (by decide)]
  rw [setters, userClaims, list (by decide), list (by decide)]
  exact Obj.without_without (by decide) _

/-- The setters of `SignJWT` leave every other name as it is. -/
theorem signedPayload_get?_other {name : String}
    (other : name ∉ ["iss", "sub", "aud", "iat", "exp", "jti"]) :
    (signedPayload opts input nowSec jti).get? name = (userClaims input).get? name := by
  simp only [List.mem_cons, List.not_mem_nil, or_false, not_or] at other
  obtain ⟨iss, sub, aud, iat, exp, jti⟩ := other
  unfold signedPayload
  rw [Obj.get?_set_ne _ _ (Ne.symm jti), Obj.get?_set_ne _ _ (Ne.symm exp),
    Obj.get?_set_ne _ _ (Ne.symm iat), Obj.get?_set_ne _ _ (Ne.symm aud),
    Obj.get?_set_ne _ _ (Ne.symm sub), Obj.get?_set_ne _ _ (Ne.symm iss)]

/-- A claim that the signer sets is the one it sets without any custom claims. -/
theorem signedPayload_signed {name : String} (signed : name ∈ signedClaims) :
    (signedPayload opts input nowSec jti).get? name =
      (protocolClaims opts input nowSec jti).get? name := by
  by_cases setter : name ∈ ["iss", "sub", "aud", "iat", "exp", "jti"]
  · simp only [List.mem_cons, List.not_mem_nil, or_false] at setter
    unfold protocolClaims signedPayload
    obtain rfl | rfl | rfl | rfl | rfl | rfl := setter <;>
      simp [Obj.get?_set_ne]
  · rw [protocolClaims, signedPayload_get?_other setter, signedPayload_get?_other setter,
      userClaims_signed _ _ signed, userClaims_signed _ _ signed]

theorem userClaims_roles : (userClaims input).get? "roles" =
    (input.roles.map strings).or (Obj.get? "roles" (input.customClaims.getD [])) := by
  have custom : Obj.get? "roles" (Obj.without signedClaims (input.customClaims.getD [])) =
      Obj.get? "roles" (input.customClaims.getD []) := Obj.get?_without _ (by decide)
  rw [userClaims, get?_setList_ne _ _ (by decide)]
  cases input.roles with
  | none => exact custom
  | some roles => exact Obj.get?_set_self _ _ _

theorem userClaims_groups : (userClaims input).get? "groups" =
    (input.groups.map strings).or (Obj.get? "groups" (input.customClaims.getD [])) := by
  have custom : Obj.get? "groups" (Obj.without signedClaims (input.customClaims.getD [])) =
      Obj.get? "groups" (input.customClaims.getD []) := Obj.get?_without _ (by decide)
  rw [userClaims]
  cases input.groups with
  | none =>
      rw [setList, get?_setList_ne _ _ (by decide)]
      exact custom
  | some groups => exact Obj.get?_set_self _ _ _

theorem normaliseStringList_strings (texts : List String) :
    normaliseStringList (some (strings texts)) = texts :=
  Js.stringItems_strings texts

/-- No custom claim gets in the place of a protocol claim, if both lists are the signer's own. -/
theorem protocolClaims_kept_iff :
    (∀ name ∈ reservedClaims, (signedPayload opts input nowSec jti).get? name =
      (protocolClaims opts input nowSec jti).get? name) ↔ ListsOwned input := by
  have rolesKept : (signedPayload opts input nowSec jti).get? "roles" =
      (protocolClaims opts input nowSec jti).get? "roles" ↔
      (input.roles = none → Obj.get? "roles" (input.customClaims.getD []) = none) := by
    rw [protocolClaims, signedPayload_get?_other (by decide), signedPayload_get?_other (by decide),
      userClaims_roles, userClaims_roles]
    cases input.roles <;> simp
  have groupsKept : (signedPayload opts input nowSec jti).get? "groups" =
      (protocolClaims opts input nowSec jti).get? "groups" ↔
      (input.groups = none → Obj.get? "groups" (input.customClaims.getD []) = none) := by
    rw [protocolClaims, signedPayload_get?_other (by decide), signedPayload_get?_other (by decide),
      userClaims_groups, userClaims_groups]
    cases input.groups <;> simp
  constructor
  · intro kept
    exact ⟨rolesKept.mp (kept "roles" (by decide)), groupsKept.mp (kept "groups" (by decide))⟩
  · intro owned name reserved
    have split : name ∈ signedClaims ∨ name = "roles" ∨ name = "groups" := by
      simp only [reservedClaims, signedClaims, List.mem_cons, List.not_mem_nil, or_false]
        at reserved ⊢
      grind
    obtain signed | rfl | rfl := split
    · exact signedPayload_signed signed
    · exact rolesKept.mpr owned.roles
    · exact groupsKept.mpr owned.groups

/-- The user that is read out of the signed claims. -/
theorem userContext_signedPayload (owned : ListsOwned input) :
    userContext (signedPayload opts input nowSec jti) = signedUser opts input := by
  have sub : (signedPayload opts input nowSec jti).get? "sub" = some (.str input.sub) := by
    simp [signedPayload, Obj.get?_set_ne]
  have iss : (signedPayload opts input nowSec jti).get? "iss" = some (.str opts.issuer) := by
    simp [signedPayload, Obj.get?_set_ne]
  have roles : normaliseStringList ((signedPayload opts input nowSec jti).get? "roles") =
      input.roles.getD [] := by
    rw [signedPayload_get?_other (by decide), userClaims_roles]
    cases given : input.roles with
    | none =>
        rw [owned.roles given]
        rfl
    | some roles => exact normaliseStringList_strings roles
  have groups : normaliseStringList ((signedPayload opts input nowSec jti).get? "groups") =
      input.groups.getD [] := by
    rw [signedPayload_get?_other (by decide), userClaims_groups]
    cases given : input.groups with
    | none =>
        rw [owned.groups given]
        rfl
    | some groups => exact normaliseStringList_strings groups
  rw [userContext, sub, iss, roles, groups, signedPayload_without, Js.textOrEmpty_str,
    Js.textOrEmpty_str, signedUser]

end Payload

/-- A signed user token that is validated under the signer's own key, issuer and audience before it
expires. -/
structure UserRoundTrip (P : Platform) (opts : SignUserJwtOptions) (input : SignUserJwtInput)
    (validator : ValidateUserTokenOptions) where
  token : String
  signing : List Event
  signed : Runs (signUserJwt opts input) signing (.ok token)
  /-- an assignment to `__proto__` sets no claim -/
  ownNames : ∀ field ∈ input.customClaims.getD [], field.1 ≠ "__proto__"
  signs : ∀ header claims key, ⟨.signJwt header claims key, .ok token⟩ ∈ signing →
    SignedWith P header claims key token
  validation : List Event
  outcome : Except Fault UserContext
  validated : Runs (validateUserToken P validator token) validation outcome
  issuer : validator.expectedIssuer = opts.issuer
  audience : opts.audience = .str validator.expectedAudience ∨
    ∃ texts, opts.audience = strings texts ∧ validator.expectedAudience ∈ texts
  published : Publishes P validator.jwksUri token opts.privateKey.publicKey validation
  unexpired : ∀ nowMs moment, ⟨.now, nowMs⟩ ∈ signing → ⟨.now, moment⟩ ∈ validation →
    (toSeconds moment : Rat) < toSeconds nowMs + opts.ttlSeconds.getD 900

namespace UserRoundTrip

variable {P : Platform} {opts : SignUserJwtOptions} {input : SignUserJwtInput}
  {validator : ValidateUserTokenOptions} (trip : UserRoundTrip P opts input validator)

/-- The validator returns the user that the signer was given. -/
def Returned : Prop := trip.outcome = .ok (signedUser opts input)

/-- The protocol claims of the token are the ones it has without custom claims. -/
def Protected : Prop :=
  ∀ nowMs jti header claims key, ⟨.now, nowMs⟩ ∈ trip.signing → ⟨.randomUUID, jti⟩ ∈ trip.signing →
    ⟨.signJwt header claims key, .ok trip.token⟩ ∈ trip.signing → ∀ name ∈ reservedClaims,
      Obj.get? name claims = (protocolClaims opts input (toSeconds nowMs) jti).get? name

theorem outcome_eq : ∃ nowMs jti,
    trip.signing = [⟨.now, nowMs⟩, ⟨.randomUUID, jti⟩, ⟨.signJwt (userJwtHeader opts)
      (signedPayload opts input (toSeconds nowMs) jti) opts.privateKey, .ok trip.token⟩] ∧
    trip.outcome = .ok (userContext (signedPayload opts input (toSeconds nowMs) jti)) := by
  obtain ⟨nowMs, jti, shape⟩ := signUserJwt_runs trip.signed
  have signing : ⟨.signJwt (userJwtHeader opts) (signedPayload opts input (toSeconds nowMs) jti)
      opts.privateKey, .ok trip.token⟩ ∈ trip.signing := by
    rw [shape]
    simp
  have signature := trip.signs _ _ _ signing
  refine ⟨nowMs, jti, shape, ?_⟩
  have expires : dateOrZero (signedPayload opts input (toSeconds nowMs) jti) "exp" =
      toSeconds nowMs + opts.ttlSeconds.getD 900 := by
    simp [dateOrZero, signedPayload, Obj.get?_set_ne]
  have unexpired : ∀ moment, ⟨.now, moment⟩ ∈ trip.validation → (toSeconds moment : Rat) <
      dateOrZero (signedPayload opts input (toSeconds nowMs) jti) "exp" := by
    intro moment read
    rw [expires]
    exact trip.unexpired nowMs moment (by rw [shape]; simp) read
  have verifies : VerifiesTo P trip.token opts.privateKey.publicKey
      (signedPayload opts input (toSeconds nowMs) jti) trip.validation :=
    fun moment read => signature.verified moment (unexpired moment read)
  have issued : (signedPayload opts input (toSeconds nowMs) jti).get? "iss" =
      some (.str validator.expectedIssuer) := by
    rw [trip.issuer]
    simp [signedPayload, Obj.get?_set_ne]
  have aimed : audienceMatches ((signedPayload opts input (toSeconds nowMs) jti).get? "aud")
      validator.expectedAudience = true := by
    have aud : (signedPayload opts input (toSeconds nowMs) jti).get? "aud" = some opts.audience := by
      simp [signedPayload, Obj.get?_set_ne]
    rw [aud]
    obtain single | ⟨texts, several, member⟩ := trip.audience
    · simp [single, audienceMatches]
    · simp [several, strings, audienceMatches, Js.isText, member]
  have passed := validateUserToken_verified trip.published verifies unexpired issued trip.validated
  rwa [aimed, if_pos rfl] at passed

/-- The user comes back, and the protocol claims are protected, exactly if no custom claim has the
name of a list that is not given. -/
theorem faithful_iff : trip.Returned ∧ trip.Protected ↔ ListsOwned input := by
  obtain ⟨nowMs, jti, shape, returned⟩ := trip.outcome_eq
  constructor
  · rintro ⟨-, kept⟩
    have signing : ⟨.signJwt (userJwtHeader opts) (signedPayload opts input (toSeconds nowMs) jti)
        opts.privateKey, .ok trip.token⟩ ∈ trip.signing := by
      rw [shape]
      simp
    have own := kept nowMs jti _ _ _ (by simp [shape]) (by simp [shape]) signing
    exact protocolClaims_kept_iff.mp own
  · intro owned
    refine ⟨returned.trans (congrArg Except.ok (userContext_signedPayload owned)), ?_⟩
    intro nowMs' jti' header claims key clock drawn signs
    simp only [shape, List.mem_cons, Effect.Event.mk.injEq, reduceCtorEq, false_and, or_false,
      false_or, List.not_mem_nil, true_and, heq_eq_eq] at clock drawn
    subst clock drawn
    rw [shape] at signs
    simp only [List.mem_cons, Effect.Event.mk.injEq, reduceCtorEq, false_and, false_or,
      List.not_mem_nil, or_false, Op.signJwt.injEq] at signs
    obtain ⟨⟨rfl, rfl, rfl⟩, -⟩ := signs
    exact protocolClaims_kept_iff.mpr owned

end UserRoundTrip

section Sample

def sampleOptions : SignUserJwtOptions where
  privateKey := ⟨7⟩
  kid := "k1"
  issuer := "iss"
  audience := .str "aud"

def sampleValidator : ValidateUserTokenOptions where
  jwksUri := "https://calling-service/auth/jwks"
  expectedIssuer := "iss"
  expectedAudience := "aud"

def sampleMoment : Millis := 1700000000000

theorem signedPayload_numeric (opts : SignUserJwtOptions) (input : SignUserJwtInput) (nowSec : Nat)
    (jti : String) : ["exp", "nbf", "iat"].all (numericDate (signedPayload opts input nowSec jti)) =
      true := by
  have nbf : (signedPayload opts input nowSec jti).get? "nbf" = none := by
    rw [signedPayload_get?_other (by decide)]
    exact userClaims_signed input _ (by decide)
  have exp : (signedPayload opts input nowSec jti).get? "exp" =
      some (.num (nowSec + opts.ttlSeconds.getD 900)) := by
    simp [signedPayload, Obj.get?_set_ne]
  have iat : (signedPayload opts input nowSec jti).get? "iat" = some (.num nowSec) := by
    simp [signedPayload, Obj.get?_set_ne]
  simp [numericDate, nbf, exp, iat]

def sampleRow (input : SignUserJwtInput) : SignedToken where
  token := "user-jwt"
  header := userJwtHeader sampleOptions
  payload := .ofClaims (signedPayload sampleOptions input (toSeconds sampleMoment) "jti-1")
    (signedPayload_numeric _ _ _ _)
  signer := ⟨7⟩

def sampleTable (input : SignUserJwtInput) : TokenTable where
  tokens := [sampleRow input]

def sampleServices : SteadyServices where
  moment := sampleMoment
  keys _ := [("kid", .str "k1") :: TokenTable.jwkOf ⟨7⟩]
  signing := ⟨⟨7⟩, TokenTable.jwkOf ⟨7⟩, "k1"⟩
  signed := "user-jwt"
  drawn := "jti-1"

theorem sample_found (input : SignUserJwtInput) :
    (sampleTable input).find "user-jwt" = some (sampleRow input) := by
  simp [TokenTable.find, sampleTable, sampleRow]

theorem sample_kid (input : SignUserJwtInput) :
    readKid (sampleTable input).platform "user-jwt" = some (.str "k1") := by
  have segment : Js.beforeFirst '.' "user-jwt" = "user-jwt" := by decide +kernel
  simp [readKid, segment, TokenTable.platform, sampleTable, sampleRow, userJwtHeader, sampleOptions,
    Obj.get?, Js.nullish]

theorem sample_signing (input : SignUserJwtInput) :
    sampleServices.trace (signUserJwt sampleOptions input) = [⟨.now, sampleMoment⟩,
      ⟨.randomUUID, "jti-1"⟩, ⟨.signJwt (userJwtHeader sampleOptions)
        (signedPayload sampleOptions input (toSeconds sampleMoment) "jti-1") ⟨7⟩, .ok "user-jwt"⟩] := rfl

/-- Signed and validated in the same second. -/
def sampleTrip (input : SignUserJwtInput)
    (ownNames : ∀ field ∈ input.customClaims.getD [], field.1 ≠ "__proto__") :
    UserRoundTrip (sampleTable input).platform sampleOptions input sampleValidator where
  token := "user-jwt"
  signing := sampleServices.trace (signUserJwt sampleOptions input)
  signed := sampleServices.runs _
  ownNames := ownNames
  signs header claims key member := by
    have signature : SignedWith (sampleTable input).platform (sampleRow input).header
        (sampleRow input).payload.claims ⟨7⟩ (sampleRow input).token :=
      signedWith_of_row (sample_found input) rfl (sample_kid input)
    rw [sample_signing] at member
    exact signs_of_row rfl signature member
  validation := sampleServices.trace (validateUserToken (sampleTable input).platform sampleValidator
    "user-jwt")
  outcome := sampleServices.outcome (validateUserToken (sampleTable input).platform sampleValidator
    "user-jwt")
  validated := sampleServices.runs _
  issuer := rfl
  audience := .inl rfl
  published := by
    intro forced reply fetched
    obtain ⟨_, rfl⟩ := SteadyServices.replied fetched
    refine ⟨_, ("kid", .str "k1") :: TokenTable.jwkOf ⟨7⟩, rfl, ?_, rfl⟩
    rw [sample_kid]
    rfl
  unexpired := by
    intro nowMs moment clock reading
    obtain ⟨_, rfl⟩ := SteadyServices.replied clock
    obtain ⟨_, rfl⟩ := SteadyServices.replied reading
    have ttl : (0 : Rat) < sampleOptions.ttlSeconds.getD 900 := by norm_num [sampleOptions]
    exact lt_add_of_pos_right _ ttl

/-- Custom claims with the names of protocol claims beside given lists. -/
def givenLists : SignUserJwtInput where
  sub := "u"
  roles := some ["reader"]
  groups := some []
  customClaims := some [("email", .str "a@b.com"), ("iss", .str "attacker"), ("roles", strings ["admin"])]

theorem givenLists_faithful : (sampleTrip givenLists (by decide)).Returned ∧
    (sampleTrip givenLists (by decide)).Protected :=
  (sampleTrip givenLists (by decide)).faithful_iff.mpr ⟨by simp [givenLists], by simp [givenLists]⟩

/-- Custom claims that name roles where none are given. -/
def customRoles : SignUserJwtInput where
  sub := "u"
  roles := none
  groups := none
  customClaims := some [("roles", strings ["admin"])]

theorem customRoles_taken : ¬ (sampleTrip customRoles (by decide)).Returned ∧
    (sampleTrip customRoles (by decide)).outcome.map UserContext.roles = .ok ["admin"] := by
  have taken : (sampleTrip customRoles (by decide)).outcome.map UserContext.roles =
      .ok ["admin"] := by
    decide +kernel
  refine ⟨?_, taken⟩
  intro returned
  rw [returned] at taken
  cases taken

end Sample

end S2s
