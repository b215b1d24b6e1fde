import S2sStack.Effect.Counts
import S2sStack.Token.JwksManager
import S2sStack.Token.ValidateToken
import S2sStack.TokenTable
import Mathlib.Tactic.NormNum

set_option autoImplicit false

/- Validation over a key set that is out of date. -/
namespace S2s

open Effect Effect.Program
open Js (Json Obj)

section Refreshes

def isForcedRefresh : Event → Bool
  | ⟨.getKeys _ true, _⟩ => true
  | _ => false

variable {P : Platform} {jwksUri token : String}

theorem atMost_getKeys : AtMost isForcedRefresh 0 (Act.getKeys jwksUri false) :=
  AtMost.command_other fun _ => rfl

theorem atMost_findKey {kid : Option Json} : AtMost isForcedRefresh 1 (findKey jwksUri kid) := by
  refine AtMost.bind 0 1 atMost_getKeys fun keys => ?_
  split
  · exact (AtMost.done _).mono (Nat.zero_le 1)
  · refine AtMost.bind 1 0 (AtMost.command _ _) fun refreshed => ?_
    split
    · exact AtMost.done _
    · exact AtMost.done _

theorem atMost_verifyNow {key : PublicKey} : AtMost isForcedRefresh 0 (verifyNow P token key) :=
  AtMost.bind 0 0 (AtMost.command_other fun _ => rfl) fun _ => AtMost.done _

/-- One refresh for an unknown `kid`, and one after a wrong signature. -/
theorem atMost_verifyAgainstJwks :
    AtMost isForcedRefresh 2 (verifyAgainstJwks P jwksUri token) := by
  refine AtMost.bind 1 1 atMost_findKey fun jwk => ?_
  refine AtMost.bind 0 1 (AtMost.done _) fun key => ?_
  refine AtMost.catching 0 1 atMost_verifyNow fun fault => ?_
  split
  · exact (AtMost.done _).mono (Nat.zero_le 1)
  · split
    · refine AtMost.bind 1 0 (AtMost.command _ _) fun refreshed => ?_
      split
      · refine AtMost.bind 0 0 (AtMost.done _) fun refreshedKey => ?_
        exact AtMost.catching 0 0 atMost_verifyNow fun _ => AtMost.done _
      · exact AtMost.done _
    · exact (AtMost.done _).mono (Nat.zero_le 1)

theorem atMost_validateToken {deps : ValidateTokenDeps} {expectedAudience : String} :
    AtMost isForcedRefresh 2 (validateToken P deps token expectedAudience) := by
  refine AtMost.bind 2 0 atMost_verifyAgainstJwks fun payload => ?_
  exact AtMost.bind 0 0 (AtMost.command_other fun _ => rfl) fun _ => AtMost.done _

theorem validateToken_forKid {deps : ValidateTokenDeps} {expectedAudience : String}
    {validated : ValidatedToken} {trace : List Event}
    (run : Runs (validateToken P deps token expectedAudience) trace (.ok validated)) :
    ∃ payload, VerifiedForKid P deps.jwksUri token payload trace ∧
      validated = validatedToken payload := by
  rw [validateToken, runs_bind_ok] at run
  obtain ⟨payload, verifying, after, rfl, verified, run⟩ := run
  rw [Act.now, runs_reply_bind_iff] at run
  obtain ⟨nowMs, rest, rfl, run⟩ := run
  have checked := (runs_ofExcept_iff.mp run).2
  have passed := (checkClaims_ok_iff.mp checked.symm).2
  exact ⟨payload, (verifyAgainstJwks_forKid verified).mono (List.subset_append_left _ _), passed⟩

end Refreshes

/-- RSA keys of the token's algorithm: each can be imported, and finds the signature wrong unless it
is the signer's. -/
def SameAlgorithm (P : Platform) (token : String) (signer : PublicKey) (keys : List Obj) : Prop :=
  ∀ jwk ∈ keys, ∃ key, importKey P jwk = .ok key ∧ (key ≠ signer → ∀ moment, ∃ fault,
    P.jwtVerify token key { algorithms := none, currentDate := moment } = .error fault ∧
      fault.code? = some "ERR_JWS_SIGNATURE_VERIFICATION_FAILED")

/-- A validation while the key sets that are cached may be stale. The issuer serves one set, in
which the `kid` of the token names the signer's key, and the token is valid otherwise. -/
structure StaleJwksRun (P : Platform) (deps : ValidateTokenDeps) (opts : JwksManagerOptions)
    (expectedAudience : String) where
  token : String
  kid : Json
  signer : PublicKey
  claims : Obj
  served : List Obj
  trace : List Event
  outcome : Except Fault ValidatedToken
  run : Runs (validateToken P deps token expectedAudience) trace outcome
  hasKid : readKid P token = some kid
  names : ∃ jwk, served.filter (fun k => Js.strictEquals (Obj.get? "kid" k) kid) = [jwk] ∧
    importKey P jwk = .ok signer
  calls : ∀ forced reply, ⟨.getKeys deps.jwksUri forced, reply⟩ ∈ trace → ∃ inner,
    Runs (JwksManager.getKeys opts forced) inner reply ∧
      (∀ found keys, ⟨.look, found⟩ ∈ inner → found.cached = some keys →
        SameAlgorithm P token signer keys) ∧
      ∀ response, ⟨.fetch opts.jwksUri, response⟩ ∈ inner → readJwks response = .ok served
  valid : ∀ moment, ⟨.now, moment⟩ ∈ trace → ∃ payload, payload.claims = claims ∧
    P.jwtVerify token signer { algorithms := none, currentDate := moment } = .ok payload ∧
    PassesClaims deps expectedAudience payload moment

namespace StaleJwksRun

variable {P : Platform} {deps : ValidateTokenDeps} {opts : JwksManagerOptions}
  {expectedAudience : String} (run : StaleJwksRun P deps opts expectedAudience)

def Accepted : Prop :=
  ∃ payload, payload.claims = run.claims ∧ run.outcome = .ok (validatedToken payload)

/-- A call returns the served set, or one that is cached if it is not forced. -/
theorem returned {forced : Bool} {reply : Except Fault (List Obj)}
    (called : ⟨.getKeys deps.jwksUri forced, reply⟩ ∈ run.trace) : ∃ keys, reply = .ok keys ∧
      (keys = run.served ∨ forced = false ∧ SameAlgorithm P run.token run.signer keys) := by
  obtain ⟨inner, ran, stale, fetches⟩ := run.calls forced reply called
  have shape := JwksManager.getKeys_run ran
  cases shape with
  | cached found keys lazy held =>
      exact ⟨keys, rfl, .inr ⟨lazy, stale found keys (by simp) held⟩⟩
  | fetched found rest _ fetch =>
      cases fetch with
      | failed response err threw =>
          have served := fetches response (by simp)
          rw [threw] at served
          cases served
      | stored response keys cachedAtMs read =>
          have served := fetches response (by simp)
          rw [read] at served
          cases served
          exact ⟨_, rfl, .inl rfl⟩

variable {run}

theorem refreshed {reply : Except Fault (List Obj)}
    (called : ⟨.getKeys deps.jwksUri true, reply⟩ ∈ run.trace) : reply = .ok run.served := by
  obtain ⟨keys, same, rfl | ⟨lazy, -⟩⟩ := run.returned called
  · exact same
  · cases lazy

/-- A forced call is followed by what is done with the served set. -/
theorem refetched {α : Type} {next : List Obj → Act α} {part : List Event} {outcome : Except Fault α}
    (inside : part ⊆ run.trace)
    (again : Runs (Act.getKeys deps.jwksUri true >>= next) part outcome) :
    ∃ rest, part = ⟨.getKeys deps.jwksUri true, .ok run.served⟩ :: rest ∧
      Runs (next run.served) rest outcome := by
  rw [runs_bind_iff] at again
  obtain ⟨keys, _, rest, rfl, fetch, again⟩ | ⟨fault, fetch, rfl⟩ := again
  · rw [Act.runs_getKeys_iff] at fetch
    subst fetch
    cases run.refreshed (inside List.mem_cons_self)
    exact ⟨rest, rfl, again⟩
  · rw [Act.runs_getKeys_iff] at fetch
    subst fetch
    cases run.refreshed (inside List.mem_cons_self)

/-- The served set has the signer's key under a `kid` that is not empty. -/
theorem selected (named : run.kid.truthy = true) : ∃ jwk,
    selectKey run.served (readKid P run.token) = some jwk ∧ importKey P jwk = .ok run.signer := by
  obtain ⟨jwk, only, imported⟩ := run.names
  refine ⟨jwk, ?_, imported⟩
  rw [run.hasKid]
  simp only [selectKey, named, ↓reduceIte]
  rw [← List.head?_filter, only]
  rfl

/-- Whatever `findKey` finds can be imported, and is the signer's key or finds the signature
wrong. -/
theorem found (named : run.kid.truthy = true) {searching : List Event}
    {found : Except Fault Obj} (inside : searching ⊆ run.trace)
    (search : Runs (findKey deps.jwksUri (readKid P run.token)) searching found) :
    ∃ jwk key, found = .ok jwk ∧ importKey P jwk = .ok key ∧ (key ≠ run.signer → ∀ moment, ∃ fault,
      P.jwtVerify run.token key { algorithms := none, currentDate := moment } = .error fault ∧
        fault.code? = some "ERR_JWS_SIGNATURE_VERIFICATION_FAILED") := by
  obtain ⟨own, selects, imported⟩ := run.selected named
  rw [findKey, runs_bind_iff] at search
  obtain ⟨keys, first, rest, rfl, fetch, search⟩ | ⟨fault, fetch, rfl⟩ := search
  · rw [Act.runs_getKeys_iff] at fetch
    subst fetch
    obtain ⟨_, same, known⟩ := run.returned (inside List.mem_cons_self)
    cases same
    cases chosen : selectKey keys (readKid P run.token) with
    | some jwk =>
        rw [chosen] at search
        obtain ⟨rfl, rfl⟩ := runs_pure_iff.mp search
        obtain rfl | ⟨-, stale⟩ := known
        · rw [selects] at chosen
          cases chosen
          exact ⟨_, _, rfl, imported, fun other => absurd rfl other⟩
        · obtain ⟨key, imports, wrong⟩ := stale jwk (mem_of_selectKey chosen)
          exact ⟨jwk, key, rfl, imports, wrong⟩
    | none =>
        rw [chosen] at search
        have later : rest ⊆ run.trace := List.Subset.trans (List.subset_append_right _ _) inside
        obtain ⟨_, rfl, anew⟩ := run.refetched later search
        rw [selects] at anew
        obtain ⟨rfl, rfl⟩ := runs_pure_iff.mp anew
        exact ⟨_, _, rfl, imported, fun other => absurd rfl other⟩
  · rw [Act.runs_getKeys_iff] at fetch
    subst fetch
    obtain ⟨_, impossible, _⟩ := run.returned (inside List.mem_cons_self)
    cases impossible

/-- A verification under the signer's key. -/
theorem verifies {verifying : List Event} {result : Except Fault JwtPayload}
    (inside : verifying ⊆ run.trace)
    (verify : Runs (verifyNow P run.token run.signer) verifying result) :
    ∃ payload, payload.claims = run.claims ∧ result = .ok payload := by
  obtain ⟨moment, rfl, rfl⟩ := verifyNow_runs verify
  obtain ⟨payload, same, verified, -⟩ := run.valid moment (inside List.mem_cons_self)
  exact ⟨payload, same, verified⟩

/-- The signature is found good in the end. -/
theorem verified (named : run.kid.truthy = true) {verifying : List Event}
    {result : Except Fault JwtPayload} (inside : verifying ⊆ run.trace)
    (verify : Runs (verifyAgainstJwks P deps.jwksUri run.token) verifying result) :
    ∃ payload, payload.claims = run.claims ∧ result = .ok payload := by
  obtain ⟨own, selects, imported⟩ := run.selected named
  rw [verifyAgainstJwks, runs_bind_iff] at verify
  obtain ⟨jwk, searching, after, rfl, search, rest⟩ | ⟨fault, search, rfl⟩ := verify
  · obtain ⟨_, key, same, imports, wrong⟩ :=
      run.found named (List.Subset.trans (List.subset_append_left _ _) inside) search
    cases same
    have later : after ⊆ run.trace := List.Subset.trans (List.subset_append_right _ _) inside
    rw [imports] at rest
    obtain ⟨payload, verify, rfl⟩ | ⟨fault, before, behind, rfl, failed, handled⟩ :=
      runs_catching_iff.mp rest
    · by_cases signers : key = run.signer
      · subst signers
        exact run.verifies later verify
      · obtain ⟨moment, rfl, accepted⟩ := verifyNow_runs verify
        obtain ⟨fault, refused, -⟩ := wrong signers moment
        rw [refused] at accepted
        cases accepted
    · by_cases signers : key = run.signer
      · subst signers
        obtain ⟨_, _, impossible⟩ :=
          run.verifies (List.Subset.trans (List.subset_append_left _ _) later) failed
        cases impossible
      · obtain ⟨moment, rfl, rejected⟩ := verifyNow_runs failed
        obtain ⟨thrown, refused, code⟩ := wrong signers moment
        rw [refused] at rejected
        cases rejected
        have live : ¬ fault.code? = some "ERR_JWT_EXPIRED" := by simp [code]
        rw [if_neg live, if_pos code] at handled
        have last : behind ⊆ run.trace := List.Subset.trans (List.subset_append_right _ _) later
        obtain ⟨_, rfl, anew⟩ := run.refetched last handled
        rw [selects] at anew
        simp only [imported] at anew
        obtain ⟨payload, verify, rfl⟩ | ⟨err, front, _, rfl, failed, _⟩ :=
          runs_catching_iff.mp anew
        · apply run.verifies _ verify
          intro event member
          exact last (List.mem_cons_of_mem _ member)
        · have inFront : front ⊆ run.trace := by
            intro event member
            exact last (by simp [member])
          obtain ⟨_, _, impossible⟩ := run.verifies inFront failed
          cases impossible
  · obtain ⟨_, _, impossible, _⟩ := run.found named inside search
    cases impossible

/-- A token with a `kid` is accepted, however stale the cached set is. -/
theorem accepted (named : run.kid.truthy = true) : run.Accepted := by
  have whole := run.run
  rw [validateToken, runs_bind_iff] at whole
  obtain ⟨payload, verifying, after, parts, verify, rest⟩ | ⟨fault, verify, failed⟩ := whole
  · have inside : verifying ⊆ run.trace := by
      rw [parts]
      exact List.subset_append_left _ _
    obtain ⟨_, same, returned⟩ := run.verified named inside verify
    cases returned
    rw [Act.now, runs_reply_bind_iff] at rest
    obtain ⟨nowMs, tail, rfl, rest⟩ := rest
    obtain ⟨rfl, checked⟩ := runs_ofExcept_iff.mp rest
    obtain ⟨valid, sameClaims, -, passes⟩ := run.valid nowMs (by rw [parts]; simp)
    have equal : valid = payload := by
      cases valid
      cases payload
      simp only at sameClaims same
      subst sameClaims same
      rfl
    subst equal
    exact ⟨valid, same, checked.trans (checkClaims_ok_iff.mpr ⟨passes, rfl⟩)⟩
  · obtain ⟨_, _, impossible⟩ := run.verified named (List.Subset.refl _) verify
    cases impossible

end StaleJwksRun

/-- Validation over a stale key set accepts a token whose `kid` is not empty; and any validation
returns, with at most two forced refreshes, and accepts only under a key that was returned for the
`kid` of its token. -/
theorem staleJwks_sound (P : Platform) (deps : ValidateTokenDeps) (opts : JwksManagerOptions)
    (expectedAudience : String) :
    (∀ run : StaleJwksRun P deps opts expectedAudience, run.kid.truthy = true → run.Accepted) ∧
      (∀ env token, ∃ trace outcome,
        Yields env [] (validateToken P deps token expectedAudience) trace outcome) ∧
      ∀ token trace outcome, Runs (validateToken P deps token expectedAudience) trace outcome →
        trace.countP isForcedRefresh ≤ 2 ∧ ∀ validated, outcome = .ok validated →
          ∃ payload, VerifiedForKid P deps.jwksUri token payload trace ∧
            validated = validatedToken payload := by
  refine ⟨fun run named => run.accepted named, ?_, ?_⟩
  · intro env token
    exact ⟨_, _, yields_exec env [] _⟩
  · intro token trace outcome run
    refine ⟨atMost_validateToken trace outcome run, ?_⟩
    rintro validated rfl
    exact validateToken_forKid run

section Replaced

def replacedClaims : Obj :=
  [("iss", .str "https://broker"), ("aud", .str "ledger"), ("exp", .num 1900)]

def replacedTable (kid : String) : TokenTable where
  tokens := [⟨"token", [("kid", .str kid)], .ofClaims replacedClaims rfl, ⟨7⟩⟩]

def replacedJwk (kid : String) (pair : Nat) : Obj := ("kid", .str kid) :: TokenTable.jwkOf ⟨pair⟩

/-- Under the same `kid` the issuer has another key now, behind the key of another `kid`. -/
def replacedSet (kid : String) : List Obj := [replacedJwk "other" 8, replacedJwk kid 7]

def replacedDeps : ValidateTokenDeps where
  jwksUri := "https://broker/.well-known/jwks.json"
  expectedIssuer := "https://broker"

def replacedManager : JwksManagerOptions where
  jwksUri := "https://broker/.well-known/jwks.json"
  refreshHours := 24

def replacedServices (kid : String) : Environment runtime
  | _, .getKeys _ false => .ok [replacedJwk kid 9]
  | _, .getKeys _ true => .ok (replacedSet kid)
  | history, op => SteadyServices.environment
      ⟨1000000, fun _ => [], ⟨⟨7⟩, [], "k1"⟩, "token", "drawn", [], ⟨.allow, [], .api⟩⟩ history op

def replacedLook (kid : String) : JwksLook where
  cached := some [replacedJwk kid 9]
  cachedAtMs := 999000
  nowMs := 1000000

def replacedResponse (kid : String) : Except Fault JwksResponse :=
  .ok { status := 200, keys := .ok (replacedSet kid) }

theorem replaced_cached (kid : String) : Runs (JwksManager.getKeys replacedManager false)
    [⟨.look, replacedLook kid⟩] (.ok [replacedJwk kid 9]) := by
  have young : ¬ ((replacedLook kid).cachedAtMs + replacedManager.ttlMs <
      ((replacedLook kid).nowMs : Nat)) := by
    norm_num [replacedLook, replacedManager, JwksManagerOptions.ttlMs]
  rw [JwksManager.getKeys, runs_reply_bind_iff]
  refine ⟨replacedLook kid, [], rfl, ?_⟩
  simp only [replacedLook] at young ⊢
  simp only [young, Bool.false_eq_true, or_self, ↓reduceIte]
  exact .done _

theorem replaced_fetched (kid : String) : Runs (JwksManager.getKeys replacedManager true)
    [⟨.look, replacedLook kid⟩, ⟨.fetch replacedManager.jwksUri, replacedResponse kid⟩,
      ⟨.store (replacedSet kid), 1000000⟩] (.ok (replacedSet kid)) := by
  rw [JwksManager.getKeys, runs_reply_bind_iff]
  refine ⟨replacedLook kid, _, rfl, ?_⟩
  simp only [replacedLook, true_or, ↓reduceIte]
  exact .call _ (.call _ (.done _))

theorem replaced_verify (kid : String) (key : PublicKey) (moment : Millis) :
    (replacedTable kid).platform.jwtVerify "token" key ⟨none, moment⟩ =
      if (⟨7⟩ : PublicKey) ≠ key then
        .error (.error (some "ERR_JWS_SIGNATURE_VERIFICATION_FAILED")
          "signature verification failed")
      else if (1900 : Rat) ≤ (toSeconds moment : Nat) then
        .error (.error (some "ERR_JWT_EXPIRED") "\"exp\" claim timestamp check failed")
      else .ok (.ofClaims replacedClaims rfl) := rfl

theorem replaced_kid (kid : String) :
    readKid (replacedTable kid).platform "token" = some (.str kid) := by
  have segment : Js.beforeFirst '.' "token" = "token" := by decide +kernel
  simp [readKid, segment, TokenTable.platform, replacedTable, Obj.get?, Js.nullish]

theorem replaced_passes {moment : Millis} (early : ((toSeconds moment : Nat) : Rat) < 1900) :
    PassesClaims replacedDeps "ledger" (.ofClaims replacedClaims rfl) moment where
  unexpired := early
  audience := rfl
  issuer := rfl
  convertible := by decide

theorem replaced_sameAlgorithm (kid : String) :
    SameAlgorithm (replacedTable kid).platform "token" ⟨7⟩ [replacedJwk kid 9] := by
  intro jwk member
  rw [List.mem_singleton] at member
  subst member
  refine ⟨⟨9⟩, rfl, ?_⟩
  intro other moment
  exact ⟨_, (replaced_verify kid _ _).trans (if_pos other.symm), rfl⟩

/-- A token under this `kid`, validated while its old key is cached. -/
def replacedRun (kid : String) (other : kid ≠ "other") :
    StaleJwksRun (replacedTable kid).platform replacedDeps replacedManager "ledger" where
  token := "token"
  kid := .str kid
  signer := ⟨7⟩
  claims := replacedClaims
  served := replacedSet kid
  trace := (exec (replacedServices kid) []
    (validateToken (replacedTable kid).platform replacedDeps "token" "ledger")).1
  outcome := (exec (replacedServices kid) []
    (validateToken (replacedTable kid).platform replacedDeps "token" "ledger")).2
  run := exec_runs _ _ _
  hasKid := replaced_kid kid
  names := by
    refine ⟨replacedJwk kid 7, ?_, rfl⟩
    have unlike : ¬ "other" = kid := fun same => other same.symm
    simp [replacedSet, replacedJwk, Obj.get?, Js.strictEquals, unlike]
  calls := by
    intro forced reply called
    obtain ⟨history, same⟩ := (yields_exec _ _ _).answered called
    have replied := eq_of_heq (Effect.Event.mk.inj same).2
    cases forced with
    | true =>
        have served : reply = .ok (replacedSet kid) := replied
        subst served
        refine ⟨_, replaced_fetched kid, ?_, ?_⟩
        · intro found keys looked cached
          have look : found = replacedLook kid := by simpa using looked
          subst look
          cases cached
          exact replaced_sameAlgorithm kid
        · intro response fetched
          have fetch : response = replacedResponse kid := by simpa using fetched
          subst fetch
          rfl
    | false =>
        have stale : reply = .ok [replacedJwk kid 9] := replied
        subst stale
        refine ⟨_, replaced_cached kid, ?_, ?_⟩
        · intro found keys looked cached
          have look : found = replacedLook kid := by simpa using looked
          subst look
          cases cached
          exact replaced_sameAlgorithm kid
        · intro response fetched
          simp at fetched
  valid := by
    intro moment reading
    obtain ⟨history, same⟩ := (yields_exec _ _ _).answered reading
    have moment_eq : moment = 1000000 := eq_of_heq (Effect.Event.mk.inj same).2
    subst moment_eq
    have early : ((toSeconds 1000000 : Nat) : Rat) < 1900 := by norm_num [toSeconds]
    refine ⟨.ofClaims replacedClaims rfl, rfl, ?_, replaced_passes early⟩
    rw [replaced_verify, if_neg (by simp), if_neg (not_le.mpr early)]

theorem replaced_accepted : (replacedRun "k1" (by decide)).Accepted ∧
    (replacedRun "k1" (by decide)).trace.countP isForcedRefresh ≤ 2 := by
  obtain ⟨accepts, -, bounded⟩ := staleJwks_sound (replacedTable "k1").platform replacedDeps
    replacedManager "ledger"
  exact ⟨accepts _ rfl, (bounded _ _ _ (replacedRun "k1" (by decide)).run).1⟩

/-- Under an empty `kid` the first key of the set is used, which is not the signer's. -/
theorem emptyKid_refused : ¬ (replacedRun "" (by decide)).Accepted := by
  rintro ⟨payload, -, accepted⟩
  have refused : (replacedRun "" (by decide)).outcome.isOk = false := by decide +kernel
  rw [accepted] at refused
  cases refused

end Replaced

end S2s
