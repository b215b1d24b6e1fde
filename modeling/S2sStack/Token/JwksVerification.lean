import S2sStack.Runtime

set_option autoImplicit false

/- Signature verification against a fetched key set. `validateToken.ts` and
`validateUserToken.ts` contain this part word for word. -/
namespace S2s

open Effect Effect.Program
open Js (Json Obj)

/-- The `kid` in the first segment of a token, or nothing where it cannot be read. -/
def readKid (P : Platform) (token : String) : Option Json :=
  let seg := Js.beforeFirst '.' token
  if seg = "" then none
  else
    match P.parseSegment seg with
    | some (.obj header) => Js.nullish (Obj.get? "kid" header)
    | _ => none

/-- `kid ? keys.find((k) => k.kid === kid) : keys[0]` -/
def selectKey (keys : List Obj) (kid : Option Json) : Option Obj :=
  match kid with
  | some wanted =>
      if wanted.truthy then keys.find? (fun k => Js.strictEquals (Obj.get? "kid" k) wanted)
      else keys.head?
  | none => keys.head?

def findKey (jwksUri : String) (kid : Option Json) : Act Obj := do
  let keys ← Act.getKeys jwksUri false
  match selectKey keys kid with
  | some found => return found
  | none =>
      let refreshed ← Act.getKeys jwksUri true
      match selectKey refreshed kid with
      | some found => return found
      | none => Act.fail (unauthorized .invalidToken "no matching JWKS key")

/-- `importJWK(jwk, jwk.alg ?? 'RS256')` -/
def importKey (P : Platform) (jwk : Obj) : Except Fault PublicKey :=
  P.importJWK (.obj jwk) ((Js.nullish (Obj.get? "alg" jwk)).getD (.str "RS256"))

/-- `jwtVerify(token, key, { currentDate: new Date(now()) })` -/
def verifyNow (P : Platform) (token : String) (key : PublicKey) : Act JwtPayload := do
  let currentDate ← Act.now
  ofExcept (P.jwtVerify token key { algorithms := none, currentDate := currentDate })

def tokenExpired : Fault := unauthorized .tokenExpired "token expired"

def signatureFailed : Fault := unauthorized .invalidToken "signature verification failed"

/-- The two failures a verification error is reported as. -/
def verificationFault (err : Fault) : Fault :=
  if err.code? = some "ERR_JWT_EXPIRED" then tokenExpired else signatureFailed

/-- Verification with one forced refresh of the key set after a wrong signature. Every
pass of the `while (true)` returns or throws, so the loop body runs once. -/
def verifyAgainstJwks (P : Platform) (jwksUri token : String) : Act JwtPayload := do
  let kid := readKid P token
  let jwk ← findKey jwksUri kid
  let key ← ofExcept (importKey P jwk)
  catching (verifyNow P token key) fun e =>
    if e.code? = some "ERR_JWT_EXPIRED" then Act.fail tokenExpired
    else if e.code? = some "ERR_JWS_SIGNATURE_VERIFICATION_FAILED" then do
      let refreshed ← Act.getKeys jwksUri true
      match selectKey refreshed kid with
      | some m => do
          let refreshedKey ← ofExcept (importKey P m)
          catching (verifyNow P token refreshedKey) fun e2 => Act.fail (verificationFault e2)
      | none => Act.fail signatureFailed
    else Act.fail signatureFailed

/-- The operations of a token validation. -/
def isValidationOp : Op → Prop
  | .now | .getKeys _ _ => True
  | _ => False

/-- The payload was verified under a key that `jwksUri` published during the run, at a
clock reading of the run. -/
def VerifiedUnder (P : Platform) (jwksUri token : String) (payload : JwtPayload)
    (trace : List Event) : Prop :=
  ∃ forced keys jwk key moment, ⟨.getKeys jwksUri forced, .ok keys⟩ ∈ trace ∧ jwk ∈ keys ∧
    importKey P jwk = .ok key ∧ ⟨.now, moment⟩ ∈ trace ∧
    P.jwtVerify token key { algorithms := none, currentDate := moment } = .ok payload

theorem VerifiedUnder.mono {P : Platform} {jwksUri token : String} {payload : JwtPayload}
    {trace wider : List Event} (verified : VerifiedUnder P jwksUri token payload trace)
    (within : trace ⊆ wider) : VerifiedUnder P jwksUri token payload wider := by
  obtain ⟨forced, keys, jwk, key, moment, fetched, member, imported, read, accepted⟩ := verified
  exact ⟨forced, keys, jwk, key, moment, within fetched, member, imported, within read, accepted⟩

/-- And it is the key that was returned for the `kid` of the token. -/
def VerifiedForKid (P : Platform) (jwksUri token : String) (payload : JwtPayload)
    (trace : List Event) : Prop :=
  ∃ forced keys jwk key moment, ⟨.getKeys jwksUri forced, .ok keys⟩ ∈ trace ∧
    selectKey keys (readKid P token) = some jwk ∧ importKey P jwk = .ok key ∧
    ⟨.now, moment⟩ ∈ trace ∧
    P.jwtVerify token key { algorithms := none, currentDate := moment } = .ok payload

theorem VerifiedForKid.mono {P : Platform} {jwksUri token : String} {payload : JwtPayload}
    {trace wider : List Event} (verified : VerifiedForKid P jwksUri token payload trace)
    (within : trace ⊆ wider) : VerifiedForKid P jwksUri token payload wider := by
  obtain ⟨forced, keys, jwk, key, moment, fetched, selected, imported, read, accepted⟩ := verified
  exact ⟨forced, keys, jwk, key, moment, within fetched, selected, imported, within read, accepted⟩

theorem VerifiedUnder.decoded {P : Platform} (agrees : P.PayloadAgrees) {jwksUri token : String}
    {payload : JwtPayload} {trace : List Event}
    (verified : VerifiedUnder P jwksUri token payload trace) :
    P.decodeJwt token = .ok payload.claims := by
  obtain ⟨_, _, _, key, moment, _, _, _, _, accepted⟩ := verified
  exact agrees token key _ payload accepted

theorem mem_of_selectKey {keys : List Obj} {kid : Option Json} {jwk : Obj}
    (selected : selectKey keys kid = some jwk) : jwk ∈ keys := by
  unfold selectKey at selected
  split at selected
  · split at selected
    · exact List.mem_of_find?_eq_some selected
    · exact List.mem_of_head? selected
  · exact List.mem_of_head? selected

theorem findKey_ok {jwksUri : String} {kid : Option Json} {jwk : Obj} {trace : List Event}
    (run : Runs (findKey jwksUri kid) trace (.ok jwk)) :
    ∃ forced keys, ⟨.getKeys jwksUri forced, .ok keys⟩ ∈ trace ∧
      selectKey keys kid = some jwk := by
  rw [findKey, runs_bind_ok] at run
  obtain ⟨keys, before, after, rfl, fetched, run⟩ := run
  rw [Act.runs_getKeys_iff] at fetched
  split at run
  · rename_i found selected
    rw [runs_pure_iff] at run
    cases run.2
    exact ⟨false, keys, by simp [fetched], selected⟩
  · rw [runs_bind_ok] at run
    obtain ⟨refreshed, _, _, rfl, refetched, run⟩ := run
    rw [Act.runs_getKeys_iff] at refetched
    split at run
    · rename_i found selected
      rw [runs_pure_iff] at run
      cases run.2
      exact ⟨true, refreshed, by simp [refetched], selected⟩
    · rw [Act.fail, runs_throwing_iff] at run
      cases run.2

theorem verifyNow_runs {P : Platform} {token : String} {key : PublicKey} {trace : List Event}
    {outcome : Except Fault JwtPayload} (run : Runs (verifyNow P token key) trace outcome) :
    ∃ moment, trace = [⟨.now, moment⟩] ∧
      outcome = P.jwtVerify token key { algorithms := none, currentDate := moment } := by
  rw [verifyNow, runs_bind_iff] at run
  rcases run with ⟨moment, before, after, rfl, read, run⟩ | ⟨_, read, _⟩
  · rw [Act.runs_now_iff] at read
    obtain ⟨reading, rfl, same⟩ := read
    rw [runs_ofExcept_iff] at run
    obtain ⟨rfl, rfl⟩ := run
    cases same
    exact ⟨moment, rfl, rfl⟩
  · rw [Act.runs_now_iff] at read
    obtain ⟨_, _, impossible⟩ := read
    cases impossible

theorem VerifiedForKid.verifiedUnder {P : Platform} {jwksUri token : String} {payload : JwtPayload}
    {trace : List Event} (verified : VerifiedForKid P jwksUri token payload trace) :
    VerifiedUnder P jwksUri token payload trace := by
  obtain ⟨forced, keys, jwk, key, moment, fetched, selected, imported, read, accepted⟩ := verified
  exact ⟨forced, keys, jwk, key, moment, fetched, mem_of_selectKey selected, imported, read,
    accepted⟩

/-- A verification under a selected key that succeeded. -/
theorem VerifiedForKid.of_verifyNow {P : Platform} {jwksUri token : String} {payload : JwtPayload}
    {forced : Bool} {keys : List Obj} {jwk : Obj} {key : PublicKey}
    {fetching verifying : List Event} (fetched : ⟨.getKeys jwksUri forced, .ok keys⟩ ∈ fetching)
    (selected : selectKey keys (readKid P token) = some jwk) (imported : importKey P jwk = .ok key)
    (verified : Runs (verifyNow P token key) verifying (.ok payload)) :
    VerifiedForKid P jwksUri token payload (fetching ++ verifying) := by
  obtain ⟨moment, rfl, accepted⟩ := verifyNow_runs verified
  exact ⟨forced, keys, jwk, key, moment, List.mem_append_left _ fetched, selected, imported,
    List.mem_append_right _ List.mem_cons_self, accepted.symm⟩

theorem verifyAgainstJwks_forKid {P : Platform} {jwksUri token : String} {payload : JwtPayload}
    {trace : List Event} (run : Runs (verifyAgainstJwks P jwksUri token) trace (.ok payload)) :
    VerifiedForKid P jwksUri token payload trace := by
  rw [verifyAgainstJwks, runs_bind_ok] at run
  obtain ⟨jwk, searching, after, rfl, search, run⟩ := run
  obtain ⟨forced, keys, fetched, selected⟩ := findKey_ok search
  rw [runs_ofExcept_bind_ok] at run
  obtain ⟨key, imported, run⟩ := run
  rw [runs_catching_iff] at run
  rcases run with ⟨value, verified, same⟩ | ⟨fault, _, retrying, rfl, _, run⟩
  · cases same
    exact .of_verifyNow fetched selected imported verified
  · split at run
    · cases (runs_throwing_iff.mp run).2
    · split at run
      · rw [runs_bind_ok] at run
        obtain ⟨refreshed, _, after, rfl, refetched, run⟩ := run
        rw [Act.runs_getKeys_iff] at refetched
        split at run
        · rename_i m reselected
          rw [runs_ofExcept_bind_ok] at run
          obtain ⟨key, reimported, run⟩ := run
          rw [runs_catching_iff] at run
          rcases run with ⟨value, verified, same⟩ | ⟨_, _, _, _, _, run⟩
          · cases same
            have member : ⟨.getKeys jwksUri true, .ok refreshed⟩ ∈
                ([⟨.getKeys jwksUri true, .ok refreshed⟩] : List Event) := List.mem_cons_self
            have found := VerifiedForKid.of_verifyNow member reselected reimported verified
            rw [refetched]
            apply found.mono
            intro event inside
            simp only [List.mem_append] at inside ⊢
            exact .inr (.inr inside)
          · cases (runs_throwing_iff.mp run).2
        · cases (runs_throwing_iff.mp run).2
      · cases (runs_throwing_iff.mp run).2

theorem verifyAgainstJwks_ok {P : Platform} {jwksUri token : String} {payload : JwtPayload}
    {trace : List Event} (run : Runs (verifyAgainstJwks P jwksUri token) trace (.ok payload)) :
    VerifiedUnder P jwksUri token payload trace := (verifyAgainstJwks_forKid run).verifiedUnder

/-- Every key set fetched in the run has the key under which the token verifies. -/
def Publishes (P : Platform) (jwksUri token : String) (key : PublicKey) (trace : List Event) :
    Prop :=
  ∀ forced reply, ⟨.getKeys jwksUri forced, reply⟩ ∈ trace → ∃ keys jwk, reply = .ok keys ∧
    selectKey keys (readKid P token) = some jwk ∧ importKey P jwk = .ok key

/-- At every clock reading of the run the token verifies under the key, with these claims. -/
def VerifiesTo (P : Platform) (token : String) (key : PublicKey) (claims : Obj)
    (trace : List Event) : Prop :=
  ∀ moment, ⟨.now, moment⟩ ∈ trace → ∃ payload, payload.claims = claims ∧
    P.jwtVerify token key { algorithms := none, currentDate := moment } = .ok payload

theorem Publishes.mono {P : Platform} {jwksUri token : String} {key : PublicKey}
    {trace part : List Event} (published : Publishes P jwksUri token key trace)
    (within : part ⊆ trace) : Publishes P jwksUri token key part :=
  fun forced reply fetched => published forced reply (within fetched)

theorem VerifiesTo.mono {P : Platform} {token : String} {key : PublicKey} {claims : Obj}
    {trace part : List Event} (verifies : VerifiesTo P token key claims trace)
    (within : part ⊆ trace) : VerifiesTo P token key claims part :=
  fun moment read => verifies moment (within read)

/-- A published key is found in the first set. -/
theorem findKey_of_publishes {P : Platform} {jwksUri token : String} {key : PublicKey}
    {trace : List Event} {outcome : Except Fault Obj}
    (published : Publishes P jwksUri token key trace)
    (run : Runs (findKey jwksUri (readKid P token)) trace outcome) :
    ∃ jwk, outcome = .ok jwk ∧ importKey P jwk = .ok key := by
  rw [findKey, runs_bind_iff] at run
  rcases run with ⟨keys, before, after, rfl, fetch, run⟩ | ⟨fault, fetch, rfl⟩
  · rw [Act.runs_getKeys_iff] at fetch
    subst fetch
    obtain ⟨_, jwk, same, selected, imported⟩ := published false (.ok keys) (by simp)
    cases same
    rw [selected] at run
    exact ⟨jwk, (runs_pure_iff.mp run).2, imported⟩
  · rw [Act.runs_getKeys_iff] at fetch
    subst fetch
    obtain ⟨_, _, impossible, _⟩ := published false (.error fault) List.mem_cons_self
    cases impossible

theorem verifyNow_of_verifiesTo {P : Platform} {token : String} {key : PublicKey} {claims : Obj}
    {trace : List Event} {outcome : Except Fault JwtPayload}
    (verifies : VerifiesTo P token key claims trace)
    (run : Runs (verifyNow P token key) trace outcome) :
    ∃ payload, outcome = .ok payload ∧ payload.claims = claims := by
  obtain ⟨moment, rfl, rfl⟩ := verifyNow_runs run
  obtain ⟨payload, same, verified⟩ := verifies moment List.mem_cons_self
  exact ⟨payload, verified, same⟩

/-- A token signed with a published key passes, whatever else the run does. -/
theorem verifyAgainstJwks_accepts {P : Platform} {jwksUri token : String} {key : PublicKey}
    {claims : Obj} {trace : List Event} {outcome : Except Fault JwtPayload}
    (published : Publishes P jwksUri token key trace)
    (verifies : VerifiesTo P token key claims trace)
    (run : Runs (verifyAgainstJwks P jwksUri token) trace outcome) :
    ∃ payload, outcome = .ok payload ∧ payload.claims = claims := by
  rw [verifyAgainstJwks, runs_bind_iff] at run
  rcases run with ⟨jwk, searching, after, rfl, search, run⟩ | ⟨fault, search, rfl⟩
  · obtain ⟨_, same, imported⟩ :=
      findKey_of_publishes (published.mono (List.subset_append_left _ _)) search
    cases same
    have rest := verifies.mono (List.subset_append_right searching after)
    rw [imported] at run
    rcases runs_catching_iff.mp run with ⟨payload, verified, rfl⟩ | ⟨_, before, _, rfl, failed, _⟩
    · exact verifyNow_of_verifiesTo rest verified
    · obtain ⟨_, impossible, _⟩ :=
        verifyNow_of_verifiesTo (rest.mono (List.subset_append_left _ _)) failed
      cases impossible
  · obtain ⟨_, impossible, _⟩ := findKey_of_publishes published search
    cases impossible

theorem within_now : Within isValidationOp Act.now := Within.command trivial

theorem within_getKeys (jwksUri : String) (forced : Bool) :
    Within isValidationOp (Act.getKeys jwksUri forced) := Within.command trivial

theorem within_findKey (jwksUri : String) (kid : Option Json) :
    Within isValidationOp (findKey jwksUri kid) := by
  refine Within.bind (within_getKeys jwksUri false) fun keys => ?_
  split
  · exact Within.done _
  · refine Within.bind (within_getKeys jwksUri true) fun refreshed => ?_
    split
    · exact Within.done _
    · exact Within.done _

theorem within_verifyNow (P : Platform) (token : String) (key : PublicKey) :
    Within isValidationOp (verifyNow P token key) :=
  Within.bind within_now (fun _ => Within.done _)

theorem within_verifyAgainstJwks (P : Platform) (jwksUri token : String) :
    Within isValidationOp (verifyAgainstJwks P jwksUri token) := by
  refine Within.bind (within_findKey jwksUri _) fun jwk => ?_
  refine Within.bind (Within.ofExcept _) fun key => ?_
  refine Within.catching (within_verifyNow P token key) fun fault => ?_
  split
  · exact Within.done _
  · split
    · refine Within.bind (within_getKeys jwksUri true) fun refreshed => ?_
      split
      · refine Within.bind (Within.ofExcept _) fun refreshedKey => ?_
        exact Within.catching (within_verifyNow P token refreshedKey) (fun _ => Within.done _)
      · exact Within.done _
    · exact Within.done _

end S2s
