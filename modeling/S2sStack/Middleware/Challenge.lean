import S2sStack.Middleware.Refusals

set_option autoImplicit false

/- When an evaluation challenges, and when it returns, in terms of the parts it is made of. -/
namespace S2s

open Effect Effect.Program
open Js (Json Obj)

/-- A request that has passed every check in front of the nonce. -/
structure Presented (P : Platform) (deps : AuthMiddlewareDeps) (env : Environment runtime)
    (past : List Event) (req : Request) (accessToken : String) (validated : ValidatedToken)
    (jwk : Json) (payload : JwtPayload) (validating checking : List Event) : Prop where
  extracted : requestAccessToken req = .ok accessToken
  token : Yields env past (validateToken P deps.validateToken accessToken deps.expectedAudience)
    validating (.ok validated)
  required : deps.dpopRequired = true
  proof : req.headerOrEmpty "dpop" ≠ ""
  checked : Yields env (past ++ validating)
    (checkProof P deps.verifyDPoP (resourceProofInput deps req accessToken validated)) checking
    (.ok (jwk, payload))

/-- The deletion that asks the store for the nonce of a proof, where it has one. -/
def consuming (env : Environment runtime) (past : List Event) (store : RedisNonceStore)
    (payload : JwtPayload) : List Event :=
  let nonce := payload.claims.get? "nonce"
  if Js.truthy nonce then
    [⟨.redisDel (store.key (Js.toText nonce)), env past (.redisDel (store.key (Js.toText nonce)))⟩]
  else []

/-- The proof has no nonce, or one that the store does not hold. -/
def NonceStale (env : Environment runtime) (past : List Event) (store : RedisNonceStore)
    (payload : JwtPayload) : Prop :=
  Js.truthy (payload.claims.get? "nonce") = false ∨
    ∃ count, env past (.redisDel (store.key (Js.toText (payload.claims.get? "nonce")))) =
      .ok count ∧ count ≠ 1

/-- Nothing but its nonce holds the request up, and `nonce` is the one it is given. -/
def HeldUp (P : Platform) (cfg : BrokerAuthConfig) (env : Environment runtime) (past : List Event)
    (req : Request) (nonce : String) : Prop :=
  ∃ accessToken validated jwk payload validating checking,
    Presented P (wireBrokerAuthConfig cfg) env past req accessToken validated jwk payload validating
      checking ∧
    let history := past ++ validating ++ checking
    NonceStale env history cfg.nonceStore payload ∧
      env (history ++ consuming env history cfg.nonceStore payload) .generateDPoPNonce = nonce ∧
      nonce ≠ ""

/-- Token and proof of the request are good, and the policy engine answers for it. -/
def Decided (P : Platform) (cfg : BrokerAuthConfig) (env : Environment runtime)
    (past : List Event) (req : Request) : Prop :=
  let deps := wireBrokerAuthConfig cfg
  ∃ accessToken validated validating proving decision,
    requestAccessToken req = .ok accessToken ∧
    Yields env past (validateToken P deps.validateToken accessToken deps.expectedAudience)
      validating (.ok validated) ∧
    Yields env (past ++ validating) (checkResourceProof P deps req accessToken validated) proving
      (.ok ()) ∧
    env (past ++ validating ++ proving)
      (.authorize (authorizeInput deps req accessToken validated)) = .ok decision

section Challenge

variable {env : Environment runtime} {past trace : List Event}

/-- Issuing a challenge always throws it, with the nonce that was drawn. -/
theorem issueChallenge_yields {α : Type} {store : RedisNonceStore} {outcome : Except Fault α}
    (yields : Yields env past (issueChallenge store) trace outcome) :
    outcome = .error (nonceChallenge (env past .generateDPoPNonce)) := by
  obtain ⟨fresh, reply, shape, failed⟩ := issueChallenge_runs_iff.mp yields.runs
  rw [issueChallenge, Act.generateDPoPNonce, yields_reply_bind_iff] at yields
  obtain ⟨rest, begins, _⟩ := yields
  rw [shape] at begins
  have drawn : fresh = env past .generateDPoPNonce := by
    injection begins with first _
    injection first
  rw [failed, drawn]

theorem issueChallenge_challenges_iff {α : Type} {store : RedisNonceStore} {nonce : String} :
    (∃ trace fault, Yields env past (issueChallenge store : Act α) trace (.error fault) ∧
      fault.Challenges nonce) ↔ env past .generateDPoPNonce = nonce ∧ nonce ≠ "" := by
  have carries (fresh : String) :
      (nonceChallenge fresh).Challenges nonce ↔ fresh = nonce ∧ nonce ≠ "" := by
    simp only [Fault.Challenges, nonceChallenge, rejectionOf]
    split
    · rename_i empty
      subst empty
      simp only [reduceCtorEq, false_iff, not_and, not_not]
      exact Eq.symm
    · rename_i filled
      simp only [Option.some.injEq]
      constructor
      · rintro rfl
        exact ⟨rfl, filled⟩
      · exact And.left
  rw [← carries]
  constructor
  · rintro ⟨trace, fault, yields, challenges⟩
    cases issueChallenge_yields yields
    exact challenges
  · intro challenges
    have yields := yields_exec env past (issueChallenge store : Act α)
    rw [issueChallenge_yields yields] at yields
    exact ⟨_, _, yields, challenges⟩

theorem redisDel_yields {key : String} {reply : Except Fault Nat}
    (answer : env past (.redisDel key) = reply) :
    Yields env past (Act.redisDel key) [⟨.redisDel key, reply⟩] reply := by
  subst answer
  exact yields_command_iff.mpr ⟨rfl, rfl⟩

theorem consume_yields {store : RedisNonceStore} {nonce : String} {count : Nat}
    (answer : env past (.redisDel (store.key nonce)) = .ok count) :
    Yields env past (store.consume nonce) [⟨.redisDel (store.key nonce), .ok count⟩]
      (.ok (decide (count = 1))) :=
  (redisDel_yields answer).bind rfl

theorem consume_yields_error {store : RedisNonceStore} {nonce : String} {fault : Fault}
    (answer : env past (.redisDel (store.key nonce)) = .error fault) :
    Yields env past (store.consume nonce) [⟨.redisDel (store.key nonce), .error fault⟩]
      (.error fault) :=
  (redisDel_yields answer).bind_error

/-- With a store at hand, the nonce check gives a nonce exactly for a stale one. -/
theorem consumeNonce_challenges_iff (plain : PlainEnvironment env) {deps : VerifyDPoPDeps}
    {store : RedisNonceStore} {payload : JwtPayload} {nonce : String}
    (required : deps.requireNonce = true) (present : deps.nonceStore = some store) :
    (∃ trace fault, Yields env past (consumeNonce deps payload) trace (.error fault) ∧
      fault.Challenges nonce) ↔
      NonceStale env past store payload ∧
        env (past ++ consuming env past store payload) .generateDPoPNonce = nonce ∧
        nonce ≠ "" := by
  unfold consumeNonce NonceStale consuming
  simp only [required, present, Bool.not_true, Bool.false_eq_true, ↓reduceIte]
  cases echoed : Js.truthy (payload.claims.get? "nonce") with
  | false =>
      simp only [Bool.not_false, ↓reduceIte, Bool.false_eq_true, List.append_nil, true_or, true_and]
      exact issueChallenge_challenges_iff
  | true =>
      simp only [Bool.not_true, Bool.false_eq_true, ↓reduceIte, reduceCtorEq, false_or]
      generalize Js.toText (payload.claims.get? "nonce") = text
      cases answer : env past (.redisDel (store.key text)) with
      | error failure =>
          have failed : Yields env past
              (store.consume text >>= fun consumed =>
                if consumed then pure () else issueChallenge store)
              [⟨.redisDel (store.key text), .error failure⟩] (.error failure) :=
            (consume_yields_error answer).bind_error
          constructor
          · rintro ⟨trace, fault, yields, challenges⟩
            cases (failed.unique yields).2
            have isPlain := plain past (.redisDel (store.key text)) failure (by rw [answer]; rfl)
            have nothing := isPlain.isFinal.2.symm.trans challenges
            cases nothing
          · rintro ⟨⟨count, impossible, _⟩, _⟩
            cases impossible
      | ok count =>
          simp only [(consume_yields answer).bind_iff, Except.ok.injEq, exists_eq_left',
            decide_eq_true_eq]
          split
          · rename_i removed
            simp only [removed, ne_eq, not_true_eq_false, false_and, iff_false]
            rintro ⟨_, _, ⟨_, _, impossible⟩, _⟩
            cases (yields_done_iff.mp impossible).2
          · rename_i missing
            simp only [ne_eq, missing, not_false_eq_true, true_and]
            rw [← issueChallenge_challenges_iff]
            constructor
            · rintro ⟨_, fault, ⟨after, _, issued⟩, challenges⟩
              exact ⟨after, fault, issued, challenges⟩
            · rintro ⟨after, fault, issued, challenges⟩
              exact ⟨_, fault, ⟨after, rfl, issued⟩, challenges⟩

/-- In a verification behind the checks only the nonce check can challenge. -/
theorem finishProof_challenges_iff {P : Platform} (library : P.ThrowsPlain)
    (plain : PlainEnvironment env) {deps : VerifyDPoPDeps} {input : VerifyDPoPInput} {jwk : Json}
    {payload : JwtPayload} {nonce : String} :
    (∃ trace fault, Yields env past (finishProof P deps input jwk payload) trace (.error fault) ∧
      fault.Challenges nonce) ↔
      ∃ trace fault, Yields env past (consumeNonce deps payload) trace (.error fault) ∧
        fault.Challenges nonce := by
  constructor
  · rintro ⟨trace, fault, yields, challenges⟩
    rw [finishProof] at yields
    rcases yields_bind_iff.mp yields with ⟨_, _, after, _, _, rest⟩ | ⟨thrown, head, same⟩
    · have final := final_afterNonce library deps input jwk payload
      exact absurd challenges (OnlyFinal.not_challenged plain final rest)
    · cases same
      exact ⟨trace, fault, head, challenges⟩
  · rintro ⟨trace, fault, yields, challenges⟩
    exact ⟨trace, fault, yields.bind_error, challenges⟩

theorem checkResourceProof_challenged {P : Platform} (plain : PlainEnvironment env)
    {deps : AuthMiddlewareDeps} {req : Request} {accessToken : String}
    {validated : ValidatedToken} {fault : Fault} {nonce : String}
    (yields : Yields env past (checkResourceProof P deps req accessToken validated) trace
      (.error fault)) (challenges : fault.Challenges nonce) :
    deps.dpopRequired = true ∧ req.headerOrEmpty "dpop" ≠ "" ∧ ∃ jwk payload checking after,
      Yields env past
        (checkProof P deps.verifyDPoP (resourceProofInput deps req accessToken validated)) checking
        (.ok (jwk, payload)) ∧
      Yields env (past ++ checking) (finishProof P deps.verifyDPoP
        (resourceProofInput deps req accessToken validated) jwk payload) after (.error fault) := by
  unfold checkResourceProof at yields
  split at yields
  · cases (yields_done_iff.mp yields).2
  · rename_i required
    split at yields
    · have final := final_fail (α := Unit)
        (unauthorized_isFinal .invalidDpopProof "missing DPoP header")
      exact absurd challenges (OnlyFinal.not_challenged plain final yields)
    · rename_i proof
      rcases yields_bind_iff.mp yields with ⟨_, _, _, _, _, impossible⟩ | ⟨thrown, verify, same⟩
      · cases (yields_done_iff.mp impossible).2
      · cases same
        rw [verifyDPoP] at verify
        obtain ⟨⟨jwk, payload⟩, checking, after, rfl, check, finish⟩ :=
          OnlyFinal.challenged_bind plain (final_checkProof P _ _) verify challenges
        exact ⟨by simpa using required, proof, jwk, payload, checking, after, check, finish⟩

/-- An evaluation challenges exactly where nothing but the nonce holds the request up. -/
theorem evaluate_challenges_iff {P : Platform} (library : P.ThrowsPlain)
    (plain : PlainEnvironment env) {cfg : BrokerAuthConfig} {req : Request} {nonce : String} :
    (∃ trace fault, Yields env past (evaluate P (wireBrokerAuthConfig cfg) req) trace
      (.error fault) ∧ fault.Challenges nonce) ↔ HeldUp P cfg env past req nonce := by
  constructor
  · rintro ⟨trace, fault, yields, challenges⟩
    rw [evaluate] at yields
    obtain ⟨accessToken, _, _, rfl, head, yields⟩ :=
      OnlyFinal.challenged_bind plain (final_requestAccessToken req) yields challenges
    obtain ⟨rfl, extracted⟩ := yields_done_iff.mp head
    rw [List.append_nil] at yields
    obtain ⟨validated, validating, _, rfl, token, yields⟩ :=
      OnlyFinal.challenged_bind plain (final_validateToken library _ _ _) yields challenges
    rcases yields_bind_iff.mp yields with ⟨_, _, _, rfl, _, rest⟩ | ⟨thrown, proving, same⟩
    · obtain ⟨_, _, _, _, _, impossible⟩ :=
        OnlyFinal.challenged_bind plain (final_authorize _) rest challenges
      cases (yields_done_iff.mp impossible).2
    · cases same
      obtain ⟨required, proof, jwk, payload, checking, after, checked, finish⟩ :=
        checkResourceProof_challenged plain proving challenges
      have stale := (consumeNonce_challenges_iff plain rfl rfl).mp
        ((finishProof_challenges_iff library plain).mp ⟨after, fault, finish, challenges⟩)
      exact ⟨accessToken, validated, jwk, payload, validating, checking,
        ⟨extracted.symm, token, required, proof, checked⟩, stale⟩
  · rintro ⟨accessToken, validated, jwk, payload, validating, checking, presented, stale⟩
    have deps : (wireBrokerAuthConfig cfg).verifyDPoP.requireNonce = true ∧
        (wireBrokerAuthConfig cfg).verifyDPoP.nonceStore = some cfg.nonceStore := ⟨rfl, rfl⟩
    have challenged : ∃ trace fault, Yields env (past ++ validating ++ checking)
        (finishProof P (wireBrokerAuthConfig cfg).verifyDPoP
          (resourceProofInput (wireBrokerAuthConfig cfg) req accessToken validated) jwk payload)
        trace (.error fault) ∧ fault.Challenges nonce :=
      (finishProof_challenges_iff library plain).mpr
        ((consumeNonce_challenges_iff plain deps.1 deps.2).mpr stale)
    obtain ⟨finishing, fault, finish, challenges⟩ := challenged
    have proving : Yields env (past ++ validating)
        (checkResourceProof P (wireBrokerAuthConfig cfg) req accessToken validated)
        (checking ++ finishing) (.error fault) := by
      unfold checkResourceProof
      simp only [presented.required, Bool.not_true, Bool.false_eq_true, ↓reduceIte, presented.proof]
      exact (presented.checked.bind finish).bind_error
    exact ⟨_, fault, .ofExcept_bind presented.extracted (presented.token.bind proving.bind_error),
      challenges⟩

/-- An evaluation returns exactly where token and proof are good and the engine answers. -/
theorem evaluate_ok_iff {P : Platform} {cfg : BrokerAuthConfig} {req : Request} :
    (∃ trace verdict, Yields env past (evaluate P (wireBrokerAuthConfig cfg) req) trace
      (.ok verdict)) ↔ Decided P cfg env past req := by
  constructor
  · rintro ⟨trace, verdict, yields⟩
    rw [evaluate, yields_bind_ok] at yields
    obtain ⟨accessToken, _, _, rfl, head, yields⟩ := yields
    obtain ⟨rfl, extracted⟩ := yields_done_iff.mp head
    rw [List.append_nil, yields_bind_ok] at yields
    obtain ⟨validated, validating, _, rfl, token, yields⟩ := yields
    rw [yields_bind_ok] at yields
    obtain ⟨_, proving, _, rfl, proof, yields⟩ := yields
    rw [yields_bind_ok] at yields
    obtain ⟨decision, _, _, rfl, asked, _⟩ := yields
    have answer := (yields_command_iff.mp asked).2
    exact ⟨accessToken, validated, validating, proving, decision, extracted.symm, token, proof,
      answer.symm⟩
  · rintro ⟨accessToken, validated, validating, proving, decision, extracted, token, proof, answer⟩
    have asked : Yields env (past ++ validating ++ proving)
        (Act.authorize (authorizeInput (wireBrokerAuthConfig cfg) req accessToken validated))
        [⟨.authorize _, env _ _⟩] (.ok decision) := yields_command_iff.mpr ⟨rfl, answer.symm⟩
    exact ⟨_, _, .ofExcept_bind extracted (token.bind (proof.bind (asked.bind rfl)))⟩

end Challenge

/-- A rejection is a 401. -/
def Fault.IsRefusal (fault : Fault) : Prop := (rejectionOf fault).status = 401

theorem refuses_issueChallenge {α : Type} (store : RedisNonceStore) :
    Throws PlainEvent Fault.IsRefusal (issueChallenge store : Act α) := by
  intro trace fault run _
  obtain ⟨fresh, _, _, same⟩ := issueChallenge_runs_iff.mp run
  cases same
  rfl

theorem OnlyFinal.refuses {α : Type} {program : Act α} (final : OnlyFinal program) :
    Throws PlainEvent Fault.IsRefusal program :=
  final.mono fun _ refused => refused.1

theorem refuses_consumeNonce (deps : VerifyDPoPDeps) (payload : JwtPayload) :
    Throws PlainEvent Fault.IsRefusal (consumeNonce deps payload) := by
  unfold consumeNonce
  split
  · exact Throws.returning _
  · split
    · exact (final_fail (plainError_isFinal _)).refuses
    · dsimp only
      split
      · exact refuses_issueChallenge _
      · refine Throws.bind ?_ fun consumed => ?_
        · exact Throws.bind (final_redisDel _).refuses fun _ => Throws.returning _
        · split
          · exact Throws.returning _
          · exact refuses_issueChallenge _

theorem refuses_checkResourceProof {P : Platform} (library : P.ThrowsPlain)
    (deps : AuthMiddlewareDeps) (req : Request) (accessToken : String)
    (validated : ValidatedToken) :
    Throws PlainEvent Fault.IsRefusal (checkResourceProof P deps req accessToken validated) := by
  unfold checkResourceProof
  split
  · exact Throws.returning _
  · split
    · exact (final_fail (unauthorized_isFinal _ _)).refuses
    · refine Throws.bind ?_ fun _ => Throws.returning _
      refine Throws.bind (final_checkProof P _ _).refuses fun proof => ?_
      exact Throws.bind (refuses_consumeNonce _ _) fun _ =>
        (final_afterNonce library _ _ _ _).refuses

/-- Whatever an evaluation throws is rejected with 401. -/
theorem refuses_evaluate {P : Platform} (library : P.ThrowsPlain) (deps : AuthMiddlewareDeps)
    (req : Request) : Throws PlainEvent Fault.IsRefusal (evaluate P deps req) := by
  refine Throws.bind (final_requestAccessToken req).refuses fun accessToken => ?_
  refine Throws.bind (final_validateToken library _ _ _).refuses fun validated => ?_
  refine Throws.bind (refuses_checkResourceProof library deps req _ _) fun _ => ?_
  exact Throws.bind (final_authorize _).refuses fun _ => Throws.returning _

end S2s
