import S2sStack.Effect.Environment
import S2sStack.Middleware.Auth
import S2sStack.TokenTable

set_option autoImplicit false

/- What an evaluation throws: refusals that end the matter, and the nonce challenge. -/
namespace S2s

open Effect Effect.Program
open Js (Json Obj)

/-- An error that is none of the sources' own. -/
def Fault.IsPlain : Fault → Prop
  | .auth _ => False
  | .error _ _ => True

/-- Rejected with 401 and nothing to retry with. -/
def Fault.IsFinal (fault : Fault) : Prop :=
  (rejectionOf fault).status = 401 ∧ (rejectionOf fault).challengeNonce = none

theorem Fault.IsPlain.isFinal {fault : Fault} (plain : fault.IsPlain) : fault.IsFinal := by
  cases fault with
  | auth err => exact plain.elim
  | error code message => exact ⟨rfl, rfl⟩

theorem unauthorized_isFinal (code : ErrorCode) (message : String) :
    (unauthorized code message).IsFinal := ⟨rfl, rfl⟩

theorem plainError_isFinal (message : String) : (plainError message).IsFinal := ⟨rfl, rfl⟩

/-- The error that an operation of an evaluation replied with. -/
def Op.thrown : (op : Op) → op.Reply → Option Fault
  | .redisSet _ _, .error fault => some fault
  | .redisDel _, .error fault => some fault
  | .getKeys _ _, .error fault => some fault
  | .authorize _, .error fault => some fault
  | _, _ => none

/-- A client, a fetch or a policy engine fails, if it does, with an error of its own. -/
def PlainEvent (event : Event) : Prop :=
  ∀ fault, event.op.thrown event.reply = some fault → fault.IsPlain

def PlainEnvironment (env : Environment runtime) : Prop :=
  ∀ history op, PlainEvent ⟨op, env history op⟩

/-- The library functions whose errors the sources let through. -/
structure Platform.ThrowsPlain (P : Platform) : Prop where
  importJWK : ∀ jwk alg fault, P.importJWK jwk alg = .error fault → fault.IsPlain
  thumbprint : ∀ jwk fault, P.calculateJwkThumbprint jwk = .error fault → fault.IsPlain

theorem keyOfJwk_plain {jwk : Json} {fault : Fault}
    (failed : TokenTable.keyOfJwk jwk = .error fault) : fault.IsPlain := by
  unfold TokenTable.keyOfJwk at failed
  split at failed
  · split at failed
    · cases failed
    · cases failed
      trivial
  · cases failed
    trivial

theorem TokenTable.throwsPlain (table : TokenTable) : table.platform.ThrowsPlain where
  importJWK := by
    intro jwk alg fault failed
    exact keyOfJwk_plain failed
  thumbprint := by
    intro jwk fault failed
    simp only [platform] at failed
    cases imported : keyOfJwk jwk with
    | ok key =>
        rw [imported] at failed
        cases failed
    | error thrown =>
        rw [imported] at failed
        cases failed
        exact keyOfJwk_plain imported

theorem yields_plain {α : Type} {env : Environment runtime} (plain : PlainEnvironment env)
    {past trace : List Event} {program : Act α} {result : Except Fault α}
    (yields : Yields env past program trace result) : ∀ event ∈ trace, PlainEvent event := by
  intro event member
  obtain ⟨history, same⟩ := yields.answered member
  rw [same]
  exact plain history event.op

/-- The program throws nothing but final refusals. -/
abbrev OnlyFinal {α : Type} (program : Act α) : Prop := Throws PlainEvent Fault.IsFinal program

/-- The error hands out this nonce. -/
def Fault.Challenges (fault : Fault) (nonce : String) : Prop :=
  (rejectionOf fault).challengeNonce = some nonce

theorem OnlyFinal.not_challenged {α : Type} {env : Environment runtime}
    (plain : PlainEnvironment env) {past trace : List Event} {program : Act α}
    (final : OnlyFinal program) {fault : Fault} {nonce : String}
    (yields : Yields env past program trace (.error fault)) : ¬ fault.Challenges nonce := by
  intro challenges
  have refused := final trace fault yields.runs (yields_plain plain yields)
  have nothing := refused.2.symm.trans challenges
  cases nothing

/-- A challenge comes from behind a part that only throws final refusals. -/
theorem OnlyFinal.challenged_bind {α β : Type} {env : Environment runtime}
    (plain : PlainEnvironment env) {past trace : List Event} {first : Act α} {next : α → Act β}
    (final : OnlyFinal first) {fault : Fault} {nonce : String}
    (yields : Yields env past (first >>= next) trace (.error fault))
    (challenges : fault.Challenges nonce) :
    ∃ value before after, trace = before ++ after ∧ Yields env past first before (.ok value) ∧
      Yields env (past ++ before) (next value) after (.error fault) := by
  rcases yields_bind_iff.mp yields with found | ⟨thrown, head, same⟩
  · exact found
  · cases same
    exact absurd challenges (OnlyFinal.not_challenged plain final head)

section Validation

/-- A command throws nothing but the error it replied with. -/
theorem final_command {α : Type} {op : Op} {read : op.Reply → Except Fault α}
    (replied : ∀ reply fault, read reply = .error fault → op.thrown reply = some fault) :
    OnlyFinal (command op read : Act α) := by
  apply Throws.command
  intro reply fault safe failed
  exact (safe fault (replied reply fault failed)).isFinal

theorem final_getKeys (jwksUri : String) (forced : Bool) :
    OnlyFinal (Act.getKeys jwksUri forced) := by
  apply final_command
  intro reply fault failed
  cases failed
  rfl

theorem final_fail {α : Type} {fault : Fault} (final : fault.IsFinal) :
    OnlyFinal (Act.fail fault : Act α) := Throws.throwing final

theorem final_findKey (jwksUri : String) (kid : Option Json) : OnlyFinal (findKey jwksUri kid) := by
  refine Throws.bind (final_getKeys jwksUri false) fun keys => ?_
  split
  · exact Throws.returning _
  · refine Throws.bind (final_getKeys jwksUri true) fun refreshed => ?_
    split
    · exact Throws.returning _
    · exact final_fail (unauthorized_isFinal _ _)

theorem final_importKey {P : Platform} (library : P.ThrowsPlain) (jwk : Obj) :
    OnlyFinal (ofExcept (importKey P jwk)) := by
  apply Throws.ofExcept
  intro fault failed
  exact (library.importJWK _ _ fault failed).isFinal

theorem verificationFault_isFinal (err : Fault) : (verificationFault err).IsFinal := by
  unfold verificationFault
  split
  · exact unauthorized_isFinal _ _
  · exact unauthorized_isFinal _ _

theorem final_verifyAgainstJwks {P : Platform} (library : P.ThrowsPlain) (jwksUri token : String) :
    OnlyFinal (verifyAgainstJwks P jwksUri token) := by
  refine Throws.bind (final_findKey jwksUri _) fun jwk => ?_
  refine Throws.bind (final_importKey library jwk) fun key => ?_
  apply Throws.catching
  intro fault
  split
  · exact final_fail (unauthorized_isFinal _ _)
  · split
    · refine Throws.bind (final_getKeys jwksUri true) fun refreshed => ?_
      split
      · refine Throws.bind (final_importKey library _) fun refreshedKey => ?_
        apply Throws.catching
        intro second
        exact final_fail (verificationFault_isFinal second)
      · exact final_fail (unauthorized_isFinal _ _)
    · exact final_fail (unauthorized_isFinal _ _)

theorem claimText_isFinal {payload : JwtPayload} {name : String} {fault : Fault}
    (failed : claimText payload name = .error fault) : fault.IsFinal := by
  unfold claimText at failed
  split at failed
  · cases failed
  · cases failed
    exact plainError_isFinal _

theorem checkClaims_isFinal {deps : ValidateTokenDeps} {expectedAudience : String}
    {payload : JwtPayload} {nowMs : Millis} {fault : Fault}
    (failed : checkClaims deps expectedAudience payload nowMs = .error fault) : fault.IsFinal := by
  have reading {name : String} {next : String → Except Fault ValidatedToken}
      (thrown : claimText payload name >>= next = .error fault)
      (later : ∀ text, next text = .error fault → fault.IsFinal) : fault.IsFinal := by
    cases read : claimText payload name with
    | error inner =>
        rw [read] at thrown
        cases thrown
        exact claimText_isFinal read
    | ok text =>
        rw [read] at thrown
        exact later text thrown
  unfold checkClaims at failed
  split at failed
  · cases failed
    exact unauthorized_isFinal _ _
  · refine reading failed fun aud failed => ?_
    split at failed
    · cases failed
      exact unauthorized_isFinal _ _
    · refine reading failed fun iss failed => ?_
      split at failed
      · cases failed
        exact unauthorized_isFinal _ _
      · refine reading failed fun scope failed => ?_
        refine reading failed fun sub failed => ?_
        cases failed

theorem final_validateToken {P : Platform} (library : P.ThrowsPlain) (deps : ValidateTokenDeps)
    (token expectedAudience : String) : OnlyFinal (validateToken P deps token expectedAudience) := by
  refine Throws.bind (final_verifyAgainstJwks library deps.jwksUri token) fun payload => ?_
  refine Throws.bind (Throws.reply _) fun nowMs => ?_
  exact Throws.ofExcept fun fault failed => checkClaims_isFinal failed

end Validation

section Proof

theorem final_replaceError {α : Type} {fault : Fault} (final : fault.IsFinal)
    (result : Except Fault α) : OnlyFinal (ofExcept (replaceError fault result)) := by
  apply Throws.ofExcept
  intro thrown failed
  cases result with
  | ok value => cases failed
  | error inner =>
      cases failed
      exact final

theorem final_proofJwk (header : Obj) : OnlyFinal (ofExcept (proofJwk header)) := by
  apply Throws.ofExcept
  intro fault failed
  unfold proofJwk at failed
  split at failed
  · split at failed
    · cases failed
    · cases failed
      exact unauthorized_isFinal _ _
  · cases failed
    exact unauthorized_isFinal _ _

theorem final_checkMethodAndUrl (input : VerifyDPoPInput) (payload : JwtPayload) :
    OnlyFinal (ofExcept (checkMethodAndUrl input payload)) := by
  apply Throws.ofExcept
  intro fault failed
  unfold checkMethodAndUrl at failed
  split at failed
  · cases failed
  · cases failed
    exact unauthorized_isFinal _ _

theorem final_checkIat (deps : VerifyDPoPDeps) (payload : JwtPayload) (nowMs : Millis) :
    OnlyFinal (ofExcept (checkIat deps payload nowMs)) := by
  apply Throws.ofExcept
  intro fault failed
  unfold checkIat at failed
  split at failed
  · cases failed
    exact unauthorized_isFinal _ _
  · cases failed

theorem final_checkAth (P : Platform) (input : VerifyDPoPInput) (payload : JwtPayload) :
    OnlyFinal (ofExcept (checkAth P input payload)) := by
  apply Throws.ofExcept
  intro fault failed
  unfold checkAth at failed
  split at failed
  · cases failed
  · split at failed
    · cases failed
      exact plainError_isFinal _
    · split at failed
      · cases failed
      · cases failed
        exact unauthorized_isFinal _ _

theorem final_checkProof (P : Platform) (deps : VerifyDPoPDeps) (input : VerifyDPoPInput) :
    OnlyFinal (checkProof P deps input) := by
  have invalid (message : String) : (invalidProof message).IsFinal := unauthorized_isFinal _ _
  refine Throws.bind (final_replaceError (invalid _) _) fun header => ?_
  refine Throws.bind (final_proofJwk header) fun jwk => ?_
  refine Throws.bind (final_replaceError (invalid _) _) fun key => ?_
  refine Throws.bind (Throws.reply _) fun currentDate => ?_
  refine Throws.bind (final_replaceError (invalid _) _) fun payload => ?_
  refine Throws.bind (final_checkMethodAndUrl input payload) fun _ => ?_
  refine Throws.bind (Throws.reply _) fun nowMs => ?_
  refine Throws.bind (final_checkIat deps payload nowMs) fun _ => ?_
  exact Throws.bind (final_checkAth P input payload) fun _ => Throws.returning _

theorem final_redisSet (key : String) (ttlSeconds : Nat) :
    OnlyFinal (Act.redisSet key ttlSeconds) := by
  apply final_command
  intro reply fault failed
  cases failed
  rfl

theorem final_redisDel (key : String) : OnlyFinal (Act.redisDel key) := by
  apply final_command
  intro reply fault failed
  cases failed
  rfl

theorem final_claimJti (deps : VerifyDPoPDeps) (payload : JwtPayload) :
    OnlyFinal (claimJti deps payload) := by
  unfold claimJti
  split
  · split
    · exact final_fail (unauthorized_isFinal _ _)
    · refine Throws.bind (final_redisSet _ _) fun ok => ?_
      split
      · exact Throws.returning _
      · exact final_fail (unauthorized_isFinal _ _)
  · exact final_fail (unauthorized_isFinal _ _)

theorem final_checkBinding {input : VerifyDPoPInput} {thumbprint : String} {fault : Fault}
    (failed : checkBinding input thumbprint = .error fault) : fault.IsFinal := by
  unfold checkBinding at failed
  dsimp only at failed
  split at failed
  · cases failed
    exact unauthorized_isFinal _ _
  · split at failed
    · cases failed
      exact unauthorized_isFinal _ _
    · cases failed

theorem final_boundThumbprint {P : Platform} (library : P.ThrowsPlain) (input : VerifyDPoPInput)
    (jwk : Json) : OnlyFinal (ofExcept (boundThumbprint P input jwk)) := by
  apply Throws.ofExcept
  intro fault failed
  unfold boundThumbprint at failed
  split at failed
  · rename_i thrown computed
    cases failed
    exact (library.thumbprint jwk fault computed).isFinal
  · split at failed
    · rename_i mismatch
      cases failed
      exact final_checkBinding mismatch
    · cases failed

/-- Once the nonce is consumed only final refusals are left. -/
theorem final_afterNonce {P : Platform} (library : P.ThrowsPlain) (deps : VerifyDPoPDeps)
    (input : VerifyDPoPInput) (jwk : Json) (payload : JwtPayload) :
    OnlyFinal (do
      let jti ← claimJti deps payload
      let thumbprint ← ofExcept (boundThumbprint P input jwk)
      return ({ jti := jti, jwkThumbprint := thumbprint, iat := payload.dateOrZero "iat" } :
        DPoPVerificationResult) : Act DPoPVerificationResult) := by
  refine Throws.bind (final_claimJti deps payload) fun jti => ?_
  exact Throws.bind (final_boundThumbprint library input jwk) fun _ => Throws.returning _

end Proof

theorem final_requestAccessToken (req : Request) :
    OnlyFinal (ofExcept (requestAccessToken req)) := by
  apply Throws.ofExcept
  intro fault failed
  unfold requestAccessToken at failed
  dsimp only at failed
  split at failed
  · split at failed
    · cases failed
      exact unauthorized_isFinal _ _
    · cases failed
  · split at failed
    · cases failed
      exact unauthorized_isFinal _ _
    · split at failed
      · cases failed
      · cases failed
        exact unauthorized_isFinal _ _

theorem final_authorize (input : AuthorizeInput) : OnlyFinal (Act.authorize input) := by
  apply final_command
  intro reply fault failed
  cases failed
  rfl

end S2s
