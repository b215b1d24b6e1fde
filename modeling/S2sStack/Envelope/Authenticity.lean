import S2sStack.Envelope.Delivery
import S2sStack.TokenTable

set_option autoImplicit false

/- Two services on one queue: who signed the envelopes that are accepted under a name. -/
namespace S2s

open Effect Effect.Program
open Js (Json Obj)

/-- Service A under its client id with its key, and service B with another key. -/
structure EnvelopeParties where
  clientId : String
  a : ActiveKey
  b : PrivateKey
  distinct : a.privateKey ≠ b

def EnvelopeParties.principal (parties : EnvelopeParties) : String :=
  servicePrincipal parties.clientId

inductive EnvelopeStep (P : Platform) where
  /-- A signs a message with `signEnvelope`. -/
  | sign (payload : EnvelopePayload) (options : SignEnvelopeOptions) (trace : List Event)
      (message : SignedMessage)
  /-- B signs any JWT it likes. -/
  | forge (header claims : Obj) (token : String)
  /-- Somebody calls `verifyEnvelope`. -/
  | verify (dedupTtlSeconds : Nat) (envelope : String) (payload : EnvelopePayload)
      (options : VerifyEnvelopeOptions) (trace : List Event)
      (outcome : Except Fault VerifiedEnvelope)
  /-- The consumer processes a batch. -/
  | batch (config : ConsumerConfig) (handled : Batch P config)

namespace EnvelopeStep

variable {P : Platform} (parties : EnvelopeParties)

/-- The steps of A and of the consumer are runs of their code; B is free. -/
def Valid : EnvelopeStep P → Prop
  | sign payload options trace message =>
      options.clientId = parties.clientId ∧
        Runs (signEnvelope P (some parties.a) payload options) trace (.ok message)
  | forge _ _ _ => True
  | verify dedupTtlSeconds envelope payload options trace outcome =>
      Runs (verifyEnvelope P dedupTtlSeconds envelope payload options) trace outcome
  | batch config handled =>
      Runs (processOneBatch P config) (handled.steps.map Step.event) handled.outcome

/-- The step signs this envelope with this key. -/
def Signs (key : PrivateKey) (envelope : String) : EnvelopeStep P → Prop
  | sign _ _ trace message =>
      envelope = message.envelope ∧
        ∃ header claims, ⟨.signJwt header claims key, .ok envelope⟩ ∈ trace
  | forge _ _ token => envelope = token ∧ key = parties.b
  | verify _ _ _ _ _ _ => False
  | batch _ _ => False

/-- The step is given this envelope. -/
def Presents (envelope : String) : EnvelopeStep P → Prop
  | sign _ _ _ _ => False
  | forge _ _ _ => False
  | verify _ given _ _ _ _ => envelope = given
  | batch _ handled => ∃ delivery ∈ handled.deliveries, ∃ payload,
      parseMessage P delivery.message = .ok (envelope, payload)

/-- The envelope that the step is given passes the checks with these claims. -/
def Passes (envelope : String) (signed : JwtPayload) : EnvelopeStep P → Prop
  | sign _ _ _ _ => False
  | forge _ _ _ => False
  | verify dedupTtlSeconds given payload options trace _ =>
      envelope = given ∧ PassesChecks P dedupTtlSeconds given payload options trace signed
  | batch config handled => ∃ delivery ∈ handled.deliveries, ∃ payload,
      parseMessage P delivery.message = .ok (envelope, payload) ∧
        PassesChecks P config.dedupTtlSeconds envelope payload
          { expectedQueueArn := config.queueArn } (delivery.judging.map Step.event) signed

/-- The step takes this envelope to come from this principal: `verifyEnvelope` returns the
principal, or the consumer hands it to `authorize`. -/
def Accepts (envelope principal : String) : EnvelopeStep P → Prop
  | sign _ _ _ _ => False
  | forge _ _ _ => False
  | verify _ given _ _ _ outcome =>
      envelope = given ∧ ∃ verified, outcome = .ok verified ∧ verified.principal = principal
  | batch _ handled => ∃ delivery ∈ handled.deliveries, ∃ payload,
      parseMessage P delivery.message = .ok (envelope, payload) ∧
        ∃ input reply, ⟨.authorize input, reply⟩ ∈ delivery.judging.map Step.event ∧
          input.principal = principal

theorem accepts_iff_passes {step : EnvelopeStep P} (valid : step.Valid parties)
    (envelope principal : String) :
    step.Accepts envelope principal ↔
      ∃ signed, step.Passes envelope signed ∧ Js.toText (signed.claims.get? "iss") = principal := by
  cases step with
  | sign payload options trace message => simp [Accepts, Passes]
  | forge header claims token => simp [Accepts, Passes]
  | verify dedupTtlSeconds given payload options trace outcome =>
      simp only [Accepts, Passes, and_assoc, exists_and_left]
      rw [verifyEnvelope_accepts_iff valid principal]
  | batch config handled =>
      constructor
      · rintro ⟨delivery, delivered, payload, parsed, asked⟩
        obtain ⟨signed, passes, named⟩ :=
          (judgeMessage_asks_iff parsed delivery.judged principal).mp asked
        exact ⟨signed, ⟨delivery, delivered, payload, parsed, passes⟩, named⟩
      · rintro ⟨signed, ⟨delivery, delivered, payload, parsed, passes⟩, named⟩
        have asked := (judgeMessage_asks_iff parsed delivery.judged principal).mpr
          ⟨signed, passes, named⟩
        exact ⟨delivery, delivered, payload, parsed, asked⟩

/-- An envelope that passes verifies under the key in its own header. -/
theorem presented_of_passes {step : EnvelopeStep P} {envelope : String} {signed : JwtPayload}
    (passes : step.Passes envelope signed) :
    step.Presents envelope ∧ ∃ key options, envelopeKey P envelope = .ok key ∧
      P.jwtVerify envelope key options = .ok signed := by
  cases step with
  | sign payload options trace message => exact passes.elim
  | forge header claims token => exact passes.elim
  | verify dedupTtlSeconds given payload options trace outcome =>
      obtain ⟨rfl, currentDate, _, _, _, checked, _⟩ := passes
      obtain ⟨key, carried, signature⟩ := checked.signature
      exact ⟨rfl, key, _, carried, signature⟩
  | batch config handled =>
      obtain ⟨delivery, delivered, payload, parsed, currentDate, _, _, _, checked, _⟩ := passes
      obtain ⟨key, carried, signature⟩ := checked.signature
      exact ⟨⟨delivery, delivered, payload, parsed⟩, key, _, carried, signature⟩

/-- Every principal that the consumer hands to `authorize` is that of an accepted envelope. -/
theorem accepts_of_authorize {config : ConsumerConfig} {handled : Batch P config}
    {step : Step runtime Unit} {input : AuthorizeInput}
    {reply : Except Fault AuthorizationResult} (member : step ∈ handled.steps)
    (event : step.event = ⟨.authorize input, reply⟩) :
    ∃ envelope, (EnvelopeStep.batch config handled).Accepts envelope input.principal := by
  obtain ⟨delivery, delivered, judged⟩ := Batch.judging_of_authorize member event
  have asked : ⟨.authorize input, reply⟩ ∈ delivery.judging.map Step.event :=
    List.mem_map.mpr ⟨step, judged, event⟩
  obtain ⟨envelope, payload, _, _, parsed, _, _⟩ := judgeMessage_authorize delivery.judged asked
  exact ⟨envelope, delivery, delivered, payload, parsed, input, reply, asked, rfl⟩

end EnvelopeStep

/-- Some step signs the envelope with the key. -/
def SignedIn {P : Platform} (parties : EnvelopeParties) (key : PrivateKey) (envelope : String)
    (steps : List (EnvelopeStep P)) : Prop :=
  ∃ step ∈ steps, step.Signs parties key envelope

/-- What A, B and the consumer do, where nobody else has their keys: an envelope that
verifies under a key was signed with it before, and has no second signer. -/
structure EnvelopeRun (P : Platform) (parties : EnvelopeParties) where
  steps : List (EnvelopeStep P)
  valid : ∀ step ∈ steps, step.Valid parties
  unforgeable : ∀ before step after, steps = before ++ step :: after →
    ∀ envelope, step.Presents envelope → ∀ key options signed,
      P.jwtVerify envelope key options = .ok signed →
        ∃ signer : PrivateKey, signer.publicKey = key ∧ SignedIn parties signer envelope before
  oneSigner : ∀ envelope first second, SignedIn parties first envelope steps →
    SignedIn parties second envelope steps → first = second

namespace EnvelopeRun

variable {P : Platform} {parties : EnvelopeParties} (run : EnvelopeRun P parties)

/-- Every envelope that is accepted under A's name was signed with A's key before. -/
def Authentic : Prop :=
  ∀ before step after, run.steps = before ++ step :: after → ∀ envelope,
    step.Accepts envelope parties.principal →
      SignedIn parties parties.a.privateKey envelope before

/-- No envelope that passes the checks names A in its `iss` over another key in its header. -/
def CarriesOwnKey : Prop :=
  ∀ step ∈ run.steps, ∀ envelope signed, step.Passes envelope signed →
    Js.toText (signed.claims.get? "iss") = parties.principal →
      envelopeKey P envelope = .ok parties.a.privateKey.publicKey

theorem signedIn_mono {key : PrivateKey} {envelope : String} {steps wider : List (EnvelopeStep P)}
    (signed : SignedIn parties key envelope steps) (within : steps ⊆ wider) :
    SignedIn parties key envelope wider := by
  obtain ⟨step, member, signs⟩ := signed
  exact ⟨step, within member, signs⟩

theorem publicKey_injective {first second : PrivateKey}
    (same : first.publicKey = second.publicKey) : first = second := by
  cases first
  cases second
  cases same
  rfl

/-- What passes the checks was signed before with the key that its header carries. -/
theorem signer_of_passes {before after : List (EnvelopeStep P)} {step : EnvelopeStep P}
    (split : run.steps = before ++ step :: after) {envelope : String} {signed : JwtPayload}
    (passes : step.Passes envelope signed) :
    ∃ signer : PrivateKey, envelopeKey P envelope = .ok signer.publicKey ∧
      SignedIn parties signer envelope before := by
  obtain ⟨presents, key, options, carried, signature⟩ := EnvelopeStep.presented_of_passes passes
  obtain ⟨signer, rfl, bySigner⟩ :=
    run.unforgeable before step after split envelope presents key options signed signature
  exact ⟨signer, carried, bySigner⟩

/-- Names are authentic in exactly the runs in which nobody embeds another key under A's
name; and what the consumer authorizes is always the name of an accepted envelope. -/
theorem authentic_iff :
    (run.Authentic ↔ run.CarriesOwnKey) ∧
    ∀ config handled, .batch config handled ∈ run.steps → ∀ step ∈ handled.steps, ∀ input reply,
      step.event = ⟨.authorize input, reply⟩ → ∃ envelope,
        (EnvelopeStep.batch config handled).Accepts envelope input.principal := by
  refine ⟨⟨?_, ?_⟩, ?_⟩
  · intro authentic step member envelope signed passes named
    obtain ⟨before, after, split⟩ := List.append_of_mem member
    obtain ⟨signer, carried, bySigner⟩ := run.signer_of_passes split passes
    have accepts := (step.accepts_iff_passes parties (run.valid step member) envelope _).mpr
      ⟨signed, passes, named⟩
    have byA := authentic before step after split envelope accepts
    have within : before ⊆ run.steps := by
      rw [split]
      exact List.subset_append_left _ _
    rw [run.oneSigner envelope _ _ (signedIn_mono byA within) (signedIn_mono bySigner within)]
    exact carried
  · intro own before step after split envelope accepts
    have member : step ∈ run.steps := by simp [split]
    obtain ⟨signed, passes, named⟩ :=
      (step.accepts_iff_passes parties (run.valid step member) envelope _).mp accepts
    obtain ⟨signer, carried, bySigner⟩ := run.signer_of_passes split passes
    have carriesA := own step member envelope signed passes named
    rw [carried] at carriesA
    rw [← publicKey_injective (Except.ok.inj carriesA)]
    exact bySigner
  · intro config handled _ step member input reply event
    exact EnvelopeStep.accepts_of_authorize member event

end EnvelopeRun

section Forgery

/-- B's own JWT: A's name in `iss`, B's key in the header. -/
def forgedClaims : Obj :=
  [("iss", .str "ServicePrincipal::calling-service"), ("iat", .num 1000), ("jti", .str "jti-1"),
    ("body_hash", .str "hash"), ("queue_arn", .str "queue"), ("action", .str "submit"),
    ("scopes", strings ["admin"])]

def queueParties : EnvelopeParties where
  clientId := "calling-service"
  a := { publicJwk := TokenTable.jwkOf ⟨1⟩, privateKey := ⟨1⟩ }
  b := ⟨2⟩
  distinct := by decide

def forgedHeader : Obj :=
  envelopeHeader { publicJwk := TokenTable.jwkOf ⟨2⟩, privateKey := queueParties.b }

def forgeryTable : TokenTable where
  tokens := [⟨"forged", forgedHeader, JwtPayload.ofClaims forgedClaims rfl, ⟨2⟩⟩]
  hashes := [("payload-text", "hash")]
  texts := [("payload-text", .obj [("amount", .num 1)]),
    ("message-text", .obj [("envelope", .str "forged"), ("payload", .obj [("amount", .num 1)])])]

def forgeryServices : SteadyServices where
  moment := 1000000
  keys _ := []
  signing := { privateKey := ⟨7⟩, publicJwk := [], kid := "" }
  signed := ""

def forgedMessage : SqsMessage where
  body := some "message-text"
  receiptHandle := some "receipt"

def forgeryConfig : ConsumerConfig where
  queueUrl := "https://queue"
  queueArn := "queue"
  resourcePrefix := "ledger"

def forgedJudging : List Event × Except Fault AuthorizationResult :=
  (judgeMessage forgeryTable.platform forgeryConfig forgedMessage).exec
    forgeryServices.environment []

def forgedDelivery : Delivery forgeryTable.platform forgeryConfig where
  message := forgedMessage
  judging := forgedJudging.1.map (Step.mk () 1000000)
  decided := forgedJudging.2
  deletion := some (1000000, .ok ())
  judged := by
    have events : (forgedJudging.1.map (Step.mk () 1000000 : Event → Step runtime Unit)).map
        Step.event = forgedJudging.1 := by simp [Function.comp_def]
    rw [events]
    exact exec_runs _ _ _
  deletes := by decide +kernel

def forgeryBatch : Batch forgeryTable.platform forgeryConfig := .single 1000000 forgedDelivery

def forgeryStep : EnvelopeStep forgeryTable.platform := .forge forgedHeader forgedClaims "forged"

theorem forgery_presents {envelope : String}
    (presents : (EnvelopeStep.batch forgeryConfig forgeryBatch).Presents envelope) :
    envelope = "forged" := by
  obtain ⟨delivery, delivered, payload, parsed⟩ := presents
  cases List.mem_singleton.mp delivered
  have text : (parseMessage forgeryTable.platform forgedMessage).map Prod.fst = .ok "forged" := by
    decide +kernel
  change parseMessage forgeryTable.platform forgedMessage = _ at parsed
  rw [parsed] at text
  exact Except.ok.inj text

/-- B forges one message and the consumer processes it; A has signed nothing. -/
def forgeryRun : EnvelopeRun forgeryTable.platform queueParties where
  steps := [forgeryStep, .batch forgeryConfig forgeryBatch]
  valid step member := by
    simp only [List.mem_cons, List.not_mem_nil, or_false] at member
    rcases member with rfl | rfl
    · trivial
    · exact forgeryBatch.ran
  unforgeable before step after split envelope presents key options signed signature := by
    obtain ⟨rfl, rfl⟩ | ⟨rfl, rfl⟩ := History.split_pair split
    · exact presents.elim
    · cases forgery_presents presents
      have verified : forgeryTable.verify "forged" key options = .ok signed := signature
      obtain ⟨row, found, signer, _⟩ := TokenTable.verify_ok verified
      cases found
      exact ⟨⟨2⟩, signer, forgeryStep, List.mem_cons_self, rfl, rfl⟩
  oneSigner envelope first second byFirst bySecond := by
    have forged : ∀ key, SignedIn queueParties key envelope
        [forgeryStep, .batch forgeryConfig forgeryBatch] → key = queueParties.b := by
      rintro key ⟨step, member, signs⟩
      simp only [List.mem_cons, List.not_mem_nil, or_false] at member
      rcases member with rfl | rfl
      · exact signs.2
      · exact signs.elim
    rw [forged first byFirst, forged second bySecond]

def forgedInput : AuthorizeInput := envelopeAuthorizeInput forgeryConfig
  { principal := queueParties.principal, action := "submit", claims := forgedClaims,
    verifiedAt := 1000000 }

/-- The consumer asks for a decision on A for a message that B made. -/
theorem forged_not_authentic :
    ∃ (P : Platform) (parties : EnvelopeParties) (run : EnvelopeRun P parties),
      P.PayloadAgrees ∧ ¬ run.Authentic := by
  refine ⟨_, _, forgeryRun, forgeryTable.platform_agrees, fun authentic => ?_⟩
  have asked : (⟨.authorize forgedInput, .ok forgeryServices.decision⟩ : Event) ∈
      forgedJudging.1 := by decide +kernel
  have inBatch : ⟨(), 1000000, ⟨.authorize forgedInput, .ok forgeryServices.decision⟩⟩ ∈
      forgeryBatch.steps := by
    refine List.mem_cons_of_mem _ (List.mem_flatMap.mpr ⟨forgedDelivery, List.mem_singleton_self _, ?_⟩)
    exact List.mem_append_left _ (List.mem_map.mpr ⟨_, asked, rfl⟩)
  obtain ⟨envelope, accepts⟩ := EnvelopeStep.accepts_of_authorize inBatch rfl
  obtain ⟨step, before, signs⟩ := authentic [forgeryStep] _ [] rfl envelope accepts
  cases List.mem_singleton.mp before
  exact queueParties.distinct signs.2

end Forgery

end S2s
