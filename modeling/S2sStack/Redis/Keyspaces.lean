import S2sStack.Broker.TokenRouter
import S2sStack.Dpop.ExchangeProof
import S2sStack.Envelope.Verify
import S2sStack.Redis.Access
import S2sStack.Service.BrokerAuthMiddleware
import S2sStack.Token.TokenStores

set_option autoImplicit false

/- The key spaces of one Redis that all subsystems share. -/
namespace S2s

open Effect Effect.Program
open Js (Json Obj)

/-- What the keys begin with, where no configuration says otherwise: the `jti`s of proofs and of
exchange proofs, the nonces of the SDK and of the services, the `jti`s of subject tokens and of
envelopes, and cached tokens. -/
def defaultOpenings : List String :=
  ["dpop:jti:", "dpop-exchange:", "dpop:nonce:", "dpop-nonce:", "ledger-dpop-nonce:", "broker:jti:",
    "env:jti:", "m2m:"]

def VerifyDPoPDeps.jtiOpening (deps : VerifyDPoPDeps) : String :=
  deps.jtiKeyPrefix.getD "dpop:jti:"

def RedisNonceStore.opening (store : RedisNonceStore) : String :=
  store.prefix?.getD "dpop:nonce:"

def VerifyDPoPDeps.nonceOpenings (deps : VerifyDPoPDeps) : List String :=
  deps.nonceStore.toList.map RedisNonceStore.opening

def ReplayStore.opening (store : ReplayStore) : String := store.keyPrefix.getD "broker:jti:"

/-- What the subsystems do in front of Redis: whole verifications, and their parts. -/
inductive RedisUse where
  | verifyDPoP (deps : VerifyDPoPDeps) (input : VerifyDPoPInput)
  | consumeNonce (deps : VerifyDPoPDeps) (payload : JwtPayload)
  | claimJti (deps : VerifyDPoPDeps) (payload : JwtPayload)
  | issue (store : RedisNonceStore) (nonce : String)
  | consume (store : RedisNonceStore) (nonce : String)
  | claim (store : ReplayStore) (jti : String)
  | verifyEnvelope (dedupTtlSeconds : Nat) (envelope : String) (payload : EnvelopePayload)
      (options : VerifyEnvelopeOptions)
  | cache (asked : CacheCall)

namespace RedisUse

def client (P : Platform) (texts : TokenTexts) : RedisUse → RedisClient
  | verifyDPoP deps input => runtimeClient (S2s.verifyDPoP P deps input)
  | consumeNonce deps payload => runtimeClient (S2s.consumeNonce deps payload)
  | claimJti deps payload => runtimeClient (S2s.claimJti deps payload)
  | issue store nonce => runtimeClient (store.issue nonce)
  | consume store nonce => runtimeClient (store.consume nonce)
  | claim store jti => runtimeClient (store.claim jti)
  | verifyEnvelope dedupTtlSeconds envelope payload options =>
      runtimeClient (S2s.verifyEnvelope P dedupTtlSeconds envelope payload options)
  | cache asked => cacheClient texts (asked.program P)

/-- What the keys that it goes to begin with. -/
def openings : RedisUse → List String
  | verifyDPoP deps _ => deps.jtiOpening :: deps.nonceOpenings
  | consumeNonce deps _ => deps.nonceOpenings
  | claimJti deps _ => [deps.jtiOpening]
  | issue store _ => [store.opening]
  | consume store _ => [store.opening]
  | claim store _ => [store.opening]
  | verifyEnvelope _ _ _ _ => ["env:jti:"]
  | cache _ => ["m2m:"]

end RedisUse

/-- The key begins with one of these. -/
def OpensWith (openings : List String) (key : String) : Prop :=
  ∃ opening ∈ openings, ∃ suffix, key = opening ++ suffix

theorem opensWith_append {openings : List String} {opening : String} (member : opening ∈ openings)
    (suffix : String) : OpensWith openings (opening ++ suffix) :=
  ⟨opening, member, suffix, rfl⟩

section Confined

variable {openings : List String}

/-- The operations that go to keys with these openings, or not to Redis. -/
def goesTo (openings : List String) : Op → Prop
  | .redisSet key _ | .redisDel key => OpensWith openings key
  | _ => True

def cacheGoesTo (openings : List String) : CacheOp → Prop
  | .redisSet key _ _ | .redisGet key => OpensWith openings key
  | _ => True

theorem visits_of_goesTo {α : Type} {program : Act α} {op : Op} (goes : goesTo openings op) :
    (runtimeClient program).Visits (OpensWith openings) op := by
  intro key serve access
  cases op with
  | redisSet other ttlSeconds =>
      cases access
      exact goes
  | redisDel other =>
      cases access
      exact goes
  | _ => cases access

theorem visits_of_cacheGoesTo {α : Type} {texts : TokenTexts} {program : Caching α} {op : CacheOp}
    (goes : cacheGoesTo openings op) :
    (cacheClient texts program).Visits (OpensWith openings) op := by
  intro key serve access
  cases op with
  | redisSet other entry ttlSeconds =>
      cases access
      exact goes
  | redisGet other =>
      cases access
      exact goes
  | _ => cases access

theorem goesTo_issue {store : RedisNonceStore} (member : store.opening ∈ openings)
    (nonce : String) : Within (goesTo openings) (store.issue nonce) := by
  refine Within.bind (Within.command (opensWith_append member nonce)) fun ok => ?_
  split
  · exact Within.done _
  · exact Within.done _

theorem goesTo_consume {store : RedisNonceStore} (member : store.opening ∈ openings)
    (nonce : String) : Within (goesTo openings) (store.consume nonce) :=
  Within.bind (Within.command (opensWith_append member nonce)) fun _ => Within.done _

theorem goesTo_issueChallenge {α : Type} {store : RedisNonceStore}
    (member : store.opening ∈ openings) :
    Within (goesTo openings) (issueChallenge store : Act α) := by
  refine Within.bind (Within.command trivial) fun fresh => ?_
  exact Within.bind (Within.attempt (goesTo_issue member fresh)) fun _ => Within.done _

theorem goesTo_consumeNonce {deps : VerifyDPoPDeps} (members : deps.nonceOpenings ⊆ openings)
    (payload : JwtPayload) : Within (goesTo openings) (consumeNonce deps payload) := by
  unfold consumeNonce
  split
  · exact Within.done _
  · split
    · exact Within.done _
    · rename_i store present
      have member : store.opening ∈ openings := by
        apply members
        rw [VerifyDPoPDeps.nonceOpenings, present]
        exact List.mem_singleton_self _
      dsimp only
      split
      · exact goesTo_issueChallenge member
      · refine Within.bind (goesTo_consume member _) fun consumed => ?_
        split
        · exact Within.done _
        · exact goesTo_issueChallenge member

theorem goesTo_claimJti {deps : VerifyDPoPDeps} (member : deps.jtiOpening ∈ openings)
    (payload : JwtPayload) : Within (goesTo openings) (claimJti deps payload) := by
  unfold claimJti
  split
  · rename_i jti _
    split
    · exact Within.done _
    · refine Within.bind (Within.command (opensWith_append member jti.toText)) fun ok => ?_
      split
      · exact Within.done _
      · exact Within.done _
  · exact Within.done _

theorem goesTo_verifyDPoP (P : Platform) {deps : VerifyDPoPDeps}
    (jti : deps.jtiOpening ∈ openings) (nonces : deps.nonceOpenings ⊆ openings)
    (input : VerifyDPoPInput) : Within (goesTo openings) (verifyDPoP P deps input) := by
  refine Within.bind (within_checkProof trivial trivial P deps input) fun proof => ?_
  refine Within.bind (goesTo_consumeNonce nonces proof.2) fun _ => ?_
  refine Within.bind (goesTo_claimJti jti proof.2) fun jti => ?_
  exact Within.bind (Within.ofExcept _) fun _ => Within.done _

theorem goesTo_claim {store : ReplayStore} (member : store.opening ∈ openings) (jti : String) :
    Within (goesTo openings) (store.claim jti) :=
  Within.catching (Within.command (opensWith_append member jti)) fun _ => Within.done _

theorem goesTo_verifyEnvelope (P : Platform) (dedupTtlSeconds : Nat) (envelope : String)
    (payload : EnvelopePayload) (options : VerifyEnvelopeOptions)
    (member : "env:jti:" ∈ openings) :
    Within (goesTo openings) (verifyEnvelope P dedupTtlSeconds envelope payload options) := by
  have deduplicated (claims : Obj) :
      Within (goesTo openings) (dedup dedupTtlSeconds options claims) := by
    unfold dedup
    split
    · exact Within.done _
    · refine Within.bind (Within.command (opensWith_append member _)) fun ok => ?_
      split
      · exact Within.done _
      · exact Within.done _
  refine Within.bind (Within.ofExcept _) fun key => ?_
  refine Within.bind (Within.command trivial) fun currentDate => ?_
  refine Within.bind (Within.ofExcept _) fun verified => ?_
  refine Within.bind (Within.ofExcept _) fun _ => ?_
  refine Within.bind (Within.ofExcept _) fun _ => ?_
  refine Within.bind (Within.command trivial) fun nowMs => ?_
  refine Within.bind (Within.ofExcept _) fun _ => ?_
  refine Within.bind (deduplicated verified.claims) fun _ => ?_
  exact Within.bind (Within.command trivial) fun _ => Within.done _

theorem opensWith_cacheKey (P : Platform) (clientId : String) (scopes : List String)
    (member : "m2m:" ∈ openings) : OpensWith openings (TokenCache.cacheKey P clientId scopes) := by
  refine ⟨"m2m:", member,
    clientId ++ (":" ++ P.sha256Hex (",".intercalate (Js.sortTexts scopes)).toUTF8), ?_⟩
  rw [TokenCache.cacheKey, String.append_assoc, String.append_assoc]

theorem cacheGoesTo_set (P : Platform) (clientId : String) (entry : CachedToken)
    (member : "m2m:" ∈ openings) :
    Within (cacheGoesTo openings) (TokenCache.set P clientId entry) := by
  refine Within.bind (Within.command trivial) fun nowMs => ?_
  refine Within.bind (Within.command trivial) fun _ => ?_
  exact Within.command (opensWith_cacheKey P clientId entry.scopes member)

theorem cacheGoesTo_readThrough {key : String} (opens : OpensWith openings key) (nowMs : Millis) :
    Within (cacheGoesTo openings) (TokenCache.readThrough key nowMs) := by
  refine Within.bind (Within.command opens) fun raw => ?_
  cases raw with
  | none => exact Within.done _
  | some parsed =>
      dsimp only
      split
      · exact Within.bind (Within.command trivial) fun _ => Within.done _
      · exact Within.done _

theorem cacheGoesTo_get (P : Platform) (clientId : String) (scopes : List String)
    (member : "m2m:" ∈ openings) :
    Within (cacheGoesTo openings) (TokenCache.get P clientId scopes) := by
  have opens := opensWith_cacheKey P clientId scopes member
  refine Within.bind (Within.command trivial) fun nowMs => ?_
  refine Within.bind (Within.command trivial) fun l1 => ?_
  cases l1 with
  | none => exact cacheGoesTo_readThrough opens nowMs
  | some entry =>
      dsimp only
      split
      · exact Within.done _
      · exact Within.bind (Within.command trivial) fun _ => cacheGoesTo_readThrough opens nowMs

theorem cacheGoesTo_getStale (P : Platform) (clientId : String) (scopes : List String)
    (member : "m2m:" ∈ openings) :
    Within (cacheGoesTo openings) (TokenCache.getStale P clientId scopes) :=
  Within.bind (Within.command (opensWith_cacheKey P clientId scopes member)) fun _ => Within.done _

theorem cacheGoesTo_acquire (P : Platform) (clientId : String) (scopes : List String)
    (forceRefresh : Bool) (member : "m2m:" ∈ openings) :
    Within (cacheGoesTo openings) (acquire P clientId scopes forceRefresh) := by
  have cached : Within (cacheGoesTo openings) (cachedToken P clientId scopes forceRefresh) := by
    unfold cachedToken
    split
    · exact Within.done _
    · exact cacheGoesTo_get P clientId scopes member
  refine Within.bind cached fun found => ?_
  cases found with
  | some token => exact Within.done _
  | none =>
      refine Within.catching ?_ fun err => ?_
      · refine Within.bind (Within.command trivial) fun response => ?_
        refine Within.bind (Within.command trivial) fun nowMs => ?_
        exact Within.bind (cacheGoesTo_set P clientId _ member) fun _ => Within.done _
      · refine Within.bind (cacheGoesTo_getStale P clientId scopes member) fun stale => ?_
        cases stale with
        | some token => exact Within.done _
        | none => exact Within.done _

theorem cacheGoesTo_program (P : Platform) (asked : CacheCall) (member : "m2m:" ∈ openings) :
    Within (cacheGoesTo openings) (asked.program P) := by
  cases asked with
  | set clientId entry =>
      exact Within.bind (cacheGoesTo_set P clientId entry member) fun _ => Within.done _
  | get clientId scopes => exact cacheGoesTo_get P clientId scopes member
  | getStale clientId scopes => exact cacheGoesTo_getStale P clientId scopes member
  | acquire clientId scopes forceRefresh =>
      exact Within.bind (cacheGoesTo_acquire P clientId scopes forceRefresh member) fun _ =>
        Within.done _
  | clearL1 => exact Within.bind (Within.command trivial) fun _ => Within.done _

/-- A use goes to keys with its openings only. -/
theorem RedisUse.confined (P : Platform) (texts : TokenTexts) (use : RedisUse) :
    (use.client P texts).start.Confined (OpensWith use.openings) := by
  have here {α : Type} {program : Act α} {openings : List String}
      (within : Within (goesTo openings) program) :
      (runtimeClient program).start.Confined (OpensWith openings) :=
    Within.mono within fun _ goes => visits_of_goesTo goes
  cases use with
  | verifyDPoP deps input =>
      exact here (goesTo_verifyDPoP P List.mem_cons_self (List.subset_cons_self _ _) input)
  | consumeNonce deps payload => exact here (goesTo_consumeNonce (List.Subset.refl _) payload)
  | claimJti deps payload => exact here (goesTo_claimJti (List.mem_singleton_self _) payload)
  | issue store nonce => exact here (goesTo_issue (List.mem_singleton_self _) nonce)
  | consume store nonce => exact here (goesTo_consume (List.mem_singleton_self _) nonce)
  | claim store jti => exact here (goesTo_claim (List.mem_singleton_self _) jti)
  | verifyEnvelope dedupTtlSeconds envelope payload options =>
      exact here (goesTo_verifyEnvelope P dedupTtlSeconds envelope payload options
        (List.mem_singleton_self _))
  | cache asked =>
      exact Within.mono (cacheGoesTo_program P asked (List.mem_singleton_self _)) fun _ goes =>
        visits_of_cacheGoesTo goes

end Confined

theorem defaultOpenings_unlike : ∀ one ∈ defaultOpenings, ∀ other ∈ defaultOpenings, one ≠ other →
    ¬ one.toList <+: other.toList := by
  decide

/-- Keys of two key spaces differ, whatever comes after their openings. -/
theorem default_keys_ne {one other : String} (mine : one ∈ defaultOpenings)
    (yours : other ∈ defaultOpenings) (different : one ≠ other) (first second : String) :
    one ++ first ≠ other ++ second :=
  append_ne one other (defaultOpenings_unlike one mine other yours different)
    (defaultOpenings_unlike other yours one mine different.symm) first second

/-- The use keeps to these key spaces. -/
def RedisUse.KeepsTo (mine : String → Prop) (use : RedisUse) : Prop :=
  ∀ opening ∈ use.openings, mine opening

instance (mine : String → Prop) [DecidablePred mine] (use : RedisUse) :
    Decidable (use.KeepsTo mine) :=
  inferInstanceAs (Decidable (∀ opening ∈ use.openings, mine opening))

/-- The configurations of the sources: the SDK's middleware where no other prefix is given, the two
services, the verifier of exchange proofs and the replay store of the broker. -/
theorem openings_default (cfg : BrokerAuthConfig) (unset : cfg.nonceKeyPrefix = none)
    (service : BrokerServiceConfig) (opts : ExchangeProofVerifierOptions) (ttlSeconds : Nat)
    (jti : String) (input : VerifyDPoPInput) :
    ∀ use ∈ [RedisUse.verifyDPoP (wireBrokerAuthConfig cfg).verifyDPoP input,
        .verifyDPoP (serviceDeps "dpop-nonce:" "receiving" service).verifyDPoP input,
        .verifyDPoP (serviceDeps "ledger-dpop-nonce:" "ledger" service).verifyDPoP input,
        .verifyDPoP (exchangeProofDeps opts) input, .claim { ttlSeconds := ttlSeconds } jti],
      use.KeepsTo (· ∈ defaultOpenings) := by
  have sdk : (RedisUse.verifyDPoP (wireBrokerAuthConfig cfg).verifyDPoP input).openings =
      ["dpop:jti:", "dpop:nonce:"] := by
    simp [RedisUse.openings, wireBrokerAuthConfig, BrokerAuthConfig.nonceStore, unset,
      VerifyDPoPDeps.jtiOpening, VerifyDPoPDeps.nonceOpenings, RedisNonceStore.opening]
  simp only [List.forall_mem_cons, RedisUse.KeepsTo, sdk]
  refine ⟨by decide, ?_, ?_, ?_, ?_, fun _ impossible => absurd impossible List.not_mem_nil⟩
  · change ∀ opening ∈ ["dpop:jti:", "dpop-nonce:"], opening ∈ defaultOpenings
    decide
  · change ∀ opening ∈ ["dpop:jti:", "ledger-dpop-nonce:"], opening ∈ defaultOpenings
    decide
  · change ∀ opening ∈ ["dpop-exchange:"], opening ∈ defaultOpenings
    decide
  · change ∀ opening ∈ ["broker:jti:"], opening ∈ defaultOpenings
    decide

section Shared

variable {P : Platform} {texts : TokenTexts} {Thread : Type}

/-- The uses of one Redis, all of them with the default openings. -/
structure DefaultUses (Thread : Type) where
  use : Thread → RedisUse
  default : ∀ thread, (use thread).KeepsTo (· ∈ defaultOpenings)

namespace DefaultUses

variable (uses : DefaultUses Thread)

abbrev clients (P : Platform) (texts : TokenTexts) (uses : DefaultUses Thread) :
    Thread → RedisClient :=
  fun thread => (uses.use thread).client P texts

/-- Each use keeps to these key spaces or keeps away from them. -/
def Splits (mine : String → Prop) : Prop :=
  ∀ thread, (uses.use thread).KeepsTo mine ∨ (uses.use thread).KeepsTo fun opening => ¬ mine opening

variable {uses} {mine : String → Prop}

theorem initial_confined (store : String → RedisCell) :
    (SharedStore.initial (uses.clients P texts) store).Confined
      fun thread => OpensWith (uses.use thread).openings :=
  fun thread => (uses.use thread).confined P texts

/-- A key belongs to us exactly where those who use it do. -/
theorem Splits.sides (splits : uses.Splits mine) (thread : Thread) (key : String)
    (opens : OpensWith (uses.use thread).openings key) :
    (uses.use thread).KeepsTo mine ↔
      ∃ opening ∈ defaultOpenings, mine opening ∧ ∃ suffix, key = opening ++ suffix := by
  obtain ⟨opening, member, suffix, rfl⟩ := opens
  have default := uses.default thread opening member
  constructor
  · intro keeps
    exact ⟨opening, default, keeps opening member, suffix, rfl⟩
  · intro ⟨other, otherDefault, own, rest, same⟩
    have equal : opening = other := by
      by_contra different
      exact default_keys_ne default otherDefault different suffix rest same
    rcases splits thread with keeps | avoids
    · exact keeps
    · rw [← equal] at own
      exact absurd own (avoids opening member)

variable [DecidableEq Thread]

/-- To those who keep to some key spaces, a run is what it is without the steps of the others. -/
theorem Splits.purge [DecidablePred mine] (splits : uses.Splits mine) (store : String → RedisCell)
    (turns : List (SharedTurn (uses.clients P texts))) {thread : Thread}
    (own : (uses.use thread).KeepsTo mine) :
    ((SharedStore.initial (uses.clients P texts) store).play turns).progress thread =
      ((SharedStore.initial (uses.clients P texts) store).play
        (turns.filter fun turn => decide ((uses.use turn.1).KeepsTo mine))).progress thread := by
  have agrees := SharedStore.play_purge turns (initial_confined store) splits.sides
    ⟨fun _ _ => rfl, fun _ _ => rfl⟩
  exact agrees.progress thread own

/-- Those who keep away from a key space leave its keys alone. -/
theorem untouched {opening : String} (isDefault : opening ∈ defaultOpenings)
    (store : String → RedisCell) (turns : List (SharedTurn (uses.clients P texts)))
    (avoid : ∀ turn ∈ turns, opening ∉ (uses.use turn.1).openings) (suffix : String) :
    ((SharedStore.initial (uses.clients P texts) store).play turns).store (opening ++ suffix) =
      store (opening ++ suffix) := by
  apply SharedStore.play_frame turns (initial_confined store)
  intro turn member ⟨other, used, rest, same⟩
  have different : opening ≠ other := by
    intro equal
    rw [equal] at avoid
    exact avoid turn member used
  exact default_keys_ne isDefault (uses.default turn.1 other used) different suffix rest same

end DefaultUses

variable [DecidableEq Thread]

/-- The key spaces have no key in common, whatever the `jti`s, nonces and client ids are. The steps
of others do not change the verdicts of those who keep to some of them; the `jti`s of proofs neither
create nor consume a nonce, and those of exchange proofs claim none of a resource proof. -/
theorem keyspaces_do_not_interfere (P : Platform) (texts : TokenTexts) (uses : DefaultUses Thread)
    (store : String → RedisCell) (turns : List (SharedTurn (uses.clients P texts))) :
    (∀ one ∈ defaultOpenings, ∀ other ∈ defaultOpenings, one ≠ other →
      ∀ first second, one ++ first ≠ other ++ second) ∧
    (∀ (mine : String → Prop) [DecidablePred mine], uses.Splits mine →
      ∀ thread, (uses.use thread).KeepsTo mine →
        (((SharedStore.initial (uses.clients P texts) store).play turns).progress thread).verdict =
          (((SharedStore.initial (uses.clients P texts) store).play
            (turns.filter fun turn => decide ((uses.use turn.1).KeepsTo mine))).progress
              thread).verdict) ∧
    ((∀ turn ∈ turns, (uses.use turn.1).openings ⊆ ["dpop:jti:", "dpop-exchange:"]) →
      ∀ opening ∈ ["dpop:nonce:", "dpop-nonce:", "ledger-dpop-nonce:"], ∀ nonce,
        ((SharedStore.initial (uses.clients P texts) store).play turns).store (opening ++ nonce) =
          store (opening ++ nonce)) ∧
    ((∀ turn ∈ turns, (uses.use turn.1).openings ⊆ ["dpop-exchange:"]) →
      ∀ jti, ((SharedStore.initial (uses.clients P texts) store).play turns).store
        ("dpop:jti:" ++ jti) = store ("dpop:jti:" ++ jti)) := by
  refine ⟨fun one mine other yours => default_keys_ne mine yours, ?_, ?_, ?_⟩
  · intro mine _ splits thread own
    rw [splits.purge store turns own]
  · intro proofs opening isNonce nonce
    have isDefault : opening ∈ defaultOpenings := by
      revert opening
      decide
    have noProof : opening ∉ ["dpop:jti:", "dpop-exchange:"] := by
      revert opening
      decide
    apply DefaultUses.untouched isDefault
    intro turn member used
    exact noProof (proofs turn member used)
  · intro exchanges jti
    apply DefaultUses.untouched (by decide)
    intro turn member used
    have impossible : "dpop:jti:" ∉ ["dpop-exchange:"] := by decide
    exact impossible (exchanges turn member used)

end Shared

section SameText

/-- A proof whose `jti` is the text of a nonce. -/
def mimicPayload : JwtPayload := JwtPayload.ofClaims [("jti", .str "nonce-1")] rfl

def mimicUse : Bool → RedisUse
  | true => .consume {} "nonce-1"
  | false => .claimJti {} mimicPayload

def mimicUses : DefaultUses Bool where
  use := mimicUse
  default thread := by cases thread <;> decide

def mimicTable : TokenTable where
  tokens := []

def mimicTexts : TokenTexts where
  stringify entry := entry.accessToken
  parse _ := .error (plainError "no entry")

def mimicServices : SteadyServices where
  moment := 1000
  keys _ := []
  signing := { privateKey := ⟨1⟩, publicJwk := [], kid := "key" }
  signed := "token"

abbrev mimicClients : Bool → RedisClient := mimicUses.clients mimicTable.platform mimicTexts

def mimicTurn (thread : Bool) : SharedTurn mimicClients :=
  ⟨thread, match thread with
    | true => ⟨⟨1000, .answered⟩, mimicServices.environment []⟩
    | false => ⟨⟨1000, .answered⟩, mimicServices.environment []⟩⟩

/-- The nonce has been issued. -/
def mimicStore (key : String) : RedisCell :=
  if key = "dpop:nonce:nonce-1" then some ⟨"1", 300000⟩ else none

/-- The `jti` is claimed in front of the nonce that has its text, which is consumed all the same. -/
theorem mimic_consumes :
    (((SharedStore.initial mimicClients mimicStore).play [mimicTurn false, mimicTurn true]).progress
        true).verdict = some (.ok true) ∧
      (((SharedStore.initial mimicClients mimicStore).play
          [mimicTurn false, mimicTurn true]).progress true).verdict =
        (((SharedStore.initial mimicClients mimicStore).play [mimicTurn true]).progress
          true).verdict ∧
      ((SharedStore.initial mimicClients mimicStore).play [mimicTurn false]).store
        ("dpop:nonce:" ++ "nonce-1") = mimicStore ("dpop:nonce:" ++ "nonce-1") := by
  have apart := keyspaces_do_not_interfere mimicTable.platform mimicTexts mimicUses mimicStore
    [mimicTurn false, mimicTurn true]
  have alone := keyspaces_do_not_interfere mimicTable.platform mimicTexts mimicUses mimicStore
    [mimicTurn false]
  have splits : mimicUses.Splits (· = "dpop:nonce:") := by
    intro thread
    cases thread with
    | true => exact .inl (by decide)
    | false => exact .inr (by decide)
  have own : (mimicUses.use true).KeepsTo (· = "dpop:nonce:") := by decide
  refine ⟨by rfl, apart.2.1 (· = "dpop:nonce:") splits true own, ?_⟩
  apply alone.2.2.1 _ "dpop:nonce:" (by decide) "nonce-1"
  intro turn member
  rw [List.mem_singleton.mp member]
  decide

end SameText

end S2s
