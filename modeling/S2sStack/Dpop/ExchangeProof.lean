import S2sStack.Dpop.RedisHistory
import S2sStack.Dpop.VerifyDPoP
import S2sStack.TokenTable
import Mathlib.Data.Rat.Cast.Order
import Mathlib.Tactic.Linarith

set_option autoImplicit false

/- `lib/exchangeProofVerifier.ts`: proofs on token-exchange requests, and when one of them
can be accepted twice. -/
namespace S2s

open Effect Effect.Program
open Js (Json Obj)

structure ExchangeProofVerifierOptions where
  iatToleranceSeconds : Option Rat := none
  jtiTtlSeconds : Option Nat := none

def exchangeProofDeps (opts : ExchangeProofVerifierOptions) : VerifyDPoPDeps where
  jtiKeyPrefix := some "dpop-exchange:"
  nonceTtlSeconds := some (opts.jtiTtlSeconds.getD 120)
  iatToleranceSeconds := opts.iatToleranceSeconds

def exchangeProofInput (dpopProof expectedHtu : String) : VerifyDPoPInput where
  dpopProof := dpopProof
  expectedHtm := "POST"
  expectedHtu := expectedHtu
  expectAth := false

def verifyExchangeProof (P : Platform) (opts : ExchangeProofVerifierOptions)
    (dpopProof expectedHtu : String) : Act DPoPVerificationResult :=
  verifyDPoP P (exchangeProofDeps opts) (exchangeProofInput dpopProof expectedHtu)

/-- `raw.replace(/[?#].*$/, '')` -/
def dropQuery : List Char → List Char
  | [] => []
  | c :: rest =>
      if (c = '?' ∨ c = '#') ∧ rest.all (fun d => !Js.isLineTerminator d) then []
      else c :: dropQuery rest

def canonicalizeHtu (P : Platform) (raw : String) : String :=
  match P.parseUrl raw with
  | some u => u.protocol ++ "//" ++ u.host ++ Js.dropTrailingSlash u.pathname
  | none => Js.dropTrailingSlash (String.ofList (dropQuery raw.toList))

def brokerTokenEndpointHtu (P : Platform) (req : Request) : String :=
  canonicalizeHtu P (req.protocol ++ "://" ++ req.headerOrEmpty "host" ++ "/oauth2/token")

/-- The `iat` a proof carries. -/
def proofIat (P : Platform) (dpopProof : String) : Rat :=
  match P.decodeJwt dpopProof with
  | .ok claims => dateOrZero claims "iat"
  | .error _ => 0

/-- Concurrent calls of one verifier with its default options, each of them finished or
in progress, on a clock that Redis shares. -/
structure ExchangeRun (P : Platform) (Thread : Type) [DecidableEq Thread] where
  history : History runtime Thread
  dpopProof : Thread → String
  expectedHtu : Thread → String
  running : ∀ thread, (verifyExchangeProof P {} (dpopProof thread) (expectedHtu thread)).Performs
    (history.trace thread)
  ordered : history.Ordered
  clock : ReadsClock history
  redis : RedisServes history

namespace ExchangeRun

variable {P : Platform} {Thread : Type} [DecidableEq Thread] (run : ExchangeRun P Thread)

/-- The call has accepted its proof. -/
def Accepts (thread : Thread) : Prop :=
  ∃ result, Runs (verifyExchangeProof P {} (run.dpopProof thread) (run.expectedHtu thread))
    (run.history.trace thread) (.ok result)

def AcceptsOnce : Prop :=
  ∀ first second, run.Accepts first → run.Accepts second →
    run.dpopProof first = run.dpopProof second → first = second

/-- No call reads the clock a full 60 seconds before the `iat` of its proof, and no replay
record is written after the last second of the acceptance window. -/
structure Timely : Prop where
  notFirstSecond : ∀ step ∈ run.history, step.event.op = .now →
    proofIat P (run.dpopProof step.thread) - toSeconds step.time ≠ 60
  beforeEnd : ∀ step ∈ run.history, ∀ key ttl, step.event.op = .redisSet key ttl →
    toSeconds step.time ≤ proofIat P (run.dpopProof step.thread) + 60

/-- The two steps of an accepting call that matter, in their order. -/
structure Accepting (thread : Thread) (jti : Json) (nowStep setStep : Step runtime Thread) :
    Prop where
  nowMember : nowStep ∈ run.history
  setMember : setStep ∈ run.history
  nowThread : nowStep.thread = thread
  setThread : setStep.thread = thread
  nowEvent : nowStep.event = ⟨.now, nowStep.time⟩
  setEvent : setStep.event =
    ⟨.redisSet ((exchangeProofDeps {}).jtiKey jti) 120, .ok true⟩
  order : nowStep.time ≤ setStep.time
  window : |(toSeconds nowStep.time : Rat) - proofIat P (run.dpopProof thread)| ≤ 60
  jtiClaim : ∃ claims, P.decodeJwt (run.dpopProof thread) = .ok claims ∧
    claims.get? "jti" = some jti

theorem accepting_of_accepts (agrees : P.PayloadAgrees) {thread : Thread}
    (accepts : run.Accepts thread) :
    ∃ jti nowStep setStep, run.Accepting thread jti nowStep setStep := by
  obtain ⟨result, whole⟩ := accepts
  obtain ⟨jwk, key, currentDate, payload, nowMs, jti, thumbprint, consuming, accepted, consume,
    shape, _⟩ := verifyDPoP_ok whole
  have quiet : consuming = [] := by
    rcases consumeNonce_ok consume with ⟨_, none⟩ | ⟨required, _⟩
    · exact none
    · cases required
  rw [quiet] at shape
  have decoded := agrees _ _ _ _ accepted.signature
  -- the three steps of this call, in the order of the history
  have ordered : (run.history.steps thread).Pairwise
      (fun earlier later => earlier.time ≤ later.time) := run.ordered.filter _
  rw [History.trace, List.map_eq_cons_iff] at shape
  obtain ⟨dateStep, _, steps, _, shape⟩ := shape
  rw [List.map_eq_cons_iff] at shape
  obtain ⟨nowStep, _, rfl, nowEvent, shape⟩ := shape
  rw [List.nil_append, List.map_eq_singleton_iff] at shape
  obtain ⟨setStep, rfl, setEvent⟩ := shape
  have nowIn : nowStep ∈ run.history.steps thread := by simp [steps]
  have setIn : setStep ∈ run.history.steps thread := by simp [steps]
  rw [steps] at ordered
  have order : nowStep.time ≤ setStep.time :=
    List.rel_of_pairwise_cons (List.Pairwise.of_cons ordered) (List.mem_singleton_self setStep)
  rw [History.mem_steps] at nowIn setIn
  have reading : nowMs = nowStep.time := run.clock nowStep nowIn.1 nowMs nowEvent
  subst reading
  have given : P.decodeJwt (run.dpopProof thread) = .ok payload.claims := decoded
  have inside := checkIat_ok_iff.mp accepted.fresh
  refine ⟨jti, nowStep, setStep, {
    nowMember := nowIn.1
    setMember := setIn.1
    nowThread := nowIn.2
    setThread := setIn.2
    nowEvent := nowEvent
    setEvent := setEvent
    order := order
    window := ?_
    jtiClaim := ⟨payload.claims, given, accepted.jtiClaim⟩ }⟩
  rw [proofIat, given]
  exact inside

/-- No call deletes a key. -/
theorem no_delete (key : String) : ∀ step ∈ run.history, step.event.op ≠ .redisDel key := by
  intro step inside deleted
  obtain ⟨rest, result, whole⟩ := run.running step.thread
  have performed := within_verifyDPoP P _ _ _ _ whole step.event
    (List.mem_append_left rest (History.mem_trace_of_mem inside))
  rw [deleted] at performed
  cases performed

/-- The window of a proof is shorter than the life of its record, once its first second
is left out. -/
theorem not_both (timely : run.Timely) {first second : Thread} {firstJti secondJti : Json}
    {firstNow firstSet secondNow secondSet : Step runtime Thread}
    (one : run.Accepting first firstJti firstNow firstSet)
    (two : run.Accepting second secondJti secondNow secondSet)
    (same : run.dpopProof first = run.dpopProof second)
    (apart : firstSet.time + 120000 ≤ secondSet.time) : False := by
  have started := timely.notFirstSecond firstNow one.nowMember (by rw [one.nowEvent])
  have ended := timely.beforeEnd secondSet two.setMember _ _ (by rw [two.setEvent])
  rw [one.nowThread] at started
  rw [two.setThread, ← same] at ended
  have window := abs_le.mp one.window
  have after_first : proofIat P (run.dpopProof first) - toSeconds firstNow.time < 60 := by
    apply lt_of_le_of_ne _ started
    linarith [window.1]
  have short : (toSeconds secondSet.time : Rat) < toSeconds firstNow.time + 120 := by
    linarith
  have seconds : toSeconds secondSet.time < toSeconds firstNow.time + 120 := by
    exact_mod_cast short
  have order := one.order
  unfold toSeconds at seconds
  omega

/-- In a timely run no proof is accepted by two calls. -/
theorem acceptsOnce_of_timely (agrees : P.PayloadAgrees) (timely : run.Timely) :
    run.AcceptsOnce := by
  intro first second firstAccepts secondAccepts same
  by_contra different
  obtain ⟨firstJti, firstNow, firstSet, one⟩ := run.accepting_of_accepts agrees firstAccepts
  obtain ⟨secondJti, secondNow, secondSet, two⟩ := run.accepting_of_accepts agrees secondAccepts
  have sameJti : firstJti = secondJti := by
    obtain ⟨claims, decoded, given⟩ := one.jtiClaim
    obtain ⟨claims', decoded', given'⟩ := two.jtiClaim
    rw [same, decoded'] at decoded
    cases decoded
    rw [given'] at given
    cases given
    rfl
  subst sameJti
  have steps : firstSet ≠ secondSet := by
    intro equal
    exact different (by rw [← one.setThread, ← two.setThread, equal])
  rcases History.exists_split_two one.setMember two.setMember steps with
    ⟨_, _, _, split⟩ | ⟨_, _, _, split⟩
  · exact run.not_both timely one two same
      (run.redis.apart (run.no_delete _) split one.setEvent two.setEvent)
  · exact run.not_both timely two one same.symm
      (run.redis.apart (run.no_delete _) split two.setEvent one.setEvent)

end ExchangeRun

section Replay

/-- The claims of a proof that one client sends twice. -/
def replayedClaims (iat : Rat) : Obj :=
  [("htm", .str "POST"), ("htu", .str "https://broker/oauth2/token"), ("iat", .num iat),
    ("jti", .str "jti-1")]

def replayedPayload (iat : Rat) : JwtPayload := JwtPayload.ofClaims (replayedClaims iat) rfl

def clientKey : PublicKey := ⟨1⟩

def replayedHeader : Obj :=
  [("typ", .str "dpop+jwt"), ("alg", .str "ES256"), ("jwk", .obj (TokenTable.jwkOf clientKey))]

def replayTable (iat : Rat) : TokenTable where
  tokens := [⟨"proof", replayedHeader, replayedPayload iat, clientKey⟩]

def replayKey : String := (exchangeProofDeps {}).jtiKey (.str "jti-1")

/-- What one call performs at one moment, with the reply to its replay record. -/
def replayTrace (moment : Millis) (reply : Except Fault Bool) : List Event :=
  [⟨.date, moment⟩, ⟨.now, moment⟩, ⟨.redisSet replayKey 120, reply⟩]

theorem replayedProof_checked {iat : Rat} {moment : Millis}
    (window : |(toSeconds moment : Rat) - iat| ≤ 60) :
    CheckedProof (replayTable iat).platform (exchangeProofDeps {})
      (exchangeProofInput "proof" "https://broker/oauth2/token") (.obj (TokenTable.jwkOf clientKey)) clientKey
      moment (replayedPayload iat) moment where
  header := ⟨replayedHeader, rfl, rfl⟩
  imported := rfl
  signature := rfl
  methodAndUrl := rfl
  fresh := checkIat_ok_iff.mpr window
  ath := rfl

theorem replayedProof_runs {iat : Rat} {moment : Millis}
    (window : |(toSeconds moment : Rat) - iat| ≤ 60) (claimed : Bool) :
    ∃ outcome, Runs (verifyExchangeProof (replayTable iat).platform {} "proof"
        "https://broker/oauth2/token") (replayTrace moment (.ok claimed)) outcome ∧
      (claimed = true → ∃ result, outcome = .ok result) := by
  have checked := replayedProof_checked window
  cases claimed with
  | true =>
      have accepted : AcceptedProof (replayTable iat).platform (exchangeProofDeps {})
          (exchangeProofInput "proof" "https://broker/oauth2/token") (.obj (TokenTable.jwkOf clientKey))
          clientKey moment (replayedPayload iat) moment (.str "jti-1") "thumbprint-1" := {
        toCheckedProof := checked
        jtiClaim := rfl
        jtiTruthy := rfl
        computed := rfl
        binding := rfl }
      exact ⟨_, accepted.runs (.done _), fun _ => ⟨_, rfl⟩⟩
  | false =>
      refine ⟨.error (unauthorized .dpopNonceReuse "dpop jti replay"), checked.runs ?_, ?_⟩
      · exact Runs.bind (.done _) (Runs.bind_error (claimJti_refused rfl rfl))
      · intro impossible
        cases impossible

/-- One proof in two calls, each at one moment; the second record may be refused. -/
def replayHistory (first second : Nat) (again : Bool) : History runtime Bool :=
  (replayTrace first (.ok true)).map (fun event => ⟨false, first, event⟩) ++
    (replayTrace second (.ok again)).map (fun event => ⟨true, second, event⟩)

def replayRun (iat : Rat) (first second : Nat) (again : Bool) (ordered : first ≤ second)
    (firstWindow : |(toSeconds first : Rat) - iat| ≤ 60)
    (secondWindow : |(toSeconds second : Rat) - iat| ≤ 60)
    (expired : again = true ↔ first + 120000 ≤ second) : ExchangeRun (replayTable iat).platform Bool where
  history := replayHistory first second again
  dpopProof _ := "proof"
  expectedHtu _ := "https://broker/oauth2/token"
  running thread := by
    cases thread with
    | false =>
        obtain ⟨outcome, run, _⟩ := replayedProof_runs firstWindow true
        exact run.performs
    | true =>
        obtain ⟨outcome, run, _⟩ := replayedProof_runs secondWindow again
        exact run.performs
  ordered := by
    simp [History.Ordered, replayHistory, replayTrace, ordered]
  clock := by
    intro step member moment reading
    simp only [replayHistory, replayTrace, List.map_cons, List.map_nil, List.mem_append,
      List.mem_cons, List.not_mem_nil, or_false] at member
    rcases member with (rfl | rfl | rfl) | (rfl | rfl | rfl) <;> simp_all
  redis := by
    have commands : redisCommands (replayHistory first second again) =
        [(first, .set replayKey 120000 (some true)), (second, .set replayKey 120000 (some again))] :=
      rfl
    rw [RedisServes, commands]
    have vacant : ¬ ExpiringStore.Live ExpiringStore.State.empty first replayKey := by
      rintro ⟨_, impossible, _⟩
      cases impossible
    cases again with
    | true =>
        refine ⟨_, .cons (.stored vacant (by decide)) (.cons (.stored ?_ (by decide)) (.nil _))⟩
        rintro ⟨expiry, stored, young⟩
        have apart := expired.mp rfl
        simp only [Function.update_self, Option.some.injEq] at stored
        omega
    | false =>
        refine ⟨_, .cons (.stored vacant (by decide)) (.cons (.refused ?_ (by decide)) (.nil _))⟩
        have early : ¬ first + 120000 ≤ second := by
          simpa using expired.not.mp (by decide)
        exact ⟨first + 120000, by simp, by omega⟩

/-- A proof dated 60 seconds ahead is accepted in the first second of its window and, when
its record has just expired, again in the last one. -/
theorem replayed_at_both_ends :
    ∃ P : Platform, P.PayloadAgrees ∧ ∃ run : ExchangeRun P Bool, ¬ run.AcceptsOnce := by
  let run := replayRun 1060 1000000 1120000 true (by decide) (by norm_num [toSeconds])
    (by norm_num [toSeconds]) (by decide)
  refine ⟨(replayTable 1060).platform, (replayTable 1060).platform_agrees, run, ?_⟩
  intro once
  have accepts : ∀ thread, run.Accepts thread := by
    intro thread
    cases thread with
    | false =>
        have window : |(toSeconds 1000000 : Rat) - 1060| ≤ 60 := by norm_num [toSeconds]
        obtain ⟨outcome, done, accepted⟩ := replayedProof_runs window true
        obtain ⟨result, rfl⟩ := accepted rfl
        exact ⟨result, done⟩
    | true =>
        have window : |(toSeconds 1120000 : Rat) - 1060| ≤ 60 := by norm_num [toSeconds]
        obtain ⟨outcome, done, accepted⟩ := replayedProof_runs window true
        obtain ⟨result, rfl⟩ := accepted rfl
        exact ⟨result, done⟩
  have same := once false true (accepts false) (accepts true) rfl
  cases same

theorem replay_windows : |(toSeconds 1000000 : Rat) - 1000| ≤ 60 ∧
    |(toSeconds 1010000 : Rat) - 1000| ≤ 60 := by
  norm_num [toSeconds]

/-- Ten seconds after it was accepted, a proof dated now is refused. -/
theorem replay_refused :
    (replayRun 1000 1000000 1010000 false (by decide) replay_windows.1 replay_windows.2
      (by decide)).AcceptsOnce := by
  apply ExchangeRun.acceptsOnce_of_timely _ (replayTable 1000).platform_agrees
  have dated : proofIat (replayTable 1000).platform "proof" = 1000 := rfl
  constructor
  · intro step member reading
    simp only [replayRun, replayHistory, replayTrace, List.map_cons, List.map_nil,
      List.mem_append, List.mem_cons, List.not_mem_nil, or_false] at member
    simp only [replayRun, dated]
    rcases member with (rfl | rfl | rfl) | (rfl | rfl | rfl) <;> norm_num [toSeconds]
  · intro step member key ttl set
    simp only [replayRun, replayHistory, replayTrace, List.map_cons, List.map_nil,
      List.mem_append, List.mem_cons, List.not_mem_nil, or_false] at member
    simp only [replayRun, dated]
    rcases member with (rfl | rfl | rfl) | (rfl | rfl | rfl) <;> norm_num [toSeconds]

end Replay

end S2s
