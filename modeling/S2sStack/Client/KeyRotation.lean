import S2sStack.Broker.Delegation
import S2sStack.Client.NonceRetry
import S2sStack.Effect.Provenance

set_option autoImplicit false

/- Outbound flows beside key rotations of the same process: which key each proof is signed
with. -/
namespace S2s

open Effect Effect.Program
open Js (Json Obj)

/-- The key that is read for a proof. -/
def keyReadOf : ClientEvent → Option ActiveKey
  | ⟨.activeKey, .ok key⟩ => some key
  | _ => none

def keyReads (trace : List ClientEvent) : List ActiveKey := trace.filterMap keyReadOf

/-- The header and the text of a proof. -/
def signingOf : ClientEvent → Option (Obj × String)
  | ⟨.signJwt header _ _, .ok proof⟩ => some (header, proof)
  | _ => none

/-- The proofs that are signed, the one for the exchange first. -/
def signings (trace : List ClientEvent) : List (Obj × String) := trace.filterMap signingOf

/-- The assignment of a new key to `_current`. -/
def installedBy : ClientEvent → Option ActiveKey
  | ⟨.installKey key, _⟩ => some key
  | _ => none

def generatedBy : ClientEvent → Option ActiveKey
  | ⟨.generateKey, .ok key⟩ => some key
  | _ => none

@[simp] theorem keyReads_append (first second : List ClientEvent) :
    keyReads (first ++ second) = keyReads first ++ keyReads second := by
  simp [keyReads]

@[simp] theorem signings_append (first second : List ClientEvent) :
    signings (first ++ second) = signings first ++ signings second := by
  simp [signings]

/-- A proof names a key that was read before. -/
def NamesReadKey (before : List ClientEvent) : ClientEvent → Prop
  | ⟨.signJwt header _ _, _⟩ => ∃ read ∈ keyReads before, header = dpopHeader read
  | _ => True

/-- What the signing of proofs leaves in the trace of a client. -/
structure ReadsThenSigns (trace : List ClientEvent) : Prop where
  named : Preceded NamesReadKey trace
  /-- each key that is read signs a proof, where nothing fails -/
  paired : WorksLocally trace → (signings trace).map Prod.fst = (keyReads trace).map dpopHeader
  quiet : ∀ event ∈ trace, installedBy event = none ∧ generatedBy event = none

namespace ReadsThenSigns

theorem names_grows (earlier before : List ClientEvent) (event : ClientEvent)
    (named : NamesReadKey before event) : NamesReadKey (earlier ++ before) event := by
  obtain ⟨op, reply⟩ := event
  cases op with
  | signJwt header claims key =>
      obtain ⟨read, member, same⟩ := named
      refine ⟨read, ?_, same⟩
      rw [keyReads_append]
      exact List.mem_append_right _ member
  | _ => trivial

theorem append (first second : List ClientEvent) (one : ReadsThenSigns first)
    (other : ReadsThenSigns second) : ReadsThenSigns (first ++ second) where
  named := one.named.append names_grows other.named
  paired := by
    intro works
    obtain ⟨early, late⟩ := worksLocally_append.mp works
    rw [signings_append, keyReads_append, List.map_append, List.map_append, one.paired early,
      other.paired late]
  quiet := by
    intro event member
    obtain inFirst | inSecond := List.mem_append.mp member
    · exact one.quiet event inFirst
    · exact other.quiet event inSecond

theorem nil : ReadsThenSigns [] where
  named := .nil
  paired := fun _ => rfl
  quiet := fun _ member => absurd member List.not_mem_nil

/-- An event that reads no key and signs nothing. -/
theorem single {event : ClientEvent} (noRead : keyReadOf event = none)
    (noSigning : ∀ header claims key, event.op ≠ .signJwt header claims key)
    (quiet : installedBy event = none ∧ generatedBy event = none) : ReadsThenSigns [event] where
  named := by
    apply Preceded.single
    obtain ⟨op, reply⟩ := event
    cases op with
    | signJwt header claims key => exact absurd rfl (noSigning header claims key)
    | _ => trivial
  paired := by
    intro _
    have unsigned : signingOf event = none := by
      obtain ⟨op, reply⟩ := event
      cases op with
      | signJwt header claims key => exact absurd rfl (noSigning header claims key)
      | _ => rfl
    simp [signings, keyReads, unsigned, noRead]
  quiet := by
    intro other member
    cases List.mem_singleton.mp member
    exact quiet

end ReadsThenSigns

section Flows

variable {P : Platform} {L : ClientLibrary} {α : Type}

/-- A client that signs its proofs with keys it has read, and generates none. -/
abbrev SignsWithReadKeys (program : Client α) : Prop := Traces ReadsThenSigns program

/-- The key that is read is the one that signs. -/
theorem readsThenSigns_proof (key : ActiveKey) (nowMs : Millis) (claims : Obj)
    (reply : Except LibraryError String) :
    ReadsThenSigns [⟨.activeKey, .ok key⟩, ⟨.date, nowMs⟩,
      ⟨.signJwt (dpopHeader key) claims key.privateKey, reply⟩] where
  named := by
    have reading : Preceded NamesReadKey ([⟨.activeKey, .ok key⟩] ++ [⟨.date, nowMs⟩]) :=
      (Preceded.single trivial).append ReadsThenSigns.names_grows (.single trivial)
    refine Preceded.append_after reading (.single ?_)
    exact ⟨key, List.mem_singleton_self key, rfl⟩
  paired := by
    intro works
    obtain ⟨proof, rfl⟩ := works ⟨.signJwt (dpopHeader key) claims key.privateKey, reply⟩ (by simp)
    rfl
  quiet := by
    simp [installedBy, generatedBy]

theorem signs_signDPoP (options : SignDPoPOptions) : SignsWithReadKeys (signDPoP P options) := by
  intro trace outcome run
  have drawn : ∀ jti, ReadsThenSigns [⟨.randomUUID, jti⟩] := fun jti =>
    .single rfl (by rintro _ _ _ ⟨⟩) ⟨rfl, rfl⟩
  cases signDPoP_run run with
  | unhashed jti fault hashed => exact drawn jti
  | keyless jti ath err hashed =>
      apply ReadsThenSigns.append [_] [_] (drawn jti)
      exact .single rfl (by rintro _ _ _ ⟨⟩) ⟨rfl, rfl⟩
  | signed jti ath key nowMs reply hashed =>
      exact ReadsThenSigns.append [_] _ (drawn jti) (readsThenSigns_proof key nowMs _ reply)

theorem signs_fetch (request : OutboundRequest) : SignsWithReadKeys (Client.fetch request) :=
  Traces.command fun _ => .single rfl (by rintro _ _ _ ⟨⟩) ⟨rfl, rfl⟩

theorem signs_exchangeToken (opts : ExchangeTokenOptions) (input : ExchangeTokenInput) :
    SignsWithReadKeys (exchangeToken P L opts input) := by
  have secret : SignsWithReadKeys Client.actorClientSecret :=
    Traces.command fun _ => .single rfl (by rintro _ _ _ ⟨⟩) ⟨rfl, rfl⟩
  have date : SignsWithReadKeys Client.date :=
    Traces.command fun _ => .single rfl (by rintro _ _ _ ⟨⟩) ⟨rfl, rfl⟩
  have pure : ∀ {β : Type} (result : Except Fault β),
      SignsWithReadKeys (Program.ofExcept result : Client β) := fun result =>
    Traces.done result .nil
  refine Traces.bind ReadsThenSigns.append secret fun value => ?_
  refine Traces.bind ReadsThenSigns.append (signs_signDPoP _) fun dpop => ?_
  refine Traces.bind ReadsThenSigns.append (Traces.attempt (signs_fetch _)) fun fetched => ?_
  cases fetched with
  | error err => exact Traces.done _ .nil
  | ok response =>
      refine Traces.bind ReadsThenSigns.append (pure _) fun accessToken => ?_
      refine Traces.bind ReadsThenSigns.append date fun nowMs => ?_
      exact pure _

theorem signs_resourceAttempt (htu : String) (build : String → Except Fault OutboundRequest)
    (accessToken : Json) (nonce : Option String) :
    SignsWithReadKeys (resourceAttempt P htu build accessToken nonce) := by
  refine Traces.bind ReadsThenSigns.append (signs_signDPoP _) fun dpop => ?_
  exact Traces.ofExcept_bind .nil fun request _ => signs_fetch request

theorem signs_retryOnChallenge {asks : HttpResponse → Bool}
    {attempt : Option String → Client HttpResponse}
    (attempts : ∀ nonce, SignsWithReadKeys (attempt nonce)) :
    SignsWithReadKeys (retryOnChallenge asks attempt) := by
  refine Traces.bind ReadsThenSigns.append (attempts none) fun response => ?_
  split
  · split
    · exact attempts _
    · exact Traces.done _ .nil
  · exact Traces.done _ .nil

theorem signs_postLedgerEntry (useLatticeVar : Option String) (config : LedgerClientConfig)
    (args : PostLedgerEntryArgs) :
    SignsWithReadKeys (postLedgerEntry P L useLatticeVar config args) := by
  unfold postLedgerEntry
  split
  · exact Traces.done _ .nil
  · refine Traces.bind ReadsThenSigns.append (signs_exchangeToken _ _) fun exchanged => ?_
    refine Traces.bind ReadsThenSigns.append
      (signs_retryOnChallenge fun nonce => signs_resourceAttempt _ _ _ nonce) fun response => ?_
    split
    · exact Traces.done _ .nil
    · exact Traces.done _ .nil

end Flows

/-- A rotation installs the one key that it generates. -/
theorem rotateKey_installs {trace : List ClientEvent} (performs : rotateKey.Performs trace) :
    trace.filterMap installedBy = [] ∨
      ∃ key, trace.filterMap installedBy = [key] ∧ ⟨.generateKey, .ok key⟩ ∈ trace := by
  obtain ⟨later, outcome, run⟩ := performs
  rw [rotateKey, Client.checkInitialized, runs_command_bind_iff] at run
  obtain ⟨checked, rest, whole, ⟨_, _, run⟩ | ⟨_, _, rfl, -⟩⟩ := run
  · rw [Client.generateKey, runs_command_bind_iff] at run
    obtain ⟨generated, rest, rfl, ⟨key, got, run⟩ | ⟨_, _, rfl, -⟩⟩ := run
    · obtain ⟨_, rfl, -⟩ := runs_command_iff.mp run
      cases generated with
      | error err => cases got
      | ok active =>
          cases got
          match trace, whole with
          | [], _ => exact .inl rfl
          | [_], whole =>
              cases whole
              exact .inl rfl
          | [_, _], whole =>
              cases whole
              exact .inl rfl
          | [_, _, _], whole =>
              cases whole
              exact .inr ⟨key, rfl, by simp⟩
          | _ :: _ :: _ :: _ :: _, whole => simp at whole
    · match trace, whole with
      | [], _ => exact .inl rfl
      | [_], whole =>
          cases whole
          exact .inl rfl
      | [_, _], whole =>
          cases whole
          exact .inl rfl
      | _ :: _ :: _ :: _, whole => simp at whole
  · match trace, whole with
    | [], _ => exact .inl rfl
    | [_], whole =>
        cases whole
        exact .inl rfl
    | _ :: _ :: _, whole => simp at whole

section Bindings

variable {P : Platform}

/-- The callee finds the key of this proof to be the one the token is bound to. -/
structure SameKey (P : Platform) (proof jkt : String) : Prop where
  thumbprint : proofThumbprint P proof = .ok jkt
  accepted : ∀ input : VerifyDPoPInput, input.expectedJkt = some jkt → ∀ header jwk,
    P.decodeProtectedHeader proof = .ok header → proofJwk header = .ok jwk →
      boundThumbprint P input jwk = .ok jkt

/-- Every further proof is signed with the key that the broker binds to the exchanged token,
which is the key of the first one. -/
def BindsOneKey (P : Platform) (trace : List ClientEvent) : Prop :=
  ∀ exchangeProof resourceProofs jkt,
    (signings trace).map Prod.snd = exchangeProof :: resourceProofs →
    proofThumbprint P exchangeProof = .ok jkt → ∀ proof ∈ resourceProofs, SameKey P proof jkt

theorem proofThumbprint_of_header {proof : String} {key : ActiveKey}
    (decoded : P.decodeProtectedHeader proof = .ok (dpopHeader key)) :
    proofThumbprint P proof = P.calculateJwkThumbprint (.obj key.publicJwk) := by
  have named : proofJwk (dpopHeader key) = .ok (.obj key.publicJwk) := rfl
  rw [proofThumbprint, decoded]
  change (proofJwk (dpopHeader key) >>= P.calculateJwkThumbprint) = _
  rw [named]
  rfl

theorem sameKey_of_thumbprint {proof jkt : String} (filled : jkt ≠ "")
    (thumbprint : proofThumbprint P proof = .ok jkt) : SameKey P proof jkt where
  thumbprint := thumbprint
  accepted := by
    intro input expected header jwk decoded named
    have computed : P.calculateJwkThumbprint jwk = .ok jkt := by
      rw [proofThumbprint, decoded] at thumbprint
      change (proofJwk header >>= P.calculateJwkThumbprint) = _ at thumbprint
      rw [named] at thumbprint
      exact thumbprint
    refine boundThumbprint_ok_iff.mpr ⟨computed, ?_⟩
    simp [checkBinding, expected, filled]

end Bindings

/-- A process has outbound flows, and rotations of its key. -/
inductive OutboundThread where
  | flow (useLatticeVar : Option String) (config : LedgerClientConfig) (args : PostLedgerEntryArgs)
  | rotation

def OutboundThread.Performs (P : Platform) (L : ClientLibrary) :
    OutboundThread → List ClientEvent → Prop
  | flow useLatticeVar config args, trace =>
      Program.Performs (postLedgerEntry P L useLatticeVar config args) trace
  | rotation, trace => Program.Performs rotateKey trace

def notInitialized : LibraryError where
  code := none
  message := "keyManager not initialized"

/-- What the key manager replies while this is `_current`. -/
def KeyManagerReplies (current : Option ActiveKey) : ClientEvent → Prop
  | ⟨.activeKey, reply⟩ => reply = current.elim (.error notInitialized) .ok
  | ⟨.checkInitialized, reply⟩ => reply = current.elim (.error notInitialized) fun _ => .ok ()
  | _ => True

variable {Thread : Type}

/-- `_current` after these steps. -/
def currentKey (initial : Option ActiveKey) (history : History outbound Thread) :
    Option ActiveKey :=
  held (fun step => (installedBy step.event).map some) initial history

/-- Two keys with different thumbprints. -/
def Differ (P : Platform) (key other : ActiveKey) : Prop :=
  P.calculateJwkThumbprint (.obj key.publicJwk) ≠ P.calculateJwkThumbprint (.obj other.publicJwk)

/-- Any interleaving of outbound flows and key rotations in one process. -/
structure RotatingRun (P : Platform) (L : ClientLibrary) (Thread : Type) [DecidableEq Thread] where
  initial : Option ActiveKey
  kind : Thread → OutboundThread
  history : History outbound Thread
  performs : ∀ thread, (kind thread).Performs P L (history.trace thread)
  replies : ∀ before step after, history = before ++ step :: after →
    KeyManagerReplies (currentKey initial before) step.event
  /-- each key is generated once -/
  fresh : ∀ first ∈ history, ∀ second ∈ history, first ≠ second → ∀ key other,
    generatedBy first.event = some key → generatedBy second.event = some other → Differ P key other
  freshInitial : ∀ key, initial = some key → ∀ step ∈ history, ∀ other,
    generatedBy step.event = some other → Differ P key other
  /-- a generated key comes with its thumbprint -/
  thumbprints : ∀ key, (initial = some key ∨ ∃ step ∈ history, generatedBy step.event = some key) →
    ∃ jkt, jkt ≠ "" ∧ P.calculateJwkThumbprint (.obj key.publicJwk) = .ok jkt
  /-- `SignJWT` puts the header into the token -/
  decodes : ∀ step ∈ history, ∀ header proof, signingOf step.event = some (header, proof) →
    P.decodeProtectedHeader proof = .ok header

/-- No rotation assigns its key between two of a flow's readings. -/
def Undisturbed [DecidableEq Thread] (history : History outbound Thread) (thread : Thread) : Prop :=
  ∀ before step after key, history = before ++ step :: after → installedBy step.event = some key →
    keyReads (History.trace before thread) = [] ∨ keyReads (History.trace after thread) = []

section CurrentKey

variable {initial : Option ActiveKey} {before after part : History outbound Thread}
  {key : ActiveKey}

theorem currentKey_append : currentKey initial (before ++ after) =
    currentKey (currentKey initial before) after :=
  held_append before after

theorem currentKey_of_quiet (quiet : ∀ step ∈ part, installedBy step.event = none) :
    currentKey initial part = initial := by
  apply held_of_quiet
  intro step member
  rw [quiet step member, Option.map_none]

/-- The current key has been installed, if it is not the one from the start. -/
theorem currentKey_installed (current : currentKey initial part = some key) :
    (initial = some key ∧ ∀ step ∈ part, installedBy step.event = none) ∨
      ∃ step ∈ part, installedBy step.event = some key := by
  obtain ⟨start, quiet⟩ | ⟨step, member, written⟩ := held_written current
  · refine .inl ⟨start, fun step member => ?_⟩
    exact Option.map_eq_none_iff.mp (quiet step member)
  · refine .inr ⟨step, member, ?_⟩
    simpa using written

end CurrentKey

namespace RotatingRun

variable {P : Platform} {L : ClientLibrary} [DecidableEq Thread] (run : RotatingRun P L Thread)
  {thread : Thread} {key other : ActiveKey} {step : Step outbound Thread}

theorem mem_keyReads {history : History outbound Thread} :
    key ∈ keyReads (history.trace thread) ↔
      ∃ step ∈ history, step.thread = thread ∧ step.event = ⟨.activeKey, .ok key⟩ := by
  have read : ∀ event, keyReadOf event = some key ↔ event = ⟨.activeKey, .ok key⟩ := by
    intro event
    constructor
    · intro found
      unfold keyReadOf at found
      split at found
      · cases found
        rfl
      · cases found
    · rintro rfl
      rfl
  simp only [keyReads, List.mem_filterMap, read, History.mem_trace]
  constructor
  · rintro ⟨_, ⟨step, member, own, rfl⟩, same⟩
    exact ⟨step, member, own, same⟩
  · rintro ⟨step, member, own, same⟩
    exact ⟨_, ⟨step, member, own, rfl⟩, same⟩

theorem signs : ∀ thread useLatticeVar config args,
    run.kind thread = .flow useLatticeVar config args →
      ∃ later, ReadsThenSigns (run.history.trace thread ++ later) := by
  intro thread useLatticeVar config args flow
  have performs := run.performs thread
  rw [flow] at performs
  obtain ⟨later, outcome, whole⟩ := performs
  exact ⟨later, signs_postLedgerEntry useLatticeVar config args _ _ whole⟩

/-- Only a rotation installs a key, which it has generated, and only one. -/
theorem install_generated (member : step ∈ run.history)
    (installed : installedBy step.event = some key) :
    (run.history.trace step.thread).filterMap installedBy = [key] ∧
      ∃ source ∈ run.history, source.thread = step.thread ∧
        generatedBy source.event = some key := by
  have own := History.mem_trace_of_mem member
  cases kind : run.kind step.thread with
  | flow useLatticeVar config args =>
      obtain ⟨later, signs⟩ := run.signs step.thread _ _ _ kind
      have quiet := (signs.quiet step.event (List.mem_append_left _ own)).1
      rw [quiet] at installed
      cases installed
  | rotation =>
      have performs := run.performs step.thread
      rw [kind] at performs
      have found : key ∈ (run.history.trace step.thread).filterMap installedBy :=
        List.mem_filterMap.mpr ⟨_, own, installed⟩
      obtain none | ⟨only, single, generated⟩ := rotateKey_installs performs
      · rw [none] at found
        cases found
      · rw [single] at found
        cases List.mem_singleton.mp found
        obtain ⟨source, inHistory, same, event⟩ := History.mem_trace.mp generated
        refine ⟨single, source, inHistory, same, ?_⟩
        rw [event]
        rfl

/-- Two rotations install different keys. -/
theorem installs_differ {front back : History outbound Thread}
    (split : run.history = front ++ back) {early late : Step outbound Thread}
    (inFront : early ∈ front) (inBack : late ∈ back)
    (first : installedBy early.event = some key) (second : installedBy late.event = some other) :
    Differ P key other := by
  have earlyMember : early ∈ run.history := split ▸ List.mem_append_left _ inFront
  have lateMember : late ∈ run.history := split ▸ List.mem_append_right _ inBack
  obtain ⟨single, source, member, own, generated⟩ := run.install_generated earlyMember first
  obtain ⟨_, source', member', own', generated'⟩ := run.install_generated lateMember second
  refine run.fresh source member source' member' ?_ key other generated generated'
  rintro rfl
  -- one thread would install two keys
  rw [split, History.trace_append, List.filterMap_append] at single
  have one : key ∈ (History.trace front early.thread).filterMap installedBy :=
    List.mem_filterMap.mpr ⟨_, History.mem_trace_of_mem inFront, first⟩
  have two : other ∈ (History.trace back early.thread).filterMap installedBy := by
    rw [← own, own']
    exact List.mem_filterMap.mpr ⟨_, History.mem_trace_of_mem inBack, second⟩
  have lengths := congrArg List.length single
  have oneLength := List.length_pos_of_mem one
  have twoLength := List.length_pos_of_mem two
  simp only [List.length_append, List.length_singleton] at lengths
  omega

theorem read_current {before after : History outbound Thread}
    (split : run.history = before ++ step :: after)
    (read : step.event = ⟨.activeKey, .ok key⟩) : currentKey run.initial before = some key := by
  have replied := run.replies before step after split
  rw [read] at replied
  cases current : currentKey run.initial before with
  | none =>
      rw [current] at replied
      cases replied
  | some active =>
      rw [current] at replied
      cases replied
      rfl

/-- A key that is read is the one from the start or a generated one. -/
theorem thumbprint_of_read (read : key ∈ keyReads (run.history.trace thread)) :
    ∃ jkt, jkt ≠ "" ∧ P.calculateJwkThumbprint (.obj key.publicJwk) = .ok jkt := by
  obtain ⟨step, member, _, event⟩ := mem_keyReads.mp read
  obtain ⟨before, after, split⟩ := List.append_of_mem member
  apply run.thumbprints key
  obtain ⟨start, _⟩ | ⟨source, inBefore, installed⟩ :=
    currentKey_installed (run.read_current split event)
  · exact .inl start
  · have inHistory : source ∈ run.history := split ▸ List.mem_append_left _ inBefore
    obtain ⟨_, generator, generatorMember, _, generated⟩ :=
      run.install_generated inHistory installed
    exact .inr ⟨generator, generatorMember, generated⟩

/-- Two readings with no rotation in between read the same key. -/
theorem ordered_reads_same (undisturbed : Undisturbed run.history thread)
    {before between after : History outbound Thread} {first second : Step outbound Thread}
    (split : run.history = before ++ first :: between ++ second :: after)
    (own : first.thread = thread) (own' : second.thread = thread)
    (read : first.event = ⟨.activeKey, .ok key⟩) (read' : second.event = ⟨.activeKey, .ok other⟩) :
    key = other := by
  have start : currentKey run.initial before = some key :=
    run.read_current (split.trans (List.append_assoc _ _ _)) read
  have finish := run.read_current split read'
  rw [currentKey_append, start, currentKey_of_quiet] at finish
  · exact Option.some.inj finish
  · intro step member
    obtain rfl | later := List.mem_cons.mp member
    · rw [read]
      rfl
    · cases installed : installedBy step.event with
      | none => rfl
      | some assigned =>
          exfalso
          obtain ⟨front, back, rfl⟩ := List.append_of_mem later
          have around : run.history = (before ++ first :: front) ++ step ::
              (back ++ second :: after) := by rw [split]; simp
          obtain none | none := undisturbed _ step _ assigned around installed
          · have early : key ∈ keyReads (History.trace (before ++ first :: front) thread) :=
              mem_keyReads.mpr ⟨first, by simp, own, read⟩
            rw [none] at early
            cases early
          · have late : other ∈ keyReads (History.trace (back ++ second :: after) thread) :=
              mem_keyReads.mpr ⟨second, by simp, own', read'⟩
            rw [none] at late
            cases late

/-- Without a rotation in between, a flow reads one key. -/
theorem reads_same (undisturbed : Undisturbed run.history thread)
    (read : key ∈ keyReads (run.history.trace thread))
    (read' : other ∈ keyReads (run.history.trace thread)) : key = other := by
  obtain ⟨first, member, own, event⟩ := mem_keyReads.mp read
  obtain ⟨second, member', own', event'⟩ := mem_keyReads.mp read'
  by_cases same : first = second
  · rw [same, event'] at event
    cases event
    rfl
  · obtain ⟨_, _, _, split⟩ | ⟨_, _, _, split⟩ := History.exists_split_two member member' same
    · exact run.ordered_reads_same undisturbed split own own' event event'
    · exact (run.ordered_reads_same undisturbed split own' own event' event).symm

theorem thumbprint_of_signing {proof : String}
    (signed : (dpopHeader key, proof) ∈ signings (run.history.trace thread)) :
    proofThumbprint P proof = P.calculateJwkThumbprint (.obj key.publicJwk) := by
  obtain ⟨_, inTrace, found⟩ := List.mem_filterMap.mp signed
  obtain ⟨step, member, _, rfl⟩ := History.mem_trace.mp inTrace
  exact proofThumbprint_of_header (run.decodes step member _ proof found)

/-- The key behind a proof of a flow. -/
theorem key_of_signing {useLatticeVar : Option String} {config : LedgerClientConfig}
    {args : PostLedgerEntryArgs} (flow : run.kind thread = .flow useLatticeVar config args)
    {header : Obj} {proof : String}
    (signed : (header, proof) ∈ signings (run.history.trace thread)) :
    ∃ read ∈ keyReads (run.history.trace thread),
      proofThumbprint P proof = P.calculateJwkThumbprint (.obj read.publicJwk) := by
  obtain ⟨event, inTrace, found⟩ := List.mem_filterMap.mp signed
  obtain ⟨later, signs⟩ := run.signs thread _ _ _ flow
  obtain ⟨before, after, split⟩ := List.append_of_mem inTrace
  have shape : ∃ claims key, event = ⟨.signJwt header claims key, .ok proof⟩ := by
    unfold signingOf at found
    split at found
    · cases found
      exact ⟨_, _, rfl⟩
    · cases found
  obtain ⟨claims, key, rfl⟩ := shape
  obtain ⟨read, inBefore, rfl⟩ := signs.named before
    ⟨.signJwt header claims key, .ok proof⟩ (after ++ later) (by rw [split]; simp)
  refine ⟨read, ?_, run.thumbprint_of_signing signed⟩
  rw [split, keyReads_append]
  exact List.mem_append_left _ inBefore

theorem bindsOneKey_of_undisturbed {useLatticeVar : Option String} {config : LedgerClientConfig}
    {args : PostLedgerEntryArgs} (flow : run.kind thread = .flow useLatticeVar config args)
    (undisturbed : Undisturbed run.history thread) : BindsOneKey P (run.history.trace thread) := by
  intro exchangeProof resourceProofs jkt signed bound proof resource
  have signedProof : ∀ text, text ∈ exchangeProof :: resourceProofs →
      ∃ header, (header, text) ∈ signings (run.history.trace thread) := by
    intro text member
    rw [← signed] at member
    obtain ⟨⟨header, _⟩, inSignings, rfl⟩ := List.mem_map.mp member
    exact ⟨header, inSignings⟩
  obtain ⟨_, exchangeSigned⟩ := signedProof exchangeProof List.mem_cons_self
  obtain ⟨_, resourceSigned⟩ := signedProof proof (List.mem_cons_of_mem _ resource)
  obtain ⟨first, firstRead, firstThumbprint⟩ := run.key_of_signing flow exchangeSigned
  obtain ⟨second, secondRead, secondThumbprint⟩ := run.key_of_signing flow resourceSigned
  cases run.reads_same undisturbed firstRead secondRead
  obtain ⟨text, filled, computed⟩ := run.thumbprint_of_read firstRead
  have same : jkt = text := by
    rw [firstThumbprint, computed] at bound
    exact (Except.ok.inj bound).symm
  subst same
  exact sameKey_of_thumbprint filled (secondThumbprint.trans computed)

/-- A key that is assigned between two readings is not the first of them any more. -/
theorem reads_differ {before after : History outbound Thread} {assigned : ActiveKey}
    (split : run.history = before ++ step :: after)
    (installed : installedBy step.event = some assigned)
    (early : key ∈ keyReads (History.trace before thread))
    (late : other ∈ keyReads (History.trace after thread)) : Differ P key other := by
  obtain ⟨first, inBefore, _, read⟩ := mem_keyReads.mp early
  obtain ⟨second, inAfter, _, read'⟩ := mem_keyReads.mp late
  obtain ⟨start, middle, rfl⟩ := List.append_of_mem inBefore
  obtain ⟨between, finish, rfl⟩ := List.append_of_mem inAfter
  have firstCurrent : currentKey run.initial start = some key :=
    run.read_current (split.trans (List.append_assoc _ _ _)) read
  have secondSplit : run.history =
      (start ++ first :: middle ++ step :: between) ++ second :: finish := by
    rw [split]
    simp
  have secondCurrent := run.read_current secondSplit read'
  rw [currentKey_append] at secondCurrent
  obtain ⟨_, quiet⟩ | ⟨source, late, installedLater⟩ := currentKey_installed secondCurrent
  · rw [quiet step List.mem_cons_self] at installed
    cases installed
  · have apart : run.history =
        (start ++ first :: middle) ++ (step :: between ++ second :: finish) := split
    have inBack : source ∈ step :: between ++ second :: finish := List.mem_append_left _ late
    obtain ⟨initial, _⟩ | ⟨source', early, installedEarlier⟩ := currentKey_installed firstCurrent
    · obtain ⟨_, generator, member, _, generated⟩ :=
        run.install_generated (apart ▸ List.mem_append_right _ inBack) installedLater
      exact run.freshInitial key initial generator member other generated
    · exact run.installs_differ apart (List.mem_append_left _ early) inBack installedEarlier
        installedLater

/-- A flow that ends, with nothing failing in its process. -/
structure Finished (thread : Thread) : Prop where
  flow : ∃ useLatticeVar config args outcome,
    run.kind thread = .flow useLatticeVar config args ∧
      Runs (postLedgerEntry P L useLatticeVar config args) (run.history.trace thread) outcome
  works : WorksLocally (run.history.trace thread)

theorem undisturbed_of_bindsOneKey (finished : run.Finished thread)
    (binds : BindsOneKey P (run.history.trace thread)) : Undisturbed run.history thread := by
  intro before step after assigned split installed
  obtain ⟨useLatticeVar, config, args, outcome, flow, whole⟩ := finished.flow
  have paired := (signs_postLedgerEntry useLatticeVar config args _ _ whole).paired finished.works
  cases early : keyReads (History.trace before thread) with
  | nil => exact .inl rfl
  | cons first others =>
      refine .inr (List.eq_nil_iff_forall_not_mem.mpr fun other late => ?_)
      have firstRead : first ∈ keyReads (History.trace before thread) := by
        rw [early]
        exact List.mem_cons_self
      have differ := run.reads_differ split installed firstRead late
      -- the first key signs the exchange proof, the other one a later proof
      have reads : ∃ more, keyReads (run.history.trace thread) = first :: more ∧ other ∈ more := by
        have parts : run.history = before ++ ([step] ++ after) := split
        rw [parts, History.trace_append, History.trace_append, keyReads_append, keyReads_append,
          early]
        exact ⟨_, rfl, by simp [late]⟩
      obtain ⟨more, reads, inMore⟩ := reads
      have firstWhole : first ∈ keyReads (run.history.trace thread) := by simp [reads]
      obtain ⟨jkt, _, computed⟩ := run.thumbprint_of_read firstWhole
      rw [reads, List.map_cons] at paired
      obtain ⟨⟨_, exchangeProof⟩, later, signed, rfl, pairedLater⟩ := List.map_eq_cons_iff.mp paired
      have inLater : dpopHeader other ∈ later.map Prod.fst := by
        rw [pairedLater]
        exact List.mem_map_of_mem inMore
      obtain ⟨⟨_, proof⟩, laterProof, rfl⟩ := List.mem_map.mp inLater
      have exchangeSigned : (dpopHeader first, exchangeProof) ∈
          signings (run.history.trace thread) := by
        rw [signed]
        exact List.mem_cons_self
      have resourceSigned : (dpopHeader other, proof) ∈ signings (run.history.trace thread) := by
        rw [signed]
        exact List.mem_cons_of_mem _ laterProof
      have bound := (run.thumbprint_of_signing exchangeSigned).trans computed
      have same := binds exchangeProof (later.map Prod.snd) jkt (by rw [signed, List.map_cons])
        bound proof (List.mem_map_of_mem laterProof)
      have thumbprint := run.thumbprint_of_signing resourceSigned
      exact differ (computed.trans (same.thumbprint.symm.trans thumbprint))

/-- In every interleaving a flow that no rotation cuts through uses one key; one that ends uses
one key only where no rotation cuts through it. -/
theorem flow_bindsOneKey {useLatticeVar : Option String} {config : LedgerClientConfig}
    {args : PostLedgerEntryArgs} (flow : run.kind thread = .flow useLatticeVar config args) :
    (Undisturbed run.history thread → BindsOneKey P (run.history.trace thread)) ∧
      (run.Finished thread → BindsOneKey P (run.history.trace thread) →
        Undisturbed run.history thread) :=
  ⟨run.bindsOneKey_of_undisturbed flow, run.undisturbed_of_bindsOneKey⟩

end RotatingRun

section RotationDuringExchange

inductive PostingThread where
  | posting
  | rotating
  deriving DecidableEq

def firstKey : ActiveKey where
  publicJwk := TokenTable.jwkOf ⟨1⟩
  privateKey := ⟨1⟩

def secondKey : ActiveKey where
  publicJwk := TokenTable.jwkOf ⟨2⟩
  privateKey := ⟨2⟩

/-- The broker grants a token, and the ledger takes the entry. -/
def postedResponses : List (Except LibraryError HttpResponse) := [
  .ok { status := 200, headers := [], body := .ok "granted" },
  .ok { status := 201, headers := [], body := .ok "entry" }]

/-- The second key is there when the proof for the resource is signed. -/
def rotatedReplies : Environment outbound
  | past, .activeKey => .ok (if (keyReads past).isEmpty then firstKey else secondKey)
  | past, .signJwt _ _ _ =>
      .ok (if (signings past).isEmpty then "exchange-proof" else "resource-proof")
  | past, op => answeredWith postedResponses past op

def rotationTable : TokenTable where
  tokens := [⟨"exchange-proof", dpopHeader firstKey, JwtPayload.ofClaims [] rfl, ⟨1⟩⟩,
    ⟨"resource-proof", dpopHeader secondKey, JwtPayload.ofClaims [] rfl, ⟨2⟩⟩]
  texts := postingTable.texts

def rotatedPosting : List ClientEvent × Except Fault Json :=
  exec rotatedReplies [] (postLedgerEntry rotationTable.platform postingLibrary none postingConfig
    postingArgs)

def rotationTrace : List ClientEvent := (exec rotatedReplies [] rotateKey).1

/-- The rotation comes while the flow waits for the broker. -/
def rotationHistory : History outbound PostingThread :=
  (rotatedPosting.1.take 6).map (Step.mk .posting 0) ++ rotationTrace.map (Step.mk .rotating 0) ++
    (rotatedPosting.1.drop 6).map (Step.mk .posting 0)

theorem rotationHistory_trace :
    rotationHistory.trace .posting = rotatedPosting.1 ∧
      rotationHistory.trace .rotating = rotationTrace := by
  constructor
  · simp only [rotationHistory, History.trace_append, History.trace_of_thread, ↓reduceIte,
      reduceCtorEq, List.append_nil, List.take_append_drop]
  · simp only [rotationHistory, History.trace_append, History.trace_of_thread, ↓reduceIte,
      reduceCtorEq, List.append_nil, List.nil_append]

def postingKind : PostingThread → OutboundThread
  | .posting => .flow none postingConfig postingArgs
  | .rotating => .rotation

theorem rotationHistory_performs (thread : PostingThread) :
    (postingKind thread).Performs rotationTable.platform postingLibrary
      (rotationHistory.trace thread) := by
  cases thread with
  | posting =>
      rw [rotationHistory_trace.1]
      exact (exec_runs rotatedReplies _ []).performs
  | rotating =>
      rw [rotationHistory_trace.2]
      exact (exec_runs rotatedReplies rotateKey []).performs

theorem rotationHistory_replies : Along (fun before step =>
    KeyManagerReplies (currentKey (some firstKey) before) step.event) [] rotationHistory :=
  ⟨trivial, trivial, rfl, trivial, trivial, trivial, rfl, trivial, trivial, trivial, trivial, rfl,
    trivial, trivial, trivial, trivial⟩

theorem rotationHistory_generated : rotationHistory.filter (fun step =>
    (generatedBy step.event).isSome) = [⟨.rotating, 0, ⟨.generateKey, .ok secondKey⟩⟩] := by
  rfl

theorem rotationHistory_signings : rotationHistory.filterMap (fun step => signingOf step.event) =
    [(dpopHeader firstKey, "exchange-proof"), (dpopHeader secondKey, "resource-proof")] := by
  rfl

theorem firstKey_thumbprint : rotationTable.platform.calculateJwkThumbprint
    (.obj firstKey.publicJwk) = .ok "thumbprint-1" := by
  rfl

theorem secondKey_thumbprint : rotationTable.platform.calculateJwkThumbprint
    (.obj secondKey.publicJwk) = .ok "thumbprint-2" := by
  rfl

theorem secondKey_generated {step : Step outbound PostingThread} {key : ActiveKey}
    (member : step ∈ rotationHistory) (generated : generatedBy step.event = some key) :
    step = ⟨.rotating, 0, ⟨.generateKey, .ok secondKey⟩⟩ ∧ key = secondKey := by
  have found : step ∈ rotationHistory.filter (fun step => (generatedBy step.event).isSome) :=
    List.mem_filter.mpr ⟨member, by simp [generated]⟩
  rw [rotationHistory_generated] at found
  cases List.mem_singleton.mp found
  cases generated
  exact ⟨rfl, rfl⟩

def rotationRun : RotatingRun rotationTable.platform postingLibrary PostingThread where
  initial := some firstKey
  kind := postingKind
  history := rotationHistory
  performs := rotationHistory_performs
  replies _ _ _ split := rotationHistory_replies.at_split split
  fresh := by
    intro first member second member' different key other generated generated'
    obtain ⟨rfl, -⟩ := secondKey_generated member generated
    obtain ⟨rfl, -⟩ := secondKey_generated member' generated'
    exact absurd rfl different
  freshInitial := by
    rintro key ⟨⟩ step member other generated
    obtain ⟨-, rfl⟩ := secondKey_generated member generated
    rw [Differ, firstKey_thumbprint, secondKey_thumbprint]
    decide
  thumbprints := by
    rintro key (same | ⟨step, member, generated⟩)
    · cases same
      exact ⟨"thumbprint-1", by decide, firstKey_thumbprint⟩
    · obtain ⟨-, rfl⟩ := secondKey_generated member generated
      exact ⟨"thumbprint-2", by decide, secondKey_thumbprint⟩
  decodes := by
    intro step member header proof signed
    have found : (header, proof) ∈ rotationHistory.filterMap fun step => signingOf step.event :=
      List.mem_filterMap.mpr ⟨step, member, signed⟩
    rw [rotationHistory_signings] at found
    obtain same | same := List.mem_cons.mp found
    · cases same
      rfl
    · cases List.mem_singleton.mp same
      rfl

/-- The ledger answers the second proof with `dpop_key_mismatch`. -/
theorem rotation_breaks_posting :
    rotationRun.kind .posting = .flow none postingConfig postingArgs ∧
      ¬ BindsOneKey rotationTable.platform (rotationRun.history.trace .posting) ∧
      boundThumbprint rotationTable.platform {
          dpopProof := "resource-proof"
          expectedHtm := "POST"
          expectedHtu := "https://ledger.internal/api/ledger/entries"
          expectedJkt := some "thumbprint-1" } (.obj secondKey.publicJwk) =
        .error (unauthorized .dpopKeyMismatch "dpop key thumbprint does not match token cnf.jkt") := by
  refine ⟨rfl, ?_, by decide +kernel⟩
  intro binds
  have signed : (signings (rotationRun.history.trace .posting)).map Prod.snd =
      ["exchange-proof", "resource-proof"] := rfl
  have same := binds _ _ "thumbprint-1" signed rfl "resource-proof" (by simp)
  have thumbprint : proofThumbprint rotationTable.platform "resource-proof" = .ok "thumbprint-2" :=
    rfl
  rw [same.thumbprint] at thumbprint
  exact absurd (Except.ok.inj thumbprint) (by decide)

theorem rotationRun_bindsOneKey :
    (Undisturbed rotationRun.history .posting →
        BindsOneKey rotationTable.platform (rotationRun.history.trace .posting)) ∧
      (rotationRun.Finished .posting →
        BindsOneKey rotationTable.platform (rotationRun.history.trace .posting) →
        Undisturbed rotationRun.history .posting) :=
  rotationRun.flow_bindsOneKey rfl

end RotationDuringExchange

end S2s
