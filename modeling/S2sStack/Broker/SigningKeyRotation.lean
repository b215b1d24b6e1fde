import S2sStack.Broker.Delegation
import S2sStack.Broker.SigningKeySources

set_option autoImplicit false

/- Any number of broker replicas beside rotations of their secret: which published keys a live
token verifies under. -/
namespace S2s

open Effect Effect.Program
open Js (Json Obj)

/-- What a broker process does, and the rotation of its secret. -/
inductive BrokerThread where
  | mint (input : MintExchangedTokenInput)
  | jwks
  /-- the start of a replica and its health route -/
  | load
  | invalidate
  | rotation (value : String)

def BrokerThread.Performs (P : Platform) (S : SigningKeyLibrary P) (settings : SigningSettings) :
    BrokerThread → List BrokerEvent → Prop
  | mint input, trace => Program.Performs (mintToken P S settings input) trace
  | jwks, trace => Program.Performs (jwksRouter P S settings) trace
  | load, trace => Program.Performs (getSigningKey P S settings) trace
  | invalidate, trace => Program.Performs invalidateKey trace
  | rotation value, trace => Program.Performs (Broker.putSecretValue value) trace

def writtenKey : BrokerEvent → Option (Option CachedSigningKey)
  | ⟨.writeKey key, _⟩ => some key
  | _ => none

def writtenSecret : BrokerEvent → Option (Option CachedSecret)
  | ⟨.writeSecret entry, _⟩ => some entry
  | _ => none

theorem writtenKey_some {event : BrokerEvent} {key : Option CachedSigningKey}
    (wrote : writtenKey event = some key) : event = ⟨.writeKey key, ()⟩ := by
  obtain ⟨op, reply⟩ := event
  cases op with
  | writeKey stored =>
      cases wrote
      rfl
  | _ => cases wrote

theorem writtenSecret_some {event : BrokerEvent} {entry : Option CachedSecret}
    (wrote : writtenSecret event = some entry) : event = ⟨.writeSecret entry, ()⟩ := by
  obtain ⟨op, reply⟩ := event
  cases op with
  | writeSecret stored =>
      cases wrote
      rfl
  | _ => cases wrote

/-- The value that a rotation gives to the secret. -/
def rotatedTo : BrokerEvent → Option String
  | ⟨.putSecretValue value, _⟩ => some value
  | _ => none

/-- What a replica with these caches is told while the secret has this value. -/
def BrokerReplies (key : Option CachedSigningKey) (entry : Option CachedSecret) (secret : String) :
    BrokerEvent → Prop
  | ⟨.readKey, reply⟩ => reply = key
  | ⟨.readSecret, reply⟩ => reply = entry
  | ⟨.getSecretValue, .ok value⟩ => value = some secret
  | _ => True

section Caches

variable {Thread Replica : Type} [DecidableEq Replica]

/-- A variable of one replica, empty at its start. -/
def cacheOf {Value : Type} (written : BrokerEvent → Option (Option Value))
    (replica : Thread → Replica) (own : Replica) (history : History brokerReplica Thread) :
    Option Value :=
  held (fun step => if replica step.thread = own then written step.event else none) none history

/-- The secret after these steps. -/
def secretAfter (initial : String) (history : History brokerReplica Thread) : String :=
  held (fun step => rotatedTo step.event) initial history

theorem written_of_cacheOf {Value : Type} {written : BrokerEvent → Option (Option Value)}
    {replica : Thread → Replica} {own : Replica} {history : History brokerReplica Thread}
    {value : Value} (found : cacheOf written replica own history = some value) :
    ∃ step ∈ history, written step.event = some (some value) := by
  obtain ⟨impossible, _⟩ | ⟨step, member, wrote⟩ := held_written found
  · cases impossible
  · refine ⟨step, member, ?_⟩
    split at wrote
    · exact wrote
    · cases wrote

end Caches

/-- Any interleaving of mints, JWKS requests, refreshes and rotations. Each replica has caches of
its own; nothing is said of the replicas' clocks. -/
structure ReplicatedBroker (P : Platform) (S : SigningKeyLibrary P) (settings : SigningSettings)
    (Thread Replica : Type) [DecidableEq Thread] [DecidableEq Replica] where
  kind : Thread → BrokerThread
  replica : Thread → Replica
  initial : String
  history : History brokerReplica Thread
  performs : ∀ thread, (kind thread).Performs P S settings (history.trace thread)
  replies : ∀ before step after, history = before ++ step :: after →
    BrokerReplies (cacheOf writtenKey replica (replica step.thread) before)
      (cacheOf writtenSecret replica (replica step.thread) before) (secretAfter initial before)
      step.event
  /-- a rotation brings a key that was not there before -/
  fresh : ∀ before step after value, history = before ++ step :: after →
    rotatedTo step.event = some value → ∀ old,
      (old = initial ∨ ∃ earlier ∈ before, rotatedTo earlier.event = some old) →
      ∀ oldKey newKey, importSigningKey P S old = .ok oldKey →
        importSigningKey P S value = .ok newKey → oldKey.kid ≠ newKey.kid
  signs : ∀ step ∈ history, ∀ header claims key token,
    step.event = ⟨.signJwt header claims key, .ok token⟩ → SignedWith P header claims key token

/-- A validator that gets these keys, whenever it fetches, accepts the token until it expires. -/
def AcceptedUnder (P : Platform) (token : String) (claims : Obj) (keys : List Obj) : Prop :=
  ∀ jwksUri trace outcome, Runs (verifyAgainstJwks P jwksUri token) trace outcome →
    (∀ forced reply, ⟨.getKeys jwksUri forced, reply⟩ ∈ trace → reply = .ok keys) →
    (∀ moment, ⟨.now, moment⟩ ∈ trace → (toSeconds moment : Rat) < dateOrZero claims "exp") →
    ∃ payload, outcome = .ok payload ∧ payload.claims = claims

section Acceptance

variable {P : Platform} {S : SigningKeyLibrary P}

/-- What is known of a key that was imported. -/
structure ImportedKey (P : Platform) (loaded : LoadedSigningKey) : Prop where
  named : Obj.get? "kid" loaded.publicJwk = some (.str loaded.kid)
  filled : loaded.kid ≠ ""
  published : importKey P loaded.publicJwk = .ok loaded.privateKey.publicKey

theorem except_bind_ok {α β : Type} {first : Except Fault α} {next : α → Except Fault β}
    {result : β} :
    first >>= next = .ok result ↔ ∃ value, first = .ok value ∧ next value = .ok result := by
  cases first with
  | error fault =>
      constructor
      · intro failed
        cases failed
      · rintro ⟨_, impossible, _⟩
        cases impossible
  | ok value =>
      constructor
      · intro passed
        exact ⟨value, rfl, passed⟩
      · rintro ⟨_, ⟨⟩, passed⟩
        exact passed

theorem importSigningKey_ok {pem : String} {loaded : LoadedSigningKey}
    (imported : importSigningKey P S pem = .ok loaded) : ImportedKey P loaded := by
  unfold importSigningKey at imported
  simp only at imported
  split at imported
  · cases imported
  · obtain ⟨privateKey, _, imported⟩ := except_bind_ok.mp imported
    obtain ⟨jwk, exported, imported⟩ := except_bind_ok.mp imported
    split at imported
    · next kty n e hasKty hasN hasE =>
        obtain ⟨kid, computed, imported⟩ := except_bind_ok.mp imported
        cases imported
        exact {
          named := rfl
          filled := S.thumbprints _ _ computed
          published := S.publishes privateKey jwk kty n e kid exported hasKty hasN hasE }
    · cases imported

theorem selectKey_published {loaded : LoadedSigningKey} {kid : String}
    (key : ImportedKey P loaded) (filled : kid ≠ "") :
    selectKey [loaded.publicJwk] (some (.str kid)) =
      if loaded.kid = kid then some loaded.publicJwk else none := by
  have truthy : (Json.str kid).truthy = true := by simp [Json.truthy, filled]
  simp only [selectKey, truthy, ↓reduceIte, List.find?_cons, List.find?_nil, key.named]
  by_cases same : loaded.kid = kid
  · simp [same, Js.strictEquals]
  · simp [same, Js.strictEquals]

/-- A token verifies under the published form of the key that signed it. -/
theorem acceptedUnder_own {header claims : Obj} {loaded : LoadedSigningKey} {token : String}
    (key : ImportedKey P loaded) (named : Obj.get? "kid" header = some (.str loaded.kid))
    (signed : SignedWith P header claims loaded.privateKey token) :
    AcceptedUnder P token claims [loaded.publicJwk] := by
  intro jwksUri trace outcome run published live
  have kid : readKid P token = some (.str loaded.kid) := by
    rw [signed.kid, named]
    rfl
  have publishes : Publishes P jwksUri token loaded.privateKey.publicKey trace := by
    intro forced reply fetched
    refine ⟨_, loaded.publicJwk, published forced reply fetched, ?_, key.published⟩
    rw [kid, selectKey_published key key.filled, if_pos rfl]
  have verifies : VerifiesTo P token loaded.privateKey.publicKey claims trace := by
    intro moment read
    exact signed.verified moment (live moment read)
  exact verifyAgainstJwks_accepts publishes verifies run

/-- It has no key in a set of another one. -/
theorem not_acceptedUnder_other {header claims : Obj} {minted served : LoadedSigningKey}
    {token : String} (key : ImportedKey P minted) (other : ImportedKey P served)
    (named : Obj.get? "kid" header = some (.str minted.kid))
    (signed : SignedWith P header claims minted.privateKey token)
    (different : minted.kid ≠ served.kid) : ¬ AcceptedUnder P token claims [served.publicJwk] := by
  intro accepted
  have kid : readKid P token = some (.str minted.kid) := by
    rw [signed.kid, named]
    rfl
  have missing : selectKey [served.publicJwk] (readKid P token) = none := by
    rw [kid, selectKey_published other key.filled, if_neg different.symm]
  have search : Runs (findKey "" (readKid P token))
      ([⟨.getKeys "" false, .ok [served.publicJwk]⟩] ++
        ([⟨.getKeys "" true, .ok [served.publicJwk]⟩] ++ []))
      (.error (unauthorized .invalidToken "no matching JWKS key")) := by
    refine Runs.bind (Act.runs_getKeys_iff.mpr rfl) ?_
    rw [missing]
    refine Runs.bind (Act.runs_getKeys_iff.mpr rfl) ?_
    rw [missing]
    exact .done _
  obtain ⟨_, impossible, _⟩ := accepted "" _ _ (Runs.bind_error search) (by simp) (by simp)
  cases impossible

end Acceptance

namespace ReplicatedBroker

variable {P : Platform} {S : SigningKeyLibrary P} {settings : SigningSettings}
  {Thread Replica : Type} [DecidableEq Thread] [DecidableEq Replica]
  (run : ReplicatedBroker P S settings Thread Replica)
  {before after : History brokerReplica Thread} {step : Step brokerReplica Thread}

theorem keySource (thread : Thread) : Preceded (KeySource P S) (run.history.trace thread) := by
  have performs := run.performs thread
  cases kind : run.kind thread with
  | mint input =>
      rw [kind] at performs
      exact (provides_mintToken [] input).preceded performs
  | jwks =>
      rw [kind] at performs
      exact (provides_jwksRouter []).preceded performs
  | load =>
      rw [kind] at performs
      exact (provides_getSigningKey []).preceded performs
  | invalidate =>
      rw [kind] at performs
      exact (provides_invalidateKey []).preceded performs
  | rotation value =>
      rw [kind] at performs
      have rotated : Provides (KeySource P S) [] (Broker.putSecretValue value) (fun _ _ => True) :=
        Provides.command (fun _ => trivial) fun _ _ _ => trivial
      exact rotated.preceded performs

theorem source (split : run.history = before ++ step :: after) :
    KeySource P S (History.trace before step.thread) step.event :=
  History.needs_of_preceded (run.keySource step.thread) split

/-- The secret that is fetched is the one of that moment. -/
theorem fetched_secret (split : run.history = before ++ step :: after) {pem : String}
    (fetched : step.event = ⟨.getSecretValue, .ok (some pem)⟩) :
    secretAfter run.initial before = pem := by
  have replied := run.replies before step after split
  rw [fetched] at replied
  exact (Option.some.inj replied).symm

/-- A secret that a thread has read was fetched by some thread before. -/
theorem fetched_of_secretRead (prefixed : ∃ later, run.history = before ++ later) {thread : Thread}
    {pem : String} (read : SecretRead (History.trace before thread) pem) :
    ∃ fetch ∈ before, fetch.event = ⟨.getSecretValue, .ok (some pem)⟩ := by
  obtain ⟨later, whole⟩ := prefixed
  obtain fetched | ⟨entry, cached, rfl⟩ := read
  · obtain ⟨fetch, member, _, event⟩ := History.mem_trace.mp fetched
    exact ⟨fetch, member, event⟩
  · obtain ⟨reading, member, _, event⟩ := History.mem_trace.mp cached
    obtain ⟨early, middle, rfl⟩ := List.append_of_mem member
    have split : run.history = early ++ reading :: (middle ++ later) := by
      rw [whole, List.append_assoc, List.cons_append]
    have replied := run.replies early reading _ split
    rw [event] at replied
    -- the entry was stored by a thread that had just fetched it
    obtain ⟨writing, inEarly, wrote⟩ := written_of_cacheOf replied.symm
    obtain ⟨start, rest, rfl⟩ := List.append_of_mem inEarly
    have whole' : run.history = start ++ writing :: (rest ++ reading :: (middle ++ later)) := by
      rw [split]
      simp
    have source := run.source whole'
    rw [writtenSecret_some wrote] at source
    obtain ⟨fetch, inStart, _, fetched⟩ := History.mem_trace.mp source
    exact ⟨fetch, by simp [inStart], fetched⟩

/-- The fetch of the secret that a key was imported from. -/
def FetchedFor (fetch : Step brokerReplica Thread) (loaded : LoadedSigningKey) : Prop :=
  fetch ∈ run.history ∧ ∃ pem, fetch.event = ⟨.getSecretValue, .ok (some pem)⟩ ∧
    importSigningKey P S pem = .ok loaded

/-- A key that a thread has read was imported from a fetched secret. -/
theorem fetchedFor_of_keyRead (prefixed : ∃ later, run.history = before ++ later)
    {thread : Thread} {loaded : LoadedSigningKey}
    (read : KeyRead P S (History.trace before thread) loaded) :
    ∃ fetch, run.FetchedFor fetch loaded := by
  obtain ⟨later, whole⟩ := prefixed
  obtain ⟨cached, recalled, rfl⟩ | ⟨pem, secret, imported⟩ := read
  · obtain ⟨reading, member, _, event⟩ := History.mem_trace.mp recalled
    obtain ⟨early, middle, rfl⟩ := List.append_of_mem member
    have split : run.history = early ++ reading :: (middle ++ later) := by
      rw [whole, List.append_assoc, List.cons_append]
    have replied := run.replies early reading _ split
    rw [event] at replied
    -- the key was stored by a thread that had just imported it
    obtain ⟨writing, inEarly, wrote⟩ := written_of_cacheOf replied.symm
    obtain ⟨start, rest, rfl⟩ := List.append_of_mem inEarly
    have whole' : run.history = start ++ writing :: (rest ++ reading :: (middle ++ later)) := by
      rw [split]
      simp
    have source := run.source whole'
    rw [writtenKey_some wrote] at source
    obtain ⟨pem, secret, imported⟩ := source
    obtain ⟨fetch, inStart, fetched⟩ := run.fetched_of_secretRead ⟨_, whole'⟩ secret
    exact ⟨fetch, by rw [whole']; simp [inStart], pem, fetched, imported⟩
  · obtain ⟨fetch, inBefore, fetched⟩ := run.fetched_of_secretRead ⟨later, whole⟩ secret
    exact ⟨fetch, by rw [whole]; simp [inBefore], pem, fetched, imported⟩

/-- A rotation of the secret lies between the two steps, whichever comes first. -/
def RotatedBetween (first second : Step brokerReplica Thread) : Prop :=
  ∃ before between after, (run.history = before ++ first :: between ++ second :: after ∨
      run.history = before ++ second :: between ++ first :: after) ∧
    ∃ step ∈ between, ∃ value, rotatedTo step.event = some value

section Fetches

variable {between : History brokerReplica Thread} {first second : Step brokerReplica Thread}
  {pem pem' : String} {key key' : LoadedSigningKey}

/-- Without a rotation in between the same secret is fetched again. -/
theorem same_secret (split : run.history = before ++ first :: between ++ second :: after)
    (fetched : first.event = ⟨.getSecretValue, .ok (some pem)⟩)
    (fetched' : second.event = ⟨.getSecretValue, .ok (some pem')⟩)
    (quiet : ∀ step ∈ between, rotatedTo step.event = none) : pem = pem' := by
  have early := run.fetched_secret (split.trans (List.append_assoc _ _ _)) fetched
  have late := run.fetched_secret split fetched'
  rw [secretAfter, held_append, held_of_quiet] at late
  · exact early.symm.trans late
  · intro step member
    obtain rfl | inBetween := List.mem_cons.mp member
    · rw [fetched]
      rfl
    · exact quiet step inBetween

/-- With a rotation in between another key is fetched. -/
theorem other_key (split : run.history = before ++ first :: between ++ second :: after)
    (fetched : first.event = ⟨.getSecretValue, .ok (some pem)⟩)
    (fetched' : second.event = ⟨.getSecretValue, .ok (some pem')⟩)
    (imported : importSigningKey P S pem = .ok key)
    (imported' : importSigningKey P S pem' = .ok key')
    (rotated : ∃ step ∈ between, ∃ value, rotatedTo step.event = some value) :
    key.kid ≠ key'.kid := by
  obtain ⟨rotation, inBetween, value, rotatedValue⟩ := rotated
  have early := run.fetched_secret (split.trans (List.append_assoc _ _ _)) fetched
  have late := run.fetched_secret split fetched'
  rw [secretAfter, held_append] at late
  obtain ⟨_, quiet⟩ | ⟨last, member, lastValue⟩ := held_written late
  · rw [quiet rotation (List.mem_cons_of_mem _ inBetween)] at rotatedValue
    cases rotatedValue
  · have lastBetween : last ∈ between := by
      obtain rfl | inBetween := List.mem_cons.mp member
      · rw [fetched] at lastValue
        cases lastValue
      · exact inBetween
    obtain ⟨start, rest, rfl⟩ := List.append_of_mem lastBetween
    have whole : run.history = (before ++ first :: start) ++ last :: (rest ++ second :: after) := by
      rw [split]
      simp
    refine run.fresh _ last _ pem' whole lastValue pem ?_ key key' imported imported'
    obtain ⟨initial, _⟩ | ⟨earlier, inBefore, earlierValue⟩ := held_written early
    · exact .inl initial.symm
    · exact .inr ⟨earlier, List.mem_append_left _ inBefore, earlierValue⟩

theorem fetched_alike (one : run.FetchedFor first key) (other : run.FetchedFor second key')
    (unrotated : ¬ run.RotatedBetween first second) : key = key' := by
  obtain ⟨member, pem, fetched, imported⟩ := one
  obtain ⟨member', pem', fetched', imported'⟩ := other
  have same : pem = pem' := by
    by_cases equal : first = second
    · rw [equal, fetched'] at fetched
      cases fetched
      rfl
    · have quiet : ∀ between : History brokerReplica Thread,
          (∀ step ∈ between, ∀ value, rotatedTo step.event ≠ some value) →
            ∀ step ∈ between, rotatedTo step.event = none := by
        intro between none step member
        exact Option.eq_none_iff_forall_ne_some.mpr (none step member)
      obtain ⟨before, between, after, split⟩ | ⟨before, between, after, split⟩ :=
        History.exists_split_two member member' equal
      · refine run.same_secret split fetched fetched' (quiet between ?_)
        intro step inBetween value rotated
        exact unrotated ⟨before, between, after, .inl split, step, inBetween, value, rotated⟩
      · refine (run.same_secret split fetched' fetched (quiet between ?_)).symm
        intro step inBetween value rotated
        exact unrotated ⟨before, between, after, .inr split, step, inBetween, value, rotated⟩
  rw [← same, imported] at imported'
  exact Except.ok.inj imported'

theorem fetched_apart (one : run.FetchedFor first key) (other : run.FetchedFor second key')
    (rotated : run.RotatedBetween first second) : key.kid ≠ key'.kid := by
  obtain ⟨_, pem, fetched, imported⟩ := one
  obtain ⟨_, pem', fetched', imported'⟩ := other
  obtain ⟨before, between, after, split | split, rotation⟩ := rotated
  · exact run.other_key split fetched fetched' imported imported' rotation
  · exact (run.other_key split fetched' fetched imported' imported rotation).symm

end Fetches

/-- Some replica has signed this token, and some replica serves these keys while it is live. -/
def ServedWhileLive (header claims : Obj) (key : PrivateKey) (token : String) (keys : List Obj) :
    Prop :=
  ∃ before mint between serve after,
    run.history = before ++ mint :: between ++ serve :: after ∧
      mint.event = ⟨.signJwt header claims key, .ok token⟩ ∧
      serve.event = ⟨.json 200 (.obj [("keys", .arr (keys.map Json.obj))]), ()⟩ ∧
      (toSeconds serve.time : Rat) < dateOrZero claims "exp"

/-- No live token is without its key in what is served. -/
def NeverOrphans : Prop :=
  ∀ header claims key token keys, run.ServedWhileLive header claims key token keys →
    AcceptedUnder P token claims keys

/-- Whenever keys are served while a token is live, no rotation lies between the fetch that the
token's key comes from and the fetch that the served key comes from. -/
def FetchedAlike : Prop :=
  ∀ header claims key token keys, run.ServedWhileLive header claims key token keys →
    ∀ minted served : LoadedSigningKey, Obj.get? "kid" header = some (.str minted.kid) →
      key = minted.privateKey → keys = [served.publicJwk] →
      ∀ first second, run.FetchedFor first minted → run.FetchedFor second served →
        ¬ run.RotatedBetween first second

/-- The keys behind a token and behind what is served, with their fetches. -/
theorem keys_of_served {header claims : Obj} {key : PrivateKey} {token : String} {keys : List Obj}
    (live : run.ServedWhileLive header claims key token keys) :
    ∃ minted served : LoadedSigningKey, Obj.get? "kid" header = some (.str minted.kid) ∧
      key = minted.privateKey ∧ keys = [served.publicJwk] ∧
      SignedWith P header claims key token ∧
      (∃ fetch, run.FetchedFor fetch minted) ∧ ∃ fetch, run.FetchedFor fetch served := by
  obtain ⟨before, mint, between, serve, after, split, signed, answered, _⟩ := live
  have mintSplit : run.history = before ++ mint :: (between ++ serve :: after) :=
    split.trans (List.append_assoc _ _ _)
  have mintSource := run.source mintSplit
  have serveSource := run.source split
  rw [signed] at mintSource
  rw [answered] at serveSource
  obtain ⟨minted, mintRead, named, sameKey⟩ := mintSource
  obtain ⟨served, serveRead, body⟩ := serveSource
  refine ⟨minted, served, named, sameKey, ?_, ?_, run.fetchedFor_of_keyRead ⟨_, mintSplit⟩ mintRead,
    run.fetchedFor_of_keyRead ⟨_, split⟩ serveRead⟩
  · simp only [jwksBody, Json.obj.injEq, List.cons.injEq, Prod.mk.injEq, Json.arr.injEq, true_and,
      and_true] at body
    cases keys with
    | nil => cases body
    | cons first rest =>
        cases rest with
        | nil =>
            cases body
            rfl
        | cons _ _ => cases body
  · exact run.signs mint (by rw [split]; simp) header claims key token signed

theorem imported_of_fetchedFor {fetch : Step brokerReplica Thread} {loaded : LoadedSigningKey}
    (fetched : run.FetchedFor fetch loaded) : ImportedKey P loaded := by
  obtain ⟨_, _, _, imported⟩ := fetched
  exact importSigningKey_ok imported

/-- Live tokens keep their key exactly where no rotation comes between the two fetches. -/
theorem neverOrphans_iff : run.NeverOrphans ↔ run.FetchedAlike := by
  constructor
  · intro never header claims key token keys live minted served named sameKey published first second
      fetched fetched' rotated
    obtain ⟨_, _, _, _, _, signed, _⟩ := run.keys_of_served live
    subst sameKey published
    exact not_acceptedUnder_other (run.imported_of_fetchedFor fetched)
      (run.imported_of_fetchedFor fetched') named signed
      (run.fetched_apart fetched fetched' rotated) (never _ _ _ _ _ live)
  · intro alike header claims key token keys live
    obtain ⟨minted, served, named, sameKey, published, signed, ⟨first, fetched⟩, second, fetched'⟩ :=
      run.keys_of_served live
    have unrotated := alike _ _ _ _ _ live minted served named sameKey published first second
      fetched fetched'
    have same : minted = served := run.fetched_alike fetched fetched' unrotated
    subst same sameKey published
    exact acceptedUnder_own (run.imported_of_fetchedFor fetched) named signed

end ReplicatedBroker

section RotationBetweenReplicas

inductive ReplicaThread where
  | minting
  | rotating
  | serving
  deriving DecidableEq

/-- The modulus of a key in this example: as many letters as its number. -/
def modulusOf (key : PrivateKey) : String := String.ofList (List.replicate key.pair 'n')

def rsaKey : Json → Except Fault PublicKey
  | .obj jwk =>
      match Obj.get? "n" jwk with
      | some (.str n) => .ok ⟨n.length⟩
      | _ => .error (plainError "Invalid JWK")
  | _ => .error (plainError "JWK must be an object")

def rsaThumbprint (jwk : Json) : Except Fault String :=
  (rsaKey jwk).map fun key => "kid-" ++ toString key.pair

def replicaSettings : SigningSettings where
  secretArn := "arn:signing-key"
  keyTtlMs := 3600000
  issuer := "https://broker"
  tokenTtlSeconds := 300

def replicaInput : MintExchangedTokenInput where
  user := ⟨"user-alice", [], [], [], "https://idp"⟩
  audience := "receiving-service"
  scopes := ["lending/write"]
  actorClientId := "calling-service"
  previousActorChain := none
  confirmationJkt := "thumbprint-1"

def signingKeyOf (key : PrivateKey) : LoadedSigningKey where
  privateKey := key
  publicJwk := [("kty", .str "RSA"), ("n", .str (modulusOf key)), ("e", .str "AQAB"),
    ("kid", .str ("kid-" ++ toString key.pair)), ("use", .str "sig"), ("alg", .str "RS256")]
  kid := "kid-" ++ toString key.pair

def oldOptions : SignUserJwtOptions :=
  mintSignOptions (replicaMintOptions replicaSettings (signingKeyOf ⟨1⟩)) replicaInput

def oldToken : SignedToken where
  token := "old.token.sig"
  header := userJwtHeader oldOptions
  payload := JwtPayload.ofClaims
    (signedPayload oldOptions (mintSignInput replicaInput) 1000 "jti-1") (by decide +kernel)
  signer := ⟨1⟩

def replicaTable : TokenTable where
  tokens := [oldToken]

def replicaPlatform : Platform :=
  { replicaTable.platform with
    importJWK := fun jwk _ => rsaKey jwk
    calculateJwkThumbprint := rsaThumbprint }

def replicaLibrary : SigningKeyLibrary replicaPlatform where
  importPKCS8 text := .ok ⟨if text = "-----BEGIN old" then 1 else 2⟩
  exportJWK key := .ok [("kty", .str "RSA"), ("n", .str (modulusOf key)), ("e", .str "AQAB")]
  publishes := by
    intro key jwk kty n e kid exported hasKty hasN hasE
    cases exported
    cases hasN
    simp [importKey, replicaPlatform, rsaKey, Obj.get?, modulusOf, PrivateKey.publicKey]
  thumbprints := by
    intro jwk kid computed
    cases imported : rsaKey jwk with
    | error fault => simp [replicaPlatform, rsaThumbprint, imported, Except.map] at computed
    | ok key =>
        simp only [replicaPlatform, rsaThumbprint, imported, Except.map, Except.ok.injEq] at computed
        subst computed
        intro empty
        have filled := congrArg String.length empty
        simp at filled

/-- A replica that has just started, while the secret has this value. -/
def startedReplica (secret : String) (nowMs : Millis) : Environment brokerReplica
  | _, .now => nowMs
  | _, .readKey => none
  | _, .readSecret => none
  | _, .getSecretValue => .ok (some secret)
  | _, .randomUUID => "jti-1"
  | _, .signJwt _ _ _ => .ok "old.token.sig"
  | _, .writeKey _ | _, .writeSecret _ | _, .setHeader _ _ | _, .json _ _ |
    _, .putSecretValue _ => ()

def mintTrace : List BrokerEvent :=
  (exec (startedReplica "-----BEGIN old" 1000000) []
    (mintToken replicaPlatform replicaLibrary replicaSettings replicaInput)).1

def servingTrace : List BrokerEvent :=
  (exec (startedReplica "-----BEGIN new" 1001000) []
    (jwksRouter replicaPlatform replicaLibrary replicaSettings)).1

def rotatingTrace : List BrokerEvent :=
  (exec (startedReplica "" 0) [] (Broker.putSecretValue "-----BEGIN new")).1

/-- One replica mints, the secret is rotated, and another replica starts and serves its key. -/
def replicaHistory : History brokerReplica ReplicaThread :=
  mintTrace.map (Step.mk .minting 1000000) ++ rotatingTrace.map (Step.mk .rotating 1000500) ++
    servingTrace.map (Step.mk .serving 1001000)

def replicaKind : ReplicaThread → BrokerThread
  | .minting => .mint replicaInput
  | .rotating => .rotation "-----BEGIN new"
  | .serving => .jwks

theorem replicaHistory_rotations :
    replicaHistory.filterMap (fun step => rotatedTo step.event) = ["-----BEGIN new"] := by
  rfl

theorem replicaHistory_performs (thread : ReplicaThread) :
    (replicaKind thread).Performs replicaPlatform replicaLibrary replicaSettings
      (replicaHistory.trace thread) := by
  cases thread with
  | minting =>
      have own : replicaHistory.trace .minting = mintTrace := by
        simp [replicaHistory, History.trace_append, History.trace_of_thread]
      rw [own]
      exact (exec_runs _ _ []).performs
  | rotating =>
      have own : replicaHistory.trace .rotating = rotatingTrace := by
        simp [replicaHistory, History.trace_append, History.trace_of_thread]
      rw [own]
      exact (exec_runs _ _ []).performs
  | serving =>
      have own : replicaHistory.trace .serving = servingTrace := by
        simp [replicaHistory, History.trace_append, History.trace_of_thread]
      rw [own]
      exact (exec_runs _ _ []).performs

def replicaOf : ReplicaThread → Bool
  | .serving => true
  | _ => false

theorem replicaHistory_replies : Along (fun before step =>
    BrokerReplies (cacheOf writtenKey replicaOf (replicaOf step.thread) before)
      (cacheOf writtenSecret replicaOf (replicaOf step.thread) before)
      (secretAfter "-----BEGIN old" before) step.event) [] replicaHistory :=
  ⟨rfl, trivial, rfl, rfl, trivial, trivial, trivial, trivial, trivial, trivial, trivial,
    rfl, trivial, rfl, rfl, trivial, trivial, trivial, trivial, trivial, trivial⟩

def signedBy : BrokerEvent → Option (Obj × Obj × PrivateKey × String)
  | ⟨.signJwt header claims key, .ok token⟩ => some (header, claims, key, token)
  | _ => none

theorem replicaHistory_signed : replicaHistory.filterMap (fun step => signedBy step.event) =
    [(oldToken.header, oldToken.payload.claims, ⟨1⟩, "old.token.sig")] := by
  rfl

theorem oldToken_signed : SignedWith replicaPlatform oldToken.header oldToken.payload.claims ⟨1⟩
    "old.token.sig" := by
  have signed : SignedWith replicaTable.platform oldToken.header oldToken.payload.claims ⟨1⟩
      oldToken.token := signedWith_of_row rfl rfl (by decide +kernel)
  exact ⟨signed.decoded, signed.kid, signed.verified⟩

theorem oldKey_imported : importSigningKey replicaPlatform replicaLibrary "-----BEGIN old" =
    .ok (signingKeyOf ⟨1⟩) := by
  decide +kernel

theorem newKey_imported : importSigningKey replicaPlatform replicaLibrary "-----BEGIN new" =
    .ok (signingKeyOf ⟨2⟩) := by
  decide +kernel

def replicaRun : ReplicatedBroker replicaPlatform replicaLibrary replicaSettings ReplicaThread
    Bool where
  kind := replicaKind
  replica := replicaOf
  initial := "-----BEGIN old"
  history := replicaHistory
  performs := replicaHistory_performs
  replies _ _ _ split := replicaHistory_replies.at_split split
  fresh := by
    intro before step after value split rotated old known oldKey newKey imported imported'
    have rotations := replicaHistory_rotations
    rw [split, List.filterMap_append, List.filterMap_cons] at rotations
    simp only [rotated] at rotations
    obtain ⟨none, same⟩ := (List.append_eq_singleton_iff.mp rotations).resolve_right (by simp)
    cases (List.cons.inj same).1
    obtain rfl | ⟨earlier, inBefore, rotatedEarlier⟩ := known
    · rw [oldKey_imported] at imported
      rw [newKey_imported] at imported'
      cases imported
      cases imported'
      decide
    · have found : old ∈ before.filterMap fun step => rotatedTo step.event :=
        List.mem_filterMap.mpr ⟨earlier, inBefore, rotatedEarlier⟩
      rw [none] at found
      cases found
  signs := by
    intro step member header claims key token signed
    have found : (header, claims, key, token) ∈
        replicaHistory.filterMap fun step => signedBy step.event :=
      List.mem_filterMap.mpr ⟨step, member, by rw [signed]; rfl⟩
    rw [replicaHistory_signed] at found
    cases List.mem_singleton.mp found
    exact oldToken_signed

/-- The token is not accepted by a validator of the keys that the other replica serves while it is
live. -/
theorem replicaRun_orphans :
    replicaRun.ServedWhileLive oldToken.header oldToken.payload.claims ⟨1⟩ "old.token.sig"
        [(signingKeyOf ⟨2⟩).publicJwk] ∧
      ¬ AcceptedUnder replicaPlatform "old.token.sig" oldToken.payload.claims
        [(signingKeyOf ⟨2⟩).publicJwk] ∧
      ¬ replicaRun.NeverOrphans := by
  have live : replicaRun.ServedWhileLive oldToken.header oldToken.payload.claims ⟨1⟩
      "old.token.sig" [(signingKeyOf ⟨2⟩).publicJwk] :=
    ⟨replicaHistory.take 9, _, (replicaHistory.drop 10).take 9, _, [], rfl, rfl, rfl,
      by decide +kernel⟩
  have orphaned : ¬ AcceptedUnder replicaPlatform "old.token.sig" oldToken.payload.claims
      [(signingKeyOf ⟨2⟩).publicJwk] :=
    not_acceptedUnder_other (importSigningKey_ok oldKey_imported)
      (importSigningKey_ok newKey_imported) (by decide +kernel) oldToken_signed (by decide +kernel)
  exact ⟨live, orphaned, fun never => orphaned (never _ _ _ _ _ live)⟩

end RotationBetweenReplicas

end S2s
