import S2sStack.Broker.SigningKeys

set_option autoImplicit false

/- Where the keys of a replica come from: in every run a key that is cached, signed with or
published was imported from a secret that the run has read. -/
namespace S2s

open Effect Effect.Program
open Js (Json Obj)

section Sources

variable (P : Platform) (S : SigningKeyLibrary P)

/-- The text of the secret, from the service or from the cache. -/
def SecretRead (before : List BrokerEvent) (pem : String) : Prop :=
  ⟨.getSecretValue, .ok (some pem)⟩ ∈ before ∨
    ∃ entry : CachedSecret, ⟨.readSecret, some entry⟩ ∈ before ∧ entry.value = pem

/-- The key, imported from the secret or from the cache. -/
def KeyRead (before : List BrokerEvent) (loaded : LoadedSigningKey) : Prop :=
  (∃ cached : CachedSigningKey, ⟨.readKey, some cached⟩ ∈ before ∧
    cached.toLoadedSigningKey = loaded) ∨
  ∃ pem, SecretRead before pem ∧ importSigningKey P S pem = .ok loaded

/-- What the events of a replica come after. -/
def KeySource (before : List BrokerEvent) : BrokerEvent → Prop
  | ⟨.writeSecret (some entry), _⟩ => ⟨.getSecretValue, .ok (some entry.value)⟩ ∈ before
  | ⟨.writeKey (some key), _⟩ =>
      ∃ pem, SecretRead before pem ∧ importSigningKey P S pem = .ok key.toLoadedSigningKey
  | ⟨.signJwt header _ key, _⟩ => ∃ loaded, KeyRead P S before loaded ∧
      Obj.get? "kid" header = some (.str loaded.kid) ∧ key = loaded.privateKey
  | ⟨.json 200 body, _⟩ => ∃ loaded, KeyRead P S before loaded ∧ body = jwksBody loaded
  | _ => True

variable {P S} {settings : SigningSettings} {before more : List BrokerEvent} {pem : String}
  {loaded : LoadedSigningKey}

theorem SecretRead.mono (read : SecretRead before pem) : SecretRead (before ++ more) pem := by
  obtain fetched | ⟨entry, cached, same⟩ := read
  · exact .inl (List.mem_append_left _ fetched)
  · exact .inr ⟨entry, List.mem_append_left _ cached, same⟩

theorem KeyRead.mono (read : KeyRead P S before loaded) : KeyRead P S (before ++ more) loaded := by
  obtain ⟨cached, member, same⟩ | ⟨pem, secret, imported⟩ := read
  · exact .inl ⟨cached, List.mem_append_left _ member, same⟩
  · exact .inr ⟨pem, secret.mono, imported⟩

theorem provides_fetchSecret (past : List BrokerEvent) (secretArn : String) (nowMs : Millis) :
    Provides (KeySource P S) past (fetchSecret secretArn nowMs) SecretRead := by
  have fetched : Provides (KeySource P S) past Broker.getSecretValue
      (fun trace value => ⟨.getSecretValue, .ok value⟩ ∈ trace) := by
    refine Provides.command (fun _ => trivial) fun reply value replied => ?_
    rw [show reply = .ok value from replied]
    simp
  refine fetched.bind fun trace value member => ?_
  cases given : value.filter (· ≠ "") with
  | none => exact Provides.done fun _ impossible => by cases impossible
  | some text =>
      obtain ⟨rfl, -⟩ := Option.filter_eq_some_iff.mp given
      have stored : Provides (KeySource P S) (past ++ trace)
          (Broker.writeSecret (some { value := text, fetchedAt := nowMs }))
          (fun trace _ => ⟨.getSecretValue, .ok (some text)⟩ ∈ trace) :=
        Provides.command (fun _ => member) fun _ _ _ => List.mem_append_left _ member
      refine stored.bind fun trace _ member => ?_
      refine Provides.done fun value returned => ?_
      cases returned
      exact .inl member

theorem provides_getClientSecret (past : List BrokerEvent) (secretArn : String) :
    Provides (KeySource P S) past (getClientSecret secretArn) SecretRead := by
  have clock : Provides (KeySource P S) past Broker.now (fun _ _ => True) :=
    Provides.command (fun _ => trivial) fun _ _ _ => trivial
  refine clock.bind fun trace nowMs _ => ?_
  have looked : Provides (KeySource P S) (past ++ trace) Broker.readSecret
      (fun trace entry => ⟨.readSecret, entry⟩ ∈ trace) := by
    refine Provides.command (fun _ => trivial) fun reply value replied => ?_
    cases replied
    simp
  refine looked.bind fun trace entry member => ?_
  cases entry with
  | none => exact provides_fetchSecret _ _ _
  | some found =>
      by_cases live : (nowMs : Int) - (found.fetchedAt : Nat) < secretTtlMs
      · simp only [live, ↓reduceIte]
        refine Provides.done fun value returned => ?_
        cases returned
        exact .inr ⟨found, member, rfl⟩
      · simp only [live, ↓reduceIte]
        exact provides_fetchSecret _ _ _

theorem provides_refreshKey (past : List BrokerEvent) :
    Provides (KeySource P S) past (refreshKey P S settings) (KeyRead P S) := by
  refine (provides_getClientSecret past settings.secretArn).bind fun trace pem secret => ?_
  have imported : Provides (KeySource P S) (past ++ trace)
      (Program.ofExcept (importSigningKey P S pem))
      (fun trace loaded => SecretRead trace pem ∧ importSigningKey P S pem = .ok loaded) :=
    Provides.done fun loaded passed => ⟨secret, passed⟩
  refine imported.bind fun trace loaded source => ?_
  have clock : Provides (KeySource P S) _ Broker.now
      (fun trace _ => SecretRead trace pem) :=
    Provides.command (fun _ => trivial) fun _ _ _ => source.1.mono
  refine clock.bind fun trace nowMs secret => ?_
  have stored : Provides (KeySource P S) _
      (Broker.writeKey (some { loaded with loadedAtMs := nowMs }))
      (fun trace _ => SecretRead trace pem) :=
    Provides.command (fun _ => ⟨pem, secret, source.2⟩) fun _ _ _ => secret.mono
  refine stored.bind fun trace _ secret => ?_
  refine Provides.done fun value returned => ?_
  cases returned
  exact .inr ⟨pem, secret, source.2⟩

theorem provides_getSigningKey (past : List BrokerEvent) :
    Provides (KeySource P S) past (getSigningKey P S settings) (KeyRead P S) := by
  have looked : Provides (KeySource P S) past Broker.readKey
      (fun trace cached => ⟨.readKey, cached⟩ ∈ trace) := by
    refine Provides.command (fun _ => trivial) fun reply value replied => ?_
    cases replied
    simp
  refine looked.bind fun trace cached member => ?_
  cases cached with
  | none => exact provides_refreshKey _
  | some key =>
      have clock : Provides (KeySource P S) (past ++ trace) Broker.now
          (fun trace _ => ⟨.readKey, some key⟩ ∈ trace) :=
        Provides.command (fun _ => trivial) fun _ _ _ => List.mem_append_left _ member
      refine clock.bind fun trace nowMs member => ?_
      split
      · refine Provides.done fun value returned => ?_
        cases returned
        exact .inl ⟨key, member, rfl⟩
      · exact provides_refreshKey _

theorem provides_mintToken (past : List BrokerEvent) (input : MintExchangedTokenInput) :
    Provides (KeySource P S) past (mintToken P S settings input) (fun _ _ => True) := by
  refine (provides_getSigningKey past).bind fun trace key source => ?_
  have clock : Provides (KeySource P S) (past ++ trace) Broker.now
      (fun trace _ => KeyRead P S trace key) :=
    Provides.command (fun _ => trivial) fun _ _ _ => source.mono
  refine clock.bind fun trace nowMs source => ?_
  have drawn : Provides (KeySource P S) _ Broker.randomUUID
      (fun trace _ => KeyRead P S trace key) :=
    Provides.command (fun _ => trivial) fun _ _ _ => source.mono
  refine drawn.bind fun trace jti source => ?_
  exact Provides.command (fun _ => ⟨key, source, rfl, rfl⟩) fun _ _ _ => trivial

theorem provides_jwksRouter (past : List BrokerEvent) :
    Provides (KeySource P S) past (jwksRouter P S settings) (fun _ _ => True) := by
  refine (provides_getSigningKey past).attempt.bind fun trace outcome source => ?_
  cases outcome with
  | ok key =>
      have named : Provides (KeySource P S) (past ++ trace)
          (Broker.setHeader "cache-control" "public, max-age=300")
          (fun trace _ => KeyRead P S trace key) :=
        Provides.command (fun _ => trivial) fun _ _ _ => (source key rfl).mono
      refine named.bind fun trace _ source => ?_
      exact Provides.command (fun _ => ⟨key, source, rfl⟩) fun _ _ _ => trivial
  | error err => exact Provides.command (fun _ => trivial) fun _ _ _ => trivial

theorem provides_invalidateKey (past : List BrokerEvent) :
    Provides (KeySource P S) past invalidateKey (fun _ _ => True) := by
  have dropped : Provides (KeySource P S) past (Broker.writeKey none) (fun _ _ => True) :=
    Provides.command (fun _ => trivial) fun _ _ _ => trivial
  refine dropped.bind fun trace _ _ => ?_
  exact Provides.command (fun _ => trivial) fun _ _ _ => trivial

end Sources

end S2s
