import Mathlib.Logic.Function.Basic

set_option autoImplicit false

/- A store of keys that expire, with the two atomic commands set-if-absent and delete.
A command whose reply was lost may have been applied or not. -/
namespace ExpiringStore

variable {Key : Type}

inductive Command (Key : Type) where
  /-- set the key if it is absent, for a lifetime -/
  | set (key : Key) (lifetime : Nat) (reply : Option Bool)
  | del (key : Key) (reply : Option Nat)

/-- The moment each stored key expires. -/
abbrev State (Key : Type) := Key → Option Nat

def State.empty : State Key := fun _ => none

/-- The key is stored and has not expired. -/
def Live (state : State Key) (now : Nat) (key : Key) : Prop :=
  ∃ expiry, state key = some expiry ∧ now < expiry

variable [DecidableEq Key]

/-- One command at a time. -/
inductive Applies (now : Nat) : State Key → Command Key → State Key → Prop
  | stored {state : State Key} {key : Key} {lifetime : Nat} {reply : Option Bool} :
      ¬ Live state now key → reply ≠ some false →
        Applies now state (.set key lifetime reply)
          (Function.update state key (some (now + lifetime)))
  | refused {state : State Key} {key : Key} {lifetime : Nat} {reply : Option Bool} :
      Live state now key → reply ≠ some true →
        Applies now state (.set key lifetime reply) state
  | setLost {state : State Key} {key : Key} {lifetime : Nat} :
      Applies now state (.set key lifetime none) state
  | removed {state : State Key} {key : Key} {reply : Option Nat} :
      Live state now key → reply = some 1 ∨ reply = none →
        Applies now state (.del key reply) (Function.update state key none)
  | absent {state : State Key} {key : Key} {reply : Option Nat} :
      ¬ Live state now key → reply = some 0 ∨ reply = none →
        Applies now state (.del key reply) state
  | delLost {state : State Key} {key : Key} : Applies now state (.del key none) state

/-- Timed commands one after the other. -/
inductive Serves : State Key → List (Nat × Command Key) → State Key → Prop
  | nil (state : State Key) : Serves state [] state
  | cons {state middle final : State Key} {now : Nat} {command : Command Key}
      {rest : List (Nat × Command Key)} :
      Applies now state command middle → Serves middle rest final →
        Serves state ((now, command) :: rest) final

theorem serves_append_iff {state final : State Key} {first second : List (Nat × Command Key)} :
    Serves state (first ++ second) final ↔
      ∃ middle, Serves state first middle ∧ Serves middle second final := by
  induction first generalizing state with
  | nil =>
      constructor
      · intro served
        exact ⟨state, .nil state, served⟩
      · intro split
        obtain ⟨middle, before, after⟩ := split
        cases before with
        | nil => exact after
  | cons head rest ih =>
      constructor
      · intro served
        cases served with
        | cons step served =>
            obtain ⟨middle, before, after⟩ := ih.mp served
            exact ⟨middle, .cons step before, after⟩
      · intro split
        obtain ⟨middle, before, after⟩ := split
        cases before with
        | cons step before => exact .cons step (ih.mpr ⟨middle, before, after⟩)

/-- The commands that can remove a key. -/
def Deletes (key : Key) : Command Key → Prop
  | .del other _ => other = key
  | .set _ _ _ => False

def Attempts (key : Key) : Command Key → Bool
  | .set other _ _ => other = key
  | .del _ _ => false

/-- The commands that were confirmed to remove a key. -/
def Removes (key : Key) : Command Key → Bool
  | .del other reply => other = key ∧ reply = some 1
  | .set _ _ _ => false

/-- Without a delete, what is stored under a key expires no earlier after a command. -/
theorem Applies.expiry_mono {now : Nat} {state next : State Key} {command : Command Key}
    (step : Applies now state command next) {key : Key} {expiry : Nat}
    (stored : state key = some expiry) (kept : ¬ Deletes key command) :
    ∃ later, next key = some later ∧ expiry ≤ later := by
  cases step with
  | @stored other lifetime reply dead accepted =>
      by_cases same : key = other
      · subst same
        have expired : expiry ≤ now := by
          by_contra young
          exact dead ⟨expiry, stored, by omega⟩
        exact ⟨now + lifetime, by simp, by omega⟩
      · exact ⟨expiry, by rw [Function.update_of_ne same, stored], Nat.le_refl _⟩
  | refused => exact ⟨expiry, stored, Nat.le_refl _⟩
  | setLost => exact ⟨expiry, stored, Nat.le_refl _⟩
  | @removed other reply live accepted =>
      have different : key ≠ other := fun same => kept same.symm
      exact ⟨expiry, by rw [Function.update_of_ne different, stored], Nat.le_refl _⟩
  | absent => exact ⟨expiry, stored, Nat.le_refl _⟩
  | delLost => exact ⟨expiry, stored, Nat.le_refl _⟩

theorem Serves.expiry_mono {state final : State Key} {commands : List (Nat × Command Key)}
    (served : Serves state commands final) {key : Key} {expiry : Nat}
    (stored : state key = some expiry)
    (kept : ∀ command ∈ commands, ¬ Deletes key command.2) :
    ∃ later, final key = some later ∧ expiry ≤ later := by
  induction served generalizing expiry with
  | nil => exact ⟨expiry, stored, Nat.le_refl _⟩
  | cons step rest ih =>
      obtain ⟨middle, found, first⟩ := step.expiry_mono stored (kept _ List.mem_cons_self)
      obtain ⟨later, last, second⟩ :=
        ih found (fun command member => kept command (List.mem_cons_of_mem _ member))
      exact ⟨later, last, Nat.le_trans first second⟩

/-- A key that was confirmed set, and that nothing has deleted, is stored for its lifetime. -/
theorem Serves.stored_after_set {state final : State Key} {before between : List (Nat × Command Key)}
    {key : Key} {first lifetime : Nat}
    (served : Serves state (before ++ (first, .set key lifetime (some true)) :: between) final)
    (kept : ∀ command ∈ between, ¬ Deletes key command.2) :
    ∃ expiry, final key = some expiry ∧ first + lifetime ≤ expiry := by
  rw [serves_append_iff] at served
  obtain ⟨early, _, served⟩ := served
  cases served with
  | cons setting waiting =>
      cases setting with
      | refused _ contradiction => exact absurd rfl contradiction
      | stored _ _ =>
          exact waiting.expiry_mono (Function.update_self key (some (first + lifetime)) early) kept

/-- Two confirmed sets of a key that nothing deletes are a lifetime apart. -/
theorem Serves.sets_apart {state final : State Key} {before between after : List (Nat × Command Key)}
    {key : Key} {first second firstLifetime secondLifetime : Nat}
    (served : Serves state (before ++ (first, .set key firstLifetime (some true)) :: between ++
      (second, .set key secondLifetime (some true)) :: after) final)
    (kept : ∀ command ∈ between, ¬ Deletes key command.2) : first + firstLifetime ≤ second := by
  rw [serves_append_iff] at served
  obtain ⟨middle, earlier, served⟩ := served
  obtain ⟨expiry, found, bound⟩ := earlier.stored_after_set kept
  cases served with
  | cons again _ =>
      cases again with
      | refused _ contradiction => exact absurd rfl contradiction
      | stored dead _ =>
          by_contra early
          exact dead ⟨expiry, found, by omega⟩

/-- A delete within the lifetime of a set, with no other one in between, removes the key. -/
theorem Serves.removed_within {state final : State Key}
    {before between after : List (Nat × Command Key)} {key : Key} {first lifetime now count : Nat}
    (served : Serves state (before ++ (first, .set key lifetime (some true)) :: between ++
      (now, .del key (some count)) :: after) final)
    (kept : ∀ command ∈ between, ¬ Deletes key command.2) (young : now < first + lifetime) :
    count = 1 := by
  rw [serves_append_iff] at served
  obtain ⟨middle, earlier, served⟩ := served
  obtain ⟨expiry, found, bound⟩ := earlier.stored_after_set kept
  cases served with
  | cons deleting _ =>
      cases deleting with
      | removed _ replied =>
          obtain counted | impossible := replied
          · exact Option.some.inj counted
          · cases impossible
      | absent dead _ => exact absurd ⟨expiry, found, by omega⟩ dead

/-- What is stored after a command was stored before, or by the command. -/
theorem Applies.stored_by {now : Nat} {state next : State Key} {command : Command Key}
    (step : Applies now state command next) {key : Key} {expiry : Nat}
    (stored : next key = some expiry) :
    state key = some expiry ∨ ∃ lifetime reply, command = .set key lifetime reply ∧
      reply ≠ some false ∧ expiry = now + lifetime := by
  cases step with
  | @stored other lifetime reply _ accepted =>
      by_cases same : key = other
      · subst same
        rw [Function.update_self, Option.some.injEq] at stored
        exact .inr ⟨lifetime, reply, rfl, accepted, stored.symm⟩
      · rw [Function.update_of_ne same] at stored
        exact .inl stored
  | refused => exact .inl stored
  | setLost => exact .inl stored
  | @removed other reply _ _ =>
      by_cases same : key = other
      · subst same
        rw [Function.update_self] at stored
        cases stored
      · rw [Function.update_of_ne same] at stored
        exact .inl stored
  | absent => exact .inl stored
  | delLost => exact .inl stored

theorem Serves.stored_by {state final : State Key} {commands : List (Nat × Command Key)}
    (served : Serves state commands final) {key : Key} {expiry : Nat}
    (stored : final key = some expiry) :
    state key = some expiry ∨ ∃ moment lifetime reply,
      (moment, .set key lifetime reply) ∈ commands ∧ reply ≠ some false ∧
        expiry = moment + lifetime := by
  induction served with
  | nil => exact .inl stored
  | cons step rest ih =>
      rcases ih stored with found | ⟨moment, lifetime, reply, member, accepted, same⟩
      · rcases step.stored_by found with earlier | ⟨lifetime, reply, rfl, accepted, same⟩
        · exact .inl earlier
        · exact .inr ⟨_, lifetime, reply, List.mem_cons_self, accepted, same⟩
      · exact .inr ⟨moment, lifetime, reply, List.mem_cons_of_mem _ member, accepted, same⟩

/-- A set is refused only within the lifetime of a set before it. -/
theorem Serves.refused_by {final : State Key} {before after : List (Nat × Command Key)}
    {key : Key} {now lifetime : Nat}
    (served : Serves State.empty (before ++ (now, .set key lifetime (some false)) :: after) final) :
    ∃ moment earlier reply, (moment, .set key earlier reply) ∈ before ∧ reply ≠ some false ∧
      now < moment + earlier := by
  rw [serves_append_iff] at served
  obtain ⟨middle, early, late⟩ := served
  cases late with
  | cons refusing _ =>
      cases refusing with
      | stored _ contradiction => exact absurd rfl contradiction
      | refused live _ =>
          obtain ⟨expiry, stored, young⟩ := live
          rcases early.stored_by stored with impossible | ⟨moment, earlier, reply, sent, accepted, rfl⟩
          · cases impossible
          · exact ⟨moment, earlier, reply, sent, accepted, young⟩

/-- Whether something is stored under a key, expired or not. -/
def present (state : State Key) (key : Key) : Nat := if (state key).isSome then 1 else 0

theorem Applies.removal_bound {now : Nat} {state next : State Key} {command : Command Key}
    (step : Applies now state command next) (key : Key) :
    (if Removes key command then 1 else 0) + present next key ≤
      (if Attempts key command then 1 else 0) + present state key := by
  cases step with
  | @stored other lifetime reply dead accepted =>
      by_cases same : key = other
      · subst same
        simp [Removes, Attempts, present]
      · simp [Removes, Attempts, present, Function.update_of_ne same]
  | refused live accepted => simp [Removes]
  | setLost => simp [Removes]
  | @removed other reply live accepted =>
      by_cases same : key = other
      · subst same
        obtain ⟨expiry, found, _⟩ := live
        have gone : present (Function.update state key none) key = 0 := by
          simp [present]
        have there : present state key = 1 := by
          simp [present, found]
        rw [gone, there]
        split <;> omega
      · have untouched : ¬ other = key := fun equal => same equal.symm
        simp [Removes, Attempts, present, Function.update_of_ne same, untouched]
  | @absent other reply dead accepted =>
      rcases accepted with zero | lost
      · simp [Removes, Attempts, zero]
      · simp [Removes, Attempts, lost]
  | delLost => simp [Removes, Attempts]

/-- A key is confirmed removed at most once for each attempt to set it. -/
theorem Serves.removals_le {state final : State Key} {commands : List (Nat × Command Key)}
    (served : Serves state commands final) (key : Key) :
    commands.countP (fun command => Removes key command.2) + present final key ≤
      commands.countP (fun command => Attempts key command.2) + present state key := by
  induction served with
  | nil => simp
  | @cons state middle final now command rest step served ih =>
      have bound := step.removal_bound key
      simp only [List.countP_cons]
      omega

theorem Serves.removals_le_attempts {final : State Key} {commands : List (Nat × Command Key)}
    (served : Serves State.empty commands final) (key : Key) :
    commands.countP (fun command => Removes key command.2) ≤
      commands.countP (fun command => Attempts key command.2) := by
  have bound := served.removals_le key
  have blank : present (State.empty : State Key) key = 0 := rfl
  omega

end ExpiringStore
