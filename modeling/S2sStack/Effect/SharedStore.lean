import S2sStack.Effect.Environment
import Mathlib.Logic.Function.Basic

set_option autoImplicit false

/- Concurrent clients of one store of keys, and what the steps of some of them can change for the
others. Nothing here depends on what the keys and the cells under them are. -/
namespace Effect

open Program

variable {Key Cell Moment ε : Type}

/-- A program, and the key that an operation goes to, if it goes to the store, with what it does
to the cell there. -/
structure Client (Key Cell Moment ε : Type) where
  sig : Signature
  Answer : Type
  program : Program sig ε Answer
  access : (op : sig.Op) → Option (Key × (Moment → Cell → sig.Reply op × Cell))

namespace Client

/-- How far a client has got. -/
structure Progress (client : Client Key Cell Moment ε) where
  trace : List (Event client.sig)
  rest : Program client.sig ε client.Answer

/-- When a client takes a step, and the answer to an operation that does not go to the store. -/
structure Turn (client : Client Key Cell Moment ε) where
  moment : Moment
  answer : (op : client.sig.Op) → client.sig.Reply op

variable {client : Client Key Cell Moment ε}

def start (client : Client Key Cell Moment ε) : Progress client := ⟨[], client.program⟩

/-- The result, once there is one. -/
def Progress.verdict (progress : Progress client) : Option (Except ε client.Answer) :=
  match progress.rest with
  | .done result => some result
  | .call _ _ => none

variable [DecidableEq Key]

/-- One step. -/
def take (turn : Turn client) (progress : Progress client) (store : Key → Cell) :
    Progress client × (Key → Cell) :=
  match progress.rest with
  | .done _ => (progress, store)
  | .call op next =>
      match client.access op with
      | none => (⟨progress.trace ++ [⟨op, turn.answer op⟩], next (turn.answer op)⟩, store)
      | some (key, serve) =>
          let served := serve turn.moment (store key)
          (⟨progress.trace ++ [⟨op, served.1⟩], next served.1⟩,
            Function.update store key served.2)

/-- What the step performs. -/
def performs (turn : Turn client) (progress : Progress client) (store : Key → Cell) :
    Option (Event client.sig) :=
  match progress.rest with
  | .done _ => none
  | .call op _ =>
      match client.access op with
      | none => some ⟨op, turn.answer op⟩
      | some (key, serve) => some ⟨op, (serve turn.moment (store key)).1⟩

theorem take_trace (turn : Turn client) (progress : Progress client) (store : Key → Cell) :
    (take turn progress store).1.trace =
      progress.trace ++ (performs turn progress store).toList := by
  obtain ⟨trace, rest⟩ := progress
  cases rest with
  | done result => exact (List.append_nil trace).symm
  | call op next =>
      unfold take performs
      dsimp only
      split
      · rfl
      · rfl

/-- The operations that go to keys of this kind, or to none. -/
def Visits (client : Client Key Cell Moment ε) (owns : Key → Prop) (op : client.sig.Op) : Prop :=
  ∀ key serve, client.access op = some (key, serve) → owns key

/-- The rest of the program goes to no other keys. -/
def Progress.Confined (owns : Key → Prop) (progress : Progress client) : Prop :=
  Within (client.Visits owns) progress.rest

omit [DecidableEq Key] in
theorem Progress.Confined.mono {owns wider : Key → Prop} {progress : Progress client}
    (confined : progress.Confined owns) (wide : ∀ key, owns key → wider key) :
    progress.Confined wider :=
  Within.mono confined fun _ visits key serve access => wide key (visits key serve access)

omit [DecidableEq Key] in
/-- Where there are answers, what a program is allowed its first operation is. -/
theorem allowed_of_call {allowed : client.sig.Op → Prop} (turn : Turn client)
    {op : client.sig.Op} {next : client.sig.Reply op → Program client.sig ε client.Answer}
    (within : Within allowed (.call op next)) :
    allowed op ∧ ∀ reply, Within allowed (next reply) := by
  constructor
  · have run := exec_runs (fun _ op => turn.answer op) (.call op next) []
    exact within _ _ run _ List.mem_cons_self
  · intro reply trace outcome run event member
    exact within _ _ (.call reply run) event (List.mem_cons_of_mem _ member)

section Take

variable {owns : Key → Prop} {turn : Turn client} {progress : Progress client}
  {store other : Key → Cell}

theorem take_confined (confined : progress.Confined owns) :
    (take turn progress store).1.Confined owns := by
  obtain ⟨trace, rest⟩ := progress
  cases rest with
  | done result => exact confined
  | call op next =>
      have later := (allowed_of_call turn confined).2
      unfold take
      dsimp only
      split
      · exact later _
      · exact later _

/-- A step leaves all other keys alone. -/
theorem take_frame (confined : progress.Confined owns) {key : Key} (foreign : ¬ owns key) :
    (take turn progress store).2 key = store key := by
  obtain ⟨trace, rest⟩ := progress
  cases rest with
  | done result => rfl
  | call op next =>
      have first := (allowed_of_call turn confined).1
      unfold take
      dsimp only
      split
      · rfl
      · rename_i visited serve access
        have different : key ≠ visited := by
          intro same
          rw [same] at foreign
          exact foreign (first visited serve access)
        exact Function.update_of_ne different _ _

/-- What a step does depends on the cells under its own keys only. -/
theorem take_congr (turn : Turn client) (confined : progress.Confined owns)
    (agree : ∀ key, owns key → store key = other key) :
    (take turn progress store).1 = (take turn progress other).1 ∧
      ∀ key, owns key → (take turn progress store).2 key = (take turn progress other).2 key := by
  obtain ⟨trace, rest⟩ := progress
  cases rest with
  | done result => exact ⟨rfl, agree⟩
  | call op next =>
      have first := (allowed_of_call turn confined).1
      unfold take
      dsimp only
      split
      · exact ⟨rfl, agree⟩
      · rename_i visited serve access
        have same := agree visited (first visited serve access)
        rw [same]
        refine ⟨rfl, ?_⟩
        intro key own
        dsimp only
        by_cases here : key = visited
        · rw [here, Function.update_self, Function.update_self]
        · rw [Function.update_of_ne here, Function.update_of_ne here, agree key own]

/-- A client's steps so far are the beginning of a run of its program. -/
def Progress.Reached (progress : Progress client) : Prop :=
  ∀ later outcome, Runs progress.rest later outcome →
    Runs client.program (progress.trace ++ later) outcome

theorem take_reached (reached : progress.Reached) : (take turn progress store).1.Reached := by
  obtain ⟨trace, rest⟩ := progress
  cases rest with
  | done result => exact reached
  | call op next =>
      have step (reply : client.sig.Reply op) (later : List (Event client.sig))
          (outcome : Except ε client.Answer) (run : Runs (next reply) later outcome) :
          Runs client.program (trace ++ [⟨op, reply⟩] ++ later) outcome := by
        rw [List.append_assoc]
        exact reached _ _ (.call reply run)
      unfold take
      dsimp only
      split
      · exact step _
      · exact step _

end Take

end Client

/-- The progress of every client, and the store. -/
structure SharedStore {Thread : Type} (clients : Thread → Client Key Cell Moment ε) where
  progress : (thread : Thread) → (clients thread).Progress
  store : Key → Cell

/-- A step of one of the clients. -/
abbrev SharedTurn {Thread : Type} (clients : Thread → Client Key Cell Moment ε) :=
  (thread : Thread) × (clients thread).Turn

namespace SharedStore

variable {Thread : Type} {clients : Thread → Client Key Cell Moment ε}

/-- Nobody has taken a step. -/
def initial (clients : Thread → Client Key Cell Moment ε) (store : Key → Cell) :
    SharedStore clients :=
  ⟨fun thread => (clients thread).start, store⟩

variable [DecidableEq Key] [DecidableEq Thread]

def step (state : SharedStore clients) (turn : SharedTurn clients) : SharedStore clients :=
  let taken := Client.take turn.2 (state.progress turn.1) state.store
  ⟨Function.update state.progress turn.1 taken.1, taken.2⟩

@[simp] theorem step_store (state : SharedStore clients) (turn : SharedTurn clients) :
    (state.step turn).store = (Client.take turn.2 (state.progress turn.1) state.store).2 := rfl

@[simp] theorem step_mover (state : SharedStore clients) (turn : SharedTurn clients) :
    (state.step turn).progress turn.1 =
      (Client.take turn.2 (state.progress turn.1) state.store).1 :=
  Function.update_self _ _ _

theorem step_bystander (state : SharedStore clients) {turn : SharedTurn clients} {thread : Thread}
    (other : thread ≠ turn.1) : (state.step turn).progress thread = state.progress thread :=
  Function.update_of_ne other _ _

/-- One step after the other. -/
def play (state : SharedStore clients) (turns : List (SharedTurn clients)) : SharedStore clients :=
  turns.foldl step state

@[simp] theorem play_nil (state : SharedStore clients) : state.play [] = state := rfl

@[simp] theorem play_cons (state : SharedStore clients) (turn : SharedTurn clients)
    (turns : List (SharedTurn clients)) :
    state.play (turn :: turns) = (state.step turn).play turns := rfl

/-- What happens in a run. -/
def log (state : SharedStore clients) :
    List (SharedTurn clients) → List ((thread : Thread) × Moment × Event (clients thread).sig)
  | [] => []
  | turn :: rest =>
      ((Client.performs turn.2 (state.progress turn.1) state.store).map fun event =>
        ⟨turn.1, turn.2.moment, event⟩).toList ++ log (state.step turn) rest

/-- Every client keeps to its own keys. -/
def Confined (owns : Thread → Key → Prop) (state : SharedStore clients) : Prop :=
  ∀ thread, (state.progress thread).Confined (owns thread)

variable {owns : Thread → Key → Prop} {state other : SharedStore clients}
  {turn : SharedTurn clients}

theorem step_confined (confined : state.Confined owns) : (state.step turn).Confined owns := by
  intro thread
  by_cases mover : thread = turn.1
  · subst mover
    rw [step_mover]
    exact Client.take_confined (confined _)
  · rw [step_bystander state mover]
    exact confined thread

/-- A run of clients that keep away from a key leaves it alone. -/
theorem play_frame (turns : List (SharedTurn clients)) (confined : state.Confined owns) {key : Key}
    (foreign : ∀ turn ∈ turns, ¬ owns turn.1 key) :
    (state.play turns).store key = state.store key := by
  induction turns generalizing state with
  | nil => rfl
  | cons turn rest ih =>
      rw [play_cons, ih (step_confined confined)
        fun later member => foreign later (List.mem_cons_of_mem _ member)]
      exact Client.take_frame (confined turn.1) (foreign turn List.mem_cons_self)

/-- What each client has done is the beginning of a run of its program. -/
theorem play_reached (turns : List (SharedTurn clients))
    (reached : ∀ thread, (state.progress thread).Reached) (thread : Thread) :
    ((state.play turns).progress thread).Reached := by
  induction turns generalizing state with
  | nil => exact reached thread
  | cons turn rest ih =>
      apply ih
      intro client
      by_cases mover : client = turn.1
      · subst mover
        rw [step_mover]
        exact Client.take_reached (reached _)
      · rw [step_bystander state mover]
        exact reached client

theorem initial_reached (store : Key → Cell) (turns : List (SharedTurn clients)) (thread : Thread) :
    (((initial clients store).play turns).progress thread).Reached := by
  apply play_reached
  intro client later outcome run
  exact run

/-- The verdict of a client is one that its program has on what the client did. -/
theorem runs_of_verdict (turns : List (SharedTurn clients)) (store : Key → Cell) {thread : Thread}
    {result : Except ε (clients thread).Answer}
    (verdict : (((initial clients store).play turns).progress thread).verdict = some result) :
    Runs (clients thread).program (((initial clients store).play turns).progress thread).trace
      result := by
  have reached := initial_reached store turns thread
  unfold Client.Progress.verdict at verdict
  split at verdict
  · rename_i finished ended
    cases verdict
    have run := reached [] result
    rw [ended, List.append_nil] at run
    exact run (.done result)
  · cases verdict

section Purge

variable {ours : Thread → Prop} {ourKeys : Key → Prop}

/-- The states are the same to our clients. -/
structure Agrees (ours : Thread → Prop) (ourKeys : Key → Prop) (state other : SharedStore clients) :
    Prop where
  progress : ∀ thread, ours thread → state.progress thread = other.progress thread
  store : ∀ key, ourKeys key → state.store key = other.store key

theorem Agrees.step_ours (agrees : Agrees ours ourKeys state other)
    (confined : (state.progress turn.1).Confined ourKeys) (own : ours turn.1) :
    Agrees ours ourKeys (state.step turn) (other.step turn) := by
  have taken := Client.take_congr turn.2 confined agrees.store
  constructor
  · intro thread ourOwn
    by_cases mover : thread = turn.1
    · subst mover
      rw [step_mover, step_mover, ← agrees.progress _ own]
      exact taken.1
    · rw [step_bystander state mover, step_bystander other mover]
      exact agrees.progress thread ourOwn
  · rw [step_store, step_store, ← agrees.progress _ own]
    exact taken.2

theorem Agrees.step_others (agrees : Agrees ours ourKeys state other)
    (confined : (state.progress turn.1).Confined fun key => ¬ ourKeys key)
    (foreign : ¬ ours turn.1) :
    Agrees ours ourKeys (state.step turn) other := by
  constructor
  · intro thread own
    have bystander : thread ≠ turn.1 := by
      intro same
      rw [same] at own
      exact foreign own
    rw [step_bystander state bystander]
    exact agrees.progress thread own
  · intro key own
    have kept : (state.step turn).store key = state.store key :=
      Client.take_frame confined fun elsewhere => elsewhere own
    rw [kept]
    exact agrees.store key own

variable [DecidablePred ours]

/-- Our clients make the same of a run as of its part that is ours: what the others do in between
changes nothing. -/
theorem play_purge (turns : List (SharedTurn clients)) (confined : state.Confined owns)
    (sides : ∀ thread key, owns thread key → (ours thread ↔ ourKeys key))
    (agrees : Agrees ours ourKeys state other) :
    Agrees ours ourKeys (state.play turns)
      (other.play (turns.filter fun turn => decide (ours turn.1))) := by
  induction turns generalizing state other with
  | nil => exact agrees
  | cons turn rest ih =>
      by_cases own : ours turn.1
      · rw [List.filter_cons_of_pos (by simpa using own), play_cons, play_cons]
        apply ih (step_confined confined)
        apply agrees.step_ours _ own
        exact (confined turn.1).mono fun key owned => (sides _ key owned).mp own
      · rw [List.filter_cons_of_neg (by simpa using own), play_cons]
        apply ih (step_confined confined)
        apply agrees.step_others _ own
        exact (confined turn.1).mono fun key owned ourKey => own ((sides _ key owned).mpr ourKey)

end Purge

end SharedStore

end Effect
