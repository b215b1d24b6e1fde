import S2sStack.Types

set_option autoImplicit false

/- Actor chains: how the broker composes them, and the two parsers that read them back. -/
namespace S2s

open Js (Json Obj)

/-- `composeActorChain` of `tokenMinter.ts` -/
def composeActorChain (actorClientId : String) (previous : Option ActorChain) : ActorChain :=
  match previous with
  | some chain => .via actorClientId chain
  | none => .root actorClientId

mutual

/-- `buildChain` of `subjectTokenValidator.ts` -/
def buildChain : Json → Option ActorChain
  | .obj node =>
      match Obj.get? "sub" node with
      | some (.str sub) =>
          if sub = "" then none
          else
            match buildChainAct node with
            | some child => some (.via sub child)
            | none => some (.root sub)
      | _ => none
  | _ => none

/-- `buildChain(obj.act)` -/
def buildChainAct : List (String × Json) → Option ActorChain
  | [] => none
  | (key, value) :: rest => if key = "act" then buildChain value else buildChainAct rest

end

/-- `isObject` of `extractActorChain.ts` -/
def isObject : Json → Bool
  | .obj _ => true
  | _ => false

mutual

/-- `buildChain` of `extractActorChain.ts`, which is only called on objects. -/
def buildNode : Json → Option ActorChain
  | .obj node =>
      match Obj.get? "sub" node with
      | some (.str sub) =>
          if sub = "" then none
          else
            match nestedNode node with
            | some child => some (.via sub child)
            | none => some (.root sub)
      | _ => none
  | _ => none

/-- The chain of `node.act` where that is an object. -/
def nestedNode : List (String × Json) → Option ActorChain
  | [] => none
  | (key, nested) :: rest =>
      if key = "act" then if isObject nested then buildNode nested else none
      else nestedNode rest

end

def extractActorChain (claims : Obj) : Option ActorChain :=
  match claims.get? "act" with
  | some act => if isObject act then buildNode act else none
  | none => none

/-- The walk from the outermost actor inwards. -/
def chainSubs : ActorChain → List String
  | .root sub => [sub]
  | .via sub act => sub :: chainSubs act

/-- Innermost actor first. -/
def actorChainAsString : Option ActorChain → List String
  | none => []
  | some chain => (chainSubs chain).reverse

/-- The `while` loop of `chainDepth`, which has counted `depth` hops so far. -/
def countHops (depth : Nat) : ActorChain → Nat
  | .root _ => depth + 1
  | .via _ act => countHops (depth + 1) act

def chainDepth : Option ActorChain → Nat
  | none => 0
  | some chain => countHops 0 chain

mutual

/-- The two parsers of a chain node agree. -/
theorem buildNode_eq : (node : Json) → buildNode node = buildChain node
  | .obj node => by
      simp only [buildChain, buildNode, nestedNode_eq node]
  | .null => rfl
  | .bool _ => rfl
  | .num _ => rfl
  | .str _ => rfl
  | .arr _ => rfl

theorem nestedNode_eq : (node : List (String × Json)) → nestedNode node = buildChainAct node
  | [] => rfl
  | (key, nested) :: rest => by
      have object : (if isObject nested then buildNode nested else none) = buildChain nested := by
        rw [buildNode_eq nested]
        cases nested <;> rfl
      simp only [nestedNode, buildChainAct, object, nestedNode_eq rest]

end

/-- The receiver's parser reads what the broker's parser reads. -/
theorem extractActorChain_eq (claims : Obj) :
    extractActorChain claims = (claims.get? "act").bind buildChain := by
  unfold extractActorChain
  cases claims.get? "act" with
  | none => rfl
  | some act =>
      simp only [Option.bind_some, ← buildNode_eq]
      cases act <;> rfl

/-- Every actor of the chain has a name. -/
def Named (chain : ActorChain) : Prop := ∀ sub ∈ chainSubs chain, sub ≠ ""

theorem named_compose {actor : String} {previous : Option ActorChain} (present : actor ≠ "")
    (named : ∀ chain ∈ previous, Named chain) : Named (composeActorChain actor previous) := by
  intro sub member
  cases previous with
  | none =>
      simp only [composeActorChain, chainSubs, List.mem_singleton] at member
      rwa [member]
  | some chain =>
      simp only [composeActorChain, chainSubs, List.mem_cons] at member
      rcases member with same | inner
      · rwa [same]
      · exact named chain rfl sub inner

/-- A serialised chain is read back whole. -/
theorem buildChain_toJson (chain : ActorChain) (named : Named chain) :
    buildChain chain.toJson = some chain := by
  induction chain with
  | root sub =>
      have present : sub ≠ "" := named sub (by simp [chainSubs])
      simp [ActorChain.toJson, buildChain, Obj.get?, present, buildChainAct]
  | via sub act ih =>
      have present : sub ≠ "" := named sub (by simp [chainSubs])
      have inner : buildChain act.toJson = some act :=
        ih (fun name member => named name (by simp [chainSubs, member]))
      simp [ActorChain.toJson, buildChain, Obj.get?, present, buildChainAct, inner]

/-- An exchange adds its actor at the end of the list and changes nothing else. -/
theorem actorChainAsString_compose (actor : String) (previous : Option ActorChain) :
    actorChainAsString (some (composeActorChain actor previous)) =
      actorChainAsString previous ++ [actor] := by
  cases previous with
  | none => rfl
  | some chain => simp [actorChainAsString, composeActorChain, chainSubs]

theorem countHops_eq (chain : ActorChain) (depth : Nat) :
    countHops depth chain = depth + (chainSubs chain).length := by
  induction chain generalizing depth with
  | root sub => rfl
  | via sub act ih =>
      simp only [countHops, ih, chainSubs, List.length_cons]
      omega

theorem chainDepth_eq (chain : Option ActorChain) :
    chainDepth chain = (actorChainAsString chain).length := by
  cases chain with
  | none => rfl
  | some chain =>
      simp only [chainDepth, countHops_eq, actorChainAsString, List.length_reverse]
      omega

/-- The actor a well-formed hop names. -/
def hopActor : Json → Option String
  | .obj node =>
      match Obj.get? "sub" node with
      | some (.str sub) => if sub = "" then none else some sub
      | _ => none
  | _ => none

/-- The value of `claims.act`, of `claims.act.act`, and so on inwards. -/
def actAt : Nat → Obj → Option Json
  | 0, claims => claims.get? "act"
  | depth + 1, claims =>
      match claims.get? "act" with
      | some (.obj node) => actAt depth node
      | _ => none

/-- The actor named `depth` hops inside the outermost one. -/
def actorAt (claims : Obj) (depth : Nat) : Option String :=
  (actAt depth claims).bind hopActor

/-- Outermost actor first; no chain has no actors. -/
def chainActors (chain : Option ActorChain) : List String :=
  chain.elim [] chainSubs

theorem buildChainAct_eq (node : Obj) :
    buildChainAct node = (node.get? "act").bind buildChain := by
  induction node with
  | nil => rfl
  | cons field rest ih =>
      obtain ⟨key, value⟩ := field
      by_cases act : key = "act"
      · simp [buildChainAct, Obj.get?, act]
      · simp only [buildChainAct, Obj.get?, act, ↓reduceIte, ih]

/-- The actors read from an object: its own, and those of its `act` if it names one itself. -/
theorem chainActors_buildChain (node : Obj) :
    chainActors (buildChain (.obj node)) =
      match hopActor (.obj node) with
      | some sub => sub :: chainActors ((node.get? "act").bind buildChain)
      | none => [] := by
  rw [← buildChainAct_eq]
  cases found : Obj.get? "sub" node with
  | none => simp [buildChain, hopActor, found, chainActors]
  | some value =>
      cases value with
      | str sub =>
          by_cases empty : sub = ""
          · simp [buildChain, hopActor, found, empty, chainActors]
          · cases inner : buildChainAct node <;>
              simp [buildChain, hopActor, found, empty, inner, chainActors, chainSubs]
      | _ => simp [buildChain, hopActor, found, chainActors]

/-- Where the outermost hop is malformed, both parsers read nothing. -/
theorem chainActors_none {claims : Obj} (malformed : actorAt claims 0 = none) :
    chainActors ((claims.get? "act").bind buildChain) = [] := by
  unfold actorAt actAt at malformed
  cases acting : claims.get? "act" with
  | none => rfl
  | some act =>
      rw [acting, Option.bind_some] at malformed
      cases act with
      | obj node => simp only [Option.bind_some, chainActors_buildChain, malformed]
      | _ => rfl

/-- A well-formed hop is kept, and what is inside it is read in the same way. -/
theorem chainActors_some {claims : Obj} {sub : String} (outermost : actorAt claims 0 = some sub) :
    ∃ node : Obj, (∀ depth, actorAt claims (depth + 1) = actorAt node depth) ∧
      chainActors ((claims.get? "act").bind buildChain) =
        sub :: chainActors ((node.get? "act").bind buildChain) := by
  unfold actorAt actAt at outermost
  cases acting : claims.get? "act" with
  | none => simp [acting] at outermost
  | some act =>
      rw [acting, Option.bind_some] at outermost
      cases act with
      | obj node =>
          refine ⟨node, ?_, ?_⟩
          · intro depth
            simp only [actorAt, actAt, acting]
          · simp only [Option.bind_some, chainActors_buildChain, outermost]
      | _ => simp [hopActor] at outermost

/-- A chain keeps a hop exactly where that hop and every hop outside it are well-formed. -/
theorem chainActors_getElem? (depth : Nat) (claims : Obj) (sub : String) :
    (chainActors ((claims.get? "act").bind buildChain))[depth]? = some sub ↔
      (∀ outer < depth, (actorAt claims outer).isSome) ∧ actorAt claims depth = some sub := by
  induction depth generalizing claims with
  | zero =>
      cases outermost : actorAt claims 0 with
      | none => simp [chainActors_none outermost]
      | some actor =>
          obtain ⟨node, _, actors⟩ := chainActors_some outermost
          simp [actors]
  | succ depth ih =>
      cases outermost : actorAt claims 0 with
      | none =>
          rw [chainActors_none outermost, Nat.forall_lt_succ_left, outermost]
          simp
      | some actor =>
          obtain ⟨node, inner, actors⟩ := chainActors_some outermost
          simp only [actors, List.getElem?_cons_succ, ih node, Nat.forall_lt_succ_left, outermost,
            inner, Option.isSome_some, true_and]

/-- What the SDK reads from a claims record is what the broker reads from its `act`: the hops
before the first malformed one. A composed chain is read back unchanged, and the depth check
counts the hops that are listed. -/
theorem act_parsers_agree :
    (∀ claims : Obj, extractActorChain claims = (claims.get? "act").bind buildChain ∧
      ∀ (depth : Nat) (sub : String),
        (chainActors (extractActorChain claims))[depth]? = some sub ↔
          (∀ outer < depth, (actorAt claims outer).isSome) ∧
            actorAt claims depth = some sub) ∧
      (∀ (actor : String) (previous : Option ActorChain), actor ≠ "" →
        (∀ chain ∈ previous, Named chain) →
        ∀ claims : Obj, claims.get? "act" = some (composeActorChain actor previous).toJson →
          (claims.get? "act").bind buildChain = some (composeActorChain actor previous) ∧
            extractActorChain claims = some (composeActorChain actor previous)) ∧
      ∀ chain : Option ActorChain, chainDepth chain = (actorChainAsString chain).length := by
  refine ⟨?_, ?_, chainDepth_eq⟩
  · intro claims
    have same := extractActorChain_eq claims
    refine ⟨same, ?_⟩
    intro depth sub
    rw [same]
    exact chainActors_getElem? depth claims sub
  · intro actor previous present named claims acting
    have read : (claims.get? "act").bind buildChain = some (composeActorChain actor previous) := by
      rw [acting, Option.bind_some]
      exact buildChain_toJson _ (named_compose present named)
    exact ⟨read, (extractActorChain_eq claims).trans read⟩

/-- Two hops are read, the third one's empty `sub` ends the chain; an exchange by a third
service is read back over the two that are left. -/
theorem act_parsers_agree_truncated :
    extractActorChain [("sub", .str "alice"), ("act", .obj [("sub", .str "receiving-service"),
      ("act", .obj [("sub", .str "calling-service"), ("act", .obj [("sub", .str "")])])])] =
        some (.via "receiving-service" (.root "calling-service")) ∧
      extractActorChain [("act", (composeActorChain "ledger-service"
        (some (.via "receiving-service" (.root "calling-service")))).toJson)] =
          some (.via "ledger-service" (.via "receiving-service" (.root "calling-service"))) := by
  refine ⟨?_, ?_⟩
  · rw [(act_parsers_agree.1 _).1]
    decide
  · have named : ∀ chain ∈ some (ActorChain.via "receiving-service" (.root "calling-service")),
        Named chain := by
      simp [Named, chainSubs]
    exact (act_parsers_agree.2.1 "ledger-service" _ (by decide) named _ rfl).2

end S2s
