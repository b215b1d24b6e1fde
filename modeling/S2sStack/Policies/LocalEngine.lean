import S2sStack.Policies.Requests
import Mathlib.Data.List.Infix
import Mathlib.Tactic.Tauto

set_option autoImplicit false

/- The in-process engine against Cedar on the policies it stands for. -/
namespace S2s

open Js (Json Obj)

/-- A constraint on the principal, the action or the resource; texts name entities. -/
def localScope (kind : String) : Option String → Cedar.Scope
  | some text => .eq ⟨kind, text⟩
  | none => .any

def contextExpr (name : String) : Cedar.Expr := .attr (.var .context) name

/-- `context.scopes.containsAll([…])` -/
def containsScopes (scopes : List String) : Cedar.Expr :=
  .containsAll (contextExpr "scopes") (.lit (.set (scopes.map Cedar.Value.string)))

/-- `context.name == value` -/
def fieldEquals (field : String × Json) : Cedar.Expr :=
  .eq (contextExpr field.1) (.lit (cedarValue field.2))

/-- The Cedar policy that a local policy stands for. -/
def LocalPolicy.translate (p : LocalPolicy) : Cedar.Policy where
  kind :=
    match p.effect with
    | .permit => .permit
    | .forbid => .forbid
  principal := localScope "principal" p.principal
  action := localScope "action" p.action
  resource := localScope "resource" p.resource
  whenHolds := (p.whenScopesInclude.map containsScopes).toList ++
    (p.whenContextEquals.getD []).map fieldEquals
  unlessHolds := (p.unlessScopesInclude.map containsScopes).toList

def CedarLocalQuery.translate (q : CedarLocalQuery) : Cedar.Request where
  principal := ⟨"principal", q.principal⟩
  action := ⟨"action", q.action⟩
  resource := ⟨"resource", q.resource⟩
  context := cedarFields q.context

/-- The decision of Cedar, which looks at no entity here. -/
def cedarDecision (policies : List LocalPolicy) (q : CedarLocalQuery) : Cedar.Decision :=
  Cedar.isAuthorized q.translate ⟨fun _ => []⟩ (policies.map LocalPolicy.translate)

/-- The engine returns, with the decision of Cedar. -/
def DecidesLikeCedar (policies : List LocalPolicy) (q : CedarLocalQuery) : Prop :=
  ∃ result, cedarEvaluate policies q = .ok result ∧
    (result.decision = .allow ↔ cedarDecision policies q = .allow)

/-- An empty constraint constrains nothing to the engine. -/
def EngineAdmits (field : Option String) (value : String) : Prop :=
  field = none ∨ field = some "" ∨ field = some value

def CedarAdmits (field : Option String) (value : String) : Prop :=
  field = none ∨ field = some value

/-- To the engine a text has the scopes that occur in it, and missing scopes are none. -/
def EngineGiven (q : CedarLocalQuery) (scope : String) : Prop :=
  match q.context.get? "scopes" with
  | some (.arr items) => .str scope ∈ items
  | some (.str text) => scope.toList <:+: text.toList
  | _ => False

/-- Scopes that `includes` cannot be called on. -/
def UnreadableScopes (q : CedarLocalQuery) : Prop :=
  match q.context.get? "scopes" with
  | some (.bool _) | some (.num _) | some (.obj _) => True
  | _ => False

def EngineHeads (p : LocalPolicy) (q : CedarLocalQuery) : Prop :=
  EngineAdmits p.principal q.principal ∧ EngineAdmits p.action q.action ∧
    EngineAdmits p.resource q.resource

/-- The policy is reached with scopes that it cannot read. -/
structure Unreadable (p : LocalPolicy) (q : CedarLocalQuery) : Prop where
  scopes : UnreadableScopes q
  heads : EngineHeads p q
  consults : (∃ scope, ∃ required ∈ p.whenScopesInclude, scope ∈ required) ∨
    ∃ scope, ∃ excluding ∈ p.unlessScopesInclude, scope ∈ excluding

/-- A value that `===` compares by what it is. -/
def IsScalar : Json → Prop
  | .arr _ | .obj _ => False
  | _ => True

/-- What the engine takes a policy to say. -/
structure EngineTakes (p : LocalPolicy) (q : CedarLocalQuery) : Prop where
  heads : EngineHeads p q
  included : ∀ required ∈ p.whenScopesInclude, ∀ scope ∈ required, EngineGiven q scope
  excluded : ∀ excluding ∈ p.unlessScopesInclude, ∃ scope ∈ excluding, ¬ EngineGiven q scope
  fields : ∀ fields ∈ p.whenContextEquals, ∀ field ∈ fields,
    IsScalar field.2 ∧ q.context.get? field.1 = some field.2

/-- What Cedar takes it to say: scopes that are no set are an error, and lists and records are
compared by what is in them. -/
structure CedarTakes (p : LocalPolicy) (q : CedarLocalQuery) : Prop where
  principal : CedarAdmits p.principal q.principal
  action : CedarAdmits p.action q.action
  resource : CedarAdmits p.resource q.resource
  included : ∀ required ∈ p.whenScopesInclude, ∃ items,
    q.context.get? "scopes" = some (.arr items) ∧ ∀ scope ∈ required, .str scope ∈ items
  excluded : ∀ excluding ∈ p.unlessScopesInclude, ∃ items,
    q.context.get? "scopes" = some (.arr items) ∧ ∃ scope ∈ excluding, .str scope ∉ items
  fields : ∀ fields ∈ p.whenContextEquals, ∀ field ∈ fields, ∃ value,
    q.context.get? field.1 = some value ∧ (cedarValue value).equals (cedarValue field.2) = true

/-- How the policies that the two read differently are outvoted. -/
inductive SameVotes (policies : List LocalPolicy) (q : CedarLocalQuery) : Prop where
  /-- Each takes a forbid to hold. -/
  | forbidden (p other : LocalPolicy) (member : p ∈ policies) (other_member : other ∈ policies)
      (forbids : p.effect = .forbid) (other_forbids : other.effect = .forbid)
      (engine : EngineTakes p q) (cedar : CedarTakes other q)
  /-- Neither takes a forbid to hold, and each takes a permit to. -/
  | permitted (p other : LocalPolicy) (member : p ∈ policies) (other_member : other ∈ policies)
      (permits : p.effect = .permit) (other_permits : other.effect = .permit)
      (engine : EngineTakes p q) (cedar : CedarTakes other q)
      (free : ∀ forbid ∈ policies, forbid.effect = .forbid →
        ¬ EngineTakes forbid q ∧ ¬ CedarTakes forbid q)
  /-- Neither takes a permit to hold. -/
  | unpermitted (none_holds : ∀ permit ∈ policies, permit.effect = .permit →
      ¬ EngineTakes permit q ∧ ¬ CedarTakes permit q)
  /-- A forbid holds to the engine, and no permit does to Cedar. -/
  | engineForbids (p : LocalPolicy) (member : p ∈ policies) (forbids : p.effect = .forbid)
      (engine : EngineTakes p q)
      (none_holds : ∀ permit ∈ policies, permit.effect = .permit → ¬ CedarTakes permit q)
  /-- A forbid holds to Cedar, and no permit does to the engine. -/
  | cedarForbids (p : LocalPolicy) (member : p ∈ policies) (forbids : p.effect = .forbid)
      (cedar : CedarTakes p q)
      (none_holds : ∀ permit ∈ policies, permit.effect = .permit → ¬ EngineTakes permit q)

section Cedar

variable {p : LocalPolicy} {q : CedarLocalQuery}

theorem localScope_admits_iff {entities : Cedar.Entities} {kind value : String}
    {field : Option String} :
    (localScope kind field).admits entities ⟨kind, value⟩ = true ↔ CedarAdmits field value := by
  cases field with
  | none => simp [localScope, Cedar.Scope.admits, CedarAdmits]
  | some text => simp [localScope, Cedar.Scope.admits, CedarAdmits, eq_comm]

theorem evaluate_scopes_iff {items : List Cedar.Value} :
    Cedar.evaluate q.translate (contextExpr "scopes") = .ok (.set items) ↔
      ∃ scopes, q.context.get? "scopes" = some (.arr scopes) ∧ items = cedarItems scopes := by
  rw [contextExpr, Cedar.evaluate_context_attr_iff]
  simp only [CedarLocalQuery.translate, lookup_cedarFields]
  cases q.context.get? "scopes" with
  | none => simp
  | some scopes =>
      cases scopes with
      | arr scopes => simp [cedarValue, eq_comm]
      | num value =>
          simp only [Option.map_some, Option.some.injEq, cedarValue, reduceCtorEq, false_and,
            exists_false, iff_false]
          split <;> simp
      | _ => simp [cedarValue]

theorem anyEquals_cedarItems_iff {scope : String} {items : List Json} :
    Cedar.Value.anyEquals (cedarItems items) (.string scope) = true ↔ .str scope ∈ items := by
  rw [cedarItems_eq_map, Cedar.Value.anyEquals_iff]
  simp only [List.mem_map, Cedar.Value.equals_string_iff]
  constructor
  · rintro ⟨_, ⟨item, member, rfl⟩, same⟩
    have text : item = .str scope := by
      cases item with
      | str other => simpa [cedarValue] using same
      | num value =>
          rw [cedarValue] at same
          split at same <;> cases same
      | _ => simp [cedarValue] at same
    rwa [← text]
  · intro member
    exact ⟨_, ⟨_, member, rfl⟩, rfl⟩

theorem is_containsScopes_iff {scopes : List String} {truth : Bool} :
    Cedar.Is q.translate truth (containsScopes scopes) ↔
      ∃ items, q.context.get? "scopes" = some (.arr items) ∧
        ((∀ scope ∈ scopes, Json.str scope ∈ items) ↔ truth = true) := by
  have contained (items : List Json) :
      (scopes.map Cedar.Value.string).all (Cedar.Value.anyEquals (cedarItems items)) = truth ↔
        ((∀ scope ∈ scopes, Json.str scope ∈ items) ↔ truth = true) := by
    rw [Bool.eq_iff_iff, List.all_map, List.all_eq_true]
    simp only [Function.comp_apply, anyEquals_cedarItems_iff]
  rw [containsScopes, Cedar.is_containsAll_iff]
  constructor
  · rintro ⟨_, read, held⟩
    obtain ⟨items, given, rfl⟩ := evaluate_scopes_iff.mp read
    exact ⟨items, given, (contained items).mp held⟩
  · rintro ⟨items, given, held⟩
    exact ⟨_, evaluate_scopes_iff.mpr ⟨items, given, rfl⟩, (contained items).mpr held⟩

theorem is_fieldEquals_iff {field : String × Json} :
    Cedar.Is q.translate true (fieldEquals field) ↔ ∃ value,
      q.context.get? field.1 = some value ∧
        (cedarValue value).equals (cedarValue field.2) = true := by
  simp only [fieldEquals, Cedar.is_eq_iff, contextExpr, Cedar.evaluate_context_attr_iff,
    CedarLocalQuery.translate, lookup_cedarFields, Cedar.evaluate_lit, Option.map_eq_some_iff,
    Except.ok.injEq]
  constructor
  · rintro ⟨_, _, ⟨value, given, rfl⟩, rfl, same⟩
    exact ⟨value, given, same⟩
  · rintro ⟨value, given, same⟩
    exact ⟨_, _, ⟨value, given, rfl⟩, rfl, same⟩

/-- A translated policy is satisfied exactly where Cedar takes the policy to hold. -/
theorem translate_satisfied_iff {entities : Cedar.Entities} :
    p.translate.satisfied q.translate entities = true ↔ CedarTakes p q := by
  rw [Cedar.satisfied_iff]
  simp only [LocalPolicy.translate, List.mem_append, Option.mem_toList, Option.map_eq_some_iff,
    List.mem_map]
  constructor
  · rintro ⟨principal, action, resource, held, kept⟩
    refine ⟨localScope_admits_iff.mp principal, localScope_admits_iff.mp action,
      localScope_admits_iff.mp resource, ?_, ?_, ?_⟩
    · intro required present
      obtain ⟨items, given, all⟩ :=
        is_containsScopes_iff.mp (held _ (.inl ⟨required, present, rfl⟩))
      exact ⟨items, given, all.mpr rfl⟩
    · intro excluding present
      obtain ⟨items, given, all⟩ := is_containsScopes_iff.mp (kept _ ⟨excluding, present, rfl⟩)
      refine ⟨items, given, ?_⟩
      by_contra none_missing
      have every : ∀ scope ∈ excluding, Json.str scope ∈ items := by
        intro scope member
        by_contra missing
        exact none_missing ⟨scope, member, missing⟩
      cases all.mp every
    · intro fields present field member
      apply is_fieldEquals_iff.mp
      apply held
      refine .inr ⟨field, ?_, rfl⟩
      rwa [Option.mem_def.mp present, Option.getD_some]
  · intro takes
    refine ⟨localScope_admits_iff.mpr takes.principal, localScope_admits_iff.mpr takes.action,
      localScope_admits_iff.mpr takes.resource, ?_, ?_⟩
    · rintro _ (⟨required, present, rfl⟩ | ⟨field, member, rfl⟩)
      · obtain ⟨items, given, all⟩ := takes.included required present
        exact is_containsScopes_iff.mpr ⟨items, given, iff_of_true all rfl⟩
      · cases present : p.whenContextEquals with
        | none =>
            rw [present] at member
            cases member
        | some fields =>
            rw [present, Option.getD_some] at member
            exact is_fieldEquals_iff.mpr (takes.fields fields present field member)
    · rintro _ ⟨excluding, present, rfl⟩
      obtain ⟨items, given, scope, member, missing⟩ := takes.excluded excluding present
      refine is_containsScopes_iff.mpr ⟨items, given, iff_of_false ?_ Bool.false_ne_true⟩
      intro all
      exact missing (all scope member)

end Cedar

section Engine

variable {p : LocalPolicy} {q : CedarLocalQuery}

/-- The scopes the engine looks at. -/
def scopesOf (q : CedarLocalQuery) : Json :=
  (Js.nullish (q.context.get? "scopes")).getD (.arr [])

theorem differs_iff {field : Option String} {value : String} :
    differs field value = false ↔ EngineAdmits field value := by
  cases field with
  | none => simp [differs, EngineAdmits]
  | some text =>
      by_cases empty : text = ""
      · simp [differs, EngineAdmits, empty]
      · simp [differs, EngineAdmits, empty]

/-- A text is found at some position exactly where it is part of the other. -/
theorem found_iff_infix {text part : List Char} :
    (List.range (text.length + 1)).any (fun start => part.isPrefixOf (text.drop start)) = true ↔
      part <:+: text := by
  simp only [List.any_eq_true, List.mem_range, List.isPrefixOf_iff_prefix]
  constructor
  · rintro ⟨start, _, front⟩
    exact front.isInfix.trans (List.drop_suffix start text).isInfix
  · rintro ⟨before, after, rfl⟩
    refine ⟨before.length, ?_, ?_⟩
    · simp only [List.length_append]
      omega
    rw [List.append_assoc, List.drop_left]
    exact List.prefix_append part after

theorem scopesInclude_of_readable (readable : ¬ UnreadableScopes q) (scope : String) :
    ∃ included, scopesInclude (scopesOf q) scope = .ok included ∧
      (included = true ↔ EngineGiven q scope) := by
  unfold UnreadableScopes at readable
  unfold EngineGiven scopesOf
  cases given : q.context.get? "scopes" with
  | none => exact ⟨false, rfl, by simp⟩
  | some scopes =>
      rw [given] at readable
      cases scopes with
      | null => exact ⟨false, rfl, by simp⟩
      | arr items => exact ⟨_, rfl, by simp [Js.isText_iff]⟩
      | str text =>
          refine ⟨_, rfl, ?_⟩
          rw [← String.length_toList]
          exact found_iff_infix
      | bool value => exact absurd trivial readable
      | num value => exact absurd trivial readable
      | obj fields => exact absurd trivial readable

theorem scopesInclude_of_unreadable (unreadable : UnreadableScopes q) (scope : String) :
    ∃ fault, scopesInclude (scopesOf q) scope = .error fault := by
  unfold UnreadableScopes at unreadable
  unfold scopesOf
  cases given : q.context.get? "scopes" with
  | none =>
      rw [given] at unreadable
      exact unreadable.elim
  | some scopes =>
      rw [given] at unreadable
      cases scopes with
      | bool value => exact ⟨_, rfl⟩
      | num value => exact ⟨_, rfl⟩
      | obj fields => exact ⟨_, rfl⟩
      | null => exact unreadable.elim
      | arr items => exact unreadable.elim
      | str text => exact unreadable.elim

/-- An empty list asks for nothing, whatever the scopes are. -/
theorem allScopesIncluded_of_readable {scopes : List String}
    (readable : UnreadableScopes q → scopes = []) :
    ∃ included, allScopesIncluded (scopesOf q) scopes = .ok included ∧
      (included = true ↔ ∀ scope ∈ scopes, EngineGiven q scope) := by
  by_cases unreadable : UnreadableScopes q
  · rw [readable unreadable]
    exact ⟨true, rfl, by simp⟩
  clear readable
  induction scopes with
  | nil => exact ⟨true, rfl, by simp⟩
  | cons scope rest ih =>
      obtain ⟨first, found, first_iff⟩ := scopesInclude_of_readable unreadable scope
      obtain ⟨others, searched, others_iff⟩ := ih
      simp only [allScopesIncluded, found, bind, Except.bind]
      cases first with
      | true =>
          refine ⟨others, searched, ?_⟩
          rw [List.forall_mem_cons, ← others_iff]
          simp [first_iff.mp rfl]
      | false =>
          refine ⟨false, rfl, ?_⟩
          simp only [Bool.false_eq_true, false_iff]
          intro all
          cases first_iff.mpr (all scope List.mem_cons_self)

theorem allScopesIncluded_of_unreadable (unreadable : UnreadableScopes q) {scopes : List String}
    (some_scope : ∃ scope, scope ∈ scopes) :
    ∃ fault, allScopesIncluded (scopesOf q) scopes = .error fault := by
  cases scopes with
  | nil =>
      obtain ⟨scope, member⟩ := some_scope
      cases member
  | cons scope rest =>
      obtain ⟨fault, failed⟩ := scopesInclude_of_unreadable unreadable scope
      exact ⟨fault, by simp only [allScopesIncluded, failed, bind, Except.bind]⟩

theorem strictEquals_iff {value : Option Json} {expected : Json} :
    Js.strictEquals value expected = true ↔ IsScalar expected ∧ value = some expected := by
  cases value with
  | none => simp [Js.strictEquals]
  | some found => cases expected <;> cases found <;> simp [Js.strictEquals, IsScalar]

def fieldsHold (p : LocalPolicy) (q : CedarLocalQuery) : Bool :=
  (p.whenContextEquals.getD []).all
    (fun field => Js.strictEquals (q.context.get? field.1) field.2)

theorem fieldsHold_iff :
    fieldsHold p q = true ↔ ∀ fields ∈ p.whenContextEquals, ∀ field ∈ fields,
      IsScalar field.2 ∧ q.context.get? field.1 = some field.2 := by
  unfold fieldsHold
  cases p.whenContextEquals with
  | none => simp
  | some fields => simp [strictEquals_iff]

/-- A list of scopes that is not there is not consulted. -/
def consult (absent : Bool) (q : CedarLocalQuery) : Option (List String) → Except Fault Bool
  | some scopes => allScopesIncluded (scopesOf q) scopes
  | none => .ok absent

theorem fieldsHold_eq (p : LocalPolicy) (q : CedarLocalQuery) :
    (match p.whenContextEquals with
      | some fields =>
          if !fields.all (fun field => Js.strictEquals (q.context.get? field.1) field.2) then
            Except.ok false
          else .ok true
      | _ => .ok true : Except Fault Bool) = .ok (fieldsHold p q) := by
  unfold fieldsHold
  cases p.whenContextEquals with
  | none => rfl
  | some fields =>
      simp only [Option.getD_some]
      cases fields.all (fun field => Js.strictEquals (q.context.get? field.1) field.2) <;> rfl

theorem policyMatches_of_heads (heads : EngineHeads p q) :
    policyMatches p q = (do
      if ← consult true q p.whenScopesInclude then
        if ← consult false q p.unlessScopesInclude then return false
        else return fieldsHold p q
      else return false) := by
  have principal : differs p.principal q.principal = false := differs_iff.mpr heads.1
  have action : differs p.action q.action = false := differs_iff.mpr heads.2.1
  have resource : differs p.resource q.resource = false := differs_iff.mpr heads.2.2
  have scopes : (Js.nullish (q.context.get? "scopes")).getD (.arr []) = scopesOf q := rfl
  simp only [policyMatches, principal, action, resource, scopes, bind, Except.bind, pure,
    Except.pure, Bool.false_eq_true, ↓reduceIte]
  cases p.whenScopesInclude with
  | none =>
      cases p.unlessScopesInclude with
      | none => exact fieldsHold_eq p q
      | some excluding =>
          simp only [consult]
          cases allScopesIncluded (scopesOf q) excluding with
          | error fault => rfl
          | ok excluded =>
              cases excluded with
              | true => rfl
              | false => exact fieldsHold_eq p q
  | some required =>
      simp only [consult]
      cases allScopesIncluded (scopesOf q) required with
      | error fault => rfl
      | ok included =>
          cases included with
          | false => rfl
          | true =>
              cases p.unlessScopesInclude with
              | none => exact fieldsHold_eq p q
              | some excluding =>
                  simp only
                  cases allScopesIncluded (scopesOf q) excluding with
                  | error fault => rfl
                  | ok excluded =>
                      cases excluded with
                      | true => rfl
                      | false => exact fieldsHold_eq p q

theorem policyMatches_of_heads_fail (fails : ¬ EngineHeads p q) :
    policyMatches p q = .ok false := by
  have some_differs : differs p.principal q.principal = true ∨
      differs p.action q.action = true ∨ differs p.resource q.resource = true := by
    by_contra none_differs
    simp only [not_or, Bool.not_eq_true] at none_differs
    obtain ⟨principal, action, resource⟩ := none_differs
    exact fails ⟨differs_iff.mp principal, differs_iff.mp action, differs_iff.mp resource⟩
  unfold policyMatches
  obtain principal | action | resource := some_differs
  · rw [principal]
    rfl
  · rw [action]
    split <;> rfl
  · rw [resource]
    split
    · rfl
    · split <;> rfl

theorem consult_required {field : Option (List String)}
    (readable : UnreadableScopes q → ∀ scopes ∈ field, scopes = []) :
    ∃ held, consult true q field = .ok held ∧
      (held = true ↔ ∀ scopes ∈ field, ∀ scope ∈ scopes, EngineGiven q scope) := by
  cases field with
  | none => exact ⟨true, rfl, by simp⟩
  | some scopes =>
      obtain ⟨included, searched, included_iff⟩ :=
        allScopesIncluded_of_readable (fun unreadable => readable unreadable scopes rfl)
      exact ⟨included, searched, by simpa using included_iff⟩

theorem consult_excluding {field : Option (List String)}
    (readable : UnreadableScopes q → ∀ scopes ∈ field, scopes = []) :
    ∃ held, consult false q field = .ok held ∧
      (held = false ↔ ∀ scopes ∈ field, ∃ scope ∈ scopes, ¬ EngineGiven q scope) := by
  cases field with
  | none => exact ⟨false, rfl, by simp⟩
  | some scopes =>
      obtain ⟨included, searched, included_iff⟩ :=
        allScopesIncluded_of_readable (fun unreadable => readable unreadable scopes rfl)
      refine ⟨included, searched, ?_⟩
      rw [← Bool.not_eq_true, included_iff]
      simp

/-- The engine returns unless it reaches scopes it cannot read, with what it takes the policy
to say. -/
theorem policyMatches_of_readable (readable : ¬ Unreadable p q) :
    ∃ matched, policyMatches p q = .ok matched ∧ (matched = true ↔ EngineTakes p q) := by
  by_cases heads : EngineHeads p q
  case neg =>
    refine ⟨false, policyMatches_of_heads_fail heads, iff_of_false Bool.false_ne_true ?_⟩
    exact fun takes => heads takes.heads
  case pos =>
    have required_empty : UnreadableScopes q → ∀ scopes ∈ p.whenScopesInclude, scopes = [] := by
      intro unreadable scopes present
      apply List.eq_nil_iff_forall_not_mem.mpr
      intro scope member
      exact readable ⟨unreadable, heads, .inl ⟨scope, scopes, present, member⟩⟩
    have excluding_empty : UnreadableScopes q → ∀ scopes ∈ p.unlessScopesInclude,
        scopes = [] := by
      intro unreadable scopes present
      apply List.eq_nil_iff_forall_not_mem.mpr
      intro scope member
      exact readable ⟨unreadable, heads, .inr ⟨scope, scopes, present, member⟩⟩
    obtain ⟨included, consulted, included_iff⟩ := consult_required required_empty
    obtain ⟨excluded, excluding, excluded_iff⟩ := consult_excluding excluding_empty
    refine ⟨included && !excluded && fieldsHold p q, ?_, ?_⟩
    · rw [policyMatches_of_heads heads, consulted, excluding]
      cases included <;> cases excluded <;> rfl
    · rw [Bool.and_eq_true, Bool.and_eq_true, Bool.not_eq_true', included_iff, excluded_iff,
        fieldsHold_iff]
      constructor
      · rintro ⟨⟨all, some_missing⟩, fields⟩
        exact ⟨heads, all, some_missing, fields⟩
      · intro takes
        exact ⟨⟨takes.included, takes.excluded⟩, takes.fields⟩

theorem policyMatches_of_unreadable (unreadable : Unreadable p q) :
    ∃ fault, policyMatches p q = .error fault := by
  rw [policyMatches_of_heads unreadable.heads]
  have fails {absent : Bool} {field : Option (List String)}
      (consults : ∃ scope, ∃ scopes ∈ field, scope ∈ scopes) :
      ∃ fault, consult absent q field = .error fault := by
    obtain ⟨scope, scopes, present, member⟩ := consults
    rw [Option.mem_def.mp present]
    exact allScopesIncluded_of_unreadable unreadable.scopes ⟨scope, member⟩
  by_cases required : ∃ scope, ∃ scopes ∈ p.whenScopesInclude, scope ∈ scopes
  · obtain ⟨fault, failed⟩ := fails required
    exact ⟨fault, by rw [failed]; rfl⟩
  · obtain ⟨fault, failed⟩ := fails (unreadable.consults.resolve_left required)
    have passed : consult true q p.whenScopesInclude = .ok true := by
      cases present : p.whenScopesInclude with
      | none => rfl
      | some scopes =>
          cases scopes with
          | nil => rfl
          | cons scope rest =>
              exact absurd ⟨scope, _, present, List.mem_cons_self⟩ required
    exact ⟨fault, by rw [passed, failed]; rfl⟩

end Engine

section Decision

variable {policies : List LocalPolicy} {q : CedarLocalQuery}

/-- A satisfied forbid wins and nothing is allowed by default, whatever holding is. -/
def Allows (policies : List LocalPolicy) (holds : LocalPolicy → Prop) : Prop :=
  (∀ p ∈ policies, p.effect = .forbid → ¬ holds p) ∧ ∃ p ∈ policies, p.effect = .permit ∧ holds p

theorem matchingPolicies_of_readable (readable : ∀ p ∈ policies, ¬ Unreadable p q) :
    ∃ found, matchingPolicies q policies = .ok found ∧
      ∀ p, p ∈ found ↔ p ∈ policies ∧ EngineTakes p q := by
  induction policies with
  | nil => exact ⟨[], rfl, by simp⟩
  | cons p rest ih =>
      obtain ⟨matched, first, matched_iff⟩ :=
        policyMatches_of_readable (readable p List.mem_cons_self)
      obtain ⟨found, searched, found_iff⟩ :=
        ih (fun other member => readable other (List.mem_cons_of_mem p member))
      refine ⟨if matched then p :: found else found, ?_, ?_⟩
      · simp only [matchingPolicies, first, searched, bind, Except.bind, pure, Except.pure]
      · intro other
        cases matched with
        | true =>
            have takes : EngineTakes p q := matched_iff.mp rfl
            simp only [↓reduceIte, List.mem_cons, found_iff]
            constructor
            · rintro (rfl | ⟨member, held⟩)
              · exact ⟨.inl rfl, takes⟩
              · exact ⟨.inr member, held⟩
            · rintro ⟨rfl | member, held⟩
              · exact .inl rfl
              · exact .inr ⟨member, held⟩
        | false =>
            have ignored : ¬ EngineTakes p q :=
              fun takes => Bool.false_ne_true (matched_iff.mpr takes)
            simp only [Bool.false_eq_true, ↓reduceIte, List.mem_cons, found_iff]
            constructor
            · rintro ⟨member, held⟩
              exact ⟨.inr member, held⟩
            · rintro ⟨rfl | member, held⟩
              · exact absurd held ignored
              · exact ⟨member, held⟩

theorem matchingPolicies_of_unreadable {p : LocalPolicy} (member : p ∈ policies)
    (unreadable : Unreadable p q) : ∃ fault, matchingPolicies q policies = .error fault := by
  induction policies with
  | nil => cases member
  | cons first rest ih =>
      simp only [matchingPolicies, bind, Except.bind]
      cases member with
      | head =>
          obtain ⟨fault, failed⟩ := policyMatches_of_unreadable unreadable
          exact ⟨fault, by rw [failed]⟩
      | tail _ later =>
          obtain ⟨fault, failed⟩ := ih later
          cases policyMatches first q with
          | error earlier => exact ⟨earlier, rfl⟩
          | ok matched => exact ⟨fault, by rw [failed]⟩

theorem cedarEvaluate_of_readable (readable : ∀ p ∈ policies, ¬ Unreadable p q) :
    ∃ result, cedarEvaluate policies q = .ok result ∧
      (result.decision = .allow ↔ Allows policies (EngineTakes · q)) := by
  obtain ⟨found, searched, found_iff⟩ := matchingPolicies_of_readable readable
  have evaluated : ∃ result, cedarEvaluate policies q = .ok result := by
    simp only [cedarEvaluate, searched, bind, Except.bind, pure, Except.pure]
    exact ⟨_, rfl⟩
  obtain ⟨result, evaluated⟩ := evaluated
  obtain ⟨same, again, _, allow_iff⟩ := cedarEvaluate_allow_iff policies q result evaluated
  rw [searched, Except.ok.injEq] at again
  subst again
  refine ⟨result, evaluated, allow_iff.trans ?_⟩
  simp only [found_iff, Allows]
  constructor
  · rintro ⟨free, p, ⟨member, takes⟩, permits⟩
    exact ⟨fun forbid member forbids takes => free forbid ⟨member, takes⟩ forbids,
      p, member, permits, takes⟩
  · rintro ⟨free, p, member, permits, takes⟩
    exact ⟨fun forbid held forbids => free forbid held.1 forbids held.2,
      p, ⟨member, takes⟩, permits⟩

theorem cedarDecision_allow_iff :
    cedarDecision policies q = .allow ↔ Allows policies (CedarTakes · q) := by
  have forbids_iff (p : LocalPolicy) : p.translate.kind = .forbid ↔ p.effect = .forbid := by
    unfold LocalPolicy.translate
    cases p.effect <;> simp
  have permits_iff (p : LocalPolicy) : p.translate.kind = .permit ↔ p.effect = .permit := by
    unfold LocalPolicy.translate
    cases p.effect <;> simp
  rw [cedarDecision, Cedar.isAuthorized_allow_iff]
  simp only [List.mem_map, forall_exists_index, and_imp, forall_apply_eq_imp_iff₂,
    exists_exists_and_eq_and, ← Bool.not_eq_true, translate_satisfied_iff, forbids_iff,
    permits_iff, Allows]

theorem SameVotes.allows_iff (votes : SameVotes policies q) :
    Allows policies (EngineTakes · q) ↔ Allows policies (CedarTakes · q) := by
  cases votes with
  | forbidden p other member other_member forbids other_forbids engine cedar =>
      refine iff_of_false ?_ ?_
      · exact fun allows => allows.1 p member forbids engine
      · exact fun allows => allows.1 other other_member other_forbids cedar
  | permitted p other member other_member permits other_permits engine cedar free =>
      refine iff_of_true ?_ ?_
      · exact ⟨fun forbid m forbids => (free forbid m forbids).1, p, member, permits, engine⟩
      · exact ⟨fun forbid m forbids => (free forbid m forbids).2,
          other, other_member, other_permits, cedar⟩
  | unpermitted none_holds =>
      refine iff_of_false ?_ ?_
      · rintro ⟨_, p, member, permits, takes⟩
        exact (none_holds p member permits).1 takes
      · rintro ⟨_, p, member, permits, takes⟩
        exact (none_holds p member permits).2 takes
  | engineForbids p member forbids engine none_holds =>
      refine iff_of_false ?_ ?_
      · exact fun allows => allows.1 p member forbids engine
      · rintro ⟨_, other, other_member, permits, takes⟩
        exact none_holds other other_member permits takes
  | cedarForbids p member forbids cedar none_holds =>
      refine iff_of_false ?_ ?_
      · rintro ⟨_, other, other_member, permits, takes⟩
        exact none_holds other other_member permits takes
      · exact fun allows => allows.1 p member forbids cedar

/-- Which of the two takes a forbid to hold, and then a permit, settles the case. -/
theorem sameVotes_of_allows_iff
    (same : Allows policies (EngineTakes · q) ↔ Allows policies (CedarTakes · q)) :
    SameVotes policies q := by
  by_cases engine_forbids : ∃ p ∈ policies, p.effect = .forbid ∧ EngineTakes p q
  case pos =>
    obtain ⟨p, member, forbids, engine⟩ := engine_forbids
    have denied : ¬ Allows policies (CedarTakes · q) :=
      fun allows => (same.mpr allows).1 p member forbids engine
    by_cases cedar_forbids : ∃ p ∈ policies, p.effect = .forbid ∧ CedarTakes p q
    · obtain ⟨other, other_member, other_forbids, cedar⟩ := cedar_forbids
      exact .forbidden p other member other_member forbids other_forbids engine cedar
    · apply SameVotes.engineForbids p member forbids engine
      intro permit permit_member permits takes
      apply denied
      refine ⟨?_, permit, permit_member, permits, takes⟩
      exact fun other m other_forbids held => cedar_forbids ⟨other, m, other_forbids, held⟩
  case neg =>
    have engine_free : ∀ p ∈ policies, p.effect = .forbid → ¬ EngineTakes p q :=
      fun p member forbids takes => engine_forbids ⟨p, member, forbids, takes⟩
    by_cases cedar_forbids : ∃ p ∈ policies, p.effect = .forbid ∧ CedarTakes p q
    · obtain ⟨other, other_member, other_forbids, cedar⟩ := cedar_forbids
      apply SameVotes.cedarForbids other other_member other_forbids cedar
      intro permit permit_member permits takes
      have allows := same.mp ⟨engine_free, permit, permit_member, permits, takes⟩
      exact allows.1 other other_member other_forbids cedar
    · have cedar_free : ∀ p ∈ policies, p.effect = .forbid → ¬ CedarTakes p q :=
        fun p member forbids takes => cedar_forbids ⟨p, member, forbids, takes⟩
      by_cases engine_permits : ∃ p ∈ policies, p.effect = .permit ∧ EngineTakes p q
      · obtain ⟨p, member, permits, engine⟩ := engine_permits
        obtain ⟨_, other, other_member, other_permits, cedar⟩ :=
          same.mp ⟨engine_free, p, member, permits, engine⟩
        refine .permitted p other member other_member permits other_permits engine cedar ?_
        exact fun forbid m forbids => ⟨engine_free forbid m forbids, cedar_free forbid m forbids⟩
      · apply SameVotes.unpermitted
        intro permit member permits
        have no_engine : ¬ EngineTakes permit q :=
          fun takes => engine_permits ⟨permit, member, permits, takes⟩
        refine ⟨no_engine, fun takes => engine_permits ?_⟩
        exact (same.mpr ⟨cedar_free, permit, member, permits, takes⟩).2

theorem sameVotes_iff :
    SameVotes policies q ↔
      (Allows policies (EngineTakes · q) ↔ Allows policies (CedarTakes · q)) :=
  ⟨SameVotes.allows_iff, sameVotes_of_allows_iff⟩

/-- The two decide alike exactly where the engine can read the scopes it reaches, and the
policies that they read differently are outvoted. -/
theorem decidesLikeCedar_iff (policies : List LocalPolicy) (q : CedarLocalQuery) :
    DecidesLikeCedar policies q ↔
      (∀ p ∈ policies, ¬ Unreadable p q) ∧ SameVotes policies q := by
  rw [sameVotes_iff, ← cedarDecision_allow_iff]
  constructor
  · rintro ⟨result, evaluated, same⟩
    have readable : ∀ p ∈ policies, ¬ Unreadable p q := by
      intro p member unreadable
      obtain ⟨fault, failed⟩ := matchingPolicies_of_unreadable member unreadable
      simp only [cedarEvaluate, failed, bind, Except.bind, reduceCtorEq] at evaluated
    obtain ⟨again, evaluated_again, allow_iff⟩ := cedarEvaluate_of_readable readable
    rw [evaluated, Except.ok.injEq] at evaluated_again
    subst evaluated_again
    exact ⟨readable, allow_iff.symm.trans same⟩
  · rintro ⟨readable, same⟩
    obtain ⟨result, evaluated, allow_iff⟩ := cedarEvaluate_of_readable readable
    exact ⟨result, evaluated, allow_iff.trans same⟩

/-- Only the policy of an actor chain that the call indeed has. -/
def chainPolicy : LocalPolicy where
  id := "lending-only"
  effect := .permit
  action := some "POST"
  whenContextEquals := some [("actor_chain", .arr [.str "calling-service"])]

def chainQuery : CedarLocalQuery where
  principal := "alice"
  action := "POST"
  resource := "/api/loans"
  context := [("scopes", .arr [.str "lending/write"]),
    ("actor_chain", .arr [.str "calling-service"])]

theorem chainPolicy_denied : ¬ DecidesLikeCedar [chainPolicy] chainQuery := by
  rintro ⟨result, evaluated, same⟩
  have denied : cedarEvaluate [chainPolicy] chainQuery =
      .ok { decision := .deny, reasons := [], mode := .local } := rfl
  have allowed : cedarDecision [chainPolicy] chainQuery = .allow := by decide +kernel
  rw [denied, Except.ok.injEq] at evaluated
  subst evaluated
  cases same.mpr allowed

/-- A policy that every reader reads alike: no empty constraint, and no list or record. -/
structure LocalPolicy.Plain (p : LocalPolicy) : Prop where
  principal : p.principal ≠ some ""
  action : p.action ≠ some ""
  resource : p.resource ≠ some ""
  scalars : ∀ fields ∈ p.whenContextEquals, ∀ field ∈ fields, IsScalar field.2

theorem cedarValue_equals_iff {value expected : Json} (scalar : IsScalar expected) :
    (cedarValue value).equals (cedarValue expected) = true ↔ value = expected := by
  cases expected with
  | arr items => exact scalar.elim
  | obj fields => exact scalar.elim
  | num number =>
      cases value with
      | num other =>
          by_cases whole : other.den = 1
          · by_cases expected_whole : number.den = 1
            · have same_den : other.den = number.den := by rw [whole, expected_whole]
              have same_iff : other.num = number.num ↔ other = number :=
                ⟨fun same => Rat.ext same same_den, congrArg Rat.num⟩
              simpa [cedarValue, whole, expected_whole, Cedar.Value.equals] using same_iff
            · have different : other ≠ number := by
                rintro rfl
                exact expected_whole whole
              simp [cedarValue, whole, expected_whole, Cedar.Value.equals, different]
          · by_cases expected_whole : number.den = 1
            · have different : other ≠ number := by
                rintro rfl
                exact whole expected_whole
              simp [cedarValue, whole, expected_whole, Cedar.Value.equals, different]
            · simp [cedarValue, whole, expected_whole, Cedar.Value.equals]
      | _ => by_cases whole : number.den = 1 <;> simp [cedarValue, whole, Cedar.Value.equals]
  | _ =>
      cases value with
      | num other => by_cases whole : other.den = 1 <;> simp [cedarValue, whole, Cedar.Value.equals]
      | _ => simp [cedarValue, Cedar.Value.equals]

theorem engineTakes_iff_of_plain {p : LocalPolicy} {items : List Json} (plain : p.Plain)
    (given : q.context.get? "scopes" = some (.arr items)) : EngineTakes p q ↔ CedarTakes p q := by
  have admits_iff {field : Option String} {value : String} (filled : field ≠ some "") :
      EngineAdmits field value ↔ CedarAdmits field value := by
    simp [EngineAdmits, CedarAdmits, filled]
  have given_iff (scope : String) : EngineGiven q scope ↔ .str scope ∈ items := by
    rw [EngineGiven, given]
  constructor
  · intro takes
    refine ⟨(admits_iff plain.principal).mp takes.heads.1,
      (admits_iff plain.action).mp takes.heads.2.1, (admits_iff plain.resource).mp takes.heads.2.2,
      ?_, ?_, ?_⟩
    · intro required present
      refine ⟨items, given, ?_⟩
      intro scope member
      exact (given_iff scope).mp (takes.included required present scope member)
    · intro excluding present
      obtain ⟨scope, member, missing⟩ := takes.excluded excluding present
      exact ⟨items, given, scope, member, fun found => missing ((given_iff scope).mpr found)⟩
    · intro fields present field member
      obtain ⟨scalar, found⟩ := takes.fields fields present field member
      exact ⟨field.2, found, (cedarValue_equals_iff scalar).mpr rfl⟩
  · intro takes
    refine ⟨⟨(admits_iff plain.principal).mpr takes.principal,
      (admits_iff plain.action).mpr takes.action, (admits_iff plain.resource).mpr takes.resource⟩,
      ?_, ?_, ?_⟩
    · intro required present scope member
      obtain ⟨found, found_given, all⟩ := takes.included required present
      rw [EngineGiven, found_given]
      exact all scope member
    · intro excluding present
      obtain ⟨found, found_given, scope, member, missing⟩ := takes.excluded excluding present
      refine ⟨scope, member, ?_⟩
      rw [EngineGiven, found_given]
      exact missing
    · intro fields present field member
      have scalar := plain.scalars fields present field member
      obtain ⟨value, found, same⟩ := takes.fields fields present field member
      rw [(cedarValue_equals_iff scalar).mp same] at found
      exact ⟨scalar, found⟩

/-- On plain policies and a list of scopes the two decide alike. -/
theorem decidesLikeCedar_of_plain {items : List Json} (plain : ∀ p ∈ policies, p.Plain)
    (given : q.context.get? "scopes" = some (.arr items)) : DecidesLikeCedar policies q := by
  have readable : ∀ p ∈ policies, ¬ Unreadable p q := by
    intro p member unreadable
    have scopes := unreadable.scopes
    rw [UnreadableScopes, given] at scopes
    exact scopes
  obtain ⟨result, evaluated, allow_iff⟩ := cedarEvaluate_of_readable readable
  refine ⟨result, evaluated, ?_⟩
  rw [allow_iff, cedarDecision_allow_iff]
  unfold Allows
  have takes_iff (p : LocalPolicy) (member : p ∈ policies) : EngineTakes p q ↔ CedarTakes p q :=
    engineTakes_iff_of_plain (plain p member) given
  constructor
  · rintro ⟨free, p, member, permits, takes⟩
    refine ⟨?_, p, member, permits, (takes_iff p member).mp takes⟩
    exact fun forbid m forbids held => free forbid m forbids ((takes_iff forbid m).mpr held)
  · rintro ⟨free, p, member, permits, takes⟩
    refine ⟨?_, p, member, permits, (takes_iff p member).mpr takes⟩
    exact fun forbid m forbids held => free forbid m forbids ((takes_iff forbid m).mp held)

/-- A fallback in an outage answers as the engine does. -/
theorem outage_decides_iff {deps : AuthorizeDeps} {now : Nat} {input : AuthorizeInput}
    {fault : Fault} (asked : deps.mode = .avpApi) (fallsBack : deps.fallbackToLocal = true)
    (engine : deps.cedarLocal = fun _ => cedarEvaluate policies)
    (outage : askAvp deps now input = .error fault) :
    (∃ result, policyDecision deps now input = .ok result ∧
      (result.decision = .allow ↔ cedarDecision policies (localQuery input) = .allow)) ↔
      DecidesLikeCedar policies (localQuery input) := by
  have answered : policyDecision deps now input = cedarEvaluate policies (localQuery input) := by
    simp only [policyDecision, asked, outage, fallsBack, ↓reduceIte, engine]
  rw [answered, DecidesLikeCedar]

end Decision

end S2s
