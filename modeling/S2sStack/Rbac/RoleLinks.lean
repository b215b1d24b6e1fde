import Mathlib.Logic.Relation

set_option autoImplicit false

/- Role-based access control: rules for subjects and roles, and grants of roles. -/
namespace Rbac

section Grants

variable {σ : Type}

/-- `g, user, role` -/
structure Grant (σ : Type) where
  user : σ
  role : σ
  deriving DecidableEq, Repr

/-- Everybody holds what they are, and the roles that are granted to what they hold. -/
def Holds (grants : List (Grant σ)) : σ → σ → Prop :=
  Relation.ReflTransGen (fun user role => ⟨user, role⟩ ∈ grants)

/-- No role is granted a further role. -/
def Flat (grants : List (Grant σ)) : Prop :=
  ∀ first ∈ grants, ∀ second ∈ grants, first.role ≠ second.user

variable {grants : List (Grant σ)} {user role : σ}

theorem Flat.holds_iff (flat : Flat grants) :
    Holds grants user role ↔ user = role ∨ ⟨user, role⟩ ∈ grants := by
  constructor
  · intro holds
    induction holds with
    | refl => exact .inl rfl
    | @tail middle last _ granted ih =>
        cases ih with
        | inl same =>
            subst same
            exact .inr granted
        | inr earlier => exact absurd rfl (flat _ earlier _ granted)
  · intro reached
    cases reached with
    | inl same =>
        subst same
        exact Relation.ReflTransGen.refl
    | inr granted => exact Relation.ReflTransGen.single granted

end Grants

/-- `p, sub, obj, act` -/
structure Rule (σ ο α : Type) where
  sub : σ
  obj : ο
  act : α
  deriving DecidableEq, Repr

/-- What answers `g(user, role)`. -/
structure RoleManager {σ : Type} (grants : List (Grant σ)) where
  hasLink : σ → σ → Bool
  hasLink_iff : ∀ user role, hasLink user role = true ↔ Holds grants user role

namespace RoleManager

variable {σ ο α : Type} {grants : List (Grant σ)}

/-- The role manager that looks no further than one grant. -/
def ofFlat [DecidableEq σ] (flat : Flat grants) : RoleManager grants where
  hasLink user role := user = role ∨ ⟨user, role⟩ ∈ grants
  hasLink_iff user role := by
    rw [decide_eq_true_iff]
    exact flat.holds_iff.symm

/-- `g(r.sub, p.sub) && r.obj == p.obj && r.act == p.act` for some rule. -/
def enforce [DecidableEq ο] [DecidableEq α] (roles : RoleManager grants)
    (rules : List (Rule σ ο α)) (sub : σ) (obj : ο) (act : α) : Bool :=
  rules.any (fun rule => roles.hasLink sub rule.sub && obj = rule.obj && act = rule.act)

variable [DecidableEq ο] [DecidableEq α] {roles : RoleManager grants}
  {rules : List (Rule σ ο α)} {sub : σ} {obj : ο} {act : α}

theorem enforce_iff :
    roles.enforce rules sub obj act = true ↔
      ∃ role, ⟨role, obj, act⟩ ∈ rules ∧ Holds grants sub role := by
  simp only [enforce, List.any_eq_true, Bool.and_eq_true, decide_eq_true_iff, roles.hasLink_iff]
  constructor
  · intro matched
    obtain ⟨rule, member, ⟨holds, rfl⟩, rfl⟩ := matched
    exact ⟨rule.sub, member, holds⟩
  · intro permitted
    obtain ⟨role, member, holds⟩ := permitted
    exact ⟨⟨role, obj, act⟩, member, ⟨holds, rfl⟩, rfl⟩

end RoleManager

end Rbac
