import Mathlib.Data.List.Basic
import ExamGrants.Proofs.CurrentUser
import ExamGrants.Proofs.Standing

namespace ExamGrants

/-! More rights never permit less.

Rows may grow tier by tier, users gain roles, entities gain supporters and requests become
weaker: what was permitted stays permitted.  Only a request for nothing is left out, which
is weaker than any other and is never permitted.
-/

variable {requested easier : Level} {entityType : EntityType}

theorem Level.implies_mono {lower upper : Level} (asked : easier ≠ .none)
    (weaker : easier ≤ requested) (below : lower ≤ upper)
    (satisfied : lower.implies requested = true) : upper.implies easier = true := by
  have reached : requested ≤ lower := (implies_iff.mp satisfied).2
  exact implies_iff.mpr ⟨asked, le_trans weaker (le_trans reached below)⟩

structure Tiers.AtMost (lower upper : Tiers) : Prop where
  base : lower.base ≤ upper.base
  institutional : lower.institutional ≤ upper.institutional
  owner : lower.owner ≤ upper.owner

structure Standing.AtMost (lower upper : Standing) : Prop where
  home : lower.home = true → upper.home = true
  owning : lower.owning = true → upper.owning = true

/-- The second is the same user, with further roles. -/
structure User.AtMost (lower upper : User) : Prop where
  id : lower.id = upper.id
  institution : lower.institution = upper.institution
  roles : ∀ role, lower.hasRole role = true → upper.hasRole role = true

/-- The second is the same entity, with further supporters. -/
structure Entity.AtMost (lower upper : Entity) : Prop where
  entityType : lower.entityType = upper.entityType
  institution : lower.institution = upper.institution
  owner : lower.owner = upper.owner
  supporters : lower.supporters ⊆ upper.supporters

/-- Both policies have the supporter rule for the same types and no other rule, and the second
has at least the tiers of the first for every key. -/
structure Policy.AtMost (lower upper : Policy) : Prop where
  lowerFollows : ∀ entityType, lower.FollowsTiers entityType
  upperFollows : ∀ entityType, upper.FollowsTiers entityType
  covers : ∀ entityType, lower.rules.covers entityType = upper.rules.covers entityType
  tiers : ∀ entityType role,
    (lower.registry.get entityType role).tiers.AtMost (upper.registry.get entityType role).tiers

theorem Tiers.AtMost.refl (tiers : Tiers) : tiers.AtMost tiers :=
  ⟨Level.le_refl _, Level.le_refl _, Level.le_refl _⟩

theorem User.AtMost.refl (user : User) : user.AtMost user := ⟨rfl, rfl, fun _ held => held⟩

theorem Entity.AtMost.refl (entity : Entity) : entity.AtMost entity :=
  ⟨rfl, rfl, rfl, fun _ member => member⟩

section Requests

variable (asked : easier ≠ .none) (weaker : easier ≤ requested)

include asked weaker

theorem Tiers.AtMost.permit {lower upper : Tiers} (below : lower.AtMost upper)
    {standing better : Standing} (stands : standing.AtMost better)
    (permitted : lower.permit standing requested = true) :
    upper.permit better easier = true := by
  apply Tiers.permit_iff.mpr
  rcases Tiers.permit_iff.mp permitted with base | ⟨institutional, home⟩ | ⟨owner, owning⟩
  · exact .inl (Level.implies_mono asked weaker below.base base)
  · have reached := Level.implies_mono asked weaker below.institutional institutional
    exact .inr (.inl ⟨reached, stands.home home⟩)
  · have reached := Level.implies_mono asked weaker below.owner owner
    exact .inr (.inr ⟨reached, stands.owning owning⟩)

theorem Registry.permit_mono {lower upper : Registry} {roles further : RoleSet}
    {standing better : Standing}
    (tiers : ∀ role, (lower.get entityType role).tiers.AtMost (upper.get entityType role).tiers)
    (kept : ∀ role, roles.has role = true → further.has role = true)
    (stands : standing.AtMost better)
    (permitted : lower.permit entityType roles standing requested = true) :
    upper.permit entityType further better easier = true := by
  obtain ⟨role, held, reached⟩ := permit_iff.mp permitted
  have stillReached := (tiers role).permit asked weaker stands reached
  exact permit_iff.mpr ⟨role, kept role held, stillReached⟩

end Requests

namespace Policy

variable {lower upper : Policy} {user promoted : User} {entity shared : Entity}

theorem AtMost.standing (policies : lower.AtMost upper) (users : user.AtMost promoted)
    (entities : entity.AtMost shared) :
    (lower.standing entity user).AtMost (upper.standing shared promoted) where
  home := by
    simp only [Policy.standing, Entity.isHomeOf_iff]
    intro home
    rw [← users.institution, ← entities.institution]
    exact home
  owning := by
    simp only [Policy.standing, sharesOwnership_iff]
    intro owning
    rcases owning with owned | ⟨covered, listed⟩
    · rw [entities.owner, users.id] at owned
      exact .inl owned
    · -- Supporters count where the type has the rule, on which the policies agree.
      have coveredToo : upper.rules.covers shared.entityType = true := by
        rw [← policies.covers, ← entities.entityType]
        exact covered
      have listedToo : promoted.id ∈ shared.supporters := by
        rw [← users.id]
        exact entities.supporters listed
      exact .inr ⟨coveredToo, listedToo⟩

theorem AtMost.value_permits (policies : lower.AtMost upper) (users : user.AtMost promoted)
    (entities : entity.AtMost shared) (asked : easier ≠ .none) (weaker : easier ≤ requested)
    (permitted : (lower.permits entity requested user).value = true) :
    (upper.permits shared easier promoted).value = true := by
  rw [value_permits_eq_permit (policies.lowerFollows _)] at permitted
  rw [value_permits_eq_permit (policies.upperFollows _), ← entities.entityType]
  exact Registry.permit_mono asked weaker (policies.tiers _) users.roles
    (policies.standing users entities) permitted

theorem AtMost.refl (follows : ∀ entityType, lower.FollowsTiers entityType) :
    lower.AtMost lower where
  lowerFollows := follows
  upperFollows := follows
  covers _ := rfl
  tiers _ _ := Tiers.AtMost.refl _

/-- The filter for a stronger request keeps no item that the filter for a weaker one loses. -/
theorem AtMost.select_sublist {α : Type} (policies : lower.AtMost upper)
    (users : user.AtMost promoted) (asked : easier ≠ .none) (weaker : easier ≤ requested)
    (entityOf : α → Entity) (items : List α) (prepared other : EntityType) :
    ((lower.filterFor prepared requested user).select entityOf items).value.Sublist
      ((upper.filterFor other easier promoted).select entityOf items).value := by
  rw [Filter.value_select, Filter.value_select]
  apply List.monotone_filter_right
  intro item kept
  rw [value_accepts_filterFor] at kept
  rw [value_accepts_filterFor]
  exact policies.value_permits users (.refl _) asked weaker kept

/-- Whoever passes a check passes the checks for weaker requests. -/
theorem require_weaker (follows : ∀ entityType, lower.FollowsTiers entityType)
    (asked : easier ≠ .none) (weaker : easier ≤ requested) {user? : Option User}
    {entity given : Entity}
    (passed : (Access.require ⟨lower, user?⟩ entity requested).value = .ok given) :
    (Access.require ⟨lower, user?⟩ entity easier).value = .ok given := by
  cases user? with
  | none => cases passed
  | some user =>
      rw [Access.value_require rfl] at passed
      rw [Access.value_require rfl]
      cases permitted : (lower.permits entity requested user).value with
      | false =>
          rw [permitted] at passed
          contradiction
      | true =>
          have stillPermitted := (AtMost.refl follows).value_permits (.refl user) (.refl entity)
            asked weaker permitted
          rw [permitted] at passed
          rw [stillPermitted]
          exact passed

/-- Who is permitted a request stays permitted when rows, roles and supporters are added and
when less is requested.  So a list filtered for a stronger request is part of the list
filtered for a weaker one, and who may write may modify and read. -/
theorem value_permits_monotone (lower upper : Policy) (user promoted : User)
    (requested easier : Level) (policies : lower.AtMost upper) (users : user.AtMost promoted)
    (asked : easier ≠ .none) (weaker : easier ≤ requested) :
    (∀ entity shared : Entity, entity.AtMost shared →
      (lower.permits entity requested user).value = true →
      (upper.permits shared easier promoted).value = true) ∧
    (∀ user? entity given, (Access.requireWrite ⟨lower, user?⟩ entity).value = .ok given →
      (Access.requireModify ⟨lower, user?⟩ entity).value = .ok given ∧
        (Access.requireRead ⟨lower, user?⟩ entity).value = .ok given) ∧
    ∀ {α : Type} (entityOf : α → Entity) (items : List α) (prepared other : EntityType),
      ((lower.filterFor prepared requested user).select entityOf items).value.Sublist
        ((upper.filterFor other easier promoted).select entityOf items).value := by
  refine ⟨?_, ?_, policies.select_sublist users asked weaker⟩
  · intro entity shared entities permitted
    exact policies.value_permits users entities asked weaker permitted
  · intro user? entity given passed
    have follows := policies.lowerFollows
    exact ⟨require_weaker follows (by decide) (by decide) passed,
      require_weaker follows (by decide) (by decide) passed⟩

/-- An administrator of the exams at home may modify one of them.  With another role, stronger
rows and a place among its supporters they may still read it. -/
theorem value_permits_monotone_promotion :
    let few := Registry.ofGrants [⟨.exam, .examAdmin, ⟨.none, .modify, .none⟩⟩]
    let more := Registry.ofGrants [⟨.exam, .examAdmin, ⟨.none, .write, .readOnly⟩⟩,
      ⟨.exam, .examSupporter, ⟨.none, .none, .modify⟩⟩]
    let lower : Policy := ⟨few, RuleSet.empty.assign .exam (.supportersOf few .exam)⟩
    let upper : Policy := ⟨more, RuleSet.empty.assign .exam (.supportersOf more .exam)⟩
    let user : User := ⟨⟨1⟩, "ada", ⟨1⟩, .ofList [.examAdmin]⟩
    let promoted : User := ⟨⟨1⟩, "ada", ⟨1⟩, .ofList [.examAdmin, .examSupporter]⟩
    let exam : Entity := { entityType := .exam, institution := ⟨1⟩ }
    let shared : Entity := { exam with supporters := [⟨1⟩] }
    lower.AtMost upper ∧ user.AtMost promoted ∧ exam.AtMost shared ∧
      (lower.permits exam .modify user).value = true ∧
      (upper.permits shared .readOnly promoted).value = true := by
  intro few more lower upper user promoted exam shared
  have policies : lower.AtMost upper :=
    { lowerFollows := followsTiers_assign few .exam
      upperFollows := followsTiers_assign more .exam
      covers := by
        intro entityType
        cases entityType <;> rfl
      tiers := by
        intro entityType role
        cases entityType <;> cases role <;> exact ⟨by decide, by decide, by decide⟩ }
  have users : user.AtMost promoted := ⟨rfl, rfl, by
    intro role held
    cases role <;> first | rfl | contradiction⟩
  have entities : exam.AtMost shared := ⟨rfl, rfl, rfl, List.nil_subset _⟩
  have permitted : (lower.permits exam .modify user).value = true := by decide
  have grown := value_permits_monotone lower upper user promoted .modify .readOnly policies users
    (by decide) (by decide)
  exact ⟨policies, users, entities, permitted, grown.1 exam shared entities permitted⟩

end Policy

end ExamGrants
