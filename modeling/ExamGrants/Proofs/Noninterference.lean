import ExamGrants.Proofs.Standing

namespace ExamGrants

/-! What a decision must not depend on.

A decision is given a whole registry, user and entity.  It uses the rows of the held roles
for the type of the entity and the outcome of the comparisons between user and entity, and
nothing else: two situations that agree there are decided alike, however they differ
elsewhere (`decides_alike`).
-/

variable {entityType : EntityType} {requested : Level}

theorem Registry.permit_congr {first second : Registry} {roles : RoleSet}
    (rows : ∀ role, roles.has role = true →
      first.find? entityType role = second.find? entityType role)
    (standing : Standing) :
    first.permit entityType roles standing requested =
      second.permit entityType roles standing requested := by
  rw [Bool.eq_iff_iff, permit_iff, permit_iff]
  apply exists_congr
  intro role
  apply and_congr_right
  intro held
  rw [get_permit, get_permit, rows role held]

/-- What a decision is given to look at: about the entity, or about its type. -/
structure Situation where
  policy : Policy
  user : User
  entity : Entity

namespace Situation

variable {situation first second : Situation}

def permits (situation : Situation) (requested : Level) : Bool :=
  (situation.policy.permits situation.entity requested situation.user).value

def permitsEverywhere (situation : Situation) (requested : Level) : Bool :=
  situation.policy.permitsEverywhere situation.entity.entityType requested situation.user

def permitsAtHome (situation : Situation) (requested : Level) : Bool :=
  situation.policy.permitsAtHome situation.entity.entityType requested situation.user

/-- The situations agree in what a decision may use, supporters apart. -/
structure Resembles (first second : Situation) : Prop where
  entityType : first.entity.entityType = second.entity.entityType
  roles : first.user.roles = second.user.roles
  rows : ∀ role, first.user.hasRole role = true →
    first.policy.registry.find? first.entity.entityType role =
      second.policy.registry.find? second.entity.entityType role
  home : first.user.institution = first.entity.institution ↔
    second.user.institution = second.entity.institution
  owned : first.entity.owner = some first.user.id ↔
    second.entity.owner = some second.user.id

/-- The three decisions turn out the same. -/
structure DecidedAs (first second : Situation) (requested : Level) : Prop where
  permits : first.permits requested = second.permits requested
  permitsEverywhere : first.permitsEverywhere requested = second.permitsEverywhere requested
  permitsAtHome : first.permitsAtHome requested = second.permitsAtHome requested

/-- The situation with another registry and user name, with all institutions renumbered, and
with another owner and other supporters of the entity. -/
def disguise (situation : Situation) (registry : Registry) (username : String)
    (renumber : InstitutionId → InstitutionId) (owner : Option UserId)
    (supporters : List UserId) : Situation where
  policy := ⟨registry, situation.policy.rules⟩
  user := { situation.user with username, institution := renumber situation.user.institution }
  entity := { situation.entity with
    institution := renumber situation.entity.institution, owner, supporters }

theorem resembles_disguise {registry : Registry} {renumber : InstitutionId → InstitutionId}
    {owner : Option UserId}
    (rows : ∀ role, situation.user.hasRole role = true →
      registry.find? situation.entity.entityType role =
        situation.policy.registry.find? situation.entity.entityType role)
    (distinct : Function.Injective renumber)
    (owned : owner = some situation.user.id ↔ situation.entity.owner = some situation.user.id)
    (username : String) (supporters : List UserId) :
    (situation.disguise registry username renumber owner supporters).Resembles situation where
  entityType := rfl
  roles := rfl
  rows := rows
  home := distinct.eq_iff
  owned := owned

namespace Resembles

variable (alike : first.Resembles second)

include alike

theorem permit (standing : Standing) :
    first.policy.registry.permit first.entity.entityType first.user.roles standing requested =
      second.policy.registry.permit second.entity.entityType second.user.roles standing
        requested := by
  rw [← alike.entityType, ← alike.roles]
  apply Registry.permit_congr
  intro role held
  rw [alike.rows role held, alike.entityType]

/-- Owners and supporters enter a decision only through the standing of the user. -/
theorem decidedAs (requested : Level)
    (firstFollows : first.policy.FollowsTiers first.entity.entityType)
    (secondFollows : second.policy.FollowsTiers second.entity.entityType)
    (owning : first.policy.sharesOwnership first.entity first.user = true ↔
      second.policy.sharesOwnership second.entity second.user = true) :
    first.DecidedAs second requested where
  permits := by
    have home : first.entity.isHomeOf first.user = second.entity.isHomeOf second.user := by
      rw [Bool.eq_iff_iff, Entity.isHomeOf_iff, Entity.isHomeOf_iff]
      exact alike.home
    have standing : first.policy.standing first.entity first.user =
        second.policy.standing second.entity second.user :=
      Standing.ext home (Bool.eq_iff_iff.mpr owning)
    rw [Situation.permits, Situation.permits, Policy.value_permits_eq_permit firstFollows,
      Policy.value_permits_eq_permit secondFollows, standing]
    exact alike.permit _
  permitsEverywhere := by
    rw [Situation.permitsEverywhere, Situation.permitsEverywhere,
      Policy.permitsEverywhere_eq_permit, Policy.permitsEverywhere_eq_permit]
    exact alike.permit _
  permitsAtHome := by
    rw [Situation.permitsAtHome, Situation.permitsAtHome, Policy.permitsAtHome_eq_permit,
      Policy.permitsAtHome_eq_permit]
    exact alike.permit _

theorem decidedAs_of_ruleFree (requested : Level)
    (firstFree : first.policy.RuleFree first.entity.entityType)
    (secondFree : second.policy.RuleFree second.entity.entityType) :
    first.DecidedAs second requested := by
  apply alike.decidedAs requested firstFree.followsTiers secondFree.followsTiers
  rw [Policy.sharesOwnership_iff, Policy.sharesOwnership_iff, firstFree.covers,
    secondFree.covers]
  simp only [Bool.false_eq_true, false_and, or_false]
  exact alike.owned

theorem decidedAs_of_supporterRule (requested : Level)
    (firstRuled : first.policy.UnderSupporterRule first.entity.entityType)
    (secondRuled : second.policy.UnderSupporterRule second.entity.entityType)
    (supported : first.user.id ∈ first.entity.supporters ↔
      second.user.id ∈ second.entity.supporters) :
    first.DecidedAs second requested := by
  apply alike.decidedAs requested firstRuled.followsTiers secondRuled.followsTiers
  rw [Policy.sharesOwnership_iff, Policy.sharesOwnership_iff, firstRuled.covers,
    secondRuled.covers]
  simp only [true_and]
  exact or_congr alike.owned supported

end Resembles

/-- Situations that resemble each other are decided alike, without a rule and, where the user
is a supporter in both or in neither, under the supporter rule.  So no disguise of a situation
changes a decision: not the rows that nobody asked for, nor the name of the user, the numbers
of institutions, a foreign owner or, without a rule, the supporters. -/
theorem decides_alike (first second : Situation) (requested : Level)
    (alike : first.Resembles second) :
    (first.policy.RuleFree first.entity.entityType →
      second.policy.RuleFree second.entity.entityType →
      first.DecidedAs second requested) ∧
    (first.policy.UnderSupporterRule first.entity.entityType →
      second.policy.UnderSupporterRule second.entity.entityType →
      (first.user.id ∈ first.entity.supporters ↔ second.user.id ∈ second.entity.supporters) →
      first.DecidedAs second requested) ∧
    ∀ registry username renumber owner supporters,
      first.policy.RuleFree first.entity.entityType →
      (∀ role, first.user.hasRole role = true →
        registry.find? first.entity.entityType role =
          first.policy.registry.find? first.entity.entityType role) →
      Function.Injective renumber →
      (owner = some first.user.id ↔ first.entity.owner = some first.user.id) →
      (first.disguise registry username renumber owner supporters).DecidedAs first
        requested := by
  refine ⟨alike.decidedAs_of_ruleFree requested, alike.decidedAs_of_supporterRule requested,
    ?_⟩
  intro registry username renumber owner supporters free rows distinct owned
  -- A disguise keeps the rules, so both sides are free of one for the type.
  have looksAlike := resembles_disguise rows distinct owned username supporters
  exact looksAlike.decidedAs_of_ruleFree requested free free

/-- Two supporters of exams of other institutions, one of which nobody owns.  The registries
share the row that counts and no other. -/
theorem decides_alike_supported_exams :
    let small := Registry.ofGrants [⟨.exam, .examSupporter, ⟨.none, .readOnly, .modify⟩⟩]
    let large := Registry.ofGrants [⟨.exam, .teacher, ⟨.write, .write, .write⟩⟩,
      ⟨.exam, .examSupporter, ⟨.none, .readOnly, .modify⟩⟩,
      ⟨.user, .examSupporter, ⟨.none, .none, .none⟩⟩]
    let first : Situation :=
      { policy := ⟨small, RuleSet.empty.assign .exam (.supportersOf small .exam)⟩
        user := ⟨⟨1⟩, "ada", ⟨1⟩, .ofList [.examSupporter]⟩
        entity := ⟨.exam, ⟨2⟩, some ⟨5⟩, [⟨1⟩]⟩ }
    let second : Situation :=
      { policy := ⟨large, RuleSet.empty.assign .exam (.supportersOf large .exam)⟩
        user := ⟨⟨2⟩, "bob", ⟨7⟩, .ofList [.examSupporter]⟩
        entity := ⟨.exam, ⟨9⟩, none, [⟨8⟩, ⟨2⟩]⟩ }
    first.Resembles second ∧ first.permits .modify = true ∧ second.permits .modify = true ∧
      first.permits .write = false ∧ second.permits .write = false := by
  intro small large first second
  have alike : first.Resembles second :=
    { entityType := rfl
      roles := rfl
      rows := by
        intro role held
        cases role with
        | examSupporter => rfl
        | sebServerAdmin | institutionalAdmin | examAdmin | teacher => contradiction
      home := by decide
      owned := by decide }
  have modify := (decides_alike first second .modify alike).2.1 rfl rfl (by decide)
  have write := (decides_alike first second .write alike).2.1 rfl rfl (by decide)
  have permitted : first.permits .modify = true := by decide
  have denied : first.permits .write = false := by decide
  exact ⟨alike, permitted, modify.permits ▸ permitted, denied, write.permits ▸ denied⟩

end Situation

end ExamGrants
