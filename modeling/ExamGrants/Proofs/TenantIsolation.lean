import Mathlib.Data.List.Nodup
import ExamGrants.Proofs.Standing
import ExamGrants.Proofs.WholeType

namespace ExamGrants

/-! The built-in configuration keeps institutions apart.

A user has no part in an entity of another institution that they neither own nor, where it is
an exam, support.  Only a base tier reaches such an entity, and in the built-in table only
the rows of server administrators have one.
-/

variable {entityType : EntityType} {entity : Entity} {user : User} {requested : Level}

/-- Neither the institution nor ownership nor, for an exam, support connects the user with the
entity. -/
structure Entity.ForeignTo (entity : Entity) (user : User) : Prop where
  abroad : entity.institution ≠ user.institution
  notOwned : entity.owner ≠ some user.id
  notSupported : entity.entityType = .exam → user.id ∉ entity.supporters

/-- Where no key is repeated every grant is the one that counts for its key. -/
theorem Registry.find?_ofGrants_eq_some_iff {grants : List Grant} {role : Role} {grant : Grant}
    (distinct : (grants.map Grant.key).Nodup) :
    (ofGrants grants).find? entityType role = some grant ↔
      grant ∈ grants ∧ grant.key = (entityType, role) := by
  have declared : ∀ {other}, (ofGrants grants).find? entityType role = some other →
      other ∈ grants := by
    intro other found
    rw [find?_ofGrants] at found
    exact List.mem_reverse.mp (List.mem_of_find?_eq_some found)
  constructor
  · intro found
    exact ⟨declared found, key_of_find? found⟩
  · intro ⟨member, same⟩
    cases found : (ofGrants grants).find? entityType role with
    | none =>
        rw [find?_ofGrants] at found
        have differs := List.find?_eq_none.mp found grant (List.mem_reverse.mpr member)
        exact absurd (beq_iff_eq.mpr same) differs
    | some other =>
        -- What is found has the key of the member, and no two members share a key.
        have sameKey : other.key = grant.key := (key_of_find? found).trans same.symm
        exact congrArg some (List.inj_on_of_nodup_map distinct (declared found) member sameKey)

namespace Builtin

theorem keys_nodup : (Table.builtin.grants.map Grant.key).Nodup := by decide +kernel

theorem base_eq_none {grant : Grant} (member : grant ∈ Table.builtin.grants)
    (lesser : grant.role ≠ .sebServerAdmin) : grant.tiers.base = .none := by
  have everyRow : ∀ grant ∈ Table.builtin.grants, grant.role ≠ .sebServerAdmin →
      grant.tiers.base = .none := by decide
  exact everyRow grant member lesser

theorem readOnly_le_base {grant : Grant} (member : grant ∈ Table.builtin.grants)
    (administrator : grant.role = .sebServerAdmin) : .readOnly ≤ grant.tiers.base := by
  have everyRow : ∀ grant ∈ Table.builtin.grants, grant.role = .sebServerAdmin →
      .readOnly ≤ grant.tiers.base := by decide
  exact everyRow grant member administrator

/-- Server administrators have a row for every type. -/
theorem administrator_exists (entityType : EntityType) :
    ∃ grant ∈ Table.builtin.grants, grant.key = (entityType, .sebServerAdmin) := by
  have everyType : ∀ entityType ∈ EntityType.all,
      ∃ grant ∈ Table.builtin.grants, grant.key = (entityType, .sebServerAdmin) := by decide
  exact everyType entityType (EntityType.mem_all entityType)

end Builtin

namespace Policy

/-- The policy of the built-in table, with the supporter rule for exams. -/
def builtin : Policy where
  registry := .ofGrants Table.builtin.grants
  rules := RuleSet.empty.assign .exam
    (.supportersOf (.ofGrants Table.builtin.grants) .exam)

theorem value_standard : standard.value = .ok builtin := rfl

theorem builtin_followsTiers (entityType : EntityType) : builtin.FollowsTiers entityType :=
  followsTiers_assign _ .exam entityType

theorem covers_builtin (entityType : EntityType) :
    builtin.rules.covers entityType = decide (entityType = .exam) := by
  cases entityType <;> rfl

theorem standing_of_foreign (foreign : entity.ForeignTo user) :
    builtin.standing entity user = {} := by
  have abroad : entity.isHomeOf user = false := by
    rw [← Bool.not_eq_true, Entity.isHomeOf_iff]
    exact foreign.abroad.symm
  have notOwning : builtin.sharesOwnership entity user = false := by
    rw [← Bool.not_eq_true, sharesOwnership_iff, covers_builtin, decide_eq_true_eq]
    intro owning
    rcases owning with owned | ⟨exam, supported⟩
    · exact foreign.notOwned owned
    · exact foreign.notSupported exam supported
  exact Standing.ext abroad notOwning

/-- What connects the user with an entity is all that a decision about it has beyond the
decision about its type. -/
theorem value_permits_of_foreign (foreign : entity.ForeignTo user) :
    (builtin.permits entity requested user).value =
      builtin.permitsEverywhere entity.entityType requested user := by
  rw [value_permits_eq_permit (builtin_followsTiers entity.entityType),
    standing_of_foreign foreign, permitsEverywhere_eq_permit]

theorem permitsEverywhere_builtin_iff {grant : Grant} (member : grant ∈ Table.builtin.grants)
    (administrator : grant.key = (entityType, .sebServerAdmin)) :
    builtin.permitsEverywhere entityType requested user = true ↔
      user.hasRole .sebServerAdmin = true ∧ requested ≠ .none ∧
        requested ≤ grant.tiers.base := by
  have counts : builtin.registry.find? entityType .sebServerAdmin = some grant :=
    (Registry.find?_ofGrants_eq_some_iff Builtin.keys_nodup).mpr ⟨member, administrator⟩
  constructor
  · intro permitted
    obtain ⟨role, other, held, found, base⟩ := someGrant_iff.mp permitted
    have reached : other.tiers.base.implies requested = true := base
    by_cases same : role = .sebServerAdmin
    · subst same
      have agree : other = grant := Option.some.inj (found.symm.trans counts)
      rw [agree] at reached
      exact ⟨held, Level.implies_iff.mp reached⟩
    · -- Another role has no base tier to reach the entity by.
      have declared := (Registry.find?_ofGrants_eq_some_iff Builtin.keys_nodup).mp found
      have lesser : other.role ≠ .sebServerAdmin := by
        rw [show other.role = role from congrArg Prod.snd declared.2]
        exact same
      rw [Builtin.base_eq_none declared.1 lesser] at reached
      exact absurd reached Bool.false_ne_true
  · intro ⟨held, asked⟩
    exact someGrant_iff.mpr ⟨.sebServerAdmin, grant, held, counts, Level.implies_iff.mpr asked⟩

/-- The built-in policy can be built.  On an entity of another institution it permits a user
what the one row of server administrators for the type allows everywhere, if they are one, and
nothing else.  Server administrators may view every entity. -/
theorem standard_isolates_tenants :
    ∃ policy, standard.value = .ok policy ∧
      (∀ entityType, ∃ grant ∈ Table.builtin.grants,
        grant.key = (entityType, .sebServerAdmin) ∧
        (∀ other ∈ Table.builtin.grants, other.key = grant.key → other = grant) ∧
        ∀ entity user requested, entity.entityType = entityType → entity.ForeignTo user →
          ((policy.permits entity requested user).value = true ↔
            user.hasRole .sebServerAdmin = true ∧ requested ≠ .none ∧
              requested ≤ grant.tiers.base)) ∧
      (∀ entity user requested, entity.ForeignTo user → user.hasRole .sebServerAdmin = false →
        (policy.permits entity requested user).value = false) ∧
      ∀ entity user, user.hasRole .sebServerAdmin = true →
        (policy.permits entity .readOnly user).value = true := by
  refine ⟨builtin, value_standard, ?_, ?_, ?_⟩
  · intro entityType
    obtain ⟨grant, member, administrator⟩ := Builtin.administrator_exists entityType
    refine ⟨grant, member, administrator, ?_, ?_⟩
    · intro other otherMember same
      exact List.inj_on_of_nodup_map Builtin.keys_nodup otherMember member same
    · intro entity user requested onType foreign
      rw [value_permits_of_foreign foreign, onType]
      exact permitsEverywhere_builtin_iff member administrator
  · intro entity user requested foreign lesser
    obtain ⟨grant, member, administrator⟩ := Builtin.administrator_exists entity.entityType
    rw [value_permits_of_foreign foreign, ← Bool.not_eq_true,
      permitsEverywhere_builtin_iff member administrator, lesser]
    intro permitted
    exact absurd permitted.1 Bool.false_ne_true
  · intro entity user held
    obtain ⟨grant, member, administrator⟩ := Builtin.administrator_exists entity.entityType
    have viewable := Builtin.readOnly_le_base member (congrArg Prod.snd administrator)
    apply value_permits_of_permitsEverywhere (builtin_followsTiers entity.entityType)
    exact (permitsEverywhere_builtin_iff member administrator).mpr ⟨held, by decide, viewable⟩

/-- All roles but one do not open an exam of another institution, though each of them may do
something with exams.  The remaining one opens it for viewing and not for editing. -/
theorem standard_isolates_foreign_exam :
    let lesser : User :=
      ⟨⟨1⟩, "ada", ⟨1⟩, .ofList [.institutionalAdmin, .examAdmin, .examSupporter, .teacher]⟩
    let administrator : User := ⟨⟨1⟩, "ada", ⟨1⟩, .ofList [.sebServerAdmin, .examAdmin]⟩
    let exam : Entity := ⟨.exam, ⟨2⟩, some ⟨3⟩, [⟨4⟩]⟩
    exam.ForeignTo lesser ∧ exam.ForeignTo administrator ∧
      ∃ policy, standard.value = .ok policy ∧
        (policy.permits exam .readOnly lesser).value = false ∧
        (policy.permits exam .readOnly administrator).value = true ∧
        (policy.permits exam .modify administrator).value = false := by
  intro lesser administrator exam
  have foreign : exam.ForeignTo lesser := ⟨by decide, by decide, by decide⟩
  have foreignToo : exam.ForeignTo administrator := ⟨by decide, by decide, by decide⟩
  obtain ⟨policy, built, isolated, denied, viewable⟩ := standard_isolates_tenants
  have notEdited : (policy.permits exam .modify administrator).value = false := by
    obtain ⟨grant, _, key, unique, decides⟩ := isolated .exam
    have row : ⟨.exam, .sebServerAdmin, ⟨.readOnly, .none, .none⟩⟩ = grant :=
      unique _ (by decide) key.symm
    rw [← Bool.not_eq_true, decides exam administrator .modify rfl foreignToo, ← row]
    decide
  exact ⟨foreign, foreignToo, policy, built, denied exam lesser .readOnly foreign (by decide),
    viewable exam administrator (by decide), notEdited⟩

end Policy

end ExamGrants
