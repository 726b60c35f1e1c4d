import ExamGrants.Policy.Filter
import ExamGrants.Proofs.RegisteredRows
import ExamGrants.Proofs.SupporterRule

namespace ExamGrants

/-! Permits are recorded with the role that decided.

The tiers are asked role by role and the supporter rule row by row.  Both go in the order in
which roles are declared and stop at the first one that reaches the entity
(`Policy.Decides`), which is the one role that the entry for the permit names.
-/

variable {policy : Policy} {entity : Entity} {user : User} {requested : Level} {role : Role}
  {grant : Grant}

theorem Registry.mem_grantsOf_iff_find? {registry : Registry} {entityType : EntityType} :
    grant ∈ registry.grantsOf entityType ↔
      registry.find? entityType grant.role = some grant := by
  rw [mem_grantsOf, find?_eq_some_iff_mem, Grant.key, Prod.mk.injEq, and_iff_left rfl]

/-- The role that an entry about a permit names. -/
def Event.permittingRole? : Event → Option Role
  | .permitted _ role _ _ _ => some role
  | _ => none

/-- The entry reads as a permit by the role, and speaks of supporters where there is a mark. -/
structure Event.WordsPermit (event : Event) (entityType : EntityType) (role : Role)
    (requested : Level) (user : UserId) (mark : Option Bool) : Prop where
  message : event.message = "grant permitted by role"
  severity : event.severity = .debug
  fields : event.fields = [("entity_type", entityType.name), ("role", role.name),
    ("requested", requested.name), ("user_id", user.toText)] ++
      mark.toList.map fun supports => ("supporter", if supports then "true" else "false")
  distinct : (event.fields.map Prod.fst).Nodup

theorem Event.wordsPermit_permitted (entityType : EntityType) (role : Role) (requested : Level)
    (user : UserId) (mark : Option Bool) :
    (permitted entityType role requested user mark).WordsPermit entityType role requested user
      mark where
  message := rfl
  severity := rfl
  fields := by cases mark <;> rfl
  distinct := fields_nodup _

theorem Rule.permits_supporters (grants : List Grant) (entity : Entity) (user : User)
    (requested : Level) :
    (supporters grants).permits entity user requested =
      match decidingGrant? grants entity user requested with
      | some grant => ⟨true, [.permitted grant.entityType grant.role requested user.id
          (some (entity.isSupportedBy user))]⟩
      | none => ⟨false, []⟩ := by
  rw [permits, judge]
  cases decidingGrant? grants entity user requested <;> rfl

namespace Policy

/-- The registered grant of the role permits the request by a tier, or under a rule by the
owner tier that is shared with supporters. -/
def Reaches (policy : Policy) (entity : Entity) (user : User) (requested : Level)
    (role : Role) : Prop :=
  ∃ grant, policy.registry.find? entity.entityType role = some grant ∧
    (grant.permits entity user requested = true ∨
      (policy.rules.covers entity.entityType = true ∧ user.id ∈ entity.supporters ∧
        grant.tiers.owner.implies requested = true))

/-- The first role in declaration order that the user holds and that reaches the entity. -/
structure Decides (policy : Policy) (entity : Entity) (user : User) (requested : Level)
    (role : Role) : Prop where
  held : user.hasRole role = true
  reaches : policy.Reaches entity user requested role
  first : ∀ earlier, Named.position earlier < Named.position role →
    user.hasRole earlier = true → ¬ policy.Reaches entity user requested earlier

/-- What an entry about a permit says of supporters, where it says anything. -/
def supporterMark (policy : Policy) (entity : Entity) (user : User) : Option Bool :=
  if policy.rules.covers entity.entityType then some (decide (user.id ∈ entity.supporters))
  else none

theorem Decides.unique {other : Role} (decides : policy.Decides entity user requested role)
    (decidesToo : policy.Decides entity user requested other) : role = other := by
  apply Named.position_injective
  rcases Nat.lt_trichotomy (Named.position role) (Named.position other) with less | same | more
  · exact absurd decides.reaches (decidesToo.first role less decides.held)
  · exact same
  · exact absurd decidesToo.reaches (decides.first other more decidesToo.held)

theorem reaches_iff_of_no_rule (free : policy.rules.rule? entity.entityType = none) :
    policy.Reaches entity user requested role ↔
      ((policy.registry.find? entity.entityType role).any fun grant =>
        grant.permits entity user requested) = true := by
  simp [Reaches, RuleSet.covers, free, Option.any_eq_true]

theorem decidingRole?_eq_some_iff (free : policy.rules.rule? entity.entityType = none) :
    policy.decidingRole? entity user requested = some role ↔
      policy.Decides entity user requested role := by
  rw [decidingRole?, find?_eq_some_iff_earliest user.roles.toList_increasing]
  simp only [← Bool.not_eq_true, ← reaches_iff_of_no_rule free, RoleSet.mem_toList]
  constructor
  · rintro ⟨held, reaches, first⟩
    exact ⟨held, reaches, fun earlier less heldToo => first earlier heldToo less⟩
  · rintro ⟨held, reaches, first⟩
    exact ⟨held, reaches, fun earlier heldToo less => first earlier less heldToo⟩

section UnderRule

variable (ruled : policy.rules.rule? entity.entityType =
  some (.supportersOf policy.registry entity.entityType))

include ruled

theorem reaches_iff_of_rule
    (found : policy.registry.find? entity.entityType role = some grant) :
    policy.Reaches entity user requested role ↔
      Rule.permitsSupporter grant entity user requested = true := by
  simp [Reaches, RuleSet.covers, ruled, found, Rule.permitsSupporter, Entity.isSupportedBy]

theorem decidingGrant?_eq_some_iff :
    Rule.decidingGrant? (policy.registry.grantsOf entity.entityType) entity user requested =
        some grant ↔
      policy.registry.find? entity.entityType grant.role = some grant ∧
        policy.Decides entity user requested grant.role := by
  have increasing := policy.registry.grantsOf_increasing entity.entityType
  rw [Rule.decidingGrant?, find?_eq_some_iff_earliest (increasing.filter _)]
  simp only [List.mem_filter, Registry.mem_grantsOf_iff_find?]
  constructor
  · rintro ⟨⟨found, held⟩, permitted, first⟩
    refine ⟨found, held, (reaches_iff_of_rule ruled found).mpr permitted, ?_⟩
    intro earlier less heldToo reached
    have reachedToo := reached
    obtain ⟨other, foundOther, _⟩ := reachedToo
    obtain rfl : other.role = earlier := congrArg Prod.snd (Registry.key_of_find? foundOther)
    have failing := first other ⟨foundOther, heldToo⟩ less
    rw [(reaches_iff_of_rule ruled foundOther).mp reached] at failing
    contradiction
  · rintro ⟨found, held, reaches, first⟩
    refine ⟨⟨found, held⟩, (reaches_iff_of_rule ruled found).mp reaches, ?_⟩
    rintro other ⟨foundOther, heldToo⟩ less
    rw [← Bool.not_eq_true, ← reaches_iff_of_rule ruled foundOther]
    exact first other.role less heldToo

end UnderRule

section FollowingTiers

variable (follows : policy.FollowsTiers entity.entityType)

include follows

theorem permits_of_decides (decides : policy.Decides entity user requested role) :
    policy.permits entity requested user =
      ⟨true, [.permitted entity.entityType role requested user.id
        (policy.supporterMark entity user)]⟩ := by
  cases ruled : policy.rules.rule? entity.entityType with
  | none =>
      have decided := (decidingRole?_eq_some_iff ruled).mpr decides
      have unmarked : policy.supporterMark entity user = none := by
        simp [supporterMark, RuleSet.covers, ruled]
      simp only [permits, ruled, permitsByTiers, decided, unmarked]
  | some rule =>
      rw [follows rule ruled] at ruled
      obtain ⟨grant, found, _⟩ := decides.reaches
      have key := Registry.key_of_find? found
      obtain rfl : grant.role = role := congrArg Prod.snd key
      have ofType : grant.entityType = entity.entityType := congrArg Prod.fst key
      have decided := (decidingGrant?_eq_some_iff ruled).mpr ⟨found, decides⟩
      have marked : policy.supporterMark entity user = some (entity.isSupportedBy user) := by
        simp [supporterMark, RuleSet.covers, ruled, Entity.isSupportedBy]
      simp only [permits, ruled, Rule.supportersOf, Rule.permits_supporters, decided, ofType,
        marked]

theorem permits_of_undecided (undecided : ∀ role, ¬ policy.Decides entity user requested role) :
    policy.permits entity requested user = ⟨false, []⟩ := by
  cases ruled : policy.rules.rule? entity.entityType with
  | none =>
      have missing : policy.decidingRole? entity user requested = none :=
        Option.eq_none_iff_forall_ne_some.mpr fun role decided =>
          undecided role ((decidingRole?_eq_some_iff ruled).mp decided)
      simp only [permits, ruled, permitsByTiers, missing]
      rfl
  | some rule =>
      rw [follows rule ruled] at ruled
      have missing : Rule.decidingGrant? (policy.registry.grantsOf entity.entityType) entity user
          requested = none :=
        Option.eq_none_iff_forall_ne_some.mpr fun grant decided =>
          undecided grant.role ((decidingGrant?_eq_some_iff ruled).mp decided).2
      simp only [permits, ruled, Rule.supportersOf, Rule.permits_supporters, missing]

end FollowingTiers

theorem decides_iff_of_not_supported {other : Policy} (same : other.registry = policy.registry)
    (alone : user.id ∉ entity.supporters) :
    other.Decides entity user requested role ↔ policy.Decides entity user requested role := by
  have reaches : other.Reaches entity user requested = policy.Reaches entity user requested := by
    funext role
    simp only [Reaches, same, alone, false_and, and_false, or_false]
  constructor
  · rintro ⟨held, reached, first⟩
    rw [reaches] at reached first
    exact ⟨held, reached, first⟩
  · rintro ⟨held, reached, first⟩
    rw [← reaches] at reached first
    exact ⟨held, reached, first⟩

/-- With and without the supporter rule the same role is named for a user who is no
supporter. -/
theorem permittingRoles_eq_of_not_supported {other : Policy}
    (same : other.registry = policy.registry)
    (follows : policy.FollowsTiers entity.entityType)
    (followsToo : other.FollowsTiers entity.entityType)
    (alone : user.id ∉ entity.supporters) :
    (other.permits entity requested user).events.filterMap Event.permittingRole? =
      (policy.permits entity requested user).events.filterMap Event.permittingRole? := by
  by_cases decided : ∃ role, policy.Decides entity user requested role
  · obtain ⟨role, decides⟩ := decided
    have decidesToo := (decides_iff_of_not_supported same alone).mpr decides
    rw [permits_of_decides follows decides, permits_of_decides followsToo decidesToo]
    rfl
  · have undecided := not_exists.mp decided
    have undecidedToo : ∀ role, ¬ other.Decides entity user requested role :=
      fun role decides => undecided role ((decides_iff_of_not_supported same alone).mp decides)
    rw [permits_of_undecided follows undecided, permits_of_undecided followsToo undecidedToo]

/-- A filter that has looked up grants itself records nothing, and otherwise records what the
policy does. -/
theorem events_accepts_filterFor (policy : Policy) (prepared : EntityType) (requested : Level)
    (user : User) (entity : Entity) :
    ((policy.filterFor prepared requested user).accepts entity).events =
      if entity.entityType = prepared ∧ policy.rules.rule? entity.entityType = none then []
      else (policy.permits entity requested user).events := by
  by_cases own : entity.entityType = prepared
  · subst own
    cases ruled : policy.rules.rule? entity.entityType with
    | none => simp [Filter.accepts, filterFor, ruled]
    | some rule => simp [Filter.accepts, filterFor, permits, ruled]
  · simp [Filter.accepts, filterFor, own]

/-- Where a type follows its tiers a permit is recorded by one entry, which shows the role that
decided, and a denial by none.  Whether the supporter rule is in place makes no difference to
the role of a user who is no supporter.  Filters record what single decisions record, except
that on entities of their own type without a rule they record nothing. -/
theorem permits_records_decidingRole (policy : Policy) (entity : Entity) (requested : Level)
    (user : User) :
    (policy.FollowsTiers entity.entityType →
      ((policy.permits entity requested user).value = true →
        ∃ role, policy.Decides entity user requested role ∧
          (∀ other, policy.Decides entity user requested other → other = role) ∧
          (policy.permits entity requested user).events =
            [.permitted entity.entityType role requested user.id
              (policy.supporterMark entity user)]) ∧
      ((policy.permits entity requested user).value = false →
        (policy.permits entity requested user).events = [] ∧
          ∀ role, ¬ policy.Decides entity user requested role)) ∧
    (∀ entityType role requested id mark,
      (Event.permitted entityType role requested id mark).WordsPermit entityType role requested
        id mark) ∧
    (∀ other : Policy, other.registry = policy.registry →
      policy.FollowsTiers entity.entityType → other.FollowsTiers entity.entityType →
      user.id ∉ entity.supporters →
      (other.permits entity requested user).events.filterMap Event.permittingRole? =
        (policy.permits entity requested user).events.filterMap Event.permittingRole?) ∧
    ∀ prepared, ((policy.filterFor prepared requested user).accepts entity).events =
      if entity.entityType = prepared ∧ policy.rules.rule? entity.entityType = none then []
      else (policy.permits entity requested user).events := by
  refine ⟨fun follows => ?_, Event.wordsPermit_permitted,
    fun _ => permittingRoles_eq_of_not_supported,
    fun prepared => policy.events_accepts_filterFor prepared requested user entity⟩
  by_cases decided : ∃ role, policy.Decides entity user requested role
  · obtain ⟨role, decides⟩ := decided
    rw [permits_of_decides follows decides]
    exact ⟨fun _ => ⟨role, decides, fun _ decidesToo => decidesToo.unique decides, rfl⟩, nofun⟩
  · have undecided := not_exists.mp decided
    rw [permits_of_undecided follows undecided]
    exact ⟨nofun, fun _ => ⟨rfl, undecided⟩⟩

/-- A teacher who supports exams: as a supporter the earlier of their roles decides, by its
owner tier, and otherwise that of the teacher, with or without the rule. -/
theorem permits_records_decidingRole_teacher :
    let registry := Registry.ofGrants [⟨.exam, .teacher, ⟨.modify, .none, .none⟩⟩,
      ⟨.exam, .examSupporter, ⟨.none, .none, .write⟩⟩,
      ⟨.exam, .examAdmin, ⟨.write, .none, .none⟩⟩]
    let ruled : Policy := ⟨registry, RuleSet.empty.assign .exam (.supportersOf registry .exam)⟩
    let free : Policy := ⟨registry, .empty⟩
    let ada : User := ⟨⟨1⟩, "ada", ⟨1⟩, .ofList [.teacher, .examSupporter]⟩
    let shared : Entity := ⟨.exam, ⟨2⟩, none, [⟨1⟩]⟩
    let foreign : Entity := ⟨.exam, ⟨2⟩, none, [⟨2⟩]⟩
    (ruled.FollowsTiers .exam ∧ free.FollowsTiers .exam ∧ ada.id ∉ foreign.supporters) ∧
    ((ruled.permits shared .modify ada).value = true ∧
      ruled.Decides shared ada .modify .examSupporter ∧
      (ruled.permits shared .modify ada).events =
        [.permitted .exam .examSupporter .modify ⟨1⟩ (some true)] ∧
      (ruled.permits shared .modify ada).events.map Event.fields =
        [[("entity_type", "exam"), ("role", "exam_supporter"), ("requested", "modify"),
          ("user_id", "00000000-0000-0000-0000-000000000001"), ("supporter", "true")]]) ∧
    ((ruled.permits foreign .write ada).value = false ∧
      (ruled.permits foreign .write ada).events = []) ∧
    (free.permits foreign .modify ada).events.filterMap Event.permittingRole? =
      (ruled.permits foreign .modify ada).events.filterMap Event.permittingRole? := by
  intro registry ruled free ada shared foreign
  have follows : ruled.FollowsTiers .exam := fun rule found => (Option.some.inj found).symm
  have followsToo : free.FollowsTiers .exam := nofun
  have alone : ada.id ∉ foreign.supporters := by decide
  have permitted : (ruled.permits shared .modify ada).value = true := by decide
  have denied : (ruled.permits foreign .write ada).value = false := by decide
  obtain ⟨role, decides, _, recorded⟩ :=
    (permits_records_decidingRole ruled shared .modify ada).1 follows |>.1 permitted
  obtain ⟨unrecorded, _⟩ :=
    (permits_records_decidingRole ruled foreign .write ada).1 follows |>.2 denied
  obtain ⟨_, _, sameRole, _⟩ := permits_records_decidingRole ruled foreign .modify ada
  have entry : (ruled.permits shared .modify ada).events =
      [.permitted .exam .examSupporter .modify ⟨1⟩ (some true)] := by decide
  obtain rfl : role = .examSupporter := by
    rw [recorded] at entry
    cases entry
    rfl
  refine ⟨⟨follows, followsToo, alone⟩, ⟨permitted, decides, entry, ?_⟩, ⟨denied, unrecorded⟩,
    sameRole free rfl follows followsToo alone⟩
  rw [entry]
  decide +kernel

end Policy

end ExamGrants
