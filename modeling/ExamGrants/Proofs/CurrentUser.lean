import ExamGrants.Proofs.Filtering
import ExamGrants.Session

namespace ExamGrants

/-! Requests with and without a user.

Without a user every request ends in the missing user, also one about an empty list of
entities.  With a user none does.  What is then required, asked and selected rests on one
decision for each entity or type, and a denial says what was denied to whom.
-/

variable {entity : Entity} {entityType : EntityType} {requested : Level} {user : User}

theorem Policy.value_require (policy : Policy) (entity : Entity) (requested : Level)
    (user : User) :
    (policy.require entity requested user).value =
      if (policy.permits entity requested user).value then .ok entity
      else .error (.notPermitted entity.entityType requested user.id) := by
  rw [require, Logged.value_bind]
  split <;> rfl

theorem Policy.value_requireType (policy : Policy) (entityType : EntityType)
    (requested : Level) (user : User) :
    (policy.requireType entityType requested user).value =
      if policy.permitsEverywhere entityType requested user then .ok entityType
      else .error (.notPermitted entityType requested user.id) := by
  rw [requireType]
  split <;> rfl

namespace Access

variable {access : Access}

theorem asUser_of_user {α : Type} (signedIn : access.user? = some user)
    (request : User → Logged (Except Denial α)) : access.asUser request = request user := by
  simp only [asUser, signedIn]

theorem value_asUser_of_nobody {α : Type} (nobody : access.user? = none)
    (request : User → Logged (Except Denial α)) :
    (access.asUser request).value = .error .noUser := by
  simp only [asUser, nobody]

theorem value_answer_of_nobody (nobody : access.user? = none) (request : Request) :
    (access.answer request).value = .error .noUser := by
  cases request <;> simp only [answer, currentUser, permits, permitsEverywhere, permitsAtHome,
    requireRead, requireModify, requireWrite, require, requireType, filterFor, select,
    privileges, Logged.value_map, value_asUser_of_nobody nobody, Except.map]

section SignedIn

variable (signedIn : access.user? = some user)

include signedIn

theorem value_permits : (access.permits entity requested).value =
    .ok (access.policy.permits entity requested user).value := by
  rw [permits, asUser_of_user signedIn, Logged.value_map]

theorem value_permitsEverywhere : (access.permitsEverywhere entityType requested).value =
    .ok (access.policy.permitsEverywhere entityType requested user) := by
  rw [permitsEverywhere, asUser_of_user signedIn, Logged.value_pure]

theorem value_require : (access.require entity requested).value =
    if (access.policy.permits entity requested user).value then .ok entity
    else .error (.notPermitted entity.entityType requested user.id) := by
  rw [require, asUser_of_user signedIn, Policy.value_require]

theorem value_requireType : (access.requireType entityType requested).value =
    if access.policy.permitsEverywhere entityType requested user then .ok entityType
    else .error (.notPermitted entityType requested user.id) := by
  rw [requireType, asUser_of_user signedIn, Policy.value_requireType]

theorem value_select {α : Type} (entityOf : α → Entity) (items : List α) :
    (access.select entityType requested entityOf items).value =
      .ok (items.filter fun item =>
        (access.policy.permits (entityOf item) requested user).value) := by
  rw [select, asUser_of_user signedIn, Logged.value_map, Filter.value_select]
  simp only [Policy.value_accepts_filterFor]

/-- A request of a user can fail in no other way than by a denial to that user. -/
theorem notPermitted_of_answer {request : Request} {denial : Denial}
    (failed : (access.answer request).value = .error denial) :
    ∃ entityType requested, denial = .notPermitted entityType requested user.id := by
  have ofRequire : ∀ entity requested,
      (Except.map Answer.entity <$> access.require entity requested).value = .error denial →
        ∃ entityType requested, denial = .notPermitted entityType requested user.id := by
    intro entity requested failed
    rw [Logged.value_map, value_require signedIn] at failed
    split at failed
    · contradiction
    · cases failed
      exact ⟨_, _, rfl⟩
  cases request with
  | require entity requested => exact ofRequire entity requested failed
  | requireRead entity => exact ofRequire entity .readOnly failed
  | requireModify entity => exact ofRequire entity .modify failed
  | requireWrite entity => exact ofRequire entity .write failed
  | requireType entityType requested =>
      simp only [answer, Logged.value_map, value_requireType signedIn] at failed
      split at failed
      · contradiction
      · cases failed
        exact ⟨_, _, rfl⟩
  | permits | select =>
      simp only [answer, Logged.value_map, value_permits signedIn, value_select signedIn]
        at failed
      contradiction
  | currentUser | permitsEverywhere | permitsAtHome | filterFor | privileges =>
      simp only [answer, currentUser, permitsEverywhere, permitsAtHome, filterFor, privileges,
        asUser_of_user signedIn, Logged.value_map, Logged.value_pure] at failed
      contradiction

end SignedIn

/-- Nothing is answered, whatever is asked. -/
structure AsksForUser (access : Access) : Prop where
  answer : ∀ request, (access.answer request).value = .error .noUser
  select : ∀ {α : Type} (entityType : EntityType) (requested : Level) (entityOf : α → Entity)
    (items : List α), (access.select entityType requested entityOf items).value = .error .noUser

/-- The outcome is the thing itself where the decision is a permit, and else the denial. -/
structure Checks {α : Type} (outcome : Except Denial α) (decision : Except Denial Bool)
    (thing : α) (denial : Denial) : Prop where
  ok_iff : ∀ given, outcome = .ok given ↔ given = thing ∧ decision = .ok true
  denied : decision ≠ .ok true → outcome = .error denial

/-- Every request is answered for the user, and the answers agree with each other. -/
structure AnswersTo (access : Access) (user : User) : Prop where
  identified : ∀ request, (access.answer request).value ≠ .error .noUser
  require : ∀ entity requested,
    Checks (access.require entity requested).value (access.permits entity requested).value
      entity (.notPermitted entity.entityType requested user.id)
  requireType : ∀ entityType requested,
    Checks (access.requireType entityType requested).value
      (access.permitsEverywhere entityType requested).value
      entityType (.notPermitted entityType requested user.id)
  select : ∀ {α : Type} (entityType : EntityType) (requested : Level) (entityOf : α → Entity)
    (items : List α), (access.select entityType requested entityOf items).value =
      .ok (items.filter fun item => (access.require (entityOf item) requested).value.isOk)

theorem checks_ite {α : Type} (permitted : Bool) (thing : α) (denial : Denial) :
    Checks (if permitted then .ok thing else .error denial) (.ok permitted) thing denial := by
  cases permitted with
  | true => exact ⟨fun given => by simp [eq_comm], fun differs => absurd rfl differs⟩
  | false => exact ⟨fun given => by simp, fun _ => rfl⟩

theorem asksForUser_of_nobody (nobody : access.user? = none) : access.AsksForUser where
  answer := value_answer_of_nobody nobody
  select _ _ _ _ := value_asUser_of_nobody nobody _

theorem answersTo_of_user (signedIn : access.user? = some user) : access.AnswersTo user where
  identified := by
    intro request missing
    obtain ⟨_, _, denied⟩ := notPermitted_of_answer signedIn missing
    contradiction
  require := by
    intro entity requested
    rw [value_require signedIn, value_permits signedIn]
    exact checks_ite _ _ _
  requireType := by
    intro entityType requested
    rw [value_requireType signedIn, value_permitsEverywhere signedIn]
    exact checks_ite _ _ _
  select := by
    intro α entityType requested entityOf items
    have decided : ∀ item, (access.require (entityOf item) requested).value.isOk =
        (access.policy.permits (entityOf item) requested user).value := by
      intro item
      rw [value_require signedIn]
      cases (access.policy.permits (entityOf item) requested user).value <;> rfl
    rw [value_select signedIn]
    simp only [decided]

/-- Without a user nothing is answered.  With one everything is, by one decision for each
entity or type.  A missing user is a fault of the program and a denial is none, and the
problem made of either keeps its wording. -/
theorem answers_with_or_without_user (access : Access) :
    (access.user? = none → access.AsksForUser) ∧
    (∀ user, access.user? = some user → access.AnswersTo user) ∧
    (∀ entityType requested user,
      (Denial.notPermitted entityType requested user).isInternal = false ∧
        (Problem.denied (.notPermitted entityType requested user)).category = .forbidden) ∧
    (Denial.noUser.isInternal = true ∧ (Problem.denied .noUser).category = .internal) ∧
    ∀ denial, (Problem.denied denial).detail = denial.message := by
  refine ⟨asksForUser_of_nobody, fun _ => answersTo_of_user, ?_, ⟨rfl, rfl⟩, ?_⟩
  · intro entityType requested user
    exact ⟨rfl, rfl⟩
  · intro denial
    rfl

/-- Without a user even an empty list has no answer.  A teacher keeps the one of two exams
that is at home, whatever type the list is asked for, and is denied the other. -/
theorem answers_with_or_without_teacher :
    let policy : Policy :=
      ⟨Registry.ofGrants [⟨.exam, .teacher, ⟨.none, .readOnly, .none⟩⟩], .empty⟩
    let teacher : User := ⟨⟨1⟩, "ada", ⟨1⟩, .ofList [.teacher]⟩
    let home : Entity := { entityType := .exam, institution := ⟨1⟩ }
    let abroad : Entity := { entityType := .exam, institution := ⟨2⟩ }
    let signedOut : Access := ⟨policy, none⟩
    let signedIn : Access := ⟨policy, some teacher⟩
    (signedOut.user? = none ∧
      (signedOut.select .exam .readOnly id ([] : List Entity)).value = .error .noUser) ∧
    (signedIn.user? = some teacher ∧
      (signedIn.select .user .readOnly id [home, abroad]).value = .ok [home] ∧
      (signedIn.require abroad .readOnly).value =
        .error (.notPermitted .exam .readOnly teacher.id)) := by
  intro policy teacher home abroad signedOut signedIn
  have refuses := (answers_with_or_without_user signedOut).1 rfl
  have answers := (answers_with_or_without_user signedIn).2.1 teacher rfl
  have denied : (signedIn.permits abroad .readOnly).value ≠ .ok true := by
    intro permitted
    have decided : (policy.permits abroad .readOnly teacher).value = true :=
      Except.ok.inj permitted
    exact absurd decided (by decide)
  refine ⟨⟨rfl, refuses.select _ _ _ _⟩, rfl, ?_, (answers.require abroad _).denied denied⟩
  exact (answers.select _ _ _ _).trans (congrArg Except.ok (by decide))

end Access

end ExamGrants
