import Mathlib.Data.List.Forall2
import ExamGrants.Proofs.CurrentUser
import ExamGrants.Proofs.UserIdText

namespace ExamGrants

/-! The audit trail of whole runs.

Requests are answered one after the other, each for whoever makes it.  What is recorded above
the level of debugging then matches what happened: a warning for each denial, an error for
each request that nobody made, and an error for each time a custom rule was consulted and
failed or broke off.  One request is settled first (`audits_answer`), and a run is the audits
of its requests in a row.
-/

variable {entity : Entity} {user : User} {requested : Level} {policy : Policy}

/-- A request and whoever makes it. -/
structure Asked where
  user? : Option User
  request : Request

namespace Request

/-- What is decided about single entities to answer the request, in order. -/
def subjects : Request → List (Entity × Level)
  | .permits entity requested | .require entity requested => [(entity, requested)]
  | .requireRead entity => [(entity, .readOnly)]
  | .requireModify entity => [(entity, .modify)]
  | .requireWrite entity => [(entity, .write)]
  | .select _ requested entities => entities.map fun entity => (entity, requested)
  | .currentUser | .permitsEverywhere .. | .permitsAtHome .. | .requireType .. | .filterFor ..
  | .privileges => []

/-- Whether the request fails where it is not permitted, and is not merely answered. -/
def isCheck : Request → Bool
  | .require .. | .requireRead _ | .requireModify _ | .requireWrite _ | .requireType .. => true
  | .currentUser | .permits .. | .permitsEverywhere .. | .permitsAtHome .. | .filterFor ..
  | .select .. | .privileges => false

end Request

/-- A rule as it is asked about one entity. -/
structure Consultation where
  rule : Rule
  entity : Entity
  user : User
  requested : Level

namespace Consultation

def verdict (consultation : Consultation) : Verdict :=
  (consultation.rule.judge consultation.entity consultation.user consultation.requested).value

/-- The entry for a consultation that came to no answer. -/
def fault? (consultation : Consultation) : Option Event :=
  match consultation.verdict with
  | .permit | .deny => none
  | .failed problem => some (.ruleFailed consultation.entity.entityType consultation.user.id
      consultation.requested problem)
  | .panicked => some (.rulePanicked consultation.entity.entityType consultation.user.id
      consultation.requested)

end Consultation

namespace Policy

def answer (policy : Policy) (asked : Asked) : Logged (Except Denial Answer) :=
  Access.answer ⟨policy, asked.user?⟩ asked.request

/-- The answers to requests made one after the other, and all that is recorded meanwhile. -/
def serve (policy : Policy) : List Asked → Logged (List (Except Denial Answer))
  | [] => pure []
  | asked :: rest => do
      let outcome ← policy.answer asked
      let others ← policy.serve rest
      pure (outcome :: others)

/-- The rule of the entity's type, where it has one, is asked about the entity. -/
def consultation? (policy : Policy) (entity : Entity) (requested : Level) (user : User) :
    Option Consultation :=
  (policy.rules.rule? entity.entityType).map fun rule => ⟨rule, entity, user, requested⟩

/-- The rules asked to answer a request; without a user none is. -/
def consultations (policy : Policy) (asked : Asked) : List Consultation :=
  match asked.user? with
  | none => []
  | some user => asked.request.subjects.filterMap fun (entity, requested) =>
      policy.consultation? entity requested user

def isDenied : Except Denial Answer → Bool
  | .error (.notPermitted ..) => true
  | _ => false

def isUnidentified : Except Denial Answer → Bool
  | .error .noUser => true
  | _ => false

/-- The entry tells of a request that failed, and whose it was. -/
inductive Reports (policy : Policy) : Asked → Event → Prop where
  | denied {user : User} {request : Request} {entityType : EntityType} {requested : Level}
      {id : UserId}
      (failed : (policy.answer ⟨some user, request⟩).value =
        .error (.notPermitted entityType requested id)) :
      Reports policy ⟨some user, request⟩ (.denied entityType requested id user.username)
  | noUser {request : Request}
      (failed : (policy.answer ⟨none, request⟩).value = .error .noUser) :
      Reports policy ⟨none, request⟩ .noUser

end Policy

/-- Errors other than that of the missing user. -/
def Event.isRuleFault (event : Event) : Bool :=
  event.severity == .error && event != .noUser

/-- The warnings, the missing users and the faults of rules among the entries are, in order,
those of the requests. -/
structure Policy.Audits (policy : Policy) (session : List Asked) (events : List Event) :
    Prop where
  denials : List.Forall₂ policy.Reports
    (session.filter fun asked => isDenied (policy.answer asked).value)
    (events.filter (·.severity == .warn))
  missing : List.Forall₂ policy.Reports
    (session.filter fun asked => isUnidentified (policy.answer asked).value)
    (events.filter (· == .noUser))
  faults : events.filter Event.isRuleFault =
    (session.flatMap policy.consultations).filterMap Consultation.fault?

/-! What a request records besides debugging. -/

/-- The entries above the level of debugging. -/
def Event.notable (events : List Event) : List Event :=
  events.filter (·.severity != .debug)

namespace Event

theorem notable_append (first second : List Event) :
    notable (first ++ second) = notable first ++ notable second :=
  List.filter_append first second

theorem notable_flatMap {α : Type} (items : List α) (events : α → List Event) :
    notable (items.flatMap events) = items.flatMap fun item => notable (events item) :=
  List.filter_flatMap

/-- A test that no debugging entry passes finds all it looks for among the notable ones. -/
theorem filter_notable {test : Event → Bool}
    (aside : ∀ event, event.severity = .debug → test event = false) (events : List Event) :
    (notable events).filter test = events.filter test := by
  rw [notable, List.filter_filter]
  apply List.filter_congr
  intro event _
  cases passed : test event with
  | false => rfl
  | true =>
      have above : event.severity ≠ .debug := by
        intro debugging
        rw [aside event debugging] at passed
        contradiction
      simp [above]

theorem severity_aside (event : Event) (debugging : event.severity = .debug) :
    (event.severity == .warn) = false := by
  rw [debugging]
  rfl

theorem noUser_aside (event : Event) (debugging : event.severity = .debug) :
    (event == .noUser) = false := by
  apply beq_false_of_ne
  intro same
  rw [same] at debugging
  contradiction

theorem isRuleFault_aside (event : Event) (debugging : event.severity = .debug) :
    event.isRuleFault = false := by
  rw [isRuleFault, debugging]
  rfl

theorem severity_of_isRuleFault (event : Event) (faulty : event.isRuleFault = true) :
    (event.severity == .warn) = false := by
  have error := eq_of_beq (Bool.and_eq_true_iff.mp faulty).1
  rw [error]
  rfl

theorem ne_noUser_of_isRuleFault (event : Event) (faulty : event.isRuleFault = true) :
    (event == .noUser) = false :=
  beq_false_of_ne (bne_iff_ne.mp (Bool.and_eq_true_iff.mp faulty).2)

end Event

theorem Consultation.fault?_isRuleFault {consultation : Consultation} {event : Event}
    (faulty : consultation.fault? = some event) : event.isRuleFault = true := by
  rw [fault?] at faulty
  cases judged : consultation.verdict <;> rw [judged] at faulty <;> cases faulty <;> rfl

theorem Consultation.filter_isRuleFault_faults (consultations : List Consultation) :
    (consultations.filterMap fault?).filter Event.isRuleFault =
      consultations.filterMap fault? := by
  apply List.filter_eq_self.mpr
  intro event member
  obtain ⟨consultation, _, faulty⟩ := List.mem_filterMap.mp member
  exact fault?_isRuleFault faulty

theorem Consultation.filter_faults_eq_nil {test : Event → Bool}
    (faultless : ∀ event : Event, event.isRuleFault = true → test event = false)
    (consultations : List Consultation) :
    (consultations.filterMap fault?).filter test = [] := by
  apply List.filter_eq_nil_iff.mpr
  intro event member
  obtain ⟨consultation, _, faulty⟩ := List.mem_filterMap.mp member
  rw [faultless event (fault?_isRuleFault faulty)]
  exact Bool.false_ne_true

theorem Consultation.notable_fault? (consultation : Consultation) :
    Event.notable consultation.fault?.toList = consultation.fault?.toList := by
  rw [fault?]
  cases consultation.verdict <;> rfl

theorem Rule.notable_judge (rule : Rule) (entity : Entity) (user : User) (requested : Level) :
    Event.notable (rule.judge entity user requested).events = [] := by
  cases rule with
  | custom verdict => rfl
  | supporters grants =>
      rw [judge]
      cases decidingGrant? grants entity user requested <;> rfl

theorem Rule.events_permits (rule : Rule) (entity : Entity) (user : User) (requested : Level) :
    (rule.permits entity user requested).events =
      (rule.judge entity user requested).events ++
        (Consultation.mk rule entity user requested).fault?.toList := by
  rw [permits, Logged.events_bind, Consultation.fault?, Consultation.verdict]
  cases (rule.judge entity user requested).value <;> rfl

theorem Rule.notable_permits (rule : Rule) (entity : Entity) (user : User)
    (requested : Level) :
    Event.notable (rule.permits entity user requested).events =
      (Consultation.mk rule entity user requested).fault?.toList := by
  rw [events_permits, Event.notable_append, notable_judge, Consultation.notable_fault?,
    List.nil_append]

namespace Policy

/-- A decision records a fault where the rule that was consulted has one. -/
theorem notable_permits (policy : Policy) (entity : Entity) (requested : Level) (user : User) :
    Event.notable (policy.permits entity requested user).events =
      ((policy.consultation? entity requested user).bind Consultation.fault?).toList := by
  rw [permits, consultation?]
  cases policy.rules.rule? entity.entityType with
  | some rule => exact rule.notable_permits entity user requested
  | none =>
      simp only [permitsByTiers]
      cases policy.decidingRole? entity user requested <;> rfl

theorem notable_accepts (policy : Policy) (prepared : EntityType) (entity : Entity)
    (requested : Level) (user : User) :
    Event.notable ((policy.filterFor prepared requested user).accepts entity).events =
      ((policy.consultation? entity requested user).bind Consultation.fault?).toList := by
  by_cases own : entity.entityType = prepared
  · subst own
    simp only [Filter.accepts, filterFor, if_true, consultation?]
    cases policy.rules.rule? entity.entityType with
    | some rule => exact rule.notable_permits entity user requested
    | none => rfl
  · simp only [Filter.accepts, filterFor, own, if_false]
    exact policy.notable_permits entity requested user

theorem notable_select {α : Type} (policy : Policy) (prepared : EntityType)
    (requested : Level) (user : User) (entityOf : α → Entity) (items : List α) :
    Event.notable ((policy.filterFor prepared requested user).select entityOf items).events =
      ((items.map entityOf).filterMap fun entity =>
        policy.consultation? entity requested user).filterMap Consultation.fault? := by
  rw [Filter.select, Logged.events_filter, Event.notable_flatMap, List.filterMap_filterMap,
    List.filterMap_map, List.filterMap_eq_flatMap_toList]
  simp only [notable_accepts, Function.comp_apply]

theorem notable_require (policy : Policy) (entity : Entity) (requested : Level) (user : User) :
    Event.notable (policy.require entity requested user).events =
      ((policy.consultation? entity requested user).bind Consultation.fault?).toList ++
        if (policy.permits entity requested user).value then []
        else [.denied entity.entityType requested user.id user.username] := by
  rw [require, Logged.events_bind, Event.notable_append, notable_permits]
  cases (policy.permits entity requested user).value <;> rfl

/-- The entry for the denial of a request of the user. -/
def closing (user : User) : Except Denial Answer → List Event
  | .error (.notPermitted entityType requested id) =>
      [.denied entityType requested id user.username]
  | _ => []

theorem faults_of_subject (policy : Policy) (entity : Entity) (requested : Level)
    (user : User) :
    ([(entity, requested)].filterMap fun (entity, requested) =>
        policy.consultation? entity requested user).filterMap Consultation.fault? =
      ((policy.consultation? entity requested user).bind Consultation.fault?).toList := by
  rw [List.filterMap_filterMap, List.filterMap_eq_flatMap_toList, List.flatMap_singleton]

theorem notable_answer_require (policy : Policy) (entity : Entity) (requested : Level)
    (user : User) :
    Event.notable (policy.require entity requested user).events =
      ([(entity, requested)].filterMap fun (entity, requested) =>
          policy.consultation? entity requested user).filterMap Consultation.fault? ++
        closing user ((policy.require entity requested user).value.map Answer.entity) := by
  rw [notable_require, faults_of_subject, value_require]
  cases (policy.permits entity requested user).value <;> rfl

/-- A request of a user records the faults of the rules consulted for it, and then its denial
where it ends in one. -/
theorem notable_answer_of_user (policy : Policy) (user : User) (request : Request) :
    Event.notable (policy.answer ⟨some user, request⟩).events =
      (policy.consultations ⟨some user, request⟩).filterMap Consultation.fault? ++
        closing user (policy.answer ⟨some user, request⟩).value := by
  cases request with
  | require entity requested =>
      rw [answer, Access.answer, Logged.events_map, Logged.value_map]
      exact policy.notable_answer_require entity requested user
  | requireRead entity =>
      rw [answer, Access.answer, Logged.events_map, Logged.value_map]
      exact policy.notable_answer_require entity .readOnly user
  | requireModify entity =>
      rw [answer, Access.answer, Logged.events_map, Logged.value_map]
      exact policy.notable_answer_require entity .modify user
  | requireWrite entity =>
      rw [answer, Access.answer, Logged.events_map, Logged.value_map]
      exact policy.notable_answer_require entity .write user
  | requireType entityType requested =>
      rw [answer, Access.answer, Logged.events_map, Logged.value_map, Access.requireType,
        Access.asUser_of_user rfl, Policy.requireType]
      cases policy.permitsEverywhere entityType requested user <;> rfl
  | permits entity requested =>
      have answered : closing user (policy.answer ⟨some user, .permits entity requested⟩).value =
          [] := rfl
      rw [answered, List.append_nil, answer, Access.answer, Logged.events_map, Access.permits,
        Access.asUser_of_user rfl, Logged.events_map, notable_permits]
      exact (faults_of_subject policy entity requested user).symm
  | select entityType requested entities =>
      have answered : closing user
          (policy.answer ⟨some user, .select entityType requested entities⟩).value = [] := rfl
      have consulted : policy.consultations ⟨some user, .select entityType requested entities⟩ =
          entities.filterMap fun entity => policy.consultation? entity requested user :=
        List.filterMap_map
      rw [answered, consulted, List.append_nil, answer, Access.answer, Logged.events_map,
        Access.select, Access.asUser_of_user rfl, Logged.events_map, notable_select,
        List.zipIdx_map_fst]
  | currentUser | permitsEverywhere | permitsAtHome | filterFor | privileges => rfl

/-! What one request records matches what it does, and so does what a run of them records. -/

theorem closing_cases (user : User) (outcome : Except Denial Answer) :
    (isDenied outcome = false ∧ closing user outcome = []) ∨
      ∃ entityType requested id, outcome = .error (.notPermitted entityType requested id) ∧
        closing user outcome = [.denied entityType requested id user.username] := by
  cases outcome with
  | ok answer => exact .inl ⟨rfl, rfl⟩
  | error denial =>
      cases denial with
      | notPermitted entityType requested id =>
          exact .inr ⟨entityType, requested, id, rfl, rfl⟩
      | noUser => exact .inl ⟨rfl, rfl⟩

/-- Neither debugging entries nor faults of rules pass the test. -/
theorem filter_answer_of_user {test : Event → Bool}
    (aside : ∀ event, event.severity = .debug → test event = false)
    (faultless : ∀ event : Event, event.isRuleFault = true → test event = false)
    (policy : Policy) (user : User) (request : Request) :
    (policy.answer ⟨some user, request⟩).events.filter test =
      (closing user (policy.answer ⟨some user, request⟩).value).filter test := by
  rw [← Event.filter_notable aside, notable_answer_of_user, List.filter_append,
    Consultation.filter_faults_eq_nil faultless, List.nil_append]

theorem filter_isRuleFault_answer_of_user (policy : Policy) (user : User)
    (request : Request) :
    (policy.answer ⟨some user, request⟩).events.filter Event.isRuleFault =
      (policy.consultations ⟨some user, request⟩).filterMap Consultation.fault? := by
  rw [← Event.filter_notable Event.isRuleFault_aside, notable_answer_of_user,
    List.filter_append, Consultation.filter_isRuleFault_faults]
  obtain ⟨_, ends⟩ | ⟨_, _, _, _, ends⟩ := closing_cases user
    (policy.answer ⟨some user, request⟩).value
  · rw [ends, List.filter_nil, List.append_nil]
  · rw [ends]
    exact List.append_nil _

theorem isUnidentified_answer_of_user (policy : Policy) (user : User) (request : Request) :
    isUnidentified (policy.answer ⟨some user, request⟩).value = false := by
  cases outcome : (policy.answer ⟨some user, request⟩).value with
  | ok answer => rfl
  | error denial =>
      obtain ⟨entityType, requested, rfl⟩ := Access.notPermitted_of_answer rfl outcome
      rfl

theorem audits_answer_of_user (policy : Policy) (user : User) (request : Request) :
    policy.Audits [⟨some user, request⟩] (policy.answer ⟨some user, request⟩).events where
  denials := by
    rw [filter_answer_of_user Event.severity_aside Event.severity_of_isRuleFault]
    obtain ⟨answered, ends⟩ | ⟨entityType, requested, id, failed, ends⟩ := closing_cases user
      (policy.answer ⟨some user, request⟩).value
    · rw [ends, List.filter_singleton, answered]
      exact .nil
    · rw [ends, List.filter_singleton, failed]
      exact .cons (.denied failed) .nil
  missing := by
    rw [filter_answer_of_user Event.noUser_aside Event.ne_noUser_of_isRuleFault,
      List.filter_singleton, isUnidentified_answer_of_user]
    obtain ⟨_, ends⟩ | ⟨_, _, _, _, ends⟩ := closing_cases user
      (policy.answer ⟨some user, request⟩).value
    · rw [ends]
      exact .nil
    · rw [ends]
      exact .nil
  faults := by
    rw [filter_isRuleFault_answer_of_user, List.flatMap_singleton]

theorem audits_answer_of_nobody (policy : Policy) (request : Request) :
    policy.Audits [⟨none, request⟩] (policy.answer ⟨none, request⟩).events := by
  have failed : (policy.answer ⟨none, request⟩).value = .error .noUser :=
    Access.value_answer_of_nobody rfl request
  have recorded : (policy.answer ⟨none, request⟩).events = [.noUser] := by
    cases request <;> rfl
  refine ⟨?_, ?_, ?_⟩
  · rw [recorded, List.filter_singleton, failed]
    exact .nil
  · rw [recorded, List.filter_singleton, failed]
    exact .cons (.noUser failed) .nil
  · rw [recorded]
    rfl

theorem audits_answer (policy : Policy) (asked : Asked) :
    policy.Audits [asked] (policy.answer asked).events := by
  obtain ⟨user?, request⟩ := asked
  cases user? with
  | none => exact policy.audits_answer_of_nobody request
  | some user => exact policy.audits_answer_of_user user request

theorem Audits.append {first second : List Asked} {before after : List Event}
    (firstAudited : policy.Audits first before) (secondAudited : policy.Audits second after) :
    policy.Audits (first ++ second) (before ++ after) where
  denials := by
    rw [List.filter_append, List.filter_append]
    exact List.rel_append firstAudited.denials secondAudited.denials
  missing := by
    rw [List.filter_append, List.filter_append]
    exact List.rel_append firstAudited.missing secondAudited.missing
  faults := by
    rw [List.filter_append, List.flatMap_append, List.filterMap_append, firstAudited.faults,
      secondAudited.faults]

theorem value_serve (policy : Policy) (session : List Asked) :
    (policy.serve session).value = session.map fun asked => (policy.answer asked).value := by
  induction session with
  | nil => rfl
  | cons asked rest ih =>
      simp only [serve, Logged.value_bind, Logged.value_pure, ih, List.map_cons]

theorem audits_serve (policy : Policy) (session : List Asked) :
    policy.Audits session (policy.serve session).events := by
  induction session with
  | nil => exact ⟨.nil, .nil, rfl⟩
  | cons asked rest ih =>
      have recorded : (policy.serve (asked :: rest)).events =
          (policy.answer asked).events ++ (policy.serve rest).events := by
        simp only [serve, Logged.events_bind, Logged.events_pure, List.append_nil]
      rw [recorded]
      exact (policy.audits_answer asked).append ih

theorem isDenied_answer_of_not_isCheck {asked : Asked}
    (merelyAsked : asked.request.isCheck = false) :
    isDenied (policy.answer asked).value = false := by
  obtain ⟨user?, request⟩ := asked
  cases user? with
  | none =>
      have failed : (policy.answer ⟨none, request⟩).value = .error .noUser :=
        Access.value_answer_of_nobody rfl request
      rw [failed]
      rfl
  | some user => cases request <;> first | rfl | cases merelyAsked

theorem severity_ne_warn_of_not_isCheck {asked : Asked}
    (merelyAsked : asked.request.isCheck = false) {event : Event}
    (recorded : event ∈ (policy.answer asked).events) : event.severity ≠ .warn := by
  have reported := (policy.audits_answer asked).denials
  rw [List.filter_singleton, isDenied_answer_of_not_isCheck merelyAsked] at reported
  have silent := List.forall₂_nil_left_iff.mp reported
  have passed := List.filter_eq_nil_iff.mp silent event recorded
  simpa using passed

theorem filter_isRuleFault_select {α : Type} (policy : Policy) (prepared : EntityType)
    (requested : Level) (user : User) (entityOf : α → Entity) (items : List α) :
    ((policy.filterFor prepared requested user).select entityOf items).events.filter
        Event.isRuleFault =
      ((items.map entityOf).filterMap fun entity =>
        policy.consultation? entity requested user).filterMap Consultation.fault? := by
  rw [← Event.filter_notable Event.isRuleFault_aside, notable_select,
    Consultation.filter_isRuleFault_faults]

theorem severity_ne_warn_of_select {α : Type} {prepared : EntityType} {entityOf : α → Entity}
    {items : List α} {event : Event}
    (recorded : event ∈
      ((policy.filterFor prepared requested user).select entityOf items).events) :
    event.severity ≠ .warn := by
  have silent : ((policy.filterFor prepared requested user).select entityOf
      items).events.filter (·.severity == .warn) = [] := by
    rw [← Event.filter_notable Event.severity_aside, notable_select,
      Consultation.filter_faults_eq_nil Event.severity_of_isRuleFault]
  have passed := List.filter_eq_nil_iff.mp silent event recorded
  simpa using passed

end Policy

/-! How the entries that audits look for read in the trail. -/

/-- A warning is known by what it shows. -/
theorem Event.eq_of_warn_shown {event other : Event} (warns : event.severity = .warn)
    (warnsToo : other.severity = .warn) (shown : other.fields = event.fields) :
    other = event := by
  cases event with
  | denied entityType requested user username =>
      cases other with
      | denied otherType asked other name =>
          simp only [fields, List.cons.injEq, Prod.mk.injEq, true_and, and_true] at shown
          obtain ⟨sameType, sameLevel, sameUser, rfl⟩ := shown
          rw [EntityType.name_injective sameType, Level.name_injective sameLevel,
            UserId.toText_injective sameUser]
      | _ => cases warnsToo
  | _ => cases warns

/-- The messages tell the kinds of entries apart, and the fields say what each is about. -/
structure Event.Wording (event : Event) : Prop where
  denial : event.severity = .warn ↔ event.message = "permission denied"
  missing : event = .noUser ↔
    event.message = "grant check issued without an authenticated user"
  fault : event.isRuleFault = true ↔
    event.message = "custom grant rule failed, denying" ∨
      event.message = "custom grant rule panicked, denying"
  denied : ∀ entityType requested user username,
    event = .denied entityType requested user username →
      event.fields = [("entity_type", entityType.name), ("requested", requested.name),
        ("user_id", user.toText), ("username", username)]
  nobody : event = .noUser → event.fields = []
  failed : ∀ entityType user requested problem,
    event = .ruleFailed entityType user requested problem →
      event.message = "custom grant rule failed, denying" ∧
        event.fields = [("entity_type", entityType.name), ("user_id", user.toText),
          ("requested", requested.name),
          ("error", problem.category.label ++ ": " ++ problem.detail)]
  panicked : ∀ entityType user requested, event = .rulePanicked entityType user requested →
    event.message = "custom grant rule panicked, denying" ∧
      event.fields = [("entity_type", entityType.name), ("user_id", user.toText),
        ("requested", requested.name)]
  distinct : (event.fields.map Prod.fst).Nodup
  told : event.severity = .warn → ∀ other : Event,
    other.message = event.message → other.fields = event.fields → other = event

theorem Event.severity_eq_warn_iff {event : Event} :
    event.severity = .warn ↔ event.message = "permission denied" := by
  cases event <;> simp [severity, message]

theorem Event.wording (event : Event) : event.Wording where
  denial := severity_eq_warn_iff
  missing := by cases event <;> simp [message]
  fault := by cases event <;> simp [isRuleFault, severity, message]
  denied entityType requested user username same := by
    rw [same]
    rfl
  nobody same := by
    rw [same]
    rfl
  failed entityType user requested problem same := by
    rw [same]
    exact ⟨rfl, rfl⟩
  panicked entityType user requested same := by
    rw [same]
    exact ⟨rfl, rfl⟩
  distinct := event.fields_nodup
  told warns other worded shown := by
    refine eq_of_warn_shown warns (severity_eq_warn_iff.mpr ?_) shown
    rw [worded]
    exact severity_eq_warn_iff.mp warns

/-- A run of requests leaves a warning for each denial, the error of the missing user for each
request that nobody made, and an error for each rule that was consulted and failed or broke
off, each in order and nothing else of the kind.  The entries show what they are about.  No
request that is merely answered and no filter warns. -/
theorem Policy.serve_audits_run (policy : Policy) (session : List Asked) :
    ((policy.serve session).value = session.map fun asked => (policy.answer asked).value) ∧
    policy.Audits session (policy.serve session).events ∧
    (∀ event : Event, event.Wording) ∧
    (∀ asked : Asked, asked.request.isCheck = false →
      ∀ event ∈ (policy.answer asked).events, event.severity ≠ .warn) ∧
    ∀ {α : Type} (entityOf : α → Entity) (items : List α) (prepared : EntityType)
        (requested : Level) (user : User),
      ((policy.filterFor prepared requested user).select entityOf items).events.filter
          Event.isRuleFault =
        ((items.map entityOf).filterMap fun entity =>
          policy.consultation? entity requested user).filterMap Consultation.fault? ∧
      ∀ event ∈ ((policy.filterFor prepared requested user).select entityOf items).events,
        event.severity ≠ .warn := by
  refine ⟨policy.value_serve session, policy.audits_serve session, Event.wording, ?_, ?_⟩
  · intro asked merelyAsked event recorded
    exact severity_ne_warn_of_not_isCheck merelyAsked recorded
  · intro α entityOf items prepared requested user
    exact ⟨policy.filter_isRuleFault_select prepared requested user entityOf items,
      fun event recorded => severity_ne_warn_of_select recorded⟩

/-- A rule for certificates that breaks off on owned ones and fails on the others.  A list of
two and a check of one leave three errors of the rule and one warning, and the list alone no
warning. -/
theorem Policy.serve_audits_run_broken_rule :
    let problem : Problem := .raised .internal "no answer"
    let rule : Rule := .custom fun entity _ _ =>
      if entity.owner.isSome then .panicked else .failed problem
    let policy : Policy := ⟨.empty, RuleSet.empty.assign .certificate rule⟩
    let user : User := ⟨⟨1⟩, "ada", ⟨1⟩, .ofList [.examAdmin]⟩
    let owned : Entity := { entityType := .certificate, institution := ⟨1⟩, owner := some ⟨2⟩ }
    let unowned : Entity := { entityType := .certificate, institution := ⟨1⟩ }
    let listing : Asked := ⟨some user, .select .exam .modify [owned, unowned]⟩
    let check : Asked := ⟨some user, .requireWrite owned⟩
    let session : List Asked := [listing, ⟨none, .privileges⟩, check]
    let faults := (policy.serve session).events.filter Event.isRuleFault
    let warnings := (policy.serve session).events.filter (·.severity == .warn)
    let about := ("entity_type", "certificate")
    let ada := ("user_id", "00000000-0000-0000-0000-000000000001")
    (listing.request.isCheck = false ∧
      ∀ event ∈ (policy.answer listing).events, event.severity ≠ .warn) ∧
    (faults = [.rulePanicked .certificate ⟨1⟩ .modify,
        .ruleFailed .certificate ⟨1⟩ .modify problem, .rulePanicked .certificate ⟨1⟩ .write] ∧
      faults.map Event.fields =
        [[about, ada, ("requested", "modify")],
          [about, ada, ("requested", "modify"), ("error", "internal error: no answer")],
          [about, ada, ("requested", "write")]]) ∧
    List.Forall₂ policy.Reports [check] warnings ∧
      warnings.map Event.fields = [[about, ("requested", "write"), ada, ("username", "ada")]] := by
  intro problem rule policy user owned unowned listing check session faults warnings about ada
  obtain ⟨_, audited, _, unwarned, _⟩ := policy.serve_audits_run session
  have merelyAsked : listing.request.isCheck = false := rfl
  have recorded : faults = [.rulePanicked .certificate ⟨1⟩ .modify,
      .ruleFailed .certificate ⟨1⟩ .modify problem, .rulePanicked .certificate ⟨1⟩ .write] :=
    audited.faults.trans (by decide)
  refine ⟨⟨merelyAsked, unwarned listing merelyAsked⟩, ⟨recorded, ?_⟩, audited.denials, ?_⟩
  · rw [recorded]
    decide +kernel
  · decide +kernel

end ExamGrants
