import ExamGrants.Named

namespace ExamGrants

/-! The closed set of protected kinds of things. -/

/-- What kind of thing a grant protects. -/
inductive EntityType where
  /-- An institution, the tenant of everything else. -/
  | institution
  /-- A connection to a learning management system. -/
  | lmsSetup
  /-- A configuration handed out to exam clients. -/
  | sebClientConfiguration
  | exam
  /-- A template that exams are made from. -/
  | examTemplate
  /-- A monitoring indicator of an exam. -/
  | indicator
  /-- The assignment of an exam configuration to an exam. -/
  | examConfigurationMap
  /-- A node of exam configurations. -/
  | configurationNode
  /-- One version of an exam configuration. -/
  | configuration
  /-- The live connection of an exam client. -/
  | clientConnection
  /-- An event sent by an exam client. -/
  | clientEvent
  | user
  /-- An audit entry of a user's action. -/
  | userActivityLog
  | certificate
deriving DecidableEq, Repr

namespace EntityType

def name : EntityType → String
  | .institution => "institution"
  | .lmsSetup => "lms_setup"
  | .sebClientConfiguration => "seb_client_configuration"
  | .exam => "exam"
  | .examTemplate => "exam_template"
  | .indicator => "indicator"
  | .examConfigurationMap => "exam_configuration_map"
  | .configurationNode => "configuration_node"
  | .configuration => "configuration"
  | .clientConnection => "client_connection"
  | .clientEvent => "client_event"
  | .user => "user"
  | .userActivityLog => "user_activity_log"
  | .certificate => "certificate"

def all : List EntityType :=
  [.institution, .lmsSetup, .sebClientConfiguration, .exam, .examTemplate, .indicator,
    .examConfigurationMap, .configurationNode, .configuration, .clientConnection,
    .clientEvent, .user, .userActivityLog, .certificate]

theorem mem_all (entityType : EntityType) : entityType ∈ all := by
  cases entityType <;> decide

theorem all_nodup : all.Nodup := by decide

theorem name_injective {first second : EntityType} (same : first.name = second.name) :
    first = second := by
  have distinct : ∀ a ∈ all, ∀ b ∈ all, a.name = b.name → a = b := by decide
  exact distinct first (mem_all first) second (mem_all second) same

instance : Named EntityType where
  kind := "entity type"
  all := all
  name := name
  mem_all := mem_all
  name_injective := name_injective

end EntityType

end ExamGrants
