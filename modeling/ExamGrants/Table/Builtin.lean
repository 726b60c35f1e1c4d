import ExamGrants.Table

namespace ExamGrants

/-! The grant table that applies where no other is configured. -/

namespace Builtin

/-- Entity type, role, base, institutional and owner level of every built-in grant. -/
def rows : List Row := [
    (.institution, .sebServerAdmin, .write, .none, .none),
    (.institution, .institutionalAdmin, .none, .modify, .none),
    (.institution, .examAdmin, .none, .readOnly, .none),
    (.institution, .examSupporter, .none, .readOnly, .none),
    (.lmsSetup, .sebServerAdmin, .write, .none, .none),
    (.lmsSetup, .institutionalAdmin, .none, .write, .none),
    (.lmsSetup, .examAdmin, .none, .readOnly, .none),
    (.sebClientConfiguration, .sebServerAdmin, .write, .none, .none),
    (.sebClientConfiguration, .institutionalAdmin, .none, .write, .none),
    (.sebClientConfiguration, .examAdmin, .none, .readOnly, .none),
    (.exam, .sebServerAdmin, .readOnly, .none, .none),
    (.exam, .institutionalAdmin, .none, .readOnly, .none),
    (.exam, .examAdmin, .none, .write, .none),
    (.exam, .examSupporter, .none, .none, .modify),
    (.exam, .teacher, .none, .none, .modify),
    (.examTemplate, .sebServerAdmin, .readOnly, .none, .none),
    (.examTemplate, .institutionalAdmin, .none, .write, .none),
    (.examTemplate, .examAdmin, .none, .write, .none),
    (.indicator, .sebServerAdmin, .readOnly, .none, .none),
    (.indicator, .institutionalAdmin, .none, .readOnly, .none),
    (.indicator, .examAdmin, .none, .write, .none),
    (.indicator, .examSupporter, .none, .none, .modify),
    (.examConfigurationMap, .sebServerAdmin, .readOnly, .none, .none),
    (.examConfigurationMap, .institutionalAdmin, .none, .readOnly, .none),
    (.examConfigurationMap, .examAdmin, .none, .write, .none),
    (.examConfigurationMap, .examSupporter, .none, .none, .modify),
    (.configurationNode, .sebServerAdmin, .readOnly, .none, .none),
    (.configurationNode, .institutionalAdmin, .none, .write, .none),
    (.configurationNode, .examAdmin, .none, .modify, .write),
    (.configurationNode, .examSupporter, .none, .readOnly, .modify),
    (.configuration, .sebServerAdmin, .readOnly, .none, .none),
    (.configuration, .institutionalAdmin, .none, .write, .none),
    (.configuration, .examAdmin, .none, .modify, .write),
    (.configuration, .examSupporter, .none, .readOnly, .modify),
    (.clientConnection, .sebServerAdmin, .readOnly, .none, .none),
    (.clientConnection, .institutionalAdmin, .none, .readOnly, .none),
    (.clientConnection, .examAdmin, .none, .modify, .none),
    (.clientConnection, .examSupporter, .none, .modify, .none),
    (.clientConnection, .teacher, .none, .none, .modify),
    (.clientEvent, .sebServerAdmin, .readOnly, .none, .none),
    (.clientEvent, .institutionalAdmin, .none, .readOnly, .none),
    (.clientEvent, .examAdmin, .none, .write, .none),
    (.clientEvent, .examSupporter, .none, .write, .none),
    (.clientEvent, .teacher, .none, .none, .readOnly),
    (.user, .sebServerAdmin, .write, .none, .none),
    (.user, .institutionalAdmin, .none, .write, .none),
    (.user, .examAdmin, .none, .none, .modify),
    (.user, .examSupporter, .none, .none, .modify),
    (.user, .teacher, .none, .none, .modify),
    (.userActivityLog, .sebServerAdmin, .readOnly, .none, .none),
    (.userActivityLog, .institutionalAdmin, .none, .readOnly, .none),
    (.userActivityLog, .examAdmin, .none, .none, .readOnly),
    (.userActivityLog, .examSupporter, .none, .none, .readOnly),
    (.certificate, .sebServerAdmin, .write, .none, .none),
    (.certificate, .institutionalAdmin, .none, .write, .none),
    (.certificate, .examAdmin, .none, .readOnly, .none)
  ]

end Builtin

/-- The built-in grant table. -/
def Table.builtin : Table := Table.ofRows Builtin.rows

end ExamGrants
