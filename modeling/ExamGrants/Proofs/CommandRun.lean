import ExamGrants.Command
import ExamGrants.Proofs.Environment
import ExamGrants.Proofs.ReportText
import ExamGrants.Proofs.StrongestTiers

namespace ExamGrants

/-! How a run of the command ends.

Roles, format, file and table are looked at in this order, and the first of them at fault ends
the run before anything is printed.  Otherwise there is one report for each set of roles, with
the strongest tiers of the roles in the table that is asked for (`Command.run_eq_iff_ends`).
-/

open Json

variable {environment : Environment} {files : FileReader} {problem : Problem}

/-! ## Reports -/

/-- The report names the roles as they are listed and holds what the table grants to them. -/
structure Table.Reports (table : Table) (roles : List Role) (report : Report) : Prop where
  sameRoles : report.roles = roles
  entitles : table.Entitles roles report.privileges

namespace Report

/-- The report that is made on some roles. -/
def on (registry : Registry) (roles : List Role) : Report :=
  ⟨roles, registry.effective (RoleSet.ofList roles).toList⟩

end Report

namespace ReportFormat

def render : ReportFormat → List Report → String
  | .text => Report.textOf
  | .json => Report.jsonOf

end ReportFormat

/-! ## Runs -/

namespace Command

/-- The first problem that a run meets, and its category. -/
inductive Meets (environment : Environment) (files : FileReader) : Category → Problem → Prop where
  | roles {problem : Problem} (misnamed : environment.Misnames problem) :
      Meets environment files .validation problem
  | format {problem : Problem} {sets : List (List Role)} (asks : environment.AsksFor sets)
      (misformatted : environment.Misformats problem) :
      Meets environment files .validation problem
  | file {problem : Problem} {sets : List (List Role)} {format : ReportFormat}
      (asks : environment.AsksFor sets) (chooses : environment.Chooses format)
      (misplaced : environment.Misplaces files problem) :
      Meets environment files .notFound problem
  | table {problem : Problem} {sets : List (List Role)} {format : ReportFormat}
      (asks : environment.AsksFor sets) (chooses : environment.Chooses format)
      (miswritten : environment.Miswrites files problem) :
      Meets environment files .validation problem

example : (failure (.unknownName "user role" "techer")).stderr =
    "Error: Validation(\"unknown user role 'techer'\")\n" := by
  decide +kernel

theorem value_reports (policy : Policy) (sets : List (List Role)) :
    (reports policy sets).value = .ok (sets.map (Report.on policy.registry)) := by
  induction sets with
  | nil => rfl
  | cons roles rest ih =>
      have first : (report policy roles).value = .ok (Report.on policy.registry roles) := rfl
      rw [reports, Logged.value_bind, first]
      dsimp only
      rw [Logged.value_map, ih]
      rfl

theorem value_print (settings : Settings) (files : FileReader) :
    (print settings files).value = (loadTable settings files).value >>= fun table =>
      .ok (settings.format.render
        ((roleSets settings).map (Report.on (Registry.ofTable table).value))) := by
  rw [print, Logged.value_bind]
  cases loaded : (loadTable settings files).value with
  | error problem =>
      have failed : (loadPolicy settings files).value = .error problem := by
        rw [loadPolicy, Logged.value_bind, loaded]
        rfl
      rw [failed]
      rfl
  | ok table =>
      -- Reports look at the registry of the policy alone, so its rules do not matter.
      have made : ∃ rules, (loadPolicy settings files).value =
          .ok ⟨(Registry.ofTable table).value, rules⟩ := by
        rw [loadPolicy, Logged.value_bind, loaded]
        exact ⟨_, rfl⟩
      obtain ⟨rules, policy⟩ := made
      rw [policy]
      dsimp only
      rw [Logged.value_bind, value_reports]
      cases settings.format <;> rfl

theorem value_loadTable (roles : Option (List Role)) (format : ReportFormat) :
    (loadTable ⟨environment.filled? .tablePath, roles, format⟩ files).value =
      environment.table files := by
  unfold loadTable Environment.table
  cases environment.filled? .tablePath <;> rfl

theorem ofEnvironment_eq (environment : Environment) :
    Settings.ofEnvironment environment =
      match environment.filled? .roles with
      | none => environment.reportFormat >>= fun format =>
          .ok ⟨environment.filled? .tablePath, none, format⟩
      | some text => Role.parseList text >>= fun roles =>
          environment.reportFormat >>= fun format =>
            .ok ⟨environment.filled? .tablePath, some roles, format⟩ := by
  unfold Settings.ofEnvironment Environment.reportFormat
  -- How a format is read does not matter, and is not to be computed.
  generalize ReportFormat.parse = read
  cases environment.filled? .roles with
  | none => cases environment .format <;> rfl
  | some text =>
      dsimp only
      cases Role.parseList text with
      | error => rfl
      | ok => cases environment .format <;> rfl

/-- What a run prints if nothing is at fault. -/
def output (environment : Environment) (files : FileReader) : Except Problem String :=
  environment.roleSets >>= fun sets =>
    environment.reportFormat >>= fun format =>
      environment.table files >>= fun table =>
        .ok (format.render (sets.map (Report.on (Registry.ofTable table).value)))

theorem print_ofEnvironment (environment : Environment) (files : FileReader) :
    (Settings.ofEnvironment environment >>= fun settings => (print settings files).value) =
      output environment files := by
  rw [ofEnvironment_eq]
  unfold output Environment.roleSets
  cases environment.filled? .roles <;>
    simp only [readOr, bind_assoc, ok_bind, value_print, value_loadTable, roleSets]

def conclude : Except Problem String → Outcome
  | .ok output => ⟨0, output, none⟩
  | .error problem => failure problem

theorem run_eq_conclude (environment : Environment) (files : FileReader) :
    run environment files = conclude (output environment files) := by
  rw [← print_ofEnvironment]
  unfold run
  cases Settings.ofEnvironment environment with
  | error problem => rfl
  | ok settings =>
      rw [ok_bind]
      dsimp only
      cases (print settings files).value <;> rfl

/-- Only the last of two rows counts, and nothing is taken from the built-in table. -/
example :
    run (fun | .roles => some " teacher,,teacher" | .format => none | .tablePath => some "rows")
      (fun _ => .ok "[[\"exam\", \"teacher\", \"write\"], [\"exam\", \"teacher\"],
        [\"user\", \"teacher\", \"read_only\"]]".toUTF8) =
      ⟨0, "[teacher, teacher]\n  user                       base=read_only " ++
        "institutional=none      owner=none\n", none⟩ := by
  decide +kernel

end Command

end ExamGrants
