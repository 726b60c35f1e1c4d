import ExamGrants.Files
import ExamGrants.Format.Entity
import ExamGrants.Format.User
import ExamGrants.Json.Lossless
import ExamGrants.Main
import ExamGrants.Session
import ExamGrants.Proofs.Filtering
import ExamGrants.Proofs.SupporterRule
import ExamGrants.Proofs.EffectivePrivileges
import ExamGrants.Proofs.Json.Grammar
import ExamGrants.Proofs.Json.Scanning
import ExamGrants.Proofs.Json.Reading
import ExamGrants.Proofs.Json.Decoding
import ExamGrants.Proofs.Json.Records
import ExamGrants.Proofs.TableText
import ExamGrants.Proofs.CurrentUser
import ExamGrants.Proofs.Json.Writing
import ExamGrants.Proofs.WholeType
import ExamGrants.Proofs.Json.RoundTrip
import ExamGrants.Proofs.RecordText
import ExamGrants.Proofs.TableBuilding
import ExamGrants.Proofs.Noninterference
import ExamGrants.Proofs.Monotonicity
import ExamGrants.Proofs.RuleLocality
import ExamGrants.Proofs.TenantIsolation
import ExamGrants.Proofs.SharedOwnership
import ExamGrants.Proofs.RegisteredRows
import ExamGrants.Proofs.LastRows
import ExamGrants.Proofs.AuditTrail
import ExamGrants.Proofs.StrongestTiers
import ExamGrants.Proofs.Environment
import ExamGrants.Proofs.CommandRun
import ExamGrants.Proofs.DecidingRole
import ExamGrants.Proofs.PrivilegeUnion
import ExamGrants.Proofs.RuleRegistration
import ExamGrants.Proofs.Json.Prefixes
import ExamGrants.Proofs.Json.FirstFault
import ExamGrants.Proofs.Json.ObjectFaults
import ExamGrants.Proofs.RowFaults
import ExamGrants.Proofs.Trimming
import ExamGrants.Proofs.StorageNames
import ExamGrants.Proofs.RoleLists
import ExamGrants.Proofs.UserIdSpelling
import ExamGrants.Proofs.OpenRecords
import ExamGrants.Proofs.ReportText
import ExamGrants.Proofs.InstitutionNumbers
import ExamGrants.Proofs.FilePaths
