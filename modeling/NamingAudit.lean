import NamingAudit.Main
import NamingAudit.Workspace
import NamingAudit.Proofs.Isolation
import NamingAudit.Proofs.Exclusion
import NamingAudit.Proofs.LetterCase
import NamingAudit.Proofs.Pieces
import NamingAudit.Proofs.Words
import NamingAudit.Proofs.Names
import NamingAudit.Proofs.JoinSpecification
import NamingAudit.Proofs.ForeignKeys
import NamingAudit.Proofs.CamelCase
import NamingAudit.Proofs.RoutePaths
import NamingAudit.Proofs.FixPlan
import NamingAudit.Proofs.RegistryHistory
import NamingAudit.Proofs.BuiltRegistry
import NamingAudit.Proofs.FixTargets
import NamingAudit.Proofs.FileRenames
import NamingAudit.Proofs.Sharding
import NamingAudit.Proofs.ReaderLocality
import NamingAudit.Proofs.RegistryFailure
import NamingAudit.Proofs.DocumentText
import NamingAudit.Proofs.RecordBatches
import NamingAudit.Proofs.BuiltInChecks
import NamingAudit.Proofs.Cancellation
import NamingAudit.Proofs.FailingGate
import NamingAudit.Proofs.PathSpelling
import NamingAudit.Proofs.FixConflicts
import NamingAudit.Proofs.DeclaredModels
import NamingAudit.Proofs.TableNames
import NamingAudit.Proofs.ModelNames
import NamingAudit.Proofs.CompactOutput
import NamingAudit.Proofs.CamelCaseFixes
import NamingAudit.Proofs.DelimitedFixes
import NamingAudit.Proofs.AcceptedCasing
import NamingAudit.Proofs.KeptLetters
import NamingAudit.Proofs.ControllerSuffix
import NamingAudit.Proofs.PathParameters
import NamingAudit.Proofs.PlanOrder
import NamingAudit.Proofs.MigrationNames
import NamingAudit.Proofs.CasingGrammars
import NamingAudit.Proofs.RecasedWords
import NamingAudit.Proofs.ConfigFiles
import NamingAudit.Proofs.ReachedStyles
import NamingAudit.Proofs.WordScan
import NamingAudit.Proofs.DiagnosticForm
