import AccessControl.Text.Quoted
import AccessControl.Text.Blank
import AccessControl.Text.Numeral
import AccessControl.Json.Magnitude
import AccessControl.Json.Tree
import AccessControl.Json.Printer
import AccessControl.Subject
import AccessControl.Resource
import AccessControl.Operation
import AccessControl.Bundle
import AccessControl.Decision
import AccessControl.Registry
import AccessControl.Membership
import AccessControl.Store
import AccessControl.Chain
import AccessControl.Policy.Environment
import AccessControl.Reference
import AccessControl.Document.Policy
import AccessControl.Document.Decision
import AccessControl.Document.Config
import AccessControl.CommandLine.Files
import AccessControl.CommandLine.Run
import AccessControl.Main
import AccessControl.Proofs.Answering
import AccessControl.Proofs.Fitting
import AccessControl.Proofs.Metadata
import AccessControl.Proofs.Rulings
import AccessControl.Proofs.DecisionTable
import AccessControl.Proofs.CacheContexts
import AccessControl.Proofs.CacheTags
import AccessControl.Proofs.StoreHistory
import AccessControl.Proofs.Rights
import AccessControl.Proofs.Occasions
import AccessControl.Proofs.Consistency
import AccessControl.Proofs.GatedViews
import AccessControl.Proofs.DescribedEnvironment
import AccessControl.Proofs.MembershipCalls
import AccessControl.Proofs.CanonicalStore
import AccessControl.Proofs.Composition
import AccessControl.Proofs.Numerals
import AccessControl.Proofs.Scanning
import AccessControl.Proofs.WrittenText
import AccessControl.Proofs.Restoration
import AccessControl.Proofs.WrittenDocuments
import AccessControl.Proofs.NamedResources
import AccessControl.Proofs.JointDecisions
import AccessControl.Proofs.GrantReasons
import AccessControl.Proofs.StoredGrants
import AccessControl.Proofs.ReferenceGrammar
import AccessControl.Proofs.FilledTemplates
import AccessControl.Proofs.Representations
import AccessControl.Proofs.SubjectGroups
import AccessControl.Proofs.VisibleResources
import AccessControl.Proofs.StockReach
import AccessControl.Proofs.RoleNames
import AccessControl.Proofs.RoleOrigins
