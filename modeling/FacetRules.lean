import FacetRules.FileTree
import FacetRules.Main
import FacetRules.Proofs.Catalog.Totality
import FacetRules.Proofs.Catalog.Partition
import FacetRules.Proofs.Builder.History
import FacetRules.Proofs.Compile.Rules
import FacetRules.Proofs.Copies
import FacetRules.Proofs.Expansion.Catalogs
import FacetRules.Proofs.Query.Ungated
import FacetRules.Proofs.Query.Offered
import FacetRules.Proofs.Query.Requery
import FacetRules.Proofs.Renumbering.Interleaving
import FacetRules.Proofs.Import.Runs
import FacetRules.Proofs.Registry.Runs
import FacetRules.Proofs.Accounts.Balance
import FacetRules.Proofs.Service.Runs
import FacetRules.Proofs.Renumbering.Isolation
import FacetRules.Proofs.Query.Selecting
import FacetRules.Proofs.Query.SelectionOrder
import FacetRules.Proofs.Builder.Adding
import FacetRules.Proofs.Builder.ZeroCategories
import FacetRules.Proofs.Query.Dropped
import FacetRules.Proofs.Query.Filters
import FacetRules.Proofs.Query.Sorting
import FacetRules.Proofs.Precondition.Reading
import FacetRules.Proofs.Precondition.Repair
import FacetRules.Proofs.Builder.Refused
import FacetRules.Proofs.Text.Numbers
import FacetRules.Proofs.Query.Written
import FacetRules.Proofs.Row.Grammar
import FacetRules.Proofs.Settings.Saved
import FacetRules.Proofs.Wire.Conditions
import FacetRules.Proofs.Dump.Sections
import FacetRules.Proofs.Expansion.Apart
