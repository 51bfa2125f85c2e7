import UnusedExpr.Json.Printer
import UnusedExpr.Json.Reader
import UnusedExpr.Lint
import UnusedExpr.Plugin
import UnusedExpr.Source
import UnusedExpr.Tree.Reader
import UnusedExpr.Proofs.Agreement
import UnusedExpr.Proofs.Chains
import UnusedExpr.Proofs.Concatenation
import UnusedExpr.Proofs.Directives
import UnusedExpr.Proofs.Occurrences
import UnusedExpr.Proofs.OptionForms
import UnusedExpr.Proofs.OptionSchema
import UnusedExpr.Proofs.OptionalChaining
import UnusedExpr.Proofs.Parentheses
import UnusedExpr.Proofs.Passes
import UnusedExpr.Proofs.Placement
import UnusedExpr.Proofs.Positions
import UnusedExpr.Proofs.Rebuild
import UnusedExpr.Proofs.Relaxation
import UnusedExpr.Proofs.Roles
import UnusedExpr.Proofs.RuleMaps
import UnusedExpr.Proofs.Sessions
import UnusedExpr.Proofs.SettingForms
import UnusedExpr.Proofs.ShouldChains
import UnusedExpr.Proofs.Sightings
import UnusedExpr.Proofs.Spans
import UnusedExpr.Proofs.Tails
import UnusedExpr.Proofs.Violations
import UnusedExpr.Proofs.Visits
