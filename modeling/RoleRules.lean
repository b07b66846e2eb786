import RoleRules.Ability.Basic
import RoleRules.Ability.Fields
import RoleRules.Decimal.Dyadic
import RoleRules.Decimal.Rounded
import RoleRules.Decimal.Shortest
import RoleRules.Denial
import RoleRules.Fault
import RoleRules.Index
import RoleRules.Json.Reader
import RoleRules.Json.Writer
import RoleRules.Kind.Table
import RoleRules.Object.Attribute
import RoleRules.Object.Basic
import RoleRules.Object.Path
import RoleRules.Proofs.FieldAccess
import RoleRules.Proofs.Matching
import RoleRules.Proofs.Monotonicity
import RoleRules.Proofs.Precedence
import RoleRules.Registry
import RoleRules.Rule.Basic
import RoleRules.Rule.Check
import RoleRules.Rule.Display
import RoleRules.Rule.Match
import RoleRules.Store.Column
import RoleRules.Store.Roles
import RoleRules.Store.Session
import RoleRules.Store.Tables
import RoleRules.Store.Users
import RoleRules.Text.Basic
import RoleRules.Text.Blank
import RoleRules.Text.Digest
import RoleRules.Text.Order
import RoleRules.Text.Printable
import RoleRules.Text.Quoted
import RoleRules.Value.Access
import RoleRules.Value.Basic
import RoleRules.Value.Depth
import RoleRules.Value.Display
import RoleRules.Value.Equality
import RoleRules.Value.Hash
import RoleRules.Value.Order
import RoleRules.Proofs.Reloading
import RoleRules.Proofs.Specificity
import RoleRules.Proofs.RoleStore
import RoleRules.Proofs.StoredRegistry
import RoleRules.Proofs.FieldGrants
import RoleRules.Proofs.StoreIntegrity
import RoleRules.Proofs.Verdict
import RoleRules.Proofs.RecordRoundTrip
import RoleRules.Proofs.Compilation
import RoleRules.Proofs.Reordering
import RoleRules.Proofs.RecordChecks
import RoleRules.Proofs.NumberMagnitude
import RoleRules.Proofs.DataEquality
import RoleRules.Proofs.RuleEquality
import RoleRules.Proofs.FieldOrder
import RoleRules.Proofs.Seeding
