import NameScope.Data.Codec
import NameScope.Data.Json
import NameScope.Source.LineTable
import NameScope.Workspace
import NameScope.Proofs.Declared.TypeNames
import NameScope.Proofs.Declared.Reordered
import NameScope.Proofs.Lookup.Keyed
import NameScope.Proofs.Linking.Follows
import NameScope.Proofs.Linking.Independent
import NameScope.Proofs.Linking.Accounts
import NameScope.Proofs.Linking.Anchored
import NameScope.Proofs.Linking.Erased
import NameScope.Proofs.Linking.Relink
import NameScope.Proofs.Linking.Alike
import NameScope.Proofs.Workspace.Coherent
import NameScope.Proofs.Session.Makes
import NameScope.Proofs.Session.Compared
import NameScope.Proofs.Session.Order
import NameScope.Proofs.Session.Bystander
import NameScope.Proofs.Session.Imports
import NameScope.Proofs.Lookup.Reported
import NameScope.Proofs.Lookup.Suggested
import NameScope.Proofs.Lookup.Monotone
import NameScope.Proofs.Lookup.Atomic
import NameScope.Proofs.Declared.Standing
import NameScope.Proofs.Declared.History
import NameScope.Proofs.Linking.Targets
import NameScope.Proofs.Workspace.Live
import NameScope.Proofs.Editor.Agreement
import NameScope.Proofs.Workspace.Reports
import NameScope.Proofs.Session.Annotated
import NameScope.Proofs.Source.Spelling
import NameScope.Proofs.Source.FileNames
import NameScope.Proofs.Workspace.Held
import NameScope.Proofs.Linking.Annotating
import NameScope.Proofs.Name.WrittenForm
import NameScope.Proofs.Source.FileNumbers
import NameScope.Proofs.Session.Settings
import NameScope.Proofs.Linking.Refused
import NameScope.Proofs.Linking.Chains
import NameScope.Proofs.Linking.Locals
import NameScope.Proofs.Editor.Innermost
import NameScope.Proofs.Editor.TextOrder
import NameScope.Proofs.Source.LinePositions
import NameScope.Proofs.Source.Listing
import NameScope.Proofs.Source.Covering
import NameScope.Proofs.Declared.Packages
import NameScope.Proofs.Data.RoundTrip
import NameScope.Proofs.Linking.Rendered
