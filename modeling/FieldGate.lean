import FieldGate.Declaration.Json
import FieldGate.Handler.Builtin
import FieldGate.Schema.Example
import FieldGate.Session
import FieldGate.Proofs.Governance
import FieldGate.Proofs.EntryTable
import FieldGate.Proofs.Registration
import FieldGate.Proofs.Noted
import FieldGate.Proofs.Building
import FieldGate.Proofs.Surface
import FieldGate.Proofs.Deregistration
import FieldGate.Proofs.Binding
import FieldGate.Proofs.Verdict
import FieldGate.Proofs.Meaning
import FieldGate.Proofs.Installed
import FieldGate.Proofs.Integers
import FieldGate.Proofs.SchemaNames
import FieldGate.Proofs.Scanning
import FieldGate.Proofs.Canonical
import FieldGate.Proofs.SameEntries
import FieldGate.Proofs.Reordering
import FieldGate.Proofs.Failures
import FieldGate.Proofs.Safety
import FieldGate.Proofs.Nesting
import FieldGate.Schema.Draft
import FieldGate.Proofs.Drafts
import FieldGate.Proofs.HandlerTable
import FieldGate.Proofs.Strictness
import FieldGate.Proofs.Blame
import FieldGate.Proofs.CommonType
import FieldGate.Proofs.Variables
import FieldGate.Proofs.Positions
import FieldGate.Proofs.LiteralTypes
import FieldGate.Proofs.DeclaredBounds
import FieldGate.Proofs.Acceptance
import FieldGate.Proofs.Calls
import FieldGate.Proofs.ConstantArguments
import FieldGate.Proofs.Readers
import FieldGate.Proofs.Offsets
import FieldGate.Proofs.Spelling
import FieldGate.Proofs.Scoping
import FieldGate.Proofs.ConditionSets
import FieldGate.Proofs.Checking
import FieldGate.Proofs.ShortCircuit
import FieldGate.Proofs.Collapsing
import FieldGate.Proofs.CombinationLaws
import FieldGate.Proofs.NumberConditions
import FieldGate.Proofs.Notices
import FieldGate.Proofs.Mismatches
import FieldGate.Proofs.Introspection
import FieldGate.Proofs.EntryLookup
import FieldGate.Proofs.BooleanSpellings
import FieldGate.Proofs.DisplayedValues
import FieldGate.Proofs.WholePatterns
import FieldGate.Proofs.RepeatedValues
import FieldGate.Proofs.Assembly
import FieldGate.Proofs.FullGroups
