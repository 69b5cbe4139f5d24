import ForeignCall.Binding.Declaration
import ForeignCall.Binding.Resolver
import ForeignCall.Main
import ForeignCall.Sample.Interfaces
import ForeignCall.Proofs.Plan.Analysis
import ForeignCall.Proofs.Table.Build
import ForeignCall.Proofs.Call.Arguments
import ForeignCall.Proofs.Call.Outcome
import ForeignCall.Proofs.Binding.Names
import ForeignCall.Proofs.Binding.Dispatch
import ForeignCall.Proofs.Binding.Session
import ForeignCall.Proofs.Registry.History
import ForeignCall.Proofs.Registry.Resolution
import ForeignCall.Proofs.Registry.Fallback
import ForeignCall.Proofs.Text.Blank
import ForeignCall.Proofs.Text.Pieces
import ForeignCall.Proofs.Text.Lines
import ForeignCall.Proofs.Signature.Line
import ForeignCall.Proofs.Signature.File
import ForeignCall.Proofs.Signature.Printed
import ForeignCall.Proofs.Binding.Lazy
import ForeignCall.Proofs.Registry.Origin
import ForeignCall.Proofs.Plan.Faults
import ForeignCall.Proofs.Plan.Walk
import ForeignCall.Proofs.Plan.Meaning
import ForeignCall.Proofs.Binding.Outputs
import ForeignCall.Proofs.Text.Utf8
import ForeignCall.Proofs.Call.RoundTrip
import ForeignCall.Proofs.Call.NativeText
import ForeignCall.Proofs.Call.Buffers
import ForeignCall.Proofs.Binding.Client
import ForeignCall.Proofs.Binding.Release
import ForeignCall.Proofs.Text.ByteOrder
import ForeignCall.Proofs.Text.BrokenUtf8
import ForeignCall.Proofs.Binding.MethodNumbers
import ForeignCall.Proofs.Text.Quoted
import ForeignCall.Proofs.Source.Literals
import ForeignCall.Proofs.Source.CodeReader
import ForeignCall.Proofs.Binding.StubReader
import ForeignCall.Proofs.Binding.BindingReader
import ForeignCall.Proofs.Binding.Interchange
import ForeignCall.Proofs.Binding.Resolver
import ForeignCall.Proofs.Binding.Entry
import ForeignCall.Proofs.Binding.EntryReader
import ForeignCall.Proofs.Binding.ErrorKinds
import ForeignCall.Proofs.Binding.Documented
import ForeignCall.Proofs.Signature.Layout
import ForeignCall.Proofs.Binding.Shapes
import ForeignCall.Proofs.Binding.Identifiers
import ForeignCall.Proofs.Source.Sites
import ForeignCall.Proofs.Binding.Associated
import ForeignCall.Proofs.Binding.EntrySpots
import ForeignCall.Proofs.Binding.ModuleName
import ForeignCall.Proofs.Binding.Scope
import ForeignCall.Proofs.Binding.LibraryCalls
import ForeignCall.Proofs.Binding.Generators
import ForeignCall.Proofs.Registry.Opening
import ForeignCall.Proofs.Command.Check
import ForeignCall.Proofs.Binding.Declarations
import ForeignCall.Proofs.Call.Acceptance
import ForeignCall.Proofs.Call.Arenas
import ForeignCall.Proofs.Binding.Casing
import ForeignCall.Proofs.Binding.Slots
