import Einsum.Arguments.Grammar
import Einsum.Arguments.Parse
import Einsum.Cache
import Einsum.Command.Files
import Einsum.Command.Options
import Einsum.Command.Run
import Einsum.Command.Shape
import Einsum.Config
import Einsum.Cost
import Einsum.Digest
import Einsum.Error
import Einsum.Fault
import Einsum.Json.Basic
import Einsum.Json.Integer
import Einsum.Json.Reader
import Einsum.Json.Writer
import Einsum.Kernel.Basic
import Einsum.Kernel.Block
import Einsum.Kernel.Body
import Einsum.Kernel.Call
import Einsum.Kernel.Kind
import Einsum.Kernel.Lexis
import Einsum.Kernel.Numeral
import Einsum.Kernel.Prologue
import Einsum.Kernel.Source
import Einsum.Label
import Einsum.Log.Basic
import Einsum.Log.Compile
import Einsum.Log.Stamp
import Einsum.Main
import Einsum.Number.Binary
import Einsum.Number.Decimal
import Einsum.Number.Literal
import Einsum.Number.Power
import Einsum.Operand
import Einsum.Operation
import Einsum.Path.Basic
import Einsum.Path.Build
import Einsum.Path.Check
import Einsum.Path.Order
import Einsum.Path.Split
import Einsum.Program
import Einsum.Program.Explain
import Einsum.Proofs.Accounting
import Einsum.Proofs.Agreement
import Einsum.Proofs.Attribution
import Einsum.Proofs.Call
import Einsum.Proofs.Canonical
import Einsum.Proofs.Check
import Einsum.Proofs.Closed
import Einsum.Proofs.Compilation
import Einsum.Proofs.Contraction
import Einsum.Proofs.Cost
import Einsum.Proofs.Definition
import Einsum.Proofs.Element
import Einsum.Proofs.Evaluation
import Einsum.Proofs.Exact
import Einsum.Proofs.Factorization
import Einsum.Proofs.Fault
import Einsum.Proofs.Flattening
import Einsum.Proofs.Grammar
import Einsum.Proofs.History
import Einsum.Proofs.Index
import Einsum.Proofs.Interchange
import Einsum.Proofs.Kernel
import Einsum.Proofs.Kind
import Einsum.Proofs.Label
import Einsum.Proofs.Ledger
import Einsum.Proofs.Linkage
import Einsum.Proofs.Listing
import Einsum.Proofs.Location
import Einsum.Proofs.Loop
import Einsum.Proofs.Lowering
import Einsum.Proofs.Metered
import Einsum.Proofs.Mismatch
import Einsum.Proofs.Mixed
import Einsum.Proofs.Name
import Einsum.Proofs.Normal
import Einsum.Proofs.Offence
import Einsum.Proofs.Optimum
import Einsum.Proofs.Outline
import Einsum.Proofs.Pair
import Einsum.Proofs.Pattern
import Einsum.Proofs.Permutation
import Einsum.Proofs.Plan
import Einsum.Proofs.Printing
import Einsum.Proofs.Program
import Einsum.Proofs.Promotion
import Einsum.Proofs.Reading
import Einsum.Proofs.Relabel
import Einsum.Proofs.Renaming
import Einsum.Proofs.Rounding
import Einsum.Proofs.Run
import Einsum.Proofs.Scan
import Einsum.Proofs.Search
import Einsum.Proofs.Session
import Einsum.Proofs.Shape
import Einsum.Proofs.Sharing
import Einsum.Proofs.Sizes
import Einsum.Proofs.SpecialCases
import Einsum.Proofs.Strategy
import Einsum.Proofs.Summation
import Einsum.Proofs.Token
import Einsum.Proofs.Tree
import Einsum.Session
import Einsum.Span
import Einsum.Subscripts
import Einsum.Subscripts.Check
import Einsum.Subscripts.Parse
import Einsum.Subscripts.Token
import Einsum.Tensor.Basic
import Einsum.Tensor.Bytes
import Einsum.Tensor.ElemType
import Einsum.Tensor.Json
import Einsum.Tensor.Layout
import Einsum.Tensor.Nested
import Einsum.Tensor.Operator
import Einsum.Tensor.Scalar
import Einsum.Text.Blank
import Einsum.Text.Capital
import Einsum.Text.Combining
import Einsum.Text.Composition
import Einsum.Text.Digit
import Einsum.Text.Identifier
import Einsum.Text.Integer
import Einsum.Text.Lines
import Einsum.Text.Normal
import Einsum.Text.Pad
import Einsum.Text.Printable
import Einsum.Text.Quoted
import Einsum.Text.Ranges
import Einsum.Text.Real
import Einsum.Text.Variant
import Einsum.Value
import Einsum.Value.Identity
import Einsum.Value.Members
