import JsonQuery.Arity
import JsonQuery.CommandLine
import JsonQuery.Decimal
import JsonQuery.Decimal.OfDouble
import JsonQuery.Decimal.Reader
import JsonQuery.Double
import JsonQuery.Double.Shortest
import JsonQuery.Engine
import JsonQuery.Eval
import JsonQuery.Eval.Argument
import JsonQuery.Eval.Failure
import JsonQuery.Eval.Traced
import JsonQuery.Expr
import JsonQuery.Expr.Grammar
import JsonQuery.Expr.Slice
import JsonQuery.Json
import JsonQuery.Json.Numeral
import JsonQuery.Json.Reader
import JsonQuery.Json.Writer
import JsonQuery.Library.Arrays
import JsonQuery.Library.Math
import JsonQuery.Library.Objects
import JsonQuery.Library.Payloads
import JsonQuery.Library.Strings
import JsonQuery.Number
import JsonQuery.Number.Arithmetic
import JsonQuery.Number.Reader
import JsonQuery.ParseError
import JsonQuery.Payload.Base64
import JsonQuery.Payload.Crc32
import JsonQuery.Payload.Gzip
import JsonQuery.Payload.Huffman
import JsonQuery.Payload.Inflate
import JsonQuery.Payload.Utf8
import JsonQuery.Reasons
import JsonQuery.Regex
import JsonQuery.Regex.Automaton
import JsonQuery.Regex.CharClass
import JsonQuery.Regex.Escape
import JsonQuery.Regex.Match
import JsonQuery.Regex.Pattern
import JsonQuery.Regex.Reader
import JsonQuery.Regex.SetReader
import JsonQuery.Regex.Syntax
import JsonQuery.Registry
import JsonQuery.Text.Blank
import JsonQuery.Text.Digits
import JsonQuery.Text.Escape
import JsonQuery.Text.Grapheme
import JsonQuery.Text.Position
import JsonQuery.Text.Quoted
import JsonQuery.Text.Units
import JsonQuery.Token
import JsonQuery.Token.Scanner
import JsonQuery.Unicode.Age
import JsonQuery.Unicode.Binary
import JsonQuery.Unicode.Break
import JsonQuery.Unicode.Category
import JsonQuery.Unicode.CharSet
import JsonQuery.Unicode.Cluster
import JsonQuery.Unicode.Folding
import JsonQuery.Unicode.NamedSet
import JsonQuery.Unicode.Recent
import JsonQuery.Unicode.Script
import JsonQuery.Unicode.Utf8
import JsonQuery.Main
import JsonQuery.Proofs.Engine
import JsonQuery.Proofs.Eval.Alike
import JsonQuery.Proofs.Eval.Failures
import JsonQuery.Proofs.Eval.Result
import JsonQuery.Proofs.Expr.Node
import JsonQuery.Proofs.Grammar.Absorption
import JsonQuery.Proofs.Grammar.Checked
import JsonQuery.Proofs.Grammar.Exchange
import JsonQuery.Proofs.Grammar.Height
import JsonQuery.Proofs.Grammar.Induction
import JsonQuery.Proofs.Grammar.Links
import JsonQuery.Proofs.Grammar.Locality
import JsonQuery.Proofs.Grammar.Reading
import JsonQuery.Proofs.Grammar.Reads
import JsonQuery.Proofs.Grammar.Text
import JsonQuery.Proofs.Library.Failures
import JsonQuery.Proofs.Library.References
import JsonQuery.Proofs.Registry
import JsonQuery.Proofs.Token.Scanning
import JsonQuery.Proofs.Wildcard
import JsonQuery.Proofs.Grammar.Pipes
import JsonQuery.Proofs.Pipe
import JsonQuery.Proofs.Masking
import JsonQuery.Proofs.Expr.Operators
import JsonQuery.Proofs.Grammar.Operators
import JsonQuery.Proofs.Precedence
import JsonQuery.Proofs.Decimal
import JsonQuery.Proofs.Number.Order
import JsonQuery.Proofs.Text.Units
import JsonQuery.Proofs.Comparison
import JsonQuery.Proofs.Json.Equal
import JsonQuery.Proofs.Grammar.Effectful
import JsonQuery.Proofs.Grammar.UpTo
import JsonQuery.Proofs.Grammar.Counter
import JsonQuery.Proofs.Extensions
import JsonQuery.Proofs.Machine.Trapping
import JsonQuery.Proofs.Machine.Slices
import JsonQuery.Proofs.Machine.Arrays
import JsonQuery.Proofs.Machine.Eval
import JsonQuery.Proofs.Expr.Slice
import JsonQuery.Proofs.Text.Position
import JsonQuery.Proofs.Token.Places
import JsonQuery.Proofs.Grammar.Lists
import JsonQuery.Proofs.Json.Locality
import JsonQuery.Proofs.Token.Written
import JsonQuery.Proofs.Library.Extremes
import JsonQuery.Proofs.Projections
import JsonQuery.Proofs.Token.Units
import JsonQuery.Proofs.Token.Blanks
import JsonQuery.Proofs.Double.Nearest
import JsonQuery.Proofs.Double.Arithmetic
import JsonQuery.Proofs.Decimal.Value
import JsonQuery.Proofs.Decimal.Settle
import JsonQuery.Proofs.Decimal.View
import JsonQuery.Proofs.Decimal.ToDouble
import JsonQuery.Proofs.Number.Values
import JsonQuery.Proofs.Number.Rounding
import JsonQuery.Proofs.Decimal.Arithmetic
import JsonQuery.Proofs.Number.Sum
import JsonQuery.Proofs.Double.Closest
import JsonQuery.Proofs.Number.Integers
import JsonQuery.Proofs.Text.Blank
import JsonQuery.Proofs.Decimal.Numeral
import JsonQuery.Proofs.Number.Signs
import JsonQuery.Proofs.Json.Grammar
import JsonQuery.Proofs.Documents
import JsonQuery.Proofs.Library.Merging
import JsonQuery.Proofs.Flatten
import JsonQuery.Proofs.Json.Roundtrip
import JsonQuery.Proofs.Grammar.Taking
import JsonQuery.Proofs.Grammar.Progress
