import BraceFormat.Text.RangeTable
import BraceFormat.Text.Letter
import BraceFormat.Text.Printable
import BraceFormat.Text.Blank
import BraceFormat.Number.Numeral
import BraceFormat.Text.Quoted
import BraceFormat.Text.Digit
import BraceFormat.Text.Run
import BraceFormat.Fault
import BraceFormat.Number.Integer
import BraceFormat.Spec.Basic
import BraceFormat.Spec.Parser
import BraceFormat.Template.Basic
import BraceFormat.Template.Scanner
import BraceFormat.Number.Round
import BraceFormat.Number.Decimal
import BraceFormat.Number.Binary64
import BraceFormat.Number.Shortest
import BraceFormat.Number.Fraction
import BraceFormat.Value.Basic
import BraceFormat.Value.Literal
import BraceFormat.Value.Pretty
import BraceFormat.Value.Bound
import BraceFormat.Error
import BraceFormat.Render.Padding
import BraceFormat.Render.Conversion
import BraceFormat.Config
import BraceFormat.Render.Arguments
import BraceFormat.Render.Engine
import BraceFormat.About
import BraceFormat.Main
import BraceFormat.Proofs.Tokens
import BraceFormat.Proofs.Lexeme
import BraceFormat.Proofs.Reading
import BraceFormat.Proofs.Numerals
import BraceFormat.Proofs.SpecText
import BraceFormat.Proofs.CanonicalText
import BraceFormat.Proofs.Binding
import BraceFormat.Proofs.ImplicitArguments
import BraceFormat.Proofs.FirstFailure
import BraceFormat.Proofs.Narrowing
import BraceFormat.Proofs.StrictMode
import BraceFormat.Proofs.CallFailures
import BraceFormat.Proofs.CountLimit
import BraceFormat.Proofs.Grammar
import BraceFormat.Proofs.BaseDigits
import BraceFormat.Proofs.FixedPoint
import BraceFormat.Proofs.Scientific
import BraceFormat.Proofs.ShortestDigits
import BraceFormat.Proofs.PlainLayout
import BraceFormat.Proofs.RenderRefusals
import BraceFormat.Proofs.PaddingLaw
