import EscapeTime.Complex.Basic
import EscapeTime.Complex.Elementary
import EscapeTime.Complex.Hypot
import EscapeTime.Complex.Power
import EscapeTime.Config
import EscapeTime.Decimal.Layout
import EscapeTime.Decimal.Numeral
import EscapeTime.Decimal.Shortest
import EscapeTime.Error
import EscapeTime.Formula.Diagnostic
import EscapeTime.Formula.Document
import EscapeTime.Formula.Expr
import EscapeTime.Formula.Parse
import EscapeTime.Formula.SyntaxTree
import EscapeTime.Formula.Vocabulary
import EscapeTime.Json.Basic
import EscapeTime.Json.Decode
import EscapeTime.Json.Lexer
import EscapeTime.Json.Number
import EscapeTime.Json.Printer
import EscapeTime.Json.Reader
import EscapeTime.Kernel.Basic
import EscapeTime.Kernel.Block
import EscapeTime.Kernel.Compile
import EscapeTime.Kernel.Evaluator
import EscapeTime.Kernel.Text
import EscapeTime.Main
import EscapeTime.Picture.Document
import EscapeTime.Picture.Histogram
import EscapeTime.Picture.Palette
import EscapeTime.Picture.Ppm
import EscapeTime.Picture.Rgb
import EscapeTime.Plane.Document
import EscapeTime.Plane.Engine
import EscapeTime.Plane.Grid
import EscapeTime.Plane.Orbit
import EscapeTime.Proofs.Complex.Double
import EscapeTime.Proofs.Complex.Squaring
import EscapeTime.Proofs.Complex.Zero
import EscapeTime.Proofs.Config
import EscapeTime.Proofs.Formula.Bracketed
import EscapeTime.Proofs.Formula.Document
import EscapeTime.Proofs.Formula.Extent
import EscapeTime.Proofs.Formula.Grammar
import EscapeTime.Proofs.Formula.InPlace
import EscapeTime.Proofs.Formula.Layout
import EscapeTime.Proofs.Formula.Normal
import EscapeTime.Proofs.Formula.Numeral
import EscapeTime.Proofs.Formula.Places
import EscapeTime.Proofs.Formula.Reading
import EscapeTime.Proofs.Formula.Report
import EscapeTime.Proofs.Formula.Root
import EscapeTime.Proofs.Formula.Scan
import EscapeTime.Proofs.Formula.Sexpr
import EscapeTime.Proofs.Formula.Spelling
import EscapeTime.Proofs.Formula.Strict
import EscapeTime.Proofs.Formula.Value
import EscapeTime.Proofs.Formula.Yield
import EscapeTime.Proofs.Json.Decode
import EscapeTime.Proofs.Json.Number
import EscapeTime.Proofs.Json.Text
import EscapeTime.Proofs.Kernel.Agreement
import EscapeTime.Proofs.Kernel.Discipline
import EscapeTime.Proofs.Kernel.Lossless
import EscapeTime.Proofs.Kernel.Registers
import EscapeTime.Proofs.Kernel.Safety
import EscapeTime.Proofs.Kernel.Script
import EscapeTime.Proofs.Kernel.Simulation
import EscapeTime.Proofs.Kernel.Unrecognized
import EscapeTime.Proofs.Picture.Document
import EscapeTime.Proofs.Picture.Gradient
import EscapeTime.Proofs.Picture.Histogram
import EscapeTime.Proofs.Picture.Palette
import EscapeTime.Proofs.Picture.Ppm
import EscapeTime.Proofs.Picture.Rgb
import EscapeTime.Proofs.Plane.Document
import EscapeTime.Proofs.Plane.Grid
import EscapeTime.Proofs.Plane.Limit
import EscapeTime.Proofs.Plane.Orbit
import EscapeTime.Proofs.Plane.Workers
import EscapeTime.Proofs.Render
import EscapeTime.Proofs.Shell.FileTree
import EscapeTime.Proofs.Shell.Picture
import EscapeTime.Proofs.Shell.Transcript
import EscapeTime.Proofs.Shell.Value
import EscapeTime.Proofs.Size
import EscapeTime.Proofs.Text.Quoted
import EscapeTime.Proofs.Text.Words
import EscapeTime.Shell.CommandLine
import EscapeTime.Shell.FileTree
import EscapeTime.Shell.Help
import EscapeTime.Shell.Session
import EscapeTime.Text.Basic
import EscapeTime.Text.Cased
import EscapeTime.Text.LowerCase
import EscapeTime.Text.Quoted
