import IspcShader.Text.Basic
import IspcShader.Text.Alphanumeric
import IspcShader.Text.GraphemeExtend
import IspcShader.Text.NonGraphic
import IspcShader.Text.Blank
import IspcShader.Text.Word
import IspcShader.Text.Search
import IspcShader.Text.Lines
import IspcShader.Text.Quoted
import IspcShader.Macro.Bracket
import IspcShader.Macro.Invocation
import IspcShader.Declaration
import IspcShader.Marker
import IspcShader.Vector.Basic
import IspcShader.Vector.Lowering
import IspcShader.Text.Utf8
import IspcShader.File.Path
import IspcShader.Job
import IspcShader.Struct
import IspcShader.Resource
import IspcShader.Event
import IspcShader.Dispatch.Grid
import IspcShader.Dispatch.Formula
import IspcShader.Dispatch.Wrapper
import IspcShader.EntryPoint.Marker
import IspcShader.EntryPoint.Builtin
import IspcShader.EntryPoint.Basic
import IspcShader.Compilation.Header
import IspcShader.Compilation.Draft
import IspcShader.Compilation.Step
import IspcShader.Compilation.Basic
import IspcShader.Compilation.Build
import IspcShader.File.Fault
import IspcShader.File.Store
import IspcShader.Command.Settings
import IspcShader.Command.Arguments
import IspcShader.Command.Run
import IspcShader.Main
import IspcShader.Proofs.Text.Word
import IspcShader.Proofs.Text.Piece
import IspcShader.Proofs.Lowering.Pass
import IspcShader.Proofs.Lowering.Scan
import IspcShader.Proofs.Lowering.Repetition
import IspcShader.Proofs.Text.Search
import IspcShader.Proofs.Macro.Call
import IspcShader.Proofs.EntryPoint.Coordinate
import IspcShader.Proofs.EntryPoint.Agreement
import IspcShader.Proofs.Compilation.Rules
import IspcShader.Proofs.Compilation.Threading
import IspcShader.Proofs.Dispatch.Numbering
import IspcShader.Proofs.Dispatch.Reading
import IspcShader.Proofs.Dispatch.Refinement
import IspcShader.Proofs.Text.Infix
import IspcShader.Proofs.Macro.Argument
import IspcShader.Proofs.Declaration.Reading
import IspcShader.Proofs.Lowering.Closing
import IspcShader.Proofs.Compilation.Closing
import IspcShader.Proofs.Compilation.Member
import IspcShader.Proofs.Compilation.Block
import IspcShader.Proofs.Compilation.Output
import IspcShader.Proofs.EntryPoint.Lookup
import IspcShader.Proofs.Compilation.SingleLine
import IspcShader.Proofs.Compilation.Extraction
import IspcShader.Proofs.Macro.Tally
import IspcShader.Proofs.EntryPoint.Arity
import IspcShader.Proofs.Compilation.Diagnosis
import IspcShader.Proofs.Macro.Nesting
import IspcShader.Proofs.Declaration.Printing
import IspcShader.Proofs.Lowering.Append
import IspcShader.Proofs.Compilation.SourceLines
import IspcShader.Proofs.Compilation.Lockstep
import IspcShader.Proofs.Compilation.Policy
import IspcShader.Proofs.Compilation.Capability
import IspcShader.Proofs.File.Atomic
import IspcShader.Proofs.Compilation.Sequence
import IspcShader.Proofs.Text.Slice
import IspcShader.Proofs.Macro.FirstCall
import IspcShader.Proofs.Lowering.NormalForm
import IspcShader.Proofs.EntryPoint.ExportName
import IspcShader.Proofs.File.Change
import IspcShader.Proofs.Command.Parameter
import IspcShader.Proofs.Text.Utf8
import IspcShader.Proofs.Text.Lines
import IspcShader.Proofs.Command.Description
import IspcShader.Proofs.Command.Outcome
import IspcShader.Proofs.Compilation.PassThrough
import IspcShader.Proofs.Macro.Split
import IspcShader.Proofs.Resource.Parameter
import IspcShader.Proofs.Compilation.EntryName
import IspcShader.Proofs.EntryPoint.Listing
import IspcShader.Proofs.EntryPoint.Accounting
import IspcShader.Proofs.EntryPoint.Component
import IspcShader.Proofs.Declaration.Opening
import IspcShader.Proofs.Dispatch.Hygiene
import IspcShader.Proofs.Dispatch.Overflow
import IspcShader.Proofs.Compilation.Directive
import IspcShader.Proofs.Compilation.HeaderText
import IspcShader.Proofs.EntryPoint.Boundary
import IspcShader.Proofs.Text.SearchLoop
import IspcShader.Proofs.Compilation.Looping
import IspcShader.Proofs.Command.Termination
