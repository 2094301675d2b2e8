import BoardSupervisor.Action.Basic
import BoardSupervisor.Action.Board
import BoardSupervisor.Action.Event
import BoardSupervisor.Command.ClockControl
import BoardSupervisor.Command.Interpreter
import BoardSupervisor.Command.Request
import BoardSupervisor.Console
import BoardSupervisor.Editor
import BoardSupervisor.Files
import BoardSupervisor.Frequency
import BoardSupervisor.Log
import BoardSupervisor.Machine.Basic
import BoardSupervisor.Machine.Clock
import BoardSupervisor.Machine.Memory
import BoardSupervisor.Machine.Registers
import BoardSupervisor.Main
import BoardSupervisor.Number.Binary64
import BoardSupervisor.Number.Decimal
import BoardSupervisor.Number.Digits
import BoardSupervisor.Number.Shown
import BoardSupervisor.Options.Arguments
import BoardSupervisor.Options.Basic
import BoardSupervisor.Options.Value
import BoardSupervisor.Program
import BoardSupervisor.Proofs.Clock.Agreement
import BoardSupervisor.Proofs.Clock.BusTrace
import BoardSupervisor.Proofs.Clock.Commitment
import BoardSupervisor.Proofs.Clock.CycleCount
import BoardSupervisor.Proofs.Clock.Remainder
import BoardSupervisor.Proofs.Clock.TracedSpeed
import BoardSupervisor.Proofs.Command.Effect
import BoardSupervisor.Proofs.Command.FileAddress
import BoardSupervisor.Proofs.Command.Frame
import BoardSupervisor.Proofs.Command.LeadingTokens
import BoardSupervisor.Proofs.Command.LetterCase
import BoardSupervisor.Proofs.Command.Refusal
import BoardSupervisor.Proofs.Command.Repetition
import BoardSupervisor.Proofs.Command.Resolution
import BoardSupervisor.Proofs.Command.RomWindow
import BoardSupervisor.Proofs.Command.Unlogged
import BoardSupervisor.Proofs.Console.Answer
import BoardSupervisor.Proofs.Console.EscapeKey
import BoardSupervisor.Proofs.Console.FailingLine
import BoardSupervisor.Proofs.Console.LineMode
import BoardSupervisor.Proofs.Console.MemoryHistory
import BoardSupervisor.Proofs.Console.Occasion
import BoardSupervisor.Proofs.Console.Pacing
import BoardSupervisor.Proofs.Console.Quotation
import BoardSupervisor.Proofs.Console.Router
import BoardSupervisor.Proofs.Console.Run
import BoardSupervisor.Proofs.Console.Screen
import BoardSupervisor.Proofs.Console.SerialPort
import BoardSupervisor.Proofs.Console.Stretch
import BoardSupervisor.Proofs.Console.Visit
import BoardSupervisor.Proofs.Files.Agreement
import BoardSupervisor.Proofs.Files.Confinement
import BoardSupervisor.Proofs.Files.Lookup
import BoardSupervisor.Proofs.Files.Straying
import BoardSupervisor.Proofs.Frequency.Language
import BoardSupervisor.Proofs.Frequency.LongestNumber
import BoardSupervisor.Proofs.Frequency.Meaning
import BoardSupervisor.Proofs.Machine.Listing
import BoardSupervisor.Proofs.Number.Addresses
import BoardSupervisor.Proofs.Number.DigitRuns
import BoardSupervisor.Proofs.Number.Grammar
import BoardSupervisor.Proofs.Number.LetterCase
import BoardSupervisor.Proofs.Number.Levels
import BoardSupervisor.Proofs.Number.Magnitude
import BoardSupervisor.Proofs.Number.Parts
import BoardSupervisor.Proofs.Number.Rounding
import BoardSupervisor.Proofs.Number.Unpacking
import BoardSupervisor.Proofs.Number.WholePart
import BoardSupervisor.Proofs.Options.KeyCode
import BoardSupervisor.Proofs.Text.Layout
import BoardSupervisor.Proofs.Text.LetterCase
import BoardSupervisor.Proofs.Text.Transparency
import BoardSupervisor.Rom
import BoardSupervisor.SerialLine
import BoardSupervisor.Text.Basic
import BoardSupervisor.Text.Clusters
import BoardSupervisor.Text.CodeTables
import BoardSupervisor.Text.Quoted
