import MudClient.Proofs.Markup.Delimiter
import MudClient.Command.Startup
import MudClient.Command.Run
import MudClient.Command.Arguments
import MudClient.Command.Help
import MudClient.Command.TagLabel
import MudClient.Command.InputLine
import MudClient.Command.Binding
import MudClient.Text.Utf8
import MudClient.Console.Table
import MudClient.Console.Wrap
import MudClient.Console.Markup
import MudClient.Console.CellWidth
import MudClient.Concurrency.ReadersWriterLock
import MudClient.Session.Run
import MudClient.Session.Action
import MudClient.Variables.Expansion
import MudClient.Events.Board
import MudClient.Events.Hub
import MudClient.Stream.GameEvent
import MudClient.Variables.Store
import MudClient.Variables.Binding
import MudClient.Given
import MudClient.Settings
import MudClient.Calendar.Format
import MudClient.Proofs.Calendar.Format
import MudClient.Calendar.Moment
import MudClient.Text.CharacterReference
import MudClient.Text.NamedCharacter
import MudClient.Text.Numeral
import MudClient.Reference.Expand
import MudClient.Pattern.Cache
import MudClient.Pattern.Template
import MudClient.Pattern.Matcher
import MudClient.Pattern.Reader
import MudClient.Pattern.Flags
import MudClient.Pattern.Escape
import MudClient.Pattern.Source
import MudClient.Text.Integer
import MudClient.Pattern.Problem
import MudClient.Pattern.Syntax
import MudClient.Script.Lexer
import MudClient.Stream.RoomTitle
import MudClient.Markup.Line
import MudClient.Markup.Scan
import MudClient.Markup.TagReading
import MudClient.Markup.AttributeValue
import MudClient.OrderedMap
import MudClient.Text.Blank
import MudClient.Text.LineBreak
import MudClient.Text.LowerCase
import MudClient.Text.Quoted
import MudClient.Text.Word
import MudClient.Proofs.Markup.Writing
import MudClient.Proofs.Markup.Reading
import MudClient.Proofs.Markup.TextRun
import MudClient.Proofs.Markup.RoundTrip
import MudClient.Proofs.Markup.Segmentation
import MudClient.Proofs.Markup.Forest
import MudClient.Proofs.Markup.Repair
import MudClient.Proofs.Stream.RoomTitle
import MudClient.Proofs.Pattern.Reading
import MudClient.Proofs.Reference.Pattern
import MudClient.Proofs.Pattern.Matching
import MudClient.Proofs.Reference.Piece
import MudClient.Proofs.Pattern.Cache
import MudClient.Proofs.Reference.Pass
import MudClient.Proofs.Reference.Form
import MudClient.Proofs.Reference.Ending
import MudClient.Proofs.Reference.Frame
import MudClient.Proofs.Reference.Lookup
import MudClient.Proofs.Reference.Indexing
import MudClient.Proofs.Reference.Simultaneous
import MudClient.Proofs.Reference.Error
import MudClient.Proofs.Concurrency.Counting
import MudClient.Proofs.Concurrency.WakeUp
import MudClient.Proofs.Reference.Growth
import MudClient.Session.Dispatch
import MudClient.Proofs.Variables.Contents
import MudClient.Proofs.Session.Delivery
import MudClient.Proofs.Session.Schedule
import MudClient.Proofs.Script.Written
import MudClient.Proofs.Session.Computed
import MudClient.Proofs.Variables.Observers
import MudClient.Proofs.Events.Course
import MudClient.Proofs.Events.Nesting
import MudClient.Proofs.Markup.InnerText
import MudClient.Proofs.Pattern.Requests
import MudClient.Proofs.Markup.QuotedValue
import MudClient.Proofs.Reference.Occurrence
import MudClient.Proofs.Reference.Glossary
import MudClient.Proofs.Reference.Division
import MudClient.Proofs.Reference.Unresolved
import MudClient.Proofs.Reference.Shortcut
import MudClient.Proofs.Reference.Fixpoint
import MudClient.Proofs.Script.Numbering
import MudClient.Proofs.Pattern.Extent
import MudClient.Proofs.Pattern.Views
import MudClient.Proofs.Text.CharacterReference
import MudClient.Proofs.Stream.Account
import MudClient.Proofs.Variables.Writes
import MudClient.Proofs.Session.Audience
import MudClient.Proofs.Markup.Walk
import MudClient.Proofs.Markup.Locality
import MudClient.Proofs.Markup.LineEnd
import MudClient.Variables.Access
import MudClient.Proofs.Variables.Access
import MudClient.Proofs.Variables.Shutdown
import MudClient.Proofs.Markup.Anatomy
