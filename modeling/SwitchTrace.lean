import SwitchTrace.Byte.Cursor
import SwitchTrace.Byte.LittleEndian
import SwitchTrace.Calendar.Day
import SwitchTrace.Calendar.Moment
import SwitchTrace.Calendar.Text
import SwitchTrace.Capture.Basic
import SwitchTrace.Capture.Codec
import SwitchTrace.Capture.Device
import SwitchTrace.Capture.Dump
import SwitchTrace.Capture.Fault
import SwitchTrace.Capture.Fields
import SwitchTrace.Capture.Frame
import SwitchTrace.Capture.Record
import SwitchTrace.Capture.Report
import SwitchTrace.Capture.Uuid
import SwitchTrace.Clock.Device
import SwitchTrace.Clock.Map
import SwitchTrace.Command.Basic
import SwitchTrace.Command.Options
import SwitchTrace.Command.Run
import SwitchTrace.Diagnostic
import SwitchTrace.Export.Json
import SwitchTrace.Export.TraceEvents
import SwitchTrace.Files.Captures
import SwitchTrace.Files.Consumer
import SwitchTrace.Files.Path
import SwitchTrace.Files.Tree
import SwitchTrace.Log
import SwitchTrace.Main
import SwitchTrace.Numeric.Binary64
import SwitchTrace.Numeric.Decimal
import SwitchTrace.Numeric.DecimalText
import SwitchTrace.Numeric.DigitLimit
import SwitchTrace.Numeric.FloatText
import SwitchTrace.Numeric.Number
import SwitchTrace.Numeric.NumberText
import SwitchTrace.Numeric.Power
import SwitchTrace.Numeric.Rounding
import SwitchTrace.Proofs.Byte.Field
import SwitchTrace.Proofs.Capture.Element
import SwitchTrace.Proofs.Capture.Extent
import SwitchTrace.Proofs.Capture.Image
import SwitchTrace.Proofs.Capture.Language
import SwitchTrace.Proofs.Capture.Reading
import SwitchTrace.Proofs.Capture.Writing
import SwitchTrace.Proofs.Text.Utf8
import SwitchTrace.Settings.Basic
import SwitchTrace.Settings.Check
import SwitchTrace.Settings.Environment
import SwitchTrace.Settings.Load
import SwitchTrace.Settings.Template
import SwitchTrace.Settings.Threshold
import SwitchTrace.Synthetic.Demo
import SwitchTrace.Synthetic.Generator
import SwitchTrace.Synthetic.MersenneTwister
import SwitchTrace.Synthetic.RandomSource
import SwitchTrace.Terminal.Colour
import SwitchTrace.Terminal.ColumnRuns
import SwitchTrace.Terminal.Columns
import SwitchTrace.Terminal.Highlight
import SwitchTrace.Terminal.Literal
import SwitchTrace.Terminal.Marked
import SwitchTrace.Terminal.Markup
import SwitchTrace.Terminal.Pictograph
import SwitchTrace.Terminal.Pictograph.Beings
import SwitchTrace.Terminal.Pictograph.Flags
import SwitchTrace.Terminal.Pictograph.Objects
import SwitchTrace.Terminal.Pictograph.Sequences
import SwitchTrace.Terminal.Pictograph.Signs
import SwitchTrace.Terminal.Pictograph.Toned
import SwitchTrace.Terminal.Printed
import SwitchTrace.Terminal.Style
import SwitchTrace.Terminal.Table
import SwitchTrace.Terminal.Wrap
import SwitchTrace.Text.Alphanumeric
import SwitchTrace.Text.Blank
import SwitchTrace.Text.CharacterName
import SwitchTrace.Text.CharacterName.VolumeA
import SwitchTrace.Text.CharacterName.VolumeB
import SwitchTrace.Text.CharacterName.VolumeC
import SwitchTrace.Text.CharacterName.VolumeDToF
import SwitchTrace.Text.CharacterName.VolumeGToK
import SwitchTrace.Text.CharacterName.VolumeL
import SwitchTrace.Text.CharacterName.VolumeM
import SwitchTrace.Text.CharacterName.VolumeNToR
import SwitchTrace.Text.CharacterName.VolumeS
import SwitchTrace.Text.CharacterName.VolumeTToZ
import SwitchTrace.Text.HexDigit
import SwitchTrace.Text.LetterCase
import SwitchTrace.Text.Letters
import SwitchTrace.Text.Pad
import SwitchTrace.Text.Pattern
import SwitchTrace.Text.Printable
import SwitchTrace.Text.Quoted
import SwitchTrace.Text.SmallLetters
import SwitchTrace.Text.Split
import SwitchTrace.Text.Stream
import SwitchTrace.Text.Utf8
import SwitchTrace.Timeline.Event
import SwitchTrace.Timeline.Pool
import SwitchTrace.Timeline.Stream
import SwitchTrace.Value.Basic
import SwitchTrace.Value.Show
import SwitchTrace.Yaml.Character
import SwitchTrace.Yaml.DateForm
import SwitchTrace.Yaml.Lexeme
import SwitchTrace.Yaml.Load
import SwitchTrace.Yaml.Node
import SwitchTrace.Yaml.Plain
import SwitchTrace.Yaml.Token
import SwitchTrace.Yaml.Writer
import SwitchTrace.Proofs.Capture.Continuation
import SwitchTrace.Proofs.Capture.Newer
import SwitchTrace.Proofs.Text.Segment
import SwitchTrace.Proofs.Capture.Canonical
import SwitchTrace.Proofs.Numeric.Nearest
import SwitchTrace.Proofs.Numeric.Range
import SwitchTrace.Proofs.Clock.Range
import SwitchTrace.Proofs.Timeline.Pool
import SwitchTrace.Proofs.Timeline.Adaptation
import SwitchTrace.Proofs.Timeline.Session
import SwitchTrace.Proofs.Files.Consumption
import SwitchTrace.Proofs.Numeric.Shortest
import SwitchTrace.Proofs.Export.Document
import SwitchTrace.Proofs.Clock.Window
import SwitchTrace.Proofs.Export.Origin
import SwitchTrace.Proofs.Timeline.Conversion
import SwitchTrace.Proofs.Command.Export
import SwitchTrace.Proofs.Settings.Keys
import SwitchTrace.Proofs.Numeric.Exact
import SwitchTrace.Proofs.Clock.Order
import SwitchTrace.Proofs.Timeline.Order
import SwitchTrace.Proofs.Clock.Anchors
import SwitchTrace.Proofs.Numeric.Relative
import SwitchTrace.Proofs.Clock.Accuracy
import SwitchTrace.Proofs.Terminal.Escape
import SwitchTrace.Proofs.Settings.Loading
import SwitchTrace.Proofs.Terminal.Printing
import SwitchTrace.Proofs.Command.Validation
import SwitchTrace.Proofs.Clock.Laws
import SwitchTrace.Proofs.Capture.ProcessorTime
import SwitchTrace.Proofs.Clock.Merging
import SwitchTrace.Proofs.Text.Cut
import SwitchTrace.Proofs.Capture.Name
import SwitchTrace.Proofs.Capture.Limits
import SwitchTrace.Proofs.Files.Storing
import SwitchTrace.Proofs.Capture.Calls
import SwitchTrace.Proofs.Numeric.Division
import SwitchTrace.Proofs.Export.Order
import SwitchTrace.Proofs.Yaml.WholeNumber
import SwitchTrace.Proofs.Export.Divisor
import SwitchTrace.Proofs.Synthetic.Outcome
import SwitchTrace.Proofs.Synthetic.Shape
import SwitchTrace.Proofs.Synthetic.Demo
import SwitchTrace.Proofs.Settings.Token
import SwitchTrace.Proofs.Settings.Substitution
import SwitchTrace.Proofs.Text.Stream
import SwitchTrace.Proofs.Yaml.Printed
import SwitchTrace.Proofs.Settings.RoundTrip
import SwitchTrace.Proofs.Files.Probing
import SwitchTrace.Proofs.Text.Numeral
import SwitchTrace.Proofs.Capture.Dump
import SwitchTrace.Proofs.Timeline.Naming
import SwitchTrace.Proofs.Capture.Offsets
import SwitchTrace.Proofs.Numeric.Whole
import SwitchTrace.Proofs.Clock.Unscaled
