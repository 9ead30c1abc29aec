import FieldRules.Automaton.Basic
import FieldRules.Automaton.ByteRange
import FieldRules.Automaton.Class
import FieldRules.Automaton.Memo
import FieldRules.Automaton.Size
import FieldRules.Automaton.TextTree
import FieldRules.Binary64.Basic
import FieldRules.Binary64.Decimal
import FieldRules.Calendar.Day
import FieldRules.Calendar.Expression
import FieldRules.Calendar.Reader
import FieldRules.Calendar.Time
import FieldRules.Chain.Basic
import FieldRules.Chain.Script
import FieldRules.CharSet.Ascii
import FieldRules.CharSet.Basic
import FieldRules.CharSet.Case
import FieldRules.Compiler.Basic
import FieldRules.Compiler.Check
import FieldRules.Compiler.Nested
import FieldRules.Config
import FieldRules.ConfigError
import FieldRules.Environment
import FieldRules.Job
import FieldRules.Message
import FieldRules.Params
import FieldRules.Pattern.Basic
import FieldRules.Pattern.Class
import FieldRules.Pattern.Escape
import FieldRules.Pattern.Mode
import FieldRules.Pattern.Normal
import FieldRules.Pattern.Reader
import FieldRules.Pattern.Standard
import FieldRules.Proofs.Binary64.Decimal
import FieldRules.Proofs.Binary64.Exact
import FieldRules.Proofs.Binary64.Nearest
import FieldRules.Proofs.Binary64.Rational
import FieldRules.Proofs.Binary64.Remainder
import FieldRules.Proofs.Binary64.Shortest
import FieldRules.Proofs.Binary64.Whole
import FieldRules.Proofs.Calendar.Boundary
import FieldRules.Proofs.Calendar.Offset
import FieldRules.Proofs.Calendar.Reach
import FieldRules.Proofs.Calendar.Time
import FieldRules.Proofs.Chain.Account
import FieldRules.Proofs.Chain.Alike
import FieldRules.Proofs.Chain.Shadow
import FieldRules.Proofs.Chain.Through
import FieldRules.Proofs.Chain.Visit
import FieldRules.Proofs.Compiler.Alike
import FieldRules.Proofs.Compiler.Base64
import FieldRules.Proofs.Compiler.Canonical
import FieldRules.Proofs.Compiler.Compiles
import FieldRules.Proofs.Compiler.Conjunction
import FieldRules.Proofs.Compiler.Dates
import FieldRules.Proofs.Compiler.DayRules
import FieldRules.Proofs.Compiler.Decision
import FieldRules.Proofs.Compiler.Declared
import FieldRules.Proofs.Compiler.Extended
import FieldRules.Proofs.Compiler.Foreign
import FieldRules.Proofs.Compiler.Forms
import FieldRules.Proofs.Compiler.Gate
import FieldRules.Proofs.Compiler.Integers
import FieldRules.Proofs.Compiler.Isolated
import FieldRules.Proofs.Compiler.Items
import FieldRules.Proofs.Compiler.Meaning
import FieldRules.Proofs.Compiler.Membership
import FieldRules.Proofs.Compiler.Offsets
import FieldRules.Proofs.Compiler.Opposites
import FieldRules.Proofs.Compiler.Patterns
import FieldRules.Proofs.Compiler.Remainder
import FieldRules.Proofs.Compiler.Restated
import FieldRules.Proofs.Compiler.Reworded
import FieldRules.Proofs.Compiler.Rewrites
import FieldRules.Proofs.Compiler.Shapes
import FieldRules.Proofs.Compiler.Sites
import FieldRules.Proofs.Compiler.Standard
import FieldRules.Proofs.Compiler.Vacuity
import FieldRules.Proofs.Config.Made
import FieldRules.Proofs.Environment
import FieldRules.Proofs.Job.Alone
import FieldRules.Proofs.Job.AtOnce
import FieldRules.Proofs.Job.Bounded
import FieldRules.Proofs.Job.Confined
import FieldRules.Proofs.Job.Ending
import FieldRules.Proofs.Job.Ends
import FieldRules.Proofs.Job.Ensures
import FieldRules.Proofs.Job.Keeps
import FieldRules.Proofs.Job.Matches
import FieldRules.Proofs.Job.Shadow
import FieldRules.Proofs.MapM
import FieldRules.Proofs.Message
import FieldRules.Proofs.Pattern.Matches
import FieldRules.Proofs.Pattern.Standard
import FieldRules.Proofs.Pattern.Steps
import FieldRules.Proofs.Record
import FieldRules.Proofs.Registry
import FieldRules.Proofs.Report
import FieldRules.Proofs.Rule.Alike
import FieldRules.Proofs.Rule.Bounded
import FieldRules.Proofs.Rule.Canonical
import FieldRules.Proofs.Rule.Conjunction
import FieldRules.Proofs.Rule.Decision
import FieldRules.Proofs.Rule.Effects
import FieldRules.Proofs.Rule.Finding
import FieldRules.Proofs.Rule.Foreign
import FieldRules.Proofs.Rule.Gate
import FieldRules.Proofs.Rule.InTurn
import FieldRules.Proofs.Rule.Inherited
import FieldRules.Proofs.Rule.Isolated
import FieldRules.Proofs.Rule.Judge
import FieldRules.Proofs.Rule.Match
import FieldRules.Proofs.Rule.Opposite
import FieldRules.Proofs.Rule.Reach
import FieldRules.Proofs.Rule.Rewrite
import FieldRules.Proofs.Rule.Sites
import FieldRules.Proofs.Rule.Traced
import FieldRules.Proofs.Session.Guarded
import FieldRules.Proofs.Session.InTurn
import FieldRules.Proofs.Session.Isolation
import FieldRules.Proofs.Session.Join
import FieldRules.Proofs.Session.Lifecycle
import FieldRules.Proofs.Session.Logged
import FieldRules.Proofs.Session.Marked
import FieldRules.Proofs.Session.Orderly
import FieldRules.Proofs.Session.Writes
import FieldRules.Proofs.Text.Base64
import FieldRules.Proofs.Text.Entities
import FieldRules.Proofs.Text.Escape
import FieldRules.Proofs.Text.Name
import FieldRules.Proofs.Text.Numeral
import FieldRules.Proofs.Text.Parts
import FieldRules.Proofs.Text.Split
import FieldRules.Proofs.Text.Tags
import FieldRules.Proofs.Text.WrittenNumeral
import FieldRules.Proofs.Validator
import FieldRules.Proofs.Value.Canonical
import FieldRules.Proofs.Value.Display
import FieldRules.Proofs.Value.Equal
import FieldRules.Proofs.Value.Equivalence
import FieldRules.Proofs.Value.Leading
import FieldRules.Proofs.Value.WellFormed
import FieldRules.Record
import FieldRules.Registry
import FieldRules.Report
import FieldRules.Rule.Basic
import FieldRules.Rule.Branch
import FieldRules.Rule.Check
import FieldRules.Rule.Extra
import FieldRules.Rule.Finding
import FieldRules.Rule.Membership
import FieldRules.Rule.Shape
import FieldRules.Rule.Siblings
import FieldRules.Rule.Spec
import FieldRules.Rule.Standard
import FieldRules.Rule.Transform
import FieldRules.Rule.Weight
import FieldRules.Session
import FieldRules.Text.Base64
import FieldRules.Text.Blank
import FieldRules.Text.Digit
import FieldRules.Text.Hex
import FieldRules.Text.Markup
import FieldRules.Text.Number
import FieldRules.Text.Split
import FieldRules.Unicode.Age
import FieldRules.Unicode.CaseFold
import FieldRules.Unicode.CaseRun
import FieldRules.Unicode.Category
import FieldRules.Unicode.Emoji
import FieldRules.Unicode.Letters
import FieldRules.Unicode.Marks
import FieldRules.Unicode.Name
import FieldRules.Unicode.Numerals
import FieldRules.Unicode.Property
import FieldRules.Unicode.Punctuation
import FieldRules.Unicode.Script
import FieldRules.Unicode.Segmentation
import FieldRules.Unicode.Separators
import FieldRules.Unicode.Symbols
import FieldRules.Unicode.Traits
import FieldRules.Unicode.Uppercase
import FieldRules.Validator
import FieldRules.Value.Basic
import FieldRules.Value.Entries
import FieldRules.Value.Numeral
import FieldRules.Value.Reader
import FieldRules.Value.Text
import FieldRules.Value.Weight
