import Highlight.Main
import Highlight.Unicode.Fold
import Highlight.Proofs.Pattern.ClassLookahead
import Highlight.Proofs.Pattern.HeaderLookahead
import Highlight.Proofs.Pattern.CaptureIndex
import Highlight.Proofs.Pattern.Embedding
import Highlight.Proofs.Pattern.ClassReads
import Highlight.Proofs.Pattern.Reads
import Highlight.Proofs.Pattern.Parts
import Highlight.Proofs.Pair.KnownTree
import Highlight.Proofs.Pair.KnownText
import Highlight.Proofs.Pair.KnownGroups
import Highlight.Proofs.Pair.ResidualGroup
import Highlight.Proofs.Pair.GenericRule
import Highlight.Proofs.Placeholder
import Highlight.Proofs.Template.Pieces
import Highlight.Proofs.Template.Piecewise
import Highlight.Proofs.Json.Number
import Highlight.Proofs.Json.String
import Highlight.Proofs.Json.Lexer
import Highlight.Proofs.Json.Outline
import Highlight.Proofs.Json.Printed
import Highlight.Proofs.Style
import Highlight.Proofs.Json.Resolved
import Highlight.Proofs.Template.Content
import Highlight.Proofs.Template.Slots
import Highlight.Proofs.Template.Document
import Highlight.Proofs.Template.Leftover
import Highlight.Proofs.Path
import Highlight.Proofs.Dictionary
import Highlight.Proofs.Disk.Places
import Highlight.Proofs.Disk.Growth
import Highlight.Proofs.Disk.Files
import Highlight.Proofs.Host
import Highlight.Proofs.Production.Names
import Highlight.Proofs.Production.Causes
import Highlight.Proofs.Production.Step
import Highlight.Proofs.Production.Progress
import Highlight.Proofs.Production.Run
import Highlight.Proofs.Production.Independence
import Highlight.Proofs.Json.Decoded
import Highlight.Proofs.Rule
import Highlight.Proofs.Template.Strings
import Highlight.Proofs.Program
import Highlight.Proofs.History
import Highlight.Proofs.Style.Resolution
import Highlight.Proofs.Tokenless
import Highlight.Proofs.Template.Settled
import Highlight.Proofs.Pair.Tokenless
import Highlight.Proofs.Template.Namespaces
import Highlight.Proofs.Generator
import Highlight.Proofs.Registration
import Highlight.Proofs.Template.Split
import Highlight.Proofs.Json.Commuting
import Highlight.Proofs.Pattern.Numbering
import Highlight.Proofs.Attribute
import Highlight.Proofs.Pair.Synthesis
import Highlight.Proofs.CharSet
import Highlight.Proofs.Pair.Quoting
import Highlight.Proofs.Toml
import Highlight.Proofs.Settings
import Highlight.Proofs.Arguments
import Highlight.Proofs.Layers
