import Adventure.Action.Statement
import Adventure.CommandLine.Run
import Adventure.Draft.Room
import Adventure.Game.Json
import Adventure.Game.Lint
import Adventure.Main
import Adventure.Markdown.Render
import Adventure.Project.Cause
import Adventure.Proofs.Action.Arguments
import Adventure.Proofs.Action.ClosingQuote
import Adventure.Proofs.Action.Integers
import Adventure.Proofs.Action.LongestMatch
import Adventure.Proofs.Action.MarkdownLiterals
import Adventure.Proofs.Action.Outcome
import Adventure.Proofs.Action.Pattern
import Adventure.Proofs.Action.Rendering
import Adventure.Proofs.Action.Scanning
import Adventure.Proofs.Action.Spelling
import Adventure.Proofs.CommandLine.Run
import Adventure.Proofs.Draft.Amount
import Adventure.Proofs.Draft.Compile
import Adventure.Proofs.Draft.ExactAmount
import Adventure.Proofs.Files.Path
import Adventure.Proofs.Files.Tree
import Adventure.Proofs.Files.Writing
import Adventure.Proofs.Game.Counts
import Adventure.Proofs.Game.Defaults
import Adventure.Proofs.Game.Lint
import Adventure.Proofs.Game.Map
import Adventure.Proofs.Game.RoundTrip
import Adventure.Proofs.Json.Literal
import Adventure.Proofs.Json.Range
import Adventure.Proofs.Json.Record
import Adventure.Proofs.Json.RoundTrip
import Adventure.Proofs.Markdown.Emoji
import Adventure.Proofs.Markdown.Shortcodes
import Adventure.Proofs.Project.Compile
import Adventure.Proofs.Project.Listing
import Adventure.Proofs.Project.Merge
import Adventure.Proofs.RoomFile.BlankMetadata
import Adventure.Proofs.RoomFile.Checks
import Adventure.Proofs.RoomFile.Content
import Adventure.Proofs.RoomFile.Entries
import Adventure.Proofs.RoomFile.FirstDefect
import Adventure.Proofs.RoomFile.Frontmatter
import Adventure.Proofs.RoomFile.Messages
import Adventure.Proofs.RoomFile.Names
import Adventure.Proofs.RoomFile.Reading
import Adventure.Proofs.RoomFile.Rendering
import Adventure.Proofs.Text.Bytes
import Adventure.Proofs.Yaml.Blank
import Adventure.Proofs.Yaml.Description
import Adventure.Proofs.Yaml.Record
import Adventure.RoomFile.Reading
