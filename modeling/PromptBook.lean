import PromptBook.Cache
import PromptBook.Command.Arguments
import PromptBook.Command.Logs
import PromptBook.Command.Run
import PromptBook.Dictionary
import PromptBook.Document.Json
import PromptBook.Document.Mismatch
import PromptBook.Document.Record
import PromptBook.Document.Variant
import PromptBook.Engine
import PromptBook.Exchange.Backend
import PromptBook.Exchange.Basic
import PromptBook.Exchange.Codec
import PromptBook.Files.Failure
import PromptBook.Files.Path
import PromptBook.Files.Tree
import PromptBook.Json.Basic
import PromptBook.Json.Printer
import PromptBook.Json.Reader
import PromptBook.Legacy.Block
import PromptBook.Legacy.Document
import PromptBook.Legacy.Section
import PromptBook.Loader
import PromptBook.Main
import PromptBook.Manager
import PromptBook.Number.Binary
import PromptBook.Number.Layout
import PromptBook.Number.Shortest
import PromptBook.Placeholder
import PromptBook.Project
import PromptBook.Proofs.Cache.Entries
import PromptBook.Proofs.Cache.Inclusion
import PromptBook.Proofs.Cache.Promotions
import PromptBook.Proofs.Cache.Protection
import PromptBook.Proofs.Cache.Recency
import PromptBook.Proofs.Cache.Uses
import PromptBook.Proofs.Command.Answers
import PromptBook.Proofs.Command.Reading
import PromptBook.Proofs.Command.Validation
import PromptBook.Proofs.Dictionary.Agreement
import PromptBook.Proofs.Dictionary.Entries
import PromptBook.Proofs.Dictionary.Filling
import PromptBook.Proofs.Dictionary.Puts
import PromptBook.Proofs.Document.Reading
import PromptBook.Proofs.Engine.Delivery
import PromptBook.Proofs.Engine.Dispatch
import PromptBook.Proofs.Engine.Influence
import PromptBook.Proofs.Engine.Links
import PromptBook.Proofs.Engine.Messages
import PromptBook.Proofs.Engine.RawPlaceholders
import PromptBook.Proofs.Engine.Turns
import PromptBook.Proofs.Exchange.Echo
import PromptBook.Proofs.Exchange.RoundTrip
import PromptBook.Proofs.Files.Folder
import PromptBook.Proofs.Files.Names
import PromptBook.Proofs.Files.Soundness
import PromptBook.Proofs.Files.Walking
import PromptBook.Proofs.Itemwise
import PromptBook.Proofs.Json.Reordering
import PromptBook.Proofs.Legacy.Bytes
import PromptBook.Proofs.Legacy.Grammar
import PromptBook.Proofs.Legacy.Keywords
import PromptBook.Proofs.Legacy.Labels
import PromptBook.Proofs.Legacy.Lifting
import PromptBook.Proofs.Legacy.Passages
import PromptBook.Proofs.Legacy.Places
import PromptBook.Proofs.Legacy.Relifting
import PromptBook.Proofs.Legacy.Scanning
import PromptBook.Proofs.Legacy.Sectioning
import PromptBook.Proofs.Legacy.Validity
import PromptBook.Proofs.Legacy.Writing
import PromptBook.Proofs.Loader.Independence
import PromptBook.Proofs.Loader.Outcome
import PromptBook.Proofs.Manager.Admission
import PromptBook.Proofs.Manager.CacheTransparency
import PromptBook.Proofs.Manager.Cases
import PromptBook.Proofs.Manager.Collisions
import PromptBook.Proofs.Manager.Confinement
import PromptBook.Proofs.Manager.Counting
import PromptBook.Proofs.Manager.Directory
import PromptBook.Proofs.Manager.Failures
import PromptBook.Proofs.Manager.Forgetting
import PromptBook.Proofs.Manager.Listing
import PromptBook.Proofs.Manager.OwnNames
import PromptBook.Proofs.Manager.Reloading
import PromptBook.Proofs.Manager.Running
import PromptBook.Proofs.Manager.Staying
import PromptBook.Proofs.Manager.Steps
import PromptBook.Proofs.Manager.Strictness
import PromptBook.Proofs.Manager.Vetting
import PromptBook.Proofs.Number.Exactness
import PromptBook.Proofs.Placeholder.Braces
import PromptBook.Proofs.Placeholder.Distinct
import PromptBook.Proofs.Placeholder.Occurrences
import PromptBook.Proofs.Substitution.Exposure
import PromptBook.Proofs.Substitution.Influence
import PromptBook.Proofs.Substitution.Links
import PromptBook.Proofs.Substitution.Markup
import PromptBook.Proofs.Substitution.SinglePass
import PromptBook.Proofs.Template.Clock
import PromptBook.Proofs.Template.Defaults
import PromptBook.Proofs.Template.Defects
import PromptBook.Proofs.Template.Findings
import PromptBook.Proofs.Template.References
import PromptBook.Proofs.Template.RoundTrip
import PromptBook.Proofs.Text.Casing
import PromptBook.Proofs.Text.Encoding
import PromptBook.Proofs.Text.Runs
import PromptBook.Proofs.Text.Slugs
import PromptBook.Proofs.Text.Trimming
import PromptBook.Proofs.Text.Words
import PromptBook.Proofs.Time.Writing
import PromptBook.Source
import PromptBook.Structured
import PromptBook.Substitution
import PromptBook.Template.Basic
import PromptBook.Template.Codec
import PromptBook.Template.Error
import PromptBook.Text.Blank
import PromptBook.Text.Digits
import PromptBook.Text.Letters
import PromptBook.Text.Quoted
import PromptBook.Text.Slug
import PromptBook.Time.Timestamp
import PromptBook.Validation
import PromptBook.Yaml.Cursor
import PromptBook.Yaml.Document
import PromptBook.Yaml.Failure
import PromptBook.Yaml.Node
import PromptBook.Yaml.Plain
import PromptBook.Yaml.Scalar
import PromptBook.Yaml.Token
import PromptBook.Yaml.Token.Lexer
import PromptBook.Yaml.Value
