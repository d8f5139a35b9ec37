import PandocHtml.Console.Arguments
import PandocHtml.Console.Command
import PandocHtml.Console.Log
import PandocHtml.Delivery
import PandocHtml.Document.Attr
import PandocHtml.Document.Datum
import PandocHtml.Document.Digest
import PandocHtml.Document.PlainText
import PandocHtml.Document.Preorder
import PandocHtml.Document.Tree
import PandocHtml.Document.Walk
import PandocHtml.Fault
import PandocHtml.FaultRecord
import PandocHtml.FileEntry
import PandocHtml.Footnote.Collect
import PandocHtml.Footnote.Numbering
import PandocHtml.Highlight.Code
import PandocHtml.Highlight.Style
import PandocHtml.Host
import PandocHtml.Html.Attribute
import PandocHtml.Html.Escape
import PandocHtml.Html.StringOutput
import PandocHtml.Json.Basic
import PandocHtml.Json.Literal
import PandocHtml.Json.Reader
import PandocHtml.Json.Writer
import PandocHtml.Main
import PandocHtml.Markup.CharacterNames
import PandocHtml.Markup.Reference
import PandocHtml.Markup.Token
import PandocHtml.Markup.Tree
import PandocHtml.Markup.TreeOutput
import PandocHtml.Notice
import PandocHtml.Number.Binary64
import PandocHtml.Number.Shortest
import PandocHtml.Page.Options
import PandocHtml.Page.Renderer
import PandocHtml.Page.Template
import PandocHtml.Pandoc.Element
import PandocHtml.Pandoc.Load
import PandocHtml.Pandoc.Metadata
import PandocHtml.Pandoc.Shape
import PandocHtml.Proofs.Console.MalformedInput
import PandocHtml.Proofs.Document.AttributeOrder
import PandocHtml.Proofs.Document.CompleteWalk
import PandocHtml.Proofs.Document.Displayed
import PandocHtml.Proofs.Document.EqualNodes
import PandocHtml.Proofs.Document.Equality
import PandocHtml.Proofs.Document.FieldwiseEquality
import PandocHtml.Proofs.Document.Matching
import PandocHtml.Proofs.Document.Typed
import PandocHtml.Proofs.Footnote.FirstEncounter
import PandocHtml.Proofs.Footnote.KeyedBodies
import PandocHtml.Proofs.Html.Reader
import PandocHtml.Proofs.Html.RoundTrip
import PandocHtml.Proofs.Markup.Alike
import PandocHtml.Proofs.Markup.Printed
import PandocHtml.Proofs.Number.Binary64
import PandocHtml.Proofs.Pandoc.Contents
import PandocHtml.Proofs.Pandoc.Encoding
import PandocHtml.Proofs.Pandoc.InnermostFault
import PandocHtml.Proofs.Pandoc.Levels
import PandocHtml.Proofs.Pandoc.RelatedReadings
import PandocHtml.Proofs.Pandoc.StrayDocuments
import PandocHtml.Proofs.Pandoc.WellTyped
import PandocHtml.Proofs.Render.AlikeOutlines
import PandocHtml.Proofs.Render.Anchors
import PandocHtml.Proofs.Render.BackLinks
import PandocHtml.Proofs.Render.DecisionReports
import PandocHtml.Proofs.Render.Decisions
import PandocHtml.Proofs.Render.Diagnostics
import PandocHtml.Proofs.Render.EqualDocuments
import PandocHtml.Proofs.Render.EqualPlans
import PandocHtml.Proofs.Render.HookCalls
import PandocHtml.Proofs.Render.Limits
import PandocHtml.Proofs.Render.NestingDepth
import PandocHtml.Proofs.Render.Outlined
import PandocHtml.Proofs.Render.OwnAttributes
import PandocHtml.Proofs.Render.PlanShape
import PandocHtml.Proofs.Render.PreformattedText
import PandocHtml.Proofs.Render.RawContent
import PandocHtml.Proofs.Render.ReadText
import PandocHtml.Proofs.Render.References
import PandocHtml.Proofs.Render.Reported
import PandocHtml.Proofs.Render.Section
import PandocHtml.Proofs.Render.SharedNotes
import PandocHtml.Proofs.Render.SoundOutline
import PandocHtml.Proofs.Render.SoundPlan
import PandocHtml.Proofs.Render.Total
import PandocHtml.Proofs.Render.Undisplayed
import PandocHtml.Proofs.Render.Written
import PandocHtml.Render.Config
import PandocHtml.Render.Engine
import PandocHtml.Render.Hooks
import PandocHtml.Render.Limit
import PandocHtml.Render.Outline
import PandocHtml.Render.Output
import PandocHtml.Render.Plan
import PandocHtml.Sanitize.Address
import PandocHtml.Sanitize.Clean
import PandocHtml.Sanitize.Mode
import PandocHtml.Sanitize.Policy
import PandocHtml.Sanitize.Style
import PandocHtml.Text.Blank
import PandocHtml.Text.Columns
import PandocHtml.Text.DecimalDigit
import PandocHtml.Text.Encoding
import PandocHtml.Text.Line
import PandocHtml.Text.Numeral
import PandocHtml.Text.Path
import PandocHtml.Text.Point
import PandocHtml.Text.Printable
import PandocHtml.Text.Quoted
import PandocHtml.Text.Ranges
import PandocHtml.Text.Similarity
import PandocHtml.Traced
