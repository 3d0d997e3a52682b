import Tagweave.Binary64.Basic
import Tagweave.Binary64.Decimal
import Tagweave.Json.Basic
import Tagweave.Json.Text
import Tagweave.Json.Read
import Tagweave.Unicode.WhiteSpace
import Tagweave.Markup.Entries
import Tagweave.Markup.Attribute
import Tagweave.Markup.AttributeText
import Tagweave.Json.Path
import Tagweave.Markup.Error
import Tagweave.Markup.Node
import Tagweave.Markup.NodeJson
import Tagweave.Markup.Angle
import Tagweave.Markup.Token
import Tagweave.Markup.Tree
import Tagweave.Unicode.Case
import Tagweave.Unicode.Printable
import Tagweave.Unicode.Quoted
import Tagweave.Render.Error
import Tagweave.Render.Props
import Tagweave.Render.Action
import Tagweave.Render.Registry
import Tagweave.Render.Default
import Tagweave.Render.Renderer
import Tagweave.Markdown.Options
import Tagweave.Markdown.Entity
import Tagweave.Markdown.Chars
import Tagweave.Markdown.Syntax
import Tagweave.Markdown.HtmlSyntax
import Tagweave.Markdown.Scan
import Tagweave.Markdown.LinkSyntax
import Tagweave.Markdown.Definition
import Tagweave.Markdown.Blocks
import Tagweave.Markdown.Inlines
import Tagweave.Markdown.Document
import Tagweave.Markdown.Html
import Tagweave.Render.CommonMark
import Tagweave.Toml.Lexer
import Tagweave.Toml.Syntax
import Tagweave.Toml.Scalar
import Tagweave.Toml.Document
import Tagweave.Toml.Report
import Tagweave.Files.Error
import Tagweave.Files.Path
import Tagweave.Files.Script
import Tagweave.Config.Settings
import Tagweave.Config.Decode
import Tagweave.Config.Load
import Tagweave.Cli.Document
import Tagweave.Cli.Similarity
import Tagweave.Cli.Spec
import Tagweave.Cli.Args
import Tagweave.Cli.Run
import Tagweave.Main
import Tagweave.Proofs.Serialize
import Tagweave.Proofs.Scanner
import Tagweave.Proofs.Tokenizer
import Tagweave.Proofs.TreeBuilder
import Tagweave.Proofs.SafeIntegers
import Tagweave.Proofs.AttributeText
import Tagweave.Proofs.RoundTrip
import Tagweave.Proofs.LiteralText
import Tagweave.Proofs.MarkupFaults
import Tagweave.Proofs.Walk
import Tagweave.Proofs.PartialOutput
import Tagweave.Proofs.Termination
import Tagweave.Proofs.DocumentStream
import Tagweave.Proofs.EndTags
import Tagweave.Proofs.ForestListing
import Tagweave.Proofs.BuilderWalk
import Tagweave.Proofs.TreeTrace
import Tagweave.Proofs.InsertionOrder
import Tagweave.Proofs.ContextValues
import Tagweave.Proofs.AttributeGrammar
import Tagweave.Proofs.AliasTag
import Tagweave.Proofs.ContextLoading
import Tagweave.Proofs.TidyTrees
import Tagweave.Proofs.ReferenceCalls
import Tagweave.Proofs.ByteOffsets
import Tagweave.Proofs.ByteScan
import Tagweave.Proofs.TokenSlices
