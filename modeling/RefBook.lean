import RefBook.ClassDetail
import RefBook.CommandLine
import RefBook.Contents
import RefBook.Dict
import RefBook.Docstring.Basic
import RefBook.Docstring.Detect
import RefBook.Docstring.Epydoc
import RefBook.Docstring.Google
import RefBook.Docstring.Keyword
import RefBook.Docstring.Marker
import RefBook.Docstring.Numpy
import RefBook.Docstring.Problem
import RefBook.Docstring.Rest
import RefBook.Error
import RefBook.Extract.Declaration
import RefBook.Extract.Module
import RefBook.Extract.Problem
import RefBook.Extract.Value
import RefBook.Glob.Basic
import RefBook.Glob.Parser
import RefBook.Job
import RefBook.Json.Basic
import RefBook.Json.Model
import RefBook.Literal
import RefBook.Main
import RefBook.Module.Basic
import RefBook.Module.Target
import RefBook.Number.Binary64
import RefBook.Number.Digits
import RefBook.Page.Call
import RefBook.Page.Class
import RefBook.Page.Function
import RefBook.Page.Module
import RefBook.Page.Options
import RefBook.Path
import RefBook.Proofs.Module.Push
import RefBook.Proofs.Registry.Export
import RefBook.Proofs.Registry.InPlace
import RefBook.Proofs.Registry.LeftAlone
import RefBook.Proofs.Registry.Lookup
import RefBook.Proofs.Registry.Order
import RefBook.Proofs.Registry.Resolve
import RefBook.Proofs.Registry.Splice
import RefBook.Proofs.Registry.Surface
import RefBook.Registry.Basic
import RefBook.Registry.Reexport
import RefBook.Settings
import RefBook.Signature
import RefBook.Source.Expression
import RefBook.Source.Lexer
import RefBook.Source.Numeral
import RefBook.Source.Parameters
import RefBook.Source.Parser
import RefBook.Source.Pattern
import RefBook.Source.Statement
import RefBook.Source.Strings
import RefBook.Source.Token
import RefBook.Source.Tree
import RefBook.Sources
import RefBook.Summary
import RefBook.Text.Group
import RefBook.Text.Margin
import RefBook.Text.OneLine
import RefBook.Text.Quoted
import RefBook.Text.Space
import RefBook.Text.Split
import RefBook.Text.Tabs
import RefBook.Text.Utf8
import RefBook.Toml.Document
import RefBook.Toml.Item
import RefBook.Toml.Reader
import RefBook.Tree
import RefBook.Unicode.Basic
import RefBook.Unicode.Identifier
import RefBook.Unicode.Names
import RefBook.Unicode.Printable
import RefBook.Unicode.Word
import RefBook.Proofs.Module.Growth
import RefBook.Proofs.Registry.History
import RefBook.Proofs.Extract.Declared
import RefBook.Proofs.Text.Lines
import RefBook.Proofs.Text.Tabs
import RefBook.Proofs.Text.Margin
import RefBook.Proofs.Docstring.Cleaned
import RefBook.Proofs.Docstring.Record
import RefBook.Proofs.Docstring.Printed
import RefBook.Proofs.Docstring.Reading
import RefBook.Proofs.Docstring.Fields
import RefBook.Proofs.Docstring.Tags
import RefBook.Proofs.Docstring.Titled
import RefBook.Proofs.Docstring.Underlined
import RefBook.Proofs.Docstring.Dialects
import RefBook.Proofs.Path.Names
import RefBook.Proofs.Module.Relative
import RefBook.Proofs.Contents.Pages
import RefBook.Proofs.Contents.Links
import RefBook.Proofs.Page.Exported
import RefBook.Proofs.Tree.Write
import RefBook.Proofs.Job.Pages
import RefBook.Proofs.Module.Bindings
import RefBook.Proofs.Registry.Follow
import RefBook.Proofs.Contents.Listing
import RefBook.Proofs.Extract.Headings
import RefBook.Proofs.Docstring.TypeFields
import RefBook.Proofs.Docstring.TagForms
import RefBook.Proofs.Docstring.TagHeads
import RefBook.Proofs.Docstring.TagMerging
import RefBook.Proofs.Docstring.Items
import RefBook.Proofs.Docstring.BlankLines
import RefBook.Proofs.Outcome
import RefBook.Proofs.Docstring.Detection
import RefBook.Proofs.Dict
import RefBook.Proofs.Page.Parts
import RefBook.Proofs.Page.Arguments
import RefBook.Proofs.Page.Hidden
import RefBook.Proofs.Text.Commas
import RefBook.Proofs.Page.CallLayout
import RefBook.Proofs.Text.Visible
import RefBook.Proofs.Docstring.Recleaned
import RefBook.Proofs.Text.Utf8
import RefBook.Proofs.Literal
import RefBook.Proofs.ClassDetail
import RefBook.Proofs.Text.Words
import RefBook.Proofs.Module.Origin
import RefBook.Proofs.Docstring.Marked
import RefBook.Proofs.Extract.Literals
