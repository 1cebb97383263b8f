import DesignExport.Assets.Colors
import DesignExport.Assets.Naming
import DesignExport.Assets.TextStyles
import DesignExport.Color
import DesignExport.CommandLine.Arguments
import DesignExport.CommandLine.Configuration
import DesignExport.CommandLine.Manifest
import DesignExport.CommandLine.Run
import DesignExport.CommandLine.Usage
import DesignExport.Compile.AssetImage
import DesignExport.Compile.Context
import DesignExport.Compile.Scope
import DesignExport.Dart.Literal
import DesignExport.Diagnostic
import DesignExport.Document.Arrangement
import DesignExport.Document.Decoding
import DesignExport.Document.Encoding
import DesignExport.Document.Index
import DesignExport.Document.Layer
import DesignExport.Document.Paint
import DesignExport.Document.Property
import DesignExport.Document.TextBlock
import DesignExport.Export.Error
import DesignExport.Export.Report
import DesignExport.Export.Run
import DesignExport.Export.SourceFile
import DesignExport.Export.Widget
import DesignExport.Expression.Box
import DesignExport.Expression.Child
import DesignExport.Expression.Group
import DesignExport.Expression.Label
import DesignExport.Expression.Node
import DesignExport.Expression.Picture
import DesignExport.Expression.Root
import DesignExport.Expression.Scroll
import DesignExport.Expression.Template
import DesignExport.FontStyle
import DesignExport.Geometry.Affine
import DesignExport.Geometry.Rect
import DesignExport.Json.Decoder
import DesignExport.Json.Numeral
import DesignExport.Json.Printer
import DesignExport.Json.Reading
import DesignExport.Json.Scanner
import DesignExport.Json.Value
import DesignExport.Layout.Alignment
import DesignExport.Layout.Frame
import DesignExport.Layout.Insets
import DesignExport.Layout.Pin
import DesignExport.Layout.Placement
import DesignExport.Main
import DesignExport.Md5
import DesignExport.Naming
import DesignExport.Number.Exact
import DesignExport.Number.Layout
import DesignExport.Number.Scalar
import DesignExport.Number.Shortest
import DesignExport.Paint
import DesignExport.Proofs.Access.Exports
import DesignExport.Proofs.Access.Groups
import DesignExport.Proofs.Access.Nodes
import DesignExport.Proofs.Access.Shapes
import DesignExport.Proofs.Access.Steps
import DesignExport.Proofs.Assets.Colors
import DesignExport.Proofs.Color
import DesignExport.Proofs.CommandLine.Listing
import DesignExport.Proofs.Compile.Composed
import DesignExport.Proofs.Compile.Framed
import DesignExport.Proofs.Compile.Keeps
import DesignExport.Proofs.Compile.Leads
import DesignExport.Proofs.Compile.Writing
import DesignExport.Proofs.Dart.Literals
import DesignExport.Proofs.Dart.Scanner
import DesignExport.Proofs.Dart.Values
import DesignExport.Proofs.Document.Lineage
import DesignExport.Proofs.Document.Owners
import DesignExport.Proofs.Document.Relocated
import DesignExport.Proofs.Document.Restored
import DesignExport.Proofs.Document.RoundTrip
import DesignExport.Proofs.Document.Storable
import DesignExport.Proofs.Document.Writes
import DesignExport.Proofs.Export.Aligned
import DesignExport.Proofs.Export.Bodies
import DesignExport.Proofs.Export.Comments
import DesignExport.Proofs.Export.Constructors
import DesignExport.Proofs.Export.Declarations
import DesignExport.Proofs.Export.Expressions
import DesignExport.Proofs.Export.FileNames
import DesignExport.Proofs.Export.Fonts
import DesignExport.Proofs.Export.Footprints
import DesignExport.Proofs.Export.Imports
import DesignExport.Proofs.Export.Isolation
import DesignExport.Proofs.Export.Manifest
import DesignExport.Proofs.Export.Outcomes
import DesignExport.Proofs.Export.Parameters
import DesignExport.Proofs.Export.Relocated
import DesignExport.Proofs.Export.Represented
import DesignExport.Proofs.Export.Sizes
import DesignExport.Proofs.Export.Snippets
import DesignExport.Proofs.Export.Tables
import DesignExport.Proofs.Export.Trees
import DesignExport.Proofs.Export.Watched
import DesignExport.Proofs.Export.Widget
import DesignExport.Proofs.Expression.Aligned
import DesignExport.Proofs.Expression.Arguments
import DesignExport.Proofs.Expression.Calls
import DesignExport.Proofs.Expression.Cells
import DesignExport.Proofs.Expression.Composed
import DesignExport.Proofs.Expression.Decorated
import DesignExport.Proofs.Expression.Fonts
import DesignExport.Proofs.Expression.Foreign
import DesignExport.Proofs.Expression.Given
import DesignExport.Proofs.Expression.Groups
import DesignExport.Proofs.Expression.Images
import DesignExport.Proofs.Expression.Nodes
import DesignExport.Proofs.Expression.Opened
import DesignExport.Proofs.Expression.Pieces
import DesignExport.Proofs.Expression.Placeholders
import DesignExport.Proofs.Expression.Present
import DesignExport.Proofs.Expression.References
import DesignExport.Proofs.Expression.Relocated
import DesignExport.Proofs.Expression.Renders
import DesignExport.Proofs.Expression.Spans
import DesignExport.Proofs.Expression.Stated
import DesignExport.Proofs.Expression.Styles
import DesignExport.Proofs.Expression.Templates
import DesignExport.Proofs.Expression.Told
import DesignExport.Proofs.Json.Finite
import DesignExport.Proofs.Json.Ordered
import DesignExport.Proofs.Json.Restores
import DesignExport.Proofs.Json.Slots
import DesignExport.Proofs.Layout.Calls
import DesignExport.Proofs.Layout.Consistent
import DesignExport.Proofs.Layout.Frames
import DesignExport.Proofs.Layout.Tolerance
import DesignExport.Proofs.Naming
import DesignExport.Proofs.Number.Finite
import DesignExport.Proofs.Number.Rational
import DesignExport.Proofs.Number.Texts
import DesignExport.Proofs.Raster
import DesignExport.Proofs.Settings
import DesignExport.Proofs.Shape.Histories
import DesignExport.Proofs.Shape.Markup
import DesignExport.Proofs.Shape.Memo
import DesignExport.Proofs.Shape.Placement
import DesignExport.Proofs.Shape.Reader
import DesignExport.Proofs.Shape.Tints
import DesignExport.Proofs.Shape.ViewBox
import DesignExport.Proofs.Table
import DesignExport.Proofs.Text.Plain
import DesignExport.Proofs.Text.Search
import DesignExport.Proofs.Tree.Asked
import DesignExport.Proofs.Tree.Backdrops
import DesignExport.Proofs.Tree.Carried
import DesignExport.Proofs.Tree.Comments
import DesignExport.Proofs.Tree.Composed
import DesignExport.Proofs.Tree.Eager
import DesignExport.Proofs.Tree.Gaps
import DesignExport.Proofs.Tree.Handed
import DesignExport.Proofs.Tree.Harmless
import DesignExport.Proofs.Tree.Kinds
import DesignExport.Proofs.Tree.LaidOut
import DesignExport.Proofs.Tree.Origins
import DesignExport.Proofs.Tree.Parametrized
import DesignExport.Proofs.Tree.Placement
import DesignExport.Proofs.Tree.Reach
import DesignExport.Proofs.Tree.Relocated
import DesignExport.Proofs.Tree.Settled
import DesignExport.Proofs.Tree.ShapePass
import DesignExport.Proofs.Tree.Shown
import DesignExport.Proofs.Tree.Special
import DesignExport.Proofs.Tree.Supplied
import DesignExport.Proofs.Tree.Throughout
import DesignExport.Proofs.Tree.Units
import DesignExport.Raster
import DesignExport.Settings
import DesignExport.Shape.Markup
import DesignExport.Shape.Unit
import DesignExport.Storage.FileTree
import DesignExport.Storage.Path
import DesignExport.Storage.Store
import DesignExport.Table
import DesignExport.Text.Blank
import DesignExport.Text.Cluster
import DesignExport.Text.ClusterTable
import DesignExport.Text.Letter
import DesignExport.Text.LetterTable
import DesignExport.Text.Search
import DesignExport.Text.Words
import DesignExport.TextStyle
import DesignExport.Toml.Document
import DesignExport.Toml.Entry
import DesignExport.Toml.Moment
import DesignExport.Toml.Number
import DesignExport.Toml.Quoted
import DesignExport.Tree.Build
import DesignExport.Tree.Decoration
import DesignExport.Tree.Merge
import DesignExport.Tree.Node
