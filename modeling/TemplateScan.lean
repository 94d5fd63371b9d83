import TemplateScan.Cursor.Recorder
import TemplateScan.Files.Tree
import TemplateScan.Lexer.Progress
import TemplateScan.Main
import TemplateScan.Plugin
import TemplateScan.Proofs.Lexer.Reach
import TemplateScan.Proofs.ParserHost
import TemplateScan.Proofs.Signs
import TemplateScan.Proofs.Template.Anatomy
import TemplateScan.Proofs.Template.Composition
import TemplateScan.Proofs.Template.Guards
import TemplateScan.Proofs.Template.Repair
import TemplateScan.Proofs.Template.Shapes
import TemplateScan.Proofs.Template.Truncation
import TemplateScan.Proofs.TokenStream.Comments
import TemplateScan.Proofs.TokenStream.Literals
import TemplateScan.Proofs.TokenStream.Stretches
import TemplateScan.Proofs.Source.Position
import TemplateScan.Proofs.TokenStream.Directives
import TemplateScan.Proofs.Cursor.Recorder
import TemplateScan.Proofs.ParserHost.Mirror
import TemplateScan.Proofs.Lexer.Probes
import TemplateScan.Proofs.Lexer.Cells
import TemplateScan.Proofs.Report.Segments
import TemplateScan.Proofs.Log.Transcript
import TemplateScan.Proofs.Source.Slice
import TemplateScan.Proofs.Source.Layout
import TemplateScan.Proofs.CommandLine.Options
import TemplateScan.Proofs.Source.QuotedString
import TemplateScan.Proofs.Log.Filter
import TemplateScan.Proofs.CommandLine.Invocation
