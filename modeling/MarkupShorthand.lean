import MarkupShorthand.Check
import MarkupShorthand.Main
import MarkupShorthand.OutputFormat.Reading
import MarkupShorthand.Proofs.Check.Pinning
import MarkupShorthand.Proofs.Configuration.Layering
import MarkupShorthand.Proofs.Dialect.StyleObject
import MarkupShorthand.Proofs.Dialect.StyleText
import MarkupShorthand.Proofs.Dialect.WrittenNames
import MarkupShorthand.Proofs.Document.Announcements
import MarkupShorthand.Proofs.Document.FirstFault
import MarkupShorthand.Proofs.Document.Image
import MarkupShorthand.Proofs.Document.Joining
import MarkupShorthand.Proofs.Document.LineByLine
import MarkupShorthand.Proofs.Document.Respacing
import MarkupShorthand.Proofs.Document.Wrapping
import MarkupShorthand.Proofs.Forest.Depths
import MarkupShorthand.Proofs.Line.Lossless
import MarkupShorthand.Proofs.Line.Merging
import MarkupShorthand.Proofs.Outline
import MarkupShorthand.Proofs.OutputFormat.Alignment
import MarkupShorthand.Proofs.OutputFormat.Routes
import MarkupShorthand.Proofs.Registry.Conversion
import MarkupShorthand.Proofs.Registry.History
import MarkupShorthand.Proofs.Registry.OwnName
import MarkupShorthand.Proofs.Snapshot.ReadingBack
import MarkupShorthand.Proofs.Yaml.Forest
import MarkupShorthand.Snapshot.Reading
