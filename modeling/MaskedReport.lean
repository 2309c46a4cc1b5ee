import MaskedReport.Main
import MaskedReport.Proofs.AddedPatterns
import MaskedReport.Proofs.Agreement
import MaskedReport.Proofs.BadPatterns
import MaskedReport.Proofs.Blame
import MaskedReport.Proofs.Bodies
import MaskedReport.Proofs.Causes
import MaskedReport.Proofs.CommandOutput
import MaskedReport.Proofs.Completeness
import MaskedReport.Proofs.Configuration
import MaskedReport.Proofs.Endings
import MaskedReport.Proofs.Entries
import MaskedReport.Proofs.EntryContents
import MaskedReport.Proofs.Fetching
import MaskedReport.Proofs.FiniteDoubles
import MaskedReport.Proofs.Grammar
import MaskedReport.Proofs.Homes
import MaskedReport.Proofs.Idioms
import MaskedReport.Proofs.JsonReader
import MaskedReport.Proofs.LargeBounds
import MaskedReport.Proofs.Layouts
import MaskedReport.Proofs.Leaves
import MaskedReport.Proofs.Letters
import MaskedReport.Proofs.Loading
import MaskedReport.Proofs.Making
import MaskedReport.Proofs.MaskingModes
import MaskedReport.Proofs.Matching
import MaskedReport.Proofs.Moving
import MaskedReport.Proofs.Nesting
import MaskedReport.Proofs.Noninterference
import MaskedReport.Proofs.NormalForm
import MaskedReport.Proofs.Numerals
import MaskedReport.Proofs.PathTexts
import MaskedReport.Proofs.PatternCauses
import MaskedReport.Proofs.PatternParts
import MaskedReport.Proofs.PatternRefusals
import MaskedReport.Proofs.PercentCoding
import MaskedReport.Proofs.Printing
import MaskedReport.Proofs.Projection
import MaskedReport.Proofs.Reading
import MaskedReport.Proofs.Rebuilding
import MaskedReport.Proofs.Registration
import MaskedReport.Proofs.RegistryRuns
import MaskedReport.Proofs.Rendering
import MaskedReport.Proofs.Replacing
import MaskedReport.Proofs.ReportOrder
import MaskedReport.Proofs.Reporting
import MaskedReport.Proofs.RoundTrip
import MaskedReport.Proofs.Routing
import MaskedReport.Proofs.SameLeaves
import MaskedReport.Proofs.SecretKeys
import MaskedReport.Proofs.SecretSpellings
import MaskedReport.Proofs.Sections
import MaskedReport.Proofs.Sending
import MaskedReport.Proofs.Serving
import MaskedReport.Proofs.SingleSource
import MaskedReport.Proofs.Sorting
import MaskedReport.Proofs.Updates
