import Polyquery.Main
import Polyquery.Proofs.Conjunction
import Polyquery.Proofs.FilterPasses
import Polyquery.Proofs.References
import Polyquery.Proofs.Returning
import Polyquery.Proofs.Qualifiers
import Polyquery.Proofs.Phrases
import Polyquery.Proofs.RowCap
import Polyquery.Proofs.SelectList
import Polyquery.Proofs.SelectPhrases
import Polyquery.Proofs.RowWindow
import Polyquery.Proofs.PageText
import Polyquery.Proofs.JoinedRows
import Polyquery.Proofs.QueryWire
import Polyquery.Proofs.Refusals
import Polyquery.Proofs.DialectAgreement
import Polyquery.Proofs.SharedValues
import Polyquery.Proofs.TextFilters
import Polyquery.Proofs.EdgeGroups
import Polyquery.Proofs.LowerPatterns
import Polyquery.Proofs.ElementSearch
import Polyquery.Proofs.ContainmentDocument
import Polyquery.Proofs.Pages
import Polyquery.Proofs.InsertedCells
import Polyquery.Proofs.InsertedRows
import Polyquery.Proofs.ReadBack
import Polyquery.Proofs.BoundKeys
import Polyquery.Proofs.DeletedColumns
import Polyquery.Proofs.Observation
import Polyquery.Proofs.RequestedJson
import Polyquery.Proofs.MoneyCasts
import Polyquery.Proofs.QuotedNames
import Polyquery.Proofs.StableValues
import Polyquery.Proofs.StrictTimestamps
import Polyquery.Proofs.Markers
import Polyquery.Proofs.QuotedPaths
import Polyquery.Proofs.KeptDecimals
