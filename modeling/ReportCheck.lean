import ReportCheck.Tab.CatalogFormat
import ReportCheck.Tab.Library
import ReportCheck.Main
import ReportCheck.Proofs.Run.Blocks
import ReportCheck.Proofs.Number.Magnitude
import ReportCheck.Proofs.Number.Nearest
import ReportCheck.Proofs.Number.Shown
import ReportCheck.Proofs.Number.Sum
import ReportCheck.Proofs.Cell.Plain
import ReportCheck.Proofs.Predicate.Plain
import ReportCheck.Proofs.Upload.Totality
import ReportCheck.Proofs.Number.Order
import ReportCheck.Proofs.Run.Clean
import ReportCheck.Proofs.Predicate.Verdict
import ReportCheck.Proofs.Upload.CleanReport
import ReportCheck.Proofs.Context.Normal
import ReportCheck.Proofs.Upload.Manifest
import ReportCheck.Proofs.Predicate.Reads
import ReportCheck.Proofs.Context.Subrecipients
import ReportCheck.Proofs.Run.Alike
import ReportCheck.Proofs.Upload.Absent
import ReportCheck.Proofs.Run.Loosened
import ReportCheck.Proofs.Upload.Tabs
import ReportCheck.Proofs.Run.Tags
import ReportCheck.Proofs.Run.Limit
import ReportCheck.Proofs.Run.UnknownTabs
import ReportCheck.Proofs.Tab.Registry
import ReportCheck.Proofs.Tab.Catalog
import ReportCheck.Proofs.Upload.Refusals
import ReportCheck.Proofs.Cell.Written
import ReportCheck.Proofs.Upload.FileParts
import ReportCheck.Proofs.Upload.Omitted
import ReportCheck.Proofs.Number.Value
import ReportCheck.Proofs.Number.Double
import ReportCheck.Proofs.Number.Addition
import ReportCheck.Proofs.Number.Total
import ReportCheck.Proofs.Number.Cents
import ReportCheck.Proofs.Predicate.SumChecks
import ReportCheck.Proofs.Predicate.SumLimits
import ReportCheck.Proofs.Predicate.SumOrder
import ReportCheck.Proofs.Cell.Characters
import ReportCheck.Proofs.Cell.LineFeeds
import ReportCheck.Proofs.Upload.TextReport
import ReportCheck.Proofs.Predicate.NormalForm
import ReportCheck.Proofs.Run.Warnings
import ReportCheck.Proofs.Cell.Faults
import ReportCheck.Proofs.Calendar.Ordinal
import ReportCheck.Proofs.Calendar.Forms
import ReportCheck.Proofs.Cell.Days
import ReportCheck.Proofs.Calendar.Agreement
import ReportCheck.Proofs.Cell.ShownDays
import ReportCheck.Proofs.Predicate.NumberOrder
import ReportCheck.Proofs.Upload.Subrecipients
import ReportCheck.Proofs.Predicate.ZipCodes
import ReportCheck.Proofs.Upload.ReferenceLists
import ReportCheck.Proofs.Upload.Rows
import ReportCheck.Proofs.Upload.Interchange
import ReportCheck.Proofs.Cell.Cents
import ReportCheck.Proofs.Calendar.Serial
import ReportCheck.Proofs.Context.Splitting
import ReportCheck.Proofs.Predicate.WithinCent
import ReportCheck.Proofs.Cell.Readers
