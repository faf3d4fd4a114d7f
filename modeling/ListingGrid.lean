import ListingGrid.Main
import ListingGrid.Proofs.Definition.FunctionFields
import ListingGrid.Proofs.Definition.Rejected
import ListingGrid.Proofs.Definition.RoundTrip
import ListingGrid.Proofs.Definition.Sound
import ListingGrid.Proofs.Formula.Spelling
import ListingGrid.Proofs.Grid.ColumnNames
import ListingGrid.Proofs.Grid.Placeholders
import ListingGrid.Proofs.Grid.Tiles
import ListingGrid.Proofs.Listing.Lines
import ListingGrid.Proofs.Number.Conversion
import ListingGrid.Proofs.Output.NamedValues
import ListingGrid.Proofs.Output.ReadBack
import ListingGrid.Proofs.Output.Records
import ListingGrid.Proofs.Output.Sheet
import ListingGrid.Proofs.Output.XmlCharacters
import ListingGrid.Proofs.Pattern.Anchored
import ListingGrid.Proofs.Report.Aborted
import ListingGrid.Proofs.Report.Dispatch
import ListingGrid.Proofs.Report.Faults
import ListingGrid.Proofs.Report.FilePass
import ListingGrid.Proofs.Report.Forward
import ListingGrid.Proofs.Report.PassReading
import ListingGrid.Proofs.Report.Totals
import ListingGrid.Proofs.Run.Outputs
