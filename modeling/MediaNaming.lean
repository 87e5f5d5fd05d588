import MediaNaming.Main
import MediaNaming.Proofs.Volume.Walk
import MediaNaming.Proofs.Rename.Local
import MediaNaming.Proofs.Rename.Loss
import MediaNaming.Proofs.Rename.Completion
import MediaNaming.Proofs.Rename.Plain
import MediaNaming.Proofs.Rename.Report
import MediaNaming.Proofs.Plan.Names
import MediaNaming.Proofs.Rename.Ownership
import MediaNaming.Proofs.Scheme.Merged
import MediaNaming.Proofs.Scheme.RoundTrip
import MediaNaming.Proofs.Plan.Completion
import MediaNaming.Proofs.Metadata.Reading
import MediaNaming.Proofs.Rename.Repetition
import MediaNaming.Proofs.Plan.Independence
import MediaNaming.Proofs.Plan.BareNames
import MediaNaming.Proofs.Rename.Order
import MediaNaming.Proofs.Cli.DryRun
import MediaNaming.Proofs.Number.Decimal
import MediaNaming.Proofs.Text.Split
import MediaNaming.Proofs.Metadata.Formats
import MediaNaming.Proofs.Plan.Reached
import MediaNaming.Proofs.Renamer.History
import MediaNaming.Proofs.Ordinary
import MediaNaming.Proofs.Plan.Interrupts
import MediaNaming.Proofs.Rename.Interrupts
import MediaNaming.Proofs.Cli.Ordinary
import MediaNaming.Proofs.Cli.ExitCode
import MediaNaming.Proofs.Volume.Written
import MediaNaming.Proofs.Text.Utf8
import MediaNaming.Proofs.Toml.Quoted
import MediaNaming.Proofs.Toml.Lines
import MediaNaming.Proofs.Settings.RoundTrip
import MediaNaming.Proofs.Volume.Route
import MediaNaming.Proofs.Rename.Confined
import MediaNaming.Proofs.Rename.Validated
import MediaNaming.Proofs.Rename.Departure
import MediaNaming.Proofs.Plan.Spelled
import MediaNaming.Proofs.Plan.Stored
import MediaNaming.Proofs.Cli.Warnings
import MediaNaming.Proofs.Cli.ChosenScheme
import MediaNaming.Proofs.Metadata.TagText
import MediaNaming.Proofs.Metadata.TagNumbers
import MediaNaming.Proofs.Metadata.Legible
import MediaNaming.Proofs.Number.Order
import MediaNaming.Proofs.Metadata.StampReading
import MediaNaming.Proofs.Metadata.StampOrder
import MediaNaming.Proofs.Metadata.PictureDates
import MediaNaming.Proofs.Settings.Kept
import MediaNaming.Proofs.Toml.Kinds
import MediaNaming.Proofs.Settings.Usable
import MediaNaming.Proofs.Metadata.Routing
import MediaNaming.Proofs.Text.Stretches
import MediaNaming.Proofs.Metadata.OctetText
import MediaNaming.Proofs.Volume.Listing
import MediaNaming.Proofs.Cli.Expansion
