import EditionCheck.File.Tree
import EditionCheck.Main
import EditionCheck.Proofs.Check.Double
import EditionCheck.Proofs.Check.Ignoring
import EditionCheck.Proofs.Check.Selection
import EditionCheck.Proofs.Check.Target
import EditionCheck.Proofs.Command.ExitStatus
import EditionCheck.Proofs.Package.Listing
import EditionCheck.Proofs.Package.Manifest
import EditionCheck.Proofs.Report.Views
import EditionCheck.Proofs.Script.FirstEdition
import EditionCheck.Proofs.Script.FirstUse
import EditionCheck.Proofs.Script.Separator
import EditionCheck.Proofs.Script.Shift
import EditionCheck.Proofs.Script.TrailingComma
import EditionCheck.Proofs.Settings.Priority
import EditionCheck.Proofs.File.Joining
import EditionCheck.Proofs.File.Spelling
import EditionCheck.Proofs.Package.Entry
import EditionCheck.Proofs.Command.Delivery
import EditionCheck.Proofs.File.Extension
import EditionCheck.Proofs.Toml.Plain
import EditionCheck.Proofs.Settings.NewFile
import EditionCheck.Proofs.Command.Init
import EditionCheck.Proofs.Script.RegExp.FirstGroup
import EditionCheck.Proofs.Text.Line
import EditionCheck.Proofs.Report.Colors
import EditionCheck.Proofs.Script.LeadingComma
import EditionCheck.Proofs.Script.Pool
import EditionCheck.Proofs.Edition
import EditionCheck.Proofs.Check.Loading
