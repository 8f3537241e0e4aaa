import Marginalia.Main
import Marginalia.Session.Advance
import Marginalia.Proofs.Document.Marker
import Marginalia.Proofs.Report.Reading
import Marginalia.Proofs.Session.Recorded
import Marginalia.Proofs.Session.Coherence
import Marginalia.Proofs.Session.Namesakes
import Marginalia.Proofs.Session.Modes
import Marginalia.Proofs.Session.SwitchedOff
import Marginalia.Proofs.Store.Rows
import Marginalia.Proofs.Package.Dominating
import Marginalia.Proofs.Package.Spelling
import Marginalia.Proofs.Analysis.Newlines
import Marginalia.Proofs.Document.Opened
import Marginalia.Proofs.Settings.Choice
import Marginalia.Proofs.CommandLine.Words
import Marginalia.Proofs.CommandLine.Precedence
import Marginalia.Proofs.CommandLine.Status
import Marginalia.Proofs.Document.Carried
import Marginalia.Proofs.Toml.Distinct
import Marginalia.Proofs.Settings.Merging
import Marginalia.Proofs.Settings.Overrides
import Marginalia.Proofs.Package.Declared
import Marginalia.Proofs.Settings.Validity
import Marginalia.Proofs.CommandLine.SettingsFile
import Marginalia.Proofs.Session.Subscriptions
import Marginalia.Proofs.Report.Seams
import Marginalia.Proofs.Document.Saved
import Marginalia.Proofs.Launch.Located
import Marginalia.Proofs.Package.Scoped
import Marginalia.Proofs.Package.Siblings
import Marginalia.Proofs.Document.Indexed
import Marginalia.Proofs.Report.Matches
