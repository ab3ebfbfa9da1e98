import LocaleClock.Host.World
import LocaleClock.Main
import LocaleClock.Proofs.Pattern.Filling
import LocaleClock.Proofs.Pattern.Showing
import LocaleClock.Proofs.Locale.OwnPatterns
import LocaleClock.Proofs.Formatter.Outcome
import LocaleClock.Proofs.Settings.Checks
import LocaleClock.Proofs.Settings.Acceptance
import LocaleClock.Proofs.Toml.Texts
import LocaleClock.Proofs.Toml.Statements
import LocaleClock.Proofs.Toml.Tables
import LocaleClock.Proofs.Settings.RoundTrip
import LocaleClock.Proofs.Formatter.Runs
import LocaleClock.Proofs.Formatter.Registration
import LocaleClock.Proofs.Formatter.OfSettings
import LocaleClock.Proofs.Program.Printing
import LocaleClock.Proofs.CommandLine.FormatOption
import LocaleClock.Proofs.CommandLine.Editing
import LocaleClock.Proofs.CommandLine.Options
import LocaleClock.Proofs.Formatter.Reporting
import LocaleClock.Proofs.Formatter.Flattening
import LocaleClock.Proofs.Host.Files
import LocaleClock.Proofs.Log.LifeCycle
import LocaleClock.Proofs.Host.Directories
import LocaleClock.Proofs.Host.Likeness
import LocaleClock.Proofs.Host.Writing
import LocaleClock.Proofs.Settings.Lookup
import LocaleClock.Proofs.Program.Running
import LocaleClock.Proofs.Settings.Template
import LocaleClock.Proofs.Settings.Generating
import LocaleClock.Proofs.Program.AllOrNothing
import LocaleClock.Proofs.Program.LoggingApart
import LocaleClock.Proofs.Program.FirstRun
import LocaleClock.Proofs.Pattern.Reading
import LocaleClock.Proofs.Pattern.Replacement
import LocaleClock.Proofs.Pattern.Composition
import LocaleClock.Proofs.Text.Trimming
import LocaleClock.Proofs.Locale.Spelling
import LocaleClock.Proofs.Locale.Resolution
import LocaleClock.Proofs.Text.Numbers
import LocaleClock.Proofs.Calendar.Dates
import LocaleClock.Proofs.Calendar.Offsets
import LocaleClock.Proofs.Calendar.Moments
import LocaleClock.Proofs.Formatter.FixedForm
import LocaleClock.Proofs.Locale.Fallback
import LocaleClock.Proofs.Calendar.OffsetTexts
import LocaleClock.Proofs.CommandLine.OffsetOption
import LocaleClock.Proofs.Formatter.UnknownIdentifiers
import LocaleClock.Proofs.Formatter.Shifting
import LocaleClock.Proofs.Text.ByteOrder
import LocaleClock.Proofs.Settings.FirstFault
import LocaleClock.Proofs.Formatter.Sections
import LocaleClock.Proofs.Locale.NormalForms
import LocaleClock.Proofs.CommandLine.Spelling
import LocaleClock.Proofs.Log.Lines
