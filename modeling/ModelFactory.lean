import ModelFactory.Main
import ModelFactory.Files.Store
import ModelFactory.Proofs.Default.Priority
import ModelFactory.Proofs.Generation.Allocation
import ModelFactory.Proofs.Generation.Run
import ModelFactory.Proofs.Overrides
import ModelFactory.Proofs.Descriptor.Defaults
import ModelFactory.Proofs.Command.PerClass
import ModelFactory.Proofs.Descriptor.SameContent
import ModelFactory.Proofs.Files.Reading
import ModelFactory.Proofs.Files.Directories
import ModelFactory.Proofs.Command.Loading
import ModelFactory.Proofs.Command.Listing
import ModelFactory.Proofs.Json.Written
import ModelFactory.Proofs.Descriptor.RoundTrip
import ModelFactory.Proofs.Generation.Accounting
import ModelFactory.Proofs.Descriptor.Excluded
import ModelFactory.Proofs.Files.Rewriting
import ModelFactory.Proofs.Command.Again
import ModelFactory.Proofs.Toml.Keys
import ModelFactory.Proofs.Settings.TypeDefaults
import ModelFactory.Proofs.Settings.Layering
import ModelFactory.Proofs.Default.NestedLists
import ModelFactory.Proofs.Default.RenderedTypes
import ModelFactory.Proofs.Generation.Clashes
import ModelFactory.Proofs.Generation.Reordering
import ModelFactory.Proofs.Command.FailureReport
import ModelFactory.Proofs.Generation.OverrideEffects
import ModelFactory.Proofs.Generation.SentinelDate
import ModelFactory.Proofs.Factory.Reader
import ModelFactory.Proofs.Generation.Fragments
import ModelFactory.Proofs.Generation.Brackets
import ModelFactory.Proofs.Command.TypeDefaults
import ModelFactory.Proofs.Json.Entries
import ModelFactory.Proofs.Descriptor.Reading
import ModelFactory.Proofs.Descriptor.Kinds
import ModelFactory.Proofs.Json.Edits
import ModelFactory.Proofs.Descriptor.Edits
import ModelFactory.Proofs.Generation.LetterCase
import ModelFactory.Proofs.Files.Outside
import ModelFactory.Proofs.Command.ConfigFile
import ModelFactory.Proofs.Text.Escapes
import ModelFactory.Proofs.Command.Work
import ModelFactory.Proofs.Command.Painted
import ModelFactory.Proofs.Command.Restyled
import ModelFactory.Proofs.Command.Presentation
import ModelFactory.Proofs.Table.Characters
import ModelFactory.Proofs.Command.ColorsOff
import ModelFactory.Proofs.Files.WorkingDirectory
import ModelFactory.Proofs.Descriptor.Given
import ModelFactory.Proofs.Settings.Slots
