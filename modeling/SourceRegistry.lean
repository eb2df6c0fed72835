import SourceRegistry.Json
import SourceRegistry.Facade
import SourceRegistry.Plugin
import SourceRegistry.Settings.Document
import SourceRegistry.Samples.Session
import SourceRegistry.Proofs.TagTable.Indexed
import SourceRegistry.Proofs.NamedList
import SourceRegistry.Proofs.Registration.Determined
import SourceRegistry.Proofs.Registration.AppendOnly
import SourceRegistry.Proofs.Registration.Repeats
import SourceRegistry.Proofs.Methods.Declared
import SourceRegistry.Proofs.TagTable.Conflict
import SourceRegistry.Proofs.TagTable.Run
import SourceRegistry.Proofs.Registration.Fault
import SourceRegistry.Proofs.TagTable.Bijection
import SourceRegistry.Proofs.TagTable.Staged
import SourceRegistry.Proofs.Registration.Verdict
import SourceRegistry.Proofs.Site.Keeping
import SourceRegistry.Proofs.Site.Default
import SourceRegistry.Proofs.Methods.Alike
import SourceRegistry.Proofs.Registration.Independent
import SourceRegistry.Proofs.Registration.Contest
import SourceRegistry.Proofs.Site.Commons
import SourceRegistry.Proofs.Site.Delivery
import SourceRegistry.Proofs.Site.Views
import SourceRegistry.Proofs.Registration.Winner
import SourceRegistry.Proofs.Text.ByteOrder
import SourceRegistry.Proofs.Plugins.Load
import SourceRegistry.Proofs.Registration.Objects
import SourceRegistry.Proofs.Plugins.Reload
import SourceRegistry.Proofs.Methods.Reading
import SourceRegistry.Proofs.Methods.Advertised
import SourceRegistry.Proofs.Methods.Layout
import SourceRegistry.Proofs.Site.Calling
import SourceRegistry.Proofs.Site.Decision
import SourceRegistry.Proofs.Storage.Program
import SourceRegistry.Proofs.Storage.Run
import SourceRegistry.Proofs.Suggestion.Distance
import SourceRegistry.Proofs.Suggestion.Nearest
import SourceRegistry.Proofs.Registration.Private
import SourceRegistry.Proofs.Signature.Merge
import SourceRegistry.Proofs.Signature.Shape
import SourceRegistry.Proofs.TypeName
import SourceRegistry.Proofs.Site.Supplied
import SourceRegistry.Proofs.Toml.Distinct
import SourceRegistry.Proofs.Toml.Reading
import SourceRegistry.Proofs.Settings.Written
import SourceRegistry.Proofs.Settings.Accepted
