import SourceRegistry.Fixture
import SourceRegistry.Main
import SourceRegistry.Proofs.Concurrency.Names
import SourceRegistry.Proofs.Text.Split
import SourceRegistry.Proofs.Serving.Isolation
import SourceRegistry.UseCases.Substitute
import SourceRegistry.Proofs.Http.Route
import SourceRegistry.Proofs.Serving.Calls
import SourceRegistry.Proofs.Serving.Sites
import SourceRegistry.Proofs.Serving.Effects
import SourceRegistry.Proofs.Serving.Decisions
import SourceRegistry.Proofs.Http.Percent
import SourceRegistry.Proofs.Identifier
import SourceRegistry.Proofs.Json.Printer
import SourceRegistry.Proofs.Serving.Histories
import SourceRegistry.Proofs.Serving.Answers
import SourceRegistry.Proofs.Serving.Lives
import SourceRegistry.Proofs.Http.Target
import SourceRegistry.Proofs.Settings.Paths
import SourceRegistry.Proofs.Serving.Choices
import SourceRegistry.Proofs.Serving.Conduct
import SourceRegistry.Proofs.Serving.Refusals
import SourceRegistry.Proofs.Serving.Concealment
import SourceRegistry.Proofs.Json.Values
import SourceRegistry.Proofs.Json.Skips
import SourceRegistry.Proofs.Json.Records
import SourceRegistry.Proofs.Serving.Bodies
import SourceRegistry.Proofs.Service.Blind
import SourceRegistry.Proofs.Serving.Secrecy
import SourceRegistry.Proofs.Concurrency.Listings
import SourceRegistry.Proofs.Serving.Outcomes
import SourceRegistry.Proofs.Serving.Origins
import SourceRegistry.Proofs.Serving.RequestIds
import SourceRegistry.Proofs.Settings.Writes
import SourceRegistry.Proofs.Settings.Precedence
import SourceRegistry.Proofs.Serving.Admission
import SourceRegistry.Proofs.Serving.Reports
import SourceRegistry.Proofs.Serving.Spellings
import SourceRegistry.Proofs.Json.Grammar
import SourceRegistry.Proofs.Json.Passing
import SourceRegistry.Proofs.Json.Local
import SourceRegistry.Proofs.Json.Insertion
import SourceRegistry.Proofs.Serving.Additions
import SourceRegistry.Proofs.Repository.Upkeep
import SourceRegistry.Proofs.Catalogue.StandIn
import SourceRegistry.Proofs.Number.Numerals
import SourceRegistry.Proofs.Serving.Deadlines
import SourceRegistry.Proofs.Settings.Values
import SourceRegistry.Proofs.Settings.Overrides
import SourceRegistry.Proofs.Service.Calls
import SourceRegistry.Proofs.Catalogue.Deletion
import SourceRegistry.Proofs.Serving.Names
import SourceRegistry.Proofs.Validation
import SourceRegistry.Proofs.Identifier.Forms
import SourceRegistry.Proofs.Settings.Documents
import SourceRegistry.Proofs.RoundTrip.ReadBack
