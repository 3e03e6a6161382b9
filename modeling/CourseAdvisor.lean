import CourseAdvisor.Double.Encoding
import CourseAdvisor.Files.FileTree
import CourseAdvisor.Main
import CourseAdvisor.Snapshot.Edit
import CourseAdvisor.Proofs.Advice.Merging
import CourseAdvisor.Proofs.Advice.Advising
import CourseAdvisor.Proofs.Advice.Isolation
import CourseAdvisor.Proofs.Advice.Reference
import CourseAdvisor.Proofs.Advice.StandardAdvice
import CourseAdvisor.Proofs.Advice.Grounds
import CourseAdvisor.Proofs.Json.Numerals
import CourseAdvisor.Proofs.Json.Grammar
import CourseAdvisor.Proofs.Json.QuotedText
import CourseAdvisor.Proofs.Json.Scanning
import CourseAdvisor.Proofs.Json.WrittenNumbers
import CourseAdvisor.Proofs.Json.PrettyText
import CourseAdvisor.Proofs.Json.Tokens
import CourseAdvisor.Proofs.Json.Reading
import CourseAdvisor.Proofs.Json.Members
import CourseAdvisor.Proofs.Snapshot.WrittenRecords
import CourseAdvisor.Proofs.Json.Yielding
import CourseAdvisor.Proofs.Snapshot.SnapshotText
import CourseAdvisor.Proofs.Http.Identity
import CourseAdvisor.Proofs.Recommendation.ResponseText
import CourseAdvisor.Proofs.Http.RecommendationReplies
import CourseAdvisor.Proofs.Http.Confinement
import CourseAdvisor.Proofs.Command.RecommendArguments
import CourseAdvisor.Proofs.Command.Agreement
import CourseAdvisor.Proofs.Json.Skipping
import CourseAdvisor.Proofs.Json.Locality
import CourseAdvisor.Proofs.Json.ObjectText
import CourseAdvisor.Proofs.Json.Filling
import CourseAdvisor.Proofs.RecordKind
import CourseAdvisor.Proofs.Advice.Collapsing
import CourseAdvisor.Proofs.Advice.Extension
import CourseAdvisor.Proofs.Advice.Sessions
import CourseAdvisor.Proofs.Recommendation.SuccessTexts
import CourseAdvisor.Proofs.Double.ReadingBack
import CourseAdvisor.Proofs.Json.Refusing
import CourseAdvisor.Proofs.Recommendation.ShapeAgreement
import CourseAdvisor.Proofs.Json.Cuts
import CourseAdvisor.Proofs.Json.PartialText
import CourseAdvisor.Proofs.Snapshot.Truncation
import CourseAdvisor.Proofs.Toml.Lines
import CourseAdvisor.Proofs.Toml.NumberText
import CourseAdvisor.Proofs.Toml.QuotedText
import CourseAdvisor.Proofs.Settings.Shown
import CourseAdvisor.Proofs.Advice.Gathering
import CourseAdvisor.Proofs.Double.Ordering
import CourseAdvisor.Proofs.Advice.InclusiveShare
import CourseAdvisor.Proofs.Advice.Growth
import CourseAdvisor.Proofs.Advice.RowOrder
import CourseAdvisor.Proofs.Advice.Slots
import CourseAdvisor.Proofs.Settings.Layering
import CourseAdvisor.Proofs.Snapshot.Checks
import CourseAdvisor.Proofs.Recommendation.PlaceText
import CourseAdvisor.Proofs.Recommendation.FirstViolation
import CourseAdvisor.Proofs.Catalog.LevelNames
import CourseAdvisor.Proofs.Json.Rewriting
import CourseAdvisor.Proofs.Snapshot.LevelCase
import CourseAdvisor.Proofs.Json.Deciding
import CourseAdvisor.Proofs.Json.ListText
import CourseAdvisor.Proofs.Json.Forms
import CourseAdvisor.Proofs.RecordForms
