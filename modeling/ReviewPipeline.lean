import ReviewPipeline.Main
import ReviewPipeline.Proofs.Database.Writes
import ReviewPipeline.Proofs.Progression
import ReviewPipeline.Proofs.Transitions
import ReviewPipeline.Proofs.Calls
import ReviewPipeline.Proofs.Effects
import ReviewPipeline.Proofs.Runs
import ReviewPipeline.Proofs.CursorShape
import ReviewPipeline.Proofs.Replay
import ReviewPipeline.Proofs.WorkStatus
import ReviewPipeline.Proofs.Footprint
import ReviewPipeline.Proofs.Completion
import ReviewPipeline.Proofs.Rejection
import ReviewPipeline.Proofs.Barrier
import ReviewPipeline.Proofs.Reachability
import ReviewPipeline.Proofs.Failures
import ReviewPipeline.Proofs.AppendOnly
import ReviewPipeline.Proofs.Answers
import ReviewPipeline.Proofs.Resets
import ReviewPipeline.Proofs.AuditTrail
import ReviewPipeline.Proofs.ShortIds
import ReviewPipeline.Proofs.Commands
import ReviewPipeline.Proofs.Clear
import ReviewPipeline.Proofs.Interchange
import ReviewPipeline.Proofs.Agreement
import ReviewPipeline.Proofs.Course
import ReviewPipeline.Proofs.Upkeep
import ReviewPipeline.Proofs.Staffing
import ReviewPipeline.Proofs.Asides
import ReviewPipeline.Proofs.Dossiers
import ReviewPipeline.Proofs.Requests
import ReviewPipeline.Proofs.Reordering
import ReviewPipeline.Proofs.FreshStart
import ReviewPipeline.Proofs.Outside
import ReviewPipeline.Proofs.Workspaces
import ReviewPipeline.Proofs.Legibility
import ReviewPipeline.Proofs.Collisions
import ReviewPipeline.Proofs.Json.RoundTrip
import ReviewPipeline.Proofs.SettingsFile
import ReviewPipeline.Proofs.ActiveWorkspace
import ReviewPipeline.Proofs.Seclusion
import ReviewPipeline.Proofs.ChosenDatabase
import ReviewPipeline.Proofs.Reopening
import ReviewPipeline.Proofs.Initialization
import ReviewPipeline.Proofs.Catalogs
import ReviewPipeline.Proofs.ReadBack
import ReviewPipeline.Proofs.Json.Compact
import ReviewPipeline.Proofs.SwitchArguments
import ReviewPipeline.Proofs.Switches
import ReviewPipeline.Proofs.JsonFlags
import ReviewPipeline.Proofs.OutputModes
import ReviewPipeline.Proofs.QuietMode
import ReviewPipeline.Proofs.CursorWrites
import ReviewPipeline.Proofs.Insertion
import ReviewPipeline.Proofs.StoredText
import ReviewPipeline.Proofs.Persistence
import ReviewPipeline.Proofs.EditDistance
import ReviewPipeline.Proofs.FreePrefix
import ReviewPipeline.Proofs.LowerCase
import ReviewPipeline.Proofs.Recognition
import ReviewPipeline.Proofs.Suggestions
import ReviewPipeline.Proofs.RecentEvents
import ReviewPipeline.Proofs.Phrases
import ReviewPipeline.Proofs.SuggestedIssues
import ReviewPipeline.Proofs.Hints
import ReviewPipeline.Proofs.Actors
