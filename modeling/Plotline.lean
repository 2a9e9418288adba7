import Plotline.Main
import Plotline.Format.Event
import Plotline.Format.Report
import Plotline.Format.Settings
import Plotline.Save.Files
import Plotline.Stage.Recording
import Plotline.Proofs.Bus.Delivery
import Plotline.Proofs.Bus.Growth
import Plotline.Proofs.Bus.Subscription
import Plotline.Proofs.Interpreter.Poise
import Plotline.Proofs.Interpreter.Resume
import Plotline.Proofs.Interpreter.Transcript
import Plotline.Proofs.Runner.Alike
import Plotline.Proofs.Runner.Primed
import Plotline.Proofs.Runner.Reload
import Plotline.Proofs.Runner.Status
import Plotline.Proofs.Runner.Upkeep
import Plotline.Proofs.Runner.Wiring
import Plotline.Proofs.Scene.Account
import Plotline.Proofs.Scene.Awake
import Plotline.Proofs.Scene.Conduct
import Plotline.Proofs.Scene.Course
import Plotline.Proofs.Scene.Execution
import Plotline.Proofs.Scene.Frame
import Plotline.Proofs.Scene.Gate
import Plotline.Proofs.Scene.Once
import Plotline.Proofs.Scene.Operation
import Plotline.Proofs.Scene.Orderly
import Plotline.Proofs.Scene.Package
import Plotline.Proofs.Scene.Perform
import Plotline.Proofs.Scene.Progress
import Plotline.Proofs.Scene.Registry
import Plotline.Proofs.Scene.Release
import Plotline.Proofs.Scene.Reload
import Plotline.Proofs.Scene.Schedule
import Plotline.Proofs.Scene.Sound
import Plotline.Proofs.Scene.Subscriptions
import Plotline.Proofs.Scene.Tick
import Plotline.Proofs.Scene.Waiting
import Plotline.Proofs.Story.Event
import Plotline.Proofs.Runner.Recapture
import Plotline.Proofs.Scene.Recapture
import Plotline.Proofs.Number.Numeral
import Plotline.Proofs.Number.Stored
import Plotline.Proofs.Json.Tree
import Plotline.Proofs.Json.Layout
import Plotline.Proofs.Format.Snapshot
import Plotline.Proofs.Format.Program
import Plotline.Proofs.Format.Storyboard
import Plotline.Proofs.Number.Dyadic
import Plotline.Proofs.Number.Shortest
import Plotline.Proofs.Number.Reading
import Plotline.Proofs.Number.Apart
import Plotline.Proofs.Number.Restored
import Plotline.Proofs.Format.Provenance
import Plotline.Proofs.Json.Numbers
import Plotline.Proofs.Format.Rewriting
import Plotline.Proofs.Runner.Task
import Plotline.Proofs.Scene.Reapplied
import Plotline.Proofs.Scene.Remembered
import Plotline.Proofs.Scene.Survival
import Plotline.Proofs.Scene.Overtaking
import Plotline.Proofs.Scene.Hearsay
import Plotline.Proofs.Scene.Unscripted
import Plotline.Proofs.Interpreter.Wait
import Plotline.Proofs.Scene.Timing
import Plotline.Proofs.Interpreter.Performance
import Plotline.Proofs.Scene.Announcement
import Plotline.Proofs.Scene.Summons
import Plotline.Proofs.Scene.Refusal
import Plotline.Proofs.Save.Folder
import Plotline.Proofs.Save.Slots
import Plotline.Proofs.Scene.Outlook
import Plotline.Proofs.Scene.Intrusion
import Plotline.Proofs.Scene.Enrolment
import Plotline.Proofs.Scene.Procession
import Plotline.Proofs.Interpreter.Skip
import Plotline.Proofs.Story.Label
import Plotline.Proofs.Interpreter.Signpost
import Plotline.Proofs.Text.Natural
import Plotline.Proofs.Save.Listing
import Plotline.Proofs.Scene.Billing
import Plotline.Proofs.Scene.Overture
import Plotline.Proofs.Scene.Kickoff
import Plotline.Proofs.Interpreter.Budget
import Plotline.Proofs.Scene.Deferral
import Plotline.Proofs.Scene.Errand
import Plotline.Proofs.Scene.Bounds
import Plotline.Proofs.Runner.Arming
import Plotline.Proofs.Check.Program
import Plotline.Proofs.Check.Package
import Plotline.Proofs.Json.Excerpt
import Plotline.Proofs.Json.Following
import Plotline.Proofs.Json.Embedding
import Plotline.Proofs.Json.Depth
import Plotline.Proofs.Format.Lenience
import Plotline.Proofs.Scene.Brisk
import Plotline.Proofs.Play.Prompt
import Plotline.Proofs.Scene.Custody
import Plotline.Proofs.Runner.Reinstated
import Plotline.Proofs.Stage.Duration
import Plotline.Proofs.Interpreter.Enactment
import Plotline.Proofs.Play.Menu
import Plotline.Proofs.Runner.Occasion
