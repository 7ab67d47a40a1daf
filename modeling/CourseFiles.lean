import CourseFiles.Service.Client
import CourseFiles.Service.Endpoint
import CourseFiles.Sitting.Run
import CourseFiles.Text.Hexadecimal
import CourseFiles.Proofs.Sitting.History
import CourseFiles.Proofs.Sitting.Moves
import CourseFiles.Proofs.Sitting.PopupTurns
import CourseFiles.Proofs.Sitting.CallTurns
import CourseFiles.Proofs.Sitting.Apart
import CourseFiles.Proofs.Sitting.Runs
import CourseFiles.Proofs.Picker.Agreement
import CourseFiles.Proofs.Authorization.OnePopup
import CourseFiles.Proofs.Sitting.Wire
import CourseFiles.Proofs.Sitting.Promptness
import CourseFiles.Proofs.Messages.Replies
import CourseFiles.Proofs.Authorization.Causes
import CourseFiles.Proofs.Authorization.Outcome
import CourseFiles.Proofs.Sitting.Within
import CourseFiles.Proofs.Picker.InFlight
import CourseFiles.Proofs.Picker.Selection
import CourseFiles.Proofs.Picker.Closing
import CourseFiles.Proofs.Authorization.Access
import CourseFiles.Proofs.Picker.Transitions
import CourseFiles.Proofs.Authorization.Settlement
import CourseFiles.Proofs.Authorization.Waiting
import CourseFiles.Proofs.Authorization.Endings
import CourseFiles.Proofs.Authorization.Joining
import CourseFiles.Proofs.Authorization.Prompt
import CourseFiles.Proofs.Messages.Delivery
import CourseFiles.Proofs.Messages.Listeners
import CourseFiles.Proofs.Authorization.Pacing
import CourseFiles.Proofs.Sitting.Rest
import CourseFiles.Proofs.Authorization.Progress
import CourseFiles.Proofs.Json.Onward
import CourseFiles.Proofs.Json.Skipping
import CourseFiles.Proofs.Json.Agreement
import CourseFiles.Proofs.Json.Records
import CourseFiles.Proofs.Json.Overlay
import CourseFiles.Proofs.Service.ErrorBodies
import CourseFiles.Proofs.Service.Judgement
import CourseFiles.Proofs.Picker.Verdict
import CourseFiles.Proofs.Picker.Invocation
import CourseFiles.Proofs.Picker.Buttons
import CourseFiles.Proofs.Picker.Root
import CourseFiles.Proofs.Json.Proper
import CourseFiles.Proofs.Listing.RoundTrip
import CourseFiles.Proofs.Url.Addresses
import CourseFiles.Proofs.Url.Domains
import CourseFiles.Proofs.Url.Hosts
import CourseFiles.Proofs.Url.Origins
import CourseFiles.Proofs.Messages.Senders
import CourseFiles.Proofs.Listing.Trails
import CourseFiles.Proofs.Picker.Observers
import CourseFiles.Proofs.Picker.Choice
import CourseFiles.Proofs.Authorization.Pursuit
import CourseFiles.Proofs.Authorization.Marks
import CourseFiles.Proofs.Authorization.Hearing
import CourseFiles.Proofs.Url.Parameters
import CourseFiles.Proofs.Json.Keeping
import CourseFiles.Proofs.Listing.Encoding
import CourseFiles.Proofs.Settings.Logs
import CourseFiles.Proofs.Settings.Loading

