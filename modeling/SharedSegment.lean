import SharedSegment.Main
import SharedSegment.Scenario.Perform
import SharedSegment.Proofs.Tenure
import SharedSegment.Proofs.Ensures
import SharedSegment.Proofs.Session
import SharedSegment.Proofs.Locking
import SharedSegment.Proofs.Preparing
import SharedSegment.Proofs.Serial.Section
import SharedSegment.Proofs.Serial.Guarded
import SharedSegment.Proofs.Serial.Tally
import SharedSegment.Proofs.Serial.Isolation
import SharedSegment.Proofs.Ownership.Course
import SharedSegment.Proofs.Ownership.Custom
import SharedSegment.Proofs.Ownership.Report
import SharedSegment.Proofs.Custody.Ledger
import SharedSegment.Proofs.Custody.Claims
import SharedSegment.Proofs.Custody.Custodians
import SharedSegment.Proofs.Custody.Segments
import SharedSegment.Proofs.Custody.Opening
import SharedSegment.Proofs.Custody.Deeds
import SharedSegment.Proofs.Custody.Publication
import SharedSegment.Proofs.Custody.Calls
import SharedSegment.Proofs.Custody.Keeping
import SharedSegment.Proofs.Custody.Teardown
import SharedSegment.Proofs.Alone
import SharedSegment.Proofs.Alone.Growth
import SharedSegment.Proofs.Alone.Making
import SharedSegment.Proofs.Alone.Finding
import SharedSegment.Proofs.Alone.Residue
import SharedSegment.Proofs.Alone.Reclaiming
import SharedSegment.Proofs.Alone.Facades
import SharedSegment.Proofs.Custody.Tables
import SharedSegment.Proofs.Custody.Objects
import SharedSegment.Proofs.Custody.Payload
import SharedSegment.Proofs.Custody.Names
import SharedSegment.Proofs.Custody.Identity
import SharedSegment.Proofs.Guards.Borrowing
import SharedSegment.Proofs.Guards.Lapses
import SharedSegment.Proofs.Guards.Owners
import SharedSegment.Proofs.Guards.Grip
import SharedSegment.Proofs.Guards.Soundness
import SharedSegment.Proofs.Asking
import SharedSegment.Proofs.Calling
import SharedSegment.Proofs.Naming.Titles
import SharedSegment.Proofs.Naming.Holding
import SharedSegment.Proofs.Naming.Claiming
import SharedSegment.Proofs.Naming.Cleaning
import SharedSegment.Proofs.Naming.Owning
import SharedSegment.Proofs.Naming.Attaching
import SharedSegment.Proofs.Waiting.Parking
import SharedSegment.Proofs.Waiting.Calls
import SharedSegment.Proofs.Waiting.Monitor
import SharedSegment.Proofs.Waiting.Waking
import SharedSegment.Proofs.Waiting.Stranding
import SharedSegment.Proofs.Alone.Recovery
import SharedSegment.Proofs.Custody.Recreation
import SharedSegment.Proofs.Stakes.Confinement
import SharedSegment.Proofs.Stakes.Stake
import SharedSegment.Proofs.Stakes.Programs
import SharedSegment.Proofs.Stakes.Holders
import SharedSegment.Proofs.Stakes.Agreement
import SharedSegment.Proofs.Stakes.Likeness
import SharedSegment.Proofs.Stakes.Discarding
import SharedSegment.Proofs.Stakes.Lives
import SharedSegment.Proofs.Stakes.Asymmetry
import SharedSegment.Proofs.Stakes.Bystanders
import SharedSegment.Proofs.Stakes.Replay
import SharedSegment.Proofs.Stakes.Takeover
import SharedSegment.Proofs.Aftermath.Survival
import SharedSegment.Proofs.Labels.Scenarios
import SharedSegment.Proofs.Traces.Setup
import SharedSegment.Proofs.Traces.GivingUp
import SharedSegment.Proofs.Traces.Disposal
import SharedSegment.Proofs.Alone.Recognition
import SharedSegment.Proofs.Alone.Refusals
import SharedSegment.Proofs.Alone.Courses
import SharedSegment.Proofs.Alone.Openings
import SharedSegment.Proofs.Balance.Neutrality
import SharedSegment.Proofs.Departure.Forestalling
import SharedSegment.Proofs.Text.Boundaries
import SharedSegment.Proofs.Text.Replacing
import SharedSegment.Proofs.Naming.Spelling
import SharedSegment.Proofs.Commands.Printing
import SharedSegment.Proofs.Commands.Visits
import SharedSegment.Proofs.Commands.Contents
import SharedSegment.Proofs.Commands.Works
import SharedSegment.Proofs.Commands.Messages
import SharedSegment.Proofs.Commands.Observers
import SharedSegment.Proofs.Commands.Holding
import SharedSegment.Proofs.Commands.Verdicts
import SharedSegment.Proofs.Loading.Sources
import SharedSegment.Proofs.Loading.Agreement
