import LiveCamera.Hevc.Depayload
import LiveCamera.Json.Cases
import LiveCamera.Main
import LiveCamera.Page.Router
import LiveCamera.Pipeline.Script
import LiveCamera.Rehearsal.Steps
import LiveCamera.Rehearsal.Streaming
import LiveCamera.Rtp.Capability
import LiveCamera.Throttle
import LiveCamera.Proofs.Hevc.Lossless
import LiveCamera.Proofs.Hevc.Checked
import LiveCamera.Proofs.Hevc.Aggregation
import LiveCamera.Proofs.Overlay.Raster
import LiveCamera.Proofs.Rehearsal.Handover
import LiveCamera.Proofs.Rehearsal.Offering
import LiveCamera.Proofs.Signaling.History
import LiveCamera.Proofs.Signaling.Joining
import LiveCamera.Proofs.Signaling.Relaying
import LiveCamera.Proofs.Overlay.Rendering
import LiveCamera.Proofs.Overlay.Requests
import LiveCamera.Proofs.Overlay.Table
import LiveCamera.Proofs.Overlay.NaturalPicture
import LiveCamera.Proofs.Json.Reading
import LiveCamera.Proofs.Settings.Stored
import LiveCamera.Proofs.Settings.Overlap
import LiveCamera.Proofs.Event.Broadcasts
import LiveCamera.Proofs.Settings.Persistence
import LiveCamera.Proofs.Session.Course
import LiveCamera.Proofs.Session.Ledger
import LiveCamera.Proofs.Session.Retirement
import LiveCamera.Proofs.Streamer.Changeover
import LiveCamera.Proofs.Streamer.Course
import LiveCamera.Proofs.AnnexB.Framing
import LiveCamera.Proofs.AnnexB.Scanning
import LiveCamera.Proofs.Replay.Recording
import LiveCamera.Proofs.Replay.Looping
import LiveCamera.Proofs.Track.Integrity
import LiveCamera.Proofs.Pipeline.MediaPath
import LiveCamera.Proofs.Streamer.Lifecycle
import LiveCamera.Proofs.Streamer.Listening
import LiveCamera.Proofs.Streamer.Outcome
import LiveCamera.Proofs.Pipeline.Forwarding
import LiveCamera.Proofs.Signaling.Access
import LiveCamera.Proofs.Overlay.Painting
import LiveCamera.Proofs.Overlay.Refusals
import LiveCamera.Proofs.Overlay.Redrawing
import LiveCamera.Proofs.Overlay.Disposal
import LiveCamera.Proofs.Pipeline.Opening
import LiveCamera.Proofs.Pipeline.Failures
import LiveCamera.Proofs.Pipeline.Accounting
import LiveCamera.Proofs.Settings.Interrupted
import LiveCamera.Proofs.Settings.Notification
import LiveCamera.Proofs.Throttle.Conservation
import LiveCamera.Proofs.Session.Journal
import LiveCamera.Proofs.Sdp.Candidates
import LiveCamera.Proofs.Page.Quoting
import LiveCamera.Proofs.Overlay.Clipping
import LiveCamera.Proofs.Overlay.Turning
