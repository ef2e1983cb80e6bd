import VideoRelay.Decimal.Numeral
import VideoRelay.Main
import VideoRelay.Proofs.Session.Storage
import VideoRelay.Rehearsal.Bench
import VideoRelay.Rehearsal.Disk
import VideoRelay.Rehearsal.Exchange
import VideoRelay.Proofs.Session.Outlet
import VideoRelay.Proofs.Session.Answer
import VideoRelay.Proofs.Session.Copying
import VideoRelay.Proofs.Session.Titles
import VideoRelay.Proofs.Session.Fidelity
import VideoRelay.Proofs.Upload
import VideoRelay.Proofs.Session.Feeding
import VideoRelay.Proofs.Session.Uploading
import VideoRelay.Proofs.Session.Upload
import VideoRelay.Proofs.Session.Abort
import VideoRelay.Proofs.Bridge.Moves
import VideoRelay.Proofs.Bridge.Custody
import VideoRelay.Proofs.Bridge.HalfClose
import VideoRelay.Proofs.Sink.Shared
import VideoRelay.Proofs.Session.Accounting
import VideoRelay.Proofs.Session.Reading
import VideoRelay.Proofs.Session.Failure
import VideoRelay.Proofs.Bridge.Gathering
import VideoRelay.Proofs.Bridge.Outcome
import VideoRelay.Proofs.Bridge.Mirroring
import VideoRelay.Proofs.Bridge.Tasks
import VideoRelay.Proofs.Bridge.Cancelling
import VideoRelay.Proofs.Bridge.Conclusion
import VideoRelay.Proofs.Bridge.EncoderFailure
import VideoRelay.Proofs.Session.Waiting
import VideoRelay.Proofs.Session.Work
import VideoRelay.Proofs.Session.Completion
import VideoRelay.Proofs.Bridge.Release
import VideoRelay.Proofs.Session.Transcoded
import VideoRelay.Proofs.Session.Backlog
import VideoRelay.Proofs.Gateway.Exchange
import VideoRelay.Proofs.Wire.Messages
import VideoRelay.Proofs.Settings.Layering
import VideoRelay.Proofs.Launch
import VideoRelay.Proofs.Bridge.Faults
import VideoRelay.Proofs.Gateway.Wording
import VideoRelay.Proofs.Gateway.MissingId
import VideoRelay.Proofs.Forwarding
import VideoRelay.Proofs.Sink.Delivery
import VideoRelay.Dialing
import VideoRelay.Proofs.Session.Loss
import VideoRelay.Proofs.Bridge.Shared
import VideoRelay.Proofs.Bridge.SingleUse
import VideoRelay.Proofs.Gateway.Opening
import VideoRelay.Proofs.Settings.Guesses
import VideoRelay.Proofs.Settings.Texts
import VideoRelay.Proofs.Wire.Grammar
import VideoRelay.Proofs.Wire.Unknown
import VideoRelay.Proofs.Wire.Truncation
import VideoRelay.Proofs.Trimming
import VideoRelay.Proofs.Settings.Legacy
import VideoRelay.Proofs.Address.Written
import VideoRelay.Proofs.Address.Hosts
import VideoRelay.Proofs.Address.Spelling
import VideoRelay.Proofs.Address.Normal
import VideoRelay.Proofs.Session.Describing
import VideoRelay.Proofs.Document.Json
import VideoRelay.Proofs.Gateway.Catalog
import VideoRelay.Proofs.Bridge.Errand
import VideoRelay.Proofs.Gateway.Spelling
import VideoRelay.Proofs.Gateway.Asking
