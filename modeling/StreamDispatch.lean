import StreamDispatch.Bench.ChannelSet
import StreamDispatch.Bench.Client
import StreamDispatch.Bench.Dispatch
import StreamDispatch.Bench.Echo
import StreamDispatch.Bench.Lifecycle
import StreamDispatch.Bench.Message
import StreamDispatch.Bench.Server
import StreamDispatch.Framing.Feed
import StreamDispatch.Framing.Checked
import StreamDispatch.Main
import StreamDispatch.Stage.Reactions
import StreamDispatch.Proofs.Application
import StreamDispatch.Proofs.Callbacks
import StreamDispatch.Proofs.Conservation
import StreamDispatch.Proofs.Delivery
import StreamDispatch.Proofs.Drain
import StreamDispatch.Proofs.Output
import StreamDispatch.Proofs.Deeds
import StreamDispatch.Proofs.Moments
import StreamDispatch.Proofs.Flags
import StreamDispatch.Proofs.Refusal
import StreamDispatch.Proofs.Room
import StreamDispatch.Proofs.Fragmentation
import StreamDispatch.Proofs.RoundTrip
import StreamDispatch.Proofs.Echoing
import StreamDispatch.Proofs.Parts
import StreamDispatch.Proofs.Separation
import StreamDispatch.Proofs.Afterlife
import StreamDispatch.Proofs.Starting
import StreamDispatch.Proofs.Lifecycles
import StreamDispatch.Proofs.Closings
import StreamDispatch.Proofs.Visits
import StreamDispatch.Proofs.Conversation
import StreamDispatch.Proofs.Fitting
import StreamDispatch.Proofs.Completion
import StreamDispatch.Proofs.Sending
import StreamDispatch.Proofs.Parsing
import StreamDispatch.Proofs.Retrying
import StreamDispatch.Proofs.Handing
import StreamDispatch.Proofs.Poisoning
import StreamDispatch.Proofs.Overflowing
import StreamDispatch.Proofs.Memory
import StreamDispatch.Proofs.Encoding
import StreamDispatch.Proofs.WordSafety
import StreamDispatch.Proofs.Dialing
import StreamDispatch.Proofs.Admission
import StreamDispatch.Proofs.Membership
