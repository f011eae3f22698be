import WaveCache.Main
import WaveCache.Node.Client
import WaveCache.Proofs.Bus.Delivery
import WaveCache.Proofs.Bus.Tally
import WaveCache.Proofs.Channel.Grammar
import WaveCache.Proofs.ChannelStore.Inclusion
import WaveCache.Proofs.ChannelStore.Refinement
import WaveCache.Proofs.ChannelStore.Shuffle
import WaveCache.Proofs.Exchange.Matching
import WaveCache.Proofs.Node.Transport
import WaveCache.Proofs.Service.Bulk
import WaveCache.Proofs.Service.Conservation
import WaveCache.Proofs.Service.FailureCount
import WaveCache.Proofs.Service.History
import WaveCache.Proofs.Service.Invariant
import WaveCache.Proofs.Service.Names
import WaveCache.Proofs.Service.Peers
import WaveCache.Proofs.Service.Reply
import WaveCache.Proofs.Service.Storable
import WaveCache.Proofs.Service.Unchanged
import WaveCache.Proofs.Window.Outcome
import WaveCache.Proofs.Wire.Packets
