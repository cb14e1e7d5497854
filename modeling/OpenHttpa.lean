import OpenHttpa.Wasm.SealNonces
import OpenHttpa.Server.Replay
import OpenHttpa.Channel.Answers
import OpenHttpa.Channel.Counters
import OpenHttpa.Channel.Agreement
import OpenHttpa.Channel.ClientQuotes
import OpenHttpa.Server.RegistrySteps
import OpenHttpa.Server.Resumption
import OpenHttpa.Server.TicketEngineFs
import OpenHttpa.Crypto.NonceSequence
import OpenHttpa.Channel.Uploads
import OpenHttpa.Server.RedisReplayGuard
import OpenHttpa.Server.ReplayGuardFs
import OpenHttpa.Channel.Flights
import OpenHttpa.Channel.BrowserToC
import OpenHttpa.Headers.AtHsCodec
import OpenHttpa.Fabric.Isolation
import OpenHttpa.Attestation.Federation
import OpenHttpa.Attestation.LocalVerifiers
import OpenHttpa.Mesh.Admission
import OpenHttpa.Mesh.Node
import OpenHttpa.Fabric.Capacity
import OpenHttpa.Fabric.Tools
import OpenHttpa.Core.ClientEvidence
import OpenHttpa.Channel.ForgedFrames
import OpenHttpa.Core.SlidingWindow
import OpenHttpa.Server.RateLimit
import OpenHttpa.Core.PskStore
import OpenHttpa.Aiql.Parser
import OpenHttpa.Mesh.Registry
import OpenHttpa.Attestation.Policy
import OpenHttpa.Llm.Provenance
import OpenHttpa.Oracle.Redirects
import OpenHttpa.Crypto.NonceFile
import OpenHttpa.Transport.Oblivious
import OpenHttpa.Grpc.Service
