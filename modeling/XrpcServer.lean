import XrpcServer.Handler.AllOrNothing
import XrpcServer.Handler.ServerKeys
import XrpcServer.Handler.TransferAmount
import XrpcServer.Handler.DigestCoverage
import XrpcServer.Handler.ChainHead
import XrpcServer.Interaction.Triple
import XrpcServer.Handler.ParseFailure
import XrpcServer.Handler.Rows
import XrpcServer.Interaction.Interference
import XrpcServer.Chain.HeadChain
import XrpcServer.Faucet.Network
import XrpcServer.Faucet.Invariant
import XrpcServer.Faucet.Give
import XrpcServer.Faucet.PaidOnce
import XrpcServer.Handler.Answers
import XrpcServer.Http.BodySegmentation
import XrpcServer.Http.OneResponse
import XrpcServer.Handler.CleanResponses
import XrpcServer.Handler.GiveChecks
import XrpcServer.Handler.Pages
import XrpcServer.Handler.HistoryRows
import XrpcServer.Handler.DigestFields
import XrpcServer.Handler.DigestTrip
import XrpcServer.Http.AcceptLoop
import XrpcServer.Grpc.Lifetime
import XrpcServer.Http.Framing
import XrpcServer.Handler.ListShapes
import XrpcServer.Handler.Properties
import XrpcServer.Handler.MessageIds
import XrpcServer.Grpc.Statistics
import XrpcServer.Handler.AnyReplies
import XrpcServer.Accounts.Servers
import XrpcServer.Protobuf.RoundTrip
import XrpcServer.Grpc.UnaryCall
import XrpcServer.Grpc.OnNode
import XrpcServer.Http.AcceptCount
import XrpcServer.Http.Isolation
import XrpcServer.Http.Settling
import XrpcServer.Http.OnNode
import XrpcServer.Handler.Isolation
import XrpcServer.Handler.ValueRequests
