import Pentagon5.Interleaving.Machine
import Pentagon5.Interleaving.Ledger
import Pentagon5.Interleaving.Since
import Pentagon5.Relational.Table
import Pentagon5.Python.Text
import Pentagon5.Python.Json
import Pentagon5.Python.JsonText
import Pentagon5.Python.JsonEscapes
import Pentagon5.Python.Base64
import Pentagon5.Python.Dict
import Pentagon5.Python.Raising
import Pentagon5.Python.Decimal
import Pentagon5.Broker.Provider
import Pentagon5.Auth.Evolution
import Pentagon5.Auth.Tokens
import Pentagon5.Auth.Deployment
import Pentagon5.Proofs.IssuedCredentials
import Pentagon5.Proofs.Revocation
import Pentagon5.Proofs.OneTime
import Pentagon5.Proofs.Liveness
import Pentagon5.Proofs.EventLedger
import Pentagon5.Proofs.Isolation
import Pentagon5.Proofs.WebSocket
import Pentagon5.Proofs.Login
import Pentagon5.Proofs.LoginErrors
import Pentagon5.Proofs.FailedLogins
import Pentagon5.Proofs.Provisioning
import Pentagon5.Proofs.BrokerLedger
import Pentagon5.Proofs.DecimalContext
import Pentagon5.Proofs.StrategyRunner
import Pentagon5.Proofs.Uuid7
import Pentagon5.Proofs.Channel
import Pentagon5.Proofs.Wire
import Pentagon5.Proofs.Reconnecting
import Pentagon5.Proofs.FailureStreak
import Pentagon5.Proofs.UuidOrder
import Pentagon5.Proofs.ControlFrames
import Pentagon5.Proofs.DecimalGrammar
import Pentagon5.Proofs.Issuer
import Pentagon5.Proofs.Redaction
import Pentagon5.Proofs.SessionContract
import Pentagon5.Proofs.ErrorModel
import Pentagon5.Proofs.DesktopSession
import Pentagon5.Proofs.BrokerAtomicity
import Pentagon5.Proofs.CostBasis
import Pentagon5.Proofs.DetailsRedaction
import Pentagon5.Proofs.Candles
import Pentagon5.Proofs.CorsOrigins
import Pentagon5.Proofs.SessionKey
import Pentagon5.Python.Urlencode
import Pentagon5.Proofs.BrowserLogin
import Pentagon5.Proofs.AuthorizationUrl
import Pentagon5.Proofs.Sealing
import Pentagon5.Proofs.Refusals
import Pentagon5.Proofs.Standing
import Pentagon5.Desktop.Platform
import Pentagon5.Proofs.Handoff
import Pentagon5.Proofs.ProviderEndpoints
import Pentagon5.Proofs.Handshake
import Pentagon5.Interleaving.Simulation
import Pentagon5.Desktop.Keychain
import Pentagon5.Proofs.Keychain
import Pentagon5.Client.Conversation
import Pentagon5.Proofs.Conversation
import Pentagon5.Ecma.Dumps
import Pentagon5.Proofs.WireText
import Pentagon5.Finance.Portfolio
import Pentagon5.Proofs.TradingSession
