import GoL2tp.Core.Lts
import GoL2tp.Core.GoMap
import GoL2tp.Registry.Index
import GoL2tp.Context.Types
import GoL2tp.Context.Address
import GoL2tp.Context.Registry
import GoL2tp.Context.Factory
import GoL2tp.Context.Lifecycle
import GoL2tp.Context.Concurrent
import GoL2tp.Context.Rules
import GoL2tp.Context.Events
import GoL2tp.Context.Serial
import GoL2tp.Tunnel.Sessions
import GoL2tp.Nll2tp.Conn
import GoL2tp.Nll2tp.Commands
import GoL2tp.Nll2tp.Close
import GoL2tp.Nll2tp.Progress
import GoL2tp.Config.Value
import GoL2tp.Config.Decode
import GoL2tp.Config.Spec
import GoL2tp.Config.Errors
import GoL2tp.Kl2tpd.Application
