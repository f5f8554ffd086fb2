import Rita.Basic
import Rita.Forwarding.Relay
import Rita.Forwarding.Session
import Rita.Forwarding.Mux
import Rita.Forwarding.Protocol
import Rita.Forwarding.Discovery
import Rita.Forwarding.Checkin
import Rita.Dashboard.Wallet
import Rita.Dashboard.Nonce
import Rita.Tunnels.Gc
import Rita.KernelInterface.Upgrade
import Rita.Exit.Loop
import Rita.Client.Auth
import Rita.Peers.Listener
