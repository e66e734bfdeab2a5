import ContactDiscovery.Basic
import ContactDiscovery.Ffi
import ContactDiscovery.HashQueryPhone
import ContactDiscovery.RatelimitStateData
import ContactDiscovery.RatelimitState
import ContactDiscovery.RatelimitRun
import ContactDiscovery.RatelimitSetContract
import ContactDiscovery.RatelimitChain
import ContactDiscovery.Interface
import ContactDiscovery.ServerState
import ContactDiscovery.DecodeRequest
import ContactDiscovery.UpdateRatelimitState
import ContactDiscovery.HandleCall
import ContactDiscovery.Terminate
import ContactDiscovery.RatelimitStateStore
import ContactDiscovery.RatelimitStateMapInterleaving
import ContactDiscovery.RatelimitStateMapRuns
