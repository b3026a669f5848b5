import PiiScan.Config.Basic

/-!
This module contains the life of a server: it binds its endpoint, serves, and stops at a signal.
Which endpoints can be bound is for the machine to say. A server that is not disturbed stops without
a fault.
-/

namespace PiiScan

/--
The network that a machine is on: whether an endpoint can be bound there, or why not.
-/
structure Network where
  bind : Endpoint → Except String Unit

/--
Whether an address belongs to every machine: it is unspecified or a loopback address.
-/
def IpAddress.isOwn : IpAddress → Bool
  | .v4 a b c d => a == 127 || (a == 0 && b == 0 && c == 0 && d == 0)
  | .v6 groups => [[0, 0, 0, 0, 0, 0, 0, 0], [0, 0, 0, 0, 0, 0, 0, 1]].contains groups.toList

/--
The network of a machine that is connected to no other and has all its ports free.
-/
def Network.isolated : Network where
  bind endpoint :=
    if endpoint.address.isOwn then .ok ()
    else .error "Cannot assign requested address (os error 99)"

def Server.serve (config : ServerConfig) (network : Network := .isolated) : Except Fault Unit := do
  let endpoint ← config.endpoint
  (network.bind endpoint).mapError .io

end PiiScan
