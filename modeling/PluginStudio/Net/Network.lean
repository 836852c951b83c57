import PluginStudio.IoFault
import PluginStudio.Net.Address
import PluginStudio.World

/-
  A network, as far as a server needs one.

  Key definitions include:
    * `PluginStudio.Net.Network`
    * `PluginStudio.Net.Network.listen`
    * `PluginStudio.Net.Network.close`
    * `PluginStudio.Net.Network.connect`
    * `PluginStudio.Net.Network.isolated`
    * `PluginStudio.Net.waitUntilReady`

  Which addresses can be listened on, and whether connections
  to them are let through, depends on the network.
-/

------------------------------------------------------------
-- Networks
------------------------------------------------------------

namespace PluginStudio

namespace Net

/-
  Why an address cannot be listened on, why connections to it do
  not come through, the port that is given out next, and who
  listens where.
-/
structure Network where
  refusal? : Ip → Option Errno
  barrier? : Ip → Option Errno
  nextPort : Nat
  listeners : List Address

namespace Network

/- Listen on an address.  Port zero stands for any free one. -/
def listen
    (network : Network)
    (address : Address) : Except IoFault (Address × Network) :=
  match network.refusal? address.ip with
  | some errno => .error (.system errno)
  | none =>
    if address.port = 0 then
      let bound := { address with port := network.nextPort }
      .ok (bound,
        { network with
          nextPort := network.nextPort + 1
          listeners := bound :: network.listeners })
    else if address ∈ network.listeners then
      .error (.system .addressInUse)
    else
      .ok (address,
        { network with listeners := address :: network.listeners })

/- Listen no longer. -/
def close
    (network : Network)
    (address : Address) : Network :=
  { network with
    listeners := network.listeners.filter fun a => a ≠ address }

/- Connect to an address. -/
def connect
    (network : Network)
    (address : Address) : Except IoFault Unit :=
  match network.barrier? address.ip with
  | some errno => .error (.system errno)
  | none =>
    if address ∈ network.listeners then .ok ()
    else .error (.system .connectionRefused)

end Network

end Net

end PluginStudio

------------------------------------------------------------
-- Isolation
------------------------------------------------------------

namespace PluginStudio

namespace Net

namespace Ip

/- Is it an address of four bytes, possibly in eight groups? -/
def isNarrow : Ip → Bool
  | v4 .. => true
  | v6 groups => groups.take 6 = [0, 0, 0, 0, 0, 0xFFFF]

/-
  Why a host without any running link cannot listen on an
  address.  Addresses of four bytes are always granted.  Of the
  others only the one for all addresses belongs to the host, and
  those that are local to a link need one to be named.
-/
def isolatedRefusal? (ip : Ip) : Option Errno :=
  match ip with
  | v4 .. => none
  | v6 groups =>
    let first := groups.headD 0
    if ip.isNarrow || groups.all fun g => g = 0 then none
    else if 0xFE80 ≤ first && first < 0xFEC0 then some .invalidArgument
    else if 0xFF00 ≤ first then some .invalidArgument
    else some .addressNotAvailable

/- Why such a host cannot connect to an address. -/
def isolatedBarrier? (ip : Ip) : Option Errno :=
  some (if ip.isNarrow then .networkUnreachable else .addressNotAvailable)

end Ip

namespace Network

/- A host whose only network is itself and is not running. -/
def isolated : Network where
  refusal? := Ip.isolatedRefusal?
  barrier? := Ip.isolatedBarrier?
  nextPort := 40000
  listeners := []

end Network

end Net

end PluginStudio

------------------------------------------------------------
-- Readiness
------------------------------------------------------------

namespace PluginStudio

namespace Net

/-
  Try to connect, and try again after a pause.  `attempt` is
  the number of the next try.  Did one of them succeed?
-/
def tryToConnect
    (network : Network)
    (address : Address)
    (interval attempt : Nat) :
    Nat → Studio Bool
  | 0 => return false
  | attempts + 1 => do
    match network.connect address with
    | .ok () => return true
    | .error fault =>
      Studio.report .server .debug "server not ready yet"
        [⟨"attempt", toString attempt, false⟩,
          ⟨"error", fault.message, false⟩]
      modify fun world => { world with clock := world.clock + interval }
      tryToConnect network address interval (attempt + 1) attempts

/- Wait until an address takes connections.  Does it? -/
def waitUntilReady
    (network : Network)
    (address : Address)
    (attempts interval : Nat) : Studio Bool :=
  tryToConnect network address interval 1 attempts

end Net

end PluginStudio
