import RingServer.Protocols.Text

set_option autoImplicit false

namespace RingServer.Config

inductive AddressFamily where
  | interNetwork
  | interNetworkV6
deriving DecidableEq

-- The bytes of GetAddressBytes; the scope of an IPv6 address is not among them.
structure IPAddress where
  family : AddressFamily
  bytes : List UInt8
  scopeId : Nat
deriving DecidableEq

structure IPNet where
  family : AddressFamily
  network : List UInt8
  netmask : List UInt8
  limitStr : Option Text
deriving DecidableEq

def maskByte (bits : Int) : UInt8 :=
  if min 8 bits > 0 then UInt8.ofNat (0xFF * 2 ^ (8 - min 8 bits).toNat % 256) else 0

-- A negative length is a single host.
def netmaskOf (addrLen : Nat) (prefixLen : Int) : List UInt8 :=
  if prefixLen ≥ 0 then (List.range addrLen).map fun i => maskByte (prefixLen - i * 8)
  else List.replicate addrLen 0xFF

-- The new entry of AddIPNet; none is an address that IPAddress.TryParse refuses.
def parseIPNet (tryParseAddress : Text → Option IPAddress) (network : Text) (limitStr : Option Text) : Option IPNet :=
  let parts := network.splitOnP fun c => c = '/'
  let prefixLen := (parts[1]?.bind tryParseInt).getD (-1)
  (tryParseAddress (parts.headD [])).map fun addr =>
    { family := addr.family
      network := addr.bytes
      netmask := netmaskOf addr.bytes.length prefixLen
      limitStr := limitStr }

def IPNet.matches (net : IPNet) (addr : IPAddress) : Bool :=
  net.family = addr.family && addr.bytes.length = net.network.length &&
    (addr.bytes.zip (net.network.zip net.netmask)).all fun entry => entry.1 &&& entry.2.2 = entry.2.1 &&& entry.2.2

def findMatchingIP (list : List IPNet) (addr : IPAddress) : Option IPNet := list.find? (·.matches addr)

def matchIP (list : List IPNet) (addr : IPAddress) : Bool := (findMatchingIP list addr).isSome

theorem find_matching_again (list rest : List IPNet) (addr : IPAddress) :
    findMatchingIP (list ++ (list ++ rest)) addr = findMatchingIP (list ++ rest) addr := by
  rw [findMatchingIP, findMatchingIP, List.find?_append, List.find?_append]
  cases list.find? (·.matches addr) with
  | none => rfl
  | some net => rfl

end RingServer.Config
