/-
Module: PeerCache.Program.Machine
Purpose: What a machine says to one who wants to listen at an address.
Main exports:
  OsError, Machine, Machine.offline
-/
import PeerCache.Net.Socket

/-!
Whether a program may listen at an address is up to the machine that it runs on.  A
machine without any network still lets one listen at every address of version 4, as
none of them can be told from its own.  Of version 6 it knows that it has no address at
all, so only the unspecified one is left, and those that stand for version 4.  Port zero
stands for any free port.
-/

namespace PeerCache.Program

/-- A fault that the machine reports, with its number. -/
structure OsError where
  message : String
  number : Nat
deriving Repr, DecidableEq

namespace OsError

/-- The wording of a fault of the machine. -/
def text (error : OsError) : String :=
  error.message ++ " (os error " ++ toString error.number ++ ")"

/-- The port is reserved. -/
def permissionDenied : OsError := ⟨"Permission denied", 13⟩

/-- There is no interface with the zone's number. -/
def noSuchDevice : OsError := ⟨"No such device", 19⟩

/-- Nobody can listen at such an address. -/
def invalidArgument : OsError := ⟨"Invalid argument", 22⟩

/-- The address is not one of the machine's own. -/
def addressNotAvailable : OsError := ⟨"Cannot assign requested address", 99⟩

end OsError

/-- What a machine says when somebody wants to listen at an address. -/
structure Machine where
  bindFault? : Net.SocketAddress → Option OsError

namespace Machine

/-- A machine that lets everybody listen everywhere. -/
def permissive : Machine := ⟨fun _ => none⟩

/-- The first port that everybody may listen at. -/
def firstFreePort : Nat := 1024

/-- Whether a port is reserved. -/
def isReserved (port : Nat) : Bool :=
  0 < port && port < firstFreePort

/-- Whether an address of version 6 means many machines: its first eight bits are ones. -/
def isMulticast (address : Net.Ipv6) : Bool :=
  address.words.headD 0 / 256 = 0xFF

/-- Whether an address of version 6 means something on one link only, which its first
ten bits tell. -/
def isLinkLocal (address : Net.Ipv6) : Bool :=
  address.words.headD 0 / 64 = 0x3FA

/-- Whether an address of version 6 is unspecified or stands for one of version 4. -/
def needsNoInterface (address : Net.Ipv6) : Bool :=
  address.words.all (· = 0) || address.words.take 6 = [0, 0, 0, 0, 0, 0xFFFF]

/-- The zone of the one interface that every machine has. -/
def loopbackZone : Nat := 1

/-- A machine without any network, on which the ports below 1024 are reserved. -/
def offline : Machine :=
  ⟨fun
    | .v4 _ port => if isReserved port then some .permissionDenied else none
    | .v6 address zone port =>
        if isMulticast address then some .invalidArgument
        else if isReserved port then some .permissionDenied
        else if needsNoInterface address then none
        else if isLinkLocal address then
          if zone = 0 then some .invalidArgument
          else if zone = loopbackZone then some .addressNotAvailable
          else some .noSuchDevice
        else some .addressNotAvailable⟩

end Machine

end PeerCache.Program
