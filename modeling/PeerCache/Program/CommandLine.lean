/-
Module: PeerCache.Program.CommandLine
Purpose: What the arguments of the program ask for.
Main exports:
  Settings, Settings.ofArguments, ArgumentFault, ArgumentFault.message
-/
import PeerCache.Net.Socket
import PeerCache.Peer.Pool
import PeerCache.Text.Numeral
import PeerCache.Text.Split

/-!
Arguments are read from the left.  A flag takes the argument after it as its value,
whatever that is; all other arguments are skipped one by one.  A flag that may be given
once replaces what was given before, and each peer is added to those before.  The first
fault ends the reading.
-/

namespace PeerCache.Program

/-- The flags of the program. -/
inductive Flag where
  | bind
  | peer
  | basePath
  | replicas
deriving Repr, DecidableEq

/-- The flag with a name. -/
def Flag.named? (name : String) : Option Flag :=
  if name = "--bind" then some .bind
  else if name = "--peer" then some .peer
  else if name = "--base-path" then some .basePath
  else if name = "--replicas" then some .replicas
  else none

/-- Why arguments are refused. -/
inductive ArgumentFault where
  /-- A flag is the last argument. -/
  | missingValue (flag : String)
  /-- The address to listen at cannot be read. -/
  | badAddress
  | badReplicas (fault : Text.NumeralError)
  /-- There is no address to listen at. -/
  | noAddress
deriving Repr, DecidableEq

/-- The wording of a fault. -/
def ArgumentFault.message : ArgumentFault → String
  | .missingValue flag => "missing value for " ++ flag
  | .badAddress => "invalid socket address syntax"
  | .badReplicas fault => fault.message
  | .noAddress => "--bind is required"

/-- The greatest number of replicas that can be asked for. -/
def lastReplicas : Nat := 18446744073709551615

/-- What the arguments read so far ask for. -/
structure Draft where
  bind : Option Net.SocketAddress
  peers : List String
  options : PoolOptions

namespace Draft

/-- What no arguments ask for. -/
def empty : Draft := ⟨none, [], .default⟩

/-- Takes a flag with its value. -/
def take (draft : Draft) : Flag → String → Except ArgumentFault Draft
  | .bind, value =>
      match Net.SocketAddress.ofString? value with
      | some address => .ok { draft with bind := some address }
      | none => .error .badAddress
  | .peer, value =>
      .ok { draft with peers := draft.peers ++ [Text.trimEnd '/' value] }
  | .basePath, value =>
      .ok { draft with options := { draft.options with basePath := value } }
  | .replicas, value =>
      match Text.readNatural lastReplicas value with
      | .ok replicas => .ok { draft with options := { draft.options with replicas } }
      | .error fault => .error (.badReplicas fault)

/-- Reads arguments from the left. -/
def read (draft : Draft) : List String → Except ArgumentFault Draft
  | [] => .ok draft
  | [last] =>
      match Flag.named? last with
      | some _ => .error (.missingValue last)
      | none => .ok draft
  | argument :: next :: rest =>
      match Flag.named? argument with
      | none => draft.read (next :: rest)
      | some flag =>
          match draft.take flag next with
          | .ok taken => taken.read rest
          | .error fault => .error fault

end Draft

/-- What the arguments ask for. -/
structure Settings where
  /-- Where the node listens. -/
  bind : Net.SocketAddress
  /-- The peers that were named. -/
  peers : List String
  options : PoolOptions

namespace Settings

/-- What a list of arguments asks for. -/
def ofArguments (arguments : List String) : Except ArgumentFault Settings :=
  match Draft.empty.read arguments with
  | .error fault => .error fault
  | .ok draft =>
      match draft.bind with
      | none => .error .noAddress
      | some bind => .ok ⟨bind, draft.peers, draft.options⟩

/-- The name of the node among its peers. -/
def selfUrl (settings : Settings) : String :=
  "http://" ++ settings.bind.text

/-- The peers of the node, the node itself included. -/
def allPeers (settings : Settings) : List String :=
  if settings.peers.contains settings.selfUrl then settings.peers
  else settings.peers ++ [settings.selfUrl]

end Settings

end PeerCache.Program
