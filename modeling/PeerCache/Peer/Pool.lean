/-
Module: PeerCache.Peer.Pool
Purpose: The peers of a node, which of them owns a key, and how each is reached.
Main exports:
  PoolOptions, PoolOptions.normalized, Topology, PeerPool, PeerPool.set,
  PeerPool.pick?, PeerPool.transports, PeerRegistry
-/
import PeerCache.Http.Message
import PeerCache.Peer.Transport
import PeerCache.Ring

/-!
A pool knows the peers of a node by name; a name is the base of an address.  A topology
is a ring with the peers' places and one transport for each distinct peer, both made
from the same list, and a pool's topology is replaced as a whole.

The transports stand in the order of the hashes of their addresses.  So, unless two of
these hashes agree, the order in which peers are told of something does not depend on
the order in which they were named.

The owner of a key is asked for it unless the owner is the node itself.

A registry holds at most one pool, for good.
-/

namespace PeerCache

/-- The settings of a pool. -/
structure PoolOptions where
  /-- The path below which peers are served. -/
  basePath : String
  /-- The number of places of each peer on the ring; zero stands for the usual number. -/
  replicas : Nat
  hash : RingHash
  /-- Whether each request to a peer is sent by a client made for it. -/
  ownClient : Bool
  /-- How the context of a peer's request is made, if not from its headers alone. -/
  contextHook : Option (Headers → CallContext)
  /-- How a failed request of a peer is answered, if not in plain text; the hook sees
  the target of the request. -/
  errorHook : Option (CallContext → String → CacheError → Http.Answer)

namespace PoolOptions

/-- The usual base path. -/
def defaultBasePath : String := "/_groupcache/"

/-- The usual settings. -/
def default : PoolOptions :=
  { basePath := defaultBasePath
    replicas := Ring.defaultReplicas
    hash := RingHash.crc32
    ownClient := false
    contextHook := none
    errorHook := none }

/-- The characters without slashes at either end. -/
def trimSlashes (characters : List Char) : List Char :=
  ((characters.dropWhile (· = '/')).reverse.dropWhile (· = '/')).reverse

/-- A base path with one slash at either end; a blank one becomes the usual one, and
one of slashes alone becomes one slash. -/
def normalizedBasePath (basePath : String) : String :=
  if basePath.isEmpty then defaultBasePath
  else
    let trimmed := trimSlashes basePath.toList
    if trimmed.isEmpty then "/" else String.ofList ('/' :: trimmed ++ ['/'])

/-- The settings with blanks filled in. -/
def normalized (options : PoolOptions) : PoolOptions :=
  { options with
    basePath := normalizedBasePath options.basePath
    replicas := if options.replicas = 0 then Ring.defaultReplicas else options.replicas }

/-- A truth value in words. -/
def truthText (value : Bool) : String :=
  if value then "true" else "false"

/-- The settings on one line, for inspection. -/
def inspect (options : PoolOptions) : String :=
  "PeerPoolOptions \x7b base_path: " ++ Text.quote options.basePath ++
    ", replicas: " ++ toString options.replicas ++
    ", client: " ++ truthText options.ownClient ++
    ", context: " ++ truthText options.contextHook.isSome ++
    ", server_error_handler: " ++ truthText options.errorHook.isSome ++ " \x7d"

end PoolOptions

/-- A ring and the transports of the peers on it. -/
structure Topology where
  ring : Ring
  /-- One transport for each distinct peer. -/
  transports : List (String × Transport)

namespace Topology

/-- The transport to a peer with the given settings. -/
def transportTo (options : PoolOptions) (fingerprint peer : String) : Transport :=
  ⟨peer ++ options.basePath, fingerprint, options.ownClient⟩

/-- Where a transport stands among others: at the hash of its address. -/
def rank (transport : Transport) : UInt32 :=
  RingHash.crc32 (Bytes.ofString transport.baseUrl)

/-- Puts a transport among transports that are ordered by rank. -/
def insertByRank (entry : String × Transport) :
    List (String × Transport) → List (String × Transport)
  | [] => [entry]
  | head :: rest =>
      if rank entry.2 ≤ rank head.2 then entry :: head :: rest
      else head :: insertByRank entry rest

/-- Transports in the order of their ranks. -/
def orderByRank (entries : List (String × Transport)) : List (String × Transport) :=
  entries.foldr insertByRank []

/-- One transport for each distinct peer, in the order in which the peers are named. -/
def transportsTo (options : PoolOptions) (fingerprint : String) (peers : List String) :
    List (String × Transport) :=
  peers.eraseDups.map fun peer => (peer, transportTo options fingerprint peer)

/-- The topology of a list of peers, repetitions allowed. -/
def ofPeers (options : PoolOptions) (fingerprint : String) (peers : List String) : Topology :=
  { ring := (Ring.empty options.replicas options.hash).add peers
    transports := orderByRank (transportsTo options fingerprint peers) }

/-- Putting a transport among others adds it and nothing else. -/
theorem insertByRank_perm (entry : String × Transport) (entries : List (String × Transport)) :
    (insertByRank entry entries).Perm (entry :: entries) := by
  induction entries with
  | nil => exact List.Perm.refl _
  | cons head rest hyp =>
      unfold insertByRank
      split
      · exact List.Perm.refl _
      · exact (hyp.cons head).trans (List.Perm.swap entry head rest)

/-- Ordering transports neither adds nor loses one. -/
theorem orderByRank_perm (entries : List (String × Transport)) :
    (orderByRank entries).Perm entries := by
  induction entries with
  | nil => exact List.Perm.refl _
  | cons entry rest hyp => exact (insertByRank_perm entry _).trans (hyp.cons entry)

end Topology

/-- The peers of a node. -/
structure PeerPool where
  /-- The name of the node itself. -/
  selfUrl : String
  options : PoolOptions
  topology : Topology

namespace PeerPool

/-- The fingerprint of every ring with these settings. -/
def fingerprintOf (options : PoolOptions) : String :=
  (Ring.empty options.replicas options.hash).fingerprint

/-- The pool of a node, without peers. -/
def new (selfUrl : String) (options : PoolOptions) : PeerPool :=
  let settled := options.normalized
  ⟨selfUrl, settled, .ofPeers settled (fingerprintOf settled) []⟩

/-- The fingerprint that is sent along with requests. -/
def fingerprint (pool : PeerPool) : String :=
  fingerprintOf pool.options

/-- Replaces the peers. -/
def set (pool : PeerPool) (peers : List String) : PeerPool :=
  { pool with topology := .ofPeers pool.options pool.fingerprint peers }

/-- The names of the peers, without repetitions. -/
def peers (pool : PeerPool) : List String :=
  pool.topology.transports.map Prod.fst

/-- The transports to all peers. -/
def transports (pool : PeerPool) : List Transport :=
  pool.topology.transports.map Prod.snd

/-- The transport to the owner of a key; none if there is no owner or the node owns the
key itself. -/
def pick? (pool : PeerPool) (key : String) : Option Transport :=
  match pool.topology.ring.owner? key with
  | none => none
  | some owner => if owner = pool.selfUrl then none else pool.topology.transports.lookup owner

/-- The context of a peer's request. -/
def requestContext (pool : PeerPool) (headers : Headers) : CallContext :=
  match pool.options.contextHook with
  | none => .ofHeaders headers
  | some hook => hook headers

/-- The answer to a peer's request that failed: by default the failure's status and
its wording. -/
def failureAnswer (pool : PeerPool) (context : CallContext) (target : String)
    (error : CacheError) : Http.Answer :=
  match pool.options.errorHook with
  | none => .plainText error.status error.message
  | some hook => hook context target error

end PeerPool

/-- The place where groups find the pool of their node, if there is one. -/
structure PeerRegistry where
  pool : Option PeerPool

namespace PeerRegistry

/-- The registry without a pool. -/
def empty : PeerRegistry := ⟨none⟩

/-- Whether the registry has its pool. -/
def isRegistered (registry : PeerRegistry) : Bool :=
  registry.pool.isSome

/-- Gives the registry its pool; it takes only one. -/
def register (registry : PeerRegistry) (pool : PeerPool) : Except CacheError PeerRegistry :=
  if registry.isRegistered then .error .poolAlreadyRegistered else .ok ⟨some pool⟩

/-- Makes the pool of a node and gives it to the registry. -/
def install (registry : PeerRegistry) (selfUrl : String) (options : PoolOptions) :
    Except CacheError PeerRegistry :=
  registry.register (.new selfUrl options)

/-- The transport to the owner of a key, unless the key is local. -/
def pick? (registry : PeerRegistry) (key : String) : Option Transport :=
  registry.pool.bind fun pool => pool.pick? key

/-- The transports to all peers. -/
def transports (registry : PeerRegistry) : List Transport :=
  (registry.pool.map PeerPool.transports).getD []

/-- Replaces the peers of the pool, if there is one. -/
def set (registry : PeerRegistry) (peers : List String) : PeerRegistry :=
  ⟨registry.pool.map fun pool => pool.set peers⟩

end PeerRegistry

end PeerCache
