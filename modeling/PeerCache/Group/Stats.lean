/-
Module: PeerCache.Group.Stats
Purpose: The counters of a group.
Main exports:
  Counter, GroupStats, GroupStats.bump
-/

namespace PeerCache

/-- What a group counts. -/
inductive Counter where
  /-- Gets, however answered. -/
  | gets
  /-- Gets answered from the store. -/
  | cacheHits
  /-- Gets that missed the store. -/
  | loads
  /-- Misses that ran a load of their own. -/
  | loadsDeduped
  /-- Values that the owning peer gave. -/
  | peerLoads
  /-- Gets that failed at the owning peer. -/
  | peerErrors
  /-- Values that the group's own loader gave. -/
  | localLoads
  /-- Failures of the group's own loader. -/
  | localLoadErrors
  /-- Requests that came from peers. -/
  | serverRequests
deriving Repr, DecidableEq

/-- How often each counted thing happened. -/
structure GroupStats where
  gets : Nat
  cacheHits : Nat
  loads : Nat
  loadsDeduped : Nat
  peerLoads : Nat
  peerErrors : Nat
  localLoads : Nat
  localLoadErrors : Nat
  serverRequests : Nat
deriving Repr, DecidableEq, Inhabited

namespace GroupStats

/-- The counters before anything happened. -/
def zero : GroupStats := ⟨0, 0, 0, 0, 0, 0, 0, 0, 0⟩

/-- Counts one more. -/
def bump (stats : GroupStats) : Counter → GroupStats
  | .gets => { stats with gets := stats.gets + 1 }
  | .cacheHits => { stats with cacheHits := stats.cacheHits + 1 }
  | .loads => { stats with loads := stats.loads + 1 }
  | .loadsDeduped => { stats with loadsDeduped := stats.loadsDeduped + 1 }
  | .peerLoads => { stats with peerLoads := stats.peerLoads + 1 }
  | .peerErrors => { stats with peerErrors := stats.peerErrors + 1 }
  | .localLoads => { stats with localLoads := stats.localLoads + 1 }
  | .localLoadErrors => { stats with localLoadErrors := stats.localLoadErrors + 1 }
  | .serverRequests => { stats with serverRequests := stats.serverRequests + 1 }

/-- The counters by name, in their usual order. -/
def entries (stats : GroupStats) : List (String × Nat) :=
  [("gets", stats.gets), ("cache_hits", stats.cacheHits), ("loads", stats.loads),
   ("loads_deduped", stats.loadsDeduped), ("peer_loads", stats.peerLoads),
   ("peer_errors", stats.peerErrors), ("local_loads", stats.localLoads),
   ("local_load_errs", stats.localLoadErrors), ("server_requests", stats.serverRequests)]

end GroupStats

end PeerCache
