/-
Module: PeerCache.Scenario.Outcome
Purpose: Scripted loaders and peers: what each call of them comes to.
Main exports:
  LoadOutcome, LoaderScript, LoaderScript.outcome, PeerOutcome, PeerScript
-/
import PeerCache.Group

/-!
A script gives a list of outcomes.  The first call takes the first one, the second call
the second, and the last one is taken for all calls from there on.  An outcome may stand
behind a gate: the call then waits until the gate is open.
-/

namespace PeerCache.Scenario

/-- The outcome for a call that so many calls went before. -/
def outcomeAt {α : Type} (outcomes : List α) (usual : α) (earlier : Nat) : α :=
  (outcomes[earlier]?.or outcomes.getLast?).getD usual

/-! ## Loaders -/

/-- What a load comes to. -/
inductive LoadResult where
  | panic (message : String)
  | fail (cause : Chain)
  /-- A text followed by the key. -/
  | echo (start : String)
  /-- A text followed by the number of this load of the key, counted from one. -/
  | count (start : String)
  | value (bytes : Bytes)
deriving Repr, DecidableEq, Inhabited

/-- The outcome of a load. -/
structure LoadOutcome where
  gate : Option String
  result : LoadResult
  expire : Option Instant
deriving Repr, DecidableEq, Inhabited

namespace LoadOutcome

/-- The outcome of a load that no script says anything about. -/
def usual : LoadOutcome := ⟨none, .echo "value-of-", none⟩

/-- The reply to a load of a key that so many loads of the key went before. -/
def reply (outcome : LoadOutcome) (key : String) (earlier : Nat) : Reply Chain View :=
  match outcome.result with
  | .panic message => .panicked message
  | .fail cause => .returned (.error cause)
  | .echo start => .returned (.ok ⟨Bytes.ofString (start ++ key), outcome.expire⟩)
  | .count start =>
      .returned (.ok ⟨Bytes.ofString (start ++ toString (earlier + 1)), outcome.expire⟩)
  | .value bytes => .returned (.ok ⟨bytes, outcome.expire⟩)

end LoadOutcome

/-- The outcomes of a group's loads, by key and for all other keys. -/
structure LoaderScript where
  byKey : List (String × List LoadOutcome)
  otherwise : List LoadOutcome
deriving Repr, DecidableEq, Inhabited

/-- The outcome of a load of a key that so many loads of the key went before. -/
def LoaderScript.outcome (script : LoaderScript) (key : String) (earlier : Nat) : LoadOutcome :=
  outcomeAt ((script.byKey.lookup key).getD script.otherwise) .usual earlier

/-! ## Peers -/

/-- What a call of a peer comes to. -/
inductive PeerResult where
  | panic (message : String)
  | fail (error : CacheError)
  /-- A text followed by the key. -/
  | echo (start : String)
  | value (bytes : Bytes)
deriving Repr, DecidableEq, Inhabited

/-- The outcome of a call of a peer. -/
structure PeerOutcome where
  gate : Option String
  result : PeerResult
  /-- The expiration word of the response. -/
  expire : Int64
deriving DecidableEq, Inhabited

namespace PeerOutcome

/-- The outcome of a call that no script says anything about. -/
def usual : PeerOutcome := ⟨none, .echo "peer-", 0⟩

/-- The reply to a get of a key. -/
def getReply (outcome : PeerOutcome) (key : String) : Reply CacheError Response :=
  match outcome.result with
  | .panic message => .panicked message
  | .fail error => .returned (.error error)
  | .echo start => .returned (.ok ⟨Bytes.ofString (start ++ key), outcome.expire⟩)
  | .value bytes => .returned (.ok ⟨bytes, outcome.expire⟩)

/-- The reply to a removal. -/
def removeReply (outcome : PeerOutcome) : Reply CacheError Unit :=
  match outcome.result with
  | .panic message => .panicked message
  | .fail error => .returned (.error error)
  | _ => .returned (.ok ())

end PeerOutcome

/-- A peer and the outcomes of its calls. -/
structure PeerScript where
  url : String
  get : List PeerOutcome
  remove : List PeerOutcome
deriving Inhabited

/-- A scripted peer as a group sees it. -/
structure ScriptedPeer where
  /-- Its position among the peers. -/
  index : Nat
  url : String
deriving Repr, DecidableEq

instance : PeerHandle ScriptedPeer := ⟨ScriptedPeer.url⟩

end PeerCache.Scenario
