/-
Module: PeerCache.Node.PublicBody
Purpose: The bodies in which a node answers the public.
Main exports:
  PublicBody.ofGet, PublicBody.ofRemove, PublicBody.ofStats, PublicBody.answer
-/
import PeerCache.Group
import PeerCache.Http.Message
import PeerCache.Text.Json
import PeerCache.Text.Utf8

/-!
The public is answered in JSON.  A value is shown as text, with marks in place of what
is no text, next to the word of its expiration; of value and error one is null.
-/

namespace PeerCache.PublicBody

open Text (Json)

/-- The content type of JSON. -/
def contentType : String := "application/json"

/-- An answer with a JSON body. -/
def answer (status : Http.Status) (body : Json) : Http.Answer :=
  ⟨status, some contentType, none, Bytes.ofString body.text⟩

/-- What is said of a group that the node does not have. -/
def missingGroup (group : String) : String :=
  "group not found: " ++ group

/-- The body that shows a view or a failure. -/
def getBody : Except String View → Json
  | .ok view =>
      .object [("value", .string (Text.lossyText view.value)),
        ("expire", .integer (Expiration.toNanos view.expire).toInt), ("error", .null)]
  | .error message =>
      .object [("value", .null), ("expire", .integer 0), ("error", .string message)]

/-- The body that says whether a removal was done. -/
def removeBody : Except String Unit → Json
  | .ok _ => .object [("success", .bool true), ("error", .null)]
  | .error message => .object [("success", .bool false), ("error", .string message)]

/-- The body that shows the counters of a group. -/
def statsBody (group : String) (stats : Option GroupStats) (inFlight : Nat) : Json :=
  .object [("group", .string group),
    ("stats", Json.ofOption (fun stats =>
      .object (stats.entries.map fun entry => (entry.1, .integer entry.2))) stats),
    ("in_flight", .integer inFlight)]

/-- The answer to a get that ended. -/
def ofGet : Result View → Http.Answer
  | .ok view => answer .ok (getBody (.ok view))
  | .error error => answer .internalServerError (getBody (.error error.message))

/-- The answer to a removal that ended. -/
def ofRemove : Result Unit → Http.Answer
  | .ok _ => answer .ok (removeBody (.ok ()))
  | .error error => answer .badGateway (removeBody (.error error.message))

/-- The answer to a get from a group that the node does not have. -/
def getMissing (group : String) : Http.Answer :=
  answer .notFound (getBody (.error (missingGroup group)))

/-- The answer to a removal from a group that the node does not have. -/
def removeMissing (group : String) : Http.Answer :=
  answer .notFound (removeBody (.error (missingGroup group)))

/-- The answer that shows the counters of a group. -/
def ofStats {P : Type} (name : String) : Option (Group P) → Http.Answer
  | some group => answer .ok (statsBody name (some group.stats) group.loads.count)
  | none => answer .notFound (statsBody name none 0)

/-- The answer to a request whose parameter is no text. -/
def notText (fault : String) : Http.Answer :=
  .plainText .badRequest ("Invalid URL: " ++ fault)

end PeerCache.PublicBody
