/-
Module: PeerCache.Http.Message
Purpose: Requests and answers as far as the cache looks at them.
Main exports:
  Http.Request, Http.Answer, Http.Answer.plainText
-/
import PeerCache.Context
import PeerCache.Http.Status
import PeerCache.Http.Target

namespace PeerCache.Http

/-- A request as a node receives it. -/
structure Request where
  method : String
  /-- What the request line names. -/
  target : Target
  headers : Headers
deriving Repr, DecidableEq, Inhabited

/-- An answer to a request. -/
structure Answer where
  status : Status
  contentType : Option String
  /-- The methods that the requested path admits, if the answer lists them. -/
  allow : Option String
  body : Bytes
deriving Repr, DecidableEq, Inhabited

namespace Answer

/-- The content type of plain text. -/
def plainTextType : String := "text/plain; charset=utf-8"

/-- An answer in plain text. -/
def plainText (status : Status) (text : String) : Answer :=
  ⟨status, some plainTextType, none, Bytes.ofString text⟩

/-- An answer without a body. -/
def empty (status : Status) : Answer :=
  ⟨status, none, none, []⟩

/-- The same answer with its body left out, as for a request that asks for the head. -/
def withoutBody (answer : Answer) : Answer :=
  { answer with body := [] }

/-- The same answer with a list of the methods that are admitted. -/
def allowing (answer : Answer) (methods : String) : Answer :=
  { answer with allow := some methods }

end Answer

end PeerCache.Http
