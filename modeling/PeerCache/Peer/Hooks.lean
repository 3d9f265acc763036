/-
Module: PeerCache.Peer.Hooks
Purpose: Hooks for the settings of a pool.
Main exports:
  taggedContext, teapotAnswer
-/
import PeerCache.Error
import PeerCache.Http.Message

namespace PeerCache

/-- A context hook that marks the request ids of peers' requests. -/
def taggedContext (headers : Headers) : CallContext :=
  ⟨.given ("tag:" ++ (CallContext.givenId? headers).getD "none"), none⟩

/-- An error hook that names request id, target and kind of failure, under a status that
no failure has. -/
def teapotAnswer (context : CallContext) (target : String) (error : CacheError) : Http.Answer :=
  .plainText .teapot
    ("custom " ++ context.requestId.text ++ " " ++ target ++ " " ++ error.kind ++ ": " ++
      error.message)

end PeerCache
