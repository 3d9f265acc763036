/-
Module: PeerCache.Proofs.Peer.Methods
Purpose: What each request method does below the base path.
Main exports:
  Route.captures?_of_mapM, Node.ServesBelow, Node.ServesBelow.exists_remainder,
  Handling.headOnly, Node.only_reads_and_removals_act, Node.head_request_loads
-/
import PeerCache.Proofs.Peer.Addressing

/-!
A request of the peer protocol reads or removes a key; the head of an answer is asked for by
reading the key, and whatever that takes is done (`receive_head`).  Every other method is refused
before the path is looked into, and so without a trace in the node.

The base path may hold parameters, so it has to be shown that a path below it gets this far: the
pieces of the base path match the pattern that is made of them, a parameter with its own name for
a value (`captures?_of_mapM`), and what stands behind them is the remainder.
-/

namespace PeerCache

open Url (pathCharacters)

namespace Route

open SegmentPattern (ofSegment?)

variable {pieces rest : List String} {segment name : String} {piece : SegmentPattern}
  {base : Pattern}

/-- A piece of a base path stands for itself, or for a parameter that is spelled behind a colon. -/
theorem eq_of_ofSegment? (made : ofSegment? segment = some piece) :
    piece = .literal segment ∨ ∃ start parameter, piece = .parameter start parameter ∧
      segment.toList = start.toList ++ ':' :: parameter.toList := by
  have whole := List.takeWhile_append_dropWhile (p := (fun character => decide (character ≠ ':')))
    (l := segment.toList)
  have stops := List.head?_dropWhile_not (fun character => decide (character ≠ ':'))
    segment.toList
  unfold ofSegment? at made
  dsimp only at made
  generalize segment.toList.takeWhile _ = start at made whole
  generalize segment.toList.dropWhile _ = after at whole stops
  split at made
  · cases made
  · rw [← whole, List.drop_left] at made
    cases after with
    | nil => exact Or.inl (Option.some.inj made).symm
    | cons character parameter =>
        obtain rfl : character = ':' := by simpa using stops
        dsimp only at made
        split at made
        · cases made
        · cases made
          exact Or.inr ⟨_, _, rfl, by simpa using whole.symm⟩

/-- The pieces that a pattern was made of match it, with anything behind them. -/
theorem captures?_of_mapM (made : pieces.mapM ofSegment? = some base)
    (some_text : "/".intercalate rest ≠ "") :
    ∃ captures, Pattern.captures? (base ++ [.remainder name]) (pieces ++ rest) =
      some captures := by
  induction pieces generalizing base with
  | nil =>
      cases made
      exact ⟨_, captures?_literals [] rest some_text⟩
  | cons segment others hyp =>
      rw [List.mapM_cons] at made
      simp only [Option.bind_eq_bind, Option.bind_eq_some_iff, Option.pure_def,
        Option.some.injEq] at made
      obtain ⟨piece, isPiece, later, madeLater, rfl⟩ := made
      obtain ⟨captures, captured⟩ := hyp madeLater
      rcases eq_of_ofSegment? isPiece with rfl | ⟨start, parameter, rfl, spelled⟩
      · exact ⟨captures, by simpa [Pattern.captures?] using captured⟩
      · have front : segment.toList.take start.length = start.toList := by
          rw [spelled, ← String.length_toList, List.take_left]
        refine ⟨(parameter, String.ofList (segment.toList.drop start.length)) :: captures, ?_⟩
        rw [List.cons_append, List.cons_append, Pattern.captures?,
          if_pos ⟨front, Or.inl (by simp)⟩, captured, Option.map_some]

end Route

/-! ## Paths below a base path -/

namespace Text

/-- The segments behind a slash, put together with slashes, are what they were cut from. -/
theorem intercalate_segments (rest : List Char) :
    "/".intercalate ((splitOn '/' rest).map String.ofList) = String.ofList rest := by
  apply String.toList_inj.mp
  have whole := intercalate_splitOn '/' rest
  have read : (splitOn '/' rest).map (String.toList ∘ String.ofList) = splitOn '/' rest := by
    simp [Function.comp_def]
  rw [String.toList_intercalate, List.map_map, read, String.toList_ofList (l := rest)]
  exact whole

end Text

namespace Routes

variable {basePath path : String} {pieces : List String} {rest : List Char} {routes : Routes}
  {pattern : Route.Pattern}

/-- A path that begins with a base path is the pieces of this, and the segments behind them. -/
theorem segments?_below (isBase : PoolOptions.IsBase basePath pieces)
    (below : path.toList = basePath.toList ++ rest) :
    Route.segments? path = some (pieces ++ (Text.splitOn '/' rest).map String.ofList) := by
  have lastSlash : pathCharacters [""] = ['/'] := rfl
  have isPath : path = String.ofList
      (pathCharacters (pieces ++ (Text.splitOn '/' rest).map String.ofList)) := by
    apply String.toList_inj.mp
    rw [String.toList_ofList, below, isBase.whole, Url.pathCharacters_append,
      Url.pathCharacters_append, Url.pathCharacters_splitOn, lastSlash, List.append_assoc,
      List.singleton_append]
  rw [isPath]
  refine Route.segments?_ofList ?_ ?_
  · simp [Text.splitOn_ne_nil]
  · intro segment member
    rcases List.mem_append.mp member with inBase | behind
    · exact isBase.free segment inBase
    · obtain ⟨characters, inside, rfl⟩ := List.mem_map.mp behind
      rw [String.toList_ofList]
      exact Text.not_mem_of_mem_splitOn inside

/-- The pattern below a base path matches every path with anything behind the base path. -/
theorem exists_captures_below (isBase : PoolOptions.IsBase basePath pieces)
    (isPattern : peerPattern? basePath = some pattern) (some_rest : rest ≠ []) :
    ∃ captures, pattern.captures? (pieces ++ (Text.splitOn '/' rest).map String.ofList) =
      some captures := by
  rw [peerPattern?_of_isBase isBase, Option.bind_eq_some_iff] at isPattern
  obtain ⟨base, made, isPattern⟩ := isPattern
  split at isPattern
  · cases isPattern
  · cases isPattern
    apply Route.captures?_of_mapM made
    rw [Text.intercalate_segments]
    simpa using some_rest

/-- No public path is the path, or would be with something in place of its last slash. -/
def AsideOfPublic (path : String) : Prop :=
  ∀ segments, Route.segments? path = some segments →
    ∀ pattern ∈ [cachePattern, statsPattern],
      pattern.captures? segments = none ∧ pattern.stumbles segments = false

/-- A base path that begins with a piece of its own is out of the public's way. -/
theorem asideOfPublic_below {first : String}
    (isBase : PoolOptions.IsBase basePath (first :: pieces)) (notCache : first ≠ "cache")
    (notStats : first ≠ "stats") (below : path.toList = basePath.toList ++ rest) :
    AsideOfPublic path := by
  intro segments isPath pattern member
  rw [segments?_below isBase below] at isPath
  cases isPath
  simp only [List.mem_cons, List.not_mem_nil, or_false] at member
  rcases member with rfl | rfl
  · simp [cachePattern, Route.Pattern.captures?, Route.Pattern.stumbles, notCache.symm]
  · simp [statsPattern, Route.Pattern.captures?, Route.Pattern.stumbles, notStats.symm]

/-- A path below a base path is one of the peer protocol, if anything stands behind the base path
and the public has no such path. -/
theorem exists_remainder_below (isBase : PoolOptions.IsBase basePath pieces)
    (serves : ofPeers? basePath = some routes ∨
      ofBasePath? basePath = some routes ∧ AsideOfPublic path)
    (below : path.toList = basePath.toList ++ rest) (some_rest : rest ≠ []) :
    ∃ remainder, routes.destination path = .peer remainder := by
  have isPath := segments?_below isBase below
  rcases serves with alone | ⟨beside, aside⟩
  · obtain ⟨pattern, isPattern, rfl⟩ := Option.map_eq_some_iff.mp alone
    obtain ⟨captures, captured⟩ := exists_captures_below isBase isPattern some_rest
    refine ⟨remainder captures, ?_⟩
    rw [destination, find?, isPath, Option.bind_some, findIn, captured]
  · unfold ofBasePath? at beside
    obtain ⟨pattern, isPattern, beside⟩ := Option.bind_eq_some_iff.mp beside
    obtain ⟨captures, captured⟩ := exists_captures_below isBase isPattern some_rest
    generalize pieces ++ (Text.splitOn '/' rest).map String.ofList = segments at isPath captured
    dsimp only at beside
    split at beside
    case isTrue => cases beside
    case isFalse =>
      cases beside
      have others : ∀ entry ∈ [(Endpoint.cache, cachePattern), (Endpoint.stats, statsPattern)],
          entry.2.captures? segments = none ∧ entry.2.stumbles segments = false :=
        fun entry member => aside segments isPath entry.2 (List.mem_map_of_mem member)
      have found := findIn_insert .peer captured others
      refine ⟨remainder captures, ?_⟩
      rw [destination, find?, isPath, Option.bind_some, found]

end Routes

/-! ## Methods -/

/-- The same handling, where only the head of the answer is wanted. -/
def Handling.headOnly : Handling → Handling
  | .answered answer => .answered answer.withoutBody
  | .running group caller errand _ => .running group caller errand true

/-- The same outcome, but for the answer's body. -/
def Node.Outcome.headOnly : Node.Outcome → Node.Outcome
  | .answered answer => .answered answer.withoutBody
  | .closed => .closed

namespace Node

variable {node : Node} {now : Instant} {request : Http.Request}

theorem outcome?_headOnly (node : Node) (handling : Handling) :
    node.outcome? handling.headOnly = (node.outcome? handling).map Outcome.headOnly := by
  cases handling with
  | answered answer => rfl
  | running position caller errand headOnly =>
      simp only [Handling.headOnly, outcome?]
      cases (node.place? position caller).bind (node.placeOutcome? errand) with
      | none => rfl
      | some outcome =>
          cases outcome with
          | closed => rfl
          | answered answer => cases headOnly <;> rfl

/-- The head is had by reading: the node is the same after it, and the same was called. -/
theorem receivePeer_head (isHead : request.method = "HEAD")
    (remainder : Except RemainderFault String) :
    let read := node.receivePeer now { request with method := "GET" } remainder
    node.receivePeer now request remainder = (read.1, read.2.1.headOnly, read.2.2) := by
  have head : reads "HEAD" = true := rfl
  have get : reads "GET" = true := rfl
  simp only [receivePeer, receivePeerGet, isHead, head, get, if_true]
  cases node.resolve remainder with
  | error error => rfl
  | ok target =>
      dsimp only
      unfold start
      split <;> rfl

/-- A method that neither reads nor removes is refused, and nothing is done. -/
theorem receivePeer_other (other : request.method ∉ ["GET", "HEAD", "DELETE"])
    (remainder : Except RemainderFault String) :
    let answer := node.pool.failureAnswer (node.pool.requestContext request.headers)
      request.target.text (.methodNotAllowed request.method)
    node.receivePeer now request remainder =
      (node, .answered (answer.allowing readAndRemove), []) := by
  obtain ⟨notGet, notHead, notDelete⟩ : request.method ≠ "GET" ∧ request.method ≠ "HEAD" ∧
      request.method ≠ "DELETE" := by simpa using other
  have notRead : reads request.method = false := by simp [reads, notGet, notHead]
  simp only [receivePeer, notRead, Bool.false_eq_true, if_false, notDelete]

/-- What the methods do at a path of the peer protocol, which is one below the base path with
anything behind it.  Every method but those that read and remove is answered as a method that is not
allowed, by the hook if there is one, with no change to the node and no call of a loader or a peer.
But a request for the head reads like any other: it changes the node and calls as a get does, and is
answered alike but for the body. -/
theorem only_reads_and_removals_act (node : Node) (request : Http.Request) {basePath : String}
    {rest : List Char}
    (normalized : node.pool.options.basePath = PoolOptions.normalizedBasePath basePath)
    (serves : Routes.ofPeers? node.pool.options.basePath = some node.routes ∨
      Routes.ofBasePath? node.pool.options.basePath = some node.routes ∧
        Routes.AsideOfPublic request.target.path)
    (below : request.target.path.toList = node.pool.options.basePath.toList ++ rest)
    (some_rest : rest ≠ []) (now : Instant) :
    (request.method ∉ ["GET", "HEAD", "DELETE"] →
      let answer := node.pool.failureAnswer (node.pool.requestContext request.headers)
        request.target.text (.methodNotAllowed request.method)
      node.receive now request = (node, .answered (answer.allowing readAndRemove), []) ∧
        (node.pool.options.errorHook = none → answer.status = .methodNotAllowed)) ∧
    (request.method = "HEAD" →
      let read := node.receive now { request with method := "GET" }
      let head := node.receive now request
      head.1 = read.1 ∧ head.2.2 = read.2.2 ∧
        ∀ later : Node,
          later.outcome? head.2.1 = (later.outcome? read.2.1).map Outcome.headOnly) := by
  obtain ⟨pieces, isBase⟩ := PoolOptions.exists_isBase basePath
  rw [← normalized] at isBase
  obtain ⟨remainder, leads⟩ := Routes.exists_remainder_below isBase serves below some_rest
  constructor
  · intro other answer
    constructor
    · rw [receive, leads]
      exact receivePeer_other other remainder
    · intro usual
      simp only [answer, PeerPool.failureAnswer, usual]
      rfl
  · intro isHead read head
    have received : head = (read.1, read.2.1.headOnly, read.2.2) := by
      simp only [head, read, receive, leads]
      exact receivePeer_head isHead remainder
    rw [received]
    exact ⟨rfl, rfl, fun later => later.outcome?_headOnly read.2.1⟩

/-- A node is built where its base path does not clash with the public paths. -/
theorem new?_eq_some {options : PoolOptions} {routes : Routes} (name selfUrl : String)
    (found : Routes.ofBasePath? options.normalized.basePath = some routes) :
    new? name selfUrl options =
      some ⟨name, .new selfUrl options, routes, [], [], .empty, 0⟩ := by
  have isBase : (PeerPool.new selfUrl options).options.basePath = options.normalized.basePath := rfl
  rw [new?, isBase, found, Option.map_some]

/-- A method that is spelled in small letters is refused by a node as it is built. -/
theorem small_letters_do_nothing :
    let answer := Http.Answer.plainText .methodNotAllowed "method not allowed: delete"
    ∃ node, new? "b" "http://b:8000" .default = some node ∧
      (node.register "books").receive ⟨0⟩ ⟨"delete", .ofText "/_groupcache/books/k", []⟩ =
        (node.register "books", .answered (answer.allowing "GET,HEAD,DELETE"), []) := by
  intro answer
  have usual : PoolOptions.default.normalized.basePath = "/_groupcache/" := by decide +kernel
  obtain ⟨routes, found⟩ : ∃ routes, Routes.ofBasePath? "/_groupcache/" = some routes :=
    Option.isSome_iff_exists.mp (by decide +kernel)
  refine ⟨_, new?_eq_some "b" "http://b:8000" (usual ▸ found), ?_⟩
  have isBase : PoolOptions.IsBase "/_groupcache/" ["_groupcache"] :=
    ⟨by decide, by decide, by decide⟩
  have below : (Http.Target.ofText "/_groupcache/books/k").path.toList =
      "/_groupcache/".toList ++ "books/k".toList := by decide
  have aside := Routes.asideOfPublic_below isBase (by decide) (by decide) below
  have normalized : (PeerPool.new "http://b:8000" .default).options.basePath =
      PoolOptions.normalizedBasePath PoolOptions.defaultBasePath := rfl
  obtain ⟨refused, -⟩ := only_reads_and_removals_act
    (Node.register ⟨"b", .new "http://b:8000" .default, routes, [], [], .empty, 0⟩ "books")
    ⟨"delete", .ofText "/_groupcache/books/k", []⟩ normalized (Or.inr ⟨usual ▸ found, aside⟩)
    (usual ▸ below) (by decide) ⟨0⟩
  exact (refused (by decide)).1

/-- A request for the head of an answer is not refused: the group counts it as a request of a peer
and as a get, and calls its loader. -/
theorem head_request_loads :
    let node := serving "books"
    let request : Http.Request := ⟨"HEAD", .ofText "/_groupcache/books/k", []⟩
    let received := node.receive ⟨0⟩ request
    request.method ∉ ["GET", "DELETE"] ∧
      (∀ answer, received.2.1 ≠ .answered answer) ∧
      received.2.2 = [(0, .calledLoader 0 "k")] ∧
      node.groups.map (fun group => (group.stats.serverRequests, group.stats.gets)) = [(0, 0)] ∧
      received.1.groups.map (fun group => (group.stats.serverRequests, group.stats.gets)) =
        [(1, 1)] := by
  refine ⟨by decide, ?_, rfl, rfl, rfl⟩
  intro answer isAnswered
  cases isAnswered

end Node

end PeerCache
