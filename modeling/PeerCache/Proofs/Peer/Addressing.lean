/-
Module: PeerCache.Proofs.Peer.Addressing
Purpose: Whether the request for a key of a group reaches this key of this group.
Main exports:
  IsSegmentText, requestSegments, requestSegments_of_settled, requestSegments_unbroken,
  Node.entry, Node.servePeer, Node.refusePeer, Node.IsInbound, Node.request_not_misdirected,
  Node.request_resolves
-/
import PeerCache.Cluster
import PeerCache.Proofs.Peer.BasePath
import PeerCache.Proofs.Peer.Pick
import PeerCache.Proofs.Url.Origin

/-!
A request carries its group and key as two segments behind the base path.  The node that it
arrives at takes what follows the base path, decodes it as a whole, and cuts it at the first
slash.  That gives the group and the key back if the group holds no slash, and if nothing of
either was lost on the way: breaks are, and a segment of dots is not even written.

The base path does not matter.  A node takes a request for one of a peer only if the pieces of
its base path are the segments that the request begins with.  The segments of a request are
settled (`allSettled_requestSegments`), so the base path is; and a settled base path is what a
client's requests begin with (`requestSegments_of_settled`).  What is left is what was added.
-/

namespace PeerCache

open Url (pathCharacters AllSettled written)

/-! ## Requests that are made -/

/-- A text becomes one segment of a path without loss: there are no breaks in it, and it is not
dots. -/
structure IsSegmentText (text : String) : Prop where
  isUnbroken : ∀ character ∈ text.toList, Url.isBreak character = false
  notDots : ¬ (text = "." ∨ text = "..")

instance (text : String) : Decidable (IsSegmentText text) :=
  decidable_of_iff (text.toList.all (fun character => !Url.isBreak character) = true ∧
      ¬ (text = "." ∨ text = ".."))
    ⟨fun ⟨all, notDots⟩ => ⟨by simpa using all, notDots⟩,
      fun isText => ⟨by simpa using isText.isUnbroken, isText.notDots⟩⟩

/-- The segments of the requests to an origin, for a base path and a key of a group. -/
def requestSegments (origin : Url.Origin) (basePath group key : String) : List String :=
  let path := (Url.unbroken basePath.toList).takeWhile fun character => !Url.endsPath character
  [group, key].foldl (Url.pushSegment origin.scheme)
    (Url.dropEmptyEnd (Url.readSegments origin.scheme path))

variable {origin : Url.Origin} {options : PoolOptions} {basePath group key : String}
  {pieces : List String} {transport : Transport} {url : Url}

theorem allSettled_requestSegments (origin : Url.Origin) (basePath group key : String) :
    AllSettled (requestSegments origin basePath group key) := by
  have dropped : ∀ segments, AllSettled segments → AllSettled (Url.dropEmptyEnd segments) := by
    intro segments settled
    unfold Url.dropEmptyEnd
    split
    · exact fun segment member => settled segment (List.dropLast_subset segments member)
    · exact settled
  have read := dropped _ (Url.allSettled_readSegments origin.web
    ((Url.unbroken basePath.toList).takeWhile fun character => !Url.endsPath character))
  exact Url.allSettled_pushSegment origin.web (Url.allSettled_pushSegment origin.web read group) key

/-- The group is one of the segments. -/
theorem requestSegments_ne_nil (origin : Url.Origin) (basePath : String)
    (isName : IsSegmentText group) (key : String) :
    requestSegments origin basePath group key ≠ [] := by
  unfold requestSegments
  dsimp only
  rw [List.foldl_cons, Url.pushSegment_eq origin.web isName.isUnbroken isName.notDots]
  exact Url.pushSegment_ne_nil origin.web (List.concat_ne_nil _ _) key

/-- Behind a settled base path a request carries the group and the key; a key of dots is left
out. -/
theorem requestSegments_of_settled (origin : Url.Origin)
    (isBase : PoolOptions.IsBase basePath pieces) (settled : AllSettled pieces)
    (isName : IsSegmentText group)
    (isUnbroken : ∀ character ∈ key.toList, Url.isBreak character = false)
    (inside : group ≠ "" ∨ basePath ≠ "/") :
    requestSegments origin basePath group key =
      pieces ++ written group :: (if key = "." ∨ key = ".." then [] else [written key]) := by
  have settledAll : AllSettled (pieces ++ [""]) :=
    settled.append (Url.allSettled_singleton Url.isSettled_empty)
  have kept : Url.unbroken (pathCharacters (pieces ++ [""])) = pathCharacters (pieces ++ [""]) :=
    Url.unbroken_eq_self fun character member => settledAll.not_isBreak member
  have wholePath : (pathCharacters (pieces ++ [""])).takeWhile
      (fun character => !Url.endsPath character) = pathCharacters (pieces ++ [""]) := by
    apply List.takeWhile_eq_self_iff.mpr
    intro character member
    rw [settledAll.not_endsPath member]
    rfl
  have notRoot : pieces ≠ [""] := by
    rintro rfl
    exact isBase.ends rfl
  have somewhere : group ≠ "" ∨ pieces ≠ [] := by
    refine inside.imp_right fun notSlash => ?_
    rintro rfl
    exact notSlash (String.toList_inj.mp isBase.whole)
  unfold requestSegments
  rw [isBase.whole, kept, wholePath]
  dsimp only
  rw [Url.readSegments_pathCharacters origin.web settledAll (List.concat_ne_nil _ _),
    Url.push_group_and_key origin.web isName.isUnbroken isName.notDots isUnbroken somewhere notRoot]

/-- A request for names with breaks is the request for the names without them. -/
theorem requestSegments_unbroken (origin : Url.Origin) (basePath : String)
    (groupNotDots : ¬ (String.ofList (Url.unbroken group.toList) = "." ∨
      String.ofList (Url.unbroken group.toList) = ".."))
    (keyNotDots : ¬ (String.ofList (Url.unbroken key.toList) = "." ∨
      String.ofList (Url.unbroken key.toList) = "..")) :
    requestSegments origin basePath group key =
      requestSegments origin basePath (String.ofList (Url.unbroken group.toList))
        (String.ofList (Url.unbroken key.toList)) := by
  simp only [requestSegments, List.foldl_cons, List.foldl_nil]
  rw [Url.pushSegment_unbroken origin.web _ groupNotDots,
    Url.pushSegment_unbroken origin.web _ keyNotDots]

/-- The way to an origin makes a request of these segments. -/
theorem requestUrl_reach (options : PoolOptions) (origin : Url.Origin) (group key : String) :
    ∃ url, (PeerPool.reach options origin.text).requestUrl group key = .ok url ∧
      url.path = .rooted
        (requestSegments origin (PoolOptions.normalizedBasePath options.basePath) group key) := by
  obtain ⟨pieces, isBase⟩ := PoolOptions.exists_isBase options.basePath
  have address : (PeerPool.reach options origin.text).baseUrl =
      origin.text ++ PoolOptions.normalizedBasePath options.basePath := rfl
  have read := origin.parse_append isBase.head? isBase.getLast?
  let base := Url.assemble origin.scheme (some origin.authority)
    (Url.unbroken (PoolOptions.normalizedBasePath options.basePath).toList)
  let segments :=
    requestSegments origin (PoolOptions.normalizedBasePath options.basePath) group key
  refine ⟨{ base with path := .rooted segments }, ?_, rfl⟩
  rw [Transport.requestUrl, address, read]
  rfl

/-- The way to a web address leads to its host and port. -/
theorem authority_of_requestUrl {address : String} (web : Url.IsWebAddress address)
    (made : (PeerPool.reach options address).requestUrl group key = .ok url) :
    (Url.parse address).toOption.map Url.authority = some url.authority := by
  obtain ⟨pieces, isBase⟩ := PoolOptions.exists_isBase options.basePath
  obtain ⟨named, base, parsed, read, same⟩ := web.authority_append isBase.head? isBase.getLast?
  have isAddress : (PeerPool.reach options address).baseUrl =
      address ++ PoolOptions.normalizedBasePath options.basePath := rfl
  rw [Transport.requestUrl, isAddress, read] at made
  dsimp only at made
  cases pushed : base.pushSegments? [group, key] with
  | none => simp [pushed] at made
  | some longer =>
      rw [pushed] at made
      obtain rfl := Except.ok.inj made
      have kept : longer.authority = base.authority := by
        unfold Url.pushSegments? at pushed
        split at pushed
        · cases pushed
        · cases pushed
          rfl
      rw [parsed, kept, same]
      rfl

/-- A request that leaves the node is the one that was made, without user information. -/
theorem Transport.url_of_prepare {context : CallContext} {method : PeerMethod}
    {outgoing : Outgoing} (sent : transport.prepare context method group key = .ok outgoing) :
    ∃ given, transport.requestUrl group key = .ok given ∧ outgoing.method = method ∧
      outgoing.url = given.withoutUserinfo := by
  unfold Transport.prepare at sent
  cases made : transport.requestUrl group key with
  | error error => simp [made, bind, Except.bind] at sent
  | ok given =>
      refine ⟨given, rfl, ?_⟩
      simp only [made, bind, Except.bind, throw, throwThe, MonadExceptOf.throw, pure,
        Except.pure] at sent
      split at sent
      · cases sent
      · split at sent
        · cases sent
        · split at sent
          · cases sent
          · cases sent
            exact ⟨rfl, rfl⟩

/-- A request that leaves the node goes to the address that was made for it. -/
theorem Transport.requestUrl_of_prepare {context : CallContext} {method : PeerMethod}
    {outgoing : Outgoing} (sent : transport.prepare context method group key = .ok outgoing) :
    ∃ given, transport.requestUrl group key = .ok given ∧ outgoing.method = method ∧
      outgoing.url.target = given.target := by
  obtain ⟨given, made, isMethod, same⟩ := Transport.url_of_prepare sent
  refine ⟨given, made, isMethod, ?_⟩
  rw [same, Url.withoutUserinfo]
  split <;> rfl

/-- What a path behind an origin is as the target of a request. -/
theorem path_ofText_target {segments : List String} (isPath : url.path = .rooted segments)
    (settled : AllSettled segments) (some_segment : segments ≠ []) :
    (Http.Target.ofText url.target).path = String.ofList (pathCharacters segments) := by
  have goesOn : ∀ character ∈ pathCharacters segments,
      (!Http.Target.endsPath character) = true := by
    intro character member
    have inPath : Http.Target.endsPath character = false := settled.not_endsPath member
    rw [inPath]
    rfl
  have stops : url.queryText.toList.takeWhile (fun character => !Http.Target.endsPath character) =
      [] := by
    unfold Url.queryText
    cases url.query with
    | none => rfl
    | some text => simp [String.toList_append, Http.Target.endsPath]
  have written : url.target.toList = pathCharacters segments ++ url.queryText.toList := by
    rw [Url.target, isPath, String.toList_append, Url.toList_pathText]
  obtain ⟨segment, rest, rfl⟩ := List.exists_cons_of_ne_nil some_segment
  have begins : pathCharacters (segment :: rest) =
      '/' :: (segment.toList ++ pathCharacters rest) := by simp [pathCharacters]
  have taken : (pathCharacters (segment :: rest) ++ url.queryText.toList).takeWhile
      (fun character => !Http.Target.endsPath character) = pathCharacters (segment :: rest) := by
    rw [List.takeWhile_append_of_pos goesOn, stops, List.append_nil]
  rw [Http.Target.ofText, written]
  simp only [begins, List.cons_append] at taken ⊢
  rw [Http.Target.ofParts, taken]

/-! ## Requests that arrive -/

/-- The remainder of a request for a group and a key. -/
theorem remainder_of_written (group key : String) :
    Routes.remainder [("path", "/".intercalate [written group, written key])] =
      .ok (group ++ ("/" ++ key)) := by
  have percent : Percent.inSpecialSegment '%' = true := by decide
  have joined : "/".intercalate [written group, written key] =
      written group ++ ("/" ++ written key) := by
    rw [String.intercalate_cons_cons, String.intercalate_singleton, String.append_assoc]
  rw [joined, Routes.remainder, Routes.decoded, written, written,
    Percent.decodeText?_two_segments percent]
  rfl

/-- The remainder of a request with a group alone. -/
theorem remainder_of_written_group (group : String) :
    Routes.remainder [("path", "/".intercalate [written group])] = .ok group := by
  have percent : Percent.inSpecialSegment '%' = true := by decide
  rw [String.intercalate_singleton, Routes.remainder, Routes.decoded, written,
    Percent.decodeText?_encodeText percent]
  rfl

namespace Node

theorem splitRemainder?_append (noSlash : '/' ∉ group.toList) (key : String) :
    splitRemainder? (group ++ ("/" ++ key)) = some (group, key) := by
  have goesOn : ∀ character ∈ group.toList, decide (character ≠ '/') = true := by
    intro character member
    refine decide_eq_true fun isSlash => noSlash ?_
    exact isSlash ▸ member
  have whole : (group ++ ("/" ++ key)).toList = group.toList ++ '/' :: key.toList := by
    rw [String.toList_append, String.toList_append]
    rfl
  rw [splitRemainder?, whole, List.dropWhile_append_of_pos goesOn,
    List.takeWhile_append_of_pos goesOn, List.dropWhile_cons_of_neg (by decide),
    List.takeWhile_cons_of_neg (by decide), List.append_nil]
  simp only [String.ofList_toList]

theorem splitRemainder?_of_not_mem (noSlash : '/' ∉ group.toList) :
    splitRemainder? group = none := by
  have goesOn : ∀ character ∈ group.toList, decide (character ≠ '/') = true := by
    intro character member
    refine decide_eq_true fun isSlash => noSlash ?_
    exact isSlash ▸ member
  rw [splitRemainder?, List.dropWhile_eq_nil_iff.mpr goesOn]

/-- What a group and a key resolve to: the position of the group that is found by its name, and
the key. -/
def entry (node : Node) (group key : String) : Except CacheError (Nat × String) :=
  match node.position? group with
  | none => .error (.groupNotFound group)
  | some position => .ok (position, key)

/-- A group and a key with a slash between them resolve to this group and this key. -/
theorem resolve_of_entry (node : Node) (noSlash : '/' ∉ group.toList) (key : String) :
    node.resolve (.ok (group ++ ("/" ++ key))) = node.entry group key := by
  simp only [resolve, splitRemainder?_append noSlash]
  rfl

/-- A group that is named with a slash resolves to the group before it, with another key. -/
theorem resolve_of_nested (node : Node) {first : String} (noSlash : '/' ∉ first.toList)
    (rest key : String) :
    node.resolve (.ok (first ++ ("/" ++ rest) ++ ("/" ++ key))) =
      node.entry first (rest ++ ("/" ++ key)) := by
  rw [String.append_assoc, String.append_assoc]
  exact resolve_of_entry node noSlash (rest ++ ("/" ++ key))

/-- A group alone is no entry. -/
theorem resolve_of_not_mem (node : Node) (noSlash : '/' ∉ group.toList) :
    node.resolve (.ok group) = .error (.badRequest missingParts) := by
  simp only [resolve, splitRemainder?_of_not_mem noSlash]

/-- What a node does for a peer that reads or removes a key of the group at a position. -/
def servePeer (node : Node) (now : Instant) (request : Http.Request) (method : PeerMethod)
    (position : Nat) (key : String) : Node × Handling × List NodeEvent :=
  let context := node.pool.requestContext request.headers
  let counted := (node.step now position .serve).1
  match method with
  | .get =>
      counted.start now position (.get context key) (.peerGet context request.target.text) false
  | .delete =>
      ((counted.step now position (.removeLocally key)).1, .answered (.empty .ok), [])

/-- A failure is answered, and nothing is done. -/
def refusePeer (node : Node) (request : Http.Request) (error : CacheError) :
    Node × Handling × List NodeEvent :=
  let context := node.pool.requestContext request.headers
  (node, .answered (node.pool.failureAnswer context request.target.text error), [])

variable {node : Node} {now : Instant} {request : Http.Request} {method : PeerMethod}
  {remainder : Except RemainderFault String}

/-- A peer's request is served where it resolves to an entry, and refused otherwise. -/
theorem receivePeer_eq (isMethod : request.method = method.text) :
    node.receivePeer now request remainder =
      match node.resolve remainder with
      | .error error => node.refusePeer request error
      | .ok (position, key) => node.servePeer now request method position key := by
  cases method with
  | get =>
      have reads : reads request.method = true := by rw [isMethod]; decide
      have notHead : decide (request.method = "HEAD") = false := by rw [isMethod]; decide
      rw [receivePeer, if_pos reads, receivePeerGet, notHead]
      cases node.resolve remainder <;> rfl
  | delete =>
      have readsNot : ¬ Node.reads request.method = true := by rw [isMethod]; decide
      have isDelete : request.method = "DELETE" := isMethod
      rw [receivePeer, if_neg readsNot, if_pos isDelete, receivePeerRemove]
      cases node.resolve remainder <;> rfl

/-- A request that leads below the base path is handled by what stands there. -/
theorem receive_of_peer (isMethod : request.method = method.text)
    (leads : node.routes.destination request.target.path = .peer remainder) :
    node.receive now request =
      match node.resolve remainder with
      | .error error => node.refusePeer request error
      | .ok (position, key) => node.servePeer now request method position key := by
  rw [receive, leads]
  exact receivePeer_eq isMethod

end Node

/-! ## From one end to the other -/

/-- A request for a group and a key leads to the remainder that they spell, to the group alone,
or to no entry at all. -/
theorem destination_requestSegments {routes : Routes} (origin : Url.Origin)
    (isBase : PoolOptions.IsBase basePath pieces) (found : Routes.ofPeers? basePath = some routes)
    (isName : IsSegmentText group)
    (isUnbroken : ∀ character ∈ key.toList, Url.isBreak character = false)
    (inside : group ≠ "" ∨ basePath ≠ "/") :
    let path := String.ofList (pathCharacters (requestSegments origin basePath group key))
    routes.destination path = .unrouted ∨
      ∃ remainder, routes.destination path = .peer remainder ∧
        ((∃ fault, remainder = .error fault) ∨ remainder = .ok group ∨
          remainder = .ok (group ++ ("/" ++ key))) := by
  have settled := allSettled_requestSegments origin basePath group key
  have some_segment := requestSegments_ne_nil origin basePath isName key
  have free : ∀ segment ∈ requestSegments origin basePath group key, '/' ∉ segment.toList :=
    fun segment member => (settled segment member).slash_not_mem
  dsimp only
  rcases Routes.destination_ofPeers isBase found some_segment free with
    unrouted | ⟨fault, isFault⟩ | ⟨rest, begins, leads⟩
  · exact Or.inl unrouted
  · exact Or.inr ⟨_, isFault, Or.inl ⟨fault, rfl⟩⟩
  · right
    refine ⟨_, leads, Or.inr ?_⟩
    -- the base path is what a settled path begins with, so it is settled
    have settledBase : AllSettled pieces := fun piece member =>
      settled piece (begins ▸ List.mem_append_left rest member)
    rw [requestSegments_of_settled origin isBase settledBase isName isUnbroken inside,
      List.append_cancel_left_eq] at begins
    rw [← begins]
    by_cases keyDots : key = "." ∨ key = ".."
    · rw [if_pos keyDots]
      exact Or.inl (remainder_of_written_group group)
    · rw [if_neg keyDots]
      exact Or.inr (remainder_of_written group key)

/-- A path for the public. -/
def Destination.isPublic : Destination → Bool
  | .cache _ | .stats _ => true
  | .peer _ | .unrouted => false

/-- A path is for the peer protocol, if for anything: the node serves nothing else, or the path is
none of those that it serves to the public. -/
def Node.IsInbound (node : Node) (path : String) : Prop :=
  Routes.ofPeers? node.pool.options.basePath = some node.routes ∨
    Routes.ofBasePath? node.pool.options.basePath = some node.routes ∧
      (node.routes.destination path).isPublic = false

/-- Public paths beside the peer protocol do not change what a request of a peer leads to. -/
theorem Node.IsInbound.destination {node : Node} (origin : Url.Origin)
    (inbound : node.IsInbound
      (String.ofList (pathCharacters (requestSegments origin basePath group key))))
    (sameBase : node.pool.options.basePath = basePath)
    (isBase : PoolOptions.IsBase basePath pieces) (isName : IsSegmentText group)
    (isUnbroken : ∀ character ∈ key.toList, Url.isBreak character = false)
    (inside : group ≠ "" ∨ basePath ≠ "/") :
    let path := String.ofList (pathCharacters (requestSegments origin basePath group key))
    node.routes.destination path = .unrouted ∨
      ∃ remainder, node.routes.destination path = .peer remainder ∧
        ((∃ fault, remainder = .error fault) ∨ remainder = .ok group ∨
          remainder = .ok (group ++ ("/" ++ key))) := by
  dsimp only
  rw [Node.IsInbound, sameBase] at inbound
  rcases inbound with alone | ⟨beside, notPublic⟩
  · exact destination_requestSegments origin isBase alone isName isUnbroken inside
  · generalize leads : node.routes.destination
      (String.ofList (pathCharacters (requestSegments origin basePath group key))) = destination
      at notPublic ⊢
    cases destination with
    | cache names => cases notPublic
    | stats name => cases notPublic
    | unrouted => exact Or.inl rfl
    | peer remainder =>
        right
        obtain ⟨alone, found, same⟩ := Routes.destination_ofPeers_of_ofBasePath beside leads
        rcases destination_requestSegments origin isBase found isName isUnbroken inside with
          unrouted | ⟨spelled, leadsAlone, isSpelled⟩
        · rw [same] at unrouted
          cases unrouted
        · obtain rfl := Destination.peer.inj (same.symm.trans leadsAlone)
          exact ⟨_, rfl, isSpelled⟩

/-- Where the request that a pool makes for a group and a key leads, with a plain base path. -/
theorem destination_of_request {routes : Routes} (options : PoolOptions) (origin : Url.Origin)
    (plain : ∀ character ∈ options.basePath.toList, PoolOptions.IsPlainCharacter character)
    (found : Routes.ofPeers? (PoolOptions.normalizedBasePath options.basePath) = some routes)
    (isName : IsSegmentText group) (some_name : group ≠ "") (isKey : IsSegmentText key)
    (made : (PeerPool.reach options origin.text).requestUrl group key = .ok url) :
    routes.destination (Http.Target.ofText url.target).path =
      .peer (.ok (group ++ ("/" ++ key))) := by
  obtain ⟨same, madeSame, isPath⟩ := requestUrl_reach options origin group key
  obtain rfl := Except.ok.inj (made.symm.trans madeSame)
  obtain ⟨pieces, isBase⟩ := PoolOptions.exists_isBase options.basePath
  obtain ⟨settled, noParameters⟩ := isBase.pieces_of_plain plain
  obtain ⟨given, isGiven, leads⟩ := Routes.destination_of_plain isBase noParameters
  obtain rfl := Option.some.inj (found.symm.trans isGiven)
  have settledAll := allSettled_requestSegments origin
    (PoolOptions.normalizedBasePath options.basePath) group key
  have path := path_ofText_target isPath settledAll (requestSegments_ne_nil origin _ isName key)
  rw [requestSegments_of_settled origin isBase settled isName isKey.isUnbroken (Or.inl some_name),
    if_neg isKey.notDots] at path settledAll
  have some_text : "/".intercalate [written group, written key] ≠ "" := by
    intro isEmpty
    have characters := congrArg String.toList isEmpty
    simp [String.intercalate_cons_cons, String.toList_append] at characters
  have free : ∀ segment ∈ [written group, written key], '/' ∉ segment.toList :=
    fun segment inside =>
      (settledAll segment (List.mem_append_right pieces inside)).slash_not_mem
  rw [path, leads _ some_text free, remainder_of_written]

/-- The address of a node that stands for any other. -/
def neighbour : Url.Origin where
  scheme := "http"
  named := "b:8000"
  authority := ⟨"", .domain "b", some 8000⟩
  web := Or.inl rfl
  bare := Text.forall_mem_of_all (by decide)
  reads := by decide +kernel

namespace Node

variable {pool : PeerPool} {peers : List String} {node : Node} {context : CallContext}
  {method : PeerMethod} {outgoing : Outgoing}

/-- A request of a peer is never misdirected, if the group that it names holds no slash and
neither name loses anything on the way: where a node with the same base path does not take it for
one of the public, it serves the entry that was asked for, or refuses the request and does
nothing. -/
theorem request_not_misdirected (origin : Url.Origin) (knows : pool.Knows options peers)
    (member : (origin.text, transport) ∈ pool.topology.transports)
    (sent : transport.prepare context method group key = .ok outgoing)
    (sameBase : node.pool.options.basePath = pool.options.basePath)
    (inbound : node.IsInbound (Cluster.arriving outgoing).target.path)
    (isName : IsSegmentText group) (noSlash : '/' ∉ group.toList)
    (isUnbroken : ∀ character ∈ key.toList, Url.isBreak character = false)
    (inside : group ≠ "" ∨ pool.options.basePath ≠ "/") (now : Instant) :
    (∃ position, node.position? group = some position ∧
      node.receive now (Cluster.arriving outgoing) =
        node.servePeer now (Cluster.arriving outgoing) method position key) ∨
    ∃ error, node.receive now (Cluster.arriving outgoing) =
      node.refusePeer (Cluster.arriving outgoing) error := by
  have settings : pool.options = options.normalized := by
    rw [knows]
    rfl
  have isReach : transport = PeerPool.reach options origin.text := by
    rw [knows] at member
    exact (Topology.mem_transports_iff.mp member).2
  subst isReach
  obtain ⟨given, made, isMethod, sameTarget⟩ := Transport.requestUrl_of_prepare sent
  obtain ⟨url, madeUrl, isPath⟩ := requestUrl_reach options origin group key
  obtain rfl := Except.ok.inj (made.symm.trans madeUrl)
  obtain ⟨pieces, isBase⟩ := PoolOptions.exists_isBase options.basePath
  rw [settings] at sameBase inside
  have path : (Cluster.arriving outgoing).target.path = String.ofList (pathCharacters
      (requestSegments origin (PoolOptions.normalizedBasePath options.basePath) group key)) := by
    rw [Cluster.arriving, sameTarget]
    exact path_ofText_target isPath (allSettled_requestSegments origin _ group key)
      (requestSegments_ne_nil origin _ isName key)
  have arrives : (Cluster.arriving outgoing).method = method.text :=
    congrArg PeerMethod.text isMethod
  rw [path] at inbound
  rcases inbound.destination origin sameBase isBase isName isUnbroken inside with
    unrouted | ⟨remainder, leads, spelled⟩
  · right
    rw [← path] at unrouted
    exact ⟨_, by rw [Node.receive, unrouted]; rfl⟩
  · rw [← path] at leads
    rw [receive_of_peer arrives leads]
    rcases spelled with ⟨fault, rfl⟩ | rfl | rfl
    · exact Or.inr ⟨_, rfl⟩
    · right
      rw [resolve_of_not_mem node noSlash]
      exact ⟨_, rfl⟩
    · rw [resolve_of_entry node noSlash, entry]
      cases found : node.position? group with
      | none => exact Or.inr ⟨_, rfl⟩
      | some position => exact Or.inl ⟨position, rfl, rfl⟩

/-- A node with one group that serves the peer protocol alone. -/
def serving (group : String) : Node :=
  let routes := ⟨[(.peer, [.literal "_groupcache", .remainder "path"])]⟩
  (Node.mk "b" (.new "http://b:8000" .default) routes [] [] .empty 0).register group

theorem key_with_slash_not_misdirected :
    ∃ outgoing, (PeerPool.reach .default "http://b:8000").prepare .new .delete "books" "a/b" =
        .ok outgoing ∧
      ((∃ position, (serving "books").position? "books" = some position ∧
        (serving "books").receive ⟨0⟩ (Cluster.arriving outgoing) =
          (serving "books").servePeer ⟨0⟩ (Cluster.arriving outgoing) .delete position "a/b") ∨
      ∃ error, (serving "books").receive ⟨0⟩ (Cluster.arriving outgoing) =
        (serving "books").refusePeer (Cluster.arriving outgoing) error) := by
  have isSent : ((PeerPool.reach .default "http://b:8000").prepare .new .delete "books"
      "a/b").toOption.isSome = true := by decide +kernel
  cases sent : (PeerPool.reach .default "http://b:8000").prepare .new .delete "books" "a/b" with
  | error error => rw [sent] at isSent; cases isSent
  | ok outgoing =>
      have member : ("http://b:8000", PeerPool.reach .default "http://b:8000") ∈
          ((PeerPool.new "http://a" .default).set ["http://b:8000"]).topology.transports :=
        Topology.mem_transports_iff.mpr ⟨by decide, rfl⟩
      exact ⟨outgoing, rfl, request_not_misdirected neighbour
        (PeerPool.knows_set_new "http://a" .default ["http://b:8000"]) member sent rfl
        (Or.inl (by decide +kernel)) (by decide) (by decide) (Text.forall_mem_of_all (by decide))
        (Or.inl (by decide)) ⟨0⟩⟩

/-- A group with a slash in its name cannot be told from the group before the slash: a request
for one of its keys makes that group load another key. -/
theorem nested_group_misdirected :
    let node := (serving "a").register "a/b"
    ∃ outgoing, (PeerPool.reach .default "http://b:8000").prepare .new .get "a/b" "c" =
        .ok outgoing ∧
      node.position? "a" = some 0 ∧ node.position? "a/b" = some 1 ∧
      node.receive ⟨0⟩ (Cluster.arriving outgoing) =
        node.servePeer ⟨0⟩ (Cluster.arriving outgoing) .get 0 "b/c" ∧
      (node.receive ⟨0⟩ (Cluster.arriving outgoing)).2.2 = [(0, .calledLoader 0 "b/c")] := by
  have isSent : ((PeerPool.reach .default "http://b:8000").prepare .new .get "a/b"
      "c").toOption.isSome = true := by decide +kernel
  cases sent : (PeerPool.reach .default "http://b:8000").prepare .new .get "a/b" "c" with
  | error error => rw [sent] at isSent; cases isSent
  | ok outgoing =>
      obtain ⟨given, made, isMethod, sameTarget⟩ := Transport.requestUrl_of_prepare sent
      have arrives : (Cluster.arriving outgoing).method = PeerMethod.get.text :=
        congrArg PeerMethod.text isMethod
      have leads : ((serving "a").register "a/b").routes.destination
          (Cluster.arriving outgoing).target.path = .peer (.ok "a/b/c") := by
        rw [Cluster.arriving, sameTarget]
        exact destination_of_request .default neighbour (Text.forall_mem_of_all (by decide))
          (by decide +kernel) (by decide) (by decide) (by decide) made
      have served : ((serving "a").register "a/b").receive ⟨0⟩ (Cluster.arriving outgoing) =
          ((serving "a").register "a/b").servePeer ⟨0⟩ (Cluster.arriving outgoing) .get 0
            "b/c" := by
        have noSlash : '/' ∉ "a".toList := by decide
        have isOther : ((serving "a").register "a/b").resolve (.ok "a/b/c") = .ok (0, "b/c") :=
          resolve_of_nested _ noSlash "b" "c"
        rw [receive_of_peer arrives leads, isOther]
      refine ⟨outgoing, rfl, rfl, rfl, served, ?_⟩
      rw [served]
      rfl

/-- A group without a slash and a key arrive as they are: with a plain base path, the request
that a pool makes for them at a peer is one of the peer protocol for every server with the same
base path, and resolves to this group and this key. -/
theorem request_resolves (origin : Url.Origin) (serverOptions : PoolOptions)
    (knows : pool.Knows options peers)
    (member : origin.text ∈ peers)
    (sameBase : serverOptions.basePath = options.basePath)
    (plain : ∀ character ∈ options.basePath.toList, PoolOptions.IsPlainCharacter character)
    (isName : IsSegmentText group) (noSlash : '/' ∉ group.toList) (some_name : group ≠ "")
    (isKey : IsSegmentText key) :
    ∃ transport url routes,
      pool.topology.transports.lookup origin.text = some transport ∧
      transport.requestUrl group key = .ok url ∧
      Routes.ofPeers? serverOptions.normalized.basePath = some routes ∧
      routes.destination (Http.Target.ofText url.target).path =
        .peer (.ok (group ++ ("/" ++ key))) ∧
      ∀ node : Node, node.resolve (.ok (group ++ ("/" ++ key))) = node.entry group key := by
  obtain ⟨url, made, -⟩ := requestUrl_reach options origin group key
  obtain ⟨pieces, isBase⟩ := PoolOptions.exists_isBase options.basePath
  obtain ⟨-, noParameters⟩ := isBase.pieces_of_plain plain
  obtain ⟨routes, found, -⟩ := Routes.destination_of_plain isBase noParameters
  have isReach : pool.topology.transports.lookup origin.text =
      some (PeerPool.reach options origin.text) := by
    rw [knows]
    exact Topology.lookup_transports member
  have sameRoutes : Routes.ofPeers? serverOptions.normalized.basePath = some routes := by
    rw [← found]
    exact congrArg (fun base => Routes.ofPeers? (PoolOptions.normalizedBasePath base)) sameBase
  exact ⟨_, url, routes, isReach, made, sameRoutes,
    destination_of_request options origin plain found isName some_name isKey made,
    fun node => resolve_of_entry node noSlash key⟩

/-- A key with a slash, a space and a question mark reaches a node whose base path is the root,
written with two slashes. -/
theorem marked_key_resolves :
    ∃ transport url routes,
      ((PeerPool.new "http://a" { PoolOptions.default with basePath := "//" }).set
        ["http://a", "http://b:8000"]).topology.transports.lookup "http://b:8000" =
          some transport ∧
      transport.requestUrl "books" "a b/c?d" = .ok url ∧
      Routes.ofPeers? "/" = some routes ∧
      routes.destination (Http.Target.ofText url.target).path = .peer (.ok "books/a b/c?d") ∧
      ∀ node : Node, node.resolve (.ok "books/a b/c?d") = node.entry "books" "a b/c?d" :=
  request_resolves neighbour { PoolOptions.default with basePath := "//" }
    (PeerPool.knows_set_new "http://a" { PoolOptions.default with basePath := "//" }
      ["http://a", "http://b:8000"])
    (by decide) rfl (Text.forall_mem_of_all (by decide)) (by decide) (by decide) (by decide)
    (by decide)

end Node

end PeerCache
