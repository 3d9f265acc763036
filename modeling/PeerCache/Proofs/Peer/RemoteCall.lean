/-
Module: PeerCache.Proofs.Peer.RemoteCall
Purpose: That a call of a peer comes to what the same call at the peer itself comes to.
Main exports:
  Node.ResolvesTo, Node.kept?, Group.GetReturns, Transport.relayed,
  PeerSession.remote_call_is_local
-/
import PeerCache.Proofs.Group.Recounting
import PeerCache.Proofs.Peer.Addressing
import PeerCache.Proofs.Peer.CallOutcome
import PeerCache.Proofs.Peer.NodeHistory

/-!
A get of a peer makes the peer's group get the key (`Node.servePeer_fst`).  The group has then
counted one request more than if the get had been called there, and nothing else is different
(`Group.run_recounted`); so the get comes to the same result in the same moves.  The result goes
into an answer, and the client reads it back from that (`Transport.receiveResponse_peerAnswer`): a
value with its expiration from the body of a success, a failure from its status and wording.

A removal at a peer takes the key from the store of the group there, at once.
-/

namespace PeerCache

/-! ## The client -/

/-- No failure leads to the status of a success. -/
theorem CacheError.isSuccess_status (error : CacheError) : error.status.isSuccess = false := by
  cases error <;> rfl

namespace Transport

variable {group key address : String} {buffers : BufferPool}

/-- A request is made for either method, or for none; they differ in nothing else. -/
theorem prepare_eq_map (transport : Transport) (context : CallContext) (method : PeerMethod)
    (group key : String) :
    transport.prepare context method group key =
      (transport.prepare context .get group key).map fun outgoing => { outgoing with method } := by
  unfold prepare
  cases transport.requestUrl group key with
  | error error => rfl
  | ok given =>
      simp only [bind, Except.bind, throw, throwThe, MonadExceptOf.throw, pure, Except.pure]
      split
      · rfl
      · split
        · rfl
        · split <;> rfl

/-- What a get of a peer returns for a result of the get there: the value and the word of its
expiration; or a failure that has the group and key of the call, the status that the failure there
leads to, and its wording as the body. -/
def relayed (group key : String) : Result View → Except CacheError Response
  | .ok view => .ok ⟨view.value, Expiration.toNanos view.expire⟩
  | .error error =>
      .error (.remote
        { group, key
          answer := some ⟨error.status, some (Bytes.ofString error.message)⟩
          cause := .other (.single ("non-OK response code: " ++ error.status.text)) })

/-- A failure is read back from its answer. -/
theorem receiveResponse_plainText (error : CacheError) :
    (receiveResponse group key address
      (Cluster.deliveryOf (.answered (.plainText error.status error.message))) buffers).1 =
        relayed group key (.error error) := by
  have body := Response.gather_eq buffers (Bytes.ofString error.message)
  simp only [receiveResponse, Cluster.deliveryOf, Http.Answer.plainText,
    error.isSuccess_status, Bool.not_false, if_true, body]
  rfl

/-- A value that fits is read back from its answer. -/
theorem receiveResponse_encode {response : Response} (fits : response.Fits)
    (contentType allow : Option String) :
    (receiveResponse group key address
      (Cluster.deliveryOf (.answered ⟨.ok, contentType, allow, response.encode⟩)) buffers).1 =
        .ok response := by
  have whole : Response.decode? response.encode = some response :=
    Response.decode?_eq_some_iff.mpr ⟨fits, [], (List.append_nil _).symm⟩
  exact receiveResponse_eq_ok_iff.mpr ⟨_, rfl, rfl, rfl, whole⟩

/-- The result of a get is read back from its answer, where failures are answered as usual. -/
theorem receiveResponse_peerAnswer {node : Node} (usual : node.pool.options.errorHook = none)
    (context : CallContext) (target : String) {result : Result View}
    (fits : ∀ view, result = .ok view → view.toResponse.Fits) :
    (receiveResponse group key address
      (Cluster.deliveryOf (.answered (node.peerAnswer context target result))) buffers).1 =
        relayed group key result := by
  cases result with
  | ok view => exact receiveResponse_encode (fits view rfl) _ _
  | error error =>
      rw [Node.peerAnswer, PeerPool.failureAnswer, usual]
      exact receiveResponse_plainText error

theorem receiveRemoval_eq_ok_iff {answer : Http.Answer} :
    (receiveRemoval group key address (Cluster.deliveryOf (.answered answer)) buffers).1 = .ok () ↔
      answer.status.isSuccess = true := by
  rw [receiveRemoval_ok_iff_heard]
  simp [Cluster.deliveryOf, Delivery.heard?]

end Transport

namespace PeerSession

variable {session : PeerSession} {context : CallContext} {group key : String} {asked : Outgoing}

/-- A get returns what is made of the delivery of its request. -/
theorem get_eq (sent : session.transport.prepare context .get group key = .ok asked) :
    (session.get context group key).1 =
      (Transport.receiveResponse group key asked.url.text (session.network.deliver asked)
        session.buffers).1 := by
  simp only [get, call, sent]

/-- A removal returns what is made of the delivery of its request, which is that of a get with
another method. -/
theorem remove_eq (sent : session.transport.prepare context .get group key = .ok asked) :
    (session.remove context group key).1 =
      (Transport.receiveRemoval group key asked.url.text
        (session.network.deliver { asked with method := .delete }) session.buffers).1 := by
  have told := session.transport.prepare_eq_map context .delete group key
  rw [sent] at told
  simp only [remove, call, told, Except.map]

end PeerSession

/-! ## The server -/

/-- A get of a key that arrives at a group comes to a result by the moves that follow. -/
def Group.GetReturns {P : Type} [PeerHandle P] (near : Surroundings P) (group : Group P)
    (context : CallContext) (key : String) (moves : List (Surroundings P × Group.Move))
    (result : Result View) : Prop :=
  ((group.step near (.get context key)).1.run moves).1.callers[group.callers.length]?.map
    GroupCaller.place = some (.got result)

/-- A get does not depend on what was counted before it. -/
theorem Group.GetReturns.recounted {P : Type} [PeerHandle P] {near : Surroundings P}
    {group : Group P} {context : CallContext} {key : String}
    {moves : List (Surroundings P × Group.Move)} {result : Result View}
    (returns : group.GetReturns near context key moves result) (stats : GroupStats) :
    (group.recounted stats).GetReturns near context key moves result := by
  obtain ⟨later, same⟩ := run_recounted group stats ((near, .get context key) :: moves)
  have callers := congrArg (fun run => run.1.callers) same
  simp only [run, callers_recounted] at callers
  rw [GetReturns, callers_recounted, callers]
  exact returns

/-- What a peer's request makes the group do that it names. -/
def PeerMethod.move (context : CallContext) (key : String) : PeerMethod → Group.Move
  | .get => .get context key
  | .delete => .removeLocally key

namespace Node

variable {node : Node} {now : Instant} {request : Http.Request} {method : PeerMethod}
  {position : Nat} {group key : String} {owned : Group Transport}

/-- A path leads to the peer protocol, and what it names there is this key of this group. -/
def ResolvesTo (node : Node) (path group key : String) : Prop :=
  ∃ remainder, node.routes.destination path = .peer (.ok remainder) ∧
    splitRemainder? remainder = some (group, key)

/-- A request that names a key of a group is served by this group if it is registered, and is
refused otherwise. -/
theorem ResolvesTo.receive (resolves : node.ResolvesTo request.target.path group key)
    (isMethod : request.method = method.text) (now : Instant) :
    node.receive now request =
      match node.position? group with
      | none => node.refusePeer request (.groupNotFound group)
      | some position => node.servePeer now request method position key := by
  obtain ⟨remainder, leads, names⟩ := resolves
  rw [receive_of_peer isMethod leads, resolve]
  simp only [names]
  cases node.position? group <;> rfl

/-- A peer's request makes the group count it, and then do what is asked; nothing else of the node
changes. -/
theorem servePeer_fst (node : Node) (now : Instant) (request : Http.Request) (method : PeerMethod)
    (position : Nat) (key : String) :
    (node.servePeer now request method position key).1 =
      node.makeMoves now [(position, .serve),
        (position, method.move (node.pool.requestContext request.headers) key)] := by
  cases method with
  | get => exact (Cluster.start_eq _ _ _ _ _ _).1
  | delete => rfl

theorem groups_servePeer (node : Node) (now : Instant) (request : Http.Request)
    (method : PeerMethod) (position : Nat) (key : String) (other : Nat) :
    (node.servePeer now request method position key).1.groups[other]? =
      node.groups[other]?.map fun group =>
        if position = other then
          ((group.bump .serverRequests).step (node.surroundings now)
            (method.move (node.pool.requestContext request.headers) key)).1
        else group := by
  obtain ⟨groups, made, each⟩ := makeMoves_eq node now [(position, .serve),
    (position, method.move (node.pool.requestContext request.headers) key)]
  rw [servePeer_fst, made]
  dsimp only
  rw [each]
  by_cases same : position = other
  · simp only [movesAt, same, List.filterMap_cons, List.filterMap_nil, if_true]
    rfl
  · simp only [movesAt, same, List.filterMap_cons, List.filterMap_nil, if_false]
    rfl

/-- A peer's get waits for a caller of the group, the one that arrives with it. -/
theorem servePeer_get_handling (found : node.groups[position]? = some owned) (now : Instant)
    (request : Http.Request) (key : String) :
    (node.servePeer now request .get position key).2.1 =
      .running position owned.callers.length
        (.peerGet (node.pool.requestContext request.headers) request.target.text) false := by
  have counted : (node.step now position .serve).1.groups[position]? =
      some (owned.bump .serverRequests) := by
    refine ((becomes_makeMoves node now [(position, .serve)]).groups position owned found).trans ?_
    simp only [movesAt, List.filterMap_cons, List.filterMap_nil, if_true]
    rfl
  simp only [servePeer, start, counted]
  rfl

/-- What the store of the group at a position keeps for a key. -/
def kept? (node : Node) (position : Nat) (key : String) : Option View :=
  node.groups[position]?.bind fun group => group.store.find? key

/-- A peer's removal takes the key from the store of the group, and nothing else from any store. -/
theorem kept?_servePeer_delete (other : Nat) (name : String) :
    (node.servePeer now request .delete position key).1.kept? other name =
      if position = other ∧ name = key then none else node.kept? other name := by
  rw [kept?, groups_servePeer, kept?]
  cases node.groups[other]? with
  | none => simp
  | some group =>
      by_cases same : position = other
      · simp only [Option.map_some, Option.bind_some, same, if_true, true_and]
        exact Store.find?_erase group.store key name
      · simp only [Option.map_some, Option.bind_some, same, if_false, false_and]

/-- The answer to a peer's get, once the get that the group made of it has returned. -/
theorem outcome?_of_getReturns {started : Node} {context : CallContext} {target : String}
    {happenings : List (Instant × Happening)} {result : Result View}
    (found : started.groups[position]? =
      some ((owned.bump .serverRequests).step (node.surroundings now) (.get context key)).1)
    (returns : owned.GetReturns (node.surroundings now) context key
      (started.movesOf position happenings) result) :
    (started.live happenings).outcome?
        (.running position owned.callers.length (.peerGet context target) false) =
      some (.answered ((started.live happenings).peerAnswer context target result)) := by
  have stands : (started.live happenings).place? position owned.callers.length =
      some (.got result) := by
    rw [Group.bump_eq_recounted] at found
    rw [place?, (becomes_live started happenings).groups position _ found]
    exact returns.recounted (owned.stats.bump .serverRequests)
  simp only [outcome?, stands, Option.bind_some, placeOutcome?, trimmed, Bool.false_eq_true,
    if_false]

end Node

/-! ## The two together -/

namespace PeerSession

variable {session : PeerSession} {context : CallContext} {group key : String} {asked : Outgoing}
  {server : Node}

/-- A call of a peer comes to what the same call comes to at the peer, if the peer answers failures
as usual, the request for the key leads to this very key there, and the answer arrives whole.

* If the peer has the group, then in whatever happens to it after the request came in, a get
  returns here what the get that is called there returns among the same moves: the value and the
  word of its expiration, or the failure with its status and wording.
* If it has not, the get returns that there is no such group.
* A removal succeeds just if the peer has the group.  Then the group's store has lost the key, and
  otherwise every store keeps what it kept. -/
theorem remote_call_is_local (sound : server.Sound)
    (usual : server.pool.options.errorHook = none)
    (sent : session.transport.prepare context .get group key = .ok asked)
    (resolves : server.ResolvesTo (Cluster.arriving asked).target.path group key)
    (now : Instant) :
    let told := { asked with method := .delete }
    let served := server.receive now (Cluster.arriving asked)
    let removed := server.receive now (Cluster.arriving told)
    (∀ position, server.position? group = some position →
      ∃ owned, server.groups[position]? = some owned ∧
        ∀ happenings result,
          owned.GetReturns (server.surroundings now)
            (server.pool.requestContext (Cluster.arriving asked).headers) key
            (served.1.movesOf position happenings) result →
          (∀ view, result = .ok view → view.toResponse.Fits) →
          ∃ outcome, (served.1.live happenings).outcome? served.2.1 = some outcome ∧
            (session.network.deliver asked = Cluster.deliveryOf outcome →
              (session.get context group key).1 = Transport.relayed group key result)) ∧
    (server.position? group = none →
      ∃ answer, served = (server, .answered answer, []) ∧
        (session.network.deliver asked = Cluster.deliveryOf (.answered answer) →
          (session.get context group key).1 =
            Transport.relayed group key (.error (.groupNotFound group)))) ∧
    (∃ answer, removed.2.1 = .answered answer ∧
      (session.network.deliver told = Cluster.deliveryOf (.answered answer) →
        ((session.remove context group key).1 = .ok () ↔
          ∃ position, server.position? group = some position))) ∧
    (∀ other name, removed.1.kept? other name =
      if server.position? group = some other ∧ name = key then none
      else server.kept? other name) := by
  dsimp only
  have isGet : (Cluster.arriving asked).method = PeerMethod.get.text := by
    obtain ⟨-, -, isMethod, -⟩ := Transport.requestUrl_of_prepare sent
    exact congrArg PeerMethod.text isMethod
  have isDelete : (Cluster.arriving { asked with method := .delete }).method =
      PeerMethod.delete.text := rfl
  have toldResolves : server.ResolvesTo
      (Cluster.arriving { asked with method := .delete }).target.path group key := resolves
  rw [resolves.receive isGet, toldResolves.receive isDelete]
  refine ⟨?_, ?_, ?_, ?_⟩
  · -- a get where the group is: the answer is that of the group's own get
    intro position registered
    obtain ⟨owned, found⟩ := sound.exists_group registered
    simp only [registered]
    refine ⟨owned, found, fun happenings result returns fits => ?_⟩
    rw [Node.servePeer_get_handling found]
    have there :=
      Node.groups_servePeer server now (Cluster.arriving asked) .get position key position
    rw [found, Option.map_some, if_pos rfl] at there
    refine ⟨_, Node.outcome?_of_getReturns there returns, fun delivered => ?_⟩
    rw [get_eq sent, delivered]
    apply Transport.receiveResponse_peerAnswer _ _ _ fits
    rw [(Node.becomes_live _ happenings).options, Node.servePeer_fst,
      (Node.becomes_makeMoves server now _).options, usual]
  · -- a get where there is no such group: it is refused at once
    intro missing
    simp only [missing]
    refine ⟨_, rfl, fun delivered => ?_⟩
    rw [get_eq sent, delivered, PeerPool.failureAnswer, usual]
    exact Transport.receiveResponse_plainText _
  · cases registered : server.position? group with
    | none =>
        refine ⟨_, rfl, fun delivered => ?_⟩
        rw [remove_eq sent, delivered, Transport.receiveRemoval_eq_ok_iff, PeerPool.failureAnswer,
          usual]
        simp [Http.Answer.plainText, CacheError.isSuccess_status]
    | some position =>
        refine ⟨_, rfl, fun delivered => ?_⟩
        rw [remove_eq sent, delivered, Transport.receiveRemoval_eq_ok_iff]
        exact ⟨fun _ => ⟨position, rfl⟩, fun _ => rfl⟩
  · intro other name
    cases registered : server.position? group with
    | none => simp [Node.refusePeer]
    | some position =>
        simp only [Option.some.injEq]
        exact Node.kept?_servePeer_delete other name

/-- A key with a slash, which the peer loads for this get, arrives with its value. -/
theorem remote_get_of_loaded :
    let view : View := ⟨[52, 50], none⟩
    let session := PeerSession.new (PeerPool.reach .default "http://b:8000")
      ⟨fun _ => true, fun _ => .answered .ok view.toResponse.encode true⟩
    ∃ asked, session.transport.prepare .new .get "books" "a/b" = .ok asked ∧
      (Node.serving "books").ResolvesTo (Cluster.arriving asked).target.path "books" "a/b" ∧
      (session.get .new "books" "a/b").1 = .ok ⟨[52, 50], 0⟩ := by
  intro view session
  have isSent : (session.transport.prepare .new .get "books" "a/b").toOption.isSome = true := by
    decide +kernel
  cases sent : session.transport.prepare .new .get "books" "a/b" with
  | error error => rw [sent] at isSent; cases isSent
  | ok asked =>
      obtain ⟨given, made, isMethod, sameTarget⟩ := Transport.requestUrl_of_prepare sent
      have resolves : (Node.serving "books").ResolvesTo (Cluster.arriving asked).target.path "books"
          "a/b" := by
        refine ⟨"books/a/b", ?_, by decide⟩
        rw [Cluster.arriving, sameTarget]
        exact destination_of_request .default neighbour (Text.forall_mem_of_all (by decide))
          (by decide +kernel) (by decide) (by decide) (by decide) made
      refine ⟨asked, rfl, resolves, ?_⟩
      have sound : (Node.serving "books").Sound :=
        Node.sound_live (Node.sound_of_nil rfl) [(⟨0⟩, .registered "books")]
      obtain ⟨gets, -⟩ := remote_call_is_local sound rfl sent resolves ⟨0⟩
      obtain ⟨owned, found, follows⟩ := gets 0 (by decide)
      obtain rfl := Option.some.inj found
      obtain ⟨outcome, isOutcome, returns⟩ :=
        follows [(⟨0⟩, .moved 0 (.loaderReplied 0 (.returned (.ok view))))] (.ok view) rfl
          (by rintro _ ⟨⟩; exact (by decide : 2 < 2 ^ 64))
      have served := resolves.receive (congrArg PeerMethod.text isMethod) ⟨0⟩
      rw [served] at isOutcome
      obtain rfl := Option.some.inj isOutcome
      exact returns rfl

end PeerSession

end PeerCache
