/-
Module: PeerCache.Proofs.Peer.CallOutcome
Purpose: What a call of a peer returns for each answer, however it arrives, and that it does not
  matter what the pool of buffers was used for before.
Main exports:
  BufferUse.SparesLease, BufferLeases.bytes_since_checkout, HeardAnswer,
  CacheError.ReportsAnswer, PeerSession.heard?, PeerSession.calls_report_what_was_heard
-/
import PeerCache.Group.Store
import PeerCache.Peer.Network
import PeerCache.Proofs.Peer.WireFormat

/-!
Three things can be known of an answer: its status, the bytes of its body that arrived, and whether
these are all (`HeardAnswer`).  A call returns what these say, or fails with the group and key that
it was made for.  A get and a removal keep a broken body on different terms (`keptByGet`,
`keptByRemoval`): a get only looks at the body of a success, and keeps that of a rejection as far as
it came, while a removal keeps no part of a body that broke off.

The body is gathered in a buffer that was used before, while other calls use theirs.  A buffer that
is out holds what was written to it since it was taken (`bytes_since_checkout`): one step of the
pool leaves it alone or appends to it (`find?_step`), and it was empty when it was taken.
-/

namespace PeerCache

/-! ## Buffers that are out -/

namespace BufferUse

/-- What a use writes to the buffer of a name. -/
def writtenTo (name : String) : BufferUse → Bytes
  | .write other bytes => if other = name then bytes else []
  | _ => []

/-- The use neither takes a buffer under the name nor gives the one of that name back. -/
def SparesLease (name : String) (use : BufferUse) : Prop :=
  use ≠ .checkout name ∧ use ≠ .giveBack name

end BufferUse

namespace BufferLeases

variable {leases : BufferLeases} {name other : String} {buffer : Buffer}

/-- Follows uses of buffers. -/
def run (leases : BufferLeases) (uses : List BufferUse) : BufferLeases :=
  uses.foldl step leases

theorem run_append (leases : BufferLeases) (before later : List BufferUse) :
    leases.run (before ++ later) = (leases.run before).run later :=
  List.foldl_append

theorem lookup_others (apart : name ≠ other) :
    (leases.others other).lookup name = leases.find? name := by
  rw [others, lookup_filter_ne, if_neg apart, find?]

theorem find?_release (apart : name ≠ other) :
    (leases.release other).find? name = leases.find? name := by
  unfold release
  split
  · rfl
  · exact lookup_others apart

theorem find?_lease (pool : BufferPool) (buffer : Buffer) (leased : List (String × Buffer)) :
    find? ⟨pool, (other, buffer) :: leased⟩ name =
      if name = other then some buffer else leased.lookup name := by
  by_cases same : name = other
  · simp [find?, same]
  · have differs : (name == other) = false := by simp [same]
    simp [find?, List.lookup_cons, differs, same]

/-- A buffer is empty when it is taken. -/
theorem find?_checkout (leases : BufferLeases) (name : String) :
    ((leases.step (.checkout name)).find? name).map Buffer.bytes = some [] := by
  rw [step, find?_lease, if_pos rfl, Option.map_some, BufferPool.checkout_bytes]

/-- A buffer that is out gets what is written under its name, and nothing else. -/
theorem find?_step {use : BufferUse} (out : leases.find? name = some buffer)
    (spares : use.SparesLease name) :
    ∃ next, (leases.step use).find? name = some next ∧
      next.bytes = buffer.bytes ++ use.writtenTo name := by
  cases use with
  | checkout other =>
      have apart : name ≠ other := fun same => spares.1 (by rw [same])
      refine ⟨buffer, ?_, (List.append_nil _).symm⟩
      rw [step, find?_lease, if_neg apart]
      exact (find?_release apart).trans out
  | write other bytes =>
      by_cases same : name = other
      · subst same
        refine ⟨buffer.write bytes, ?_, by rw [BufferUse.writtenTo, if_pos rfl]; rfl⟩
        simp only [step, out]
        rw [find?_lease, if_pos rfl]
      · refine ⟨buffer, ?_, by rw [BufferUse.writtenTo, if_neg (Ne.symm same), List.append_nil]⟩
        cases there : leases.find? other with
        | none => simpa only [step, there] using out
        | some written =>
            simp only [step, there]
            rw [find?_lease, if_neg same]
            exact (lookup_others same).trans out
  | giveBack other =>
      have apart : name ≠ other := fun same => spares.2 (by rw [same])
      exact ⟨buffer, (find?_release apart).trans out, (List.append_nil _).symm⟩

theorem find?_run {uses : List BufferUse} (out : leases.find? name = some buffer)
    (spares : ∀ use ∈ uses, use.SparesLease name) :
    ((leases.run uses).find? name).map Buffer.bytes =
      some (buffer.bytes ++ uses.flatMap (BufferUse.writtenTo name)) := by
  induction uses generalizing leases buffer with
  | nil => simp [run, out]
  | cons use rest hyp =>
      obtain ⟨next, there, holds⟩ := find?_step out (spares use (List.mem_cons_self ..))
      have later := hyp there fun after known => spares after (List.mem_cons_of_mem _ known)
      rw [List.flatMap_cons, ← List.append_assoc, ← holds]
      exact later

/-- Whatever a pool was used for before, a buffer that is taken from it holds what is written to it
from then on, as if it were the first buffer that ever was, and what others do to theirs does not
show. -/
theorem bytes_since_checkout (leases : BufferLeases) {name : String} {during : List BufferUse}
    (spares : ∀ use ∈ during, use.SparesLease name) :
    ((leases.run (.checkout name :: during)).find? name).map Buffer.bytes =
      some (during.flatMap (BufferUse.writtenTo name)) := by
  obtain ⟨buffer, out, isEmpty⟩ := Option.map_eq_some_iff.mp (find?_checkout leases name)
  have later := find?_run out spares
  rwa [isEmpty, List.nil_append] at later

end BufferLeases

/-! ## What a call makes of an answer -/

/-- The answer whose head reached a call: its status, what arrived of its body, and whether this is
all of it. -/
structure HeardAnswer where
  status : Http.Status
  received : Bytes
  isWhole : Bool
deriving Repr, DecidableEq

/-- The answer that is heard of a request, if one is. -/
def Delivery.heard? : Delivery → Option HeardAnswer
  | .unreachable => none
  | .timedOut => none
  | .answered status received isWhole => some ⟨status, received, isWhole⟩

/-- The body that a failed get keeps: what arrived, unless a success broke off. -/
def HeardAnswer.keptByGet (answer : HeardAnswer) : Option Bytes :=
  if answer.status.isSuccess ∧ answer.isWhole = false then none else some answer.received

/-- The body that a failed removal keeps: what arrived, unless it broke off. -/
def HeardAnswer.keptByRemoval (answer : HeardAnswer) : Option Bytes :=
  if answer.isWhole then some answer.received else none

/-- The failure of a call for a key that says what was heard: the status of the answer and what is
kept of its body, or neither if no answer was heard. -/
def CacheError.ReportsAnswer (error : CacheError) (group key : String)
    (heard : Option HeardAnswer) (kept : HeardAnswer → Option Bytes) : Prop :=
  ∃ cause, error = .remote
    ⟨group, key, heard.map fun answer => ⟨answer.status, kept answer⟩, cause⟩

namespace Transport

variable {group key address : String} {buffers : BufferPool} {delivery : Delivery}

theorem unanswered_of_requestUrl {transport : Transport} {error : CacheError}
    (failed : transport.requestUrl group key = .error error) :
    ∃ cause, error = .unanswered group key cause := by
  unfold requestUrl at failed
  split at failed
  · cases failed
    exact ⟨_, rfl⟩
  · split at failed
    · cases failed
      exact ⟨_, rfl⟩
    · cases failed

/-- A request that cannot be made fails for its group and key, without an answer. -/
theorem unanswered_of_prepare {transport : Transport} {context : CallContext}
    {method : PeerMethod} {error : CacheError}
    (failed : transport.prepare context method group key = .error error) :
    ∃ cause, error = .unanswered group key cause := by
  unfold prepare at failed
  cases made : transport.requestUrl group key with
  | error unmade =>
      rw [made] at failed
      cases failed
      exact unanswered_of_requestUrl made
  | ok given =>
      simp only [made, bind, Except.bind, throw, throwThe, MonadExceptOf.throw, pure,
        Except.pure] at failed
      split at failed
      · cases failed
        exact ⟨_, rfl⟩
      · split at failed
        · cases failed
          exact ⟨_, rfl⟩
        · split at failed
          · cases failed
            exact ⟨_, rfl⟩
          · cases failed

/-- Neither result depends on the buffers that the pool keeps. -/
theorem receive_same (group key address : String) (delivery : Delivery)
    (buffers others : BufferPool) :
    (receiveResponse group key address delivery buffers).1 =
        (receiveResponse group key address delivery others).1 ∧
      (receiveRemoval group key address delivery buffers).1 =
        (receiveRemoval group key address delivery others).1 := by
  cases delivery with
  | unreachable => exact ⟨rfl, rfl⟩
  | timedOut => exact ⟨rfl, rfl⟩
  | answered status received isWhole =>
      constructor
      · simp only [receiveResponse, Response.gather_eq]
      · simp only [receiveRemoval]
        split
        · rfl
        · simp only [Response.gather_eq]

/-- A get returns the response that is read from the whole body of a success. -/
theorem receiveResponse_eq_ok_iff {response : Response} :
    (receiveResponse group key address delivery buffers).1 = .ok response ↔
      ∃ answer, delivery.heard? = some answer ∧ answer.status.isSuccess = true ∧
        answer.isWhole = true ∧ Response.decode? answer.received = some response := by
  cases delivery with
  | unreachable => simp [receiveResponse, Delivery.heard?]
  | timedOut => simp [receiveResponse, Delivery.heard?]
  | answered status received isWhole =>
      simp only [receiveResponse, Response.gather_eq, Delivery.heard?, Option.some.injEq,
        exists_eq_left']
      cases status.isSuccess with
      | false => simp
      | true =>
          cases isWhole with
          | false => simp
          | true => cases Response.decode? received <;> simp

/-- A get that fails keeps the status of the answer that was heard, and its body. -/
theorem receiveResponse_eq_error {error : CacheError}
    (failed : (receiveResponse group key address delivery buffers).1 = .error error) :
    error.ReportsAnswer group key delivery.heard? HeardAnswer.keptByGet := by
  cases delivery with
  | unreachable =>
      cases failed
      exact ⟨_, rfl⟩
  | timedOut =>
      cases failed
      exact ⟨_, rfl⟩
  | answered status received isWhole =>
      simp only [receiveResponse, Response.gather_eq] at failed
      simp only [CacheError.ReportsAnswer, Delivery.heard?, Option.map_some, HeardAnswer.keptByGet]
      cases success : status.isSuccess with
      | false =>
          rw [success] at failed
          cases failed
          exact ⟨_, rfl⟩
      | true =>
          cases isWhole with
          | false =>
              rw [success] at failed
              cases failed
              exact ⟨_, rfl⟩
          | true =>
              cases read : Response.decode? received with
              | none =>
                  rw [success, read] at failed
                  cases failed
                  exact ⟨_, rfl⟩
              | some response =>
                  rw [success, read] at failed
                  cases failed

/-- A removal that fails keeps the status of the answer that was heard, and its body if that is
whole. -/
theorem receiveRemoval_eq_error {error : CacheError}
    (failed : (receiveRemoval group key address delivery buffers).1 = .error error) :
    error.ReportsAnswer group key delivery.heard? HeardAnswer.keptByRemoval := by
  cases delivery with
  | unreachable =>
      cases failed
      exact ⟨_, rfl⟩
  | timedOut =>
      cases failed
      exact ⟨_, rfl⟩
  | answered status received isWhole =>
      simp only [receiveRemoval] at failed
      split at failed
      · cases failed
      · simp only [Response.gather_eq] at failed
        cases failed
        exact ⟨_, rfl⟩

theorem receiveRemoval_ok_iff_heard :
    (receiveRemoval group key address delivery buffers).1 = .ok () ↔
      ∃ answer, delivery.heard? = some answer ∧ answer.status.isSuccess = true := by
  cases delivery with
  | unreachable => simp [receiveRemoval, Delivery.heard?]
  | timedOut => simp [receiveRemoval, Delivery.heard?]
  | answered status received isWhole =>
      simp only [receiveRemoval, Delivery.heard?, Option.some.injEq, exists_eq_left']
      cases status.isSuccess <;> simp

end Transport

namespace PeerSession

variable {session : PeerSession} {context : CallContext} {method : PeerMethod} {group key : String}

/-- The answer that is heard of the request for a key, if it can be made and is answered. -/
def heard? (session : PeerSession) (context : CallContext) (method : PeerMethod)
    (group key : String) : Option HeardAnswer :=
  (session.transport.prepare context method group key).toOption.bind fun asked =>
    (session.network.deliver asked).heard?

/-- What is true of the result of a call is what is true of a failure without an answer, and of all
that is made of a delivery. -/
theorem call_reports {α : Type} {session : PeerSession}
    {receive : String → Delivery → BufferPool → Except CacheError α × BufferPool}
    (reported : Option HeardAnswer → Except CacheError α → Prop)
    (silent : ∀ cause, reported none (.error (.unanswered group key cause)))
    (hears : ∀ address delivery,
      reported delivery.heard? (receive address delivery session.buffers).1) :
    reported (session.heard? context method group key)
      (session.call context method group key receive).1 := by
  cases made : session.transport.prepare context method group key with
  | error error =>
      obtain ⟨cause, rfl⟩ := Transport.unanswered_of_prepare made
      simp only [heard?, call, made]
      exact silent cause
  | ok asked =>
      simp only [heard?, call, made]
      exact hears asked.url.text (session.network.deliver asked)

/-- A call returns the same with any other pool if what is made of a delivery does. -/
theorem call_same {α : Type}
    {receive : String → Delivery → BufferPool → Except CacheError α × BufferPool}
    (same : ∀ address delivery buffers others,
      (receive address delivery buffers).1 = (receive address delivery others).1)
    (session : PeerSession) (buffers : BufferPool) :
    ({ session with buffers }.call context method group key receive).1 =
      (session.call context method group key receive).1 := by
  simp only [call]
  split
  · rfl
  · exact same _ _ _ _

/-- What a call of a peer returns, for every answer and whatever the pool of buffers is.

* A get returns a response just if the whole body of a success arrived and the response is read
  from it.  Otherwise it fails for the group and key of the call, with the status if the head of an
  answer arrived, and with the bytes that arrived of its body, unless it is a success that broke
  off.
* A removal succeeds just if an answer came with the status of a success.  Otherwise it fails in the
  same way, with the body of the answer if that arrived as a whole.
* Both return the same with any other pool.
* Bytes that arrive one piece after another, while anything else is done with the pool, are gathered
  as if they came at once and the pool had never been used. -/
theorem calls_report_what_was_heard (session : PeerSession) (context : CallContext)
    (group key : String) :
    let got := (session.get context group key).1
    let removed := (session.remove context group key).1
    let heard := session.heard? context .get group key
    let heardOfRemoval := session.heard? context .delete group key
    (∀ response, got = .ok response ↔ ∃ answer, heard = some answer ∧
      answer.status.isSuccess = true ∧ answer.isWhole = true ∧
      Response.decode? answer.received = some response) ∧
    (∀ error, got = .error error →
      error.ReportsAnswer group key heard HeardAnswer.keptByGet) ∧
    (removed = .ok () ↔ ∃ answer, heardOfRemoval = some answer ∧
      answer.status.isSuccess = true) ∧
    (∀ error, removed = .error error →
      error.ReportsAnswer group key heardOfRemoval HeardAnswer.keptByRemoval) ∧
    (∀ buffers, ({ session with buffers }.get context group key).1 = got ∧
      ({ session with buffers }.remove context group key).1 = removed) ∧
    (∀ (before during : List BufferUse) (name : String),
      (∀ use ∈ during, use.SparesLease name) →
      ((BufferLeases.empty.run (before ++ .checkout name :: during)).find? name).map
          Buffer.bytes =
        some (Transport.gather session.buffers
          (during.flatMap (BufferUse.writtenTo name))).1) := by
  refine ⟨fun response => ?_, ?_, ?_, ?_, fun buffers => ⟨?_, ?_⟩, ?_⟩
  · refine call_reports (fun heard result => result = .ok response ↔ ∃ answer,
      heard = some answer ∧ answer.status.isSuccess = true ∧ answer.isWhole = true ∧
        Response.decode? answer.received = some response) (fun cause => by simp) ?_
    intro address delivery
    exact Transport.receiveResponse_eq_ok_iff
  · refine call_reports (fun heard result => ∀ error, result = .error error →
      error.ReportsAnswer group key heard HeardAnswer.keptByGet) ?_ ?_
    · rintro cause error ⟨⟩
      exact ⟨cause, rfl⟩
    · intro address delivery error failed
      exact Transport.receiveResponse_eq_error failed
  · refine call_reports (fun heard result => result = .ok () ↔ ∃ answer, heard = some answer ∧
      answer.status.isSuccess = true) (fun cause => by simp) ?_
    intro address delivery
    exact Transport.receiveRemoval_ok_iff_heard
  · refine call_reports (fun heard result => ∀ error, result = .error error →
      error.ReportsAnswer group key heard HeardAnswer.keptByRemoval) ?_ ?_
    · rintro cause error ⟨⟩
      exact ⟨cause, rfl⟩
    · intro address delivery error failed
      exact Transport.receiveRemoval_eq_error failed
  · exact call_same (fun address delivery one two =>
      (Transport.receive_same group key address delivery one two).1) session buffers
  · exact call_same (fun address delivery one two =>
      (Transport.receive_same group key address delivery one two).2) session buffers
  · intro before during name spares
    rw [BufferLeases.run_append, Response.gather_eq]
    exact BufferLeases.bytes_since_checkout _ spares

/-- A rejection breaks off after two bytes, which arrive one by one in a buffer that was used
before, while another call uses its own.  A get keeps the two bytes, a removal neither. -/
theorem broken_rejection_beside_another_call :
    let rejected : HeardAnswer := ⟨.notFound, [110, 111], false⟩
    let session : PeerSession :=
      { transport := ⟨"http://b:8000/_groupcache/", "ring", false⟩
        network := ⟨fun _ => true, fun _ => .answered .notFound [110, 111] false⟩
        buffers := ⟨[⟨[1, 2, 3], 3⟩]⟩
        clientsMade := 0
        wire := [] }
    let before : List BufferUse := [.checkout "c", .write "c" [1, 2, 3], .giveBack "c"]
    let during : List BufferUse :=
      [.write "a" [110], .checkout "b", .write "b" [7], .write "a" [111], .giveBack "b"]
    (∃ error, (session.get .new "books" "k").1 = .error error ∧
      error.ReportsAnswer "books" "k" (some rejected) fun _ => some [110, 111]) ∧
    (∃ error, (session.remove .new "books" "k").1 = .error error ∧
      error.ReportsAnswer "books" "k" (some rejected) fun _ => none) ∧
    (∀ use ∈ during, use.SparesLease "a") ∧
    ((BufferLeases.empty.run (before ++ .checkout "a" :: during)).find? "a").map Buffer.bytes =
      some [110, 111] := by
  intro rejected session before during
  obtain ⟨getsOk, gets, removesOk, removes, -, gathers⟩ :=
    calls_report_what_was_heard session .new "books" "k"
  have heard : session.heard? .new .get "books" "k" = some rejected := by decide +kernel
  have heardOfRemoval : session.heard? .new .delete "books" "k" = some rejected := by
    decide +kernel
  rw [heard] at getsOk gets
  rw [heardOfRemoval] at removesOk removes
  have spares : ∀ use ∈ during, use.SparesLease "a" := by
    simp [during, BufferUse.SparesLease]
  refine ⟨?_, ?_, spares, ?_⟩
  · cases got : (session.get .new "books" "k").1 with
    | ok response =>
        obtain ⟨_, ⟨⟩, success, -⟩ := (getsOk response).mp got
        cases success
    | error error => exact ⟨error, rfl, gets error got⟩
  · cases removed : (session.remove .new "books" "k").1 with
    | ok done =>
        obtain ⟨_, ⟨⟩, success⟩ := removesOk.mp removed
        cases success
    | error error => exact ⟨error, rfl, removes error removed⟩
  · rw [gathers before during "a" spares, Response.gather_eq]
    rfl

end PeerSession

end PeerCache
