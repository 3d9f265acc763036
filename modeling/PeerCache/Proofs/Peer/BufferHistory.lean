/-
Module: PeerCache.Proofs.Peer.BufferHistory
Purpose: What a pool of buffers keeps, told from every length that each of its buffers ever had.
Main exports:
  BufferHistory.greatest, BufferHistory.IsKept, BufferAccount.step, BufferPool.WithinLimits,
  BufferLeases.KeptBy, BufferLeases.pool_follows_histories
-/
import PeerCache.Proofs.Peer.CallOutcome

/-!
A buffer goes from hand to hand, and whether it is kept when it is given back depends on all the
uses that it had.  The account here keeps for each buffer every length that it ever had
(`BufferHistory`), and lets the history go where the buffer goes (`BufferAccount`).  It knows
neither bytes nor capacities.  A buffer can then hold as much as the greatest length of its history,
and it is kept if it never passed the limit and there is room (`IsKept`).

Two invariants carry this.  The limits hold of the pool alone (`WithinLimits`), since only giving
back adds to it.  The account agrees with the pool and with what is out (`KeptBy`): one use
preserves this (`KeptBy.step`), by the same cases on both sides.
-/

namespace PeerCache

/-! ## The account -/

/-- Every length that a buffer ever had, the latest first. -/
abbrev BufferHistory := List Nat

namespace BufferHistory

/-- The greatest length that a buffer ever had. -/
def greatest (history : BufferHistory) : Nat :=
  history.foldr max 0

/-- The length that a buffer has. -/
def now (history : BufferHistory) : Nat :=
  history.head?.getD 0

/-- The buffer with this history stays when it is given back to so many idle ones: it never was
longer than allowed, and there is room. -/
def IsKept (history : BufferHistory) (idle : Nat) : Prop :=
  history.greatest ≤ 2 ^ 20 ∧ idle < 64

instance (history : BufferHistory) (idle : Nat) : Decidable (history.IsKept idle) :=
  inferInstanceAs (Decidable (_ ∧ _))

/-- A buffer that was too long once is not kept, though it was cleared and used again. -/
example : ¬ IsKept [5, 0, 2 ^ 20 + 1, 0] 0 := by decide

/-- The number of idle buffers after a buffer is given back, if there is one to give back. -/
def idleAfter (returned : Option BufferHistory) (idle : Nat) : Nat :=
  match returned with
  | none => idle
  | some history => if history.IsKept idle then idle + 1 else idle

@[simp] theorem greatest_nil : greatest [] = 0 := rfl

@[simp] theorem greatest_cons (length : Nat) (history : BufferHistory) :
    greatest (length :: history) = max length (greatest history) := rfl

@[simp] theorem now_cons (length : Nat) (history : BufferHistory) :
    now (length :: history) = length := rfl

end BufferHistory

/-- The histories of the buffers that are idle, the one given back last at the head, and of those
that are out, by name. -/
structure BufferAccount where
  idle : List BufferHistory
  out : List (String × BufferHistory)
deriving Repr, DecidableEq

namespace BufferAccount

/-- No buffer was made yet. -/
def empty : BufferAccount := ⟨[], []⟩

/-- The history of the buffer that is out under a name. -/
def find? (account : BufferAccount) (name : String) : Option BufferHistory :=
  account.out.lookup name

/-- The histories of the buffers that are out under other names. -/
def others (account : BufferAccount) (name : String) : List (String × BufferHistory) :=
  account.out.filter fun entry => entry.1 ≠ name

/-- A buffer that is taken has length zero: the one given back last, or a new one. -/
def take (account : BufferAccount) : BufferHistory × BufferAccount :=
  match account.idle with
  | [] => ([0], account)
  | history :: rest => (0 :: history, { account with idle := rest })

/-- The buffer of a name comes back, and stays or is gone. -/
def release (account : BufferAccount) (name : String) : BufferAccount :=
  match account.find? name with
  | none => account
  | some history =>
      ⟨if history.IsKept account.idle.length then history :: account.idle else account.idle,
        account.others name⟩

/-- Follows one use of buffers. -/
def step (account : BufferAccount) : BufferUse → BufferAccount
  | .checkout name =>
      let (history, taken) := account.take
      let released := taken.release name
      { released with out := (name, history) :: released.out }
  | .write name bytes =>
      match account.find? name with
      | none => account
      | some history =>
          { account with
            out := (name, (history.now + bytes.length) :: history) :: account.others name }
  | .giveBack name => account.release name

/-- Follows uses of buffers. -/
def run (account : BufferAccount) (uses : List BufferUse) : BufferAccount :=
  uses.foldl step account

theorem find?_take (account : BufferAccount) (name : String) :
    account.take.2.find? name = account.find? name := by
  unfold take
  split <;> rfl

end BufferAccount

/-! ## The limits of a pool -/

theorem BufferPool.idle_checkout (pool : BufferPool) :
    pool.checkout.2.idle = pool.idle - 1 := by
  rcases pool with ⟨_ | ⟨buffer, rest⟩⟩ <;> rfl

/-- A pool keeps no more than 64 buffers, and none that can hold more than 2^20 bytes. -/
structure BufferPool.WithinLimits (pool : BufferPool) : Prop where
  few : pool.idle ≤ 64
  small : ∀ buffer ∈ pool.stack, buffer.capacity ≤ 2 ^ 20

namespace BufferPool.WithinLimits

variable {pool : BufferPool}

theorem empty : BufferPool.empty.WithinLimits :=
  ⟨Nat.zero_le _, fun _ absent => nomatch absent⟩

theorem checkout (limits : pool.WithinLimits) : pool.checkout.2.WithinLimits := by
  rcases pool with ⟨_ | ⟨buffer, rest⟩⟩
  · exact limits
  · exact ⟨Nat.le_of_succ_le limits.few,
      fun kept known => limits.small kept (List.mem_cons_of_mem _ known)⟩

theorem giveBack (limits : pool.WithinLimits) (buffer : Buffer) :
    (pool.giveBack buffer).WithinLimits := by
  unfold BufferPool.giveBack
  split
  case isTrue tooLarge => exact limits
  case isFalse fits =>
    split
    case isTrue room =>
      refine ⟨room, fun kept known => ?_⟩
      rcases List.mem_cons.mp known with rfl | before
      · exact Nat.not_lt.mp fits
      · exact limits.small kept before
    case isFalse full => exact limits

end BufferPool.WithinLimits

/-! ## The pool and its account -/

/-- An account tells of the buffers that are out: how much each can hold and how long it is. -/
def BufferAccount.Tells (out : List (String × BufferHistory)) (leased : List (String × Buffer)) :
    Prop :=
  ∀ name, (leased.lookup name).map (fun buffer => (buffer.capacity, buffer.bytes.length)) =
    (out.lookup name).map fun history => (history.greatest, history.now)

namespace BufferAccount.Tells

variable {out : List (String × BufferHistory)} {leased : List (String × Buffer)}

theorem others (tells : Tells out leased) (name : String) :
    Tells (out.filter fun entry => entry.1 ≠ name)
      (leased.filter fun lease => lease.1 ≠ name) := by
  intro other
  rw [lookup_filter_ne, lookup_filter_ne]
  split
  · rfl
  · exact tells other

theorem cons {history : BufferHistory} {buffer : Buffer} (tells : Tells out leased) (name : String)
    (holds : buffer.capacity = history.greatest) (long : buffer.bytes.length = history.now) :
    Tells ((name, history) :: out) ((name, buffer) :: leased) := by
  intro other
  rw [List.lookup_cons, List.lookup_cons]
  split
  · rw [Option.map_some, Option.map_some, holds, long]
  · exact tells other

end BufferAccount.Tells

namespace BufferLeases

variable {leases : BufferLeases} {account : BufferAccount} {name : String}

/-- The account tells the pool, which is within its limits, and what is out. -/
structure KeptBy (leases : BufferLeases) (account : BufferAccount) : Prop where
  limits : leases.pool.WithinLimits
  idle : leases.pool.stack.map Buffer.capacity = account.idle.map BufferHistory.greatest
  out : BufferAccount.Tells account.out leases.leased

namespace KeptBy

theorem empty : BufferLeases.empty.KeptBy .empty :=
  ⟨.empty, rfl, fun _ => rfl⟩

theorem idle_eq_length (kept : leases.KeptBy account) :
    leases.pool.idle = account.idle.length := by
  simpa [BufferPool.idle] using congrArg List.length kept.idle

theorem find?_eq_none (kept : leases.KeptBy account) (free : account.find? name = none) :
    leases.find? name = none := by
  have told := kept.out name
  rwa [← BufferAccount.find?, free, Option.map_none, Option.map_eq_none_iff] at told

theorem exists_buffer {history : BufferHistory} (kept : leases.KeptBy account)
    (out : account.find? name = some history) :
    ∃ buffer, leases.find? name = some buffer ∧ buffer.capacity = history.greatest ∧
      buffer.bytes.length = history.now := by
  have told := kept.out name
  rw [← BufferAccount.find?, out, Option.map_some, Option.map_eq_some_iff] at told
  obtain ⟨buffer, there, same⟩ := told
  obtain ⟨holds, long⟩ := Prod.mk.inj same
  exact ⟨buffer, there, holds, long⟩

/-- A buffer comes back to the pool just when its history stays in the account. -/
theorem idle_giveBack {history : BufferHistory} {buffer : Buffer} (kept : leases.KeptBy account)
    (holds : buffer.capacity = history.greatest) :
    (leases.pool.giveBack buffer).stack.map Buffer.capacity =
      List.map BufferHistory.greatest (if history.IsKept account.idle.length then
        history :: account.idle else account.idle) := by
  have count := kept.idle_eq_length
  unfold BufferPool.giveBack
  split
  case isTrue tooLarge =>
    rw [if_neg fun stays => Nat.not_le_of_gt tooLarge (holds ▸ stays.1), kept.idle]
  case isFalse fits =>
    split
    case isTrue room =>
      have stays : history.IsKept account.idle.length :=
        ⟨holds ▸ Nat.not_lt.mp fits, count ▸ room⟩
      rw [if_pos stays, List.map_cons, List.map_cons, holds, kept.idle]
    case isFalse full =>
      rw [if_neg fun stays => full (count ▸ stays.2), kept.idle]

theorem release (kept : leases.KeptBy account) (name : String) :
    (leases.release name).KeptBy (account.release name) := by
  cases out : account.find? name with
  | none =>
      have free := kept.find?_eq_none out
      simpa only [BufferLeases.release, BufferAccount.release, out, free] using kept
  | some history =>
      obtain ⟨buffer, there, holds, -⟩ := kept.exists_buffer out
      simp only [BufferLeases.release, BufferAccount.release, out, there]
      exact ⟨kept.limits.giveBack buffer, kept.idle_giveBack holds, kept.out.others name⟩

theorem idle_release (kept : leases.KeptBy account) (name : String) :
    (leases.release name).pool.idle =
      BufferHistory.idleAfter (account.find? name) leases.pool.idle := by
  rw [(kept.release name).idle_eq_length, kept.idle_eq_length, BufferAccount.release]
  cases account.find? name with
  | none => rfl
  | some history => exact apply_ite List.length _ _ _

/-- The buffer that is taken is the one that the account takes, and the rest is told as before. -/
theorem take (kept : leases.KeptBy account) :
    leases.pool.checkout.1.capacity = account.take.1.greatest ∧
      leases.pool.checkout.1.bytes.length = account.take.1.now ∧
      BufferLeases.KeptBy { leases with pool := leases.pool.checkout.2 } account.take.2 := by
  obtain ⟨limits, idle, out⟩ := kept
  rcases leases with ⟨⟨_ | ⟨buffer, rest⟩⟩, leased⟩ <;>
    rcases account with ⟨_ | ⟨history, later⟩, told⟩
  case nil.nil => exact ⟨rfl, rfl, limits, idle, out⟩
  case nil.cons => cases idle
  case cons.nil => cases idle
  case cons.cons =>
    obtain ⟨first, others⟩ := List.cons.inj idle
    exact ⟨by simpa [BufferPool.checkout, BufferAccount.take] using first, rfl,
      limits.checkout, others, out⟩

theorem checkout (kept : leases.KeptBy account) (name : String) :
    (leases.step (.checkout name)).KeptBy (account.step (.checkout name)) := by
  obtain ⟨holds, isEmpty, rest⟩ := kept.take
  obtain ⟨limits, idle, out⟩ := rest.release name
  exact ⟨limits, idle, out.cons name holds isEmpty⟩

theorem write (kept : leases.KeptBy account) (name : String) (bytes : Bytes) :
    (leases.step (.write name bytes)).KeptBy (account.step (.write name bytes)) := by
  cases out : account.find? name with
  | none =>
      have free := kept.find?_eq_none out
      simpa only [step, BufferAccount.step, out, free] using kept
  | some history =>
      obtain ⟨buffer, there, holds, long⟩ := kept.exists_buffer out
      simp only [step, BufferAccount.step, out, there]
      refine ⟨kept.limits, kept.idle, (kept.out.others name).cons name ?_ ?_⟩
      · simp [Buffer.write, holds, long, Nat.max_comm]
      · simp [long]

/-- One use is told by the account. -/
theorem step (kept : leases.KeptBy account) (use : BufferUse) :
    (leases.step use).KeptBy (account.step use) := by
  cases use with
  | checkout name => exact kept.checkout name
  | write name bytes => exact kept.write name bytes
  | giveBack name => exact kept.release name

theorem run (kept : leases.KeptBy account) (uses : List BufferUse) :
    (leases.run uses).KeptBy (account.run uses) := by
  induction uses generalizing leases account with
  | nil => exact kept
  | cons use rest hyp => exact hyp (kept.step use)

theorem idle_checkout (kept : leases.KeptBy account) (name : String) :
    (leases.step (.checkout name)).pool.idle =
      BufferHistory.idleAfter (account.find? name) (leases.pool.idle - 1) := by
  obtain ⟨-, -, rest⟩ := kept.take
  exact (rest.idle_release name).trans (by rw [account.find?_take, leases.pool.idle_checkout])

end KeptBy

/-- Whatever buffers were taken, written to and given back: the pool is within its limits, the idle
buffers and those that are out can hold the greatest length that they ever had, and a taken buffer
is empty.  A buffer that is taken is one idle buffer less, if there was any; one that is given back
is one more just if its history and the room in the pool allow it; and writing leaves the pool as it
is.  A name that is taken again gives its old buffer back after the new one is out. -/
theorem pool_follows_histories (uses : List BufferUse) :
    let leases := empty.run uses
    let account := BufferAccount.empty.run uses
    leases.pool.WithinLimits ∧
      leases.pool.stack.map Buffer.capacity = account.idle.map BufferHistory.greatest ∧
      ∀ name,
        (leases.find? name).map Buffer.capacity =
            (account.find? name).map BufferHistory.greatest ∧
          ((leases.step (.checkout name)).find? name).map Buffer.bytes = some [] ∧
          (leases.step (.checkout name)).pool.idle =
            BufferHistory.idleAfter (account.find? name) (leases.pool.idle - 1) ∧
          (leases.step (.giveBack name)).pool.idle =
            BufferHistory.idleAfter (account.find? name) leases.pool.idle ∧
          ∀ bytes, (leases.step (.write name bytes)).pool = leases.pool := by
  have kept := KeptBy.empty.run uses
  refine ⟨kept.limits, kept.idle, fun name => ⟨?capacity, find?_checkout _ name,
    kept.idle_checkout name, kept.idle_release name, ?pool⟩⟩
  case capacity =>
    have told := congrArg (Option.map Prod.fst) (kept.out name)
    rwa [Option.map_map, Option.map_map] at told
  case pool =>
    intro bytes
    simp only [step]
    split <;> rfl

end BufferLeases

end PeerCache
