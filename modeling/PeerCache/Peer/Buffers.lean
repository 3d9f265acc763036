/-
Module: PeerCache.Peer.Buffers
Purpose: Reusable byte buffers for the bodies of peers' answers.
Main exports:
  Buffer, BufferPool, BufferPool.checkout, BufferPool.giveBack,
  BufferLeases, BufferLeases.step
-/
import PeerCache.Bytes

/-!
A buffer grows as bytes are written to it and never shrinks: clearing it keeps its
capacity, which is the greatest length it ever had.  A pool keeps buffers that are not
in use, as a stack.  Taking one clears it; giving one back keeps it, unless it has grown
past `maxCapacity` or the pool already keeps `maxIdle` of them.

`BufferLeases` follows a pool together with the buffers that are out, by name.
-/

namespace PeerCache

/-- A byte buffer: what was written to it, and how much it can hold without growing. -/
structure Buffer where
  bytes : Bytes
  capacity : Nat
deriving Repr, DecidableEq, Inhabited

namespace Buffer

/-- A buffer that was never written to. -/
def new : Buffer := ⟨[], 0⟩

/-- The same buffer without its bytes. -/
def clear (buffer : Buffer) : Buffer :=
  { buffer with bytes := [] }

/-- Writes bytes at the end, growing exactly as far as needed. -/
def write (buffer : Buffer) (bytes : Bytes) : Buffer :=
  ⟨buffer.bytes ++ bytes, max buffer.capacity (buffer.bytes ++ bytes).length⟩

@[simp] theorem clear_bytes (buffer : Buffer) : buffer.clear.bytes = [] := rfl

@[simp] theorem clear_capacity (buffer : Buffer) : buffer.clear.capacity = buffer.capacity := rfl

@[simp] theorem write_bytes (buffer : Buffer) (bytes : Bytes) :
    (buffer.write bytes).bytes = buffer.bytes ++ bytes := rfl

end Buffer

/-- Buffers that are not in use, the one given back last at the head. -/
structure BufferPool where
  stack : List Buffer
deriving Repr, DecidableEq, Inhabited

namespace BufferPool

/-- A buffer that can hold more than this is not kept. -/
def maxCapacity : Nat := 1048576

/-- No more buffers than this are kept. -/
def maxIdle : Nat := 64

/-- The pool that keeps no buffer. -/
def empty : BufferPool := ⟨[]⟩

/-- The number of buffers that are not in use. -/
def idle (pool : BufferPool) : Nat :=
  pool.stack.length

/-- Takes an empty buffer: the one given back last, or a new one. -/
def checkout (pool : BufferPool) : Buffer × BufferPool :=
  match pool.stack with
  | [] => (.new, pool)
  | buffer :: rest => (buffer.clear, ⟨rest⟩)

/-- Gives a buffer back. -/
def giveBack (pool : BufferPool) (buffer : Buffer) : BufferPool :=
  if maxCapacity < buffer.capacity then pool
  else if pool.idle < maxIdle then ⟨buffer :: pool.stack⟩
  else pool

/-- A buffer that was taken is empty. -/
@[simp] theorem checkout_bytes (pool : BufferPool) : pool.checkout.1.bytes = [] := by
  unfold checkout
  split <;> rfl

end BufferPool

/-- A use of buffers. -/
inductive BufferUse where
  /-- Takes a buffer under a name; one that already has the name is given back. -/
  | checkout (name : String)
  /-- Writes bytes to the buffer of that name. -/
  | write (name : String) (bytes : Bytes)
  /-- Gives the buffer of that name back. -/
  | giveBack (name : String)
deriving Repr, DecidableEq

/-- A pool and the buffers that are out, by name. -/
structure BufferLeases where
  pool : BufferPool
  leased : List (String × Buffer)
deriving Repr, DecidableEq, Inhabited

namespace BufferLeases

/-- An empty pool with no buffer out. -/
def empty : BufferLeases := ⟨.empty, []⟩

/-- The buffer that is out under a name. -/
def find? (leases : BufferLeases) (name : String) : Option Buffer :=
  leases.leased.lookup name

/-- The buffers that are out under other names. -/
def others (leases : BufferLeases) (name : String) : List (String × Buffer) :=
  leases.leased.filter fun lease => lease.1 ≠ name

/-- Gives the buffer of a name back, if there is one. -/
def release (leases : BufferLeases) (name : String) : BufferLeases :=
  match leases.find? name with
  | none => leases
  | some buffer => ⟨leases.pool.giveBack buffer, leases.others name⟩

/-- Follows one use of buffers. -/
def step (leases : BufferLeases) : BufferUse → BufferLeases
  | .checkout name =>
      let (buffer, pool) := leases.pool.checkout
      let released := release { leases with pool } name
      { released with leased := (name, buffer) :: released.leased }
  | .write name bytes =>
      match leases.find? name with
      | none => leases
      | some buffer => { leases with leased := (name, buffer.write bytes) :: leases.others name }
  | .giveBack name => leases.release name

end BufferLeases

end PeerCache
