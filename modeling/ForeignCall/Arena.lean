import ForeignCall.Error
import ForeignCall.Text.Utf8

/-!
# Call arenas

While native code runs, the texts passed to it lie in buffers that end with a zero byte. The buffers
of a call belong to its arena and are released with it; a pool counts the buffers alive over all
arenas.

* `Frame.allocate` copies a text into the arena, or says where its first zero byte is.
* `Frame.release` gives the pool back with the buffers of the arena taken off.
-/

namespace ForeignCall

/-- The buffers of all arenas: how many were ever made, and how many are alive. -/
structure Pool where
  issued : Nat
  live : Nat
deriving DecidableEq, Repr

def Pool.empty : Pool := ⟨0, 0⟩

/-- The bytes of a text and the zero byte that ends them. -/
structure Buffer where
  serial : Nat
  bytes : Bytes
deriving DecidableEq, Repr

/-- The buffers of one call, oldest first. -/
structure Arena where
  buffers : List Buffer
deriving DecidableEq, Repr

namespace Arena

def empty : Arena := ⟨[]⟩

def size (a : Arena) : Nat := a.buffers.length

/-- How many bytes the buffers take, the zero bytes included. -/
def allocatedBytes (a : Arena) : Nat :=
  a.buffers.foldl (fun n b => n + b.bytes.length) 0

/-- The bytes of the buffer with this serial number. -/
def bytes? (a : Arena) (serial : Nat) : Option Bytes :=
  (a.buffers.find? (·.serial = serial)).map Buffer.bytes

end Arena

/-- The arena of a call under way, and the pool it takes its buffers from. -/
structure Frame where
  arena : Arena
  pool : Pool
deriving DecidableEq, Repr

namespace Frame

/-- A new arena over a pool. -/
def start (pool : Pool) : Frame := ⟨Arena.empty, pool⟩

/-- Copies a text into a new buffer. A text with a zero byte is refused, with the offset of the
first one, and nothing changes. -/
def allocate (t : Text) (f : Frame) : Except BindError Pointer × Frame :=
  let bytes := Utf8.encode t
  match bytes.findIdx? (· == 0) with
  | some offset => (.error (.interiorNul offset), f)
  | none =>
    let serial := f.pool.issued
    (.ok (some (.buffer serial)),
      { arena := ⟨f.arena.buffers ++ [⟨serial, bytes ++ [0]⟩]⟩
        pool := ⟨serial + 1, f.pool.live + 1⟩ })

/-- The pool after the arena is dropped. -/
def release (f : Frame) : Pool := { f.pool with live := f.pool.live - f.arena.size }

end Frame
end ForeignCall
