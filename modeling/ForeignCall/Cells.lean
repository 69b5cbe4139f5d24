import ForeignCall.Value

/-!
# Pointer slots

A pointer slot is a cell of native memory in which native code leaves a pointer. Its address goes to
native code as a handle, and what was left there is read back as an optional handle.

* `Cells.handle` is the handle to pass for a slot.
* `Cells.read` after `Cells.store`, `Cells.clear` and `Cells.create` sees the last of them, and no
  other slot is changed.
-/

namespace ForeignCall

/-- Pointer-sized cells by their addresses; the newest entry of an address counts. -/
structure Cells where
  entries : List (UInt64 × UInt64)
deriving DecidableEq, Repr

namespace Cells

def empty : Cells := ⟨[]⟩

def has (c : Cells) (address : UInt64) : Bool := c.entries.any (·.1 == address)

def word (c : Cells) (address : UInt64) : UInt64 :=
  ((c.entries.find? (·.1 == address)).map (·.2)).getD 0

/-- Sets the word in a cell. -/
def store (c : Cells) (address word : UInt64) : Cells :=
  ⟨(address, word) :: c.entries.filter (·.1 != address)⟩

def create (c : Cells) (address : UInt64) : Cells := c.store address 0

/-- A cleared slot holds null. -/
def clear (c : Cells) (address : UInt64) : Cells := c.store address 0

/-- A slot as an argument. No slot lies at address zero, so what stands in for zero is never used.
-/
def handle (address : UInt64) : Handle :=
  (Handle.ofNumber? address).getD (.address 1 (by decide))

/-- What a slot holds. -/
def read (c : Cells) (address : UInt64) : Option Handle := Handle.ofNumber? (c.word address)

@[simp]
theorem word_store_self (c : Cells) (a w : UInt64) : (c.store a w).word a = w := by
  simp [store, word]

/-- Storing into one cell leaves the others alone. -/
theorem word_store_of_ne (c : Cells) {a b : UInt64} (w : UInt64) (h : a ≠ b) :
    (c.store a w).word b = c.word b := by
  have hfind : ∀ l : List (UInt64 × UInt64),
      (l.filter (·.1 != a)).find? (·.1 == b) = l.find? (·.1 == b) := by
    intro l
    induction l with
    | nil => rfl
    | cons e rest ih =>
      by_cases ha : e.1 = a
      · have hb : ¬ e.1 = b := fun hb => h (ha.symm.trans hb)
        simp [ha, ih, ha ▸ hb]
      · simp only [List.filter_cons, bne_iff_ne, ne_eq, ha, not_false_eq_true, if_true,
          List.find?_cons, ih]
  simp [store, word, h, hfind]

end Cells

/-- A slot as a log shows it; its own address is given as text. -/
def slotLogText (address : Text) (held : Option Handle) : Text :=
  let held : Text := match held with
    | none => "None"
    | some h => "Some(".toList ++ h.logText ++ ")"
  "PointerSlot \x7b at: ".toList ++ address ++ ", value: " ++ held ++ " \x7d"

end ForeignCall
