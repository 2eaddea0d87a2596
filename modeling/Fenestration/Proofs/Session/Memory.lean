import Fenestration.Json.Number
import Fenestration.Pricing
import Mathlib.Data.List.GetD

/-!
# Tables in memory

A table can be written to in place, and then everybody who refers to it sees the change.  A pricing
in memory refers to its tables by views.  It keeps what it is worth as long as its views are
read-only and no table of its own is the caller's (`HeldPricing.IsKept`); a pricing that is built
over copies is such a one.
-/

namespace Fenestration

open Json (Fields)

/-! ## Memory -/

/-- The tables that exist, by address. -/
abbrev Memory := List Fields

namespace Memory

def cell (memory : Memory) (address : Nat) : Fields :=
  memory.getD address []

theorem cell_append {memory : Memory} {address : Nat} (h : address < memory.length)
    (more : Memory) : cell (memory ++ more) address = memory.cell address := by
  unfold cell
  rw [List.getD_append _ _ _ _ h]

theorem cell_append_length (memory more : Memory) (offset : Nat) :
    cell (memory ++ more) (memory.length + offset) = more.cell offset := by
  unfold cell
  rw [List.getD_append_right _ _ _ _ (Nat.le_add_right _ _), Nat.add_sub_cancel_left]

theorem cell_set_of_ne {address other : Nat} (h : address ≠ other) (memory : Memory)
    (fields : Fields) : cell (memory.set other fields) address = memory.cell address := by
  unfold cell
  rw [List.getD_eq_getElem?_getD, List.getElem?_set_ne h.symm, List.getD_eq_getElem?_getD]

theorem cell_set_self {memory : Memory} {address : Nat} (h : address < memory.length)
    (fields : Fields) : cell (memory.set address fields) address = fields := by
  unfold cell
  rw [List.getD_eq_getElem?_getD, List.getElem?_set_self h, Option.getD_some]

end Memory

/-! ## Pricings in memory -/

/-- A table as a pricing holds it: where it lies, and whether it may be written to from there. -/
structure View where
  address : Nat
  readOnly : Bool

/-- A pricing in memory.  Its tables are those that the views show; the tables among its figures
count for nothing. -/
structure HeldPricing where
  figures : Pricing Binary64
  glazingFactors : View
  hardwareCosts : View
  frozen : Bool

-- How amounts are written into a table, and how they are read from one.
def cellOf (table : Table Binary64) : Fields :=
  table.map fun (key, x) => (key, .real x)

def amountsOf (fields : Fields) : Table Binary64 :=
  fields.filterMap fun (key, value) => value.figure.toOption.map fun x => (key, x)

theorem amountsOf_cellOf (table : Table Binary64) : amountsOf (cellOf table) = table := by
  unfold amountsOf cellOf
  rw [List.filterMap_map]
  exact List.filterMap_some

-- The tables of a pricing, as they are laid down in memory.
def Pricing.cells (pricing : Pricing Binary64) : Memory :=
  [cellOf pricing.glazingFactors, cellOf pricing.hardwareCosts]

namespace HeldPricing

/-- What a pricing in memory is worth now. -/
def read (held : HeldPricing) (memory : Memory) : Pricing Binary64 :=
  { held.figures with
    glazingFactors := amountsOf (memory.cell held.glazingFactors.address)
    hardwareCosts := amountsOf (memory.cell held.hardwareCosts.address) }

-- A pricing as it is built: frozen, over read-only copies of its tables, from the address on.
def build (pricing : Pricing Binary64) (address : Nat) : HeldPricing where
  figures := pricing
  glazingFactors := ⟨address, true⟩
  hardwareCosts := ⟨address + 1, true⟩
  frozen := true

end HeldPricing

/-! ## What nobody else can write to -/

/-- A table that is written to neither from the view nor as the caller's table at `source`. -/
structure View.IsPrivate (view : View) (memory : Memory) (source : Nat) : Prop where
  readOnly : view.readOnly = true
  allocated : view.address < memory.length
  ne_source : view.address ≠ source

-- A frozen pricing over private tables.
structure HeldPricing.IsKept (held : HeldPricing) (memory : Memory) (source : Nat) : Prop where
  frozen : held.frozen = true
  glazingFactors : held.glazingFactors.IsPrivate memory source
  hardwareCosts : held.hardwareCosts.IsPrivate memory source

namespace View.IsPrivate

variable {view : View} {memory : Memory} {source : Nat} (h : view.IsPrivate memory source)
include h

theorem append (more : Memory) : view.IsPrivate (memory ++ more) source where
  readOnly := h.readOnly
  allocated := by
    rw [List.length_append]
    exact Nat.lt_add_right _ h.allocated
  ne_source := h.ne_source

-- The caller's table is a new one.
theorem append_source (more : Memory) : view.IsPrivate (memory ++ more) memory.length where
  readOnly := h.readOnly
  allocated := (h.append more).allocated
  ne_source := Nat.ne_of_lt h.allocated

theorem set (fields : Fields) : view.IsPrivate (memory.set source fields) source where
  readOnly := h.readOnly
  allocated := by
    rw [List.length_set]
    exact h.allocated
  ne_source := h.ne_source

end View.IsPrivate

namespace HeldPricing

section Kept

variable {held : HeldPricing} {memory : Memory} {source : Nat} (h : held.IsKept memory source)
include h

theorem IsKept.append (more : Memory) : held.IsKept (memory ++ more) source :=
  ⟨h.frozen, h.glazingFactors.append more, h.hardwareCosts.append more⟩

theorem IsKept.append_source (more : Memory) : held.IsKept (memory ++ more) memory.length :=
  ⟨h.frozen, h.glazingFactors.append_source more, h.hardwareCosts.append_source more⟩

theorem IsKept.set (fields : Fields) : held.IsKept (memory.set source fields) source :=
  ⟨h.frozen, h.glazingFactors.set fields, h.hardwareCosts.set fields⟩

theorem IsKept.read_append (more : Memory) : held.read (memory ++ more) = held.read memory := by
  unfold read
  rw [Memory.cell_append h.glazingFactors.allocated, Memory.cell_append h.hardwareCosts.allocated]

theorem IsKept.read_set (fields : Fields) :
    held.read (memory.set source fields) = held.read memory := by
  unfold read
  rw [Memory.cell_set_of_ne h.glazingFactors.ne_source,
    Memory.cell_set_of_ne h.hardwareCosts.ne_source]

end Kept

theorem isKept_build (pricing : Pricing Binary64) (memory : Memory) {source : Nat}
    (h : source < memory.length) :
    (build pricing memory.length).IsKept (memory ++ pricing.cells) source := by
  have hlength : (memory ++ pricing.cells).length = memory.length + 2 := List.length_append
  refine ⟨rfl, ⟨rfl, ?_, Nat.ne_of_gt h⟩, ⟨rfl, ?_, ?_⟩⟩
  · rw [hlength]
    exact Nat.lt_add_of_pos_right Nat.zero_lt_two
  · rw [hlength]
    exact Nat.lt_succ_self _
  · exact Nat.ne_of_gt (Nat.lt_succ_of_lt h)

theorem read_build (pricing : Pricing Binary64) (memory : Memory) :
    (build pricing memory.length).read (memory ++ pricing.cells) = pricing := by
  have hglazing : Memory.cell (memory ++ pricing.cells) memory.length =
      cellOf pricing.glazingFactors := Memory.cell_append_length memory pricing.cells 0
  have hhardware : Memory.cell (memory ++ pricing.cells) (memory.length + 1) =
      cellOf pricing.hardwareCosts := Memory.cell_append_length memory pricing.cells 1
  unfold read build
  rw [hglazing, hhardware, amountsOf_cellOf, amountsOf_cellOf]

end HeldPricing

end Fenestration
