import SharedMemory.Text.Decimal
/-!
# Memory layouts

The page size, to which allocations are rounded up, and the granularity, at whose multiples
mappings start. Both are powers of two that fit a 64-bit word, and a page is never larger than
the granularity, so a layout is kept as the two exponents.
-/
namespace SharedMemory

structure Layout where
  pageBits : Fin 64
  granularityBits : Fin 64
  page_le : pageBits ≤ granularityBits
  deriving DecidableEq

inductive LayoutError where
  | invalidPageSize (page : Nat)
  | invalidGranularity (granularity : Nat)
  | granularityBelowPageSize (page granularity : Nat)
  deriving DecidableEq, Repr

def LayoutError.message : LayoutError → String
  | .invalidPageSize page => "page size " ++ Decimal.text page ++ " is not a power of two"
  | .invalidGranularity granularity =>
    "allocation granularity " ++ Decimal.text granularity ++ " is not a power of two"
  | .granularityBelowPageSize page granularity =>
    "allocation granularity " ++ Decimal.text granularity ++
      " is smaller than the page size " ++ Decimal.text page

namespace Layout

/-- The exponent of a power of two that fits a 64-bit word. -/
def exponent? (n : Nat) : Option (Fin 64) :=
  if h : n.log2 < 64 then
    if n = 1 <<< n.log2 then some ⟨n.log2, h⟩ else none
  else none

/-- The layout with a given page size and granularity. The page size is looked at first. -/
def ofSizes (page granularity : Nat) : Except LayoutError Layout :=
  match exponent? page with
  | none => .error (.invalidPageSize page)
  | some p =>
    match exponent? granularity with
    | none => .error (.invalidGranularity granularity)
    | some g =>
      if h : p ≤ g then .ok ⟨p, g, h⟩
      else .error (.granularityBelowPageSize page granularity)

/-- Most hosts have pages of four KiB. -/
def fourKiB : Fin 64 := ⟨12, by decide⟩

/-- The layout of a host, where a mapping may start at each page. -/
def host (pageBits : Fin 64 := fourKiB) : Layout := ⟨pageBits, pageBits, Fin.le_refl _⟩

instance : Inhabited Layout := ⟨host⟩

def page (l : Layout) : Nat := 1 <<< l.pageBits.val

def granularity (l : Layout) : Nat := 1 <<< l.granularityBits.val

/-- Rounds up to a whole number of pages, if adding the rest of a page still is a 64-bit word. -/
def roundUp? (l : Layout) (n : Nat) : Option Nat :=
  if n + (l.page - 1) < UInt64.size then some ((n + (l.page - 1)) / l.page * l.page) else none

/-- Rounds down to a multiple of the granularity. -/
def alignDown (l : Layout) (n : Nat) : Nat := n / l.granularity * l.granularity

theorem page_pos (l : Layout) : 0 < l.page := by
  rw [page, Nat.one_shiftLeft]
  exact Nat.two_pow_pos _

theorem granularity_pos (l : Layout) : 0 < l.granularity := by
  rw [granularity, Nat.one_shiftLeft]
  exact Nat.two_pow_pos _

theorem alignDown_le (l : Layout) (n : Nat) : l.alignDown n ≤ n := Nat.div_mul_le_self _ _

@[simp] theorem alignDown_zero (l : Layout) : l.alignDown 0 = 0 := Nat.le_zero.mp (l.alignDown_le 0)

end Layout

end SharedMemory
