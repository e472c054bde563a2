import SharedMemory.Text.Hex
import SharedMemory.Text.Places
/-!
# Region identifiers

A 128-bit number that travels with a region, written as 32 lower-case hexadecimal digits in
groups of 8, 4, 4, 4 and 12. The reader also takes the digits without hyphens, and the hyphenated
form in braces or after the resource name of its kind. In memory an identifier is sixteen bytes,
the most significant first, and these give identifiers their order.
-/
namespace SharedMemory

structure Guid where
  number : BitVec 128
  deriving DecidableEq

namespace Guid

/-- The identifier of a region that holds nothing. -/
def nil : Guid := ⟨0#128⟩

instance : Inhabited Guid := ⟨nil⟩

def ofNat (n : Nat) : Guid := ⟨BitVec.ofNat 128 n⟩

/-- An identifier of version 4: random bits but for the version digit and the two bits that name
the variant. -/
def ofRandom (bits : BitVec 128) : Guid :=
  ⟨(bits &&& ~~~0xF000C000000000000000#128) ||| 0x40008000000000000000#128⟩

/-- Inserts hyphens between the groups of a run of 32 digits. -/
def hyphenate (ds : List Char) : List Char :=
  ds.take 8 ++ '-' :: (ds.drop 8).take 4 ++ '-' :: (ds.drop 12).take 4 ++
    '-' :: (ds.drop 16).take 4 ++ '-' :: ds.drop 20

/-- The 32 digits without hyphens. -/
def digits (g : Guid) : List Char := Hex.fixed 32 g.number.toNat

/-- The hyphenated form. -/
def chars (g : Guid) : List Char := hyphenate g.digits

def text (g : Guid) : String := String.ofList g.chars

/-- The version digit, the first of the third group. -/
def version (g : Guid) : Nat := (g.number.extractLsb' 76 4).toNat

/-- The sixteen bytes of the number, most significant first. -/
def bytes (g : Guid) : List UInt8 := places 256 UInt8.ofNat 16 g.number.toNat

/-- The first byte in which two identifiers differ decides. -/
def compare (a b : Guid) : Ordering := Ord.compare a.bytes b.bytes

def sort (gs : List Guid) : List Guid := gs.mergeSort fun a b => (a.compare b).isLE

/-- The distinct ones of some identifiers, in order. -/
def sorted (gs : List Guid) : List Guid := sort gs.eraseDups

/-- The number that exactly 32 digits denote. -/
def ofDigits? (ds : List Char) : Option Guid :=
  if ds.length = 32 then (Hex.value? ds).map ofNat else none

/-- Takes the hyphens out of a text of 36 characters that has them in their four places. -/
def dehyphenate? (cs : List Char) : Option (List Char) :=
  if cs.length = 36 ∧ cs[8]? = some '-' ∧ cs[13]? = some '-' ∧ cs[18]? = some '-' ∧
      cs[23]? = some '-' then
    some (cs.take 8 ++ (cs.drop 9).take 4 ++ (cs.drop 14).take 4 ++ (cs.drop 19).take 4 ++
      cs.drop 24)
  else none

def ofHyphenated? (cs : List Char) : Option Guid := (dehyphenate? cs).bind ofDigits?

/-- The resource name that may stand before the hyphenated form, in any case. -/
def resourceName : List Char := "urn:uuid:".toList

/-- Reads each of the accepted forms. -/
def read? (cs : List Char) : Option Guid :=
  if cs.length = 32 then ofDigits? cs
  else if cs.length = 36 then ofHyphenated? cs
  else if cs.length = 38 ∧ cs.head? = some '{' ∧ cs.getLast? = some '}' then
    ofHyphenated? (cs.drop 1).dropLast
  else if cs.length = 45 ∧ (cs.take 9).map Char.toLower = resourceName then
    ofHyphenated? (cs.drop 9)
  else none

/-- Reads one to 32 digits without hyphens. -/
def ofShortDigits? (ds : List Char) : Option Guid :=
  if 0 < ds.length ∧ ds.length ≤ 32 then (Hex.value? ds).map ofNat else none

end Guid

end SharedMemory
