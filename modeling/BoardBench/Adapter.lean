import BoardBench.Json.Basic
import BoardBench.Text.Numeral

/-!
# Serial adapters

The adapters that a board may be attached to, and how they are shown.
-/

namespace BoardBench

/-- A serial adapter, with what it tells of itself if it is a USB device. -/
structure Adapter where
  /-- Its device file. -/
  name : String
  vendorId : Option Nat := none
  productId : Option Nat := none
  manufacturer : Option String := none
  product : Option String := none
  serial : Option String := none
  deriving DecidableEq, Repr

namespace Adapter

/-- Four hexadecimal digits in upper case. -/
def idText (n : Nat) : String :=
  Text.padZeros 4 (String.ofList ((Text.hex n).toList.map Char.toUpper))

/-- The name, with the numbers and the product if they are known. -/
def label (a : Adapter) : String :=
  let ids := match a.vendorId, a.productId with
    | some v, some p => " (" ++ idText v ++ ":" ++ idText p ++ ")"
    | _, _ => ""
  a.name ++ ids ++ (a.product.map fun p => " - " ++ p).getD ""

/-- The adapter as it is told to other programs. -/
def toJson (a : Adapter) : Json :=
  let number (n : Option Nat) : Json := (n.map Json.nat).getD .null
  .obj [("manufacturer", Json.ofText? a.manufacturer), ("name", .str a.name),
    ("pid", number a.productId), ("product", Json.ofText? a.product),
    ("serial", Json.ofText? a.serial), ("vid", number a.vendorId)]

end Adapter
end BoardBench
