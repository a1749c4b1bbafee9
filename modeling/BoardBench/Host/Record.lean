import BoardBench.Host
import BoardBench.Json.Record

/-!
# Hosts in configurations

How kinds of hosts and the numbers of their pins are read from configurations and written for other
programs.
-/

namespace BoardBench

/-- A kind under its name. -/
def HostKind.ofJson? : Json → Option HostKind :=
  Json.choice? [("rpi", rpi), ("pc", pc), ("emulator", emulator)]

namespace PinNumbers

/-- Numbers of pins stay below this. -/
def bound : Nat := 0x100000000

/-- The fields of pin numbers, all of which may be missing. -/
def fields : FieldReader PinNumbers := do
  let power ← Json.fieldOr "power" (Json.orNull? (Json.below? bound)) none
  let reset ← Json.fieldOr "reset" (Json.orNull? (Json.below? bound)) none
  let boot ← Json.fieldOr "boot" (Json.orNull? (Json.below? bound)) none
  let activeLow ← Json.fieldOr "active_low" Json.bool? false
  return { power, reset, boot, activeLow }

def ofJson? : Json → Option PinNumbers := Json.record? fields

def toJson (p : PinNumbers) : Json :=
  let number (n : Option Nat) : Json := (n.map Json.nat).getD .null
  .obj [("power", number p.power), ("reset", number p.reset), ("boot", number p.boot),
    ("active_low", .bool p.activeLow)]

end PinNumbers
end BoardBench
