import BoardBench.Adapter
import BoardBench.Machine.Files
import BoardBench.Text.Path
import BoardBench.Text.Trim
import BoardBench.Text.Utf8

/-!
# Finding adapters

The system has a directory for each of its terminals. A terminal that is driven by a device on one of
the buses that serial adapters sit on is an adapter, if its device file is there; one that is driven by
a USB device must also tell the numbers of that device.
-/

namespace BoardBench.Adapter

open Text (Path.join Path.parent Path.fileName?)

/-- Where the terminals are described. -/
def terminals : String := "/sys/class/tty"

/-- Where the device files are. -/
def deviceFiles : String := "/dev"

/-- One more than the largest number of a vendor or a product. -/
def idBound : Nat := 0x10000

variable {δ : Type} [Files δ]

/-- What a device tells in a file of its own, without the blanks around it. -/
def property? (dir name : String) (d : δ) : Option String :=
  match Files.readFile (Path.join dir name) d with
  | .ok bytes => (Text.decode? bytes).map Text.trim
  | .error _ => none

/-- The adapter of a USB device. -/
def ofUsb? (name dir : String) (d : δ) : Option Adapter := do
  let vendor ← (property? dir "idVendor" d).bind (Text.hexadecimal? idBound)
  let product ← (property? dir "idProduct" d).bind (Text.hexadecimal? idBound)
  return {
    name
    vendorId := some vendor
    productId := some product
    manufacturer := property? dir "manufacturer" d
    product := property? dir "product" d
    serial := property? dir "serial" d }

/-- The adapter that a terminal is, if it is one. -/
def ofTerminal? (terminal : String) (d : δ) : Option Adapter := do
  let device ← Files.realPath (Path.join (Path.join terminals terminal) "device") d
  let bus ← Files.realPath (Path.join device "subsystem") d
  let name := Path.join deviceFiles terminal
  let adapter ← match Path.fileName? bus with
    | some "amba" | some "pci" | some "pnp" | some "serial-base" => some { name }
    | some "usb" => ofUsb? name (Path.parent device) d
    | some "usb-serial" => ofUsb? name (Path.parent (Path.parent device)) d
    | _ => none
  if Files.isThere name d then return adapter else none

/-- The adapters of the machine, in the order of their names. -/
def discover (d : δ) : List Adapter :=
  ((Files.list terminals d).filterMap (ofTerminal? · d)).mergeSort fun a b => decide (a.name ≤ b.name)

end BoardBench.Adapter
