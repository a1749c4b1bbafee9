import BoardBench.Image
import BoardBench.Json.Record
import BoardBench.Span.Seconds

/-!
# Images in configurations

How images, their block layouts and applications are read from configurations and written for other
programs. An image says of what kind it is.
-/

namespace BoardBench

/-- Numbers of blocks and bytes stay below this. -/
def wordBound : Nat := 0x100000000

namespace ImageSpec

/-- The fields of an image that is copied. -/
def fields : FieldReader ImageSpec := do
  let file ← Json.field "file" Json.str?
  let sourceId ← Json.field "source_id" Json.str?
  let memoryBank ← Json.field "memory_bank" Json.str?
  return { file, sourceId, memoryBank }

def ofJson? : Json → Option ImageSpec := Json.record? fields

/-- The members of an image. -/
def members (i : ImageSpec) : List (String × Json) :=
  [("file", .str i.file), ("source_id", .str i.sourceId), ("memory_bank", .str i.memoryBank)]

def toJson (i : ImageSpec) : Json := .obj i.members

end ImageSpec

namespace Geometry

/-- The fields of a block layout. -/
def fields : FieldReader Geometry := do
  let startBlock ← Json.field "start_block" (Json.below? wordBound)
  let blockCount ← Json.field "block_count" (Json.below? wordBound)
  let blockSize ← Json.field "block_size" (Json.below? wordBound)
  let markerSize ← Json.field "marker_size" (Json.below? wordBound)
  return { startBlock, blockCount, blockSize, markerSize }

def ofJson? : Json → Option Geometry := Json.record? fields

def toJson (g : Geometry) : Json :=
  .obj [("start_block", .nat g.startBlock), ("block_count", .nat g.blockCount),
    ("block_size", .nat g.blockSize), ("marker_size", .nat g.markerSize)]

end Geometry

namespace JffsImage

/-- The fields of an image with a file system, among them those of what is copied. -/
def fields : FieldReader JffsImage := do
  let image ← ImageSpec.fields
  let flashDeviceId ← Json.field "flash_device_id" Json.str?
  let cleanmarker ← Json.field "cleanmarker" Geometry.ofJson?
  let perBlockTimeout ← Json.field "per_block_timeout" Json.seconds?
  return { image, flashDeviceId, cleanmarker, perBlockTimeout }

/-- Such an image has too many fields for a list. -/
def ofJson? : Json → Option JffsImage := Json.object? fields

/-- The members of an image; `number` writes a span. -/
def members (number : Span → Json) (j : JffsImage) : List (String × Json) :=
  j.image.members ++ [("flash_device_id", .str j.flashDeviceId), ("cleanmarker", j.cleanmarker.toJson),
    ("per_block_timeout", number j.perBlockTimeout)]

end JffsImage

namespace FlashImage

/-- The image of a kind. -/
def ofKind? (kind : String) (j : Json) : Option FlashImage :=
  match kind with
  | "plain" => (ImageSpec.ofJson? j).map plain
  | "jffs" => (JffsImage.ofJson? j).map jffs
  | _ => none

/-- An image: an object that names its kind, or a list that begins with it. -/
def ofJson? : Json → Option FlashImage
  | .arr (.str kind :: items) => ofKind? kind (.arr items)
  | .obj members => do ofKind? (← ((Json.obj members).field? "kind").bind Json.str?) (.obj members)
  | _ => none

/-- The image with its kind; `number` writes a span. -/
def toJson (number : Span → Json) : FlashImage → Json
  | plain i => .obj (("kind", .str "plain") :: i.members)
  | jffs j => .obj (("kind", .str "jffs") :: j.members number)

end FlashImage

namespace AppSpec

/-- The fields of an application; the system starts it unless it says otherwise. -/
def fields : FieldReader AppSpec := do
  let file ← Json.field "file" Json.str?
  let sourceId ← Json.field "source_id" Json.str?
  let imap ← Json.field "imap" Json.str?
  let dmap ← Json.field "dmap" Json.str?
  let executable ← Json.fieldOr "executable" Json.bool? true
  return { file, sourceId, imap, dmap, executable }

def ofJson? : Json → Option AppSpec := Json.record? fields

def toJson (a : AppSpec) : Json :=
  .obj [("file", .str a.file), ("source_id", .str a.sourceId), ("imap", .str a.imap),
    ("dmap", .str a.dmap), ("executable", .bool a.executable)]

end AppSpec
end BoardBench
