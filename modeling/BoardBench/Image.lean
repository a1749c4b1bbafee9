import BoardBench.Span
import BoardBench.Text.Path

/-!
# Images

What is programmed into a board or loaded onto it: the image of the whole board, which may need its
part of the flash erased and formatted first, and single applications.
-/

namespace BoardBench

/-- The name under which a file is served: its last step, or all of the path if that is no name. -/
def servedName (file : String) : String := (Text.Path.fileName? file).getD file

/-- Where an image comes from and where it goes. -/
structure ImageSpec where
  /-- File on the host. -/
  file : String
  /-- Bootloader device that it is read from. -/
  sourceId : String
  /-- Bootloader device that it is written to. -/
  memoryBank : String
  deriving DecidableEq, Repr

/-- Block layout of a partition that is formatted. -/
structure Geometry where
  startBlock : Nat
  blockCount : Nat
  /-- In bytes. -/
  blockSize : Nat
  /-- In bytes. -/
  markerSize : Nat
  deriving DecidableEq, Repr

namespace Geometry

/-- Offset of the first block. -/
def offset (g : Geometry) : Nat := g.startBlock * g.blockSize

/-- Size of the blocks together. -/
def size (g : Geometry) : Nat := g.blockCount * g.blockSize

end Geometry

/-- An image whose part of the flash is erased and formatted first. -/
structure JffsImage where
  image : ImageSpec
  /-- The flash device to format. -/
  flashDeviceId : String
  cleanmarker : Geometry
  /-- Longest wait for the report of one block. -/
  perBlockTimeout : Span
  deriving DecidableEq, Repr

/-- The image of a whole board. -/
inductive FlashImage where
  | plain (image : ImageSpec)
  | jffs (image : JffsImage)
  deriving DecidableEq, Repr

/-- What is copied. -/
def FlashImage.spec : FlashImage → ImageSpec
  | plain image => image
  | jffs j => j.image

/-- An application that is loaded before the system boots. -/
structure AppSpec where
  /-- File on the host. -/
  file : String
  /-- Bootloader device that it is read from. -/
  sourceId : String
  /-- Map for its instructions. -/
  imap : String
  /-- Map for its data. -/
  dmap : String
  /-- Whether the system starts it. -/
  executable : Bool
  deriving DecidableEq, Repr

/-- Memory in which applications are staged. -/
structure RamWindow where
  /-- Bootloader device of the memory. -/
  device : String
  offset : Nat
  size : Nat
  deriving DecidableEq, Repr

end BoardBench
