import BoardBench.Text.Numeral

/-!
# Bootloader commands

The commands that the bootloader understands, and the lines they are sent as.
-/

namespace BoardBench.Bootloader

/-- A command of the bootloader. -/
inductive Command where
  | erase (device : String) (offset size : Nat)
  | format (device : String) (erase : Bool) (startBlock blockCount blockSize markerSize : Nat)
  | app (device file imap dmap : String) (executable : Bool)
  | copy (src srcObj : String) (srcSize : Option Nat) (dst dstObj : String) (dstSize : Option Nat)
  | nameRange (name : String) (offset size : Nat)
  | go
  deriving DecidableEq, Repr

namespace Command

/-- A size after a blank, if there is one. -/
def sizeText (size : Option Nat) : String := (size.map fun n => " " ++ Text.hex0x n).getD ""

/-- The line of a command. -/
def render : Command → String
  | erase device offset size => "erase " ++ device ++ " " ++ Text.hex0x offset ++ " " ++ Text.hex0x size
  | format device erasing start count size marker =>
    "jffs2 -d " ++ device ++ (if erasing then " -e" else "") ++ " -c " ++ Text.hex0x start ++ ":" ++
      Text.hex0x count ++ ":" ++ Text.hex0x size ++ ":" ++ Text.hex0x marker
  | app device file imap dmap executable =>
    "app " ++ device ++ " " ++ (if executable then "-x" else "") ++ file ++ " " ++ imap ++ " " ++ dmap
  | copy src srcObj srcSize dst dstObj dstSize =>
    "copy " ++ src ++ " " ++ srcObj ++ sizeText srcSize ++ " " ++ dst ++ " " ++ dstObj ++
      sizeText dstSize
  | nameRange name offset size => "alias " ++ name ++ " " ++ Text.hex0x offset ++ " " ++ Text.hex0x size
  | go => "go!"

end Command
end BoardBench.Bootloader
