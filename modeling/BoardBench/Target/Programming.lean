import BoardBench.Helper
import BoardBench.Target

/-!
# Programming and loading through the bootloader

Files reach the bootloader through a file server that runs while they are needed. An image is copied
over the flash, which for some images is erased and formatted first. Applications are staged one
after the other, each from a page of its own, in a window of the memory, and registered from there.
-/

namespace BoardBench

open Bootloader

/-- Staged applications begin at multiples of this. -/
def pageSize : Nat := 0x1000

/-- One more than the largest number that addresses can be. -/
def addressBound : Nat := 0x10000000000000000

def imageCopyTimeout : Span := .ofSeconds 600
def appCopyTimeout : Span := .ofSeconds 60

section

variable {δ : Type} [Bench δ] [Transport δ] [Processes δ] [Files δ]

/-- Runs an action with a file server; whatever goes wrong is an error of flashing, with what the
server printed. -/
def withFileServer {α : Type} (spec : HelperSpec) (x : Act (Client δ) α) : Act (Client δ) α := do
  let h ← (Client.onDevice (Helper.start spec)).mapError (·.intoFlash "")
  let r ← x.attempt
  let (output, h) ← Client.onDevice (Helper.tending h Helper.output)
  let output ← Act.ofExcept output
  let (stopped, _) ← Client.onDevice (Helper.tending h Helper.kill)
  let value ← Act.ofExcept (r.mapError (·.intoFlash output))
  let _ ← Act.ofExcept (stopped.mapError (·.intoFlash output))
  return value

/-- Size of a file that is to be programmed or loaded. -/
def sizeOfFile (file : String) : Act (Client δ) Nat := do
  match Files.fileSize file (← Act.state).session.device with
  | .ok n => return n
  | .error f => Act.fail (.flash ("cannot read " ++ file ++ ": " ++ f.text) "")

/-- Tells of progress. -/
def report (progress : Progress δ) (step : String) (done total : Nat) : Act (Client δ) Unit :=
  Client.onSession (Session.touch (progress step done total))

/-- Erases and formats the part of the flash that an image needs. -/
def prepareFlash (j : JffsImage) (progress : Progress δ) : Act (Client δ) Unit := do
  let g := j.cleanmarker
  report progress "erase" 0 g.size
  match j.perBlockTimeout.times? g.blockCount with
  | none =>
    Act.fail (.flash ("erase timeout of " ++ toString g.blockCount ++ " blocks at " ++
      j.perBlockTimeout.text ++ " each overflows") "")
  | some timeout => Client.erase j.image.memoryBank g.offset g.size timeout
  report progress "erase" g.size g.size
  Client.formatFilesystem j (progress "format")

/-- Programs an image from the bootloader's prompt. -/
def programImage (image : FlashImage) (copyTimeout : Span) (progress : Progress δ) :
    Act (Client δ) Unit := do
  let spec := image.spec
  let size ← sizeOfFile spec.file
  match image with
  | .jffs j => prepareFlash j progress
  | .plain _ => pure ()
  report progress "copy" 0 size
  Client.copyFileToMemory spec.sourceId (servedName spec.file) spec.memoryBank 0 size copyTimeout
  report progress "copy" size size

/-- Programs boards with an image, from a file server. -/
def Flasher.ofImage (image : FlashImage) (server : HelperSpec) (copyTimeout : Span) : Flasher δ where
  flash rebooter progress := do
    rebooter.reboot .forFlash
    Client.within do
      Client.enterBootloader.mapError (·.intoFlash "")
      withFileServer server (programImage image copyTimeout progress)
    Session.note .info ("Flashed " ++ image.spec.file)

/-- Where a window ends. -/
def RamWindow.end? (w : RamWindow) : Except Error Nat :=
  if w.offset + w.size < addressBound then .ok (w.offset + w.size)
  else .error (.config ("RAM window " ++ w.device ++ " at " ++ Text.hex0x w.offset ++ " with size " ++
    Text.hex0x w.size ++ " exceeds the address space"))

/-- The first page boundary at or after an address, or the last address if there is none. -/
def nextPage (address : Nat) : Nat :=
  let up := (address + pageSize - 1) / pageSize * pageSize
  if up < addressBound then up else addressBound - 1

/-- Stages and registers applications, the first of them at `offset`. -/
def stageApps (w : RamWindow) (finish : Nat) (copyTimeout : Span) :
    Nat → List AppSpec → Act (Client δ) Unit
  | _, [] => return ()
  | offset, app :: rest => do
    let size ← sizeOfFile app.file
    if finish < offset + size then
      Act.fail (.flash (app.file ++ " (" ++ Text.hex0x size ++ " bytes at " ++ Text.hex0x offset ++
        ") does not fit in " ++ w.device ++ " ending at " ++ Text.hex0x finish) "")
    let name := servedName app.file
    Client.copyFileToMemory app.sourceId name w.device offset size copyTimeout
    Client.nameRange name offset size
    Client.loadApp w.device name app.imap app.dmap app.executable
    stageApps w finish copyTimeout (nextPage (offset + size)) rest

/-- Loads applications into a window of the memory, from a file server. -/
def Loader.ofWindow (w : RamWindow) (server : HelperSpec) (copyTimeout : Span) : Loader δ where
  load apps :=
    if apps.isEmpty then Act.change id
    else do
      let finish ← Act.ofExcept w.end?
      Client.note ("Preloading " ++ toString apps.length ++ " application(s)")
      withFileServer server (stageApps w finish copyTimeout w.offset apps)

variable [Consoles δ]

/-- Opens the console of a target and chooses the ways to act on it that its description allows. -/
def Target.open (config : TargetConfig) (rebooter : Rebooter δ) : Act δ (Target δ) := do
  Consoles.openConsole config.console
  return {
    config
    rebooter
    flasher := config.fileServer.bind fun server =>
      config.flashImage.map fun image => .ofImage image server.helper imageCopyTimeout
    loader := config.fileServer.bind fun server =>
      config.ramWindow.map fun window => .ofWindow window server.helper appCopyTimeout }

end
end BoardBench
