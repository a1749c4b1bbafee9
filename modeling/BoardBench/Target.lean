import BoardBench.Bootloader.Client
import BoardBench.Reboot.Basic
import BoardBench.Target.Config

/-!
# Targets

A target is a description together with the ways chosen to act on it: to reboot it, to program it
and to load applications onto it.
-/

namespace BoardBench

/-- Told of the progress of flashing: the step, how much is done, and out of how much. -/
abbrev Progress (δ : Type) := String → Nat → Nat → δ → δ

/-- A way to program the image of a whole board. -/
structure Flasher (δ : Type) where
  flash : Rebooter δ → Progress δ → Act (Session δ) Unit

/-- A way to load applications from the bootloader's prompt. -/
structure Loader (δ : Type) where
  load : List AppSpec → Act (Bootloader.Client δ) Unit

/-- A target with the ways to act on it. -/
structure Target (δ : Type) where
  config : TargetConfig
  rebooter : Rebooter δ
  flasher : Option (Flasher δ) := none
  loader : Option (Loader δ) := none

/-- A bench that can reach consoles. -/
class Consoles (δ : Type) where
  openConsole : ConsoleKind → Act δ Unit

namespace Target

variable {δ : Type}

def canLoadApps (t : Target δ) : Bool := t.loader.isSome

variable [Bench δ] [Transport δ]

/-- Reboots the target. -/
def reboot (t : Target δ) (options : RebootOptions) : Act (Session δ) Unit := do
  Session.note .info ("Rebooting " ++ t.config.name ++ " through " ++ t.rebooter.name)
  t.rebooter.reboot options

/-- Programs the image of the whole board. -/
def flash (t : Target δ) (progress : Progress δ) : Act (Session δ) Unit :=
  match t.flasher with
  | none => Act.fail (.unsupported ("target " ++ t.config.name ++ " has no flash image"))
  | some flasher => do
    Session.note .info ("Flashing " ++ t.config.name)
    flasher.flash t.rebooter progress

end Target
end BoardBench
