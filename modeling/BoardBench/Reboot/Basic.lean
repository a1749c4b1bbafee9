import BoardBench.Session

/-!
# Reboots

A reboot is a choice of two things: whether the board comes up for its flash to be written, and
whether its power is cycled. A rebooter performs it on the board of a session. The reboot of an
emulator restarts it.
-/

namespace BoardBench

/-- What kind of reboot. -/
structure RebootOptions where
  /-- Come up in the bootloader's download mode. -/
  flash : Bool
  /-- Cycle the power, not only the reset line. -/
  hard : Bool
  deriving DecidableEq, Repr

namespace RebootOptions

/-- The normal boot after a reset. -/
def soft : RebootOptions := ⟨false, false⟩

/-- The download mode after a power cycle. -/
def forFlash : RebootOptions := ⟨true, true⟩

/-- The options in words. -/
def text (o : RebootOptions) : String :=
  "RebootOptions \x7b flash: " ++ toString o.flash ++ ", hard: " ++ toString o.hard ++ " \x7d"

end RebootOptions

/-- A way to reboot a board. -/
structure Rebooter (δ : Type) where
  name : String
  reboot : RebootOptions → Act (Session δ) Unit

namespace Rebooter

variable {δ : Type} [Bench δ] [Transport δ]

/-- Reboots an emulator by starting it again. -/
def emulator : Rebooter δ where
  name := "emulator"
  reboot options := do
    Session.note .info ("Restarting emulator (" ++ options.text ++ ")")
    Session.reopen

end Rebooter
end BoardBench
