import BoardBench.Machine.Operator
import BoardBench.Reboot.Basic

/-!
# Reboots by hand

The operator is told what to do and confirms it with Enter. Lines that were typed before are
dropped, so that only a line that came after the instruction confirms it.
-/

namespace BoardBench.Rebooter

/-- How long the operator has. -/
def confirmTimeout : Span := .ofSeconds 60

/-- What the operator is told. -/
def instruction (options : RebootOptions) (timeout : Span) : String :=
  (if options.hard then "Power cycle" else "Reset") ++ " the board" ++
    (if options.flash then " with the boot switch in serial download position" else "") ++
    ", then press Enter (" ++ toString timeout.seconds ++ "s)\n"

variable {δ : Type} [Bench δ] [Transport δ] [Operator δ]

/-- An operation of the screen. -/
def onScreen (f : δ → Except Fault Unit × δ) : Act (Session δ) Unit :=
  Session.onDevice fun d =>
    match f d with
    | (.ok _, d') => (.ok (), d')
    | (.error e, d') => (.error (.io e), d')

/-- Has the operator reboot a board. -/
def interactive (timeout : Span) : Rebooter δ where
  name := "interactive"
  reboot options := do
    Session.touch Operator.discardLines
    Session.clearBuffer
    onScreen (Operator.display (instruction options timeout))
    onScreen Operator.refresh
    let typed ← Session.onDevice fun d =>
      let (typed, d') := Operator.awaitLine timeout d
      (.ok typed, d')
    match typed with
    | .line _ => Session.note .info "Operator confirmed the reboot"
    | .nothing => Act.fail (.reboot ("reboot not confirmed within " ++ timeout.text))
    | .closed =>
      Act.fail (.reboot "operator input closed before the reboot was confirmed")

end BoardBench.Rebooter
