import BoardBench.Proofs.Bootloader.Dialogue
import BoardBench.Proofs.Session.InStep

/-!
# Clients in step

What a client does depends on its session only through the lines it sends, the patterns it waits for
and the lines it puts in the log. So clients of sessions in step come to the same in every operation.
-/

namespace BoardBench.Bootloader.Client

variable {δ ε α : Type} {S : Session δ → Session ε → Prop}

/-- Clients that take the bootloader for being in the same state, on related sessions. -/
structure Both (S : Session δ → Session ε → Prop) (c : Client δ) (c' : Client ε) : Prop where
  state : c'.state = c.state
  session : S c.session c'.session

theorem onSession_relates {x : Act (Session δ) α} {y : Act (Session ε) α} (h : Act.Relates S x y) :
    Act.Relates (Both S) (onSession x) (onSession y) :=
  h.zoom (fun _ _ hc => hc.session) fun _ _ hc _ _ hs => ⟨hc.state, hs⟩

theorem within_relates {x : Act (Client δ) α} {y : Act (Client ε) α}
    (h : Act.Relates (Both S) x y) : Act.Relates S (within x) (within y) := by
  intro s t hst
  obtain ⟨hval, hrel⟩ := h (ofSession s) (ofSession t) ⟨rfl, hst⟩
  exact ⟨hval, hrel.session⟩

theorem enter_relates (state : State) : Act.Relates (Both S) (enter state) (enter state) :=
  .change fun _ _ hc => ⟨rfl, hc.session⟩

variable [Bench δ] [Bench ε] [Transport δ] [Transport ε] {ok : Span → Prop}

theorem expect_relates (hS : Session.InStep ok S) {ps : List Pattern} {timeout : Span}
    (hps : Pattern.Stable ps) (ht : ok timeout) :
    Act.Relates (Both S) (expect ps timeout) (expect ps timeout) :=
  onSession_relates (hS.expect ps timeout hps ht)

theorem sendLine_relates (hS : Session.InStep ok S) (line : String) :
    Act.Relates (Both S) (sendLine line) (sendLine line) :=
  onSession_relates (hS.sendLine _)

theorem note_relates (hS : Session.InStep ok S) (text : String) :
    Act.Relates (Both S) (note text) (note text) :=
  onSession_relates (hS.note .info fun _ => text)

theorem waitPrompt_relates (hS : Session.InStep ok S) {timeout : Span} (ht : ok timeout) :
    Act.Relates (Both S) (waitPrompt timeout) (waitPrompt timeout) :=
  (expect_relates hS (Pattern.stable_literal _) ht).bind fun m =>
    (enter_relates _).bind fun _ => .pure m

theorem assertPrompt_relates (hS : Session.InStep ok S) {timeout : Span} (ht : ok timeout)
    (check : Bool) :
    Act.Relates (Both S) (assertPrompt timeout check) (assertPrompt timeout check) :=
  (waitPrompt_relates hS ht).bind fun m => .ite Iff.rfl (.fail _) (.pure m)

theorem enterBootloader_relates (hS : Session.InStep ok S) :
    Act.Relates (Both S) enterBootloader enterBootloader := by
  refine (expect_relates hS (Pattern.stable_literal _) (hS.ok_of_pos _ (by decide))).bind fun _ =>
    (sendLine_relates hS "").bind fun _ =>
      (waitPrompt_relates hS (hS.ok_of_pos _ (by decide))).bind fun _ => .state_bind fun c c' hc => ?_
  -- the line names the transport
  obtain ⟨hval, hrel⟩ := hS.note .info ("Entered plo on " ++ ·) _ _ hc.session
  exact ⟨hval, hc.state, hrel⟩

theorem sendCommand_relates (hS : Session.InStep ok S) (cmd : String) :
    Act.Relates (Both S) (sendCommand cmd) (sendCommand cmd) := by
  have wait : ∀ {ps}, Pattern.Stable ps →
      Act.Relates (Both S) ((expect ps echoTimeout).mapError (·.withCommand cmd))
        ((expect ps echoTimeout).mapError (·.withCommand cmd)) :=
    fun hps => (expect_relates hS hps (hS.ok_of_pos _ (by decide))).mapError _
  refine .state_bind fun c c' hc => ?_
  rw [hc.state]
  refine Act.Relates.ite Iff.rfl (.fail_bind _ _ _) ?_ c c' hc
  refine (enter_relates .busy).bind fun _ => (sendLine_relates hS cmd).bind fun _ =>
    (wait (Pattern.stable_literal _)).bind fun echo => .ite Iff.rfl ?_ (.fail_bind _ _ _)
  exact (wait stable_lineEnds).bind fun _ => .ite Iff.rfl (.pure ()) (.fail _)

theorem finishCommand_relates (hS : Session.InStep ok S) (cmd : String) {timeout : Span}
    (ht : ok timeout) :
    Act.Relates (Both S) (finishCommand cmd timeout) (finishCommand cmd timeout) :=
  ((assertPrompt_relates hS ht true).mapError _).bind fun _ => .pure ()

theorem runCommand_relates (hS : Session.InStep ok S) (cmd : String) {timeout : Span}
    (ht : ok timeout) : Act.Relates (Both S) (runCommand cmd timeout) (runCommand cmd timeout) :=
  (sendCommand_relates hS cmd).bind fun _ => (assertPrompt_relates hS ht true).mapError _

theorem expectOrRefused_relates (hS : Session.InStep ok S) {marker : String} {timeout : Span}
    (hm : Pattern.Stable [.text marker, .literal prompt]) (ht : ok timeout) (cmd : String) :
    Act.Relates (Both S) (expectOrRefused marker timeout cmd) (expectOrRefused marker timeout cmd) :=
  ((expect_relates hS hm ht).mapError _).bind fun _ =>
    .ite Iff.rfl ((enter_relates _).bind fun _ => .fail _) (.pure ())

theorem erase_relates (hS : Session.InStep ok S) (device : String) (offset size : Nat)
    {timeout : Span} (ht : ok timeout) :
    Act.Relates (Both S) (erase device offset size timeout) (erase device offset size timeout) :=
  (note_relates hS _).bind fun _ => (sendCommand_relates hS _).bind fun _ =>
    (expectOrRefused_relates hS stable_warning (hS.ok_of_pos _ (by decide)) _).bind fun _ =>
      ((sendCommand_relates hS _).mapError _).bind fun _ =>
        (expectOrRefused_relates hS stable_erased ht _).bind fun _ =>
          finishCommand_relates hS _ (hS.ok_of_pos _ (by decide))

theorem expectBlock_relates (hS : Session.InStep ok S) {spec : JffsImage}
    (ht : ok spec.perBlockTimeout) (cmd : String) (expected : Nat) :
    Act.Relates (Both S) (expectBlock spec cmd expected) (expectBlock spec cmd expected) :=
  ((onSession_relates (hS.report _ ht)).mapError _).bind fun _ =>
    .ite Iff.rfl (.fail_bind _ _ _) (.ite Iff.rfl (.fail _) (.pure ()))

variable {progress : Nat → Nat → δ → δ} {progress' : Nat → Nat → ε → ε}

theorem expectBlocks_relates (hS : Session.InStep ok S) {spec : JffsImage}
    (ht : ok spec.perBlockTimeout)
    (hp : ∀ done total, Act.Relates S (Session.touch (progress done total))
      (Session.touch (progress' done total))) (cmd : String) (left expected : Nat) :
    Act.Relates (Both S) (expectBlocks spec cmd progress left expected)
      (expectBlocks spec cmd progress' left expected) := by
  induction left generalizing expected with
  | zero => exact .pure ()
  | succ left ih =>
    exact (expectBlock_relates hS ht cmd expected).bind fun _ =>
      (onSession_relates (hp _ _)).bind fun _ => ih (expected + 1)

theorem formatFilesystem_relates (hS : Session.InStep ok S) {spec : JffsImage}
    (ht : ok spec.perBlockTimeout)
    (hp : ∀ done total, Act.Relates S (Session.touch (progress done total))
      (Session.touch (progress' done total))) :
    Act.Relates (Both S) (formatFilesystem spec progress) (formatFilesystem spec progress') :=
  (note_relates hS _).bind fun _ => (sendCommand_relates hS _).bind fun _ =>
    (expectBlocks_relates hS ht hp _ _ _).bind fun _ =>
      finishCommand_relates hS _ (hS.ok_of_pos _ (by decide))

theorem exitToOs_relates (hS : Session.InStep ok S) :
    Act.Relates (Both S) exitToOs exitToOs :=
  (note_relates hS _).bind fun _ => (sendLine_relates hS _).bind fun _ => enter_relates _

end BoardBench.Bootloader.Client
