import BoardBench.Proofs.Bootloader.Recording

/-!
# Operations of a client

The operations that have the bootloader run a command, as data. On sessions in step each of them comes
to the same (`perform_relates`).
-/

namespace BoardBench.Bootloader

open Client

/-- An operation that has the bootloader run a command. -/
inductive Operation where
  | command (cmd : String) (timeout : Span)
  | run (cmd : Command) (timeout : Span)
  | loadApp (device file imap dmap : String) (executable : Bool)
  | copy (src srcObj dst dstObj : String) (srcSize dstSize : Option Nat) (timeout : Span)
  | copyFileToMemory (src file dst : String) (offset size : Nat) (timeout : Span)
  | nameRange (name : String) (offset size : Nat)
  | erase (device : String) (offset size : Nat) (timeout : Span)
  | format (spec : JffsImage)

namespace Operation

/-- The line that the command is sent as. -/
def line : Operation → String
  | command cmd _ => cmd
  | run cmd _ => cmd.render
  | loadApp device file imap dmap executable => (Command.app device file imap dmap executable).render
  | copy src srcObj dst dstObj srcSize dstSize _ =>
    (Command.copy src srcObj srcSize dst dstObj dstSize).render
  | copyFileToMemory src file dst offset size _ =>
    (Command.copy src file none dst (Text.hex0x offset) (some size)).render
  | nameRange name offset size => (Command.nameRange name offset size).render
  | erase device offset size _ => (Command.erase device offset size).render
  | format spec => (formatCommand spec).render

/-- How long the prompt is waited for. -/
def promptWait : Operation → Span
  | command _ timeout | run _ timeout => timeout
  | copy _ _ _ _ _ _ timeout | copyFileToMemory _ _ _ _ _ timeout => timeout
  | loadApp .. => appTimeout
  | nameRange .. => aliasTimeout
  | erase .. | format _ => promptTimeout

/-- The times that the caller allows. -/
def allowed : Operation → List Span
  | command _ timeout | run _ timeout => [timeout]
  | copy _ _ _ _ _ _ timeout | copyFileToMemory _ _ _ _ _ timeout => [timeout]
  | erase _ _ _ timeout => [timeout]
  | format spec => [spec.perBlockTimeout]
  | loadApp .. | nameRange .. => []

/-- Whether nothing is waited for between the echo and the prompt. -/
def single : Operation → Bool
  | erase .. | format _ => false
  | _ => true

section actions

variable {δ : Type} [Bench δ] [Transport δ]

/-- Carries out the operation; a format tells `progress` of every block. -/
def perform (progress : Nat → Nat → δ → δ) : Operation → Act (Client δ) Unit
  | command cmd timeout => do let _ ← runCommand cmd timeout
  | run cmd timeout => do let _ ← Client.run cmd timeout
  | loadApp device file imap dmap executable => Client.loadApp device file imap dmap executable
  | copy src srcObj dst dstObj srcSize dstSize timeout =>
    Client.copy src srcObj dst dstObj srcSize dstSize timeout
  | copyFileToMemory src file dst offset size timeout =>
    Client.copyFileToMemory src file dst offset size timeout
  | nameRange name offset size => Client.nameRange name offset size
  | erase device offset size timeout => Client.erase device offset size timeout
  | format spec => formatFilesystem spec progress

variable {ε : Type} [Bench ε] [Transport ε] {ok : Span → Prop} {S : Session δ → Session ε → Prop}

theorem perform_relates (hS : Session.InStep ok S) {progress : Nat → Nat → δ → δ}
    {progress' : Nat → Nat → ε → ε}
    (hp : ∀ done total, Act.Relates S (Session.touch (progress done total))
      (Session.touch (progress' done total)))
    (op : Operation) (ht : ∀ t ∈ op.allowed, ok t) :
    Act.Relates (Both S) (op.perform progress) (op.perform progress') := by
  have single : ∀ cmd {timeout}, ok timeout →
      Act.Relates (Both S) (do let _ ← runCommand cmd timeout) (do let _ ← runCommand cmd timeout) :=
    fun cmd _ ht => (runCommand_relates hS cmd ht).bind fun _ => .pure ()
  cases op with
  | command cmd timeout => exact single cmd (ht _ List.mem_cons_self)
  | run cmd timeout => exact single _ (ht _ List.mem_cons_self)
  | loadApp device file imap dmap executable => exact single _ (hS.ok_of_pos _ (by decide))
  | copy src srcObj dst dstObj srcSize dstSize timeout => exact single _ (ht _ List.mem_cons_self)
  | copyFileToMemory src file dst offset size timeout => exact single _ (ht _ List.mem_cons_self)
  | nameRange name offset size => exact single _ (hS.ok_of_pos _ (by decide))
  | erase device offset size timeout => exact erase_relates hS _ _ _ (ht _ List.mem_cons_self)
  | format spec => exact formatFilesystem_relates hS (ht _ List.mem_cons_self) hp

theorem perform_mirrors {progress : Nat → Nat → δ → δ} {op : Operation} :
    Act.Mirrors Client.plain (op.perform (Recorded.tell progress)) (op.perform progress) :=
  (perform_relates Session.recorded_inStep tell_relates op fun _ _ => trivial).mirrors both_plain_iff

end actions
end Operation
end BoardBench.Bootloader
