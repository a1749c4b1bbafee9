import BoardBench.Harness.Test
import BoardBench.Text.Outline

/-!
# Outlines of tests

How a test is shown to those who look for what is wrong with it. Its body is not shown.
-/

namespace BoardBench

open Text (Outline)

def AppSpec.outline (a : AppSpec) : Outline :=
  .record "AppLoadSpec" [("file", .ofText a.file), ("source_id", .ofText a.sourceId),
    ("imap", .ofText a.imap), ("dmap", .ofText a.dmap), ("executable", .ofBool a.executable)] false

def ShellOptions.outline (s : ShellOptions) : Outline :=
  .record "ShellOptions" [("prompt", .ofOption (s.prompt.map .ofText)),
    ("bootup_timeout", .ofOption (s.bootupTimeout.map fun t => .leaf t.text))] false

def Test.outline {δ : Type} (t : Test δ) : Outline :=
  .record "TestOptions" [
    ("name", .ofText t.name),
    ("should_reboot", .ofBool t.shouldReboot),
    ("bootloader", .ofOption (t.bootloader.map fun apps =>
      .record "BootloaderOptions" [("apps", .list (apps.map AppSpec.outline))] false)),
    ("shell", .ofOption (t.shell.map ShellOptions.outline)),
    ("ignore", .ofBool t.ignore),
    ("timeout", .leaf t.timeout.text),
    ("suppress_kernel_log", .ofBool t.suppressKernelLog)] true

end BoardBench
