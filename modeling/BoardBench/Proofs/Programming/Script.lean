import BoardBench.Proofs.Programming.Passage

/-!
# The script of programming a board

Programming an image is a script of passages. `flash_follows_script` places the script between the prompt
of the bootloader and the stop of the file server, whatever the rebooter, the device, the files and the
server do.
-/

namespace BoardBench

open Bootloader Client Session Chronicle Helper

variable {δ : Type} [Bench δ] [Transport δ]

/-! ## The script of an image -/

/-- The line that copies an image of this size. -/
def ImageSpec.copyLine (image : ImageSpec) (size : Nat) : Bytes :=
  lineOf (.copy image.sourceId (servedName image.file) none image.memoryBank (Text.hex0x 0) (some size))

/-- Erases the blocks of an image, if the time that they take can be told. -/
def JffsImage.erase (j : JffsImage) : Act (Client δ) Unit :=
  match j.perBlockTimeout.times? j.cleanmarker.blockCount with
  | none =>
    Act.fail (.flash ("erase timeout of " ++ toString j.cleanmarker.blockCount ++ " blocks at " ++
      j.perBlockTimeout.text ++ " each overflows") "")
  | some timeout => Client.erase j.image.memoryBank j.cleanmarker.offset j.cleanmarker.size timeout

/-- The lines that erase them. -/
def JffsImage.eraseLines (j : JffsImage) : Bytes :=
  lineOf (.erase j.image.memoryBank j.cleanmarker.offset j.cleanmarker.size) ++
    (Bytes.ofText confirmation ++ lineEnd)

/-- Erases what the image needs of the flash. -/
def JffsImage.erasing (j : JffsImage) (progress : Progress δ) : Passage δ where
  run := do
    report (Chronicled.tell progress) "erase" 0 j.cleanmarker.size
    j.erase
    report (Chronicled.tell progress) "erase" j.cleanmarker.size j.cleanmarker.size
  text := j.eraseLines
  news := [("erase", 0, j.cleanmarker.size), ("erase", j.cleanmarker.size, j.cleanmarker.size)]

/-- Formats what was erased. -/
def JffsImage.formatting (j : JffsImage) (progress : Progress δ) : Passage δ where
  run := formatFilesystem j (Chronicled.tell progress "format")
  text := lineOf (formatCommand j)
  news := (List.range j.cleanmarker.blockCount).map fun b => ("format", b + 1, j.cleanmarker.blockCount)

/-- Copies the image. -/
def ImageSpec.copying (image : ImageSpec) (size : Nat) (copyTimeout : Span) (progress : Progress δ) :
    Passage δ where
  run := do
    report (Chronicled.tell progress) "copy" 0 size
    Client.copyFileToMemory image.sourceId (servedName image.file) image.memoryBank 0 size copyTimeout
    report (Chronicled.tell progress) "copy" size size
  text := image.copyLine size
  news := [("copy", 0, size), ("copy", size, size)]

/-- What is done to program an image of this size. -/
def FlashImage.script (image : FlashImage) (size : Nat) (copyTimeout : Span) (progress : Progress δ) :
    List (Passage δ) :=
  match image with
  | .plain i => [i.copying size copyTimeout progress]
  | .jffs j => [j.erasing progress, j.formatting progress, j.image.copying size copyTimeout progress]

theorem JffsImage.erase_utters (j : JffsImage) :
    Utters (j.erase : Act (Client (Chronicled δ)) Unit) j.eraseLines [] := by
  unfold JffsImage.erase
  split
  · exact .fail _ _ _
  · exact Operation.perform_utters (.erase _ _ _ _) (fun _ _ _ d => d) ""

theorem JffsImage.erasing_sound (j : JffsImage) (progress : Progress δ) :
    (j.erasing progress).Sound := by
  have h := (report_utters progress "erase" 0 j.cleanmarker.size).bind fun _ =>
    j.erase_utters.bind fun _ => report_utters progress "erase" j.cleanmarker.size j.cleanmarker.size
  rw [List.nil_append, List.append_nil] at h
  exact h

theorem JffsImage.formatting_sound (j : JffsImage) (progress : Progress δ) :
    (j.formatting progress).Sound := by
  have h := Operation.perform_utters (.format j) progress "format"
  unfold Operation.news at h
  rw [List.map_map] at h
  exact h

theorem ImageSpec.copying_sound (image : ImageSpec) (size : Nat) (copyTimeout : Span)
    (progress : Progress δ) : (image.copying size copyTimeout progress).Sound := by
  have h := (report_utters progress "copy" 0 size).bind fun _ =>
    (Operation.perform_utters (.copyFileToMemory image.sourceId (servedName image.file) image.memoryBank 0
      size copyTimeout) progress "copy").bind fun _ => report_utters progress "copy" size size
  rw [List.nil_append, List.append_nil] at h
  exact h

theorem FlashImage.script_sound (image : FlashImage) (size : Nat) (copyTimeout : Span)
    (progress : Progress δ) : ∀ p ∈ image.script size copyTimeout progress, p.Sound := by
  intro p hp
  cases image with
  | plain i =>
    obtain rfl := List.mem_singleton.1 hp
    exact i.copying_sound size copyTimeout progress
  | jffs j =>
    simp only [FlashImage.script, List.mem_cons, List.not_mem_nil, or_false] at hp
    rcases hp with rfl | rfl | rfl
    · exact j.erasing_sound progress
    · exact j.formatting_sound progress
    · exact j.image.copying_sound size copyTimeout progress

variable [Processes δ] [Files δ]

omit [Processes δ] [Files δ] in
theorem prepareFlash_eq (j : JffsImage) (progress : Progress δ) :
    prepareFlash j progress = report progress "erase" 0 j.cleanmarker.size >>= fun _ =>
      j.erase >>= fun _ => report progress "erase" j.cleanmarker.size j.cleanmarker.size >>= fun _ =>
        formatFilesystem j (progress "format") := by
  unfold prepareFlash JffsImage.erase
  refine congrArg (report progress "erase" 0 j.cleanmarker.size >>= ·) (funext fun _ => ?_)
  cases j.perBlockTimeout.times? j.cleanmarker.blockCount <;> rfl

omit [Processes δ] in
/-- An image is programmed by its script, once its size is known. -/
theorem programImage_eq (image : FlashImage) (copyTimeout : Span) (progress : Progress δ) :
    programImage image copyTimeout (Chronicled.tell progress) = sizeOfFile image.spec.file >>= fun size =>
      Passage.runAll (image.script size copyTimeout progress) := by
  unfold programImage
  refine congrArg (sizeOfFile image.spec.file >>= ·) (funext fun size => ?_)
  cases image with
  | plain i =>
    simp only [FlashImage.script, Passage.runAll, ImageSpec.copying, Act.bind_unit]
    rfl
  | jffs j =>
    simp only [FlashImage.script, Passage.runAll, ImageSpec.copying, JffsImage.erasing,
      JffsImage.formatting, prepareFlash_eq, Act.bind_unit, Act.bind_assoc]
    rfl

/-! ## With the bootloader entered and a file server -/

/-- What is done to program a board that has been rebooted. -/
def flashRebooted (image : FlashImage) (server : HelperSpec) (copyTimeout : Span)
    (progress : Progress δ) : Act (Session δ) Unit := do
  Client.within do
    Client.enterBootloader.mapError (·.intoFlash "")
    withFileServer server (programImage image copyTimeout progress)
  Session.note .info ("Flashed " ++ image.spec.file)

theorem flash_eq (image : FlashImage) (server : HelperSpec) (copyTimeout : Span)
    (rebooter : Rebooter δ) (progress : Progress δ) :
    (Flasher.ofImage image server copyTimeout).flash rebooter progress =
      rebooter.reboot .forFlash >>= fun _ => flashRebooted image server copyTimeout progress := rfl

theorem flashRebooted_mirrors (image : FlashImage) (server : HelperSpec) (copyTimeout : Span)
    (progress : Progress δ) :
    Act.Mirrors Session.bare
      (flashRebooted image server copyTimeout (Chronicled.tell progress) : Act (Session (Chronicled δ)) Unit)
      (flashRebooted image server copyTimeout progress) := by
  have hS := session_inStep (Chronicled.inStep (δ := δ)).transport rfl
  have hp (step : String) (done total : Nat) :
      Act.Relates (Session.Alike fun (c : Chronicled δ) (d : δ) => d = c.device)
        (touch (Chronicled.tell progress step done total)) (touch (progress step done total)) :=
    .change fun s t h => ⟨congrArg (progress step done total) h.device, h.buffer, h.log, h.closed⟩
  refine Act.Relates.mirrors ?_ fun s t => alike_bare_iff
  refine (within_relates (((enterBootloader_relates hS).mapError _).bind fun _ => ?_)).bind fun _ =>
    hS.note .info fun _ => "Flashed " ++ image.spec.file
  exact withFileServer_relates Chronicled.inStep server
    (programImage_relates Chronicled.inStep hp image copyTimeout)

/-- What is written to program an image of this size. -/
def FlashImage.text (image : FlashImage) (size : Nat) : Bytes :=
  match image with
  | .plain i => i.copyLine size
  | .jffs j => j.eraseLines ++ (lineOf (formatCommand j) ++ j.image.copyLine size)

/-- What is told of it. -/
def FlashImage.news (image : FlashImage) (size : Nat) : List (String × Nat × Nat) :=
  match image with
  | .plain _ => [("copy", 0, size), ("copy", size, size)]
  | .jffs j =>
    [("erase", 0, j.cleanmarker.size), ("erase", j.cleanmarker.size, j.cleanmarker.size)] ++
      (((List.range j.cleanmarker.blockCount).map fun b =>
        ("format", b + 1, j.cleanmarker.blockCount)) ++ [("copy", 0, size), ("copy", size, size)])

omit [Processes δ] [Files δ] in
theorem FlashImage.text_eq (image : FlashImage) (size : Nat) (copyTimeout : Span)
    (progress : Progress δ) :
    (image.script size copyTimeout progress).flatMap (·.text) = image.text size := by
  cases image with
  | plain i => exact List.append_nil _
  | jffs j =>
    simp only [FlashImage.script, List.flatMap_cons, List.flatMap_nil, List.append_nil]
    rfl

omit [Processes δ] [Files δ] in
theorem FlashImage.news_eq (image : FlashImage) (size : Nat) (copyTimeout : Span)
    (progress : Progress δ) :
    (image.script size copyTimeout progress).flatMap (·.news) = image.news size := by
  cases image with
  | plain i => rfl
  | jffs j => rfl

/-- The bootloader was entered, and nothing else done. -/
structure Entered (k : Chronicle) : Prop where
  idle : k.Idle
  written : k.written = lineEnd
  told : k.told = []

/-- What was done to a board to program it, in order, and the size of the image if it could be read. -/
inductive Flashes (image : FlashImage) (server : HelperSpec) (copyTimeout : Span)
    (progress : Progress δ) : Option Nat → Chronicle → Except Error Unit → Prop
  | unentered {k e} : k.Idle → k.written <+: lineEnd → k.told = [] →
      Flashes image server copyTimeout progress none k (.error e)
  | unserved {k l e} : Entered k → Unstarted server l →
      Flashes image server copyTimeout progress none (k ++ l) (.error e)
  | unread {k l n e helper} {d : Chronicled δ} {f : Fault} : Entered k → Started server helper l →
      d.entries = k ++ l → Files.fileSize image.spec.file d = .error f → n.Deeds →
      Stopped helper.pid n → Flashes image server copyTimeout progress none (k ++ (l ++ n)) (.error e)
  | followed {k l m n x y helper size} {c c' : Client (Chronicled δ)} : Entered k →
      Started server helper l → c.session.device.entries = k ++ l →
      Files.fileSize image.spec.file c.session.device = .ok size →
      Follows (image.script size copyTimeout progress) c m y c' → (x = .ok () → y = .ok ()) →
      n.Deeds → Stopped helper.pid n →
      Flashes image server copyTimeout progress (some size) (k ++ (l ++ (m ++ n))) x

namespace Flashes

omit [Processes δ]

variable {image : FlashImage} {server : HelperSpec} {copyTimeout : Span} {progress : Progress δ}
  {k : Chronicle} {x : Except Error Unit}

/-- Without the size of the image no command is written. -/
theorem of_none (h : Flashes image server copyTimeout progress none k x) :
    k.written <+: lineEnd ∧ k.told = [] ∧ x ≠ .ok () := by
  cases h with
  | unentered _ hw ht => exact ⟨hw, ht, nofun⟩
  | unserved hk hl =>
    rw [written_append, told_append, hk.written, hk.told, hl.deeds.written_eq, hl.deeds.told_eq]
    exact ⟨by rw [List.append_nil], rfl, nofun⟩
  | unread hk hl _ _ hn _ =>
    rw [written_append, written_append, told_append, told_append, hk.written, hk.told,
      hl.deeds.written_eq, hl.deeds.told_eq, hn.written_eq, hn.told_eq]
    exact ⟨by rw [List.append_nil, List.append_nil], rfl, nofun⟩

theorem of_some {size : Nat} (h : Flashes image server copyTimeout progress (some size) k x) :
    k.written <+: lineEnd ++ image.text size ∧ k.told <+: image.news size ∧
      (x = .ok () → k.written = lineEnd ++ image.text size ∧ k.told = image.news size) := by
  cases h with
  | followed hk hl _ _ hm hx hn _ =>
    have hfront := hm.front
    rw [image.text_eq, image.news_eq] at hfront
    rw [written_append, told_append, hk.written, hk.told, written_between hl.deeds hn,
      told_between hl.deeds hn, List.nil_append]
    refine ⟨(List.prefix_append_right_inj _).2 hfront.1, hfront.2, fun hok => ?_⟩
    rw [hx hok] at hm
    have hfull := hm.full
    rw [image.text_eq, image.news_eq] at hfull
    rw [hfull.1, hfull.2]
    exact ⟨rfl, rfl⟩

/-- Where the time for an erase cannot be told, no command is written. -/
theorem of_overflow {j : JffsImage} {size : Option Nat}
    (hover : j.perBlockTimeout.times? j.cleanmarker.blockCount = none)
    (h : Flashes (.jffs j) server copyTimeout progress size k x) : k.written <+: lineEnd := by
  cases h with
  | unentered _ hw _ => exact hw
  | unserved hk hl =>
    rw [written_append, hk.written, hl.deeds.written_eq, List.append_nil]
  | unread hk hl _ _ hn _ =>
    rw [written_append, written_append, hk.written, hl.deeds.written_eq, hn.written_eq]
    exact List.prefix_rfl
  | @followed k l m n x y helper size c c' hk hl _ _ hm _ hn _ =>
    -- the first passage fails before it writes anything
    obtain ⟨e, c₁, hrun, hentries⟩ : ∃ e c₁, (j.erasing progress).run c = (.error e, c₁) ∧
        c₁.session.device.entries = c.session.device.entries ++
          [.told "erase" 0 j.cleanmarker.size] := by
      unfold JffsImage.erasing JffsImage.erase
      rw [hover]
      exact ⟨_, _, rfl, rfl⟩
    have hnothing : m.written = [] := by
      cases hm with
      | failed hrun' hentries' _ _ _ =>
        obtain ⟨-, rfl⟩ := Prod.mk.inj (hrun.symm.trans hrun')
        rw [List.append_cancel_left (hentries'.symm.trans hentries)]
        rfl
      | passed hrun' _ _ _ _ _ => cases hrun.symm.trans hrun'
    rw [written_append, hk.written, written_between hl.deeds hn, hnothing, List.append_nil]

end Flashes

omit [Bench δ] [Transport δ] [Processes δ] [Files δ] in
theorem within_eq_iff {α : Type} {x : Act (Client δ) α} {s t : Session δ} {r : Except Error α} :
    Client.within x s = (r, t) ↔ ∃ c, x (Client.ofSession s) = (r, c) ∧ t = c.session := by
  unfold Client.within
  rcases x (Client.ofSession s) with ⟨r', c⟩
  constructor
  · intro h
    cases h
    exact ⟨c, rfl, rfl⟩
  · rintro ⟨_, hc, rfl⟩
    cases hc
    rfl

omit [Processes δ] in
/-- What programming an image comes to: the script is followed, if the size of the file can be told. -/
theorem programImage_run {image : FlashImage} {copyTimeout : Span} {progress : Progress δ}
    {c c' : Client (Chronicled δ)} {y : Except Error Unit}
    (h : programImage image copyTimeout (Chronicled.tell progress) c = (y, c')) :
    (∃ f e, Files.fileSize image.spec.file c.session.device = .error f ∧ y = .error e ∧ c' = c) ∨
      ∃ size k, Files.fileSize image.spec.file c.session.device = .ok size ∧
        Follows (image.script size copyTimeout progress) c k y c' := by
  have hread := sizeOfFile_eq image.spec.file c
  rw [programImage_eq] at h
  rcases hsize : Files.fileSize image.spec.file c.session.device with f | size <;> rw [hsize] at hread
  · rw [Act.bind_error hread] at h
    cases h
    exact .inl ⟨f, _, rfl, rfl, rfl⟩
  · rw [Act.bind_ok hread] at h
    obtain ⟨k, hk⟩ := Follows.of_runAll (image.script_sound size copyTimeout progress) h
    exact .inr ⟨size, k, rfl, hk⟩

omit [Processes δ] in
/-- With a server, the script is followed as far as it goes. -/
theorem Served.flashes {image : FlashImage} {server : HelperSpec} {copyTimeout : Span}
    {progress : Progress δ} {c c' : Client (Chronicled δ)} {x : Except Error Unit}
    (hentered : Entered c.session.device.entries)
    (h : Served server (programImage image copyTimeout (Chronicled.tell progress)) c x c') :
    ∃ size, Flashes image server copyTimeout progress size c'.session.device.entries x := by
  cases h with
  | unserved hk hl =>
    rw [hk]
    exact ⟨none, .unserved hentered hl⟩
  | @served helper l d y c₂ output n _ stopped hd hl hx hn hdeeds hstopped =>
    rcases programImage_run hx with ⟨f, e, hsize, rfl, rfl⟩ | ⟨size, m, hsize, hm⟩
    · refine ⟨none, ?_⟩
      rw [hn, hd, List.append_assoc]
      exact .unread hentered hl hd hsize hdeeds hstopped
    · refine ⟨some size, ?_⟩
      rw [hn, hm.entries, hd, List.append_assoc, List.append_assoc]
      exact .followed hentered hl hd hsize hm ok_of_outcome hdeeds hstopped

theorem flashRebooted_run {image : FlashImage} {server : HelperSpec} {copyTimeout : Span}
    {progress : Progress δ} {s : Session δ} {x : Except Error Unit} {t : Session (Chronicled δ)}
    (h : flashRebooted image server copyTimeout (Chronicled.tell progress) s.chronicled = (x, t)) :
    (∃ size, Flashes image server copyTimeout progress size t.device.entries x) ∧
      ∀ e, x = .error e → e.IsFlash := by
  -- the last line goes into the log only
  obtain ⟨c, hwithin, hentries⟩ : ∃ c, (Client.enterBootloader.mapError (·.intoFlash "") >>= fun _ =>
      withFileServer server (programImage image copyTimeout (Chronicled.tell progress)))
        (Client.ofSession s.chronicled) = (x, c) ∧ t.device.entries = c.session.device.entries := by
    rcases Act.bind_eq_iff.1 h with ⟨e, hwithin, rfl⟩ | ⟨_, t₁, hwithin, hnote⟩ <;>
      obtain ⟨c, hc, rfl⟩ := within_eq_iff.1 hwithin
    · exact ⟨c, hc, rfl⟩
    · cases hnote
      exact ⟨c, hc, rfl⟩
  rw [hentries]
  rcases Act.bind_eq_iff.1 hwithin with ⟨e, henter, rfl⟩ | ⟨_, c₁, henter, hserve⟩ <;>
    obtain ⟨e', hrun, he⟩ | ⟨_, hrun, he⟩ := Act.mapError_eq_iff.1 henter <;> cases he <;>
    obtain ⟨k, hk, hidle, hw, ht, hok⟩ := enterBootloader_utters _ _ _ hrun <;>
    rw [show (Client.ofSession s.chronicled).session.device.entries = [] from rfl, List.nil_append] at hk
  · rw [hk]
    exact ⟨⟨none, .unentered hidle hw (List.prefix_nil.1 ht)⟩, fun e he =>
      Except.error.inj he ▸ Error.intoFlash_isFlash _ _⟩
  · obtain ⟨hw, ht⟩ := hok () rfl
    have hserved := withFileServer_run hserve
    exact ⟨hserved.flashes (hk ▸ ⟨hidle, hw, ht⟩), fun _ => hserved.isFlash⟩

section rebooted

variable {image : FlashImage} {server : HelperSpec} {copyTimeout : Span} {rebooter : Rebooter δ}
  {progress : Progress δ} {s s₁ : Session δ}

theorem flash_of_reboot_error {e : Error} (h : rebooter.reboot .forFlash s = (.error e, s₁)) :
    (Flasher.ofImage image server copyTimeout).flash rebooter progress s = (.error e, s₁) :=
  (congrFun (flash_eq image server copyTimeout rebooter progress) s).trans (Act.bind_error h)

theorem flash_of_reboot (h : rebooter.reboot .forFlash s = (.ok (), s₁)) :
    let run := flashRebooted image server copyTimeout (Chronicled.tell progress) s₁.chronicled
    (Flasher.ofImage image server copyTimeout).flash rebooter progress s = (run.1, run.2.bare) ∧
      (∃ size, Flashes image server copyTimeout progress size run.2.device.entries run.1) ∧
      ∀ e, run.1 = .error e → e.IsFlash := by
  have hflash := congrFun (flash_eq image server copyTimeout rebooter progress) s
  have hmirror := flashRebooted_mirrors image server copyTimeout progress s₁.chronicled
  exact ⟨hflash.trans ((Act.bind_ok h).trans hmirror), flashRebooted_run rfl⟩

end rebooted

/-- Programming a board follows one script, and stops where it first fails. An error of the rebooter is
the error. Else the bootloader is entered, then the file server is started, then the script of the image
is followed, and then the server is stopped, whatever failed; each of them only if those before it went
well, and there is nothing between them. What is written and told of is a front part of what the image
asks for, all of it if nothing fails, and no command at all if the file cannot be read or the time for
the erase cannot be told. Every error is one of flashing. -/
theorem flash_follows_script (image : FlashImage) (server : HelperSpec) (copyTimeout : Span)
    (rebooter : Rebooter δ) (progress : Progress δ) (s : Session δ) :
    let flash := (Flasher.ofImage image server copyTimeout).flash rebooter progress
    match rebooter.reboot .forFlash s with
    | (.error e, s₁) => flash s = (.error e, s₁)
    | (.ok _, s₁) =>
      let run := flashRebooted image server copyTimeout (Chronicled.tell progress) s₁.chronicled
      let done := run.2.device.entries
      flash s = (run.1, run.2.bare) ∧
      (∀ e, run.1 = .error e → e.IsFlash) ∧
      (∃ size, Flashes image server copyTimeout progress size done run.1 ∧
        match size with
        | none => done.written <+: lineEnd ∧ done.told = [] ∧ run.1 ≠ .ok ()
        | some size => done.written <+: lineEnd ++ image.text size ∧ done.told <+: image.news size ∧
            (run.1 = .ok () → done.written = lineEnd ++ image.text size ∧
              done.told = image.news size)) ∧
      ∀ j, image = .jffs j → j.perBlockTimeout.times? j.cleanmarker.blockCount = none →
        done.written <+: lineEnd := by
  intro flash
  rcases hreboot : rebooter.reboot .forFlash s with ⟨e | _, s₁⟩
  · exact flash_of_reboot_error hreboot
  obtain ⟨hplain, ⟨size, hsize⟩, herrors⟩ := flash_of_reboot hreboot
  refine ⟨hplain, herrors, ⟨size, hsize, ?_⟩, ?_⟩
  · cases size with
    | none => exact hsize.of_none
    | some size => exact hsize.of_some
  · rintro j rfl hover
    exact hsize.of_overflow hover

end BoardBench
