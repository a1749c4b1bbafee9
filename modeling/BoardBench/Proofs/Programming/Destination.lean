import BoardBench.Proofs.Programming.Region
import BoardBench.Proofs.Programming.Script

/-!
# Where an image goes

An image with a file system is copied to the start of its memory bank, once the blocks of its geometry have
been erased and formatted there (`flash_copies_to_start`). So it lies in what was erased just if the
geometry begins with the first block and has room for it (`JffsImage.start_within_erased_iff`).
-/

namespace BoardBench

open Bootloader Client Session Chronicle Helper

/-- What is erased and formatted of the memory bank. -/
def JffsImage.erased (j : JffsImage) : Region := ⟨j.cleanmarker.offset, j.cleanmarker.size⟩

/-- The command that erases a region for the image. -/
def JffsImage.eraseCommand (j : JffsImage) (r : Region) : Command :=
  .erase j.image.memoryBank r.start r.size

/-- The command that copies the image to a region. -/
def JffsImage.copyCommand (j : JffsImage) (r : Region) : Command :=
  .copy j.image.sourceId (servedName j.image.file) none j.image.memoryBank (Text.hex0x r.start)
    (some r.size)

/-- All that is written before the copy. -/
def JffsImage.preparation (j : JffsImage) : Bytes :=
  lineEnd ++ (lineOf (j.eraseCommand j.erased) ++ (Bytes.ofText confirmation ++ lineEnd) ++
    lineOf (formatCommand j))

theorem JffsImage.lineEnd_text (j : JffsImage) (size : Nat) :
    lineEnd ++ (FlashImage.jffs j).text size = j.preparation ++ lineOf (j.copyCommand ⟨0, size⟩) := by
  rw [JffsImage.preparation, List.append_assoc, List.append_assoc]
  rfl

theorem JffsImage.start_within_erased_iff (j : JffsImage) (size : Nat) :
    (⟨0, size⟩ : Region).Within j.erased ↔
      size = 0 ∨ j.cleanmarker.startBlock = 0 ∧ size ≤ j.cleanmarker.size := by
  rw [Region.within_iff]
  refine or_congr_right' fun hpos => ?_
  show (j.cleanmarker.offset ≤ 0 ∧ 0 + size ≤ j.cleanmarker.offset + j.cleanmarker.size) ↔ _
  unfold Geometry.offset Geometry.size
  constructor
  · rintro ⟨hoffset, hsize⟩
    rcases Nat.mul_eq_zero.1 (Nat.le_zero.1 hoffset) with hstart | hblock
    · rw [hstart] at hsize ⊢
      omega
    · rw [hblock] at hsize
      have hnonempty : size ≠ 0 := hpos
      omega
  · rintro ⟨hstart, hsize⟩
    rw [hstart]
    omega

variable {δ : Type} [Bench δ] [Transport δ]

omit [Bench δ] [Transport δ] in
/-- A script writes no more than the text of its first passage until that has succeeded. -/
theorem Follows.head {p : Passage δ} {rest : List (Passage δ)} {c c' : Client (Chronicled δ)}
    {k : Chronicle} {x : Except Error Unit} (h : Follows (p :: rest) c k x c') :
    k.written <+: p.text ∨ ∃ c₁ k₁ l, k = k₁ ++ l ∧ p.run c = (.ok (), c₁) ∧
      c₁.session.device.entries = c.session.device.entries ++ k₁ ∧ Chronicle.written k₁ = p.text ∧
      Follows rest c₁ l x c' := by
  cases h with
  | failed _ _ _ hw _ => exact .inl hw
  | passed hrun hk _ hw _ hrest => exact .inr ⟨_, _, _, rfl, hrun, hk, hw, hrest⟩

/-- When things had come to `c`, the flash had been erased and formatted for the image, and nothing else
written. -/
structure JffsImage.Prepared (j : JffsImage) (progress : Progress δ) (c : Client (Chronicled δ)) : Prop where
  done : ∃ c₀ c₁, (j.erasing progress).run c₀ = (.ok (), c₁) ∧ (j.formatting progress).run c₁ = (.ok (), c)
  written : c.session.device.entries.written = j.preparation

variable [Processes δ] [Files δ]

omit [Processes δ] in
/-- The copy is begun only after the erase and the format have succeeded, and goes to the start. -/
theorem Flashes.copies_to_start {j : JffsImage} {server : HelperSpec} {copyTimeout : Span}
    {progress : Progress δ} {size : Option Nat} {k : Chronicle} {x : Except Error Unit}
    (h : Flashes (.jffs j) server copyTimeout progress size k x) :
    k.written <+: j.preparation ∨ ∃ n c, size = some n ∧ j.Prepared progress c ∧
      c.session.device.entries <+: k ∧
      k.written <+: j.preparation ++ lineOf (j.copyCommand ⟨0, n⟩) := by
  cases h with
  | unentered _ hw _ => exact .inl (hw.trans (List.prefix_append _ _))
  | unserved hk hl =>
    rw [written_append, hk.written, hl.deeds.written_eq, List.append_nil]
    exact .inl (List.prefix_append _ _)
  | unread hk hl _ _ hn _ =>
    rw [written_append, written_append, hk.written, hl.deeds.written_eq, hn.written_eq]
    exact .inl (List.prefix_append _ _)
  | @followed k l m n _ _ _ size c _ hk hl hc _ hm _ hn _ =>
    have hbegun : (k ++ (l ++ (m ++ n))).written = lineEnd ++ m.written := by
      rw [written_append, hk.written, written_between hl.deeds hn]
    rcases hm.head with herasing | ⟨c₁, k₁, m, rfl, herase, hc₁, hk₁, hm⟩
    · rw [hbegun]
      refine .inl ((List.prefix_append_right_inj _).2 ?_)
      exact herasing.trans (List.prefix_append _ _)
    rcases hm.head with hformatting | ⟨c₂, k₂, m, rfl, hformat, hc₂, hk₂, hm⟩
    · rw [hbegun, written_append, hk₁]
      refine .inl ((List.prefix_append_right_inj _).2 ?_)
      exact (List.prefix_append_right_inj _).2 hformatting
    have hentries : c₂.session.device.entries = k ++ (l ++ (k₁ ++ k₂)) := by
      rw [hc₂, hc₁, hc]
      simp only [List.append_assoc]
    have hprepared : c₂.session.device.entries.written = j.preparation := by
      rw [hentries, written_append, written_append, written_append, hk.written, hl.deeds.written_eq,
        hk₁, hk₂, List.nil_append]
      rfl
    have hall : k ++ (l ++ (k₁ ++ (k₂ ++ m) ++ n)) = c₂.session.device.entries ++ (m ++ n) := by
      rw [hentries]
      simp only [List.append_assoc]
    have hcopying := hm.front.1
    rw [List.flatMap_singleton] at hcopying
    refine .inr ⟨size, c₂, rfl, ⟨⟨c, c₁, herase, hformat⟩, hprepared⟩, ?_, ?_⟩ <;> rw [hall]
    · exact List.prefix_append _ _
    · rw [written_append, written_append, hprepared, hn.written_eq, List.append_nil]
      exact (List.prefix_append_right_inj _).2 hcopying

/-- An image with a file system is copied to the start of its memory bank, once what its geometry names
there has been erased and formatted. All of it lies in what was erased just if the geometry begins with
the first block and has room for the image, or if the image is empty. -/
theorem flash_copies_to_start (j : JffsImage) (server : HelperSpec) (copyTimeout : Span)
    (rebooter : Rebooter δ) (progress : Progress δ) (s : Session δ) :
    let flash := (Flasher.ofImage (.jffs j) server copyTimeout).flash rebooter progress
    match rebooter.reboot .forFlash s with
    | (.error e, s₁) => flash s = (.error e, s₁)
    | (.ok _, s₁) =>
      let run := flashRebooted (.jffs j) server copyTimeout (Chronicled.tell progress) s₁.chronicled
      let done := run.2.device.entries
      flash s = (run.1, run.2.bare) ∧
      ∃ size, Flashes (.jffs j) server copyTimeout progress size done run.1 ∧
        (done.written <+: j.preparation ∨ ∃ n c,
          let target : Region := ⟨0, n⟩
          size = some n ∧ j.Prepared progress c ∧ c.session.device.entries <+: done ∧
          done.written <+: j.preparation ++ lineOf (j.copyCommand target) ∧
          (target.Within j.erased ↔
            n = 0 ∨ j.cleanmarker.startBlock = 0 ∧ n ≤ j.cleanmarker.size)) := by
  intro flash
  rcases hreboot : rebooter.reboot .forFlash s with ⟨e | _, s₁⟩
  · exact flash_of_reboot_error hreboot
  obtain ⟨hplain, ⟨size, hflashes⟩, -⟩ := flash_of_reboot hreboot
  refine ⟨hplain, size, hflashes, ?_⟩
  rcases hflashes.copies_to_start with hbefore | ⟨n, c, hsize, hprepared, hc, hcopy⟩
  · exact .inl hbefore
  · exact .inr ⟨n, c, hsize, hprepared, hc, hcopy, j.start_within_erased_iff n⟩

/-! ## A geometry that does not begin with the first block -/

/-- A machine on which all goes well: what is written is taken, processes start, print and end as they are
asked to, and every file has 32 bytes. -/
structure Obliging where
  clock : Nat
  timeout : Span
  /-- What processes have still to print. -/
  unprinted : List Bytes

namespace Obliging

instance : Bench Obliging where
  now d := d.clock
  sleep t d := { d with clock := d.clock + t.nanos }
  note _ _ d := d
  libraries := Sim.libraries
  now_sleep _ _ := rfl

instance : Transport Obliging where
  name _ := "board"
  timeout d := d.timeout
  setTimeout t := Act.change fun d => { d with timeout := t }
  read _ d := (.ok [], d)
  write bytes d := (.ok bytes.length, d)
  flush d := (.ok (), d)
  clear := Act.change id
  reopen := Act.change id
  close := Act.change id
  backlog _ := 0
  interruptions _ := 0
  setTimeout_ok t d d' h := by
    cases h
    exact ⟨rfl, .inr ⟨rfl, Nat.le_refl _⟩⟩
  read_data _ _ _ _ _ h := nomatch h
  read_idle _ _ _ _ h := nomatch h
  write_interrupted _ _ _ _ h := nomatch h

instance : Processes Obliging where
  spawn _ d := (.ok 1, d)
  awaitExit _ _ d := (.ok (some (.code 0)), d)
  signal _ _ d := d
  awaitOutput _ _ d :=
    match d.unprinted with
    | [] => (.ended, d)
    | bytes :: rest => (.chunk bytes, { d with unprinted := rest })
  takeOutput _ d := (d.unprinted.head?, { d with unprinted := d.unprinted.tail })
  sendInput _ bytes d := (.ok bytes.length, d)
  closeInput _ d := d
  outputBacklog _ d := d.unprinted.length
  awaitOutput_chunk _ _ d d' bytes h := by
    rcases d with ⟨clock, timeout, _ | ⟨next, rest⟩⟩ <;> cases h
    exact .inr ⟨rfl, Nat.lt_succ_self _⟩
  takeOutput_some _ d d' bytes h := by
    rcases d with ⟨clock, timeout, _ | ⟨next, rest⟩⟩ <;> cases h
    exact Nat.lt_succ_self _

instance : Files Obliging where
  fileSize _ _ := .ok 0x20
  isThere _ _ := true
  readFile _ _ := .ok (List.replicate 0x20 0)
  list _ _ := []
  realPath path _ := some path
  writeFile _ _ d := (.ok (), d)

/-- An image for the second block of the flash. -/
def lateImage : JffsImage :=
  ⟨⟨"fs", "usb", "flash"⟩, "1", ⟨1, 1, 0x1000, 0x10⟩, .ofSeconds 1⟩

def server : HelperSpec := { program := "server", args := [], marker := "up" }

def silent : Progress Obliging := fun _ _ _ d => d

def rebooter : Rebooter Obliging := ⟨"none", fun _ => return ()⟩

/-- What the board answers to the copy. -/
def copied : Bytes := Bytes.ofText "copy usb fs flash 0x0 0x20\r" ++ prompt

/-- What it answers to the format, and then to the copy. -/
def formatted : Bytes :=
  Bytes.ofText "jffs2 -d 1 -e -c 0x1:0x1:0x1000:0x10\r" ++ Bytes.ofText "block 0/1\r" ++ prompt ++ copied

/-- What it answers to all commands. -/
def answers : Bytes :=
  Bytes.ofText "erase flash 0x1000 0x1000\r" ++ Bytes.ofText dataLossWarning ++
    (Bytes.ofText confirmation ++ lineEnd) ++ Bytes.ofText erased ++ prompt ++ formatted

/-- A board that has been rebooted, and whose answers have all arrived. -/
def board : Session Obliging :=
  ⟨⟨0, .zero, [Bytes.ofText "up"]⟩, banner ++ prompt ++ answers, none, false⟩

/-- The client at the prompt of the board, with a server. -/
def served (arrived : Bytes) : Client Obliging := ⟨⟨⟨0, .zero, []⟩, arrived, none, false⟩, .promptReady⟩

set_option maxRecDepth 2000 in
theorem erase_lateImage : lateImage.erase (served answers) = (.ok (), served formatted) := by
  have hblocks : lateImage.perBlockTimeout.times? lateImage.cleanmarker.blockCount =
      some lateImage.perBlockTimeout := by decide
  have hline : (Command.erase lateImage.image.memoryBank lateImage.cleanmarker.offset
      lateImage.cleanmarker.size).render = "erase flash 0x1000 0x1000" := by decide
  unfold JffsImage.erase
  rw [hblocks]
  dsimp only
  unfold Client.erase
  rw [hline]
  generalize "Erasing " ++ _ ++ _ ++ _ ++ _ ++ _ = text
  cbv

set_option maxRecDepth 2000 in
theorem format_lateImage :
    formatFilesystem lateImage (silent "format") (served formatted) = (.ok (), served copied) := by
  have hline : (formatCommand lateImage).render = "jffs2 -d 1 -e -c 0x1:0x1:0x1000:0x10" := by decide
  unfold formatFilesystem
  rw [hline]
  generalize "Formatting " ++ _ = text
  cbv

theorem copy_lateImage :
    Client.copyFileToMemory lateImage.image.sourceId (servedName lateImage.image.file)
      lateImage.image.memoryBank 0 0x20 (.ofSeconds 1) (served copied) = (.ok (), served []) := by
  have hname : servedName lateImage.image.file = "fs" := by cbv
  have hline : (Command.copy lateImage.image.sourceId "fs" none lateImage.image.memoryBank (Text.hex0x 0)
      (some 0x20)).render = "copy usb fs flash 0x0 0x20" := by decide
  unfold Client.copyFileToMemory Client.copy Client.run
  rw [hname, hline]
  cbv

theorem programImage_lateImage :
    programImage (.jffs lateImage) (.ofSeconds 1) silent (served answers) = (.ok (), served []) := by
  have hsize : sizeOfFile lateImage.image.file (served answers) = (.ok 0x20, served answers) := rfl
  have hreport (step : String) (done total : Nat) (arrived : Bytes) :
      report silent step done total (served arrived) = (.ok (), served arrived) := rfl
  have hprepare : prepareFlash lateImage silent (served answers) = (.ok (), served copied) := by
    rw [prepareFlash_eq]
    refine (Act.bind_ok (hreport _ _ _ _)).trans ((Act.bind_ok erase_lateImage).trans ?_)
    exact (Act.bind_ok (hreport _ _ _ _)).trans format_lateImage
  refine (Act.bind_ok hsize).trans ((Act.bind_ok hprepare).trans ?_)
  exact (Act.bind_ok (hreport _ _ _ _)).trans ((Act.bind_ok copy_lateImage).trans (hreport _ _ _ _))

theorem enterBootloader_board :
    Client.enterBootloader (Client.ofSession board) =
      (.ok (), { served answers with session.device := board.device }) := by
  cbv

/-- The server as it is when it has said that it is up. -/
def running : Helper where
  program := server.program
  pid := 1
  reader := (HelperReader.start (Bytes.ofText server.marker)).feed (Bytes.ofText "up")
  reading := true
  running := true
  stopTimeout := server.stopTimeout
  forcedKills := 0

theorem start_server : Helper.start server board.device = (.ok running, (served []).session.device) := by
  cbv

theorem withFileServer_board :
    withFileServer server (programImage (.jffs lateImage) (.ofSeconds 1) silent)
      { served answers with session.device := board.device } = (.ok (), served []) := by
  have hstart : ((Client.onDevice (Helper.start server)).mapError (·.intoFlash ""))
      { served answers with session.device := board.device } = (.ok running, served answers) :=
    Act.mapError_ok_iff.2 (onDevice_eq_iff.2 ⟨_, start_server, rfl⟩)
  have hprogram : (programImage (.jffs lateImage) (.ofSeconds 1) silent).attempt (served answers) =
      (.ok (.ok ()), served []) := by
    unfold Act.attempt
    rw [programImage_lateImage]
  refine (Act.bind_ok hstart).trans ((Act.bind_ok hprogram).trans ?_)
  cbv

theorem flashRebooted_board :
    flashRebooted (.jffs lateImage) server (.ofSeconds 1) silent board = (.ok (), (served []).session) := by
  have hwithin : (Client.within do
      Client.enterBootloader.mapError (·.intoFlash "")
      withFileServer server (programImage (.jffs lateImage) (.ofSeconds 1) silent)) board =
        (.ok (), (served []).session) := by
    refine within_eq_iff.2 ⟨_, ?_, rfl⟩
    exact (Act.bind_ok (Act.mapError_ok_iff.2 enterBootloader_board)).trans
      withFileServer_board
  exact Act.bind_ok hwithin

end Obliging

open Obliging in
/-- The image is copied to the first block, although the second was erased for it. -/
theorem flash_copies_outside_erased :
    let run := flashRebooted (.jffs lateImage) server (.ofSeconds 1) (Chronicled.tell silent) board.chronicled
    (Flasher.ofImage (.jffs lateImage) server (.ofSeconds 1)).flash rebooter silent board =
        (.ok (), run.2.bare) ∧
      run.2.device.entries.written =
        lateImage.preparation ++ lineOf (lateImage.copyCommand ⟨0, 0x20⟩) ∧
      ¬ (⟨0, 0x20⟩ : Region).Within lateImage.erased := by
  have hplain := flashRebooted_mirrors (.jffs lateImage) server (.ofSeconds 1) silent board.chronicled
  rcases hrun : flashRebooted (.jffs lateImage) server (.ofSeconds 1) (Chronicled.tell silent)
    board.chronicled with ⟨x, t⟩
  rw [hrun, show board.chronicled.bare = board from rfl] at hplain
  obtain rfl : x = .ok () := congrArg Prod.fst (hplain.symm.trans flashRebooted_board)
  obtain ⟨⟨size, hflashes⟩, -⟩ := flashRebooted_run hrun
  refine ⟨hplain, ?_, ?_⟩
  · obtain rfl : size = some 0x20 := by
      generalize t.device.entries = k at hflashes
      cases hflashes with
      | followed _ _ _ hsize _ _ _ _ =>
        cases hsize
        rfl
    obtain ⟨-, -, hfull⟩ := hflashes.of_some
    obtain ⟨hwritten, -⟩ := hfull rfl
    exact hwritten.trans (lateImage.lineEnd_text 0x20)
  · rw [lateImage.start_within_erased_iff]
    decide

end BoardBench
