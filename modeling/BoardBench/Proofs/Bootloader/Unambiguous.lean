import BoardBench.Proofs.Bootloader.Acceptance
import BoardBench.Proofs.Bootloader.ReportedErrors
import BoardBench.Proofs.Text.Numeral
import BoardBench.Proofs.Text.Utf8
import Mathlib

/-!
# Lines stand for one command

The line of a command is made of words, and a line with blanks in no word falls into its words in one
way only (`intercalate_inj`). So commands that are `Legible` have different lines if they differ, and
what is taken for the echo of one of them is the echo of no other (`Command.render_unambiguous`).
-/

namespace BoardBench.Bootloader

open Text

/-- Texts that hold no separator are found again in the text that they make up. -/
theorem intercalate_inj {sep : Char} {ws ws' : List String} (h : ∀ w ∈ ws, sep ∉ w.toList)
    (h' : ∀ w ∈ ws', sep ∉ w.toList) (hne : ws ≠ []) (hne' : ws' ≠ [])
    (heq : (String.singleton sep).intercalate ws = (String.singleton sep).intercalate ws') : ws = ws' := by
  have hsplit {ws : List String} (h : ∀ w ∈ ws, sep ∉ w.toList) (hne : ws ≠ []) :
      List.splitOn sep ((String.singleton sep).intercalate ws).toList = ws.map String.toList := by
    rw [String.toList_intercalate, String.toList_singleton]
    refine List.splitOn_intercalate sep (fun l hl => ?_) (by simpa using hne)
    obtain ⟨w, hw, rfl⟩ := List.mem_map.1 hl
    exact h w hw
  have hwords := hsplit h hne
  rw [heq, hsplit h' hne'] at hwords
  exact (List.map_injective_iff.2 fun _ _ => String.toList_inj.1) hwords.symm

theorem mem_intercalate {sep c : Char} {ws : List String}
    (h : c ∈ ((String.singleton sep).intercalate ws).toList) : c = sep ∨ ∃ w ∈ ws, c ∈ w.toList := by
  induction ws with
  | nil => simp at h
  | cons w ws ih =>
    cases ws with
    | nil => exact .inr ⟨w, List.mem_cons_self, by simpa using h⟩
    | cons w' ws =>
      rw [String.intercalate_cons_cons] at h
      simp only [String.toList_append, String.toList_singleton, List.mem_append, List.mem_singleton] at h
      rcases h with (h | h) | h
      · exact .inr ⟨w, List.mem_cons_self, h⟩
      · exact .inl h
      · exact (ih h).imp_right fun ⟨w, hw, hc⟩ => ⟨w, List.mem_cons_of_mem _ hw, hc⟩

namespace Command

/-- The text holds no blanks. -/
def Word (s : String) : Prop := ∀ c ∈ s.toList, c.isWhitespace = false

/-- No text of the command holds blanks, and where a flag or a size may stand, nothing else looks like
one. A text may be empty. -/
def Legible : Command → Prop
  | erase device _ _ => Word device
  | format device _ _ _ _ _ => Word device
  | app device file imap dmap _ =>
    Word device ∧ Word file ∧ Word imap ∧ Word dmap ∧ ¬ ['-', 'x'] <+: file.toList
  | copy src srcObj _ dst dstObj _ =>
    Word src ∧ Word srcObj ∧ Word dst ∧ Word dstObj ∧ ¬ IsNumeral dst
  | nameRange name _ _ => Word name
  | go => True

/-- The four numbers of a format, as one word. -/
def geometry (start count size marker : Nat) : String :=
  ":".intercalate [hex0x start, hex0x count, hex0x size, hex0x marker]

/-- The words of a line. -/
def words : Command → List String
  | erase device offset size => ["erase", device, hex0x offset, hex0x size]
  | format device erasing start count size marker =>
    ["jffs2", "-d", device] ++ (if erasing then ["-e"] else []) ++ ["-c", geometry start count size marker]
  | app device file imap dmap executable =>
    ["app", device, (if executable then "-x" else "") ++ file, imap, dmap]
  | copy src srcObj srcSize dst dstObj dstSize =>
    ["copy", src, srcObj] ++ (srcSize.map hex0x).toList ++ [dst, dstObj] ++ (dstSize.map hex0x).toList
  | nameRange name offset size => ["alias", name, hex0x offset, hex0x size]
  | go => ["go!"]

theorem render_eq_words (c : Command) : c.render = " ".intercalate c.words := by
  rw [← String.toList_inj]
  unfold render words
  cases c with
  | format device erasing start count size marker =>
    cases erasing <;> simp [geometry, String.intercalate_cons_cons]
  | app device file imap dmap executable =>
    cases executable <;> simp [String.intercalate_cons_cons]
  | copy src srcObj srcSize dst dstObj dstSize =>
    cases srcSize <;> cases dstSize <;> simp [sizeText, String.intercalate_cons_cons]
  | erase | nameRange | go => simp [String.intercalate_cons_cons]

theorem words_ne_nil (c : Command) : c.words ≠ [] := by
  cases c <;> simp [words]

/-! ## Words -/

theorem Word.of_all {s : String} (h : s.toList.all (!·.isWhitespace) = true) : Word s := by
  intro c hc
  simpa using List.all_eq_true.1 h c hc

theorem Word.append {s t : String} (hs : Word s) (ht : Word t) : Word (s ++ t) := by
  intro c hc
  rw [String.toList_append, List.mem_append] at hc
  exact hc.elim (hs c) (ht c)

theorem Word.not_mem {s : String} (h : Word s) {c : Char} (hc : c.isWhitespace = true) : c ∉ s.toList :=
  fun hmem => Bool.false_ne_true ((h c hmem).symm.trans hc)

theorem word_hex0x (n : Nat) : Word (hex0x n) := by
  intro c hc
  by_contra hblank
  rw [Bool.not_eq_false] at hblank
  have hother : hexDigit? c = none ∧ c ≠ 'x' := by
    simp only [Char.isWhitespace, Bool.or_eq_true, decide_eq_true_eq] at hblank
    rcases hblank with ((rfl | rfl) | rfl) | rfl <;> exact ⟨by decide, by decide⟩
  exact not_mem_hex0x hother.1 hother.2 n hc

theorem word_geometry (start count size marker : Nat) : Word (geometry start count size marker) := by
  have hcolon : Word ":" := .of_all (by decide)
  simp only [geometry, String.intercalate_cons_cons, String.intercalate_singleton]
  exact (((word_hex0x start).append hcolon).append <| ((word_hex0x count).append hcolon).append <|
    ((word_hex0x size).append hcolon).append <| word_hex0x marker)

theorem geometry_inj {start count size marker start' count' size' marker' : Nat}
    (h : geometry start count size marker = geometry start' count' size' marker') :
    start = start' ∧ count = count' ∧ size = size' ∧ marker = marker' := by
  have hfree (ns : List Nat) : ∀ w ∈ ns.map hex0x, ':' ∉ w.toList := by
    intro w hw
    obtain ⟨n, -, rfl⟩ := List.mem_map.1 hw
    exact not_mem_hex0x (by decide) (by decide) n
  have hwords := intercalate_inj (hfree [start, count, size, marker])
    (hfree [start', count', size', marker']) nofun nofun h
  have hnumbers := (List.map_injective_iff.2 hex0x_injective) hwords
  simpa using hnumbers

/-- The words that are no text of the command hold no blanks either. -/
theorem Legible.words {c : Command} (h : c.Legible) : ∀ w ∈ c.words, Word w := by
  have sizes (size : Option Nat) : ∀ w ∈ (size.map hex0x).toList, Word w := by
    cases size with
    | none => exact nofun
    | some n => simpa using word_hex0x n
  unfold Command.words
  cases c with
  | erase device offset size =>
    simpa using ⟨.of_all (by decide), h, word_hex0x offset, word_hex0x size⟩
  | format device erasing start count size marker =>
    have hgeometry := word_geometry start count size marker
    cases erasing
    · simpa using ⟨.of_all (by decide), .of_all (by decide), h, .of_all (by decide), hgeometry⟩
    · simpa using ⟨.of_all (by decide), .of_all (by decide), h, .of_all (by decide), .of_all (by decide),
        hgeometry⟩
  | app device file imap dmap executable =>
    obtain ⟨hdevice, hfile, himap, hdmap, -⟩ := h
    cases executable
    · simpa using ⟨.of_all (by decide), hdevice, hfile, himap, hdmap⟩
    · simpa using ⟨.of_all (by decide), hdevice, (Word.of_all (by decide)).append hfile, himap, hdmap⟩
  | copy src srcObj srcSize dst dstObj dstSize =>
    obtain ⟨hsrc, hsrcObj, hdst, hdstObj, -⟩ := h
    simp only [List.forall_mem_append, List.forall_mem_cons]
    exact ⟨⟨⟨⟨.of_all (by decide), hsrc, hsrcObj, nofun⟩, sizes srcSize⟩, hdst, hdstObj, nofun⟩,
      sizes dstSize⟩
  | nameRange name offset size =>
    simpa using ⟨.of_all (by decide), h, word_hex0x offset, word_hex0x size⟩
  | go => simpa using Word.of_all (by decide)

/-- A flag is told from the file that it is glued to. -/
theorem flag_inj {executable executable' : Bool} {file file' : String}
    (h : ¬ ['-', 'x'] <+: file.toList) (h' : ¬ ['-', 'x'] <+: file'.toList)
    (heq : (if executable then "-x" else "") ++ file = (if executable' then "-x" else "") ++ file') :
    executable = executable' ∧ file = file' := by
  have hlist := congrArg String.toList heq
  cases executable <;> cases executable' <;> simp only [String.toList_append] at hlist
  · exact ⟨rfl, String.toList_inj.1 hlist⟩
  · exact absurd ⟨file'.toList, hlist.symm⟩ h
  · exact absurd ⟨file.toList, hlist⟩ h'
  · exact ⟨rfl, String.toList_inj.1 (List.append_cancel_left hlist)⟩

theorem size_inj {size size' : Option Nat} (h : (size.map hex0x).toList = (size'.map hex0x).toList) :
    size = size' :=
  match size, size', h with
  | none, none, _ => rfl
  | some _, some _, h => congrArg some (hex0x_injective (List.cons.inj h).1)

/-- The sizes of a copy are told from the destination between them. -/
theorem sizes_inj {size size' after after' : Option Nat} {dst obj dst' obj' : String}
    (h : ¬ IsNumeral dst) (h' : ¬ IsNumeral dst')
    (heq : (size.map hex0x).toList ++ dst :: obj :: (after.map hex0x).toList =
      (size'.map hex0x).toList ++ dst' :: obj' :: (after'.map hex0x).toList) :
    size = size' ∧ dst = dst' ∧ obj = obj' ∧ after = after' := by
  cases size with
  | none =>
    cases size' with
    | none =>
      obtain ⟨rfl, rfl, hafter⟩ : dst = dst' ∧ obj = obj' ∧ _ = _ := by simpa using heq
      exact ⟨rfl, rfl, rfl, size_inj hafter⟩
    | some n' =>
      obtain rfl : dst = hex0x n' := (List.cons.inj heq).1
      exact absurd (isNumeral_hex0x n') h
  | some n =>
    cases size' with
    | none =>
      obtain rfl : hex0x n = dst' := (List.cons.inj heq).1
      exact absurd (isNumeral_hex0x n) h'
    | some n' =>
      obtain ⟨hn, rfl, rfl, hafter⟩ : hex0x n = hex0x n' ∧ dst = dst' ∧ obj = obj' ∧ _ = _ := by
        simpa using heq
      exact ⟨congrArg some (hex0x_injective hn), rfl, rfl, size_inj hafter⟩

theorem words_inj {c c' : Command} (h : c.Legible) (h' : c'.Legible) (heq : c.words = c'.words) :
    c = c' := by
  cases c with
  | erase device offset size =>
    cases c' with
    | erase device' offset' size' =>
      obtain ⟨rfl, hoffset, hsize⟩ : device = device' ∧ hex0x offset = hex0x offset' ∧
        hex0x size = hex0x size' := by simpa [Command.words] using heq
      rw [hex0x_injective hoffset, hex0x_injective hsize]
    | _ => exact absurd (List.cons.inj heq).1 (by decide)
  | format device erasing start count size marker =>
    cases c' with
    | format device' erasing' start' count' size' marker' =>
      obtain ⟨rfl, hrest⟩ : device = device' ∧
          (if erasing then ["-e"] else []) ++ ["-c", geometry start count size marker] =
            (if erasing' then ["-e"] else []) ++ ["-c", geometry start' count' size' marker'] := by
        simpa [Command.words] using heq
      obtain ⟨rfl, hgeometry⟩ : erasing = erasing' ∧
          geometry start count size marker = geometry start' count' size' marker' := by
        cases erasing <;> cases erasing' <;> simp at hrest ⊢ <;> exact hrest
      obtain ⟨rfl, rfl, rfl, rfl⟩ := geometry_inj hgeometry
      rfl
    | _ => exact absurd (List.cons.inj heq).1 (by decide)
  | app device file imap dmap executable =>
    cases c' with
    | app device' file' imap' dmap' executable' =>
      obtain ⟨-, -, -, -, hfile⟩ := h
      obtain ⟨-, -, -, -, hfile'⟩ := h'
      obtain ⟨rfl, hflag, rfl, rfl⟩ : device = device' ∧ _ = _ ∧ imap = imap' ∧ dmap = dmap' := by
        simpa [Command.words] using heq
      obtain ⟨rfl, rfl⟩ := flag_inj hfile hfile' hflag
      rfl
    | _ => exact absurd (List.cons.inj heq).1 (by decide)
  | copy src srcObj srcSize dst dstObj dstSize =>
    cases c' with
    | copy src' srcObj' srcSize' dst' dstObj' dstSize' =>
      obtain ⟨-, -, -, -, hdst⟩ := h
      obtain ⟨-, -, -, -, hdst'⟩ := h'
      obtain ⟨rfl, rfl, hrest⟩ : src = src' ∧ srcObj = srcObj' ∧ _ = _ := by
        simpa [Command.words] using heq
      obtain ⟨rfl, rfl, rfl, rfl⟩ := sizes_inj hdst hdst' hrest
      rfl
    | _ => exact absurd (List.cons.inj heq).1 (by decide)
  | nameRange name offset size =>
    cases c' with
    | nameRange name' offset' size' =>
      obtain ⟨rfl, hoffset, hsize⟩ : name = name' ∧ hex0x offset = hex0x offset' ∧
        hex0x size = hex0x size' := by simpa [Command.words] using heq
      rw [hex0x_injective hoffset, hex0x_injective hsize]
    | _ => exact absurd (List.cons.inj heq).1 (by decide)
  | go =>
    cases c' with
    | go => rfl
    | _ => exact absurd (List.cons.inj heq).1 (by decide)

theorem render_inj {c c' : Command} (h : c.Legible) (h' : c'.Legible) (heq : c.render = c'.render) :
    c = c' := by
  have free {c : Command} (h : c.Legible) : ∀ w ∈ c.words, ' ' ∉ w.toList :=
    fun w hw => (h.words w hw).not_mem rfl
  rw [render_eq_words, render_eq_words] at heq
  exact words_inj h h' (intercalate_inj (free h) (free h') c.words_ne_nil c'.words_ne_nil heq)

/-- A file that begins with a flag is not legible: here it passes for another that is executable. -/
example : (app "ram0" "-xpsh" "m" "m" false).render = (app "ram0" "psh" "m" "m" true).render := by decide

/-! ## Echoes -/

theorem solid_render (c : Command) : Solid (Bytes.ofText c.render) := by
  unfold render
  cases c <;> simp only [Bytes.ofText_append, List.append_assoc] <;> exact ⟨_, _, rfl, rfl⟩

/-- A legible line ends where it ends. -/
theorem Legible.not_lineEnd {c : Command} (h : c.Legible) {b : UInt8} (hb : b ∈ Bytes.ofText c.render) :
    b ≠ 0x0D ∧ b ≠ 0x0A := by
  have none {char : Char} (hchar : char ≠ ' ') (hblank : char.isWhitespace = true) :
      char ∉ c.render.toList := by
    rw [render_eq_words]
    intro hmem
    rcases @mem_intercalate ' ' _ _ hmem with rfl | ⟨w, hw, hcw⟩
    · exact hchar rfl
    · exact (h.words w hw).not_mem hblank hcw
  constructor <;> rintro rfl <;>
    obtain ⟨char, hmem, hchar⟩ := Bytes.exists_mem_of_mem_ofText hb (by decide)
  · obtain rfl : char = '\r' := Char.toNat_inj.1 hchar
    exact none (by decide) rfl hmem
  · obtain rfl : char = '\n' := Char.toNat_inj.1 hchar
    exact none (by decide) rfl hmem

end Command

/-- A solid line is found again in a stream that begins with its echo. -/
theorem Echo.line_eq {line e : Bytes} (h : Echo line e) (hl : Solid line)
    (hends : ∀ b ∈ line, b ≠ 0x0D ∧ b ≠ 0x0A) (rest : Bytes) :
    ((e ++ rest).dropWhile Bytes.isBlank).takeWhile (fun b => b != 0x0D && b != 0x0A) = line := by
  obtain ⟨hblanks, ht⟩ := h
  rename_i blanks t
  obtain ⟨b, tail, rfl, hb⟩ := hl
  rw [List.append_assoc, List.append_assoc, List.dropWhile_append_of_pos hblanks, List.cons_append,
    List.dropWhile_cons_of_neg (by simp [hb]), ← List.cons_append,
    List.takeWhile_append_of_pos (by simpa using hends)]
  rcases ht with rfl | rfl <;> simp

namespace Command

/-- A stream begins with the echo of one legible command at most. -/
theorem Legible.eq_of_echo {c c' : Command} (h : c.Legible) (h' : c'.Legible) {echo echo' rest rest' : Bytes}
    (he : Echo (Bytes.ofText c.render) echo) (he' : Echo (Bytes.ofText c'.render) echo')
    (hstream : echo ++ rest = echo' ++ rest') : c = c' := by
  have hline := he.line_eq c.solid_render (fun _ => h.not_lineEnd) rest
  rw [hstream, he'.line_eq c'.solid_render (fun _ => h'.not_lineEnd) rest'] at hline
  exact (render_inj h' h (Bytes.ofText_injective hline)).symm

/-- The bytes are, or may become, a stream that begins with the echo of the command. -/
def MayEcho (c : Command) (bytes : Bytes) : Prop :=
  ∃ more echo rest, Echo (Bytes.ofText c.render) echo ∧ bytes ++ more = echo ++ rest

open Client Journal Session

variable {δ : Type}

/-- What succeeds on a session succeeds when it is recorded. -/
theorem recorded_of_ok {α : Type} {x : Act (Client (Recorded δ)) α} {y : Act (Client δ) α}
    (hmirrors : Act.Mirrors Client.plain x y) {client client' : Client δ} {a : α}
    (h : y client = (.ok a, client')) : ∃ r, x client.recorded = (.ok a, r) ∧ r.plain = client' := by
  obtain ⟨hval, hplain⟩ := Prod.mk.inj ((hmirrors client.recorded).symm.trans h)
  exact ⟨_, Prod.ext hval rfl, hplain⟩

/-- Where the echo of a command was taken out of the stream, that of another was not there. -/
theorem Legible.eq_of_consumes {c c' : Command} (h : c.Legible) (h' : c'.Legible) {s : Session δ}
    {s' : Session (Recorded δ)} {j : Journal} {echo passed : Bytes}
    (hj : s.recorded.Consumes j (echo ++ passed) s') (he : Echo (Bytes.ofText c.render) echo)
    (hmay : c'.MayEcho (s.buffer ++ received s'.device.journal)) : c = c' := by
  obtain ⟨more, echo', rest, he', hstream⟩ := hmay
  have hread : s.buffer ++ received j = echo ++ passed ++ s'.buffer := hj.stream
  rw [hj.journal, show s.recorded.device.journal = [] from rfl, List.nil_append, hread,
    List.append_assoc, List.append_assoc] at hstream
  exact h.eq_of_echo h' he he' hstream

/-- Legible commands that differ have different lines. So what is taken for the echo of one of them is the
echo of no other, whatever the board sends. -/
theorem render_unambiguous {c c' : Command} (h : c.Legible) (h' : c'.Legible) :
    (c.render = c'.render → c = c') ∧
    ∀ {δ : Type} [Bench δ] [Transport δ] (client client' : Client δ),
      (sendCommand c.render client = (.ok (), client') →
        ∃ r, sendCommand c.render client.recorded = (.ok (), r) ∧ r.plain = client' ∧
          (c'.MayEcho (client.session.buffer ++ received r.session.device.journal) → c = c')) ∧
      ∀ (op : Operation) (progress : Nat → Nat → δ → δ), op.line = c.render →
        op.perform progress client = (.ok (), client') →
        ∃ r, op.perform (Recorded.tell progress) client.recorded = (.ok (), r) ∧ r.plain = client' ∧
          (c'.MayEcho (client.session.buffer ++ received r.session.device.journal) → c = c') := by
  refine ⟨render_inj h h', fun {δ} _ _ client client' =>
    ⟨fun hsend => ?_, fun op progress hline hop => ?_⟩⟩
  · have hmirrors : Act.Mirrors (Client.plain (δ := δ)) (sendCommand c.render) (sendCommand c.render) :=
      (sendCommand_relates Session.recorded_inStep _).mirrors both_plain_iff
    obtain ⟨r, hr, hplain⟩ := recorded_of_ok hmirrors hsend
    obtain ⟨j, echo, hj, hok⟩ := sendCommand_does c.render client.recorded _ r hr
    rw [← List.append_nil echo] at hj
    exact ⟨r, hr, hplain, h.eq_of_consumes h' hj.toConsumes (hok () rfl).2.2⟩
  · obtain ⟨r, hr, hplain⟩ := recorded_of_ok Operation.perform_mirrors hop
    refine ⟨r, hr, hplain, ?_⟩
    rw [Operation.perform_eq] at hr
    obtain ⟨_, c₁, hopen, hfinish⟩ := Act.bind_ok_iff.1 hr
    obtain ⟨j, echo, passed, hj, he, -⟩ := Operation.consumes_of_opening hopen
    obtain ⟨j', last, hj', -⟩ := finishCommand_does op.line op.promptWait c₁ _ r hfinish
    have hall := hj.trans hj'.toConsumes
    rw [List.append_assoc] at hall
    rw [hline] at he
    exact h.eq_of_consumes h' hall he

/-- A client that has an answer to the line in its buffer. -/
def answeredClient (line : String) : Client Sim.World :=
  ⟨⟨{}, Bytes.ofText (line ++ "\r\n(plo)% "), none, false⟩, .promptReady⟩

/-- Two copies that differ in which of their sizes is given. -/
theorem render_unambiguous_copies :
    let c : Command := .copy "usb0" "disk" (some 0x10) "flash0" "image" none
    let c' : Command := .copy "usb0" "disk" none "flash0" "image" (some 0x10)
    c.Legible ∧ c'.Legible ∧ c.render ≠ c'.render ∧
      (sendCommand c.render (answeredClient c.render)).1 = .ok () ∧
      (sendCommand c.render (answeredClient c'.render)).1 ≠ .ok () := by
  intro c c'
  have hdst : ¬ IsNumeral "flash0" := by
    rintro ⟨_, hdigits, _⟩
    exact absurd (List.cons.inj hdigits).1 (by decide)
  have h : c.Legible := by
    refine ⟨.of_all ?_, .of_all ?_, .of_all ?_, .of_all ?_, hdst⟩ <;> decide
  have h' : c'.Legible := by
    refine ⟨.of_all ?_, .of_all ?_, .of_all ?_, .of_all ?_, hdst⟩ <;> decide
  obtain ⟨hrender, hecho⟩ := render_unambiguous h h'
  have hne : c ≠ c' := by decide
  refine ⟨h, h', fun heq => hne (hrender heq), ?_, fun hsend => hne ?_⟩
  · rw [show c.render = "copy usb0 disk 0x10 flash0 image" by decide]
    cbv
  obtain ⟨r, -, -, honly⟩ := (hecho (answeredClient c'.render) _).1 (Prod.ext hsend rfl)
  refine honly ⟨[], _, Bytes.ofText "\n(plo)% " ++ received r.session.device.journal,
    .mk (List.forall_mem_nil _) (.inl rfl), ?_⟩
  rw [show (answeredClient c'.render).session.buffer = _ from Bytes.ofText_append _ _,
    show Bytes.ofText "\r\n(plo)% " = [0x0D] ++ Bytes.ofText "\n(plo)% " from rfl]
  simp only [List.append_assoc, List.append_nil, List.nil_append]

end Command
end BoardBench.Bootloader
