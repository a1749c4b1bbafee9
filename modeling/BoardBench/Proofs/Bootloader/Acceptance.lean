import BoardBench.Proofs.Bootloader.Dialogue
import BoardBench.Proofs.Sim.Delivery
import Mathlib

/-!
# Which answers are accepted

`echo?` and `answer?` are what a client makes of a whole stream: what follows an acceptable echo, and
the match and the rest that a command's answer gives. On a device that delivers in time, running a
command does to the stream what `answer?` does to it (`runCommand_grants`), however it is cut into
reads and whatever was left in the buffer. `answer?_eq_some_iff` says which streams these are.
-/

namespace BoardBench.Bootloader

open Session

/-- What follows the echo of a line, if the stream begins with an acceptable one. -/
def echo? (line stream : Bytes) : Option Bytes :=
  (Pattern.split? [.literal line] stream).bind fun (m, rest) =>
    if m.before.all Bytes.isBlank then
      (Pattern.split? lineEnds rest).bind fun (m, rest) => if m.before = [] then some rest else none
    else none

/-- What stands before the first prompt, if no error was announced in it. -/
def clean? (stream : Bytes) : Option (Match × Bytes) :=
  (Pattern.split? [.literal prompt] stream).bind fun (m, rest) =>
    if Bytes.contains m.before errorMarker then none else some (m, rest)

/-- The answer to a line, up to its prompt, if it is acceptable and without an error. -/
def answer? (line stream : Bytes) : Option (Match × Bytes) :=
  (echo? line stream).bind clean?

/-- A line that begins with something that is no blank. -/
def Solid (line : Bytes) : Prop := ∃ b rest, line = b :: rest ∧ Bytes.isBlank b = false

section echoes

variable {line stream rest : Bytes}

/-- Behind blanks, a solid line first stands right there. -/
theorem split?_blanks {blanks : Bytes} (hl : Solid line)
    (hb : ∀ b ∈ blanks, Bytes.isBlank b = true) :
    Pattern.split? [.literal line] (blanks ++ line ++ rest) =
      some (⟨0, [], blanks, line⟩, rest) := by
  refine Pattern.split?_literal_iff.2 ⟨rfl, rfl, fun j hj ho => ?_⟩
  obtain ⟨b, more, rfl, hsolid⟩ := hl
  obtain ⟨p, s, hps, rfl⟩ := ho
  -- the byte at that place is both the first of the line and a blank
  have hget : (blanks ++ b :: more ++ rest)[p.length]? = some b := by
    rw [hps]
    simp
  rw [List.append_assoc, List.getElem?_append_left hj] at hget
  have := hb b (List.mem_of_getElem? hget)
  rw [hsolid] at this
  cases this

theorem echo?_of_echo (hl : Solid line) {e : Bytes} (he : Echo line e) :
    echo? line (e ++ rest) = some rest := by
  obtain ⟨hb, ht⟩ := he
  rename_i blanks t
  have hend := (@split?_lineEnds_iff (t :: rest) rest _).2 ⟨t, ht, rfl, rfl⟩
  rw [List.append_assoc, echo?, split?_blanks hl hb]
  simp only [Option.bind_some, List.all_eq_true.2 hb, ↓reduceIte, List.singleton_append, hend.1]

theorem echo?_eq_some_iff (hl : Solid line) :
    echo? line stream = some rest ↔ ∃ e, Echo line e ∧ stream = e ++ rest := by
  constructor
  · intro h
    obtain ⟨⟨m, r⟩, hm, h⟩ := Option.bind_eq_some_iff.1 h
    dsimp only at h
    split at h
    · rename_i hblank
      obtain ⟨⟨m', r'⟩, hm', h⟩ := Option.bind_eq_some_iff.1 h
      dsimp only at h
      split at h
      · rename_i hempty
        cases h
        obtain ⟨hm₁, hs, -⟩ := Pattern.split?_literal_iff.1 hm
        obtain ⟨t, ht, rfl, -⟩ := split?_lineEnds_iff.1 ⟨hm', hempty⟩
        exact ⟨_, .mk (List.all_eq_true.1 hblank) ht, by rw [hs]; simp⟩
      · cases h
    · cases h
  · rintro ⟨e, he, rfl⟩
    exact echo?_of_echo hl he

/-- The stream is the echo of a line, output without an error, the first prompt and some rest. -/
def Answers (line stream output rest : Bytes) : Prop :=
  ∃ blanks t, stream = blanks ++ line ++ [t] ++ (output ++ prompt ++ rest) ∧
    (∀ b ∈ blanks, Bytes.isBlank b = true) ∧ (t = 0x0D ∨ t = 0x0A) ∧
    FirstAt prompt (output ++ prompt ++ rest) output.length ∧ ¬ Occurs errorMarker output

theorem answer?_eq_some_iff (hl : Solid line) {m : Match} :
    answer? line stream = some (m, rest) ↔
      Answers line stream m.before rest ∧ m = ⟨0, [], m.before, prompt⟩ := by
  constructor
  · intro hanswer
    obtain ⟨r, hr, hrest⟩ := Option.bind_eq_some_iff.1 hanswer
    obtain ⟨e, he, rfl⟩ := (echo?_eq_some_iff hl).1 hr
    obtain ⟨⟨m', r'⟩, hm', h⟩ := Option.bind_eq_some_iff.1 hrest
    dsimp only at h
    split at h
    · cases h
    · rename_i hmark
      cases h
      obtain ⟨hm, rfl, hfirst⟩ := Pattern.split?_literal_iff.1 hm'
      obtain ⟨hb, ht⟩ := he
      exact ⟨⟨_, _, rfl, hb, ht, ⟨⟨_, _, rfl, rfl⟩, hfirst⟩,
        fun ho => hmark (Bytes.contains_iff.2 ho)⟩,
        hm⟩
  · rintro ⟨⟨blanks, t, rfl, hb, ht, hfirst, hmark⟩, hm⟩
    rw [answer?, echo?_of_echo hl (.mk hb ht), Option.bind_some, clean?,
      (Pattern.split?_literal_iff (m := m)).2 ⟨hm, rfl, hfirst.2⟩]
    exact if_neg fun hc => hmark (Bytes.contains_iff.1 hc)

end echoes

namespace Client

variable {δ : Type} [Bench δ] [Transport δ] {cmd : String} {k : Nat} {out : Bytes} {d : δ}

theorem sendLine_of_writeAll {s : Session δ} {line : Bytes}
    (hw : Transport.writeAll (line ++ lineEnd) s.device = (.ok (), d)) :
    ∃ s', Session.sendLine line s = (.ok (), s') ∧ s'.device = d ∧ s'.buffer = s.buffer := by
  refine ⟨copyToLog (line ++ lineEnd) { s with device := d }, ?_, rfl, rfl⟩
  have hz : Session.onDevice (Transport.writeAll (line ++ lineEnd)) s =
      (.ok (), { s with device := d }) := Act.zoom_eq_iff.2 ⟨d, hw, rfl⟩
  exact Act.bind_ok hz

/-- What comes of a line and its echo on a device that delivers. -/
theorem EchoRun.of_delivers {s s' : Session δ} {x : Except Error Unit} (h : EchoRun cmd s x s')
    (hw : Transport.writeAll (Bytes.ofText cmd ++ lineEnd) s.device = (.ok (), d))
    (hd : Transport.Delivers k out d) (hk : k < echoTimeout.nanos) :
    (x = .ok () ∧ ∃ left k', echo? (Bytes.ofText cmd) (s.buffer ++ out) = some (s'.buffer ++ left) ∧
      Transport.Delivers k' left s'.device ∧ k' ≤ k) ∨
    (∃ e, x = .error e) ∧ echo? (Bytes.ofText cmd) (s.buffer ++ out) = none := by
  obtain ⟨s₁, hsend, hdev, hbuf⟩ := sendLine_of_writeAll hw
  subst hdev
  rw [← hbuf]
  have echo {s₂ m} := @split?_eq_some_of_delivers _ _ _ _ (Pattern.stable_literal (Bytes.ofText cmd))
    echoTimeout s₁ s₂ k out m hd hk
  unfold echo?
  cases h with
  | unsent hsend' => cases hsend'.symm.trans hsend
  | noEcho hsend' hecho =>
    cases hsend'.symm.trans hsend
    refine .inr ⟨⟨_, rfl⟩, ?_⟩
    rw [split?_eq_none_of_delivers (Pattern.stable_literal _) hd hk hecho]
    rfl
  | early hsend' hecho hblank =>
    cases hsend'.symm.trans hsend
    obtain ⟨left, k', hsplit, -⟩ := echo hecho
    refine .inr ⟨⟨_, rfl⟩, ?_⟩
    rw [hsplit]
    exact if_neg hblank
  | noEnd hsend' hecho hblank hend =>
    cases hsend'.symm.trans hsend
    obtain ⟨left, k', hsplit, hd', hk'⟩ := echo hecho
    have hnone := split?_eq_none_of_delivers stable_lineEnds hd' (Nat.lt_of_le_of_lt hk' hk) hend
    refine .inr ⟨⟨_, rfl⟩, ?_⟩
    rw [hsplit]
    simp only [Option.bind_some, hblank, hnone, ↓reduceIte, Option.bind_none]
  | longer hsend' hecho hblank hend hne =>
    cases hsend'.symm.trans hsend
    obtain ⟨left, k', hsplit, hd', hk'⟩ := echo hecho
    obtain ⟨left', k'', hsplit', -⟩ :=
      split?_eq_some_of_delivers stable_lineEnds hd' (Nat.lt_of_le_of_lt hk' hk) hend
    refine .inr ⟨⟨_, rfl⟩, ?_⟩
    rw [hsplit]
    simp only [Option.bind_some, hblank, hsplit', hne, ↓reduceIte]
  | accepted hsend' hecho hblank hend hempty =>
    cases hsend'.symm.trans hsend
    obtain ⟨left, k', hsplit, hd', hk'⟩ := echo hecho
    obtain ⟨left', k'', hsplit', hd'', hk''⟩ :=
      split?_eq_some_of_delivers stable_lineEnds hd' (Nat.lt_of_le_of_lt hk' hk) hend
    refine .inl ⟨rfl, left', k'', ?_, hd'', Nat.le_trans hk'' hk'⟩
    rw [hsplit]
    simp only [Option.bind_some, hblank, hsplit', hempty, ↓reduceIte]

/-- What comes of the wait for a prompt on a device that delivers. -/
theorem PromptRun.of_delivers {timeout : Span} {s s' : Session δ} {x : Except Error Match}
    (h : PromptRun timeout s x s') (hd : Transport.Delivers k out s.device)
    (hk : k < timeout.nanos) :
    (∃ m left k', x = .ok m ∧ clean? (s.buffer ++ out) = some (m, s'.buffer ++ left) ∧
      Transport.Delivers k' left s'.device ∧ k' ≤ k) ∨
    (∃ e, x = .error e) ∧ clean? (s.buffer ++ out) = none := by
  unfold clean?
  cases h with
  | noPrompt hwait =>
    rw [split?_eq_none_of_delivers (Pattern.stable_literal _) hd hk hwait]
    exact .inr ⟨⟨_, rfl⟩, rfl⟩
  | reported hwait hmark =>
    obtain ⟨left, k', hsplit, -⟩ := split?_eq_some_of_delivers (Pattern.stable_literal _) hd hk hwait
    rw [hsplit]
    exact .inr ⟨⟨_, rfl⟩, if_pos (Bytes.contains_iff.2 hmark)⟩
  | clean hwait hmark =>
    obtain ⟨left, k', hsplit, hd', hk'⟩ :=
      split?_eq_some_of_delivers (Pattern.stable_literal _) hd hk hwait
    rw [hsplit]
    exact .inl ⟨_, left, k', rfl, if_neg fun hc => hmark (Bytes.contains_iff.1 hc), hd', hk'⟩

/-- Running a command on a device that delivers does to the whole stream what `answer?` does. -/
theorem runCommand_of_delivers {c c' : Client δ} {timeout : Span} {x : Except Error Match}
    (hstate : c.state ≠ .exited)
    (hw : Transport.writeAll (Bytes.ofText cmd ++ lineEnd) c.session.device = (.ok (), d))
    (hd : Transport.Delivers k out d) (hk : k < echoTimeout.nanos) (hkt : k < timeout.nanos)
    (h : runCommand cmd timeout c = (x, c')) :
    (∃ m left k', x = .ok m ∧
      answer? (Bytes.ofText cmd) (c.session.buffer ++ out) = some (m, c'.session.buffer ++ left) ∧
      Transport.Delivers k' left c'.session.device ∧ c'.state = .promptReady) ∨
    (∃ e, x = .error e) ∧ answer? (Bytes.ofText cmd) (c.session.buffer ++ out) = none := by
  unfold runCommand at h
  unfold answer?
  rcases Act.bind_eq_iff.1 h with ⟨e, hsend, rfl⟩ | ⟨_, c₁, hsend, hprompt⟩
  · rcases (sendCommand_run hstate hsend).2.of_delivers hw hd hk with ⟨he, -⟩ | ⟨-, hnone⟩
    · cases he
    · exact .inr ⟨⟨_, rfl⟩, by rw [hnone]; rfl⟩
  rcases (sendCommand_run hstate hsend).2.of_delivers hw hd hk with
    ⟨-, left, k', hecho, hd', hk'⟩ | ⟨⟨_, he⟩, -⟩
  · rw [hecho, Option.bind_some]
    rcases Act.mapError_eq_iff.1 hprompt with ⟨e, hp, rfl⟩ | ⟨m, hp, rfl⟩
    · rcases (assertPrompt_run hp).1.of_delivers hd' (Nat.lt_of_le_of_lt hk' hkt) with
        ⟨_, _, _, he, -⟩ | ⟨-, hnone⟩
      · cases he
      · exact .inr ⟨⟨_, rfl⟩, hnone⟩
    · obtain ⟨hrun, hready⟩ := assertPrompt_run hp
      rcases hrun.of_delivers hd' (Nat.lt_of_le_of_lt hk' hkt) with
        ⟨m', left', k'', hm, hclean, hd'', -⟩ | ⟨⟨_, he⟩, -⟩
      · cases hm
        exact .inl ⟨m, left', k'', rfl, hclean, hd'', hready m rfl⟩
      · cases he
  · cases he

/-- A command is taken for done exactly if the stream is an answer to it. Then its output is what was
matched before the prompt, and what follows the prompt is all that is left, read or not. -/
theorem runCommand_ok_iff {c : Client δ} {timeout : Span} (hcmd : Solid (Bytes.ofText cmd))
    (hstate : c.state ≠ .exited)
    (hw : Transport.writeAll (Bytes.ofText cmd ++ lineEnd) c.session.device = (.ok (), d))
    (hd : Transport.Delivers k out d) (hk : k < echoTimeout.nanos) (hkt : k < timeout.nanos) :
    (∀ m, (runCommand cmd timeout c).1 = .ok m ↔ ∃ output rest,
      Answers (Bytes.ofText cmd) (c.session.buffer ++ out) output rest ∧
        m = ⟨0, [], output, prompt⟩) ∧
    ∀ output rest, Answers (Bytes.ofText cmd) (c.session.buffer ++ out) output rest →
      (runCommand cmd timeout c).2.state = .promptReady ∧
      ∃ left k', (runCommand cmd timeout c).2.session.buffer ++ left = rest ∧
        Transport.Delivers k' left (runCommand cmd timeout c).2.session.device := by
  rcases h : runCommand cmd timeout c with ⟨x, c'⟩
  have answered : ∀ output rest, Answers (Bytes.ofText cmd) (c.session.buffer ++ out) output rest →
      answer? (Bytes.ofText cmd) (c.session.buffer ++ out) = some (⟨0, [], output, prompt⟩, rest) :=
    fun output rest ha => (answer?_eq_some_iff hcmd).2 ⟨ha, rfl⟩
  rcases runCommand_of_delivers hstate hw hd hk hkt h with
    ⟨m, left, k', rfl, hm, hd', hready⟩ | ⟨⟨e, rfl⟩, hnone⟩
  · refine ⟨fun m' => ⟨fun hm' => ?_, ?_⟩, fun output rest ha => ⟨hready, left, k', ?_, hd'⟩⟩
    · cases hm'
      obtain ⟨ha, hm'⟩ := (answer?_eq_some_iff hcmd).1 hm
      exact ⟨_, _, ha, hm'⟩
    · rintro ⟨output, rest, ha, rfl⟩
      cases hm.symm.trans (answered output rest ha)
      rfl
    · cases hm.symm.trans (answered output rest ha)
      rfl
  · refine ⟨fun m => ⟨nofun, ?_⟩, fun output rest ha => ?_⟩
    · rintro ⟨output, rest, ha, -⟩
      cases hnone.symm.trans (answered output rest ha)
    · cases hnone.symm.trans (answered output rest ha)

/-- A client with a blank line in its buffer, on a board whose answer has arrived in two pieces. -/
def aliasClient : Client Sim.World :=
  ⟨⟨{ board := { incoming :=
        [.data (Bytes.ofText "alias a\r\nd"), .data (Bytes.ofText "one\r\n(plo)% x")] } },
    Bytes.ofText "\r\n", none, false⟩, .promptReady⟩

theorem runCommand_ok_iff_alias :
    Solid (Bytes.ofText "alias a") ∧ aliasClient.state ≠ .exited ∧
    (∃ d, Transport.writeAll (Bytes.ofText "alias a" ++ lineEnd) aliasClient.session.device =
        (.ok (), d) ∧
      Transport.Delivers 0 (Bytes.ofText "alias a\r\ndone\r\n(plo)% x") d) ∧
    0 < echoTimeout.nanos ∧ 0 < (Span.ofSeconds 1).nanos ∧
    (runCommand "alias a" (.ofSeconds 1) aliasClient).1 =
      .ok ⟨0, [], Bytes.ofText "\ndone\r\n", prompt⟩ := by
  have hcmd : Solid (Bytes.ofText "alias a") := ⟨_, _, rfl, rfl⟩
  rcases hsent : Transport.writeAll (Bytes.ofText "alias a" ++ lineEnd) aliasClient.session.device
    with ⟨x, d⟩
  have hx : (Transport.writeAll (Bytes.ofText "alias a" ++ lineEnd) aliasClient.session.device).1 =
    .ok () := by cbv
  have hholds : Sim.World.Holds [Bytes.ofText "alias a\r\nd", Bytes.ofText "one\r\n(plo)% x"]
      (Transport.writeAll (Bytes.ofText "alias a" ++ lineEnd) aliasClient.session.device).2 :=
    ⟨by cbv, by cbv, by cbv, by cbv, by cbv⟩
  rw [hsent] at hx hholds
  obtain rfl : x = .ok () := hx
  have hd := Sim.World.delivers hholds
  refine ⟨hcmd, by decide, ⟨d, rfl, hd⟩, by decide, by decide, ?_⟩
  refine ((runCommand_ok_iff hcmd (by decide) hsent hd (by decide) (by decide)).1 _).2
    ⟨Bytes.ofText "\ndone\r\n", Bytes.ofText "x",
      ⟨Bytes.ofText "\r\n", 0x0D, by decide, List.all_eq_true.1 (by decide), .inl rfl,
      ?_, ?_⟩, rfl⟩
  · exact indexOf?_eq_some_iff_firstAt.1 (by decide)
  · exact Bytes.indexOf?_eq_none_iff.1 (by decide)

end Client
end BoardBench.Bootloader
