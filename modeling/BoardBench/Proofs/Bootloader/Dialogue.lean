import BoardBench.Bootloader.Client
import BoardBench.Proofs.Session.Stream

/-!
# The parts of a dialogue

What each part of a dialogue with the bootloader can come to: the sending of a line and the wait for
its echo (`EchoRun`), the wait for a marker (`MarkerRun`) and the wait for a prompt (`PromptRun`).
On a recorded session each part takes a known piece out of the stream when it succeeds, and writes no
more than its line whatever the device does.
-/

namespace BoardBench.Bootloader

open Journal Session

/-- A line as the bootloader repeats it: after blanks, and with the end of a line behind it. -/
inductive Echo (line : Bytes) : Bytes → Prop
  | mk {blanks : Bytes} {t : UInt8} : (∀ b ∈ blanks, Bytes.isBlank b = true) → t = 0x0D ∨ t = 0x0A →
      Echo line (blanks ++ line ++ [t])

/-- The two ends of a line that are waited for. -/
def lineEnds : List Pattern := [.literal [0x0D], .literal [0x0A]]

theorem prompt_ne_nil : prompt ≠ [] := by decide

theorem lineEnds_eq : lineEnds = [[0x0D], [0x0A]].map Pattern.literal := rfl

theorem stable_lineEnds : Pattern.Stable lineEnds := by
  rw [lineEnds_eq]
  exact Pattern.stable_literals (by decide)

/-- If a marker and the prompt each hold a byte that the other does not, the two can be waited for
together. -/
theorem stable_marker {marker : String} {a b : UInt8} (ha : a ∈ Bytes.ofText marker) (ha' : a ∉ prompt)
    (hb : b ∈ prompt) (hb' : b ∉ Bytes.ofText marker) : Pattern.Stable [.text marker, .literal prompt] := by
  show Pattern.Stable ([Bytes.ofText marker, prompt].map Pattern.literal)
  refine Pattern.stable_literals fun x hx y hy hxy => ?_
  simp only [List.mem_cons, List.not_mem_nil, or_false] at hx hy
  rcases hx with rfl | rfl <;> rcases hy with rfl | rfl
  · rfl
  · exact absurd (hxy.subset ha) ha'
  · exact absurd (hxy.subset hb) hb'
  · rfl

theorem stable_warning : Pattern.Stable [.text dataLossWarning, .literal prompt] :=
  stable_marker (a := 0x53) (b := 0x28) (by decide) (by decide) (by decide) (by decide)

theorem stable_erased : Pattern.Stable [.text erased, .literal prompt] :=
  stable_marker (a := 0x45) (b := 0x28) (by decide) (by decide) (by decide) (by decide)

/-- A line end that comes first of all is the first byte. -/
theorem split?_lineEnds_iff {bytes rest : Bytes} {m : Match} :
    Pattern.split? lineEnds bytes = some (m, rest) ∧ m.before = [] ↔
      ∃ t, (t = 0x0D ∨ t = 0x0A) ∧ bytes = t :: rest ∧
        m = ⟨if t = 0x0D then 0 else 1, [], [], [t]⟩ := by
  rw [lineEnds_eq, Pattern.split?_literals_iff]
  constructor
  · rintro ⟨⟨needle, hn, hg, hm, rfl, -⟩, hb⟩
    rcases m with ⟨i, g, b, x⟩
    cases hb
    cases hg
    cases hm
    rcases i with _ | _ | i
    · cases hn
      exact ⟨0x0D, .inl rfl, rfl, rfl⟩
    · cases hn
      exact ⟨0x0A, .inr rfl, rfl, rfl⟩
    · cases hn
  · rintro ⟨t, rfl | rfl, rfl, rfl⟩
    · exact ⟨⟨_, rfl, rfl, rfl, rfl, nofun, nofun⟩, rfl⟩
    · refine ⟨⟨_, rfl, rfl, rfl, rfl, nofun, fun i hi n hn => ?_⟩, rfl⟩
      obtain rfl : i = 0 := by simpa using hi
      cases hn
      rw [show (⟨1, [], [], [10]⟩ : Match).before.length = 0 from rfl, Bytes.occursAt_zero]
      simp

namespace Client

variable {δ : Type}

theorem onSession_eq_iff {α : Type} {x : Act (Session δ) α} {c c' : Client δ} {r : Except Error α} :
    onSession x c = (r, c') ↔ ∃ s, x c.session = (r, s) ∧ c' = { c with session := s } :=
  Act.zoom_eq_iff

variable [Bench δ] [Transport δ]

/-- What every command ends with: the wait for a prompt without an error before it. -/
def finishCommand (cmd : String) (timeout : Span) : Act (Client δ) Unit := do
  let _ ← (assertPrompt timeout true).mapError (·.withCommand cmd)

/-- A wait with its error reworded is a wait of the session. -/
theorem expect_mapError {ps : List Pattern} {timeout : Span} {f : Error → Error} {c c' : Client δ}
    {x : Except Error Match} (h : (expect ps timeout).mapError f c = (x, c')) :
    ∃ y s, Session.expect ps timeout c.session = (y, s) ∧ c' = { c with session := s } ∧
      x = y.mapError f := by
  obtain ⟨e, he, rfl⟩ | ⟨m, hm, rfl⟩ := Act.mapError_eq_iff.1 h
  · obtain ⟨s, hs, rfl⟩ := onSession_eq_iff.1 he
    exact ⟨.error e, s, hs, rfl, rfl⟩
  · obtain ⟨s, hs, rfl⟩ := onSession_eq_iff.1 hm
    exact ⟨.ok m, s, hs, rfl, rfl⟩

/-! ## Echoes -/

/-- How the sending of a line and the wait for its echo can end. -/
inductive EchoRun (cmd : String) (s : Session δ) : Except Error Unit → Session δ → Prop
  | unsent {e s'} : Session.sendLine (Bytes.ofText cmd) s = (.error e, s') →
      EchoRun cmd s (.error e) s'
  | noEcho {s₁ e s'} : Session.sendLine (Bytes.ofText cmd) s = (.ok (), s₁) →
      Session.expect [.text cmd] echoTimeout s₁ = (.error e, s') →
      EchoRun cmd s (.error (e.withCommand cmd)) s'
  | early {s₁ m s'} : Session.sendLine (Bytes.ofText cmd) s = (.ok (), s₁) →
      Session.expect [.text cmd] echoTimeout s₁ = (.ok m, s') → ¬ m.before.all Bytes.isBlank →
      EchoRun cmd s (.error (.device cmd "unexpected output before command echo" m.beforeText)) s'
  | noEnd {s₁ m s₂ e s'} : Session.sendLine (Bytes.ofText cmd) s = (.ok (), s₁) →
      Session.expect [.text cmd] echoTimeout s₁ = (.ok m, s₂) → m.before.all Bytes.isBlank →
      Session.expect lineEnds echoTimeout s₂ = (.error e, s') →
      EchoRun cmd s (.error (e.withCommand cmd)) s'
  | longer {s₁ m s₂ m' s'} : Session.sendLine (Bytes.ofText cmd) s = (.ok (), s₁) →
      Session.expect [.text cmd] echoTimeout s₁ = (.ok m, s₂) → m.before.all Bytes.isBlank →
      Session.expect lineEnds echoTimeout s₂ = (.ok m', s') → m'.before ≠ [] →
      EchoRun cmd s (.error (.device cmd "command echo continues past the command" m'.beforeText)) s'
  | accepted {s₁ m s₂ m' s'} : Session.sendLine (Bytes.ofText cmd) s = (.ok (), s₁) →
      Session.expect [.text cmd] echoTimeout s₁ = (.ok m, s₂) → m.before.all Bytes.isBlank →
      Session.expect lineEnds echoTimeout s₂ = (.ok m', s') → m'.before = [] →
      EchoRun cmd s (.ok ()) s'

theorem sendCommand_exited {cmd : String} {c : Client δ} (h : c.state = .exited) :
    sendCommand cmd c =
      (.error (.unsupported ("cannot send `" ++ cmd ++ "`: plo already handed over to the OS")),
        c) := by
  unfold sendCommand
  rw [Act.state_bind, if_pos h, Act.fail_bind]

theorem sendCommand_run {cmd : String} {c c' : Client δ} {x : Except Error Unit}
    (hs : c.state ≠ .exited) (h : sendCommand cmd c = (x, c')) :
    c'.state = .busy ∧ EchoRun cmd c.session x c'.session := by
  unfold sendCommand at h
  simp only [Act.state_bind, if_neg hs, enter, Act.change_bind] at h
  rcases Act.bind_eq_iff.1 h with ⟨e, hline, rfl⟩ | ⟨_, c₁, hline, h⟩
  · obtain ⟨s', hsend, rfl⟩ := onSession_eq_iff.1 hline
    exact ⟨rfl, .unsent hsend⟩
  obtain ⟨s₁, hsend, rfl⟩ := onSession_eq_iff.1 hline
  rcases Act.bind_eq_iff.1 h with ⟨e, hwait, rfl⟩ | ⟨m, c₂, hwait, h⟩ <;>
    obtain ⟨_ | m, s₂, hecho, rfl, hx⟩ := expect_mapError hwait <;> cases hx
  · exact ⟨rfl, .noEcho hsend hecho⟩
  split at h
  · rename_i hblank
    rcases Act.bind_eq_iff.1 h with ⟨e, hwait', rfl⟩ | ⟨m', c₃, hwait', h⟩ <;>
      obtain ⟨_ | m', s₃, hend, rfl, hx⟩ := expect_mapError hwait' <;> cases hx
    · exact ⟨rfl, .noEnd hsend hecho hblank hend⟩
    split at h <;> rename_i hempty
    · cases h
      exact ⟨rfl, .accepted hsend hecho hblank hend (List.isEmpty_iff.1 hempty)⟩
    · cases h
      exact ⟨rfl, .longer hsend hecho hblank hend fun h => hempty (List.isEmpty_iff.2 h)⟩
  · rename_i hblank
    cases h
    exact ⟨rfl, .early hsend hecho hblank⟩

/-! ## Prompts and markers -/

/-- How the wait for a prompt without an error before it can end. -/
inductive PromptRun (timeout : Span) (s : Session δ) : Except Error Match → Session δ → Prop
  | noPrompt {e s'} : Session.expect [.literal prompt] timeout s = (.error e, s') →
      PromptRun timeout s (.error e) s'
  | reported {m s'} : Session.expect [.literal prompt] timeout s = (.ok m, s') →
      Occurs errorMarker m.before →
      PromptRun timeout s (.error (.device "" "plo reported an error" m.beforeText)) s'
  | clean {m s'} : Session.expect [.literal prompt] timeout s = (.ok m, s') →
      ¬ Occurs errorMarker m.before → PromptRun timeout s (.ok m) s'

theorem assertPrompt_run {timeout : Span} {c c' : Client δ} {x : Except Error Match}
    (h : assertPrompt timeout true c = (x, c')) :
    PromptRun timeout c.session x c'.session ∧ (∀ m, x = .ok m → c'.state = .promptReady) := by
  unfold assertPrompt waitPrompt at h
  rw [Act.bind_assoc] at h
  rcases Act.bind_eq_iff.1 h with ⟨e, hexp, rfl⟩ | ⟨m, c₁, hexp, h⟩
  · obtain ⟨s', hwait, rfl⟩ := onSession_eq_iff.1 hexp
    exact ⟨.noPrompt hwait, nofun⟩
  obtain ⟨s', hwait, rfl⟩ := onSession_eq_iff.1 hexp
  simp only [enter, Act.bind_assoc, Act.change_bind, Bool.true_and] at h
  rw [Act.bind_ok (Act.pure_apply m _)] at h
  split at h
  · rename_i hmark
    cases h
    exact ⟨.reported hwait (Bytes.contains_iff.1 hmark), nofun⟩
  · rename_i hmark
    cases h
    exact ⟨.clean hwait fun hocc => hmark (Bytes.contains_iff.2 hocc), fun _ _ => rfl⟩

/-- How the wait for a marker can end. -/
inductive MarkerRun (marker : String) (timeout : Span) (cmd : String) (s : Session δ) :
    Except Error Unit → Session δ → Prop
  | missing {e s'} : Session.expect [.text marker, .literal prompt] timeout s = (.error e, s') →
      MarkerRun marker timeout cmd s (.error (e.withCommand cmd)) s'
  | refused {m s'} : Session.expect [.text marker, .literal prompt] timeout s = (.ok m, s') →
      m.index = 1 → MarkerRun marker timeout cmd s
        (.error (.device cmd ("prompt returned before " ++ Text.quoted marker) m.beforeText)) s'
  | found {m s'} : Session.expect [.text marker, .literal prompt] timeout s = (.ok m, s') →
      m.index ≠ 1 → MarkerRun marker timeout cmd s (.ok ()) s'

theorem expectOrRefused_run {marker : String} {timeout : Span} {cmd : String} {c c' : Client δ}
    {x : Except Error Unit} (h : expectOrRefused marker timeout cmd c = (x, c')) :
    MarkerRun marker timeout cmd c.session x c'.session ∧ (x = .ok () → c'.state = c.state) := by
  unfold expectOrRefused at h
  rcases Act.bind_eq_iff.1 h with ⟨e, hwait, rfl⟩ | ⟨m, c₁, hwait, h⟩ <;>
    obtain ⟨_ | m, s', hm, rfl, hx⟩ := expect_mapError hwait <;> cases hx
  · exact ⟨.missing hm, nofun⟩
  split at h
  · rename_i hi
    cases h
    exact ⟨.refused hm hi, nofun⟩
  · rename_i hi
    cases h
    exact ⟨.found hm hi, fun _ => rfl⟩

/-! ## On a recorded session -/

section recorded

variable {c c' : Client (Recorded δ)} {s s' : Session (Recorded δ)}

/-- The line is written, all of it if its echo is accepted, and then the echo is handed out. -/
theorem EchoRun.spec {cmd : String} {x : Except Error Unit} (h : EchoRun cmd s x s') :
    ∃ j bytes, s.Exchanges (Bytes.ofText cmd ++ lineEnd) [] j bytes s' ∧
      (x = .ok () → written j = Bytes.ofText cmd ++ lineEnd ∧ Echo (Bytes.ofText cmd) bytes) := by
  cases h with
  | unsent hsend =>
    obtain ⟨j, hj, -⟩ := send_spec hsend
    exact ⟨j, _, hj, nofun⟩
  | noEcho hsend hecho =>
    obtain ⟨j, hj, -⟩ := send_spec hsend
    obtain ⟨k, bytes, hk⟩ := hj.expect hecho
    exact ⟨k, bytes, hk, nofun⟩
  | early hsend hecho _ =>
    obtain ⟨j, hj, -⟩ := send_spec hsend
    obtain ⟨k, bytes, hk⟩ := hj.expect hecho
    exact ⟨k, bytes, hk, nofun⟩
  | noEnd hsend hecho _ hend =>
    obtain ⟨j, hj, -⟩ := send_spec hsend
    obtain ⟨k, bytes, hk⟩ := hj.expect hecho
    obtain ⟨l, bytes', hl⟩ := hk.expect hend
    exact ⟨l, bytes', hl, nofun⟩
  | longer hsend hecho _ hend _ =>
    obtain ⟨j, hj, -⟩ := send_spec hsend
    obtain ⟨k, bytes, hk⟩ := hj.expect hecho
    obtain ⟨l, bytes', hl⟩ := hk.expect hend
    exact ⟨l, bytes', hl, nofun⟩
  | accepted hsend hecho hblank hend hempty =>
    obtain ⟨j, hj, hw⟩ := send_spec hsend
    obtain ⟨k, hk, he⟩ := expect_spec hecho
    obtain ⟨l, hl, he'⟩ := expect_spec hend
    cases he with | met hc hsplit =>
    cases he' with | met hc' hsplit' =>
    refine ⟨_, _, (hj.listen hc hk).listen hc' hl, fun _ => ⟨?_, ?_⟩⟩
    · rw [written_append, written_append, hk.written_nil, hl.written_nil, hw rfl]
      simp
    · obtain ⟨t, ht, -, rfl⟩ := split?_lineEnds_iff.1 ⟨hsplit', hempty⟩
      rw [(Pattern.split?_literal_iff.1 hsplit).1]
      exact .mk (List.all_eq_true.1 hblank) ht

/-- The prompt that ends the wait is the first one, and no error was announced before it. -/
theorem PromptRun.spec {timeout : Span} {x : Except Error Match} (h : PromptRun timeout s x s') :
    ∃ j bytes, Listens j ∧ s.Consumes j bytes s' ∧ ∀ m, x = .ok m →
      m = ⟨0, [], m.before, prompt⟩ ∧ bytes = m.before ++ prompt ∧ ¬ Occurs errorMarker m.before ∧
        ¬ Occurs prompt m.before := by
  cases h with
  | noPrompt hwait =>
    obtain ⟨j, bytes, hj, hc⟩ := consumes_of_expect hwait
    exact ⟨j, bytes, hj, hc, nofun⟩
  | reported hwait _ =>
    obtain ⟨j, bytes, hj, hc⟩ := consumes_of_expect hwait
    exact ⟨j, bytes, hj, hc, nofun⟩
  | @clean m s' hwait hmark =>
    obtain ⟨j, hj, he⟩ := expect_spec hwait
    cases he with | met hc hsplit =>
    obtain ⟨hm, hbytes, hfirst⟩ := Pattern.split?_literal_iff.1 hsplit
    refine ⟨j, _, hj, hc, fun m' hm' => ?_⟩
    cases hm'
    rw [hbytes, List.append_assoc] at hfirst
    exact ⟨hm, by rw [hm], hmark, not_occurs_of_not_begins prompt_ne_nil hfirst⟩

/-- The marker that ends the wait stands before any prompt. -/
theorem MarkerRun.spec {marker : String} {timeout : Span} {cmd : String} {x : Except Error Unit}
    (h : MarkerRun marker timeout cmd s x s') :
    ∃ j bytes, Listens j ∧ s.Consumes j bytes s' ∧ (x = .ok () →
      ∃ before, bytes = before ++ Bytes.ofText marker ∧ ¬ Occurs prompt before) := by
  cases h with
  | missing hwait =>
    obtain ⟨j, bytes, hj, hc⟩ := consumes_of_expect hwait
    exact ⟨j, bytes, hj, hc, nofun⟩
  | refused hwait _ =>
    obtain ⟨j, bytes, hj, hc⟩ := consumes_of_expect hwait
    exact ⟨j, bytes, hj, hc, nofun⟩
  | @found m s' hwait hi =>
    obtain ⟨j, hj, he⟩ := expect_spec hwait
    cases he with | met hc hsplit =>
    refine ⟨j, _, hj, hc, fun _ => ?_⟩
    rw [show [Pattern.text marker, .literal prompt] =
        [Bytes.ofText marker, prompt].map .literal from rfl,
      Pattern.split?_literals_iff] at hsplit
    obtain ⟨needle, hneedle, -, hm, hbytes, hnone, -⟩ := hsplit
    have hfirst := hnone prompt (List.mem_cons_of_mem _ List.mem_cons_self)
    rw [hbytes, List.append_assoc] at hfirst
    have hmarker : needle = Bytes.ofText marker := by
      rcases hidx : m.index with _ | _ | i <;> rw [hidx] at hneedle
      · exact (Option.some.inj hneedle).symm
      · exact absurd hidx hi
      · cases hneedle
    exact ⟨m.before, by rw [hm, hmarker], not_occurs_of_not_begins prompt_ne_nil hfirst⟩

end recorded

/-- Whatever the device does, `x` writes no more than `out` and tells of no more than `news`. If it
succeeds, then `out` is written and `news` told in full, and `P` holds of its value and of what it
handed out of the stream. -/
def Does {α : Type} (x : Act (Client (Recorded δ)) α) (out : Bytes) (news : List (Nat × Nat))
    (P : α → Bytes → Prop) : Prop :=
  ∀ c r c', x c = (r, c') → ∃ j bytes, c.session.Exchanges out news j bytes c'.session ∧
    ∀ a, r = .ok a → written j = out ∧ told j = news ∧ P a bytes

namespace Does

variable {α β : Type} {x : Act (Client (Recorded δ)) α} {out out' : Bytes}
  {news news' : List (Nat × Nat)} {P P' : α → Bytes → Prop}

omit [Bench δ] [Transport δ]

theorem pure (a : α) :
    Does (Pure.pure a : Act (Client (Recorded δ)) α) [] [] fun b bytes => b = a ∧ bytes = [] := by
  intro c r c' h
  cases h
  exact ⟨[], [], .refl _ _ _, fun b hb => ⟨rfl, rfl, (Except.ok.inj hb).symm, rfl⟩⟩

theorem mono (h : Does x out news P) (hP : ∀ a bytes, P a bytes → P' a bytes) :
    Does x out news P' := by
  intro c r c' hx
  obtain ⟨j, bytes, hj, hok⟩ := h c r c' hx
  exact ⟨j, bytes, hj, fun a ha => ⟨(hok a ha).1, (hok a ha).2.1, hP _ _ (hok a ha).2.2⟩⟩

theorem mapError (h : Does x out news P) (f : Error → Error) : Does (x.mapError f) out news P := by
  intro c r c' hrun
  rcases Act.mapError_eq_iff.1 hrun with ⟨e, hx, rfl⟩ | ⟨a, hx, rfl⟩
  · obtain ⟨j, bytes, hj, -⟩ := h c _ c' hx
    exact ⟨j, bytes, hj, nofun⟩
  · exact h c _ c' hx

/-- What two parts do in turn. -/
theorem bind {f : α → Act (Client (Recorded δ)) β} {Q : α → β → Bytes → Prop} (h : Does x out news P)
    (hf : ∀ a, Does (f a) out' news' (Q a)) :
    Does (x >>= f) (out ++ out') (news ++ news')
      fun b bytes => ∃ a front back, bytes = front ++ back ∧ P a front ∧ Q a b back := by
  intro c r c' hrun
  rcases Act.bind_eq_iff.1 hrun with ⟨e, hx, rfl⟩ | ⟨a, t, hx, hfa⟩
  · obtain ⟨j, bytes, hj, -⟩ := h c _ c' hx
    exact ⟨j, bytes, hj.mono out' news', nofun⟩
  · obtain ⟨j, front, hj, hok⟩ := h c _ t hx
    obtain ⟨hw, ht, hP⟩ := hok a rfl
    obtain ⟨k, back, hk, hok'⟩ := hf a t r c' hfa
    refine ⟨j ++ k, front ++ back, hj.trans hw ht hk, fun b hb => ?_⟩
    obtain ⟨hw', ht', hQ⟩ := hok' b hb
    exact ⟨by rw [written_append, hw, hw'], by rw [told_append, ht, ht'], a, front, back, rfl, hP,
      hQ⟩

end Does

omit [Transport δ] in
theorem note_does (text : String) :
    Does (note text : Act (Client (Recorded δ)) Unit) [] [] fun _ bytes => bytes = [] := by
  intro c r c' h
  obtain ⟨s, hs, rfl⟩ := onSession_eq_iff.1 h
  cases hs
  exact ⟨[], [], ⟨⟨(List.append_nil _).symm, List.append_nil _⟩, List.nil_prefix, List.nil_prefix⟩,
    fun _ _ => ⟨rfl, rfl, rfl⟩⟩

theorem sendCommand_does (cmd : String) :
    Does (sendCommand cmd : Act (Client (Recorded δ)) Unit) (Bytes.ofText cmd ++ lineEnd) []
      fun _ bytes => Echo (Bytes.ofText cmd) bytes := by
  intro c r c' h
  by_cases hs : c.state = .exited
  · rw [sendCommand_exited hs] at h
    cases h
    exact ⟨[], [], .refl _ _ _, nofun⟩
  · obtain ⟨j, bytes, hj, hok⟩ := (sendCommand_run hs h).2.spec
    exact ⟨j, bytes, hj, fun _ ha => ⟨(hok ha).1, List.prefix_nil.1 hj.told, (hok ha).2⟩⟩

theorem expectOrRefused_does (marker : String) (timeout : Span) (cmd : String) :
    Does (expectOrRefused marker timeout cmd : Act (Client (Recorded δ)) Unit) [] []
      fun _ bytes => ∃ before, bytes = before ++ Bytes.ofText marker ∧ ¬ Occurs prompt before := by
  intro c r c' h
  obtain ⟨j, bytes, hl, hj, hok⟩ := (expectOrRefused_run h).1.spec
  exact ⟨j, bytes, hj.exchanges hl, fun _ ha => ⟨hl.written_nil, hl.told_nil, hok ha⟩⟩

theorem assertPrompt_does (timeout : Span) :
    Does (assertPrompt timeout true : Act (Client (Recorded δ)) Match) [] [] fun m bytes =>
      m = ⟨0, [], m.before, prompt⟩ ∧ bytes = m.before ++ prompt ∧ ¬ Occurs errorMarker m.before ∧
        ¬ Occurs prompt m.before := by
  intro c r c' h
  obtain ⟨j, bytes, hl, hj, hok⟩ := (assertPrompt_run h).1.spec
  exact ⟨j, bytes, hj.exchanges hl, fun m hm => ⟨hl.written_nil, hl.told_nil, hok m hm⟩⟩

theorem finishCommand_does (cmd : String) (timeout : Span) :
    Does (finishCommand cmd timeout : Act (Client (Recorded δ)) Unit) [] [] fun _ bytes =>
      ∃ output, bytes = output ++ prompt ∧ ¬ Occurs errorMarker output ∧ ¬ Occurs prompt output := by
  have h := ((assertPrompt_does (δ := δ) timeout).mapError (·.withCommand cmd)).bind fun _ =>
    Does.pure ()
  refine h.mono fun _ bytes => ?_
  rintro ⟨m, _, _, rfl, ⟨-, rfl, hmark, hprompt⟩, -, rfl⟩
  exact ⟨m.before, List.append_nil _, hmark, hprompt⟩

end Client
end BoardBench.Bootloader
