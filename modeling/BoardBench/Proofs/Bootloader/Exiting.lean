import BoardBench.Proofs.Bootloader.Chunking
import BoardBench.Proofs.Bootloader.ReportedErrors

/-!
# After the system was started

A client that has started the system sends no command: a request that would send one is refused, and
nothing is asked of the transport for it (`perform_refused`). This holds until a request that waits for
the prompt reads one, whoever printed it. From then on the client takes the bootloader for ready
(`perform_exited`, `exited_until_prompt`).
-/

namespace BoardBench.Bootloader.Request

open Client

/-- The command that the request has the bootloader run. -/
def command? : Request → Option String
  | sendCommand cmd | runCommand cmd _ => some cmd
  | operate op => some op.line
  | enterBootloader | waitPrompt _ | assertPrompt .. | exitToOs => none

/-- What comes of a command that is not sent. -/
def refusal (cmd : String) : Error :=
  .unsupported ("cannot send `" ++ cmd ++ "`: plo already handed over to the OS")

variable {δ : Type} [Bench δ] [Transport δ]

/-- The request waits for the prompt, and reads one. -/
inductive ReadsPrompt : Request → Client δ → Prop
  | entered {c m s₁ s₂ m' s'} :
      Session.expect [.literal banner] bannerTimeout c.session = (.ok m, s₁) →
      Session.sendLine (Bytes.ofText "") s₁ = (.ok (), s₂) →
      Session.expect [.literal prompt] promptTimeout s₂ = (.ok m', s') → ReadsPrompt enterBootloader c
  | waited {timeout c m s'} : Session.expect [.literal prompt] timeout c.session = (.ok m, s') →
      ReadsPrompt (waitPrompt timeout) c
  | asserted {timeout check c m s'} :
      Session.expect [.literal prompt] timeout c.session = (.ok m, s') →
      ReadsPrompt (assertPrompt timeout check) c

/-- The client after requests, each made whatever came of the one before. -/
def after (progress : Nat → Nat → δ → δ) (reqs : List Request) (c : Client δ) : Client δ :=
  reqs.foldl (fun c req => (req.perform progress c).2) c

/-! ## One request -/

/-- Nothing was done, except that something was taken note of. -/
inductive Untouched (c : Client δ) : Client δ → Prop
  | same : Untouched c c
  | noted (text : String) : Untouched c (Client.note text c).2

section

variable {progress : Nat → Nat → δ → δ} {req : Request} {c c' : Client δ}

omit [Transport δ] in
theorem Untouched.state_eq (h : Untouched c c') : c'.state = c.state := by
  cases h <;> rfl

omit [Transport δ] in
theorem Untouched.buffer_eq (h : Untouched c c') : c'.session.buffer = c.session.buffer := by
  cases h <;> rfl

omit [Transport δ] in
theorem Untouched.journal_eq {r r' : Client (Recorded δ)} (h : Untouched r r') :
    r'.session.device.journal = r.session.device.journal := by
  cases h <;> rfl

/-- A client that has started the system sends no command. -/
theorem perform_refused {line : String} (hc : c.state = .exited) (hline : req.command? = some line) :
    ∃ c', req.perform progress c = (.error (refusal line), c') ∧ Untouched c c' := by
  have sends {α : Type} (cmd : String) (k : Unit → Act (Client δ) α) :
      (Client.sendCommand cmd >>= k) c = (.error (refusal cmd), c) :=
    Act.bind_error (sendCommand_exited hc)
  have notes {α : Type} (text cmd : String) (k : Unit → Act (Client δ) α) :
      (do
        Client.note text
        Client.sendCommand cmd >>= k) c = (.error (refusal cmd), (Client.note text c).2) := by
    have hnote : Client.note text c = (.ok (), (Client.note text c).2) := rfl
    rw [Act.bind_ok hnote]
    exact Act.bind_error (sendCommand_exited hc)
  cases req with
  | enterBootloader => cases hline
  | waitPrompt _ => cases hline
  | assertPrompt _ _ => cases hline
  | exitToOs => cases hline
  | sendCommand cmd =>
    obtain rfl := Option.some.inj hline
    exact ⟨c, sends cmd _, .same⟩
  | runCommand cmd timeout =>
    obtain rfl := Option.some.inj hline
    refine ⟨c, ?_, .same⟩
    show (some <$> Client.runCommand cmd timeout) c = _
    rw [Act.map_apply, Client.runCommand, sends]
    rfl
  | operate op =>
    obtain rfl := Option.some.inj hline
    have hop : ∃ c', op.perform progress c = (.error (refusal op.line), c') ∧ Untouched c c' := by
      rw [Operation.perform_eq]
      by_cases hsingle : op.single = true
      · rw [Operation.opening_of_single hsingle]
        exact ⟨c, sends _ _, .same⟩
      cases op with
      | erase device offset size timeout =>
        simp only [Operation.opening, awaitWarning, Act.bind_assoc]
        exact ⟨_, notes _ _ _, .noted _⟩
      | format spec =>
        simp only [Operation.opening, startFormat, Act.bind_assoc]
        exact ⟨_, notes _ _ _, .noted _⟩
      | _ => exact absurd rfl hsingle
    obtain ⟨c', hc', huntouched⟩ := hop
    refine ⟨c', ?_, huntouched⟩
    show ((fun _ => none) <$> op.perform progress) c = _
    rw [Act.map_apply, hc']
    rfl

/-- The state after a wait for the prompt. -/
theorem waitPrompt_state (timeout : Span) (c : Client δ) :
    (Client.waitPrompt timeout c).2.state = .promptReady ∧
        (∃ m s, Session.expect [.literal prompt] timeout c.session = (.ok m, s)) ∨
      (Client.waitPrompt timeout c).2.state = c.state ∧
        ¬ ∃ m s, Session.expect [.literal prompt] timeout c.session = (.ok m, s) := by
  unfold Client.waitPrompt Client.expect
  rcases hwait : Session.expect [.literal prompt] timeout c.session with ⟨e | m, s⟩
  · rw [Act.bind_error (onSession_eq_iff.2 ⟨s, hwait, rfl⟩)]
    exact .inr ⟨rfl, nofun⟩
  · rw [Act.bind_ok (onSession_eq_iff.2 ⟨s, hwait, rfl⟩)]
    exact .inl ⟨rfl, m, s, rfl⟩

theorem assertPrompt_state (timeout : Span) (check : Bool) (c : Client δ) :
    (Client.assertPrompt timeout check c).2.state = (Client.waitPrompt timeout c).2.state := by
  unfold Client.assertPrompt
  rcases hwait : Client.waitPrompt timeout c with ⟨e | m, c'⟩
  · rw [Act.bind_error hwait]
  · rw [Act.bind_ok hwait]
    split <;> rfl

theorem enterBootloader_state (c : Client δ) :
    (Client.enterBootloader c).2.state = .promptReady ∧ ReadsPrompt enterBootloader c ∨
      (Client.enterBootloader c).2.state = c.state ∧ ¬ ReadsPrompt enterBootloader c := by
  unfold Client.enterBootloader Client.expect Client.sendLine
  rcases hbanner : Session.expect [.literal banner] bannerTimeout c.session with ⟨e | m, s₁⟩
  · rw [Act.bind_error (onSession_eq_iff.2 ⟨s₁, hbanner, rfl⟩)]
    refine .inr ⟨rfl, fun h => ?_⟩
    cases h with | entered hbanner' _ _ =>
    cases hbanner.symm.trans hbanner'
  rw [Act.bind_ok (onSession_eq_iff.2 ⟨s₁, hbanner, rfl⟩)]
  rcases hline : Session.sendLine (Bytes.ofText "") s₁ with ⟨e | _, s₂⟩
  · rw [Act.bind_error (onSession_eq_iff.2 ⟨s₂, hline, rfl⟩)]
    refine .inr ⟨rfl, fun h => ?_⟩
    cases h with | entered hbanner' hline' _ =>
    cases hbanner.symm.trans hbanner'
    cases hline.symm.trans hline'
  rw [Act.bind_ok (onSession_eq_iff.2 ⟨s₂, hline, rfl⟩)]
  -- what follows the wait for the prompt leaves the state as it is
  have hrest {k : Match → Act (Client δ) Unit} (hk : ∀ m c, (k m c).2.state = c.state) (c : Client δ) :
      ((Client.waitPrompt promptTimeout >>= k) c).2.state =
        (Client.waitPrompt promptTimeout c).2.state := by
    rcases hprompt : Client.waitPrompt promptTimeout c with ⟨e | m', c'⟩
    · rw [Act.bind_error hprompt]
    · rw [Act.bind_ok hprompt]
      exact hk m' c'
  rw [hrest fun _ _ => rfl]
  obtain ⟨hstate, m', s', hprompt⟩ | ⟨hstate, hnone⟩ := waitPrompt_state promptTimeout ⟨s₂, c.state⟩
  · exact .inl ⟨hstate, .entered hbanner hline hprompt⟩
  · refine .inr ⟨hstate, fun h => ?_⟩
    cases h with | entered hbanner' hline' hprompt =>
    cases hbanner.symm.trans hbanner'
    cases hline.symm.trans hline'
    exact hnone ⟨_, _, hprompt⟩

theorem exitToOs_state (c : Client δ) :
    (Client.exitToOs c).2.state = c.state ∨ (Client.exitToOs c).2.state = .exited := by
  unfold Client.exitToOs Client.sendLine
  have hnote (text : String) : Client.note text c = (.ok (), (Client.note text c).2) := rfl
  rw [Act.bind_ok (hnote _)]
  rcases hline : Session.sendLine (Bytes.ofText Command.go.render)
    (Client.note "Leaving plo" c).2.session with ⟨e | _, s⟩
  · rw [Act.bind_error (onSession_eq_iff.2 ⟨s, hline, rfl⟩)]
    exact .inl rfl
  · rw [Act.bind_ok (onSession_eq_iff.2 ⟨s, hline, rfl⟩)]
    exact .inr rfl

theorem exitToOs_ok {c c' : Client δ} (h : Client.exitToOs c = (.ok (), c')) : c'.state = .exited := by
  obtain ⟨_, c₁, -, h⟩ := Act.bind_ok_iff.1 h
  obtain ⟨_, c₂, -, h⟩ := Act.bind_ok_iff.1 h
  cases h
  rfl

/-- A client that has started the system takes the bootloader for ready exactly if it reads a prompt. -/
theorem perform_exited (progress : Nat → Nat → δ → δ) (req : Request) (hc : c.state = .exited) :
    (req.perform progress c).2.state = .promptReady ∧ req.ReadsPrompt c ∨
      (req.perform progress c).2.state = .exited ∧ ¬ req.ReadsPrompt c := by
  have refused {line : String} (hline : req.command? = some line) :
      (req.perform progress c).2.state = .exited := by
    obtain ⟨c', hperform, huntouched⟩ :
        ∃ c', req.perform progress c = (.error (refusal line), c') ∧ Untouched c c' :=
      perform_refused hc hline
    rw [hperform]
    exact huntouched.state_eq.trans hc
  rw [← hc]
  cases req with
  | enterBootloader =>
    simp only [perform, Act.map_apply]
    exact enterBootloader_state c
  | waitPrompt timeout =>
    simp only [perform, Act.map_apply]
    obtain ⟨hstate, m, s, hm⟩ | ⟨hstate, hnone⟩ := waitPrompt_state timeout c
    · exact .inl ⟨hstate, .waited hm⟩
    · refine .inr ⟨hstate, fun h => ?_⟩
      cases h with | waited hm => exact hnone ⟨_, _, hm⟩
  | assertPrompt timeout check =>
    simp only [perform, Act.map_apply, assertPrompt_state]
    obtain ⟨hstate, m, s, hm⟩ | ⟨hstate, hnone⟩ := waitPrompt_state timeout c
    · exact .inl ⟨hstate, .asserted hm⟩
    · refine .inr ⟨hstate, fun h => ?_⟩
      cases h with | asserted hm => exact hnone ⟨_, _, hm⟩
  | sendCommand cmd => exact .inr ⟨(refused rfl).trans hc.symm, nofun⟩
  | runCommand cmd timeout => exact .inr ⟨(refused rfl).trans hc.symm, nofun⟩
  | operate op => exact .inr ⟨(refused rfl).trans hc.symm, nofun⟩
  | exitToOs =>
    simp only [perform, Act.map_apply]
    exact .inr ⟨(exitToOs_state c).elim id fun h => h.trans hc.symm, nofun⟩

end

/-! ## Many requests -/

/-- No request reads a prompt. -/
def NoPrompt (progress : Nat → Nat → δ → δ) (reqs : List Request) (c : Client δ) : Prop :=
  ∀ done req rest, reqs = done ++ req :: rest → ¬ req.ReadsPrompt (after progress done c)

theorem after_exited {progress : Nat → Nat → δ → δ} {reqs : List Request} {c : Client δ}
    (hc : c.state = .exited) (h : NoPrompt progress reqs c) : (after progress reqs c).state = .exited := by
  induction reqs generalizing c with
  | nil => exact hc
  | cons req reqs ih =>
    obtain ⟨-, hreads⟩ | ⟨hstate, -⟩ := perform_exited progress req hc
    · exact absurd hreads (h [] req reqs rfl)
    · refine ih hstate fun done req' rest hsplit => ?_
      exact h (req :: done) req' rest (congrArg (req :: ·) hsplit)

/-- When the system was started, the client stays so through all requests up to the first that reads a
prompt, which makes it take the bootloader for ready. Until then every request that would have the
bootloader run a command is refused; no call is made on the transport for it, and what was read and not
yet handed out stays. -/
theorem exited_until_prompt (progress : Nat → Nat → δ → δ) {c₀ c : Client δ}
    (hexit : Client.exitToOs c₀ = (.ok (), c)) (reqs : List Request) (h : NoPrompt progress reqs c) :
    let left := after progress reqs c
    left.state = .exited ∧ ∀ req : Request,
      ((req.perform progress left).2.state = .promptReady ∧ req.ReadsPrompt left ∨
        (req.perform progress left).2.state = .exited ∧ ¬ req.ReadsPrompt left) ∧
      ∀ line, req.command? = some line →
        ∃ r, req.perform (Recorded.tell progress) left.recorded = (.error (refusal line), r) ∧
          req.perform progress left = (.error (refusal line), r.plain) ∧
          r.state = .exited ∧ r.session.device.journal = [] ∧ r.session.buffer = left.session.buffer := by
  intro left
  have hleft : left.state = .exited := after_exited (exitToOs_ok hexit) h
  refine ⟨hleft, fun req => ⟨perform_exited progress req hleft, fun line hline => ?_⟩⟩
  obtain ⟨r, hr, huntouched⟩ : ∃ r, req.perform (Recorded.tell progress) left.recorded =
      (.error (refusal line), r) ∧ Untouched left.recorded r := perform_refused hleft hline
  have hmirror := perform_mirrors progress req left.recorded
  rw [hr] at hmirror
  exact ⟨r, hr, hmirror, huntouched.state_eq.trans hleft, huntouched.journal_eq, huntouched.buffer_eq⟩

/-- A client that has started the system with a prompt not yet handed out. -/
def staleClient : Client Sim.World := ⟨⟨{}, prompt, none, false⟩, .promptReady⟩

theorem exitToOs_stale : (Client.exitToOs staleClient).1 = .ok () ∧
    (Client.exitToOs staleClient).2.session.buffer = prompt := by
  have hgo : Command.go.render = "go!" := by decide
  unfold Client.exitToOs
  simp only [hgo]
  generalize "Leaving plo" = text
  constructor <;> cbv

/-- A command is refused when the system was started, but the prompt left over makes the client take the
bootloader for ready again. -/
theorem exited_until_prompt_stale :
    let c := (Client.exitToOs staleClient).2
    let left := after (fun _ _ w => w) [sendCommand "help"] c
    left.state = .exited ∧
      ((waitPrompt (.ofSeconds 1)).perform (fun _ _ w => w) left).2.state = .promptReady := by
  intro c left
  have hexit : Client.exitToOs staleClient = (.ok (), c) := Prod.ext exitToOs_stale.1 rfl
  have hnone : NoPrompt (fun _ _ w => w) [sendCommand "help"] c := by
    intro done req rest hsplit
    have hmem : req ∈ [sendCommand "help"] := hsplit ▸ by simp
    obtain rfl := List.mem_singleton.1 hmem
    exact nofun
  obtain ⟨hstate, hall⟩ := exited_until_prompt (fun _ _ w => w) hexit [sendCommand "help"] hnone
  refine ⟨hstate, ?_⟩
  obtain ⟨⟨hready, -⟩ | ⟨-, hblind⟩, -⟩ := hall (waitPrompt (.ofSeconds 1))
  · exact hready
  · have hbuffer : left.session.buffer = prompt := by
      obtain ⟨c', hc', huntouched⟩ : ∃ c', (sendCommand "help").perform (fun _ _ w => w) c =
          (.error (refusal "help"), c') ∧ Untouched c c' := perform_refused (exitToOs_ok hexit) rfl
      have hleft : left = c' := congrArg Prod.snd hc'
      rw [hleft, huntouched.buffer_eq]
      exact exitToOs_stale.2
    have hread : ∃ m s, Session.expect [.literal prompt] (.ofSeconds 1) left.session = (.ok m, s) := by
      rw [Session.expect, Session.expectSince, hbuffer]
      exact ⟨_, _, rfl⟩
    obtain ⟨m, s, hm⟩ := hread
    exact absurd (.waited hm) hblind

end BoardBench.Bootloader.Request
