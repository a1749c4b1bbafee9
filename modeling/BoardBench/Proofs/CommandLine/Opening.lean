import BoardBench.CommandLine.Commands
import BoardBench.Proofs.Runner.Escaping

/-!
# Targets that are opened for a command

The target that a command opens is a standard one: the host has given it one of the ways to reboot, and
its description the ways to program it and to load applications. The tests of a configuration are
standard ones too.
-/

namespace BoardBench

/-! ## Commands -/

namespace CommandLine.Command

variable {δ α β : Type}

theorem get_run (d : δ) : (get : Command δ δ).run d = (.ok d, d) := rfl

theorem bind_run (x : Command δ α) (f : α → Command δ β) (d : δ) :
    (x >>= f).run d = match x.run d with
      | (.ok a, d') => (f a).run d'
      | (.error e, d') => (.error e, d') := by
  show ExceptT.bindCont f (x.run d).1 (x.run d).2 = _
  rcases x.run d with ⟨_ | _, d'⟩ <;> rfl

theorem bind_ok_iff {x : Command δ α} {f : α → Command δ β} {d d' : δ} {b : β} :
    (x >>= f).run d = (.ok b, d') ↔
      ∃ a d₁, x.run d = (.ok a, d₁) ∧ (f a).run d₁ = (.ok b, d') := by
  rw [bind_run]
  rcases hx : x.run d with ⟨e | a, d₁⟩
  · constructor
    · intro h
      cases h
    · rintro ⟨_, _, h, -⟩
      cases h
  · constructor
    · intro h
      exact ⟨a, d₁, rfl, h⟩
    · rintro ⟨_, _, h, h'⟩
      cases h
      exact h'

theorem exists_of_isOk {x : Command δ α} {d : δ} (h : (x.run d).1.isOk = true) :
    ∃ a d', x.run d = (.ok a, d') := by
  rcases hx : x.run d with ⟨_ | a, d'⟩ <;> rw [hx] at h
  · cases h
  · exact ⟨a, d', rfl⟩

theorem ofExcept_ok {r : Except CommandFailure α} {d d' : δ} {a : α}
    (h : (ofExcept r : Command δ α).run d = (.ok a, d')) : r = .ok a := by
  rcases r with f | a'
  · cases h
  · cases h
    rfl

theorem ofAct_ok {x : Act δ α} {d d' : δ} {a : α} (h : (ofAct x).run d = (.ok a, d')) :
    x d = (.ok a, d') := by
  unfold ofAct at h
  rw [ExceptT.run_mk] at h
  rcases hx : x d with ⟨e | a', d₁⟩ <;> rw [hx] at h <;> cases h
  rfl

theorem within_ok {context : String} {x : Command δ α} {d d' : δ} {a : α}
    (h : (within context x).run d = (.ok a, d')) : x.run d = (.ok a, d') := by
  unfold within at h
  rw [ExceptT.run_mk] at h
  rcases hx : x.run d with ⟨e | a', d₁⟩ <;> rw [hx] at h <;> cases h
  rfl

end CommandLine.Command

section

variable {δ : Type} [Bench δ] [Transport δ] [Processes δ] [Files δ] [Operator δ]

/-! ## The way to reboot -/

theorem HostConfig.byPins_strategy {pins : PinNumbers} {timings : RebootTimings} {d d' : δ}
    {r : Rebooter δ} (h : byPins pins timings d = (.ok r, d')) :
    ∃ strategy : Strategy δ, r = strategy.rebooter := by
  unfold byPins at h
  cases hpower : pins.power with
  | none =>
    rw [hpower] at h
    cases h
  | some number =>
    simp only [hpower] at h
    obtain ⟨power, _, -, h⟩ := Act.bind_ok_iff.1 h
    obtain ⟨reset, _, -, h⟩ := Act.bind_ok_iff.1 h
    obtain ⟨boot, _, -, h⟩ := Act.bind_ok_iff.1 h
    cases h
    exact ⟨.byLines _, rfl⟩

variable [SerialLines δ]

theorem HostConfig.bySignals_strategy {path : String} {timings : RebootTimings} {d d' : δ}
    {r : Rebooter δ} (h : bySignals path timings d = (.ok r, d')) :
    ∃ strategy : Strategy δ, r = strategy.rebooter := by
  obtain ⟨line, _, -, h⟩ := Act.bind_ok_iff.1 h
  obtain ⟨hr, -⟩ := Prod.mk.inj h
  exact ⟨.byLines {
    power := .modemSignal line path .dtr false
    reset := some (.modemSignal line path .rts false)
    timings }, (Except.ok.inj hr).symm⟩

/-- The way to reboot a target is one of those that there are. -/
theorem HostConfig.rebooterFor_strategy {host : HostConfig} {target : TargetConfig} {d d' : δ}
    {r : Rebooter δ} (h : host.rebooterFor target d = (.ok r, d')) :
    ∃ strategy : Strategy δ, r = strategy.rebooter := by
  unfold rebooterFor at h
  obtain ⟨_, _, -, h⟩ := Act.bind_ok_iff.1 h
  cases hkind : host.kind with
  | emulator =>
    rw [hkind] at h
    cases h
    exact ⟨.byRestart, rfl⟩
  | rpi =>
    rw [hkind] at h
    exact byPins_strategy h
  | pc =>
    simp only [hkind] at h
    cases hdebugger : host.debugger with
    | some args =>
      rw [hdebugger] at h
      cases h
      exact ⟨.byProbe _ _, rfl⟩
    | none =>
      cases hmodem : host.modem with
      | some path =>
        simp only [hdebugger, hmodem] at h
        exact bySignals_strategy h
      | none =>
        simp only [hdebugger, hmodem] at h
        by_cases hinteractive : host.interactive = true
        · rw [if_pos hinteractive] at h
          cases h
          exact ⟨.byHand _, rfl⟩
        · rw [if_neg hinteractive] at h
          cases h

variable [Consoles δ]

omit [SerialLines δ] in
theorem Target.open_standard {config : TargetConfig} {rebooter : Rebooter δ} {d d' : δ} {t : Target δ}
    (hrebooter : ∃ strategy : Strategy δ, rebooter = strategy.rebooter)
    (h : Target.open config rebooter d = (.ok t, d')) : t.Standard := by
  obtain ⟨_, _, -, h⟩ := Act.bind_ok_iff.1 h
  cases h
  refine ⟨hrebooter, fun f hf => ?_, fun l hl => ?_⟩
  · obtain ⟨server, -, hf⟩ := Option.bind_eq_some_iff.1 hf
    obtain ⟨image, -, rfl⟩ := Option.map_eq_some_iff.1 hf
    exact ⟨_, _, _, rfl⟩
  · obtain ⟨server, -, hl⟩ := Option.bind_eq_some_iff.1 hl
    obtain ⟨window, -, rfl⟩ := Option.map_eq_some_iff.1 hl
    exact ⟨_, _, _, rfl⟩

namespace CommandLine

open Command

/-- A target that is opened for a command is the one that the entry of the chosen name describes, with a
way to reboot that there is. -/
theorem openTarget_eq_ok {choices : Choices} {config : Config} {d d' : δ} {w : Workplace δ}
    (h : (openTarget choices config).run d = (.ok w, d')) :
    ∃ name entry port described strategy d₁ d₂, config.target choices.target = .ok (name, entry) ∧
      TargetEntry.resolve entry name port = .ok described ∧
      Target.open described (Strategy.rebooter strategy) d₁ = (.ok w.target, d₂) := by
  unfold openTarget at h
  obtain ⟨⟨name, entry⟩, _, hentry, h⟩ := bind_ok_iff.1 h
  obtain ⟨port, _, -, h⟩ := bind_ok_iff.1 h
  obtain ⟨described, _, hdescribed, h⟩ := bind_ok_iff.1 h
  obtain ⟨host, _, -, h⟩ := bind_ok_iff.1 h
  obtain ⟨rebooter, _, hrebooter, h⟩ := bind_ok_iff.1 h
  obtain ⟨strategy, rfl⟩ := HostConfig.rebooterFor_strategy (ofAct_ok hrebooter)
  obtain ⟨target, _, hopen, h⟩ := bind_ok_iff.1 h
  -- what is left chooses the file for the traffic
  suffices w.target = target from
    ⟨name, entry, port, described, strategy, _, _, ofExcept_ok hentry, ofExcept_ok hdescribed,
      this ▸ ofAct_ok (within_ok hopen)⟩
  cases hlog : choices.sessionLog with
  | none =>
    simp only [hlog] at h
    cases h
    rfl
  | some path =>
    simp only [hlog] at h
    obtain ⟨d₁, d₂, -, h⟩ := bind_ok_iff.1 h
    rcases hmade : Files.writeFile path [] d₁ with ⟨f | _, d₃⟩
    · simp only [hmade] at h
      obtain ⟨_, _, -, h⟩ := bind_ok_iff.1 h
      cases h
    · simp only [hmade] at h
      obtain ⟨_, _, -, h⟩ := bind_ok_iff.1 h
      cases h
      rfl

/-- A target that is opened for a command is a standard one. -/
theorem openTarget_standard {choices : Choices} {config : Config} {d d' : δ} {w : Workplace δ}
    (h : (openTarget choices config).run d = (.ok w, d')) : w.target.Standard := by
  obtain ⟨_, _, _, _, strategy, _, _, -, -, hopen⟩ := openTarget_eq_ok h
  exact Target.open_standard ⟨strategy, rfl⟩ hopen

end CommandLine

/-! ## Tests -/

omit [Processes δ] [Files δ] [Operator δ] [SerialLines δ] [Consoles δ] in
theorem TestEntry.resolve_standard {entry : TestEntry} {t : Test δ} (h : entry.resolve = .ok t) :
    t.Standard := by
  unfold resolve at h
  by_cases hempty : (entry.command.isNone && entry.expect.isEmpty) = true
  · rw [if_pos hempty] at h
    cases h
  rw [if_neg hempty] at h
  rcases hpatterns : entry.expect.mapM (entry.pattern (Bench.libraries δ).regexes) with f | patterns <;>
    rw [hpatterns] at h <;> cases h
  exact ⟨_, _, rfl⟩

omit [Processes δ] [Files δ] [Operator δ] [SerialLines δ] [Consoles δ] in
theorem TestEntry.mapM_resolve_eq_ok {entries : List TestEntry} {tests : List (Test δ)}
    (h : entries.mapM TestEntry.resolve = .ok tests) :
    ∀ t ∈ tests, ∃ entry ∈ entries, entry.resolve = .ok t := by
  induction entries generalizing tests with
  | nil =>
    cases h
    exact nofun
  | cons entry entries ih =>
    rw [List.mapM_cons] at h
    rcases hfirst : entry.resolve (δ := δ) with f | first
    · rw [hfirst] at h
      cases h
    rcases hrest : entries.mapM (TestEntry.resolve (δ := δ)) with f | rest
    · rw [hfirst, hrest] at h
      cases h
    rw [hfirst, hrest] at h
    cases h
    refine List.forall_mem_cons.2 ⟨⟨entry, List.mem_cons_self, hfirst⟩, fun t ht => ?_⟩
    obtain ⟨other, hother, hresolve⟩ := ih hrest t ht
    exact ⟨other, List.mem_cons_of_mem _ hother, hresolve⟩

omit [Processes δ] [Files δ] [Operator δ] [SerialLines δ] [Consoles δ] in
theorem Config.testsFor_eq_ok {config : Config} {target : String} {only : List String}
    {tests : List (Test δ)} (h : config.testsFor target only = .ok tests) :
    ∀ t ∈ tests, ∃ entry ∈ config.tests, entry.resolve = .ok t := by
  unfold testsFor at h
  split at h
  · cases h
  · intro t ht
    obtain ⟨entry, hentry, hresolve⟩ := TestEntry.mapM_resolve_eq_ok h t ht
    exact ⟨entry, List.mem_of_mem_filter hentry, hresolve⟩

omit [Processes δ] [Files δ] [Operator δ] [SerialLines δ] [Consoles δ] in
/-- The tests of a configuration are standard ones. -/
theorem Config.testsFor_standard {config : Config} {target : String} {only : List String}
    {tests : List (Test δ)} (h : config.testsFor target only = .ok tests) :
    ∀ t ∈ tests, t.Standard := by
  intro t ht
  obtain ⟨entry, -, hresolve⟩ := testsFor_eq_ok h t ht
  exact TestEntry.resolve_standard hresolve

end
end BoardBench
