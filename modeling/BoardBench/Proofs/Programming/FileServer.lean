import BoardBench.Proofs.Helper.Life
import BoardBench.Target.Programming

/-!
# Acting with a file server

What an action with a file server comes to, as the chronicle tells it: the server is started, the action
is run, and the server is stopped, however the action ends (`withFileServer_run`). If the server cannot
be started the action is not run. Whatever goes wrong is an error of flashing.
-/

namespace BoardBench

open Bootloader Chronicle Helper

/-- An error of flashing. -/
def Error.IsFlash (e : Error) : Prop := ∃ reason output, e = .flash reason output

theorem Error.intoFlash_isFlash (output : String) (e : Error) : (e.intoFlash output).IsFlash := by
  cases e <;> exact ⟨_, _, rfl⟩

theorem Error.intoFlash_of_isFlash {output : String} {e : Error} (h : e.IsFlash) :
    e.intoFlash output = e := by
  obtain ⟨_, _, rfl⟩ := h
  rfl

variable {δ : Type} [Bench δ] [Processes δ] [Files δ] {α : Type}

omit [Bench δ] [Processes δ] [Files δ] in
theorem onDevice_eq_iff {x : Act δ α} {c c' : Client δ} {r : Except Error α} :
    Client.onDevice x c = (r, c') ↔
      ∃ d, x c.session.device = (r, d) ∧ c' = { c with session := { c.session with device := d } } := by
  unfold Client.onDevice Session.onDevice
  rw [Client.onSession_eq_iff]
  constructor
  · rintro ⟨s, hs, rfl⟩
    obtain ⟨d, hd, rfl⟩ := Act.zoom_eq_iff.1 hs
    exact ⟨d, hd, rfl⟩
  · rintro ⟨d, hd, rfl⟩
    exact ⟨_, Act.zoom_eq_iff.2 ⟨d, hd, rfl⟩, rfl⟩

/-- What comes of an action with a server that printed `output` and was stopped. -/
def outcome (output : String) (y : Except Error α) (stopped : Except Error Unit) : Except Error α :=
  (y.mapError (·.intoFlash output)).bind fun a => (stopped.mapError (·.intoFlash output)).map fun _ => a

section outcome

variable {output : String} {y : Except Error α} {stopped : Except Error Unit}

theorem isFlash_of_outcome {e : Error} (h : outcome output y stopped = .error e) : e.IsFlash := by
  rcases y with e₁ | a
  · cases h
    exact Error.intoFlash_isFlash _ _
  · rcases stopped with e₂ | _ <;> cases h
    exact Error.intoFlash_isFlash _ _

theorem ok_of_outcome {a : α} (h : outcome output y stopped = .ok a) : y = .ok a := by
  rcases y with e₁ | a
  · cases h
  · rcases stopped with e₂ | _ <;> cases h
    rfl

theorem outcome_of_isFlash {e : Error} (he : e.IsFlash) :
    outcome output (.error e : Except Error α) stopped = .error e :=
  congrArg Except.error (Error.intoFlash_of_isFlash he)

end outcome

/-- How an action with a file server can end. -/
inductive Served (spec : HelperSpec) (x : Act (Client (Chronicled δ)) α) (c : Client (Chronicled δ)) :
    Except Error α → Client (Chronicled δ) → Prop
  /-- There is no server, or it has been stopped. -/
  | unserved {k c'} {e : Error} : c'.session.device.entries = c.session.device.entries ++ k →
      Unstarted spec k → Served spec x c (.error (e.intoFlash "")) c'
  | served {server k d y c₂ output l c' stopped} : d.entries = c.session.device.entries ++ k →
      Started spec server k → x { c with session := { c.session with device := d } } = (y, c₂) →
      c'.session.device.entries = c₂.session.device.entries ++ l → Deeds l → Stopped server.pid l →
      Served spec x c (outcome output y stopped) c'

omit [Bench δ] [Processes δ] [Files δ] in
theorem Served.isFlash {spec : HelperSpec} {x : Act (Client (Chronicled δ)) α}
    {c c' : Client (Chronicled δ)} {r : Except Error α} {e : Error} (h : Served spec x c r c')
    (hr : r = .error e) : e.IsFlash := by
  cases h with
  | unserved =>
    cases hr
    exact Error.intoFlash_isFlash _ _
  | served => exact isFlash_of_outcome hr

omit [Files δ] in
/-- What is done with a server that is still to be stopped, when the action is over. -/
theorem afterServing (server : Helper) (hrunning : server.running = true) (d : Chronicled δ) :
    ∃ text h d₁ stopped h' d₂ l, tending server output d = (.ok (.ok text, h), d₁) ∧
      tending h kill d₁ = (.ok (stopped, h'), d₂) ∧ d₂.entries = d.entries ++ l ∧ Deeds l ∧
      Stopped server.pid l := by
  obtain ⟨k, t, houtput, hk⟩ := output_spec ⟨server, d⟩
  obtain ⟨stopped, l, t', hkill, hl, hstopped⟩ := kill_spec t (hk.running.trans hrunning)
  have hall := hk.tends.trans hl
  refine ⟨Text.lossy t.helper.reader.output, t.helper, t.machine, stopped, t'.helper, t'.machine,
    k ++ l, ?_, ?_, hall.entries, hall.deeds, ?_⟩
  · unfold tending
    rw [houtput]
  · unfold tending
    rw [hkill]
  · rw [hk.pid] at hstopped
    exact hstopped.after k

theorem withFileServer_run [Transport δ] {spec : HelperSpec} {x : Act (Client (Chronicled δ)) α}
    {c c' : Client (Chronicled δ)} {r : Except Error α} (h : withFileServer spec x c = (r, c')) :
    Served spec x c r c' := by
  unfold withFileServer at h
  rcases Act.bind_eq_iff.1 h with ⟨e, hstart, rfl⟩ | ⟨server, c₁, hstart, h⟩
  · obtain ⟨e', hfailed, rfl⟩ := Act.mapError_error_iff.1 hstart
    obtain ⟨d, hd, rfl⟩ := onDevice_eq_iff.1 hfailed
    obtain ⟨k, hk, hunstarted⟩ := start_spec hd
    exact .unserved hk hunstarted
  obtain ⟨d, hd, rfl⟩ := onDevice_eq_iff.1 (Act.mapError_ok_iff.1 hstart)
  obtain ⟨k, hk, hstarted⟩ := start_spec hd
  rcases hx : x { c with session := { c.session with device := d } } with ⟨y, c₂⟩
  obtain ⟨text, _, d₁, stopped, _, d₂, l, houtput, hkill, hl, hdeeds, hstopped⟩ :=
    afterServing server hstarted.running c₂.session.device
  have hattempt : x.attempt { c with session := { c.session with device := d } } = (.ok y, c₂) := by
    unfold Act.attempt
    rw [hx]
  have htext (c : Client (Chronicled δ)) : Act.ofExcept (.ok text) c = (.ok text, c) := rfl
  rw [Act.bind_ok hattempt, Act.bind_ok (onDevice_eq_iff.2 ⟨d₁, houtput, rfl⟩)] at h
  dsimp only at h
  rw [Act.bind_ok (htext _), Act.bind_ok (onDevice_eq_iff.2 ⟨d₂, hkill, rfl⟩)] at h
  have hr : (r, c') = (outcome text y stopped,
      { c₂ with session := { c₂.session with device := d₂ } }) := by
    rw [← h]
    rcases y with e | a
    · rfl
    · rcases stopped with e | _ <;> rfl
  obtain ⟨rfl, rfl⟩ := Prod.mk.inj hr
  exact .served hk hstarted hx hl hdeeds hstopped

end BoardBench
