import BoardBench.Proofs.Programming.Passage
import BoardBench.Proofs.Programming.Region

/-!
# Staging applications

Applications are staged in regions of a window of the memory, laid out by the sizes that their files are
found to have. `load_stays_in_window` says of what is written, whatever the device, the files and the
server do, that the regions do not overlap and lie in the window.
-/

namespace BoardBench

open Bootloader Client Session Chronicle Helper

/-- The commands that stage an application in a region of the memory and register it. -/
def AppSpec.commands (app : AppSpec) (device : String) (r : Region) : List Command :=
  let name := servedName app.file
  [.copy app.sourceId name none device (Text.hex0x r.start) (some r.size),
    .nameRange name r.start r.size, .app device name app.imap app.dmap app.executable]

/-- The lines of the commands. -/
def AppSpec.lines (app : AppSpec) (device : String) (r : Region) : Bytes :=
  (app.commands device r).flatMap lineOf

/-- The lines of applications, each in its region. -/
def linesOf (device : String) (apps : List AppSpec) (rs : List Region) : Bytes :=
  (apps.zip rs).flatMap fun (app, r) => app.lines device r

/-- The application does not fit where it would have to be staged. -/
def AppSpec.misfit (app : AppSpec) (device : String) (r : Region) (finish : Nat) : Error :=
  .flash (app.file ++ " (" ++ Text.hex0x r.size ++ " bytes at " ++ Text.hex0x r.start ++
    ") does not fit in " ++ device ++ " ending at " ++ Text.hex0x finish) ""

variable {δ : Type} [Bench δ] [Transport δ]

/-- The script that stages an application in a region. -/
def AppSpec.staging (app : AppSpec) (device : String) (r : Region) (copyTimeout : Span) :
    List (Passage δ) :=
  let name := servedName app.file
  let silent (op : Operation) : Passage δ := .of op (fun _ _ _ d => d) ""
  [silent (.copyFileToMemory app.sourceId name device r.start r.size copyTimeout),
    silent (.nameRange name r.start r.size),
    silent (.loadApp device name app.imap app.dmap app.executable)]

theorem AppSpec.staging_sound (app : AppSpec) (device : String) (r : Region) (copyTimeout : Span) :
    ∀ p ∈ app.staging (δ := δ) device r copyTimeout, p.Sound := by
  intro p hp
  simp only [AppSpec.staging, List.mem_cons, List.not_mem_nil, or_false] at hp
  rcases hp with rfl | rfl | rfl <;> exact Passage.of_sound _ _ _

theorem AppSpec.staging_text (app : AppSpec) (device : String) (r : Region) (copyTimeout : Span) :
    (app.staging (δ := δ) device r copyTimeout).flatMap (·.text) = app.lines device r := rfl

variable [Files δ]

theorem stageApps_cons (w : RamWindow) (finish : Nat) (copyTimeout : Span) (offset : Nat)
    (app : AppSpec) (rest : List AppSpec) :
    (stageApps w finish copyTimeout offset (app :: rest) : Act (Client (Chronicled δ)) Unit) =
      sizeOfFile app.file >>= fun size =>
        if finish < offset + size then Act.fail (app.misfit w.device ⟨offset, size⟩ finish)
        else Passage.runAll (app.staging w.device ⟨offset, size⟩ copyTimeout) >>= fun _ =>
          stageApps w finish copyTimeout (nextPage (offset + size)) rest := by
  rw [stageApps]
  refine congrArg (sizeOfFile app.file >>= ·) (funext fun size => ?_)
  split
  · rfl
  · simp only [AppSpec.staging, Passage.runAll, Act.bind_unit, Act.bind_assoc]
    rfl

/-- Applications were staged one after the other, the first of them at an offset. The sizes are those of
the files, each as it was found to be when the turn of the file came. -/
inductive Stages (w : RamWindow) (finish : Nat) (copyTimeout : Span) : Nat → List AppSpec →
    Client (Chronicled δ) → List Nat → Chronicle → Except Error Unit → Client (Chronicled δ) → Prop
  | ended {offset c} : Stages w finish copyTimeout offset [] c [] [] (.ok ()) c
  | unread {offset app rest c reason} {f : Fault} :
      Files.fileSize app.file c.session.device = .error f →
      Stages w finish copyTimeout offset (app :: rest) c [] [] (.error (.flash reason "")) c
  | unfit {offset app rest c size} : Files.fileSize app.file c.session.device = .ok size →
      finish < offset + size →
      Stages w finish copyTimeout offset (app :: rest) c [size] []
        (.error (app.misfit w.device ⟨offset, size⟩ finish)) c
  | failed {offset app rest c size k e c'} : Files.fileSize app.file c.session.device = .ok size →
      offset + size ≤ finish →
      Follows (app.staging w.device ⟨offset, size⟩ copyTimeout) c k (.error e) c' →
      Stages w finish copyTimeout offset (app :: rest) c [size] k (.error e) c'
  | staged {offset app rest c size k c₁ sizes l x c'} :
      Files.fileSize app.file c.session.device = .ok size → offset + size ≤ finish →
      Follows (app.staging w.device ⟨offset, size⟩ copyTimeout) c k (.ok ()) c₁ →
      Stages w finish copyTimeout (nextPage (offset + size)) rest c₁ sizes l x c' →
      Stages w finish copyTimeout offset (app :: rest) c (size :: sizes) (k ++ l) x c'

theorem stageApps_run {w : RamWindow} {finish : Nat} {copyTimeout : Span} {offset : Nat}
    {apps : List AppSpec} {c c' : Client (Chronicled δ)} {x : Except Error Unit}
    (h : stageApps w finish copyTimeout offset apps c = (x, c')) :
    ∃ sizes k, Stages w finish copyTimeout offset apps c sizes k x c' := by
  induction apps generalizing offset c with
  | nil =>
    cases h
    exact ⟨[], [], .ended⟩
  | cons app rest ih =>
    have hread := sizeOfFile_eq app.file c
    rw [stageApps_cons] at h
    rcases hsize : Files.fileSize app.file c.session.device with f | size <;> rw [hsize] at hread
    · rw [Act.bind_error hread] at h
      cases h
      exact ⟨[], [], .unread hsize⟩
    rw [Act.bind_ok hread] at h
    by_cases hmisfits : finish < offset + size
    · rw [if_pos hmisfits] at h
      cases h
      exact ⟨[size], [], .unfit hsize hmisfits⟩
    rw [if_neg hmisfits] at h
    have hfits : offset + size ≤ finish := Nat.le_of_not_lt hmisfits
    have hsound := app.staging_sound (δ := δ) w.device ⟨offset, size⟩ copyTimeout
    rcases Act.bind_eq_iff.1 h with ⟨e, hrun, rfl⟩ | ⟨_, c₁, hrun, h⟩ <;>
      obtain ⟨k, hk⟩ := Follows.of_runAll hsound hrun
    · exact ⟨[size], k, .failed hsize hfits hk⟩
    · obtain ⟨sizes, l, hl⟩ := ih h
      exact ⟨size :: sizes, k ++ l, .staged hsize hfits hk hl⟩

namespace Stages

variable {w : RamWindow} {finish : Nat} {copyTimeout : Span} {offset : Nat} {apps : List AppSpec}
  {c c' : Client (Chronicled δ)} {sizes : List Nat} {k : Chronicle} {x : Except Error Unit}

theorem entries (h : Stages w finish copyTimeout offset apps c sizes k x c') :
    c'.session.device.entries = c.session.device.entries ++ k := by
  induction h with
  | ended | unread | unfit => exact (List.append_nil _).symm
  | failed _ _ hk => exact hk.entries
  | staged _ _ hk _ ih => rw [ih, hk.entries, List.append_assoc]

/-- What was written is the front of the lines of the applications that fit. -/
theorem written (h : Stages w finish copyTimeout offset apps c sizes k x c') :
    k.written <+: linesOf w.device apps (fitting finish (layout offset sizes)) := by
  induction h with
  | ended | unread | unfit => exact List.nil_prefix
  | failed _ hfits hk =>
    rw [layout, fitting_cons_of_fits hfits]
    exact hk.front.1.trans (List.prefix_append _ _)
  | staged _ hfits hk _ ih =>
    rw [layout, fitting_cons_of_fits hfits, written_append, hk.full.1, AppSpec.staging_text]
    exact (List.prefix_append_right_inj _).2 ih

/-- If all went well, all applications fit and all their lines were written. -/
theorem full (h : Stages w finish copyTimeout offset apps c sizes k (.ok ()) c') :
    sizes.length = apps.length ∧ fitting finish (layout offset sizes) = layout offset sizes ∧
      k.written = linesOf w.device apps (layout offset sizes) := by
  generalize hx : Except.ok () = x at h
  induction h with
  | ended => exact ⟨rfl, rfl, rfl⟩
  | unread | unfit | failed => cases hx
  | staged _ hfits hk _ ih =>
    obtain ⟨hlength, hall, hwritten⟩ := ih hx
    rw [layout, fitting_cons_of_fits hfits, written_append, hk.full.1, AppSpec.staging_text, hall,
      hwritten]
    exact ⟨congrArg (· + 1) hlength, rfl, rfl⟩

/-- If an application does not fit, that is the error, and the lines of those before it are all that was
written. -/
theorem misfit (h : Stages w finish copyTimeout offset apps c sizes k x c') {app : AppSpec}
    {r : Region} (hr : (app, r) ∈ apps.zip (layout offset sizes)) (hmisfits : finish < r.stop) :
    x = .error (app.misfit w.device r finish) ∧
      k.written = linesOf w.device apps (fitting finish (layout offset sizes)) := by
  induction h with
  | ended | unread => cases hr
  | @unfit _ _ rest _ _ _ hunfit =>
    rw [layout, fitting_cons_of_misfits hunfit]
    obtain hfirst | hr := List.mem_cons.1 hr
    · cases hfirst
      exact ⟨rfl, rfl⟩
    · simp [layout] at hr
  | failed _ hfits _ =>
    obtain hfirst | hr := List.mem_cons.1 hr
    · cases hfirst
      exact absurd hfits (Nat.not_le_of_lt hmisfits)
    · simp [layout] at hr
  | staged _ hfits hk _ ih =>
    rw [layout, fitting_cons_of_fits hfits, written_append, hk.full.1, AppSpec.staging_text]
    rcases List.mem_cons.1 hr with hfirst | hr
    · obtain ⟨rfl, rfl⟩ := Prod.mk.inj hfirst
      exact absurd hfits (Nat.not_le_of_lt hmisfits)
    · obtain ⟨hx, hwritten⟩ := ih hr
      rw [hwritten]
      exact ⟨hx, rfl⟩

end Stages

/-! ## With a file server -/

variable [Processes δ]

variable (δ) in
/-- What was done to load applications, in order, and the sizes that their files were found to have. -/
inductive Loads (w : RamWindow) (finish : Nat) (server : HelperSpec) (copyTimeout : Span)
    (apps : List AppSpec) : List Nat → Chronicle → Except Error Unit → Prop
  | unserved {k e} : Unstarted server k → Loads w finish server copyTimeout apps [] k (.error e)
  | staged {k l n y helper sizes output stopped} {c c' : Client (Chronicled δ)} :
      Started server helper k → c.session.device.entries = k →
      Stages w finish copyTimeout w.offset apps c sizes l y c' → n.Deeds → Stopped helper.pid n →
      Loads w finish server copyTimeout apps sizes (k ++ (l ++ n)) (outcome output y stopped)

/-- Loads applications into a window that ends at `finish`. -/
def loadInto (w : RamWindow) (finish : Nat) (server : HelperSpec) (copyTimeout : Span)
    (apps : List AppSpec) : Act (Client δ) Unit := do
  Client.note ("Preloading " ++ toString apps.length ++ " application(s)")
  withFileServer server (stageApps w finish copyTimeout w.offset apps)

theorem load_cons (w : RamWindow) (server : HelperSpec) (copyTimeout : Span) (app : AppSpec)
    (rest : List AppSpec) :
    ((Loader.ofWindow w server copyTimeout).load (app :: rest) : Act (Client δ) Unit) =
      Act.ofExcept w.end? >>= fun finish => loadInto w finish server copyTimeout (app :: rest) := rfl

theorem loadInto_mirrors (w : RamWindow) (finish : Nat) (server : HelperSpec) (copyTimeout : Span)
    (apps : List AppSpec) :
    Act.Mirrors Client.bare (loadInto w finish server copyTimeout apps : Act (Client (Chronicled δ)) Unit)
      (loadInto w finish server copyTimeout apps) := by
  have hD := Chronicled.inStep (δ := δ)
  refine Act.Relates.mirrors ?_ fun _ _ => both_bare_iff
  exact (note_relates (session_inStep hD.transport hD.regexes) _).bind fun _ =>
    withFileServer_relates hD server (stageApps_relates hD w finish copyTimeout w.offset apps)

theorem loadInto_run {w : RamWindow} {finish : Nat} {server : HelperSpec} {copyTimeout : Span}
    {apps : List AppSpec} {c : Client δ} {x : Except Error Unit} {c' : Client (Chronicled δ)}
    (h : loadInto w finish server copyTimeout apps c.chronicled = (x, c')) :
    (∃ sizes, Loads δ w finish server copyTimeout apps sizes c'.session.device.entries x) ∧
      ∀ e, x = .error e → e.IsFlash := by
  -- the note goes into the log only
  have hserved := withFileServer_run h
  refine ⟨?_, fun _ => hserved.isFlash⟩
  cases hserved with
  | unserved hk hl =>
    rw [hk]
    exact ⟨[], .unserved hl⟩
  | served hd hl hx hn hdeeds hstopped =>
    obtain ⟨sizes, m, hm⟩ := stageApps_run hx
    refine ⟨sizes, ?_⟩
    rw [hn, hm.entries, hd, List.append_assoc]
    exact .staged hl hd hm hdeeds hstopped

namespace Loads

omit [Processes δ]

variable {w : RamWindow} {finish : Nat} {server : HelperSpec} {copyTimeout : Span}
  {apps : List AppSpec} {sizes : List Nat} {k : Chronicle} {x : Except Error Unit}

theorem written (h : Loads δ w finish server copyTimeout apps sizes k x) :
    k.written <+: linesOf w.device apps (fitting finish (layout w.offset sizes)) := by
  cases h with
  | unserved hk =>
    rw [hk.deeds.written_eq]
    exact List.nil_prefix
  | staged hk _ hl hn _ =>
    rw [written_between hk.deeds hn]
    exact hl.written

theorem full (h : Loads δ w finish server copyTimeout apps sizes k (.ok ())) :
    sizes.length = apps.length ∧ fitting finish (layout w.offset sizes) = layout w.offset sizes ∧
      k.written = linesOf w.device apps (layout w.offset sizes) := by
  generalize hx : Except.ok () = x at h
  cases h with
  | unserved => cases hx
  | staged hk _ hl hn _ =>
    rw [ok_of_outcome hx.symm] at hl
    rw [written_between hk.deeds hn]
    exact hl.full

theorem misfit (h : Loads δ w finish server copyTimeout apps sizes k x) {app : AppSpec} {r : Region}
    (hr : (app, r) ∈ apps.zip (layout w.offset sizes)) (hmisfits : finish < r.stop) :
    x = .error (app.misfit w.device r finish) ∧
      k.written = linesOf w.device apps (fitting finish (layout w.offset sizes)) := by
  cases h with
  | unserved => simp [layout] at hr
  | staged hk _ hl hn _ =>
    rw [written_between hk.deeds hn]
    obtain ⟨rfl, hwritten⟩ := hl.misfit hr hmisfits
    exact ⟨outcome_of_isFlash ⟨_, _, rfl⟩, hwritten⟩

end Loads

/-- Applications are loaded into regions that do not overlap and do not leave the window. If there are
none, or if the window goes beyond the last address, nothing is done. Else a file server is started, the
applications are staged one after the other, and the server is stopped, whatever failed. The regions are
those of the sizes that the files are found to have: the first begins where the window does, each next one
within a page after the one before it, and all end in the window. Of these regions and of no others the
lines are written, in order, each as one and the same region and name. The first application that does
not fit is an error of flashing, and no line is written for it or for any after it; so is everything else
that goes wrong. -/
theorem load_stays_in_window (w : RamWindow) (server : HelperSpec) (copyTimeout : Span)
    (apps : List AppSpec) (c : Client δ) :
    let load := (Loader.ofWindow w server copyTimeout).load apps
    match apps, w.end? with
    | [], _ => load c = (.ok (), c)
    | _, .error e =>
      addressBound ≤ w.offset + w.size ∧ (∃ reason, e = .config reason) ∧ load c = (.error e, c)
    | apps, .ok finish =>
      let run := (Loader.ofWindow w server copyTimeout).load apps c.chronicled
      let done := run.2.session.device.entries
      finish = w.offset + w.size ∧ finish < addressBound ∧
      load c = (run.1, run.2.bare) ∧
      (∀ e, run.1 = .error e → e.IsFlash) ∧
      ∃ sizes, Loads δ w finish server copyTimeout apps sizes done run.1 ∧
        let regions := layout w.offset sizes
        let fit := fitting finish regions
        (∀ r ∈ fit.head?, r.start = w.offset) ∧ fit.IsChain Region.Adjoins ∧
        fit.Pairwise Region.Precedes ∧ (∀ r ∈ fit, r.stop ≤ finish) ∧
        done.written <+: linesOf w.device apps fit ∧
        (run.1 = .ok () → sizes.length = apps.length ∧ fit = regions ∧
          done.written = linesOf w.device apps regions) ∧
        ∀ app r, (app, r) ∈ apps.zip regions → finish < r.stop →
          run.1 = .error (app.misfit w.device r finish) ∧
            done.written = linesOf w.device apps fit := by
  intro load
  cases apps with
  | nil => rfl
  | cons app rest =>
    unfold RamWindow.end?
    by_cases hend : w.offset + w.size < addressBound
    -- needed of the machine with a chronicle and of the one without
    · have hload {ε : Type} [Bench ε] [Transport ε] [Processes ε] [Files ε] (c : Client ε) :
          (Loader.ofWindow w server copyTimeout).load (app :: rest) c =
            loadInto w (w.offset + w.size) server copyTimeout (app :: rest) c := by
        rw [load_cons, RamWindow.end?, if_pos hend]
        rfl
      rw [if_pos hend]
      dsimp only
      obtain ⟨⟨sizes, hsizes⟩, herrors⟩ := loadInto_run (hload c.chronicled).symm
      obtain ⟨hhead, hchain, hpairwise, hstop⟩ := layout_fits hend w.offset sizes
      refine ⟨rfl, hend, ?_, herrors, sizes, hsizes, hhead, hchain, hpairwise, hstop, hsizes.written,
        fun hok => (hok ▸ hsizes).full, fun app r => hsizes.misfit⟩
      rw [hload c.chronicled]
      exact (hload c).trans (loadInto_mirrors w _ server copyTimeout (app :: rest) c.chronicled)
    · rw [if_neg hend]
      refine ⟨Nat.le_of_not_lt hend, ⟨_, rfl⟩, ?_⟩
      show (Loader.ofWindow w server copyTimeout).load (app :: rest) c = _
      rw [load_cons, RamWindow.end?, if_neg hend]
      rfl

end BoardBench
