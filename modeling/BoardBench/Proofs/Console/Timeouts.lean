import BoardBench.Sim.World
import Mathlib

/-!
# The timeout of a serial line

A console remembers the timeout of its line, asks the line for changes only, and opens it with that
timeout again. `KeepTimeouts` is what is assumed of lines; simulated ones do it. Each operation leaves the
line, if it is open, with the timeout that is remembered, which is the one that was given last
(`Current.perform`). So it makes no difference that a line is left alone that has the timeout already
(`performAll_remembers`).
-/

namespace BoardBench

namespace SerialLines

variable {δ : Type} [Bench δ] [SerialLines δ]

/-- The line is open and its reads have the timeout. -/
def HasTimeout (isOpen : Nat → δ → Prop) (line : Nat) (t : Span) (d : δ) : Prop :=
  isOpen line d ∧ lineTimeout line d = t

/-- What lines do with timeouts: one that is opened has the timeout that was asked for, one that is set
has the new timeout, unless that fails, and nothing else that is done with a line changes its timeout. -/
structure KeepTimeouts (isOpen : Nat → δ → Prop) : Prop where
  opened : ∀ {path baud t d line d'}, openLine path baud t d = (.ok line, d') →
    HasTimeout isOpen line t d'
  set : ∀ {line t t' d d'}, HasTimeout isOpen line t d → setLineTimeout line t' d = (.ok (), d') →
    HasTimeout isOpen line t' d'
  unset : ∀ {line t t' d e d'}, HasTimeout isOpen line t d →
    setLineTimeout line t' d = (.error e, d') → HasTimeout isOpen line t d'
  clear : ∀ {line t d}, HasTimeout isOpen line t d → HasTimeout isOpen line t (clearLine line d).2
  read : ∀ {line t d} (n : Nat), HasTimeout isOpen line t d →
    HasTimeout isOpen line t (readLine line n d).2
  write : ∀ {line t d} (bytes : Bytes), HasTimeout isOpen line t d →
    HasTimeout isOpen line t (writeLine line bytes d).2
  flush : ∀ {line t d}, HasTimeout isOpen line t d → HasTimeout isOpen line t (flushLine line d).2

end SerialLines

namespace SerialConsole

open SerialLines

/-! ## Operations -/

/-- What is done with a console. -/
inductive Use where
  | setTimeout (t : Span)
  | clear
  | reopen
  | close
  /-- Bounds the wait for the board when the console is reopened. -/
  | allow (t : Span)
  | read (n : Nat)
  | write (bytes : Bytes)
  | flush

/-- What is done where there may be a console. -/
inductive Op where
  | connect (config : SerialConfig)
  | use (u : Use)

section

variable {δ : Type} [Bench δ] [SerialLines δ]

/-- The console with another timeout in mind. -/
def remember (t : Span) (c : SerialConsole) : SerialConsole :=
  { c with config := { c.config with timeout := t } }

/-- Sets the timeout, also of a line that has it already. -/
def setAlways (t : Span) (c : SerialConsole) (d : δ) : Except Error Unit × SerialConsole × δ :=
  match c.line with
  | none => (.ok (), c.remember t, d)
  | some line =>
    match setLineTimeout line t d with
    | (.ok _, d) => (.ok (), c.remember t, d)
    | (.error e, d) => (.error e, c, d)

/-- Whether a system operation failed. -/
def outcome {α : Type} : Except Fault α → Except Error Unit
  | .ok _ => .ok ()
  | .error f => .error (.io f)

/-- Does something with a console, where `set` is how timeouts are set. -/
def Use.perform (set : Span → SerialConsole → δ → Except Error Unit × SerialConsole × δ) :
    Use → SerialConsole → δ → Except Error Unit × SerialConsole × δ
  | setTimeout t, c, d => set t c d
  | clear, c, d => ((c.clear d).1, c, (c.clear d).2)
  | reopen, c, d => c.reopen d
  | close, c, d => (.ok (), c.close d)
  | allow t, c, d => (.ok (), { c with reopenTimeout := t }, d)
  | read n, c, d => (outcome (c.read n d).1, c, (c.read n d).2)
  | write bytes, c, d => (outcome (c.write bytes d).1, c, (c.write bytes d).2)
  | flush, c, d => (outcome (c.flush d).1, c, (c.flush d).2)

/-- The console that was there is let go of when another is connected. Without one there is nothing else
to be done. -/
def Op.perform (set : Span → SerialConsole → δ → Except Error Unit × SerialConsole × δ) :
    Op → Option SerialConsole × δ → Except Error Unit × Option SerialConsole × δ
  | connect config, (c?, d) =>
    match SerialConsole.connect config (c?.elim d fun c => (c.close d).2) with
    | (.ok c, d) => (.ok (), some c, d)
    | (.error e, d) => (.error e, none, d)
  | use u, (some c, d) =>
    let (r, c, d) := u.perform set c d
    (r, some c, d)
  | use _, (none, d) => (.error (.io closedFault), none, d)

/-- What was done and what it came to. -/
abbrev History := List (Op × Except Error Unit)

/-- Performs operations in order, each whatever came of those before. -/
def performAll (set : Span → SerialConsole → δ → Except Error Unit × SerialConsole × δ) :
    List Op → Option SerialConsole × δ → History × Option SerialConsole × δ
  | [], s => ([], s)
  | op :: ops, s =>
    ((op, (op.perform set s).1) :: (performAll set ops (op.perform set s).2).1,
      (performAll set ops (op.perform set s).2).2)

end

/-- The timeout that an operation gave to the console, unless it failed. -/
def givenBy : Op × Except Error Unit → Option Span
  | (.connect config, .ok _) => some config.timeout
  | (.use (.setTimeout t), .ok _) => some t
  | _ => none

/-- The timeout that was given last. -/
def lastGiven (h : History) : Option Span := (h.filterMap givenBy).getLast?

theorem lastGiven_cons (entry : Op × Except Error Unit) (h : History) :
    lastGiven (entry :: h) = (lastGiven h).or (givenBy entry) := by
  unfold lastGiven
  rw [List.filterMap_cons]
  cases givenBy entry with
  | none => rw [Option.or_none]
  | some t =>
    rw [List.getLast?_cons]
    cases (h.filterMap givenBy).getLast? <;> rfl

/-! ## Single operations -/

section

variable {δ : Type} [Bench δ] [SerialLines δ] {isOpen : Nat → δ → Prop} {c : SerialConsole} {d : δ}
  {last : Option Span} {s : Option SerialConsole × δ}

/-- The line, if it is open, has the timeout that the console remembers. -/
def Synced (isOpen : Nat → δ → Prop) (c : SerialConsole) (d : δ) : Prop :=
  ∀ line, c.line = some line → HasTimeout isOpen line c.config.timeout d

/-- Besides, it is the timeout that was given last. -/
def Current (isOpen : Nat → δ → Prop) (last : Option Span) (s : Option SerialConsole × δ) : Prop :=
  ∀ c, s.1 = some c → c.Synced isOpen s.2 ∧ last = some c.config.timeout

theorem current_some :
    Current isOpen last (some c, d) ↔ c.Synced isOpen d ∧ last = some c.config.timeout :=
  ⟨fun h => h c rfl, fun h _ hc => Option.some.inj hc ▸ h⟩

theorem Synced.of_line_none (h : c.line = none) : c.Synced isOpen d := by
  intro line hline
  cases h.symm.trans hline

theorem Synced.of_some {line : Nat} (hline : c.line = some line)
    (h : HasTimeout isOpen line c.config.timeout d) : c.Synced isOpen d := by
  intro line' hline'
  cases hline.symm.trans hline'
  exact h

theorem connect_synced (hδ : KeepTimeouts isOpen) {config : SerialConfig} {d' : δ}
    (h : connect config d = (.ok c, d')) : c.Synced isOpen d' ∧ c.config = config := by
  unfold connect openLine at h
  rcases hopen : SerialLines.openLine config.port config.baud config.timeout d with ⟨e | line, d₁⟩ <;>
    rw [hopen] at h <;> cases h
  exact ⟨.of_some rfl (hδ.opened hopen), rfl⟩

theorem close_line (c : SerialConsole) (d : δ) :
    (c.close d).1.line = none ∧ (c.close d).1.config = c.config := by
  unfold close
  split
  · rename_i hline
    exact ⟨hline, rfl⟩
  · exact ⟨rfl, rfl⟩

/-- A line that was opened again has the timeout that was remembered, and else there is no line. -/
theorem reopenSince_synced (hδ : KeepTimeouts isOpen) (start : Nat) (h : c.line = none) :
    (reopenSince start c d).2.1.Synced isOpen (reopenSince start c d).2.2 ∧
      (reopenSince start c d).2.1.config = c.config := by
  fun_induction reopenSince start c d with
  | case1 d line d' hopen => exact ⟨.of_some rfl (hδ.opened hopen), rfl⟩
  | case2 d e d' hopen hlate => exact ⟨.of_line_none h, rfl⟩
  | case3 d e d' hopen hlate hback => exact ⟨.of_line_none h, rfl⟩
  | case4 d e d' hopen hlate hback ih => exact ih

theorem reopen_synced (hδ : KeepTimeouts isOpen) (c : SerialConsole) (d : δ) :
    (c.reopen d).2.1.Synced isOpen (c.reopen d).2.2 ∧ (c.reopen d).2.1.config = c.config := by
  obtain ⟨hline, hconfig⟩ := close_line c d
  obtain ⟨hsynced, hsame⟩ := reopenSince_synced (d := (c.close d).2) hδ (Bench.now (c.close d).2) hline
  exact ⟨hsynced, hsame.trans hconfig⟩

/-- A timeout that could not be set leaves all as it was. -/
theorem Synced.setAlways (h : c.Synced isOpen d) (hδ : KeepTimeouts isOpen) (t : Span) :
    (c.setAlways t d).2.1.Synced isOpen (c.setAlways t d).2.2 ∧
      ((c.setAlways t d).1 = .ok () ∧ (c.setAlways t d).2.1 = c.remember t ∨
        (∃ e, (c.setAlways t d).1 = .error e) ∧ (c.setAlways t d).2.1 = c) := by
  unfold SerialConsole.setAlways
  cases hline : c.line with
  | none => exact ⟨.of_line_none hline, .inl ⟨rfl, rfl⟩⟩
  | some line =>
    dsimp only
    rcases hset : setLineTimeout line t d with ⟨e | _, d'⟩
    · exact ⟨.of_some hline (hδ.unset (h line hline) hset), .inr ⟨⟨e, rfl⟩, rfl⟩⟩
    · exact ⟨.of_some hline (hδ.set (h line hline) hset), .inl ⟨rfl, rfl⟩⟩

theorem setTimeout_eq (t : Span) (c : SerialConsole) (d : δ) :
    c.setTimeout t d = if t = c.config.timeout then (.ok (), c, d) else c.setAlways t d := rfl

theorem Synced.setTimeout (h : c.Synced isOpen d) (hδ : KeepTimeouts isOpen) (t : Span) :
    (c.setTimeout t d).2.1.Synced isOpen (c.setTimeout t d).2.2 ∧
      ((c.setTimeout t d).1 = .ok () ∧ (c.setTimeout t d).2.1 = c.remember t ∨
        (∃ e, (c.setTimeout t d).1 = .error e) ∧ (c.setTimeout t d).2.1 = c) := by
  rw [setTimeout_eq]
  split
  · rename_i ht
    exact ⟨h, .inl ⟨rfl, ht ▸ rfl⟩⟩
  · exact h.setAlways hδ t

/-- What is done with the line alone, if it is open, leaves the console as it was. -/
theorem Synced.of_step (h : c.Synced isOpen d) {d' : δ}
    (hstep : ∀ line, c.line = some line → HasTimeout isOpen line c.config.timeout d →
      HasTimeout isOpen line c.config.timeout d') : c.Synced isOpen d' :=
  fun line hline => hstep line hline (h line hline)

theorem Synced.clear (h : c.Synced isOpen d) (hδ : KeepTimeouts isOpen) :
    c.Synced isOpen (c.clear d).2 := by
  refine h.of_step fun line hline ht => ?_
  simp only [SerialConsole.clear, hline]
  exact hδ.clear ht

theorem Synced.read (h : c.Synced isOpen d) (hδ : KeepTimeouts isOpen) (n : Nat) :
    c.Synced isOpen (c.read n d).2 := by
  refine h.of_step fun line hline ht => ?_
  simp only [SerialConsole.read, hline]
  exact hδ.read n ht

theorem Synced.write (h : c.Synced isOpen d) (hδ : KeepTimeouts isOpen) (bytes : Bytes) :
    c.Synced isOpen (c.write bytes d).2 := by
  refine h.of_step fun line hline ht => ?_
  simp only [SerialConsole.write, hline]
  exact hδ.write bytes ht

theorem Synced.flush (h : c.Synced isOpen d) (hδ : KeepTimeouts isOpen) :
    c.Synced isOpen (c.flush d).2 := by
  refine h.of_step fun line hline ht => ?_
  simp only [SerialConsole.flush, hline]
  exact hδ.flush ht

/-- Whatever comes of a use, the line has the timeout that was given last. -/
theorem Synced.perform (h : c.Synced isOpen d) (hδ : KeepTimeouts isOpen) (u : Use) :
    let out := u.perform SerialConsole.setTimeout c d
    out.2.1.Synced isOpen out.2.2 ∧
      some out.2.1.config.timeout = (givenBy (.use u, out.1)).or (some c.config.timeout) := by
  cases u with
  | setTimeout t =>
    obtain ⟨hsynced, ⟨hok, hc⟩ | ⟨⟨e, he⟩, hc⟩⟩ := h.setTimeout hδ t
    · refine ⟨hsynced, ?_⟩
      simp only [Use.perform, hok, hc]
      rfl
    · refine ⟨hsynced, ?_⟩
      simp only [Use.perform, he, hc]
      rfl
  | clear => exact ⟨h.clear hδ, rfl⟩
  | reopen =>
    obtain ⟨hsynced, hconfig⟩ := reopen_synced hδ c d
    exact ⟨hsynced, congrArg (fun config => some config.timeout) hconfig⟩
  | close =>
    obtain ⟨hline, hconfig⟩ := close_line c d
    exact ⟨.of_line_none hline, congrArg (fun config => some config.timeout) hconfig⟩
  | allow t => exact ⟨h, rfl⟩
  | read n => exact ⟨h.read hδ n, rfl⟩
  | write bytes => exact ⟨h.write hδ bytes, rfl⟩
  | flush => exact ⟨h.flush hδ, rfl⟩

theorem Current.perform (h : Current isOpen last s) (hδ : KeepTimeouts isOpen) (op : Op) :
    Current isOpen ((givenBy (op, (op.perform SerialConsole.setTimeout s).1)).or last)
      (op.perform SerialConsole.setTimeout s).2 := by
  obtain ⟨c?, d⟩ := s
  cases op with
  | connect config =>
    simp only [Op.perform]
    rcases hconnect : SerialConsole.connect config (c?.elim d fun c => (c.close d).2) with ⟨e | c, d'⟩
    · exact nofun
    · obtain ⟨hsynced, rfl⟩ := connect_synced hδ hconnect
      exact current_some.2 ⟨hsynced, rfl⟩
  | use u =>
    cases c? with
    | none => exact nofun
    | some c =>
      obtain ⟨hsynced, rfl⟩ := current_some.1 h
      obtain ⟨hsynced', hgiven⟩ := hsynced.perform hδ u
      exact current_some.2 ⟨hsynced', hgiven.symm⟩

/-- Leaving a line alone that has the timeout already comes to what setting it comes to, unless that
fails: the console and the timeout of its line are the same after it. -/
theorem Synced.setTimeout_agrees (h : c.Synced isOpen d) (hδ : KeepTimeouts isOpen) (t : Span) :
    (c.setTimeout t d).2.1 = (c.setAlways t d).2.1 ∧
      (∀ line, c.line = some line →
        lineTimeout line (c.setTimeout t d).2.2 = lineTimeout line (c.setAlways t d).2.2) ∧
      (c.setTimeout t d = c.setAlways t d ∨ t = c.config.timeout ∧ c.setTimeout t d = (.ok (), c, d)) := by
  rw [setTimeout_eq]
  split
  · rename_i ht
    subst ht
    obtain ⟨hsynced, hcases⟩ := h.setAlways hδ c.config.timeout
    have hsame : (c.setAlways c.config.timeout d).2.1 = c := by
      rcases hcases with ⟨-, hc⟩ | ⟨-, hc⟩ <;> exact hc
    rw [hsame] at hsynced
    refine ⟨hsame.symm, fun line hline => ?_, .inr ⟨rfl, rfl⟩⟩
    exact (h line hline).2.trans (hsynced line hline).2.symm
  · exact ⟨rfl, fun _ _ => rfl, .inl rfl⟩

/-! ## Runs -/

theorem performAll_current (hδ : KeepTimeouts isOpen) (ops : List Op) (h : Current isOpen last s) :
    Current isOpen ((lastGiven (performAll SerialConsole.setTimeout ops s).1).or last)
      (performAll SerialConsole.setTimeout ops s).2 := by
  induction ops generalizing s last with
  | nil => exact h
  | cons op ops ih =>
    have hrest := ih (h.perform hδ op)
    rw [← Option.or_assoc, ← lastGiven_cons] at hrest
    exact hrest

/-- Where setting the timeout that a line has changes nothing, it may as well be set always. -/
theorem Current.perform_setAlways (h : Current isOpen last s)
    (hidle : ∀ line t (d : δ), HasTimeout isOpen line t d → setLineTimeout line t d = (.ok (), d))
    (op : Op) : op.perform setAlways s = op.perform SerialConsole.setTimeout s := by
  obtain ⟨c?, d⟩ := s
  cases op with
  | connect config => rfl
  | use u =>
    cases c? with
    | none => rfl
    | some c =>
      cases u with
      | setTimeout t =>
        have hset : c.setAlways t d = c.setTimeout t d := by
          rw [setTimeout_eq]
          split
          · rename_i ht
            subst ht
            unfold SerialConsole.setAlways
            cases hline : c.line with
            | none => rfl
            | some line =>
              dsimp only
              rw [hidle line _ d ((current_some.1 h).1 line hline)]
              rfl
          · rfl
        simp only [Op.perform, Use.perform, hset]
      | _ => rfl

theorem performAll_setAlways (hδ : KeepTimeouts isOpen)
    (hidle : ∀ line t (d : δ), HasTimeout isOpen line t d → setLineTimeout line t d = (.ok (), d))
    (ops : List Op) (h : Current isOpen last s) :
    performAll setAlways ops s = performAll SerialConsole.setTimeout ops s := by
  induction ops generalizing s last with
  | nil => rfl
  | cons op ops ih =>
    unfold performAll
    rw [h.perform_setAlways hidle op, ih (h.perform hδ op)]

end

end SerialConsole

/-! ## Simulated lines -/

namespace Sim.World

open SerialLines

variable {line : Nat} {t : Span} {w : World}

/-- The handle of a line and the timeout that it has. -/
def handle? (line : Nat) (w : World) : Option Span := (w.wire? line).bind (·.openHandle)

def isOpenLine (line : Nat) (w : World) : Prop := (w.handle? line).isSome

theorem hasTimeout_iff : HasTimeout isOpenLine line t w ↔ w.handle? line = some t := by
  constructor
  · rintro ⟨hopen, htimeout⟩
    obtain ⟨t', ht'⟩ := Option.isSome_iff_exists.1 hopen
    have : (w.handle? line).getD .zero = t := htimeout
    rw [ht'] at this
    rw [ht', ← this]
    rfl
  · intro h
    exact ⟨Option.isSome_iff_exists.2 ⟨t, h⟩, congrArg (·.getD .zero) h⟩

theorem wire?_updateWire (line : Nat) (f : Wire → Wire) (w : World) :
    (w.updateWire line f).wire? line = (w.wire? line).map f :=
  List.getElem?_modify_eq ..

/-- A change that is not one of the handle. -/
theorem handle?_updateWire {f : Wire → Wire} (hf : ∀ wire, (f wire).openHandle = wire.openHandle)
    (line : Nat) (w : World) : (w.updateWire line f).handle? line = w.handle? line := by
  unfold handle?
  rw [wire?_updateWire]
  cases w.wire? line with
  | none => rfl
  | some wire => exact hf wire

theorem handle?_setHandle {wire : Wire} (h : w.wire? line = some wire) (t : Span) :
    (w.updateWire line fun wire => { wire with openHandle := some t }).handle? line = some t := by
  unfold handle?
  rw [wire?_updateWire, h]
  rfl

theorem wires_deed (cwd : List String) (d : Deed) (w : World) : (w.deed cwd d).wires = w.wires := by
  unfold deed «show»
  grind

theorem wires_resumeOne (w : World) (c : Child) : (w.resumeOne c).wires = w.wires := by
  have hdeeds (deeds : List Deed) (cwd : List String) (w : World) :
      (deeds.foldl (fun w d => w.deed cwd d) w).wires = w.wires := by
    induction deeds generalizing w with
    | nil => rfl
    | cons d deeds ih => exact (ih _).trans (wires_deed cwd d w)
  exact hdeeds _ _ _

/-- What the processes do leaves the wires alone. -/
theorem wires_advance (real : Nat) (w : World) : (w.advance real).wires = w.wires := by
  have hfold (children : List Child) (w : World) : (children.foldl resumeOne w).wires = w.wires := by
    induction children generalizing w with
    | nil => rfl
    | cons c children ih => exact (ih _).trans (wires_resumeOne w c)
  exact hfold _ _

theorem handle?_congr {w w' : World} (h : w'.wires = w.wires) (line : Nat) :
    w'.handle? line = w.handle? line := by
  unfold handle? wire?
  rw [h]

theorem openHandle_send (bytes : Bytes) (wire : Wire) : (wire.send bytes).openHandle = wire.openHandle := by
  have hfire (rules : List (Bytes × Bytes)) (wire : Wire) :
      (wire.fire rules).openHandle = wire.openHandle := by
    fun_induction Wire.fire rules wire with
    | case1 => rfl
    | case2 => rfl
    | case3 wire on reply rest i hi ih => exact ih
  exact hfire _ _

theorem handle?_openLine {path : String} {w' : World} (h : openLine path t w = (.ok line, w')) :
    w'.handle? line = some t := by
  unfold openLine at h
  split at h
  · rename_i i hlocate
    split at h
    · rename_i wire hwire
      split at h
      · cases h
      · cases h
        exact handle?_setHandle hwire t
    · cases h
  all_goals cases h

theorem handle?_readLine (line n : Nat) (w : World) :
    (readLine line n w).2.handle? line = w.handle? line := by
  have hadvance := handle?_congr (wires_advance w.real w) line
  unfold readLine
  dsimp only
  split
  · exact hadvance
  · split
    · exact (handle?_congr (wires_advance _ _) line).trans hadvance
    · refine (handle?_updateWire ?_ line _).trans hadvance
      exact fun _ => rfl

/-- Simulated lines keep their timeouts. -/
theorem keepTimeouts : KeepTimeouts isOpenLine where
  opened h := hasTimeout_iff.2 (handle?_openLine h)
  set {line t t' w w'} h hset := by
    cases hset
    cases hwire : w.wire? line with
    | none => exact absurd (hasTimeout_iff.1 h) (by simp [handle?, hwire])
    | some wire => exact hasTimeout_iff.2 (handle?_setHandle hwire t')
  unset h hset := nomatch hset
  clear {line t w} h := by
    refine hasTimeout_iff.2 ((handle?_updateWire ?_ line w).trans (hasTimeout_iff.1 h))
    exact fun _ => rfl
  read n h := hasTimeout_iff.2 ((handle?_readLine _ n _).trans (hasTimeout_iff.1 h))
  write bytes h := hasTimeout_iff.2
    ((handle?_updateWire (openHandle_send bytes) _ _).trans (hasTimeout_iff.1 h))
  flush h := h

/-- To set the timeout that a simulated line has changes nothing. -/
theorem setLineTimeout_idle (h : HasTimeout isOpenLine line t w) :
    setLineTimeout line t w = (.ok (), w) := by
  have hsame : (w.updateWire line fun wire => { wire with openHandle := some t }) = w := by
    unfold updateWire
    congr 1
    refine List.ext_getElem? fun i => ?_
    rw [List.getElem?_modify]
    split
    · rename_i hi
      subst hi
      rw [hasTimeout_iff, handle?, wire?] at h
      cases hwire : w.wires[line]? with
      | none => rfl
      | some wire =>
        rw [hwire] at h
        exact congrArg (fun handle => some { wire with openHandle := handle }) h.symm
    · exact id_map _
  exact congrArg (Prod.mk (Except.ok ())) hsame

end Sim.World

namespace SerialConsole

open SerialLines

/-- Whatever was done with a console, and whatever failed of it, the console remembers the timeout that
it was given last, and its line, if it is open, has that timeout. So to leave a line alone that has the
timeout already comes to what setting it comes to, except where that fails, and where it changes
nothing, there is no difference in any run. -/
theorem performAll_remembers {δ : Type} [Bench δ] [SerialLines δ] {isOpen : Nat → δ → Prop}
    (hδ : KeepTimeouts isOpen) (ops : List Op) (d : δ) :
    let run := performAll SerialConsole.setTimeout ops (none, d)
    (∀ c, run.2.1 = some c →
      lastGiven run.1 = some c.config.timeout ∧
      (∀ line, c.line = some line → HasTimeout isOpen line c.config.timeout run.2.2) ∧
      ∀ t,
        (c.setTimeout t run.2.2).2.1 = (c.setAlways t run.2.2).2.1 ∧
        (∀ line, c.line = some line →
          lineTimeout line (c.setTimeout t run.2.2).2.2 = lineTimeout line (c.setAlways t run.2.2).2.2) ∧
        (c.setTimeout t run.2.2 = c.setAlways t run.2.2 ∨
          t = c.config.timeout ∧ c.setTimeout t run.2.2 = (.ok (), c, run.2.2))) ∧
    ((∀ line t (d : δ), HasTimeout isOpen line t d → setLineTimeout line t d = (.ok (), d)) →
      performAll setAlways ops (none, d) = run) := by
  intro run
  have hstart : Current isOpen none ((none, d) : Option SerialConsole × δ) := nofun
  refine ⟨fun c hc => ?_, fun hidle => performAll_setAlways hδ hidle ops hstart⟩
  obtain ⟨hsynced, hlast⟩ := performAll_current hδ ops hstart c hc
  rw [Option.or_none] at hlast
  exact ⟨hlast, hsynced, fun t => hsynced.setTimeout_agrees hδ t⟩

/-- A timeout that is set while the line is closed is the one with which it is opened again. -/
theorem performAll_remembers_closed :
    let adapter : List String × Sim.Node := (["bench", "tty0"], .adapter 0)
    let w : Sim.World := {
      files := { Sim.FileTree.empty with nodes := adapter :: Sim.FileTree.empty.nodes }
      wires := [{}] }
    let ops : List Op := [.connect { port := "tty0", baud := 115200 }, .use (.setTimeout (.ofSeconds 3)),
      .use .close, .use (.setTimeout (.ofSeconds 5)), .use .reopen]
    let run := performAll SerialConsole.setTimeout ops (none, w)
    lastGiven run.1 = some (.ofSeconds 5) ∧
      (∃ c, run.2.1 = some c ∧ c.config.timeout = .ofSeconds 5 ∧ c.line = some 0) ∧
      lineTimeout 0 run.2.2 = .ofSeconds 5 ∧ performAll setAlways ops (none, w) = run := by
  intro adapter w ops run
  have hrun : ∃ c, run.2.1 = some c ∧ c.config.timeout = .ofSeconds 5 ∧ c.line = some 0 := by
    refine ⟨⟨⟨"tty0", 115200, .ofSeconds 5⟩, some 0, .ofSeconds 10⟩, ?_, rfl, rfl⟩
    cbv
  obtain ⟨hcurrent, hsame⟩ := performAll_remembers Sim.World.keepTimeouts ops w
  obtain ⟨c, hc, htimeout, hline⟩ := hrun
  obtain ⟨hlast, hsynced, -⟩ := hcurrent c hc
  refine ⟨htimeout ▸ hlast, ⟨c, hc, htimeout, hline⟩, htimeout ▸ (hsynced 0 hline).2, hsame ?_⟩
  exact fun line t w h => Sim.World.setLineTimeout_idle h

end SerialConsole
end BoardBench
