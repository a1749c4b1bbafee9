import BoardBench.Regex.Search

/-!
# Matches go forward

`c.Leads d` says that the place `d` lies at or after the place `c` of the same bytes. Every place
where a match that begins at `c` can end is one that `c` leads to (`ends_leads`), whatever the
expression. So what is found begins before it ends, and ends within the bytes (`search_within`).
-/

namespace BoardBench.Regex

/-- The place behind `bs`, with `rest` to come. -/
def Cursor.behind (c : Cursor) (bs rest : Bytes) : Cursor :=
  ⟨c.pos + bs.length, bs.reverse ++ c.passed, rest⟩

namespace Cursor

@[simp] theorem behind_pos (c : Cursor) (bs rest : Bytes) :
    (c.behind bs rest).pos = c.pos + bs.length := rfl
@[simp] theorem behind_rest (c : Cursor) (bs rest : Bytes) : (c.behind bs rest).rest = rest := rfl

theorem behind_behind (c : Cursor) (as bs mid rest : Bytes) :
    (c.behind as mid).behind bs rest = c.behind (as ++ bs) rest := by
  simp [behind, Nat.add_assoc]

theorem advance_eq_behind {c : Cursor} {bs rest : Bytes} (h : c.rest = bs ++ rest) :
    c.advance bs.length = c.behind bs rest := by
  induction bs generalizing c with
  | nil =>
    rcases c with ⟨pos, passed, r⟩
    cases h
    rfl
  | cons b bs ih =>
    rcases c with ⟨pos, passed, r⟩
    cases h
    rw [List.length_cons, advance, ih rfl]
    simp [behind, Nat.add_assoc, Nat.add_comm 1]

end Cursor

/-- `d` lies at or after `c` in the same bytes. -/
def Cursor.Leads (c d : Cursor) : Prop := ∃ bs, c.rest = bs ++ d.rest ∧ d.pos = c.pos + bs.length

theorem Cursor.Leads.refl (c : Cursor) : c.Leads c := ⟨[], rfl, rfl⟩

theorem Cursor.Leads.trans {c d e : Cursor} (h1 : c.Leads d) (h2 : d.Leads e) : c.Leads e := by
  obtain ⟨b1, r1, p1⟩ := h1
  obtain ⟨b2, r2, p2⟩ := h2
  exact ⟨b1 ++ b2, by rw [r1, r2, List.append_assoc], by rw [p2, p1, List.length_append]; omega⟩

theorem Cursor.leads_advance (n : Nat) (c : Cursor) : c.Leads (c.advance n) := by
  induction n generalizing c with
  | zero => exact .refl c
  | succ n ih =>
    rcases c with ⟨pos, passed, _ | ⟨b, rest⟩⟩
    · exact .refl _
    · exact Leads.trans ⟨[b], rfl, rfl⟩ (ih ⟨pos + 1, b :: passed, rest⟩)

/-- Ways on that never go back. -/
def Forward (step : Cursor → Caught → Ends) : Prop := ∀ c caps, ∀ e ∈ step c caps, c.Leads e.1

theorem mem_of_mem_distinctFrom {es : Ends} {e : Cursor × Caught} :
    ∀ {marks : Marks}, e ∈ distinctFrom marks es → e ∈ es := by
  induction es with
  | nil => exact fun h => h
  | cons x es ih =>
    intro marks h
    simp only [distinctFrom] at h
    split at h
    · exact List.mem_cons_of_mem _ (ih h)
    · rcases List.mem_cons.1 h with rfl | h
      · exact List.mem_cons_self
      · exact List.mem_cons_of_mem _ (ih h)

theorem mem_of_mem_distinct {es : Ends} {e : Cursor × Caught} (h : e ∈ distinct es) : e ∈ es := by
  unfold distinct at h
  split at h
  · exact h
  · exact h
  · exact mem_of_mem_distinctFrom h

theorem mem_thenFrom {es : Ends} {next : Cursor → Caught → Ends} {e : Cursor × Caught}
    (h : e ∈ thenFrom es next) : ∃ x ∈ es, e ∈ next x.1 x.2 := by
  unfold thenFrom at h
  split at h
  · cases h
  · exact ⟨_, List.mem_cons_self, h⟩
  · obtain ⟨x, hx, hex⟩ := List.mem_flatMap.1 (mem_of_mem_distinct h)
    exact ⟨x, hx, hex⟩

theorem thenFrom_leads {c : Cursor} {es : Ends} {next : Cursor → Caught → Ends}
    (hes : ∀ e ∈ es, c.Leads e.1) (hnext : Forward next) : ∀ e ∈ thenFrom es next, c.Leads e.1 := by
  intro e he
  obtain ⟨x, hx, hex⟩ := mem_thenFrom he
  exact (hes x hx).trans (hnext _ _ _ hex)

section
variable {step : Cursor → Caught → Ends} {greedy : Bool}

theorem Forward.times (h : Forward step) (n : Nat) : Forward (times step n) := by
  induction n with
  | zero =>
    intro c caps e he
    cases List.mem_singleton.1 he
    exact .refl c
  | succ n ih => exact fun c caps => thenFrom_leads (h c caps) ih

theorem Forward.upTo (h : Forward step) (n : Nat) : Forward (upTo step greedy n) := by
  induction n with
  | zero =>
    intro c caps e he
    cases List.mem_singleton.1 he
    exact .refl c
  | succ n ih =>
    intro c caps e he
    have more := thenFrom_leads (h c caps) ih e
    simp only [Regex.upTo] at he
    split at he
    · rcases List.mem_append.1 (mem_of_mem_distinct he) with he | he
      · exact more he
      · cases List.mem_singleton.1 he
        exact .refl c
    · rcases List.mem_cons.1 (mem_of_mem_distinct he) with rfl | he
      · exact .refl c
      · exact more he

/-- What each step keeps, and two ways that it keeps in turn, every way of one or more steps keeps. -/
theorem mem_plus {T : Cursor × Caught → Cursor × Caught → Prop}
    (hstep : ∀ c caps, ∀ e ∈ step c caps, T (c, caps) e) (htrans : ∀ a b d, T a b → T b d → T a d)
    (fuel : Nat) (marks : Marks) (c : Cursor) (caps : Caught) :
    ∀ e ∈ (plus step greedy fuel marks c caps).1, T (c, caps) e := by
  induction fuel generalizing marks c caps with
  | zero =>
    unfold Regex.plus
    refine List.foldlRecOn (motive := fun acc : Ends × Marks => ∀ e ∈ acc.1, T (c, caps) e) _ _
      (fun e he => nomatch he) fun acc hacc x hx e he => ?_
    have hmem : e ∈ acc.1 ++ [x] := by split at he <;> exact he
    rcases List.mem_append.1 hmem with he | he
    · exact hacc e he
    · cases List.mem_singleton.1 he
      exact hstep c caps _ hx
  | succ fuel ih =>
    unfold Regex.plus
    refine List.foldlRecOn (motive := fun acc : Ends × Marks => ∀ e ∈ acc.1, T (c, caps) e) _ _
      (fun e he => nomatch he) fun acc hacc x hx e he => ?_
    have hx := hstep c caps x hx
    -- from what is new, the way leads through `x`
    have hnew : ∀ marks, e ∈ (plus step greedy fuel marks x.1 x.2).1 ∨ e = x → T (c, caps) e := by
      rintro marks (he | rfl)
      · exact htrans _ _ _ hx (ih marks x.1 x.2 e he)
      · exact hx
    split at he
    · rcases List.mem_append.1 he with he | he
      · exact hacc e he
      · exact hnew 0 (.inr (List.mem_singleton.1 he))
    · rcases List.mem_append.1 he with he | he
      · exact hacc e he
      · refine hnew (acc.2 ||| 1 <<< x.1.pos) ?_
        split at he
        · rcases List.mem_append.1 he with he | he
          · exact .inl he
          · exact .inr (List.mem_singleton.1 he)
        · rcases List.mem_cons.1 he with rfl | he
          · exact .inr rfl
          · exact .inl he

theorem Forward.plus (h : Forward step) (fuel : Nat) (marks : Marks) (c : Cursor) (caps : Caught) :
    ∀ e ∈ (plus step greedy fuel marks c caps).1, c.Leads e.1 :=
  mem_plus (T := fun a b => a.1.Leads b.1) h (fun _ _ _ => .trans) fuel marks c caps

theorem Forward.onceOrMore (h : Forward step) : Forward (onceOrMore step greedy) :=
  fun _ _ e he => h.plus _ _ _ _ e (mem_of_mem_distinct he)

end

/-- No match ends before its beginning. -/
theorem ends_leads (n : Node) : Forward n.ends := by
  induction n with
  | empty =>
    intro c caps e he
    cases List.mem_singleton.1 he
    exact .refl c
  | char set =>
    intro c caps e he
    simp only [Node.ends] at he
    split at he
    · split at he
      · cases List.mem_singleton.1 he
        exact c.leads_advance _
      · cases he
    · cases he
  | byte set =>
    intro c caps e he
    simp only [Node.ends] at he
    split at he
    · split at he
      · cases List.mem_singleton.1 he
        exact c.leads_advance _
      · cases he
    · cases he
  | look l =>
    intro c caps e he
    simp only [Node.ends] at he
    split at he
    · cases List.mem_singleton.1 he
      exact .refl c
    · cases he
  | group i n ih =>
    intro c caps e he
    simp only [Node.ends] at he
    obtain ⟨x, hx, rfl⟩ := List.mem_map.1 he
    exact ih c caps x hx
  | cat a b iha ihb => exact fun c caps => thenFrom_leads (iha c caps) ihb
  | alt a b iha ihb =>
    intro c caps e he
    simp only [Node.ends] at he
    rcases List.mem_append.1 (mem_of_mem_distinct he) with he | he
    · exact iha c caps e he
    · exact ihb c caps e he
  | rep min max greedy n ih =>
    intro c caps e he
    cases max with
    | some m =>
      simp only [Node.ends] at he
      exact thenFrom_leads (ih.times _ c caps) (ih.upTo _) e he
    | none =>
      cases min with
      | succ k =>
        simp only [Node.ends] at he
        exact thenFrom_leads (ih.times _ c caps) ih.onceOrMore e he
      | zero =>
        simp only [Node.ends] at he
        split at he
        · rcases List.mem_append.1 (mem_of_mem_distinct he) with he | he
          · exact ih.onceOrMore c caps e he
          · cases List.mem_singleton.1 he
            exact .refl c
        · rcases List.mem_cons.1 (mem_of_mem_distinct he) with rfl | he
          · exact .refl c
          · exact ih.onceOrMore c caps e he

theorem searchFrom_of_ends {n : Node} {c : Cursor} {e : Cursor} {caps : Caught} {es : Ends}
    (h : n.ends c [] = (e, caps) :: es) :
    searchFrom n c.pos c.passed c.rest = some ⟨c, e, caps⟩ := by
  rcases c with ⟨pos, passed, _ | ⟨b, rest⟩⟩ <;> simp only [searchFrom, h]

/-- The hit is the preferred match at the first place at which there is one. -/
def IsFirst (n : Node) (c : Cursor) (hit : Hit) : Prop :=
  ∃ pre rest, c.rest = pre ++ rest ∧ hit.start = c.behind pre rest ∧
    (∃ es, n.ends hit.start [] = (hit.finish, hit.caught) :: es) ∧
    ∀ a b, pre = a ++ b → b ≠ [] → n.ends (c.behind a (b ++ rest)) [] = []

theorem isFirst_of_ends_iff {n : Node} {c e : Cursor} {caps : Caught} {es : Ends} {hit : Hit}
    (h : n.ends c [] = (e, caps) :: es) : IsFirst n c hit ↔ ⟨c, e, caps⟩ = hit := by
  constructor
  · rintro ⟨pre, rest, hrest, hstart, ⟨es', hes'⟩, hnone⟩
    cases pre with
    | nil =>
      obtain rfl : rest = c.rest := hrest.symm
      change hit.start = c at hstart
      rw [hstart, h] at hes'
      rcases hit with ⟨_, _, _⟩
      cases hstart
      cases hes'
      rfl
    | cons b pre =>
      have h0 := hnone [] (b :: pre) rfl nofun
      rw [← hrest] at h0
      cases h0.symm.trans h
  · rintro rfl
    exact ⟨[], c.rest, rfl, rfl, ⟨es, h⟩, fun a b hab hb =>
      absurd (List.append_eq_nil_iff.1 hab.symm).2 hb⟩

theorem isFirst_cons_iff {n : Node} {pos : Nat} {passed bytes : Bytes} {b : UInt8} {hit : Hit}
    (h : n.ends ⟨pos, passed, b :: bytes⟩ [] = []) :
    IsFirst n ⟨pos, passed, b :: bytes⟩ hit ↔ IsFirst n ⟨pos + 1, b :: passed, bytes⟩ hit := by
  have hbehind : ∀ a r, (⟨pos, passed, b :: bytes⟩ : Cursor).behind (b :: a) r =
      (⟨pos + 1, b :: passed, bytes⟩ : Cursor).behind a r := fun a r =>
    (Cursor.behind_behind ⟨pos, passed, b :: bytes⟩ [b] a bytes r).symm
  constructor
  · rintro ⟨pre, rest, hrest, hstart, ⟨es, hes⟩, hnone⟩
    cases pre with
    | nil =>
      obtain rfl : b :: bytes = rest := hrest
      rw [hstart] at hes
      cases hes.symm.trans h
    | cons b' pre =>
      obtain ⟨rfl, hbytes⟩ : b = b' ∧ bytes = pre ++ rest := List.cons.inj hrest
      refine ⟨pre, rest, hbytes, hstart.trans (hbehind pre rest), ⟨es, hes⟩, fun x y hxy hy => ?_⟩
      rw [← hbehind]
      exact hnone (b :: x) y (by rw [hxy, List.cons_append]) hy
  · rintro ⟨pre, rest, hrest, hstart, hes, hnone⟩
    refine ⟨b :: pre, rest, congrArg (b :: ·) hrest, hstart.trans (hbehind pre rest).symm, hes,
      fun x y hxy hy => ?_⟩
    cases x with
    | nil =>
      obtain rfl : b :: pre = y := hxy
      rw [List.cons_append, ← hrest]
      exact h
    | cons b' x =>
      obtain ⟨rfl, hpre⟩ := List.cons.inj hxy
      rw [hbehind]
      exact hnone x y hpre hy

theorem searchFrom_eq_some_iff {n : Node} {c : Cursor} {hit : Hit} :
    searchFrom n c.pos c.passed c.rest = some hit ↔ IsFirst n c hit := by
  rcases c with ⟨pos, passed, bytes⟩
  induction bytes generalizing pos passed with
  | nil =>
    cases hends : n.ends ⟨pos, passed, []⟩ [] with
    | cons x es => rw [searchFrom_of_ends hends, isFirst_of_ends_iff hends, Option.some.injEq]
    | nil =>
      simp only [searchFrom, hends]
      refine ⟨nofun, ?_⟩
      rintro ⟨pre, rest, hrest, hstart, ⟨es, hes⟩, -⟩
      obtain ⟨rfl, rfl⟩ := List.append_eq_nil_iff.1 hrest.symm
      rw [hstart] at hes
      cases hes.symm.trans hends
  | cons b bytes ih =>
    cases hends : n.ends ⟨pos, passed, b :: bytes⟩ [] with
    | cons x es => rw [searchFrom_of_ends hends, isFirst_of_ends_iff hends, Option.some.injEq]
    | nil =>
      rw [isFirst_cons_iff hends, ← ih (pos + 1) (b :: passed)]
      simp only [searchFrom, hends]

/-- What is found begins before it ends, and ends within the bytes. -/
theorem search_within {n : Node} {bytes : Bytes} {hit : Hit} (h : search n bytes = some hit) :
    hit.start.pos ≤ hit.finish.pos ∧ hit.finish.pos ≤ bytes.length := by
  obtain ⟨pre, rest, hrest, hstart, ⟨es, hes⟩, -⟩ := (searchFrom_eq_some_iff (c := .start bytes)).1 h
  obtain ⟨bs, hbs, hpos⟩ := ends_leads n hit.start [] _ (hes ▸ List.mem_cons_self)
  rw [hstart] at hbs hpos ⊢
  have := congrArg List.length hrest
  have := congrArg List.length hbs
  simp only [Cursor.start, Cursor.behind, List.length_append] at *
  omega

end BoardBench.Regex
