import BoardBench.Proofs.Regex.Forward
import BoardBench.Proofs.Text.Runs

/-!
# Runs of characters

`OneOf set.mem bytes` says that the bytes are one character of the set, `Several set.mem bytes` that they are
one or more of them. A match of `char set` passes over the first, a match of the greedy `rep 1 none` of
it over the second: wherever it ends it has passed over some of them, and if no more can follow, the
end behind all of them is preferred and before each other end there is another one to come
(`rep_ends_of_several`). So what cannot begin with a member of the set can only follow the whole run
(`cat_ends_of_longest`).
-/

namespace BoardBench.Regex

open Text

section chars

variable {set : CharSet} {c : Cursor} {caps : Caught} {bs cs rest : Bytes}

theorem char_ends_of_oneOf (h : OneOf set.mem bs) (hc : c.rest = bs ++ rest) :
    (Node.char set).ends c caps = [(c.behind bs rest, caps)] := by
  obtain ⟨x, hx, hmem⟩ := h
  have hlen := hx.length_eq
  obtain ⟨b, tail, rfl, hhead⟩ := hx.head_append rest
  have hchar : c.charAfter = some (some x) := by
    rw [Cursor.charAfter, hc]
    simp [hhead]
  simp only [Node.ends, hchar, hmem, ↓reduceIte]
  rw [← hlen, Cursor.advance_eq_behind hc]

theorem mem_char_ends {e : Cursor × Caught} (h : e ∈ (Node.char set).ends c caps) :
    ∃ bs rest, OneOf set.mem bs ∧ c.rest = bs ++ rest ∧ e = (c.behind bs rest, caps) := by
  simp only [Node.ends] at h
  split at h
  · rename_i x hx
    split at h
    · rename_i hmem
      obtain rfl := List.mem_singleton.1 h
      unfold Cursor.charAfter at hx
      split at hx
      · cases hx
      · rename_i b tail hrest
        rcases hhead : Text.head b tail with ⟨y, left⟩
        rw [hhead] at hx
        obtain rfl : y = some x := Option.some.inj hx
        obtain ⟨bs, hbs, henc⟩ := Text.Encodes.of_head hhead
        rw [hbs] at hrest
        exact ⟨bs, left, ⟨x, henc, hmem⟩, hrest,
          by rw [← henc.length_eq, Cursor.advance_eq_behind hrest]⟩
    · cases h
  · cases h

theorem char_ends_eq_nil (h : ¬ Begins set.mem c.rest) : (Node.char set).ends c caps = [] := by
  refine List.eq_nil_iff_forall_not_mem.2 fun e he => ?_
  obtain ⟨bs, rest, hone, hc, -⟩ := mem_char_ends he
  exact h ⟨bs, rest, hc, hone⟩

/-! ## Repetitions -/

theorem rep_ends (node : Node) :
    (Node.rep 1 none true node).ends c caps = onceOrMore node.ends true c caps := by
  simp only [Node.ends, times, thenFrom]

theorem mem_rep_ends {e : Cursor × Caught}
    (h : e ∈ (Node.rep 1 none true (.char set)).ends c caps) :
    ∃ bs rest, Several set.mem bs ∧ c.rest = bs ++ rest ∧ e = (c.behind bs rest, caps) := by
  rw [rep_ends] at h
  refine mem_plus (T := fun a b => ∃ bs rest, Several set.mem bs ∧ a.1.rest = bs ++ rest ∧
    b = (a.1.behind bs rest, a.2)) ?_ ?_ _ _ c caps e (mem_of_mem_distinct h)
  · intro c caps e he
    obtain ⟨bs, rest, hone, hc, rfl⟩ := mem_char_ends he
    exact ⟨bs, rest, .one hone, hc, rfl⟩
  · rintro a b d ⟨bs, rest, hbs, hc, rfl⟩ ⟨bs', rest', hbs', hc', rfl⟩
    rw [Cursor.behind_rest] at hc'
    subst hc'
    exact ⟨bs ++ bs', rest', hbs.append hbs', by rw [hc, List.append_assoc], by
      rw [Cursor.behind_behind]⟩

theorem plus_of_nil {step : Cursor → Caught → Ends} {greedy : Bool} (fuel : Nat) (marks : Marks)
    (h : step c caps = []) : plus step greedy fuel marks c caps = ([], marks) := by
  unfold plus
  rw [h]
  rfl

/-- Where one step leads to one place that is not marked, the ways on from there come first. -/
theorem plus_of_singleton {step : Cursor → Caught → Ends} {fuel : Nat} {marks : Marks} {d : Cursor}
    (h : step c caps = [(d, caps)]) (hd : marks.testBit d.pos = false) :
    plus step true (fuel + 1) marks c caps =
      ((plus step true fuel (marks ||| 1 <<< d.pos) d caps).1 ++ [(d, caps)],
        (plus step true fuel (marks ||| 1 <<< d.pos) d caps).2) := by
  rw [plus, h]
  simp [hd]

/-- With no mark ahead and fuel for every byte, the end behind the whole run comes first. -/
theorem plus_of_several (h : Several set.mem bs) (hrest : ¬ Begins set.mem rest) {fuel : Nat} {marks : Marks}
    (hc : c.rest = bs ++ rest) (hfuel : c.rest.length ≤ fuel)
    (hmarks : ∀ i, c.pos < i → marks.testBit i = false) :
    ∃ es, (plus (Node.char set).ends true fuel marks c caps).1 = (c.behind bs rest, caps) :: es ∧
      ∀ e ∈ es, Begins set.mem e.1.rest := by
  induction h generalizing c fuel marks with
  | @one bs hone =>
    have hpos := List.length_pos_iff.2 hone.ne_nil
    have hlen := congrArg List.length hc
    rw [List.length_append] at hlen
    obtain ⟨fuel, rfl⟩ : ∃ f, fuel = f + 1 := ⟨fuel - 1, by omega⟩
    rw [plus_of_singleton (char_ends_of_oneOf hone hc) (hmarks _ (by rw [Cursor.behind_pos]; omega)),
      plus_of_nil _ _ (char_ends_eq_nil hrest)]
    exact ⟨[], rfl, nofun⟩
  | @more bs cs hone hmore ih =>
    have hpos := List.length_pos_iff.2 hone.ne_nil
    rw [List.append_assoc] at hc
    have hlen := congrArg List.length hc
    simp only [List.length_append] at hlen
    obtain ⟨fuel, rfl⟩ : ∃ f, fuel = f + 1 := ⟨fuel - 1, by omega⟩
    rw [plus_of_singleton (char_ends_of_oneOf hone hc) (hmarks _ (by rw [Cursor.behind_pos]; omega))]
    obtain ⟨es, hes, hbegins⟩ := @ih (c.behind bs (cs ++ rest)) fuel
      (marks ||| 1 <<< (c.behind bs (cs ++ rest)).pos) rfl
      (by rw [Cursor.behind_rest, List.length_append]; omega) fun i hi => by
        rw [Cursor.behind_pos] at hi ⊢
        rw [Nat.testBit_or, hmarks i (by omega), Nat.one_shiftLeft, Nat.testBit_two_pow]
        simpa using Nat.ne_of_lt hi
    refine ⟨es ++ [(c.behind bs (cs ++ rest), caps)], ?_, fun e he => ?_⟩
    · rw [hes, Cursor.behind_behind]
      rfl
    · rcases List.mem_append.1 he with he | he
      · exact hbegins e he
      · cases List.mem_singleton.1 he
        exact hmore.begins rest

theorem distinct_cons (e : Cursor × Caught) (es : Ends) :
    ∃ es', distinct (e :: es) = e :: es' ∧ ∀ x ∈ es', x ∈ es := by
  cases es with
  | nil => exact ⟨[], rfl, nofun⟩
  | cons x es =>
    refine ⟨distinctFrom (0 ||| 1 <<< e.1.pos) (x :: es), ?_, fun y hy => mem_of_mem_distinctFrom hy⟩
    simp [distinct, distinctFrom]

/-- The end behind a whole run is preferred, and at each other end there is more to come. -/
theorem rep_ends_of_several (h : Several set.mem bs) (hrest : ¬ Begins set.mem rest)
    (hc : c.rest = bs ++ rest) :
    ∃ es, (Node.rep 1 none true (.char set)).ends c caps = (c.behind bs rest, caps) :: es ∧
      ∀ e ∈ es, Begins set.mem e.1.rest := by
  rw [rep_ends, onceOrMore]
  have hmarks : ∀ i, c.pos < i → (1 <<< c.pos : Nat).testBit i = false := fun i hi => by
    rw [Nat.one_shiftLeft, Nat.testBit_two_pow]
    simpa using Nat.ne_of_lt hi
  obtain ⟨es, hplus, hes⟩ := @plus_of_several set c caps bs rest h hrest _ _ hc
    (Nat.le_succ c.rest.length) hmarks
  obtain ⟨es', hdistinct, hsub⟩ := distinct_cons (c.behind bs rest, caps) es
  rw [hplus, hdistinct]
  exact ⟨es', rfl, fun e he => hes e (hsub e he)⟩

end chars

/-- What goes on from the preferred end alone follows that. -/
theorem cat_ends_of_longest {a b : Node} {c d : Cursor} {caps caps' : Caught} {es : Ends}
    {e : Cursor × Caught} (ha : a.ends c caps = (d, caps') :: es)
    (hes : ∀ x ∈ es, b.ends x.1 x.2 = []) (hb : b.ends d caps' = [e]) :
    (Node.cat a b).ends c caps = [e] := by
  rw [Node.ends, ha]
  cases es with
  | nil => exact hb
  | cons x es =>
    have hnil : ((x :: es).flatMap fun y => b.ends y.1 y.2) = [] := List.flatMap_eq_nil_iff.2 hes
    show distinct (b.ends d caps' ++ (x :: es).flatMap fun y => b.ends y.1 y.2) = [e]
    rw [hnil, hb]
    rfl

/-! ## Texts -/

/-- The expression for one byte of ASCII. -/
def literalByte (b : UInt8) : Node := .char (.single b.toNat)

theorem mem_single (c : Nat) : (CharSet.single c).mem = (· == c) := by
  funext x
  simp only [CharSet.single, CharSet.mem]
  rw [Bool.eq_iff_iff]
  simp only [Bool.and_eq_true, decide_eq_true_eq, beq_iff_eq]
  omega

theorem oneOf_single_iff {b : UInt8} {bs : Bytes} (hb : b.toNat < 0x80) :
    OneOf (CharSet.single b.toNat).mem bs ↔ bs = [b] := by
  rw [mem_single]
  exact oneOf_ascii_iff hb

section texts

variable {ns : List Node} {text rest : Bytes} {c : Cursor} {caps : Caught}

theorem cats_cons (n : Node) (hns : ns ≠ []) : Node.cats (n :: ns) = .cat n (Node.cats ns) := by
  cases ns with
  | nil => exact absurd rfl hns
  | cons m ms => rfl

theorem ascii_of_all {text : Bytes} (h : text.all (fun b => decide (b.toNat < 0x80)) = true) :
    ∀ b ∈ text, b.toNat < 0x80 :=
  fun b hb => of_decide_eq_true (List.all_eq_true.1 h b hb)

theorem cats_text_ends (hns : ns ≠ []) (ht : ∀ b ∈ text, b.toNat < 0x80)
    (hc : c.rest = text ++ rest) :
    (Node.cats (text.map literalByte ++ ns)).ends c caps =
      (Node.cats ns).ends (c.behind text rest) caps := by
  induction text generalizing c with
  | nil =>
    rcases c with ⟨pos, passed, r⟩
    cases hc
    rfl
  | cons b text ih =>
    have hone : OneOf (CharSet.single b.toNat).mem [b] := (oneOf_single_iff (ht b List.mem_cons_self)).2 rfl
    rw [List.map_cons, List.cons_append, cats_cons _ (by simp [hns]), Node.ends, literalByte,
      char_ends_of_oneOf hone hc, thenFrom, ih (fun b' hb' => ht b' (List.mem_cons_of_mem _ hb')) rfl,
      Cursor.behind_behind]
    rfl

theorem mem_cats_text_ends {e : Cursor × Caught} (hns : ns ≠ []) (ht : ∀ b ∈ text, b.toNat < 0x80)
    (he : e ∈ (Node.cats (text.map literalByte ++ ns)).ends c caps) :
    ∃ rest, c.rest = text ++ rest ∧ e ∈ (Node.cats ns).ends (c.behind text rest) caps := by
  induction text generalizing c with
  | nil =>
    refine ⟨c.rest, rfl, ?_⟩
    exact he
  | cons b text ih =>
    rw [List.map_cons, List.cons_append, cats_cons _ (by simp [hns]), Node.ends] at he
    obtain ⟨x, hx, hex⟩ := mem_thenFrom he
    obtain ⟨bs, rest, hone, hc, rfl⟩ := mem_char_ends hx
    obtain rfl := (oneOf_single_iff (ht b List.mem_cons_self)).1 hone
    obtain ⟨rest', hc', he'⟩ := ih (fun b' hb' => ht b' (List.mem_cons_of_mem _ hb')) hex
    rw [Cursor.behind_rest] at hc'
    subst hc'
    refine ⟨rest', hc, ?_⟩
    rwa [Cursor.behind_behind] at he'

end texts

theorem group_ends_of_cons {i : Nat} {n : Node} {c d : Cursor} {caps : Caught} {es : Ends}
    (h : n.ends c caps = (d, caps) :: es) :
    ∃ es', (Node.group i n).ends c caps = (d, (i, c, d) :: caps) :: es' ∧
      ∀ e ∈ es', ∃ x ∈ es, e.1 = x.1 := by
  rw [Node.ends, h]
  refine ⟨_, rfl, fun e he => ?_⟩
  obtain ⟨x, hx, rfl⟩ := List.mem_map.1 he
  exact ⟨x, hx, rfl⟩

theorem mem_group_ends {i : Nat} {n : Node} {c : Cursor} {caps : Caught} {e : Cursor × Caught}
    (h : e ∈ (Node.group i n).ends c caps) :
    ∃ x ∈ n.ends c caps, e = (x.1, (i, c, x.1) :: x.2) := by
  rw [Node.ends] at h
  obtain ⟨x, hx, rfl⟩ := List.mem_map.1 h
  exact ⟨x, hx, rfl⟩

end BoardBench.Regex
