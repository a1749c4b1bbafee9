import BoardBench.Proofs.Bootloader.Report
import BoardBench.Proofs.Regex.Leftmost
import BoardBench.Proofs.Regex.Runs

/-!
# The expression for reports on blocks

The engine matches the expression of `blockReport` where a report begins, in one way
(`blockNode_ends_of_report`), and nowhere else. So its library finds reports (`findsReports`).
-/

namespace BoardBench.Regex

open Text Bootloader

/-- The parts of the expression. -/
def blockNode : Node :=
  Node.cats ((Bytes.ofText "block ").map literalByte ++
    numberGroup 1 :: ((Bytes.ofText "/").map literalByte ++ [numberGroup 2, .char (.compl .digit)]))

theorem blockReport_eq : blockReport = ⟨blockReportSource, blockNode, [(1, "index"), (2, "count")]⟩ := rfl

theorem not_begins_digit_compl {bytes : Bytes} (h : Begins isDigit bytes) : ¬ Begins notDigit bytes := by
  obtain ⟨bs, rest, rfl, hone⟩ := h
  exact not_begins_of_disjoint hone fun x hx => by rw [notDigit, hx]; rfl

/-- A run of digits before something that is none is passed over as a whole. -/
theorem numberGroup_ends {i : Nat} {bs rest : Bytes} {c : Cursor} {caps : Caught}
    (h : Several isDigit bs) (hrest : ¬ Begins isDigit rest) (hc : c.rest = bs ++ rest) :
    ∃ es, (numberGroup i).ends c caps = (c.behind bs rest, (i, c, c.behind bs rest) :: caps) :: es ∧
      ∀ e ∈ es, Begins isDigit e.1.rest := by
  obtain ⟨es, hes, hbegins⟩ := @rep_ends_of_several .digit c caps bs rest h hrest hc
  obtain ⟨es', hes', hsub⟩ := group_ends_of_cons (i := i) hes
  refine ⟨es', hes', fun e he => ?_⟩
  obtain ⟨x, hx, hex⟩ := hsub e he
  rw [hex]
  exact hbegins x hx

theorem mem_numberGroup_ends {i : Nat} {c : Cursor} {caps : Caught} {e : Cursor × Caught}
    (h : e ∈ (numberGroup i).ends c caps) :
    ∃ bs rest, Several isDigit bs ∧ c.rest = bs ++ rest ∧
      e = (c.behind bs rest, (i, c, c.behind bs rest) :: caps) := by
  obtain ⟨x, hx, rfl⟩ := mem_group_ends h
  obtain ⟨bs, rest, hbs, hc, rfl⟩ := mem_rep_ends hx
  exact ⟨bs, rest, hbs, hc, rfl⟩

section ways

variable {index count text rest : Bytes} {c : Cursor} {e : Cursor × Caught}

/-- What a match at `c` of a report caught. -/
def reportCaught (c : Cursor) (index count after : Bytes) : Caught :=
  let c₁ := c.behind (Bytes.ofText "block ") (index ++ (Bytes.ofText "/" ++ (count ++ after)))
  let c₂ := c₁.behind index (Bytes.ofText "/" ++ (count ++ after))
  let c₃ := c₂.behind (Bytes.ofText "/") (count ++ after)
  [(2, c₃, c₃.behind count after), (1, c₁, c₂)]

/-- At a report there is one way to match. -/
theorem blockNode_ends_of_report (h : Report index count text) (hc : c.rest = text ++ rest) :
    ∃ after, blockNode.ends c [] = [(c.behind text rest, reportCaught c index count after)] := by
  cases h with | @mk x hindex hcount hx =>
  refine ⟨x ++ rest, ?_⟩
  simp only [List.append_assoc] at hc
  rw [blockNode, cats_text_ends (by simp) (ascii_of_all (by decide)) hc, cats_cons _ (by simp)]
  -- the first number, and what can only follow all of it
  obtain ⟨es, hes, hbegins⟩ := @numberGroup_ends 1 index _
    (c.behind (Bytes.ofText "block ") (index ++ (Bytes.ofText "/" ++ (count ++ (x ++ rest))))) []
    hindex (not_begins_slash (count ++ (x ++ rest))) rfl
  refine cat_ends_of_longest hes (fun y hy => ?_) ?_
  · refine List.eq_nil_iff_forall_not_mem.2 fun z hz => ?_
    obtain ⟨r, hr, -⟩ := mem_cats_text_ends (by simp) (ascii_of_all (by decide)) hz
    exact not_begins_slash r (hr ▸ hbegins y hy)
  rw [cats_text_ends (by simp) (ascii_of_all (by decide)) rfl]
  obtain ⟨es', hes', hbegins'⟩ := @numberGroup_ends 2 count (x ++ rest)
    (((c.behind (Bytes.ofText "block ") (index ++ (Bytes.ofText "/" ++ (count ++ (x ++ rest))))).behind
      index (Bytes.ofText "/" ++ (count ++ (x ++ rest)))).behind (Bytes.ofText "/")
      (count ++ (x ++ rest))) [(1, _, _)] hcount (not_begins_of_notDigit hx) rfl
  refine cat_ends_of_longest hes' (fun y hy => ?_) ?_
  · exact char_ends_eq_nil (not_begins_digit_compl (hbegins' y hy))
  · have hlast : OneOf (CharSet.compl .digit).mem x := hx
    rw [Node.cats, char_ends_of_oneOf hlast rfl]
    simp only [Cursor.behind_behind, List.append_assoc, reportCaught]

/-- Where a match begins there is a report. -/
theorem report_of_mem_blockNode_ends (he : e ∈ blockNode.ends c []) :
    ∃ index count text rest, Report index count text ∧ c.rest = text ++ rest := by
  rw [blockNode] at he
  obtain ⟨r, hc, he⟩ := mem_cats_text_ends (by simp) (ascii_of_all (by decide)) he
  rw [cats_cons _ (by simp)] at he
  obtain ⟨y, hy, he⟩ := mem_thenFrom he
  obtain ⟨index, r₁, hindex, hr, rfl⟩ := mem_numberGroup_ends hy
  obtain ⟨r₂, hr₁, he⟩ := mem_cats_text_ends (by simp) (ascii_of_all (by decide)) he
  obtain ⟨z, hz, he⟩ := mem_thenFrom he
  obtain ⟨count, r₃, hcount, hr₂, rfl⟩ := mem_numberGroup_ends hz
  obtain ⟨x, r₄, hx, hr₃, -⟩ := mem_char_ends he
  simp only [Cursor.behind_rest] at hr hr₁ hr₂ hr₃
  subst hr hr₁ hr₂ hr₃
  exact ⟨index, count, _, r₄, .mk hindex hcount hx, by simp [hc]⟩

end ways

/-- What a match of the expression at a report catches. -/
theorem blockReport_captures (before index count text rest after : Bytes) :
    (⟨before.length, ((Cursor.between before (text ++ rest)).behind text rest).pos,
      blockReport.groups ⟨.between before (text ++ rest),
        (Cursor.between before (text ++ rest)).behind text rest,
        reportCaught (.between before (text ++ rest)) index count after⟩⟩ : Captures) =
      reportCaptures before index count text := by
  simp [Parsed.groups, blockReport_eq, reportCaught, reportCaptures, Cursor.between]

theorem matches_blockReport_iff {bytes : Bytes} {c : Captures} :
    blockReport.Matches bytes c ↔ ReportAt bytes c := by
  constructor
  · intro h
    cases h with | @mk before stream e caught he =>
    obtain ⟨index, count, text, rest, hreport, hstream⟩ := report_of_mem_blockNode_ends he
    obtain rfl : stream = text ++ rest := hstream
    obtain ⟨after, hends⟩ := blockNode_ends_of_report hreport (c := .between before (text ++ rest)) rfl
    change (e, caught) ∈ blockNode.ends _ [] at he
    rw [hends] at he
    cases List.mem_singleton.1 he
    rw [blockReport_captures]
    exact .mk hreport
  · intro h
    cases h with | @mk before index count text rest hreport =>
    obtain ⟨after, hends⟩ := blockNode_ends_of_report hreport (c := .between before (text ++ rest)) rfl
    have hmatch : blockReport.Matches (before ++ (text ++ rest)) _ :=
      .mk (hends ▸ List.mem_singleton_self _)
    rwa [blockReport_captures] at hmatch

/-- The library finds reports. -/
theorem findsReports : library.blockReport.Leftmost ReportAt where
  found bytes c h := matches_blockReport_iff.1 (blockReport.leftmost.found bytes c h)
  first bytes c c' h h' := blockReport.leftmost.first bytes c c' h (matches_blockReport_iff.2 h')
  complete bytes c h := blockReport.leftmost.complete bytes c (matches_blockReport_iff.2 h)

end BoardBench.Regex
