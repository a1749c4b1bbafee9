import BoardBench.Bootloader.Client
import BoardBench.Proofs.Pattern.Split
import BoardBench.Proofs.Text.Runs

/-!
# Reports on blocks

`Report index count text` says that the text is a report on a block: `block`, a run of digits, a
slash, a run of digits, and one character that is no digit. These are the matches of the expression that
reports are awaited with, and all that is assumed of the library is that it finds one that begins first
(`FindsReports`). As a report ends with something that is no digit, its numbers are not cut short, and
only one can begin at a place (`Report.unique`). So the first report of a stream is found with its
numbers (`split?_report_iff`), and it stays what is found when more comes in (`stable_report`).
-/

namespace BoardBench.Bootloader

open Text

/-- A character that is no digit. -/
def notDigit (x : Nat) : Bool := !isDigit x

/-- A report on a block, with the digits of its two numbers. -/
inductive Report (index count : Bytes) : Bytes → Prop
  | mk {x : Bytes} : Several isDigit index → Several isDigit count → OneOf notDigit x →
      Report index count (Bytes.ofText "block " ++ (index ++ (Bytes.ofText "/" ++ (count ++ x))))

/-- What is caught of a report that stands behind `before`. -/
def reportCaptures (before index count text : Bytes) : Regex.Captures :=
  ⟨before.length, before.length + text.length, [("index", index), ("count", count)]⟩

/-- The matches of `blockReportSource`. -/
inductive ReportAt : Bytes → Regex.Captures → Prop
  | mk {before index count text rest : Bytes} : Report index count text →
      ReportAt (before ++ (text ++ rest)) (reportCaptures before index count text)

/-- Of the reports in the bytes, the library finds one that begins first. -/
def FindsReports (δ : Type) [Bench δ] : Prop :=
  (Bench.libraries δ).regexes.blockReport.Leftmost ReportAt

theorem not_begins_slash (rest : Bytes) : ¬ Begins isDigit (Bytes.ofText "/" ++ rest) := by
  have h : OneOf (· == 0x2F) (Bytes.ofText "/") := (oneOf_ascii_iff (by decide)).2 rfl
  refine not_begins_of_disjoint h fun x hx => ?_
  obtain rfl := eq_of_beq hx
  decide

theorem not_begins_of_notDigit {x rest : Bytes} (h : OneOf notDigit x) : ¬ Begins isDigit (x ++ rest) :=
  not_begins_of_disjoint h fun _ hx => Bool.not_eq_true' _ ▸ hx

/-- Of the reports that can begin at a place there is but one. -/
theorem Report.unique {index count text rest index' count' text' rest' : Bytes}
    (h : Report index count text) (h' : Report index' count' text')
    (heq : text ++ rest = text' ++ rest') :
    index = index' ∧ count = count' ∧ text = text' ∧ rest = rest' := by
  cases h with | @mk x hindex hcount hx =>
  cases h' with | @mk x' hindex' hcount' hx' =>
  simp only [List.append_assoc, List.append_cancel_left_eq] at heq
  obtain ⟨rfl, hbehind⟩ := hindex.unique hindex' (not_begins_slash _) (not_begins_slash _) heq
  obtain ⟨rfl, hlast⟩ := hcount.unique hcount' (not_begins_of_notDigit hx) (not_begins_of_notDigit hx')
    (List.append_cancel_left hbehind)
  obtain ⟨rfl, rfl⟩ := hx.unique hx' hlast
  exact ⟨rfl, rfl, rfl, rfl⟩

/-- The bytes begin with a report. -/
def BeginsReport (bytes : Bytes) : Prop :=
  ∃ index count text rest, Report index count text ∧ bytes = text ++ rest

/-- The stream is some bytes in which no report begins, a report with these two numbers, and what
follows it. -/
structure FirstReport (stream before index count text rest : Bytes) : Prop where
  report : Report index count text
  stream_eq : stream = before ++ (text ++ rest)
  first : ∀ a b, before = a ++ b → b ≠ [] → ¬ BeginsReport (b ++ (text ++ rest))

/-! ## What is found -/

section

variable {re : Regex} {bytes rest : Bytes}

/-- What is caught is the first report. -/
theorem captures_eq_some_iff (hre : re.Leftmost ReportAt) {c : Regex.Captures} :
    re.captures bytes = some c ↔ ∃ before index count text rest,
      FirstReport bytes before index count text rest ∧ c = reportCaptures before index count text := by
  constructor
  · intro hc
    have hat := hre.found bytes c hc
    cases hat with
    | @mk before index count text rest hreport =>
      refine ⟨before, index, count, text, rest, ⟨hreport, rfl, ?_⟩, rfl⟩
      rintro a b rfl hb ⟨index', count', text', rest', hreport', heq⟩
      have hat' : ReportAt (a ++ b ++ (text ++ rest)) (reportCaptures a index' count' text') := by
        rw [List.append_assoc, heq]
        exact .mk hreport'
      have hle := hre.first _ _ _ hc hat'
      have hpos := List.length_pos_iff.2 hb
      simp only [reportCaptures, List.length_append] at hle
      omega
  · rintro ⟨before, index, count, text, rest, ⟨hreport, rfl, hfirst⟩, rfl⟩
    have hat : ReportAt (before ++ (text ++ rest)) (reportCaptures before index count text) :=
      .mk hreport
    obtain ⟨c, hc⟩ := Option.isSome_iff_exists.1 (hre.complete _ _ hat)
    have hle := hre.first _ _ _ hc hat
    have hat' := hre.found _ c hc
    rw [hc]
    generalize hstream : before ++ (text ++ rest) = stream at hat'
    cases hat' with
    | @mk before' index' count' text' rest' hreport' =>
      obtain ⟨gap, rfl, hgap⟩ | ⟨gap, rfl, hgap⟩ := List.append_eq_append_iff.1 hstream
      · have hnil : gap = [] := by
          simp only [reportCaptures, List.length_append] at hle
          exact List.length_eq_zero_iff.1 (by omega)
        subst hnil
        obtain ⟨rfl, rfl, rfl, -⟩ := hreport.unique hreport' hgap
        rw [List.append_nil]
      · have hnil : gap = [] := Classical.byContradiction fun hne =>
          hfirst before' gap rfl hne ⟨index', count', text', rest', hreport', hgap.symm⟩
        subst hnil
        obtain ⟨rfl, rfl, rfl, -⟩ := hreport'.unique hreport hgap
        rw [List.append_nil]

/-- The match of a report as it is handed out. -/
def reportMatch (before index count text : Bytes) : Match :=
  ⟨0, [("index", Text.lossy index), ("count", Text.lossy count)], before, text⟩

theorem find?_report_iff (hre : re.Leftmost ReportAt) {f : Found} :
    (Pattern.regex re).find? bytes = some f ↔ ∃ before index count text rest,
      FirstReport bytes before index count text rest ∧
        f = ⟨before.length, before.length + text.length,
          [("index", Text.lossy index), ("count", Text.lossy count)]⟩ := by
  simp only [Pattern.find?, Option.map_eq_some_iff, captures_eq_some_iff hre]
  constructor
  · rintro ⟨c, ⟨before, index, count, text, rest, hfirst, rfl⟩, rfl⟩
    exact ⟨before, index, count, text, rest, hfirst, rfl⟩
  · rintro ⟨before, index, count, text, rest, hfirst, rfl⟩
    exact ⟨_, ⟨before, index, count, text, rest, hfirst, rfl⟩, rfl⟩

theorem split?_report_iff (hre : re.Leftmost ReportAt) {m : Match} :
    Pattern.split? [.regex re] bytes = some (m, rest) ↔ ∃ before index count text,
      FirstReport bytes before index count text rest ∧ m = reportMatch before index count text := by
  have pieces : ∀ before text rest : Bytes,
      (before ++ (text ++ rest)).take before.length = before ∧
      ((before ++ (text ++ rest)).take (before.length + text.length)).drop before.length = text ∧
      (before ++ (text ++ rest)).drop (before.length + text.length) = rest := by
    intro before text rest
    refine ⟨List.take_left, ?_, ?_⟩
    · rw [← List.append_assoc, ← List.length_append, List.take_left, List.drop_left]
    · rw [← List.append_assoc, ← List.length_append, List.drop_left]
  rw [Pattern.split?_singleton_iff]
  constructor
  · rintro ⟨f, hf, rfl, rfl⟩
    obtain ⟨before, index, count, text, rest, hfirst, rfl⟩ := (find?_report_iff hre).1 hf
    obtain ⟨hb, ht, hr⟩ := pieces before text rest
    rw [← hfirst.stream_eq] at hb ht hr
    exact ⟨before, index, count, text, hr.symm ▸ hfirst, by rw [hb, ht, reportMatch]⟩
  · rintro ⟨before, index, count, text, hfirst, rfl⟩
    obtain ⟨hb, ht, hr⟩ := pieces before text rest
    rw [← hfirst.stream_eq] at hb ht hr
    refine ⟨_, (find?_report_iff hre).2 ⟨before, index, count, text, rest, hfirst, rfl⟩, ?_, hr.symm⟩
    rw [hb, ht, reportMatch]

end

/-! ## More of the stream -/

theorem not_mem_of_several {b : UInt8} {bs : Bytes} (h : Several isDigit bs) (hb : b.toNat < 0x80)
    (hd : isDigit b.toNat = false) : b ∉ bs := by
  have one : ∀ {cs}, OneOf isDigit cs → b ∉ cs := by
    rintro cs ⟨x, hx, hmem⟩ hbc
    rcases hx.bytes_eq with ⟨b', rfl, rfl, -⟩ | ⟨-, hhigh⟩
    · obtain rfl := List.mem_singleton.1 hbc
      cases hd.symm.trans hmem
    · have := hhigh b hbc
      omega
  induction h with
  | one h => exact one h
  | more h _ ih =>
    intro hmem
    rcases List.mem_append.1 hmem with hmem | hmem
    · exact one h hmem
    · exact ih hmem

/-- In a report the letter that reports begin with can only stand first and last. -/
theorem Report.getElem?_b {index count text : Bytes} (h : Report index count text) {i : Nat}
    (hi : text[i]? = some 0x62) : i = 0 ∨ i + 1 = text.length := by
  cases h with | @mk x hindex hcount hx =>
  have hword : ∀ i < 6, (Bytes.ofText "block ")[i]? = some 0x62 → i = 0 := by decide
  have hmiddle : (0x62 : UInt8) ∉ index ++ (Bytes.ofText "/" ++ count) := by
    simp only [List.mem_append, not_or]
    exact ⟨not_mem_of_several hindex (by decide) (by decide), by decide,
      not_mem_of_several hcount (by decide) (by decide)⟩
  have hx' : (0x62 : UInt8) ∈ x → x.length = 1 := by
    intro hmem
    obtain ⟨y, hy, -⟩ := hx
    rcases hy.bytes_eq with ⟨b, rfl, -⟩ | ⟨-, hhigh⟩
    · rfl
    · exact absurd (hhigh _ hmem) (by decide)
  have hassoc : Bytes.ofText "block " ++ (index ++ (Bytes.ofText "/" ++ (count ++ x))) =
      Bytes.ofText "block " ++ ((index ++ (Bytes.ofText "/" ++ count)) ++ x) := by simp
  rw [hassoc] at hi ⊢
  have hlen : (Bytes.ofText "block ").length = 6 := by decide
  rw [List.getElem?_append] at hi
  split at hi
  · exact .inl (hword i (by omega) hi)
  rw [List.getElem?_append] at hi
  split at hi
  · exact absurd (List.mem_of_getElem? hi) hmiddle
  · have := hx' (List.mem_of_getElem? hi)
    have := (List.getElem?_eq_some_iff.1 hi).1
    right
    simp only [List.length_append] at *
    omega

/-- What follows a first report changes nothing about it. -/
theorem FirstReport.append {stream before index count text rest : Bytes}
    (h : FirstReport stream before index count text rest) (more : Bytes) :
    FirstReport (stream ++ more) before index count text (rest ++ more) := by
  refine ⟨h.report, by rw [h.stream_eq]; simp, fun a b hab hb => ?_⟩
  rintro ⟨index', count', text', rest', hreport, heq⟩
  have hassoc : b ++ (text ++ (rest ++ more)) = b ++ (text ++ rest) ++ more := by simp
  rw [hassoc] at heq
  rcases List.append_eq_append_iff.1 heq with ⟨l, hl, -⟩ | ⟨l, hl, -⟩
  · -- it would hold the beginning of the first report within it
    obtain ⟨tail, htext⟩ : ∃ tail, text = 0x62 :: 0x6C :: tail := by
      cases h.report
      exact ⟨_, rfl⟩
    have hget : text'[b.length]? = some 0x62 := by
      rw [hl, htext, List.append_assoc, List.getElem?_append_right (Nat.le_refl _), Nat.sub_self]
      rfl
    have hlen := congrArg List.length hl
    simp only [htext, List.length_append, List.length_cons] at hlen
    have := List.length_pos_iff.2 hb
    rcases hreport.getElem?_b hget with h0 | h1 <;> omega
  · -- it was there before
    exact h.first a b hab hb ⟨index', count', text', l, hreport, hl⟩

/-- Nor does what follows it. -/
theorem FirstReport.front {stream before index count text rest : Bytes}
    (h : FirstReport stream before index count text rest) :
    FirstReport (before ++ text) before index count text [] := by
  refine ⟨h.report, by rw [List.append_nil], fun a b hab hb => ?_⟩
  rintro ⟨index', count', text', rest', hreport, heq⟩
  refine h.first a b hab hb ⟨index', count', text', rest' ++ rest, hreport, ?_⟩
  rw [List.append_nil] at heq
  rw [← List.append_assoc, heq, List.append_assoc]

/-- What has been found stays what is found. -/
theorem stable_report {re : Regex} (hre : re.Leftmost ReportAt) : Pattern.Stable [.regex re] := by
  refine Pattern.stable_singleton fun bytes more f hf => ?_
  obtain ⟨before, index, count, text, rest, hfirst, rfl⟩ := (find?_report_iff hre).1 hf
  exact (find?_report_iff hre).2 ⟨before, index, count, text, rest ++ more, hfirst.append more, rfl⟩

end BoardBench.Bootloader
