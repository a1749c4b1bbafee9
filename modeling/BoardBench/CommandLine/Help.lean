import BoardBench.CommandLine.Reader
import BoardBench.Text.Numeral

/-!
# Help texts

The text of a page: what it is about, how it is called, and a line for each command, operand and option.
Options are in the order of their place in their own list; of two at the same place, one that a command
has for itself and one that is shared, the one whose letter or name comes first.
-/

namespace BoardBench.CommandLine

namespace Page

/-- How the page is called. -/
def usage (p : Page) : String :=
  let options := if p.options.isEmpty then "" else " [OPTIONS]"
  let operand := (p.operand.map fun o => " <" ++ o.name ++ ">").getD ""
  let command :=
    if p.commands.isEmpty then "" else if p.options.isEmpty then " [COMMAND]..." else " <COMMAND>"
  "Usage: " ++ " ".intercalate p.path ++ options ++ operand ++ command

/-- An option in the first column: the letter, or room for one, and the name. -/
def column (o : OptionSpec) : String :=
  (o.short.elim "    " fun c => "-" ++ String.singleton c ++ ", ") ++ o.shown

/-- What is told of an option: what it does, and the variable that stands in for it. -/
def remark (environment : String → Option String) (o : OptionSpec) : String :=
  o.about ++ (o.standIn?.elim "" fun v => " [env: " ++ v ++ "=" ++ (environment v).getD "" ++ "]")

/-- Lines of two columns. -/
def table (rows : List (String × String)) : String :=
  let width := (rows.map (·.1.length)).foldl max 0
  String.join (rows.map fun (left, right) => "  " ++ Text.padRight width left ++ "  " ++ right ++ "\n")

/-- A table below a heading, after an empty line; nothing if the table is empty. -/
def paragraph (heading : String) (rows : List (String × String)) : String :=
  if rows.isEmpty then "" else "\n" ++ heading ++ ":\n" ++ table rows

/-- By what options at one place are ordered. -/
def sortKey (o : OptionSpec) : String := o.short.elim o.long fun c => String.singleton c.toLower

/-- The options in the order in which they are shown; the first `own` are those of the command. -/
def sortedOptions (own : Nat) (options : List OptionSpec) : List OptionSpec :=
  let placed := options.zipIdx.map fun (o, i) =>
    (o, match o.role with
      | .help => options.length
      | .version => options.length + 1
      | _ => if i < own then i else i - own)
  (placed.mergeSort fun a b => decide (a.2 < b.2) || a.2 == b.2 && decide (sortKey a.1 ≤ sortKey b.1)).map (·.1)

/-- The help text of the page. -/
def help (shared : List OptionSpec) (environment : String → Option String) (p : Page) : String :=
  let options := sortedOptions (p.options.length - shared.length - 2) p.options
  let operands := p.operand.toList.map fun o =>
    ("<" ++ o.name ++ ">", o.about ++ " [possible values: " ++ ", ".intercalate o.choices ++ "]")
  let operands :=
    if p.options.isEmpty && !p.commands.isEmpty then [("[COMMAND]...", "Print help for the subcommand(s)")]
    else operands
  p.about ++ "\n\n" ++ p.usage ++ "\n" ++
    (if p.options.isEmpty then "" else paragraph "Commands" p.commands) ++
    paragraph "Arguments" operands ++
    paragraph "Options" (options.map fun o => (column o, remark environment o)) ++
    if p.closing.isEmpty then "" else "\n" ++ p.closing ++ "\n"

end Page

/-- What is shown of a misuse. -/
def Misuse.text (m : Misuse) : String :=
  "error: " ++ m.fault.message ++ "\n\n" ++ m.page.usage ++ "\n\nFor more information, try '--help'.\n"

end BoardBench.CommandLine
