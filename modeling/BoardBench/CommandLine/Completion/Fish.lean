import BoardBench.CommandLine.Completion.Offers

/-!
# Completion for fish

A line for each thing that can be typed, with the condition under which it is offered: that no command
has been typed yet, or that a certain one has.
-/

namespace BoardBench.CommandLine.Completion.Fish

/-- A text between quotes. -/
def quoted (s : String) : String :=
  "'" ++ "\\'".intercalate (("\\\\".intercalate (s.splitOn "\\")).splitOn "'") ++ "'"

/-- An option as the shell's own reader of options takes it. -/
def optionText (o : OptionSpec) : String :=
  (o.short.elim "" fun c => String.singleton c ++ "/") ++ o.long ++ if o.takesValue then "=" else ""

/-- The letter and the name of an option. -/
def spelling (o : OptionSpec) : String :=
  (o.short.elim "" fun c => " -s " ++ String.singleton c) ++ " -l " ++ o.long

def optionLine (start : String) (o : OptionSpec) : String :=
  let files := match o.role with
    | .path _ => " -r -F"
    | _ => if o.takesValue then " -r" else ""
  start ++ spelling o ++ " -d " ++ quoted o.about ++ files ++ "\n"

/-- The lines of a page, each after a condition. -/
def pageLines (program condition : String) (p : Page) : String :=
  let start := "complete -c " ++ program ++ " -n \"" ++ condition ++ "\""
  let (valued, plain) := p.options.partition (·.takesValue)
  String.join ((valued ++ plain).map (optionLine start)) ++
    (p.operand.elim "" fun o =>
      start ++ " -f -a \"" ++ "\n".intercalate (o.choices.map fun c => c ++ "\\t''") ++ "\"\n") ++
    String.join (p.commands.map fun (name, about) =>
      start ++ " -f -a \"" ++ name ++ "\" -d " ++ quoted about ++ "\n")

/-- The lines of a page. -/
def page (program : String) (p : Page) : String :=
  let under := "__fish_" ++ program ++ "_using_subcommand "
  match p.path with
  | [_] => pageLines program ("__fish_" ++ program ++ "_needs_command") p
  | [_, command] =>
    let names := " ".intercalate (p.commands.map (·.1))
    pageLines program
      (under ++ command ++ if names.isEmpty then "" else "; and not __fish_seen_subcommand_from " ++ names) p
  | [_, command, name] =>
    pageLines program (under ++ command ++ "; and __fish_seen_subcommand_from " ++ name) p
  | _ => ""

/-- The script. -/
def script (p : ProgramSpec) : String :=
  let named := "__fish_" ++ p.name
  "# Print an optspec for argparse to handle cmd's options that are independent of any subcommand.\n" ++
  "function " ++ named ++ "_global_optspecs\n" ++
  "\tstring join \\n " ++ " ".intercalate (p.mainPage.options.map optionText) ++ "\n" ++
  "end\n\n" ++
  "function " ++ named ++ "_needs_command\n" ++
  "\t# Figure out if the current invocation already has a command.\n" ++
  "\tset -l cmd (commandline -opc)\n" ++
  "\tset -e cmd[1]\n" ++
  "\targparse -s (" ++ named ++ "_global_optspecs) -- $cmd 2>/dev/null\n" ++
  "\tor return\n" ++
  "\tif set -q argv[1]\n" ++
  "\t\t# Also print the command, so this can be used to figure out what it is.\n" ++
  "\t\techo $argv[1]\n" ++
  "\t\treturn 1\n" ++
  "\tend\n" ++
  "\treturn 0\n" ++
  "end\n\n" ++
  "function " ++ named ++ "_using_subcommand\n" ++
  "\tset -l cmd (" ++ named ++ "_needs_command)\n" ++
  "\ttest -z \"$cmd\"\n" ++
  "\tand return 1\n" ++
  "\tcontains -- $cmd[1] $argv\n" ++
  "end\n\n" ++
  String.join (p.pages.map (page p.name))

end BoardBench.CommandLine.Completion.Fish
