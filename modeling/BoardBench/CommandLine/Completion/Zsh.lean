import BoardBench.CommandLine.Completion.Offers

/-!
# Completion for zsh

A function that hands the options of a page to the shell's own completer and goes on by the command
that was typed, and a function for each page that describes the commands which can follow.
-/

namespace BoardBench.CommandLine.Completion.Zsh

/-- A text in which what the completer would take for its own is escaped. -/
def escaped (s : String) : String :=
  String.join (s.toList.map fun c =>
    match c with
    | '\\' => "\\\\"
    | '\'' => "'\\''"
    | '[' => "\\["
    | ']' => "\\]"
    | ':' => "\\:"
    | c => String.singleton c)

/-- The spellings of an option, each as an argument of the completer. -/
def optionLines (o : OptionSpec) : List String :=
  let again := if o.repeats then "*" else ""
  let about := "[" ++ escaped o.about ++ "]"
  match o.role with
  | .value what | .values what =>
    (lettersOf [o]).map (fun w => "'" ++ again ++ w ++ "+" ++ about ++ ":" ++ what ++ ":_default' \\\n") ++
      (namesOf [o]).map (fun w => "'" ++ again ++ w ++ "=" ++ about ++ ":" ++ what ++ ":_default' \\\n")
  | .path what => (namesOf [o]).map fun w => "'" ++ w ++ "=" ++ about ++ ":" ++ what ++ ":_files' \\\n"
  | _ => (lettersOf [o] ++ namesOf [o]).map fun w => "'" ++ again ++ w ++ about ++ "' \\\n"

def functionName (p : Page) : String := "_" ++ pageName p

/-- What the state is called in which a command has been typed. -/
def stateName (p : Page) : String := if p.path.length = 1 then p.path.headD "" else p.path.getLastD ""

/-- The arguments of the completer on a page. -/
def arguments (p : Page) : String :=
  "_arguments \"$\x7b_arguments_options[@]\x7d\" : \\\n" ++
  String.join (p.options.flatMap optionLines) ++
  (p.operand.elim "" fun o =>
    "':" ++ escaped o.name ++ " -- " ++ escaped o.about ++ ":(" ++ " ".intercalate o.choices ++ ")' \\\n") ++
  (if p.commands.isEmpty then ""
    else "\":: :" ++ functionName p ++ "_commands\" \\\n\"*::: :->" ++ stateName p ++ "\" \\\n") ++
  "&& ret=0\n"

/-- The cases of the commands that can follow a page, nested at most `fuel` deep. -/
def cases (pages : List Page) : Nat → Page → String
  | 0, _ => ""
  | fuel + 1, p =>
    let below := p.commands.flatMap fun (name, _) => pages.filter (·.path == p.path ++ [name])
    if below.isEmpty then ""
    else
      "    case $state in\n" ++
      "    (" ++ stateName p ++ ")\n" ++
      "        words=($line[1] \"$\x7bwords[@]\x7d\")\n" ++
      "        (( CURRENT += 1 ))\n" ++
      "        curcontext=\"$\x7bcurcontext%:*:*\x7d:" ++ "-".intercalate p.path ++ "-command-$line[1]:\"\n" ++
      "        case $line[1] in\n" ++
      String.join (below.map fun q =>
        "            (" ++ q.path.getLastD "" ++ ")\n" ++ arguments q ++ cases pages fuel q ++ ";;\n") ++
      "        esac\n" ++
      "    ;;\n" ++
      "esac\n"

/-- The function that describes the commands which can follow a page. -/
def describe (p : Page) : String :=
  let name := functionName p ++ "_commands"
  "(( $+functions[" ++ name ++ "] )) ||\n" ++
  name ++ "() \x7b\n" ++
  "    local commands; commands=(" ++
  (if p.commands.isEmpty then ")\n"
    else "\n" ++ String.join (p.commands.map fun (name, about) =>
      "'" ++ escaped name ++ ":" ++ escaped about ++ "' \\\n") ++ "    )\n") ++
  "    _describe -t commands '" ++ " ".intercalate p.path ++ " commands' commands \"$@\"\n" ++
  "\x7d\n"

/-- The script. -/
def script (p : ProgramSpec) : String :=
  let name := functionName p.mainPage
  "#compdef " ++ p.name ++ "\n" ++
  "\n" ++
  "autoload -U is-at-least\n" ++
  "\n" ++
  name ++ "() \x7b\n" ++
  "    typeset -A opt_args\n" ++
  "    typeset -a _arguments_options\n" ++
  "    local ret=1\n" ++
  "\n" ++
  "    if is-at-least 5.2; then\n" ++
  "        _arguments_options=(-s -S -C)\n" ++
  "    else\n" ++
  "        _arguments_options=(-s -C)\n" ++
  "    fi\n" ++
  "\n" ++
  "    local context curcontext=\"$curcontext\" state line\n" ++
  "    " ++ arguments p.mainPage ++ cases p.pages 3 p.mainPage ++
  "\x7d\n" ++
  "\n" ++
  String.join (p.pages.map describe) ++
  "\n" ++
  "if [ \"$funcstack[1]\" = \"" ++ name ++ "\" ]; then\n" ++
  "    " ++ name ++ " \"$@\"\n" ++
  "else\n" ++
  "    compdef " ++ name ++ " " ++ p.name ++ "\n" ++
  "fi\n"

end BoardBench.CommandLine.Completion.Zsh
