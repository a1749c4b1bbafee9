import BoardBench.CommandLine.Completion.Offers

/-!
# Completion for bash

A function that goes through the words typed so far to find the page they lead to, and offers what can
stand there: letters, names, the choices of an operand, and commands.
-/

namespace BoardBench.CommandLine.Completion

namespace Bash

def var (name : String) : String := "\"$\x7b" ++ name ++ "\x7d\""

/-- The name of the script's function. -/
def functionName (program : String) : String := "_" ++ program

/-- The case of a word that leads from one page to another. -/
def step (above : Page) (name : String) (below : Page) : String :=
  "            " ++ pageName above ++ "," ++ name ++ ")\n" ++
  "                cmd=\"" ++ pageName below ++ "\"\n" ++
  "                ;;\n"

/-- The steps from all pages. -/
def steps (pages : List Page) : String :=
  String.join (pages.flatMap fun above =>
    above.commands.flatMap fun (name, _) =>
      (pages.filter (·.path == above.path ++ [name])).map (step above name))

/-- Where a word before the cursor wants a value, files are offered. -/
def valueCase (word : String) : String :=
  "                " ++ word ++ ")\n" ++
  "                    COMPREPLY=($(compgen -f " ++ var "cur" ++ "))\n" ++
  "                    return 0\n" ++
  "                    ;;\n"

/-- The case of a page. -/
def pageCase (p : Page) : String :=
  let offer := "COMPREPLY=( $(compgen -W " ++ var "opts" ++ " -- " ++ var "cur" ++ ") )\n"
  "        " ++ pageName p ++ ")\n" ++
  "            opts=\"" ++ " ".intercalate (wordsOf p) ++ "\"\n" ++
  "            if [[ $\x7bcur\x7d == -* || $\x7bCOMP_CWORD\x7d -eq " ++ toString p.path.length ++ " ]] ; then\n" ++
  "                " ++ offer ++
  "                return 0\n" ++
  "            fi\n" ++
  "            case " ++ var "prev" ++ " in\n" ++
  String.join ((p.options.filter (·.takesValue)).flatMap fun o =>
    (namesOf [o] ++ lettersOf [o]).map valueCase) ++
  "                *)\n" ++
  "                    COMPREPLY=()\n" ++
  "                    ;;\n" ++
  "            esac\n" ++
  "            " ++ offer ++
  "            return 0\n" ++
  "            ;;\n"

/-- The script. -/
def script (p : ProgramSpec) : String :=
  let name := functionName p.name
  name ++ "() \x7b\n" ++
  "    local i cur prev opts cmd\n" ++
  "    COMPREPLY=()\n" ++
  "    if [[ " ++ var "BASH_VERSINFO[0]" ++ " -ge 4 ]]; then\n" ++
  "        cur=\"$2\"\n" ++
  "    else\n" ++
  "        cur=" ++ var "COMP_WORDS[COMP_CWORD]" ++ "\n" ++
  "    fi\n" ++
  "    prev=\"$3\"\n" ++
  "    cmd=\"\"\n" ++
  "    opts=\"\"\n" ++
  "\n" ++
  "    for i in " ++ var "COMP_WORDS[@]:0:COMP_CWORD" ++ "\n" ++
  "    do\n" ++
  "        case \"$\x7bcmd\x7d,$\x7bi\x7d\" in\n" ++
  "            \",$1\")\n" ++
  "                cmd=\"" ++ pageName p.mainPage ++ "\"\n" ++
  "                ;;\n" ++
  steps p.pages ++
  "            *)\n" ++
  "                ;;\n" ++
  "        esac\n" ++
  "    done\n" ++
  "\n" ++
  "    case " ++ var "cmd" ++ " in\n" ++
  String.join (p.pages.map pageCase) ++
  "    esac\n" ++
  "\x7d\n" ++
  "\n" ++
  "if [[ " ++ var "BASH_VERSINFO[0]" ++ " -eq 4 && " ++ var "BASH_VERSINFO[1]" ++ " -ge 4 || " ++
    var "BASH_VERSINFO[0]" ++ " -gt 4 ]]; then\n" ++
  "    complete -F " ++ name ++ " -o nosort -o bashdefault -o default " ++ p.name ++ "\n" ++
  "else\n" ++
  "    complete -F " ++ name ++ " -o bashdefault -o default " ++ p.name ++ "\n" ++
  "fi\n"

end Bash
end BoardBench.CommandLine.Completion
