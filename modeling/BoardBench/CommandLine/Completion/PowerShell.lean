import BoardBench.CommandLine.Completion.Offers

/-!
# Completion for PowerShell

A block that finds the page which the words typed so far lead to, and offers what can stand there.
-/

namespace BoardBench.CommandLine.Completion.PowerShell

/-- One thing that is offered. A capital letter is followed by a blank, so that it is not taken for the
small one. -/
def result (word about : String) : String :=
  let listed := match word.toList with
    | ['-', c] => if c.isUpper then word ++ " " else word
    | _ => word
  let kind := if word.startsWith "-" then "ParameterName" else "ParameterValue"
  "            [CompletionResult]::new(" ++ quoted word ++ ", " ++ quoted listed ++
    ", [CompletionResultType]::" ++ kind ++ ", " ++ quoted about ++ ")\n"

def pageCase (p : Page) : String :=
  "        " ++ quoted (route p) ++ " \x7b\n" ++
  String.join ((offers p).map fun (word, about) => result word about) ++
  "            break\n" ++
  "        \x7d\n"

/-- The script. -/
def script (p : ProgramSpec) : String :=
  "\nusing namespace System.Management.Automation\n" ++
  "using namespace System.Management.Automation.Language\n" ++
  "\n" ++
  "Register-ArgumentCompleter -Native -CommandName " ++ quoted p.name ++ " -ScriptBlock \x7b\n" ++
  "    param($wordToComplete, $commandAst, $cursorPosition)\n" ++
  "\n" ++
  "    $commandElements = $commandAst.CommandElements\n" ++
  "    $command = @(\n" ++
  "        " ++ quoted p.name ++ "\n" ++
  "        for ($i = 1; $i -lt $commandElements.Count; $i++) \x7b\n" ++
  "            $element = $commandElements[$i]\n" ++
  "            if ($element -isnot [StringConstantExpressionAst] -or\n" ++
  "                $element.StringConstantType -ne [StringConstantType]::BareWord -or\n" ++
  "                $element.Value.StartsWith('-') -or\n" ++
  "                $element.Value -eq $wordToComplete) \x7b\n" ++
  "                break\n" ++
  "        \x7d\n" ++
  "        $element.Value\n" ++
  "    \x7d) -join ';'\n" ++
  "\n" ++
  "    $completions = @(switch ($command) \x7b\n" ++
  String.join (p.pages.map pageCase) ++
  "    \x7d)\n" ++
  "\n" ++
  "    $completions.Where\x7b $_.CompletionText -like \"$wordToComplete*\" \x7d |\n" ++
  "        Sort-Object -Property ListItemText\n" ++
  "\x7d\n"

end BoardBench.CommandLine.Completion.PowerShell
