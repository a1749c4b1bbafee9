import BoardBench.CommandLine.Completion.Offers

/-!
# Completion for elvish

A table from the names that lead to a page, with semicolons between them, to a function that offers
what can stand there, with a remark about each.
-/

namespace BoardBench.CommandLine.Completion

namespace Elvish

def pageEntry (p : Page) : String :=
  "        &" ++ quoted (route p) ++ "= \x7b\n" ++
  String.join ((offers p).map fun (word, about) => "            cand " ++ word ++ " " ++ quoted about ++ "\n") ++
  "        \x7d\n"

/-- The script. -/
def script (p : ProgramSpec) : String :=
  "\nuse builtin;\n" ++
  "use str;\n" ++
  "\n" ++
  "set edit:completion:arg-completer[" ++ p.name ++ "] = \x7b|@words|\n" ++
  "    fn spaces \x7b|n|\n" ++
  "        builtin:repeat $n ' ' | str:join ''\n" ++
  "    \x7d\n" ++
  "    fn cand \x7b|text desc|\n" ++
  "        edit:complex-candidate $text &display=$text' '(spaces (- 14 (wcswidth $text)))$desc\n" ++
  "    \x7d\n" ++
  "    var command = " ++ quoted p.name ++ "\n" ++
  "    for word $words[1..-1] \x7b\n" ++
  "        if (str:has-prefix $word '-') \x7b\n" ++
  "            break\n" ++
  "        \x7d\n" ++
  "        set command = $command';'$word\n" ++
  "    \x7d\n" ++
  "    var completions = [\n" ++
  String.join (p.pages.map pageEntry) ++
  "    ]\n" ++
  "    $completions[$command]\n" ++
  "\x7d\n"

end Elvish
end BoardBench.CommandLine.Completion
