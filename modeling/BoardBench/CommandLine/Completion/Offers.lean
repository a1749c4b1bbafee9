import BoardBench.CommandLine.Grammar

/-!
# What is offered for completion

The words that can stand on a page, in the order in which completion scripts list them, and how pages
are named in such scripts.
-/

namespace BoardBench.CommandLine.Completion

/-- The name of a page in scripts: the names that lead to it, with underscores between them. -/
def pageName (p : Page) : String :=
  "__".intercalate (p.path.map fun name => "__".intercalate (name.splitOn "-"))

/-- The letters of options. -/
def lettersOf (options : List OptionSpec) : List String :=
  options.filterMap fun o => o.short.map fun c => "-" ++ String.singleton c

/-- The names of options. -/
def namesOf (options : List OptionSpec) : List String := options.map fun o => "--" ++ o.long

/-- All words that can stand on a page. -/
def wordsOf (p : Page) : List String :=
  lettersOf p.options ++ namesOf p.options ++ (p.operand.elim [] (·.choices)) ++ p.commands.map (·.1)

/-- What can stand on a page, with what is told of it: options that take values, other options, and
commands. -/
def offers (p : Page) : List (String × String) :=
  let ofOption (o : OptionSpec) : List (String × String) :=
    (lettersOf [o] ++ namesOf [o]).map (·, o.about)
  let (valued, plain) := p.options.partition (·.takesValue)
  (valued ++ plain).flatMap ofOption ++ p.commands

/-- The names that lead to a page, with semicolons between them. -/
def route (p : Page) : String := ";".intercalate p.path

/-- A text between quotes; a quote in it is written twice. -/
def quoted (s : String) : String := "'" ++ "''".intercalate (s.splitOn "'") ++ "'"

end BoardBench.CommandLine.Completion
