import BoardBench.CommandLine.Library

/-!
# Reading command lines

The words of a command line are read one after the other. A word is an option, the value of the option
before it, a command, or an operand; after the word `--` there are only operands. What an option was
given is settled when the next option comes, or at the end. The first thing that is wrong, or asks for
help or the version, ends the reading.

An option that is shared by all commands may be given before the command and after it: what stands
after the command counts. An environment variable counts if the option is given in neither place.
-/

namespace BoardBench.CommandLine

/-- What is wrong with a command line. -/
inductive UsageFault where
  | unexpectedWord (word : String)
  | unknownCommand (word : String)
  | missingValue (option : OptionSpec)
  /-- A value was tied to an option that takes none. -/
  | needlessValue (option : OptionSpec) (value : String)
  | repeated (option : OptionSpec)
  | wrongValue (value whose : String) (choices : List String)
  | missingOperand (operand : OperandSpec)
  | missingCommand
  deriving DecidableEq, Repr

namespace UsageFault

def message : UsageFault → String
  | unexpectedWord w => "unexpected argument '" ++ w ++ "' found"
  | unknownCommand w => "unrecognized subcommand '" ++ w ++ "'"
  | missingValue o => "a value is required for '" ++ o.shown ++ "' but none was supplied"
  | needlessValue o v => "unexpected value '" ++ v ++ "' for '" ++ o.shown ++ "' found; no more were expected"
  | repeated o => "the argument '" ++ o.shown ++ "' cannot be used multiple times"
  | wrongValue v whose choices =>
    "invalid value '" ++ v ++ "' for '" ++ whose ++ "'" ++
      if choices.isEmpty then "" else "\n  [possible values: " ++ ", ".intercalate choices ++ "]"
  | missingOperand o => "the following required arguments were not provided:\n  <" ++ o.name ++ ">"
  | missingCommand => "a subcommand is required but one was not provided"

end UsageFault

/-- Why the reading ended early. -/
inductive Stop where
  | help
  | version
  | fault (f : UsageFault)
  deriving DecidableEq, Repr

/-- The last thing that was given, before it is settled. -/
inductive Unsettled where
  /-- An option, with its value if that has come. -/
  | option (o : OptionSpec) (value : Option String)
  | operand (o : OperandSpec) (value : String)
  deriving DecidableEq, Repr

/-- What was read at one place of the command line. -/
structure Place where
  page : Page
  /-- The values of what is settled, by its name. -/
  given : List (String × List String) := []
  unsettled : Option Unsettled := none
  operandSeen : Bool := false
  /-- What follows is no option. -/
  onlyOperands : Bool := false
  deriving DecidableEq, Repr

namespace Place

/-- Whether the next word is the value of an option. -/
def awaitsValue (p : Place) : Bool := p.unsettled matches some (.option _ none)

/-- Settles one value of an option. -/
def add (o : OptionSpec) (value : String) (p : Place) : Except UsageFault Place :=
  match p.given.lookup o.long with
  | some values =>
    if o.repeats then
      .ok { p with given := (o.long, values ++ [value]) :: p.given.filter (·.1 != o.long) }
    else .error (.repeated o)
  | none =>
    if o.role matches .path _ && value.isEmpty then .error (.wrongValue value o.shown [])
    else .ok { p with given := (o.long, [value]) :: p.given }

/-- Settles what was given last. -/
def settle (p : Place) : Except UsageFault Place :=
  let settled := { p with unsettled := none }
  match p.unsettled with
  | none => .ok p
  | some (.option o none) => .error (.missingValue o)
  | some (.option o (some value)) => settled.add o value
  | some (.operand o value) =>
    if o.choices.contains value then .ok { settled with given := (o.name, [value]) :: p.given }
    else .error (.wrongValue value ("<" ++ o.name ++ ">") o.choices)

/-- Settles what was given last; a fault ends the reading. -/
def settled (p : Place) : Except Stop Place := p.settle.mapError .fault

/-- An option that takes no value stands here. -/
def occur (o : OptionSpec) (p : Place) : Except Stop Place := do
  let p ← p.settled
  match o.role with
  | .help => throw .help
  | .version => throw .version
  | _ => (p.add o "true").mapError .fault

/-- An option stands here with its value tied to it. -/
def tie (o : OptionSpec) (value : String) (p : Place) : Except Stop Place := do
  let p ← p.settled
  (p.add o value).mapError .fault

/-- An option stands here whose value is to follow. -/
def expectValue (o : OptionSpec) (p : Place) : Except Stop Place := do
  let p ← p.settled
  return { p with unsettled := some (.option o none) }

/-- Reads a word that begins with two dashes, from there on. -/
def longOption (text : String) (p : Place) : Except Stop Place :=
  let (name, value) := match text.splitOn "=" with
    | name :: first :: rest => (name, some ("=".intercalate (first :: rest)))
    | _ => (text, none)
  match p.page.options.find? (·.long == name), value with
  | none, _ => .error (.fault (.unexpectedWord ("--" ++ name)))
  | some o, some value => if o.takesValue then p.tie o value else .error (.fault (.needlessValue o value))
  | some o, none => if o.takesValue then p.expectValue o else p.occur o

/-- Reads letters that follow one dash; what follows the letter of an option with a value is its
value. -/
def letters (p : Place) : List Char → Except Stop Place
  | [] => .ok p
  | c :: rest =>
    match p.page.options.find? (·.short == some c) with
    | none => .error (.fault (.unexpectedWord ("-" ++ String.singleton c)))
    | some o =>
      if o.takesValue then
        match rest with
        | [] => p.expectValue o
        | '=' :: value => p.tie o (String.ofList value)
        | value => p.tie o (String.ofList value)
      else
        match p.occur o with
        | .ok p => letters p rest
        | .error stop => .error stop

/-- Reads an operand. -/
def operand (word : String) (p : Place) : Except Stop Place :=
  match p.page.operand with
  | none =>
    .error (.fault (if p.page.commands.isEmpty then .unexpectedWord word else .unknownCommand word))
  | some o =>
    if p.operandSeen then .error (.fault (.unexpectedWord word))
    else do
      let p ← p.settled
      return { p with unsettled := some (.operand o word), operandSeen := true }

/-- Reads one word that is no command. -/
def word (w : String) (p : Place) : Except Stop Place :=
  if p.onlyOperands then p.operand w
  else
    match w.toList with
    | ['-', '-'] => .ok { p with onlyOperands := true }
    | '-' :: '-' :: text => p.longOption (String.ofList text)
    | '-' :: c :: rest => p.letters (c :: rest)
    | _ =>
      match p.unsettled with
      | some (.option o none) => .ok { p with unsettled := some (.option o (some w)) }
      | _ => p.operand w

/-- Whether a value from the environment is one for an option. -/
def checkVariable (o : OptionSpec) (value : String) : Except UsageFault Unit :=
  match o.role with
  | .flag =>
    if value == "true" || value == "false" then .ok ()
    else .error (.wrongValue value o.shown ["true", "false"])
  | .path _ => if value.isEmpty then .error (.wrongValue value o.shown []) else .ok ()
  | _ => .ok ()

/-- Settles what was given last, and looks at the variables of options that were not given and at the
operand. -/
def finish (environment : String → Option String) (p : Place) : Except UsageFault Place := do
  let p ← p.settle
  for o in p.page.options do
    if (p.given.lookup o.long).isNone then
      match o.standIn?.bind environment with
      | some value => checkVariable o value
      | none => pure ()
  match p.page.operand with
  | some o => if p.operandSeen then return p else throw (.missingOperand o)
  | none => return p

end Place

/-- What a command line was understood to ask for. -/
inductive Understood where
  | help (page : Page)
  | version (page : Page)
  | call (command : String) (settings : Settings)
  deriving Repr

/-- What is wrong, and on which page the right way is shown. -/
structure Misuse where
  page : Page
  fault : UsageFault
  deriving Repr

namespace ProgramSpec

/-- An answer that does not depend on what follows on the command line. -/
def ofStop (page : Page) : Stop → Except Misuse Understood
  | .help => .ok (.help page)
  | .version => .ok (.version page)
  | .fault fault => .error ⟨page, fault⟩

/-- The settings of a call: what was given after the command, else before it, else in the
environment. -/
def settings (environment : String → Option String) (before after : Place) : Settings :=
  let ofOption (o : OptionSpec) : Option (String × List String) :=
    ((after.given.lookup o.long).or
      ((before.given.lookup o.long).or ((o.standIn?.bind environment).map ([·])))).map (o.long, ·)
  ⟨after.page.options.filterMap ofOption ++
    after.page.operand.toList.filterMap fun o => (after.given.lookup o.name).map (o.name, ·)⟩

/-- Reads what follows the name of a command. -/
def readCommand (p : ProgramSpec) (environment : String → Option String) (before : Place)
    (c : CommandSpec) (words : List String) : Except Misuse Understood :=
  let page := p.commandPage c
  match words.foldlM (fun place w => place.word w) ({ page } : Place) with
  | .error stop => ofStop page stop
  | .ok after =>
    match after.finish environment, before.finish environment with
    | .error fault, _ => .error ⟨page, fault⟩
    | _, .error fault => .error ⟨before.page, fault⟩
    | .ok after, .ok before => .ok (.call c.name (settings environment before after))

/-- Reads what follows the name of the command that shows help. -/
def readHelp (p : ProgramSpec) : List String → Except Misuse Understood
  | [] => .ok (.help p.mainPage)
  | [name] =>
    match p.commands.find? (·.name == name) with
    | some c => .ok (.help (p.commandPage c))
    | none =>
      if name == helpName then .ok (.help p.helpPage)
      else .error ⟨p.mainPage, .unknownCommand name⟩
  | name :: more :: _ =>
    if (p.summaries.map (·.1)).contains name then .error ⟨p.mainPage, .unknownCommand more⟩
    else .error ⟨p.mainPage, .unknownCommand name⟩

/-- Reads words up to the name of a command, and then its own. -/
def readFrom (p : ProgramSpec) (environment : String → Option String) (place : Place) :
    List String → Except Misuse Understood
  | [] =>
    match place.finish environment with
    | .error fault => .error ⟨place.page, fault⟩
    | .ok _ => .error ⟨place.page, .missingCommand⟩
  | w :: rest =>
    if !place.onlyOperands && !place.awaitsValue && w == helpName then p.readHelp rest
    else
      match if place.onlyOperands || place.awaitsValue then none else p.commands.find? (·.name == w) with
      | some c => p.readCommand environment place c rest
      | none =>
        match place.word w with
        | .ok place => readFrom p environment place rest
        | .error stop => ofStop place.page stop

/-- Reads a command line, without the name of the program. -/
def read (p : ProgramSpec) (environment : String → Option String) (words : List String) :
    Except Misuse Understood :=
  p.readFrom environment { page := p.mainPage } words

end ProgramSpec
end BoardBench.CommandLine
