/-!
# The grammar of command lines

A command line is a list of words.  A `Grammar` says which options, operands and subcommands a
command has; `Grammar.read` takes a command line apart accordingly.

**Options.**  An option is a long name after two dashes.  A flag stands alone; an option with a value
takes it from behind an equals sign or from the next word, which must not begin with a dash.  No
option is given twice.

**Words.**  `--` ends the options.  All other words are values of options, operands, or the name of
a subcommand, which takes everything that follows.  Operands are paths, so none is empty.

**Halts.**  A command line that asks for help or for the version is not read any further, and
neither is one that breaks the grammar.  What stands first decides, with one exception: a value that
is a word of its own is held (`Reading.held`) until something else of the same command follows, and
only then looked at (`Reading.settle`).  When the name of a subcommand follows, that subcommand is
read before it.
-/

namespace Federation.Command

/-- Why a command line is not read to its end. -/
inductive Halt where
  /-- It breaks the grammar. -/
  | misuse
  /-- It asks for help. -/
  | help
  /-- It asks for the version. -/
  | version
deriving DecidableEq

/-- An option. -/
structure Choice where
  /-- The long name. -/
  name : String
  /-- The short name, if there is one. -/
  short : Option Char
  /-- Which values it takes; a flag takes none. -/
  accepts : Option (String → Bool)

/-- How many operands a command takes. -/
inductive Operands where
  | none
  | one
  | many
deriving DecidableEq

/-- Options, operands and subcommands of a command. -/
inductive Grammar where
  | node (choices : List Choice) (operands : Operands) (children : List (String × Grammar))

namespace Grammar

/-- The options. -/
def choices : Grammar → List Choice
  | node choices _ _ => choices

/-- The operands. -/
def operands : Grammar → Operands
  | node _ operands _ => operands

/-- The subcommands. -/
def children : Grammar → List (String × Grammar)
  | node _ _ children => children

end Grammar

/-- What has been read of a command line. -/
structure Reading where
  /-- The options with their values; a flag has the empty one. -/
  given : List (String × String)
  operands : List String
  /-- The last option, if its value is a word of its own, and that word once it has come. -/
  held : Option (Choice × Option String)
  /-- Whether options are over. -/
  trailing : Bool

namespace Reading

/-- Nothing has been read. -/
def start : Reading := ⟨[], [], none, false⟩

/-- Whether an option has been given. -/
def has (r : Reading) (name : String) : Bool :=
  (r.given.lookup name).isSome

/-- The value of an option. -/
def value? (r : Reading) (name : String) : Option String :=
  r.given.lookup name

/-- Whether the next word is the value of an option. -/
def isWaiting (r : Reading) : Bool :=
  match r.held with
  | some (_, none) => true
  | _ => false

/-- Takes an option with its value. -/
def give (r : Reading) (choice : Choice) (value : String) : Except Halt Reading :=
  let fits :=
    match choice.accepts with
    | some accepts => accepts value
    | none => true
  if fits && !r.has choice.name then .ok { r with given := r.given ++ [(choice.name, value)] }
  else .error .misuse

/-- Takes the option that is held. -/
def settle (r : Reading) : Except Halt Reading :=
  match r.held with
  | none => .ok r
  | some (_, none) => .error .misuse
  | some (choice, some value) => { r with held := none }.give choice value

/-- Takes an operand. -/
def operand (r : Reading) (operands : Operands) (word : String) : Except Halt Reading := do
  let r ← r.settle
  let room :=
    match operands with
    | .none => false
    | .one => r.operands.isEmpty
    | .many => true
  if room && !word.isEmpty then return { r with operands := r.operands ++ [word] }
  else .error .misuse

/-- Takes an option that has no value attached. -/
def choose (r : Reading) (choice : Choice) : Except Halt Reading := do
  let r ← r.settle
  match choice.accepts with
  | none => r.give choice ""
  | some _ => return { r with held := some (choice, none) }

/-- Takes an option with a value attached. -/
def attach (r : Reading) (choice : Choice) (value : String) : Except Halt Reading := do
  let r ← r.settle
  if choice.accepts.isNone then .error .misuse else r.give choice value

/-- Stops at a built-in option, or at one that is unknown. -/
def stop (r : Reading) (halt : Option Halt) : Except Halt Reading := do
  let _ ← r.settle
  .error (halt.getD .misuse)

end Reading

namespace Grammar

/-- What the built-in options ask for. -/
def halt? (isTop : Bool) : String → Option Halt
  | "help" => some .help
  | "h" => some .help
  | "version" => if isTop then some .version else none
  | "V" => if isTop then some .version else none
  | _ => none

/-- Takes a long option, given without its dashes. -/
def readLong (g : Grammar) (isTop : Bool) (r : Reading) (word : String) : Except Halt Reading :=
  let parts := word.splitOn "="
  let name := parts.headD ""
  match g.choices.find? fun choice => choice.name == name with
  | some choice =>
    if parts.length = 1 then r.choose choice else r.attach choice ("=".intercalate parts.tail)
  | none => r.stop (if name.length < 2 ∨ parts.length ≠ 1 then none else halt? isTop name)

/-- Takes short options that stand behind one dash. -/
def readShort (g : Grammar) (isTop : Bool) (r : Reading) : List Char → Except Halt Reading
  | [] => .ok r
  | c :: rest =>
    match g.choices.find? fun choice => choice.short == some c with
    | some choice => do readShort g isTop (← r.choose choice) rest
    | none => r.stop (halt? isTop c.toString)

/-- Takes one word that is not the name of a subcommand. -/
def readWord (g : Grammar) (isTop : Bool) (r : Reading) (word : String) : Except Halt Reading :=
  if r.trailing then r.operand g.operands word
  else
    match word.toList, r.held with
    | '-' :: '-' :: [], _ => .ok { r with trailing := true }
    | '-' :: '-' :: long, _ => g.readLong isTop r (String.ofList long)
    | '-' :: short :: more, _ => g.readShort isTop r (short :: more)
    | _, some (choice, none) => .ok { r with held := some (choice, some word) }
    | _, _ => r.operand g.operands word

/-- Whether names lead from a command to one of its descendants. -/
def leadsTo : Grammar → List String → Bool
  | _, [] => true
  | g, name :: rest =>
    match g.children.lookup name with
    | some child => leadsTo child rest
    | none => name == "help" && !g.children.isEmpty && rest.isEmpty

/-- Reads the words of a command and of its subcommands; gives the names of these and what was read
for each, the command itself first. -/
def read (g : Grammar) (isTop : Bool) (r : Reading) :
    List String → Except Halt (List String × List Reading)
  | [] => do
    let r ← r.settle
    if g.children.isEmpty then return ([], [r]) else .error .misuse
  | word :: rest =>
    if r.trailing || r.isWaiting then do read g isTop (← g.readWord isTop r word) rest
    else
      match g.children.lookup word with
      | some child => do
        let (names, readings) ← read child false Reading.start rest
        let r ← r.settle
        return (word :: names, r :: readings)
      | none =>
        if word = "help" ∧ !g.children.isEmpty then
          .error (if g.leadsTo rest then .help else .misuse)
        else do read g isTop (← g.readWord isTop r word) rest

end Grammar

end Federation.Command
