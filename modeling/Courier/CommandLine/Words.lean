/-!
# Words of a command line

A word is an operand or names an option.  An option has a long name after two hyphens and may have a
short one after one hyphen; it either is a switch or takes a value, which is attached to its name or
is the next word.  No option is given twice.  After two hyphens alone every word is an operand.
-/

namespace Courier.CommandLine

/-- Why the words are not read to their end. -/
inductive Refusal where
  /-- Help is asked for. -/
  | help
  /-- The words do not fit. -/
  | misuse
deriving DecidableEq, Repr

/-- What an option takes. -/
inductive ValueKind where
  /-- Nothing: it is a switch. -/
  | nothing
  | text
  /-- Any text but the empty one. -/
  | someText
deriving DecidableEq, Repr

/-- An option. -/
structure Flag where
  /-- Long name. -/
  long : String
  /-- Short name; only options with a value have one. -/
  short : Option Char := none
  /-- What it takes. -/
  kind : ValueKind := .text
deriving DecidableEq, Repr

/-- What words may be used. -/
structure Grammar where
  /-- Options. -/
  flags : List Flag
  /-- Number of operands. -/
  operands : Nat := 0
  /-- Whether the first operand begins a command with words of its own. -/
  isLeading : Bool := false

/-- What a word looks like. -/
inductive WordShape where
  /-- Two hyphens alone. -/
  | divider
  /-- A long name, with an attached value. -/
  | long (name : String) (attached : Option String)
  /-- A short name, with an attached value. -/
  | short (name : Char) (attached : Option String)
  /-- Anything else. -/
  | operand
deriving DecidableEq, Repr

def WordShape.ofWord (word : String) : WordShape :=
  match word.toList with
  | ['-', '-'] => .divider
  | '-' :: '-' :: chars =>
    let name := String.ofList (chars.takeWhile (· != '='))
    match chars.dropWhile (· != '=') with
    | [] => .long name none
    | _ :: value => .long name (some (String.ofList value))
  | '-' :: name :: chars =>
    match chars with
    | [] => .short name none
    | '=' :: value => .short name (some (String.ofList value))
    | value => .short name (some (String.ofList value))
  | _ => .operand

structure WordsRead where
  /-- Options with their values; that of a switch is empty. -/
  values : List (String × String) := []
  /-- Operands, in order. -/
  operands : List String := []
  /-- The option whose value comes next. -/
  pending : Option Flag := none
  /-- Whether only operands follow. -/
  isDivided : Bool := false

namespace WordsRead

def value? (read : WordsRead) (name : String) : Option String :=
  (read.values.find? (·.1 == name)).map (·.2)

/-- Whether an option is given. -/
def has (read : WordsRead) (name : String) : Bool := (read.value? name).isSome

/-- Adds an option. -/
def addValue (read : WordsRead) (flag : Flag) (value : String) : Except Refusal WordsRead :=
  if read.has flag.long || (flag.kind == .someText && value.isEmpty) then .error .misuse
  else .ok { read with values := read.values ++ [(flag.long, value)], pending := none }

/-- Adds the name of an option. -/
def addFlag (read : WordsRead) (flag : Flag) (attached : Option String) :
    Except Refusal WordsRead :=
  match flag.kind, attached with
  | .nothing, none => read.addValue flag ""
  | .nothing, some _ => .error .misuse
  | _, some value => read.addValue flag value
  | _, none => .ok { read with pending := some flag }

/-- Adds an operand. -/
def addOperand (grammar : Grammar) (read : WordsRead) (word : String) :
    Except Refusal WordsRead :=
  if read.operands.length < grammar.operands then
    .ok { read with operands := read.operands ++ [word] }
  else .error .misuse

/-- Adds a word that no option waits for. -/
def addWord (grammar : Grammar) (read : WordsRead) (word : String) : Except Refusal WordsRead :=
  if read.isDivided then read.addOperand grammar word
  else
    match WordShape.ofWord word with
    | .divider => .ok { read with isDivided := true }
    | .long "help" none | .short 'h' _ => .error .help
    | .long name attached =>
      match grammar.flags.find? (·.long == name) with
      | some flag => read.addFlag flag attached
      | none => .error .misuse
    | .short name attached =>
      match grammar.flags.find? (·.short == some name) with
      | some flag => read.addFlag flag attached
      | none => .error .misuse
    | .operand => read.addOperand grammar word

end WordsRead

/-- Reads words; what follows from a leading operand on is left. -/
def Grammar.readWords (grammar : Grammar) (read : WordsRead) :
    List String → Except Refusal (WordsRead × List String)
  | [] => if read.pending.isSome then .error .misuse else .ok (read, [])
  | word :: rest =>
    match read.pending with
    | some flag =>
      if WordShape.ofWord word == .operand then do
        grammar.readWords (← read.addValue flag word) rest
      else .error .misuse
    | none =>
      if grammar.isLeading && !read.isDivided && WordShape.ofWord word == .operand then
        .ok (read, word :: rest)
      else do grammar.readWords (← read.addWord grammar word) rest

end Courier.CommandLine
