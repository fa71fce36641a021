import Courier.Text.Ascii

/-!
# Scanning TOML

The smallest parts of a TOML document: blanks, comments, line ends, keys and the four kinds of
strings.  A scanner takes characters off the front of a text, or fails.
-/

namespace Courier.Toml

/-- Reads something off the front of a text. -/
abbrev Scanner := StateT (List Char) Option

/-- Fails. -/
def reject {α : Type} : Scanner α := fun _ => none

/-- The next character, which is not read. -/
def peek : Scanner (Option Char) := fun chars => some (chars.head?, chars)

/-- Reads one given character. -/
def expect (char : Char) : Scanner Unit := fun chars =>
  match chars with
  | first :: rest => if first == char then some ((), rest) else none
  | [] => none

/-- Reads a given text. -/
def expectAll (text : List Char) : Scanner Unit := fun chars =>
  if text.isPrefixOf chars then some ((), chars.drop text.length) else none

/-- Reads the longest run of characters of a class. -/
def run (isIn : Char → Bool) : Scanner (List Char) := fun chars =>
  some (chars.takeWhile isIn, chars.dropWhile isIn)

/-- Reads with the first scanner that succeeds. -/
def firstOf {α : Type} (scanners : List (Scanner α)) : Scanner α := fun chars =>
  scanners.findSome? fun scanner => scanner chars

/-- A blank within a line. -/
def isBlank (char : Char) : Bool := char == ' ' || char == '\t'

/-- A character of comments and literal strings: no control character but the tab. -/
def isPlain (char : Char) : Bool := char == '\t' || (32 ≤ char.toNat && char.toNat != 127)

/-- Reads blanks. -/
def blanks : Scanner Unit := do let _ ← run isBlank

/-- Takes a line end off the front of a text. -/
def dropNewline? : List Char → Option (List Char)
  | '\n' :: rest => some rest
  | '\r' :: '\n' :: rest => some rest
  | _ => none

/-- Reads a line end. -/
def newline : Scanner Unit := fun chars => (dropNewline? chars).map ((), ·)

/-- Reads a comment, if there is one. -/
def comment : Scanner Unit := do
  if (← peek) == some '#' then
    let _ ← run isPlain

/-- Reads blanks, a comment and the end of a line or of the text. -/
def lineEnd : Scanner Unit := do
  blanks
  comment
  if (← peek).isSome then newline

/-- Blanks, comments and line ends, as between the items of an array.  The flag tells whether a
comment is being read. -/
def dropLayout : Bool → List Char → Option (List Char)
  | _, [] => some []
  | _, '\r' :: '\n' :: rest => dropLayout false rest
  | _, '\n' :: rest => dropLayout false rest
  | true, char :: rest => if isPlain char then dropLayout true rest else none
  | false, '#' :: rest => dropLayout true rest
  | false, char :: rest => if isBlank char then dropLayout false rest else some (char :: rest)

/-- Reads blanks, comments and line ends. -/
def layout : Scanner Unit := fun chars => (dropLayout false chars).map ((), ·)

/-! ## Strings -/

/-- The character of a code point written in hexadecimal. -/
def scalar? (digits : List Char) : Option Char :=
  let code := Ascii.ofDigits 16 digits
  if digits.all Ascii.isHexDigit && (code < 0xD800 || (0xE000 ≤ code && code < 0x110000)) then
    some (Char.ofNat code)
  else none

/-- The character that a one-letter escape stands for. -/
def shortEscape? : Char → Option Char
  | 'b' => some '\x08'
  | 't' => some '\t'
  | 'n' => some '\n'
  | 'f' => some '\x0c'
  | 'r' => some '\r'
  | '"' => some '"'
  | '\\' => some '\\'
  | _ => none

/-- What is read of a string: its text, latest character first, and the rest. -/
abbrev StringScan := Option (List Char × List Char)

/-- Reads a basic string; the opening mark has been read. -/
def basicFrom (read : List Char) : List Char → StringScan
  | '"' :: rest => some (read, rest)
  | '\\' :: 'u' :: a :: b :: c :: d :: rest => do
    basicFrom ((← scalar? [a, b, c, d]) :: read) rest
  | '\\' :: 'U' :: a :: b :: c :: d :: e :: f :: g :: h :: rest => do
    basicFrom ((← scalar? [a, b, c, d, e, f, g, h]) :: read) rest
  | '\\' :: char :: rest => do basicFrom ((← shortEscape? char) :: read) rest
  | char :: rest => if isPlain char then basicFrom (char :: read) rest else none
  | [] => none

/-- Reads a literal string; the opening mark has been read. -/
def literalFrom (read : List Char) : List Char → StringScan
  | '\'' :: rest => some (read, rest)
  | char :: rest => if isPlain char then literalFrom (char :: read) rest else none
  | [] => none

/-- How a run of marks in a string over several lines ends it: three marks do, and up to two more
before them belong to the text. -/
def closing? (mark : Char) (chars : List Char) : Option (Nat × List Char) :=
  let marks := (chars.takeWhile (· == mark)).length
  if marks < 3 then none else some (min marks 5 - 3, chars.drop (min marks 5))

/-- Reads a literal string over several lines. -/
def multilineLiteralFrom (read : List Char) : List Char → StringScan
  | [] => none
  | '\r' :: '\n' :: rest => multilineLiteralFrom ('\n' :: read) rest
  | char :: rest =>
    match closing? '\'' (char :: rest) with
    | some (kept, after) => some (List.replicate kept '\'' ++ read, after)
    | none =>
      if isPlain char || char == '\n' then multilineLiteralFrom (char :: read) rest else none

/-- Whether only blanks stand before the next line end. -/
def endsLine (chars : List Char) : Bool := (dropNewline? (chars.dropWhile isBlank)).isSome

/-- Reads a basic string over several lines.  The flag tells whether a line end has been escaped,
so that blanks and line ends are left out. -/
def multilineBasicFrom (escaped : Bool) (read : List Char) : List Char → StringScan
  | [] => none
  | '\r' :: '\n' :: rest => multilineBasicFrom escaped (if escaped then read else '\n' :: read) rest
  | '\\' :: 'u' :: a :: b :: c :: d :: rest => do
    multilineBasicFrom false ((← scalar? [a, b, c, d]) :: read) rest
  | '\\' :: 'U' :: a :: b :: c :: d :: e :: f :: g :: h :: rest => do
    multilineBasicFrom false ((← scalar? [a, b, c, d, e, f, g, h]) :: read) rest
  | '\\' :: char :: rest =>
    if endsLine (char :: rest) then multilineBasicFrom true read (char :: rest)
    else do multilineBasicFrom false ((← shortEscape? char) :: read) rest
  | char :: rest =>
    if escaped && (isBlank char || char == '\n') then multilineBasicFrom true read rest
    else
      match closing? '"' (char :: rest) with
      | some (kept, after) => some (List.replicate kept '"' ++ read, after)
      | none =>
        if char != '\\' && (isPlain char || char == '\n') then
          multilineBasicFrom false (char :: read) rest
        else none

/-- A text without a line end at its start. -/
def trimNewline (chars : List Char) : List Char := (dropNewline? chars).getD chars

/-- Reads a string of any kind. -/
def stringValue : Scanner String := fun chars =>
  let scan : StringScan := match chars with
    | '"' :: '"' :: '"' :: rest => multilineBasicFrom false [] (trimNewline rest)
    | '\'' :: '\'' :: '\'' :: rest => multilineLiteralFrom [] (trimNewline rest)
    | '"' :: rest => basicFrom [] rest
    | '\'' :: rest => literalFrom [] rest
    | _ => none
  scan.map fun (read, rest) => (String.ofList read.reverse, rest)

/-! ## Keys -/

/-- A character of a bare key. -/
def isKeyChar (char : Char) : Bool := char.isAlphanum || char == '-' || char == '_'

/-- Reads a key without dots. -/
def simpleKey : Scanner String := fun chars =>
  match chars with
  | '"' :: rest => (basicFrom [] rest).map fun (read, rest) => (String.ofList read.reverse, rest)
  | '\'' :: rest => (literalFrom [] rest).map fun (read, rest) => (String.ofList read.reverse, rest)
  | _ =>
    match chars.takeWhile isKeyChar with
    | [] => none
    | key => some (String.ofList key, chars.dropWhile isKeyChar)

/-- Deepest nesting of values, and most parts of a dotted key. -/
def nestingLimit : Nat := 80

/-- Reads the parts of a dotted key; at most as many as the number says. -/
def keyParts : Nat → Scanner (List String)
  | 0 => reject
  | limit + 1 => do
    blanks
    let key ← simpleKey
    blanks
    if (← peek) == some '.' then
      expect '.'
      return key :: (← keyParts limit)
    else return [key]

/-- Reads a key and the blanks around it. -/
def key : Scanner (List String) := keyParts (nestingLimit - 1)

end Courier.Toml
