import Courier.Response

/-!
# Summaries

What a command prints when it is done: an object, one field a line, in the order of the names.
-/

namespace Courier.CommandLine

/-- A printed value. -/
inductive Summary where
  | number (value : Nat)
  | text (value : String)
  /-- Named values. -/
  | object (fields : List (String × Summary))

/-- A character within quotation marks. -/
def escapedChar (char : Char) : List Char :=
  match char with
  | '"' => ['\\', '"']
  | '\\' => ['\\', '\\']
  | '\n' => ['\\', 'n']
  | '\r' => ['\\', 'r']
  | '\t' => ['\\', 't']
  | '\x08' => ['\\', 'b']
  | '\x0c' => ['\\', 'f']
  | other =>
    if other.toNat < 32 then
      ['\\', 'u', '0', '0', Ascii.hexDigit (other.toNat / 16), Ascii.hexDigit (other.toNat % 16)]
    else [other]

/-- A text between quotation marks. -/
def escapedText (text : String) : String :=
  "\"" ++ String.ofList (text.toList.flatMap escapedChar) ++ "\""

/-- The blanks in front of a line at a depth. -/
def indent (depth : Nat) : String := String.ofList (List.replicate (2 * depth) ' ')

mutual

/-- A value at a depth. -/
def Summary.print (depth : Nat) : Summary → String
  | .number value => toString value
  | .text value => escapedText value
  | .object fields =>
    if fields.isEmpty then "\x7b\x7d"
    else
      "\x7b\n" ++ ",\n".intercalate (Summary.printFields (depth + 1) fields) ++ "\n"
        ++ indent depth ++ "\x7d"

/-- The lines of fields at a depth. -/
def Summary.printFields (depth : Nat) : List (String × Summary) → List String
  | [] => []
  | (name, value) :: rest =>
    (indent depth ++ escapedText name ++ ": " ++ Summary.print depth value)
      :: Summary.printFields depth rest

end

/-- An object; of two fields with one name the later one counts. -/
def Summary.ofFields (fields : List (String × Summary)) : Summary :=
  .object ((lastOfEach fields).mergeSort fun left right => !decide (right.1 < left.1))
where
  /-- Drops fields that a later one replaces. -/
  lastOfEach : List (String × Summary) → List (String × Summary)
    | [] => []
    | field :: rest =>
      if rest.any (·.1 == field.1) then lastOfEach rest else field :: lastOfEach rest

def Summary.ofResponse (requestId : String) (response : Response) : Summary :=
  .ofFields [
    ("request_id", .text requestId),
    ("method", .text response.method),
    ("uri", .text response.absoluteUri),
    ("status", .number response.status),
    ("version", .text response.version.wireName),
    ("headers", .ofFields (response.headers.entries.map fun (name, value) =>
      (name, .text (value.visible?.getD "<binary>")))),
    ("body_bytes", .number response.body.length),
    ("body", .text response.text)]

/-- The summary of a reply over a WebSocket. -/
def Summary.ofReply (url reply : String) : Summary :=
  .ofFields [("url", .text url), ("reply", .text reply)]

end Courier.CommandLine
