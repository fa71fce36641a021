import Courier.Http.ResponseHead

/-!
# Framing of bodies

Where the body of a message ends: after a stated number of octets, after the last chunk, or where
the connection is closed.
-/

namespace Courier.Http

/-- How the end of a body is found. -/
inductive Framing where
  /-- After a number of octets. -/
  | sized (length : Nat)
  /-- After the last chunk. -/
  | chunked
  /-- Where the peer closes. -/
  | untilClose
deriving DecidableEq, Repr

/-- The blanks around an element of a list. -/
def isElementBlank (char : Char) : Bool := char == ' ' || char == '\t'

/-- A text without the blanks around it. -/
def trimElement (chars : List Char) : List Char :=
  ((chars.dropWhile isElementBlank).reverse.dropWhile isElementBlank).reverse

/-- The elements of a list, which commas separate. -/
def elements (text : String) : List (List Char) :=
  (text.toList.splitOn ',').map trimElement

/-- The least number that is no length. -/
def lengthBound : Nat := UInt64.size

/-- The length that digits state. -/
def length? (digits : List Char) : Option Nat :=
  if digits.isEmpty || !digits.all Char.isDigit then none
  else
    let value := Ascii.ofDigits 10 digits
    if value < lengthBound then some value else none

/-- The one value that all elements of a list have. -/
def agreed? {α : Type} [DecidableEq α] : List α → Option α
  | [] => none
  | first :: rest => if rest.all (· == first) then some first else none

/-- The length that headers state, if all their values state the same one. -/
def contentLength? (headers : Headers) : Option Nat := do
  let texts ← (headers.values "content-length").mapM Bytes.visible?
  let lengths ← (texts.flatMap elements).mapM length?
  agreed? lengths

/-- Whether headers name `chunked` as the last coding of a message. -/
def endsChunked (headers : Headers) : Bool :=
  match (headers.values "transfer-encoding").getLast?.bind Bytes.visible? with
  | none => false
  | some text =>
    match (elements text).getLast? with
    | none => false
    | some coding => coding.map Char.toLower == "chunked".toList

namespace ResponseHead

/-- Whether a response only announces another. -/
def isInterim (head : ResponseHead) : Bool :=
  100 ≤ head.status && head.status < 200 && head.status != 101

/-- Whether the answer to a method has no body, whatever its headers say. -/
def isBodiless (head : ResponseHead) (method : String) : Bool :=
  head.status ∈ [101, 204, 304] || method == "HEAD"
    || (method == "CONNECT" && 200 ≤ head.status && head.status < 300)

/-- How the body of a response to a method is framed, if its headers make sense. -/
def framing? (head : ResponseHead) (method : String) : Option Framing :=
  if head.isBodiless method then some (.sized 0)
  else if head.headers.contains "transfer-encoding" then
    if head.version == .http10 then none
    else if endsChunked head.headers then some .chunked
    else some .untilClose
  else
    match contentLength? head.headers with
    | some length => if length + 2 < lengthBound then some (.sized length) else none
    | none => if head.headers.contains "content-length" then none else some .untilClose

end ResponseHead

end Courier.Http
