import Courier.Idna.Repertoire
import Courier.Idna.Replacement

/-!
# Mapping

What becomes of a character that is typed in a domain name: it is kept, passed over, replaced or
refused.
-/

namespace Courier.Idna

/-- What becomes of a character. -/
inductive Treatment where
  /-- It stays. -/
  | kept
  /-- It is passed over. -/
  | dropped
  /-- Other characters take its place. -/
  | replaced (text : List Char)
  /-- The domain name is refused. -/
  | refused
deriving DecidableEq, Repr

/-- The treatment of a character. -/
def treatment (char : Char) : Treatment :=
  if char.toNat < 128 then
    if char.isUpper then .replaced [char.toLower] else .kept
  else if !typeable.covers char then .refused
  else if passedOver.covers char then .dropped
  else
    match replacement? char with
    | some text => .replaced text
    | none => .kept

/-- The characters that stand for a typed text, unless one of them is refused. -/
def mapped? : List Char → Option (List Char)
  | [] => some []
  | char :: rest =>
    match treatment char with
    | .kept => (mapped? rest).map (char :: ·)
    | .dropped => mapped? rest
    | .replaced text => (mapped? rest).map (text ++ ·)
    | .refused => none

end Courier.Idna
