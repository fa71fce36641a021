import Courier.Http.Scan
import Courier.Http.Version

/-!
# Heads of responses

Reading the status line and the headers of a response.
-/

namespace Courier.Http

structure ResponseHead where
  version : Version
  status : Nat
  headers : Headers
deriving DecidableEq, Repr

namespace ResponseHead

open Scan

/-- Reads a version and the blank after it. -/
def scanVersion (bytes : Bytes) : Scan Version :=
  (expectAll (Bytes.ofString "HTTP/1.") bytes).andThen fun _ rest =>
    match rest with
    | [] => .more
    | digit :: rest =>
      if digit == 49 then (expect 32 rest).andThen fun _ rest => .done .http11 rest
      else if digit == 48 then (expect 32 rest).andThen fun _ rest => .done .http10 rest
      else .bad .malformed

/-- Reads what may follow a status code: nothing, or a blank and a reason. -/
def scanReason : Bytes → Scan Unit
  | [] => .more
  | byte :: rest =>
    if byte == 32 then (line isValueByte [] rest).andThen fun _ rest => .done () rest
    else if byte == lf then .done () rest
    else if byte == cr then expect lf rest
    else .bad .malformed

/-- Reads a head with at most a number of headers. -/
def parse (limit : Nat) (bytes : Bytes) : Scan ResponseHead :=
  (skipEmptyLines bytes).andThen fun _ rest =>
    (scanVersion rest).andThen fun version rest =>
      (digits 3 0 rest).andThen fun status rest =>
        (scanReason rest).andThen fun _ rest =>
          (Scan.headers limit rest).andThen fun headers rest =>
            .done ⟨version, status, headers⟩ rest

end ResponseHead

end Courier.Http
