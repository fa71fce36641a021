import Courier.WebSocket.Handshake

/-!
# Handshakes that cannot be made

A handshake is refused for its arguments only when its sub-protocols cannot stand in a header; all
else that keeps it from being made is a fault of the protocol.
-/

namespace Courier.WebSocket

open Http (Headers RequestTarget)

/-- An attempt that fails only for reasons of the protocol. -/
def Protocolar {α : Type} (attempt : Except ClientError α) : Prop :=
  ∀ error, attempt = .error error → ∃ cause, error = .webSocket cause

variable {α β : Type}

theorem mapError_ok {ε δ : Type} (value : α) (change : ε → δ) :
    (Except.ok value).mapError change = .ok value := rfl

theorem protocolar_ok (value : α) : Protocolar (.ok value) := nofun

theorem protocolar_webSocket (cause : WebSocketError) :
    Protocolar (.error (.webSocket cause) : Except ClientError α) := by
  rintro error ⟨⟩
  exact ⟨cause, rfl⟩

theorem Protocolar.bind {attempt : Except ClientError α} {next : α → Except ClientError β}
    (first : Protocolar attempt) (then_next : ∀ value, Protocolar (next value)) :
    Protocolar (attempt >>= next) := by
  cases attempt with
  | ok value => exact then_next value
  | error error =>
      intro found fails
      cases fails
      exact first error rfl

theorem protocolar_mapM {attempt : α → Except ClientError β}
    (each : ∀ value, Protocolar (attempt value)) (values : List α) :
    Protocolar (values.mapM attempt) := by
  induction values with
  | nil => exact protocolar_ok []
  | cons value values induction =>
      rw [List.mapM_cons]
      exact (each value).bind fun _ => induction.bind fun _ => protocolar_ok _

theorem headerText_protocolar (value : Bytes) : Protocolar (headerText value) := by
  rw [headerText]
  split
  · exact protocolar_ok _
  · exact protocolar_webSocket _

theorem offeredIn_protocolar (headers : Headers) : Protocolar (offeredIn headers) := by
  rw [offeredIn]
  split
  · exact protocolar_ok _
  · exact (headerText_protocolar _).bind fun _ => protocolar_ok _

theorem handshakeLines_protocolar (headers : Headers) : Protocolar (handshakeLines headers) := by
  rw [handshakeLines]
  refine (protocolar_mapM ?_ _).bind fun _ => (protocolar_mapM ?_ _).bind fun _ => protocolar_ok _
  · rintro ⟨name, written⟩
    dsimp only
    split
    · exact (headerText_protocolar _).bind fun _ => protocolar_ok _
    · exact protocolar_webSocket _
  · rintro ⟨name, value⟩
    exact (headerText_protocolar value).bind fun _ => protocolar_ok _

namespace Options

/-- The URL of a destination has a host that a handshake can name. -/
def Addressed (options : Options) (destination : Destination) : Prop :=
  ∃ target, RequestTarget.parse (destination.url options.uri) = .ok target ∧
    target.authority.isEmpty = false ∧ (hostOfAuthority target.authority).isEmpty = false

/-- Sub-protocols are to be offered that cannot stand in a header. -/
def Unspeakable (options : Options) : Prop :=
  options.subProtocols.isEmpty = false ∧
    Http.isHeaderText (Bytes.ofString (String.intercalate "," options.subProtocols)) = false

variable {options : Options} {destination : Destination}

theorem handshakeHeaders_of_unspeakable (unspeakable : options.Unspeakable) (host key : String) :
    handshakeHeaders options host key = .error (.invalidArgument .badSubProtocols) := by
  obtain ⟨some_offered, no_text⟩ := unspeakable
  simp [handshakeHeaders, some_offered, no_text, bind, Except.bind]

theorem handshakeHeaders_protocolar (speakable : ¬options.Unspeakable) (host key : String) :
    Protocolar (handshakeHeaders options host key) := by
  rw [handshakeHeaders]
  split
  · exact protocolar_ok _
  · rename_i some_offered
    split
    · exact protocolar_ok _
    · rename_i no_text
      exact absurd ⟨Bool.eq_false_iff.mpr some_offered, Bool.eq_false_iff.mpr no_text⟩ speakable

theorem handshake_of_unspeakable (addressed : options.Addressed destination)
    (unspeakable : options.Unspeakable) (key : String) :
    options.handshake destination key = .error (.invalidArgument .badSubProtocols) := by
  obtain ⟨target, parsed, authority, host⟩ := addressed
  simp [handshake, parsed, mapError_ok, bind, Except.bind, authority, host,
    handshakeHeaders_of_unspeakable unspeakable]

theorem handshake_protocolar
    (possible : ¬(options.Addressed destination ∧ options.Unspeakable)) (key : String) :
    Protocolar (options.handshake destination key) := by
  rw [handshake]
  cases parsed : RequestTarget.parse (destination.url options.uri) with
  | error cause => exact protocolar_webSocket _
  | ok target =>
      simp only [mapError_ok, bind, Except.bind]
      split
      · exact protocolar_webSocket _
      · rename_i authority
        split
        · exact protocolar_webSocket _
        · rename_i host
          have addressed : options.Addressed destination :=
            ⟨target, parsed, Bool.eq_false_iff.mpr authority, Bool.eq_false_iff.mpr host⟩
          have speakable : ¬options.Unspeakable := fun spoken => possible ⟨addressed, spoken⟩
          exact (handshakeHeaders_protocolar speakable _ key).bind fun headers =>
            (offeredIn_protocolar headers).bind fun _ =>
              (handshakeLines_protocolar headers).bind fun _ => protocolar_ok _

/-- A handshake is refused for its arguments exactly if it could be made but for its
sub-protocols. -/
theorem handshake_refused_iff (key : String) (cause : BadArgument) :
    options.handshake destination key = .error (.invalidArgument cause) ↔
      cause = .badSubProtocols ∧ options.Addressed destination ∧ options.Unspeakable := by
  constructor
  · intro refused
    by_cases impossible : options.Addressed destination ∧ options.Unspeakable
    · rw [handshake_of_unspeakable impossible.1 impossible.2] at refused
      cases refused
      exact ⟨rfl, impossible⟩
    · obtain ⟨fault, cause_eq⟩ := handshake_protocolar impossible key _ refused
      cases cause_eq
  · rintro ⟨rfl, addressed, unspeakable⟩
    exact handshake_of_unspeakable addressed unspeakable key

end Options

end Courier.WebSocket
