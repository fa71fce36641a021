import Courier.Proofs.Opening.Course
import Courier.Proofs.Sending.Exchange
import Courier.Proofs.WebSocket.Handshake

/-!
# Refused arguments

The arguments of a request and of a WebSocket are looked at twice: when they are given, before
anybody is asked for a connection, and when they are to be written over the connection that has
come.
-/

namespace Courier

/-! ## Requests -/

namespace Sending

variable {clients : Nat → Client} {earlier : List Event} {current : Request}
  {result : Except ClientError Response}

/-- An exchange is refused for its arguments exactly if a connection has come for a request that
cannot be written. -/
theorem refused_iff
    (proceeds : (Event.exchanged current result).Proceeds clients earlier) :
    (∃ cause, result = .error (.invalidArgument cause)) ↔
      (∃ cause, current.outgoing = .error cause) ∧
        ∃ client rest, own earlier =
          .connected :: .asked client current.target.endpoint :: .began client current :: rest := by
  rcases proceeds with ⟨client, rest, own_eq, closed, rfl⟩ | ⟨client, rest, error, own_eq, rfl⟩ |
    ⟨client, rest, own_eq, ends⟩
  · refine ⟨nofun, ?_⟩
    rintro ⟨_, other, _, own_other⟩
    cases own_eq.symm.trans own_other
  · refine ⟨nofun, ?_⟩
    rintro ⟨_, other, _, own_other⟩
    cases own_eq.symm.trans own_other
  · cases ends with
    | refused unwritable =>
        exact ⟨fun _ => ⟨⟨_, unwritable⟩, client, rest, own_eq⟩, fun _ => ⟨_, rfl⟩⟩
    | failed writable failure =>
        exact ⟨nofun, fun ⟨⟨_, unwritable⟩, _⟩ => nomatch writable.symm.trans unwritable⟩
    | unread writable failure =>
        exact ⟨nofun, fun ⟨⟨_, unwritable⟩, _⟩ => nomatch writable.symm.trans unwritable⟩
    | answered writable reply =>
        exact ⟨nofun, fun ⟨⟨_, unwritable⟩, _⟩ => nomatch writable.symm.trans unwritable⟩

end Sending

/-! ## WebSockets -/

namespace WebSocket.Opening

variable {η : Type} {client : Client} {options : Options} {opening : Opening η}
  {earlier : List (Event η)} {error : ClientError}

/-- An upgrade is refused for its arguments exactly if a valid connection has come and the
sub-protocols cannot be written over it. -/
theorem refused_iff (fails : Fails client options earlier error) :
    (∃ cause, error = .invalidArgument cause) ↔
      (options.Addressed (options.destination client.config) ∧ options.Unspeakable) ∧
        ∃ connection rest, own earlier = .released connection :: .shook connection :: rest := by
  cases fails with
  | unanswered last error =>
      refine ⟨nofun, ?_⟩
      rintro ⟨_, connection, rest, own_eq⟩
      cases last.symm.trans own_eq
  | closed last invalid closed =>
      refine ⟨nofun, ?_⟩
      rintro ⟨_, connection, rest, own_eq⟩
      cases last.symm.trans own_eq
  | invalidated last invalid =>
      refine ⟨nofun, ?_⟩
      rintro ⟨_, connection, rest, own_eq⟩
      cases last.symm.trans own_eq
  | unsayable last refused =>
      constructor
      · rintro ⟨cause, rfl⟩
        exact ⟨((Options.handshake_refused_iff _ cause).mp refused).2, _, _, last⟩
      · rintro ⟨⟨addressed, unspeakable⟩, _⟩
        rw [Options.handshake_of_unspeakable addressed unspeakable] at refused
        cases refused
        exact ⟨_, rfl⟩
  | refused last said error =>
      refine ⟨nofun, ?_⟩
      rintro ⟨⟨addressed, unspeakable⟩, _⟩
      obtain ⟨key, handshake, said⟩ := said
      rw [Options.handshake_of_unspeakable addressed unspeakable] at said
      cases said

/-- An upgrade that has failed has asked the pool. -/
theorem Sound.asked_of_failed (sound : opening.Sound client options)
    (failed_mem : .failed error ∈ opening.history) : asked opening.history ≠ [] := by
  cases sound.stands with
  | idle upgrade_eq own_eq =>
      have own_mem : .failed error ∈ own opening.history := List.mem_filter.mpr ⟨failed_mem, rfl⟩
      rw [own_eq] at own_mem
      cases own_mem
  | engaged upgrade upgrade_eq subscribed destination_eq place =>
      intro nothing
      have asked_eq := place.accounted.kept.asked_eq
      rw [nothing] at asked_eq
      cases asked_eq

/-- A success handler that is refused leaves no trace. -/
theorem subscribe_refused (opening : Opening η) (handler : η) (accepted : Bool)
    (refused : (opening.subscribe handler accepted).2 = .error error) :
    (opening.subscribe handler accepted).1.history = opening.history := by
  rw [subscribe] at refused ⊢
  obtain ⟨_, same⟩ | ⟨_, ⟨cause, failed⟩ | ⟨_, started⟩⟩ :=
    subscribe_cases opening.stream opening.client
  · rw [same]
  · rw [failed]
  · rw [started] at refused
    cases refused

end WebSocket.Opening

/-! ## Whole runs -/

/-- When arguments are refused in a run, whatever else happens in it.  An exchange and an upgrade
are refused for their arguments only over a connection that has come from the pool, and they are
refused then exactly if the request or the sub-protocols cannot be written; a success handler that
is refused has asked nobody. -/
theorem refused_over_connection {η : Type} (clients : Nat → Client) (owner policy : Nat)
    (request : Request) (sends : List Sending.Action) (client : Client)
    (options : WebSocket.Options) (actions : List (WebSocket.Opening.Action η)) :
    let sending := (Sending.start clients owner policy request).run sends
    let opening := (WebSocket.Opening.start client options : WebSocket.Opening η).run actions
    (∀ later current result earlier,
      sending.history = later ++ .exchanged current result :: earlier →
        ((∃ cause, result = .error (.invalidArgument cause)) ↔
          (∃ cause, current.outgoing = .error cause) ∧
            ∃ client rest, Sending.own earlier =
              .connected :: .asked client current.target.endpoint ::
                .began client current :: rest)) ∧
      (∀ later error earlier, opening.history = later ++ .failed error :: earlier →
        WebSocket.Opening.asked opening.history ≠ [] ∧
          ((∃ cause, error = .invalidArgument cause) ↔
            (options.Addressed (options.destination client.config) ∧ options.Unspeakable) ∧
              ∃ connection rest, WebSocket.Opening.own earlier =
                .released connection :: .shook connection :: rest)) ∧
      ∀ handler accepted error, (opening.subscribe handler accepted).2 = .error error →
        (opening.subscribe handler accepted).1.history = opening.history := by
  intro sending opening
  have engaged : sending.Engaged clients :=
    (Sending.engaged_start clients owner policy request).run sends
  have sound : opening.Sound client options :=
    (WebSocket.Opening.sound_start client options).run actions
  refine ⟨?_, ?_, fun handler accepted error => opening.subscribe_refused handler accepted⟩
  · intro later current result earlier history_eq
    have grounded := engaged.recorded.grounded
    rw [history_eq] at grounded
    exact Sending.refused_iff grounded.of_append
  · intro later error earlier history_eq
    have grounded := sound.recorded.grounded
    rw [history_eq] at grounded
    have failed_mem : .failed error ∈ opening.history :=
      history_eq ▸ List.mem_append_right _ List.mem_cons_self
    exact ⟨sound.asked_of_failed failed_mem, WebSocket.Opening.refused_iff grounded.of_append⟩

/-- A request whose target cannot be written is refused only after a connection has come. -/
theorem unwritable_target_takes_connection :
    ¬∀ (client : Client) (method host : String) (port : UInt16) (secure : Option Bool)
      (uri : String) (headers : Option Http.Headers) (request : Request)
      (actions : List Sending.Action),
      client.dispatch method host port secure uri headers = .ok request →
        ∀ later current cause earlier,
          ((Sending.start (fun _ => client) 0 0 request).run actions).history =
              later ++ .exchanged current (.error (.invalidArgument cause)) :: earlier →
            ∃ client rest, Sending.own earlier = .began client current :: rest := by
  intro first
  have refused := first { config := {} } "GET" "h" 80 none "/a b" none
    { method := "GET", target := ⟨"h", 80, false, "/a b", "h", 80, "h"⟩ }
    (List.replicate 2 (.turn ⟨.ok (), ⟨[], false⟩, .stay, 0⟩)) rfl [] _
    (.badTarget "/a b" .badCharacter) _ rfl
  obtain ⟨client, rest, own_eq⟩ := refused
  cases own_eq

end Courier
