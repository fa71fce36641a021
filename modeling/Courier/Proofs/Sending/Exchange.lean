import Courier.Proofs.Http.ResponseReader
import Courier.Proofs.Sending.Record

/-!
# The exchanges of a send

Each exchange asks the pool of its client at most once, and ends with what the pool or the peer
comes to, whatever a send learns in its turns and whatever others do between them.
-/

namespace Courier.Sending

variable {clients : Nat → Client} {owner policy : Nat} {request : Request} {sending : Sending}
  {event : Event} {history : List Event}

theorem isOpen_of_own (own_event : event.isOwn = true) (client : Nat) :
    IsOpen clients (event :: history) client ↔ IsOpen clients history client := by
  have other : .closed client ≠ event := by
    rintro rfl
    cases own_event
  simp [IsOpen, other]

/-! ## The invariant -/

/-- How far an exchange has come, and what the record says about that. -/
inductive Place (sending : Sending) : Prop where
  | apart (acquires_not : sending.stage ≠ .acquiring) (exchanges_not : sending.stage ≠ .exchanging)
  | acquiring (stage : sending.stage = .acquiring) (rest : List Event)
      (own_eq : own sending.history =
        .asked sending.client sending.loop.current.target.endpoint ::
          .began sending.client sending.loop.current :: rest)
  | exchanging (stage : sending.stage = .exchanging) (rest : List Event)
      (own_eq : own sending.history =
        .connected :: .asked sending.client sending.loop.current.target.endpoint ::
          .began sending.client sending.loop.current :: rest)
      (written : Http.Outgoing) (writable : sending.loop.current.outgoing = .ok written)

/-- The record of a send is right about its exchanges and about which clients are open. -/
structure Recorded (clients : Nat → Client) (sending : Sending) : Prop where
  grounded : Grounded (Event.Proceeds clients) sending.history
  open_iff : ∀ client,
    (sending.clients client).closed = false ↔ IsOpen clients sending.history client

structure Engaged (clients : Nat → Client) (sending : Sending) : Prop where
  recorded : sending.Recorded clients
  place : sending.Place

theorem engaged_start (clients : Nat → Client) (owner policy : Nat) (request : Request) :
    (start clients owner policy request).Engaged clients where
  recorded := ⟨trivial, by simp [start, IsOpen]⟩
  place := .apart nofun nofun

theorem Recorded.note (recorded : sending.Recorded clients) (event : Event)
    (proceeds : event.Proceeds clients sending.history) (own_event : event.isOwn = true) :
    (sending.note event).Recorded clients where
  grounded := ⟨proceeds, recorded.grounded⟩
  open_iff := fun client =>
    (recorded.open_iff client).trans (isOpen_of_own own_event client).symm

/-! ## Turns -/

/-- The exchange of the current request ends. -/
theorem Recorded.settle (recorded : sending.Recorded clients) {result : Except ClientError Response}
    (proceeds :
      (Event.exchanged sending.loop.current result).Proceeds clients sending.history) :
    (sending.settle result).Engaged clients := by
  have noted := recorded.note _ proceeds rfl
  rw [Sending.settle]
  split
  · exact ⟨⟨noted.grounded, noted.open_iff⟩, .apart nofun nofun⟩
  · exact ⟨⟨noted.grounded, noted.open_iff⟩, .apart nofun nofun⟩

theorem Recorded.begin (recorded : sending.Recorded clients) : sending.begin.Engaged clients := by
  have noted := recorded.note (.began sending.client sending.loop.current) trivial rfl
  have open_iff := noted.open_iff sending.client
  rw [Sending.begin]
  cases closed : (sending.clients sending.client).closed with
  | true =>
      rw [if_pos rfl]
      refine noted.settle (.inl ⟨sending.client, _, rfl, fun is_open => ?_, rfl⟩)
      exact Bool.noConfusion (closed.symm.trans (open_iff.mpr is_open))
  | false =>
      rw [if_neg (by simp)]
      have asked := noted.note (.asked sending.client _)
        ⟨_, _, rfl, rfl, open_iff.mp closed⟩ rfl
      exact ⟨⟨asked.grounded, asked.open_iff⟩, .acquiring rfl _ rfl⟩

theorem Recorded.receive (recorded : sending.Recorded clients) {rest : List Event}
    (own_eq : own sending.history =
      .asked sending.client sending.loop.current.target.endpoint ::
        .began sending.client sending.loop.current :: rest) (answer : Answer Unit) :
    (sending.receive answer).Engaged clients := by
  cases answer with
  | error error => exact recorded.settle (.inr (.inl ⟨_, _, error, own_eq, rfl⟩))
  | ok connection =>
      have connected := recorded.note .connected ⟨_, _, _, own_eq⟩ rfl
      have own_connected : own (.connected :: sending.history) =
          .connected :: .asked sending.client sending.loop.current.target.endpoint ::
            .began sending.client sending.loop.current :: rest :=
        congrArg (Event.connected :: ·) own_eq
      rw [Sending.receive, Request.afterAnswer]
      cases outgoing : sending.loop.current.outgoing with
      | error cause =>
          exact connected.settle (.inr (.inr ⟨_, _, own_connected, .refused outgoing⟩))
      | ok written =>
          exact ⟨⟨connected.grounded, connected.open_iff⟩,
            .exchanging rfl rest own_connected written outgoing⟩

/-- What a peer says does not make an exchange fail for its arguments. -/
theorem Speech.outcome_possible (speech : Speech) (terms : Http.ReadingTerms) :
    Http.ReadingResult (speech.outcome terms) := by
  have proper : (speech.parts.foldl (Http.ResponseReading.feed terms) (.head [])).Proper :=
    (Http.ResponseReading.proper_head []).feedAll speech.parts
  rw [Speech.outcome]
  split
  · rename_i result reading
    exact proper result reading
  · exact .exchange .broken
  · exact .body .unreadable
  · exact .exchange .incompleteHead
  · split
    · rename_i result closed
      exact (Http.ResponseReading.proper_body _).close result closed
    · exact .body .unreadable

theorem Recorded.hear (recorded : sending.Recorded clients) {rest : List Event}
    (own_eq : own sending.history =
      .connected :: .asked sending.client sending.loop.current.target.endpoint ::
        .began sending.client sending.loop.current :: rest)
    {written : Http.Outgoing} (writable : sending.loop.current.outgoing = .ok written)
    (speech : Speech) : (sending.hear speech).Engaged clients := by
  have possible := speech.outcome_possible
    ((sending.clients sending.client).readingTerms sending.loop.current)
  refine recorded.settle (.inr (.inr ⟨_, _, own_eq, ?_⟩))
  generalize speech.outcome _ = outcome at possible ⊢
  cases possible with
  | reply reply => exact .answered writable reply
  | exchange failure => exact .failed writable failure
  | body failure => exact .unread writable failure

theorem Recorded.obey (recorded : sending.Recorded clients) (decider : Nat) (response : Response)
    (decision : Decision) (client : Nat) :
    (sending.obey decider response decision client).Engaged clients := by
  have noted := recorded.note (.decided decider decision client) trivial rfl
  rw [Sending.obey]
  split
  · exact ⟨⟨noted.grounded, noted.open_iff⟩, .apart nofun nofun⟩
  · exact ⟨⟨noted.grounded, noted.open_iff⟩, .apart nofun nofun⟩

theorem Engaged.turn (engaged : sending.Engaged clients) (outside : Outside) :
    (sending.turn outside).Engaged clients := by
  have recorded := engaged.recorded
  rw [Sending.turn]
  cases engaged.place with
  | acquiring stage rest own_eq =>
      rw [stage]
      exact recorded.receive own_eq outside.answer
  | exchanging stage rest own_eq written writable =>
      rw [stage]
      exact recorded.hear own_eq writable outside.speech
  | apart acquires_not exchanges_not =>
      cases stage : sending.stage with
      | acquiring => exact absurd stage acquires_not
      | exchanging => exact absurd stage exchanges_not
      | ready => exact recorded.begin
      | deciding decider response => exact recorded.obey decider response _ _
      | finished result => exact engaged

/-! ## What others do -/

/-- What others do between its turns leaves an exchange where it is. -/
theorem Place.surround (place : sending.Place) (other : event.isOwn = false)
    (clients' : Nat → Client) (policy' : Nat) :
    { sending.note event with clients := clients', policy := policy' }.Place := by
  have same : own (event :: sending.history) = own sending.history :=
    List.filter_cons_of_neg (by simp [other])
  cases place with
  | apart acquires_not exchanges_not => exact .apart acquires_not exchanges_not
  | acquiring stage rest own_eq => exact .acquiring stage rest (same.trans own_eq)
  | exchanging stage rest own_eq written writable =>
      exact .exchanging stage rest (same.trans own_eq) written writable

theorem Engaged.install (engaged : sending.Engaged clients) (installed : Nat) :
    (sending.step (.install installed)).Engaged clients where
  recorded :=
    { grounded := ⟨trivial, engaged.recorded.grounded⟩
      open_iff := by simpa [Sending.step, Sending.note, IsOpen] using engaged.recorded.open_iff }
  place := engaged.place.surround rfl sending.clients installed

theorem Engaged.close (engaged : sending.Engaged clients) (closed : Nat) :
    (sending.close closed).Engaged clients where
  recorded :=
    { grounded := ⟨trivial, engaged.recorded.grounded⟩
      open_iff := by
        intro client
        have open_iff := engaged.recorded.open_iff client
        by_cases same : client = closed
        · simp [Sending.close, Sending.note, IsOpen, same]
        · simp only [IsOpen] at open_iff
          simp [Sending.close, Sending.note, IsOpen, same, open_iff] }
  place := engaged.place.surround rfl _ sending.policy

theorem Engaged.step (engaged : sending.Engaged clients) (action : Action) :
    (sending.step action).Engaged clients := by
  cases action with
  | install policy => exact engaged.install policy
  | close client => exact engaged.close client
  | turn outside => exact engaged.turn outside

theorem Engaged.run (engaged : sending.Engaged clients) (actions : List Action) :
    (sending.run actions).Engaged clients := by
  induction actions generalizing sending with
  | nil => exact engaged
  | cons action rest induction => exact induction (engaged.step action)

/-! ## What the record shows -/

/-- Each exchange asks a pool at most once; one that has just begun has yet to ask. -/
theorem asked_le_begun (grounded : Grounded (Event.Proceeds clients) history) :
    (asked history).length ≤ (begun history).length ∧
      ∀ client current rest, own history = .began client current :: rest →
        (asked history).length < (begun history).length := by
  induction history with
  | nil => exact ⟨Nat.le_refl _, nofun⟩
  | cons event earlier induction =>
      obtain ⟨at_most, yet_to_ask⟩ := induction grounded.2
      cases event with
      | installed policy => exact ⟨at_most, yet_to_ask⟩
      | closed client => exact ⟨at_most, yet_to_ask⟩
      | began client current =>
          have one_more : (asked earlier).length < (begun earlier).length + 1 :=
            Nat.lt_succ_of_le at_most
          exact ⟨Nat.le_of_lt one_more, fun _ _ _ _ => one_more⟩
      | asked client endpoint =>
          obtain ⟨current, rest, own_eq, _⟩ := grounded.1
          exact ⟨yet_to_ask client current rest own_eq, nofun⟩
      | connected => exact ⟨at_most, nofun⟩
      | exchanged current result => exact ⟨at_most, nofun⟩
      | decided decider decision client => exact ⟨at_most, nofun⟩

end Courier.Sending
