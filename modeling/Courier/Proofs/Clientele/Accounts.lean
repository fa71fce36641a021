import Courier.Proofs.Clientele.Changes

/-!
# References to clients, and what has happened to them

A client is gone as soon as nothing refers to it.  It has shut its pool down once if it was closed
or is gone, and not at all otherwise; a close of it has succeeded once if it was closed.
-/

namespace Courier.Clientele

variable {clientele after : Clientele} {member : Member} {holder : Holder} {home : Home}
  {item : Item} {client id : Nat} {life : ClientLife} {loose : List Nat}

/-! ## What refers to clients -/

/-- A client is gone if nothing refers to it, but for some that are about to be let go. -/
structure Referred (clientele : Clientele) (loose : List Nat) : Prop where
  unreferenced : ∀ member ∈ clientele.members, member.gone = true →
    clientele.isReferenced member.id = false
  referenced : ∀ member ∈ clientele.members, member.gone = false →
    clientele.isReferenced member.id = true ∨ member.id ∈ loose

theorem isReferenced_congr (holders : after.holders = clientele.holders) (client : Nat) :
    after.isReferenced client = clientele.isReferenced client := by
  rw [isReferenced, isReferenced, holders]

theorem Referred.of_members (referred : clientele.Referred loose)
    (holders : after.holders = clientele.holders)
    (members : ∀ later ∈ after.members, ∃ member ∈ clientele.members,
      member.id = later.id ∧ member.gone = later.gone) : after.Referred loose := by
  refine ⟨fun later later_mem gone => ?_, fun later later_mem present => ?_⟩
  all_goals
    obtain ⟨member, mem, same_id, same_gone⟩ := members later later_mem
    rw [isReferenced_congr holders, ← same_id]
  · exact referred.unreferenced member mem (same_gone.trans gone)
  · exact referred.referenced member mem (same_gone.trans present)

theorem Referred.of_same_members (referred : clientele.Referred loose)
    (holders : after.holders = clientele.holders) (members : after.members = clientele.members) :
    after.Referred loose :=
  referred.of_members holders fun later mem => ⟨later, members ▸ mem, rfl, rfl⟩

/-- A client that stays while another one is let go. -/
theorem Referred.stay (referred : clientele.Referred (client :: loose))
    (stays : ∀ member ∈ clientele.members, member.id = client →
      member.gone = true ∨ clientele.isReferenced client = true) : clientele.Referred loose := by
  refine ⟨referred.unreferenced, fun member mem present => ?_⟩
  rcases referred.referenced member mem present with referenced | listed
  · exact Or.inl referenced
  · rcases List.mem_cons.mp listed with same | listed
    · rcases stays member mem same with gone | referenced
      · rw [present] at gone
        cases gone
      · exact Or.inl (same ▸ referenced)
    · exact Or.inr listed

theorem Referred.depart (referred : clientele.Referred (member.id :: loose))
    (identified : clientele.Identified) (departs : clientele.Departs member)
    (holders : after.holders = clientele.holders)
    (members : after.members = (clientele.updateMember member.id member.afterDeparture).members) :
    after.Referred loose := by
  refine ⟨fun later later_mem gone => ?_, fun later later_mem present => ?_⟩
  all_goals
    rw [members, mem_updateMember identified departs.mem] at later_mem
    rw [isReferenced_congr holders]
    rcases later_mem with rfl | ⟨mem, different⟩
  · exact departs.unreferenced
  · exact referred.unreferenced later mem gone
  · cases present
  · rcases referred.referenced later mem present with referenced | listed
    · exact Or.inl referenced
    · exact Or.inr (List.mem_of_ne_of_mem different listed)

/-- A holder is dropped or refers to something else; what it alone has referred to is loose. -/
theorem Referred.rehold (referred : clientele.Referred [])
    (members : after.members = clientele.members)
    (fewer : ∀ client, after.isReferenced client = true → clientele.isReferenced client = true)
    (lost : ∀ client, clientele.isReferenced client = true →
      after.isReferenced client = true ∨ client ∈ loose) : after.Referred loose := by
  refine ⟨fun member mem gone => ?_, fun member mem present => ?_⟩
  all_goals rw [members] at mem
  · have unreferenced := referred.unreferenced member mem gone
    cases referenced : after.isReferenced member.id with
    | false => rfl
    | true => rw [fewer member.id referenced] at unreferenced; cases unreferenced
  · rcases referred.referenced member mem present with referenced | listed
    · exact lost member.id referenced
    · cases listed

theorem Referred.hold (referred : clientele.Referred [])
    (referenced : clientele.isReferenced client = true) (clients : item.clients = []) :
    (clientele.hold client item).Referred [] := by
  have kept : ∀ other, (clientele.hold client item).isReferenced other = true ↔
      clientele.isReferenced other = true := by
    intro other
    simp only [isReferenced, Clientele.hold, List.any_append, List.any_cons, List.any_nil,
      Holder.kept, clients, Bool.or_false, Bool.or_eq_true, List.contains_cons]
    constructor
    · rintro (before | here)
      · exact before
      · rw [show other = client by simpa using here]
        exact referenced
    · exact Or.inl
  exact referred.rehold rfl (fun other => (kept other).mp) fun other before =>
    Or.inl ((kept other).mpr before)

theorem Referred.enter (referred : clientele.Referred []) (identified : clientele.Identified)
    (client : Client) (context : Option Nat) : (clientele.enter client context).Referred [] := by
  have kept : ∀ other, (clientele.enter client context).isReferenced other = true ↔
      clientele.isReferenced other = true ∨ other = clientele.next := by
    intro other
    simp [isReferenced, Clientele.enter, Holder.kept, Item.clients]
  have entered : ∀ later ∈ (clientele.enter client context).members,
      later ∈ clientele.members ∨ later.gone = false ∧ later.id = clientele.next := by
    intro later mem
    rcases List.mem_append.mp mem with before | here
    · exact Or.inl before
    · rw [List.mem_singleton.mp here]
      exact Or.inr ⟨rfl, rfl⟩
  refine ⟨fun later later_mem gone => ?_, fun later later_mem present => Or.inl ?_⟩
  · rcases entered later later_mem with mem | ⟨present, _⟩
    · have unreferenced := referred.unreferenced later mem gone
      have old := identified.members.old later.id (List.mem_map_of_mem mem)
      rw [← Bool.not_eq_true, kept, unreferenced]
      rintro (referenced | new)
      · cases referenced
      · omega
    · rw [gone] at present
      cases present
  · rw [kept]
    rcases entered later later_mem with mem | ⟨_, new⟩
    · exact Or.inl ((referred.referenced later mem present).resolve_right (by simp))
    · exact Or.inr new

/-! ## What has happened -/

namespace Event

variable {event : Event}

theorem client?_of_shutdown (shutdown : event.isShutdownOf id = true) :
    event.client? = some id := by
  cases event with
  | shutDown client => exact congrArg some (beq_iff_eq.mp shutdown)
  | closed client result => cases shutdown
  | asked client => cases shutdown
  | returned context => cases shutdown

theorem client?_of_success (success : event.isSuccessOf id = true) : event.client? = some id := by
  cases event with
  | closed client result =>
      cases result with
      | ok value => exact congrArg some (beq_iff_eq.mp success)
      | error error => cases success
  | shutDown client => cases success
  | asked client => cases success
  | returned context => cases success

/-- Events about others are not counted. -/
theorem countP_of_others {events : List Event} {counts : Event → Bool}
    (others : ∀ event ∈ events, event.client? ≠ some id)
    (about : ∀ event : Event, counts event = true → event.client? = some id) :
    events.countP counts = 0 :=
  List.countP_eq_zero.mpr fun event mem counted => others event mem (about event counted)

end Event

/-- What the history says of clients. -/
structure Accounted (clientele : Clientele) : Prop where
  shutdowns : ∀ member ∈ clientele.members, clientele.shutdowns member.id = member.parted.toNat
  successes : ∀ member ∈ clientele.members,
    clientele.successes member.id = member.client.closed.toNat
  known : ∀ event ∈ clientele.history, ∀ client, event.client? = some client →
    client < clientele.next
  answered : ∀ client result, .closed client result ∈ clientele.history →
    result = .ok () ∨ result = .error .clientClosed

theorem Accounted.of_same (accounted : clientele.Accounted)
    (members : after.members = clientele.members) (history : after.history = clientele.history)
    (next : clientele.next ≤ after.next) : after.Accounted where
  shutdowns member mem := by
    rw [Clientele.shutdowns, history]
    exact accounted.shutdowns member (members ▸ mem)
  successes member mem := by
    rw [Clientele.successes, history]
    exact accounted.successes member (members ▸ mem)
  known event mem client about :=
    Nat.lt_of_lt_of_le (accounted.known event (history ▸ mem) client about) next
  answered client result mem := accounted.answered client result (history ▸ mem)

theorem Accounted.note (accounted : clientele.Accounted) (identified : clientele.Identified)
    {event : Event} (harmless : clientele.Harmless event) : (clientele.note event).Accounted := by
  have uncounted : ∀ id, event.isShutdownOf id = false ∧ event.isSuccessOf id = false := by
    intro id
    cases harmless <;> exact ⟨rfl, rfl⟩
  constructor
  case shutdowns =>
    intro member mem
    rw [Clientele.shutdowns, Clientele.note, List.countP_append, List.countP_singleton,
      (uncounted member.id).1]
    exact accounted.shutdowns member mem
  case successes =>
    intro member mem
    rw [Clientele.successes, Clientele.note, List.countP_append, List.countP_singleton,
      (uncounted member.id).2]
    exact accounted.successes member mem
  case known =>
    intro other mem client about
    rcases List.mem_append.mp mem with before | here
    · exact accounted.known other before client about
    · rw [List.mem_singleton.mp here] at about
      cases harmless with
      | returned context => cases about
      | refused member_mem closed =>
          cases about
          exact identified.members.old _ (List.mem_map_of_mem member_mem)
      | asked member_mem opened =>
          cases about
          exact identified.members.old _ (List.mem_map_of_mem member_mem)
  case answered =>
    intro client result mem
    rcases List.mem_append.mp mem with before | here
    · exact accounted.answered client result before
    · cases harmless with
      | returned context => cases List.mem_singleton.mp here
      | refused member_mem closed =>
          cases List.mem_singleton.mp here
          exact Or.inr rfl
      | asked member_mem opened => cases List.mem_singleton.mp here

/-- A client changes, and something happens to it alone. -/
theorem Accounted.change (accounted : clientele.Accounted) (identified : clientele.Identified)
    (mem : member ∈ clientele.members) (events : List Event)
    (members : after.members = (clientele.updateMember member.id life).members)
    (history : after.history = clientele.history ++ events) (next : after.next = clientele.next)
    (about : ∀ event ∈ events, event.client? = some member.id)
    (shutdowns : member.parted.toNat + events.countP (·.isShutdownOf member.id) =
      (life.client.closed || life.gone).toNat)
    (successes : member.client.closed.toNat + events.countP (·.isSuccessOf member.id) =
      life.client.closed.toNat)
    (answered : ∀ client result, .closed client result ∈ events → result = .ok ()) :
    after.Accounted := by
  have others : ∀ other : Member, other.id ≠ member.id → ∀ event ∈ events,
      event.client? ≠ some other.id := by
    intro other different event event_mem same
    exact different (Option.some.inj (same.symm.trans (about event event_mem)))
  constructor
  case shutdowns =>
    intro later later_mem
    rw [members, mem_updateMember identified mem] at later_mem
    rw [Clientele.shutdowns, history, List.countP_append]
    rcases later_mem with rfl | ⟨other_mem, different⟩
    · exact (congrArg (· + _) (accounted.shutdowns member mem)).trans shutdowns
    · rw [Event.countP_of_others (others later different) fun _ => Event.client?_of_shutdown]
      exact accounted.shutdowns later other_mem
  case successes =>
    intro later later_mem
    rw [members, mem_updateMember identified mem] at later_mem
    rw [Clientele.successes, history, List.countP_append]
    rcases later_mem with rfl | ⟨other_mem, different⟩
    · exact (congrArg (· + _) (accounted.successes member mem)).trans successes
    · rw [Event.countP_of_others (others later different) fun _ => Event.client?_of_success]
      exact accounted.successes later other_mem
  case known =>
    intro event event_mem client is_about
    rw [history] at event_mem
    rw [next]
    rcases List.mem_append.mp event_mem with before | here
    · exact accounted.known event before client is_about
    · rw [about event here] at is_about
      rw [← Option.some.inj is_about]
      exact identified.members.old _ (List.mem_map_of_mem mem)
  case answered =>
    intro client result event_mem
    rw [history] at event_mem
    rcases List.mem_append.mp event_mem with before | here
    · exact accounted.answered client result before
    · exact Or.inl (answered client result here)

theorem Accounted.close (accounted : clientele.Accounted) (identified : clientele.Identified)
    (mem : member ∈ clientele.members) (present : member.gone = false)
    (opened : member.client.closed = false) :
    ((clientele.part member member.afterClose).note (.closed member.id (.ok ()))).Accounted := by
  refine accounted.change identified mem [.shutDown member.id, .closed member.id (.ok ())]
    rfl (List.append_assoc _ _ _) rfl ?_ ?_ ?_ ?_
  · simp [Event.client?]
  · simp [Member.parted, Member.afterClose, present, opened, Event.isShutdownOf]
  · simp [Member.afterClose, opened, Event.isSuccessOf]
  · simp

/-- An open client is let go. -/
theorem Accounted.depart (accounted : clientele.Accounted) (identified : clientele.Identified)
    (departs : clientele.Departs member) (opened : member.client.closed = false) :
    (clientele.part member member.afterDeparture).Accounted := by
  refine accounted.change identified departs.mem [.shutDown member.id] rfl rfl rfl
    (fun event mem => ?_) ?_ ?_ fun client result mem => ?_
  · rw [List.mem_singleton.mp mem]
    rfl
  · simp [Member.parted, Member.afterDeparture, departs.present, opened, Event.isShutdownOf]
  · simp [Member.afterDeparture, Event.isSuccessOf]
  · cases List.mem_singleton.mp mem

/-- A closed client is let go. -/
theorem Accounted.departClosed (accounted : clientele.Accounted)
    (identified : clientele.Identified) (mem : member ∈ clientele.members)
    (closed : member.client.closed = true) :
    (clientele.updateMember member.id member.afterDeparture).Accounted := by
  refine accounted.change identified mem [] rfl (List.append_nil _).symm rfl
    (fun _ listed => nomatch listed) ?_ rfl fun _ _ listed => nomatch listed
  simp [Member.parted, Member.afterDeparture, closed]

theorem Accounted.enter (accounted : clientele.Accounted) {client : Client}
    (opened : client.closed = false) (context : Option Nat) :
    (clientele.enter client context).Accounted := by
  have history : (clientele.enter client context).history = clientele.history := rfl
  have others : ∀ event ∈ clientele.history, event.client? ≠ some clientele.next := by
    intro event mem about
    exact Nat.lt_irrefl _ (accounted.known event mem _ about)
  constructor
  case shutdowns =>
    intro later later_mem
    rw [Clientele.shutdowns, history]
    rcases List.mem_append.mp later_mem with before | here
    · exact accounted.shutdowns later before
    · rw [List.mem_singleton.mp here, Member.parted, opened]
      exact Event.countP_of_others others fun _ => Event.client?_of_shutdown
  case successes =>
    intro later later_mem
    rw [Clientele.successes, history]
    rcases List.mem_append.mp later_mem with before | here
    · exact accounted.successes later before
    · rw [List.mem_singleton.mp here, opened]
      exact Event.countP_of_others others fun _ => Event.client?_of_success
  case known =>
    intro event mem other about
    rw [history] at mem
    exact Nat.lt_of_lt_of_le (accounted.known event mem other about) (Nat.le_add_right _ 3)
  case answered =>
    intro other result mem
    rw [history] at mem
    exact accounted.answered other result mem

end Courier.Clientele
