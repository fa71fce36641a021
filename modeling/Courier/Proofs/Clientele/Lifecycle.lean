import Courier.Proofs.Clientele.Sound

/-!
# Lives of clients

Whatever happens to clients, what refers to them and their contexts: a client shuts its pool down
once, as soon as it is closed or nothing refers to it any more; one close of it succeeds; once it is
closed it asks its pool for nothing and refuses whatever needs an open client; and a context that
is not closed has the close hook of every open client that was made on it, and of no other client.
-/

namespace Courier.Clientele

variable {clientele after : Clientele} {member : Member} {home : Home} {client id : Nat}
  {life : ClientLife} {actions : List Action} {action : Action}

/-! ## What stays of a client -/

/-- A client later on. -/
structure Member.Becomes (member later : Member) : Prop where
  id : later.id = member.id
  context : later.context = member.context
  hook : later.hook = member.hook
  closed : member.client.closed = true → later.client.closed = true
  gone : member.gone = true → later.gone = true

theorem Member.Becomes.refl (member : Member) : member.Becomes member :=
  ⟨rfl, rfl, rfl, fun closed => closed, fun gone => gone⟩

theorem Member.Becomes.trans {later last : Member} (first : member.Becomes later)
    (second : later.Becomes last) : member.Becomes last :=
  ⟨second.id.trans first.id, second.context.trans first.context, second.hook.trans first.hook,
    fun closed => second.closed (first.closed closed), fun gone => second.gone (first.gone gone)⟩

theorem Member.Becomes.parted {later : Member} (becomes : member.Becomes later)
    (parted : member.parted = true) : later.parted = true := by
  rw [Member.parted, Bool.or_eq_true] at parted ⊢
  exact parted.imp becomes.closed becomes.gone

/-- Clients later on: those that were closed have asked for nothing since. -/
structure Later (clientele after : Clientele) : Prop where
  members : ∀ member ∈ clientele.members, ∃ later ∈ after.members, member.Becomes later
  requests : ∀ member ∈ clientele.members, member.client.closed = true →
    after.requests member.id = clientele.requests member.id

theorem Later.refl (clientele : Clientele) : Later clientele clientele :=
  ⟨fun member mem => ⟨member, mem, .refl member⟩, fun _ _ _ => rfl⟩

theorem Later.trans {last : Clientele} (first : Later clientele after) (second : Later after last) :
    Later clientele last := by
  constructor
  case members =>
    intro member mem
    obtain ⟨later, later_mem, becomes⟩ := first.members member mem
    obtain ⟨last, last_mem, goes_on⟩ := second.members later later_mem
    exact ⟨last, last_mem, becomes.trans goes_on⟩
  case requests =>
    intro member mem closed
    obtain ⟨later, later_mem, becomes⟩ := first.members member mem
    have quiet := second.requests later later_mem (becomes.closed closed)
    rw [becomes.id] at quiet
    exact quiet.trans (first.requests member mem closed)

/-- Clients stay as they are or go on, and no closed one asks for anything. -/
theorem Later.of_events (events : List Event)
    (members : ∀ member ∈ clientele.members, ∃ later ∈ after.members, member.Becomes later)
    (history : after.history = clientele.history ++ events)
    (quiet : ∀ member ∈ clientele.members, member.client.closed = true →
      events.countP (·.isRequestOf member.id) = 0) : Later clientele after := by
  refine ⟨members, fun member mem closed => ?_⟩
  rw [Clientele.requests, Clientele.requests, history, List.countP_append,
    quiet member mem closed, Nat.add_zero]

theorem Later.of_same (members : after.members = clientele.members)
    (history : after.history = clientele.history) : Later clientele after :=
  .of_events [] (fun member mem => ⟨member, members ▸ mem, .refl member⟩)
    (history.trans (List.append_nil _).symm) fun _ _ _ => rfl

/-- One client changes. -/
theorem Later.of_update (identified : clientele.Identified) (mem : member ∈ clientele.members)
    (becomes : member.Becomes { member with toClientLife := life }) (events : List Event)
    (members : after.members = (clientele.updateMember member.id life).members)
    (history : after.history = clientele.history ++ events)
    (quiet : ∀ id, events.countP (·.isRequestOf id) = 0) : Later clientele after := by
  refine .of_events events (fun other other_mem => ?_) history fun other _ _ => quiet other.id
  rw [members]
  by_cases same : other.id = member.id
  · rw [identified.eq_of_id other_mem mem same]
    exact ⟨_, (mem_updateMember identified mem).mpr (Or.inl rfl), becomes⟩
  · exact ⟨other, (mem_updateMember identified mem).mpr (Or.inr ⟨other_mem, same⟩), .refl other⟩

theorem later_letGo (identified : clientele.Identified) (mem : member ∈ clientele.members) :
    Later clientele (clientele.letGo member) := by
  have becomes : member.Becomes { member with toClientLife := member.afterDeparture } :=
    ⟨rfl, rfl, rfl, fun closed => closed, fun _ => rfl⟩
  obtain ⟨_, same⟩ | ⟨_, same⟩ := clientele.letGo_cases member
  · rw [same]
    exact .of_update identified mem becomes [.shutDown member.id] rfl rfl fun _ => rfl
  · rw [same]
    exact .of_update identified mem becomes [] rfl (List.append_nil _).symm fun _ => rfl

theorem later_foldl_reap {clients : List Nat} (sound : clientele.Sound clients) :
    Later clientele (clients.foldl reap clientele) := by
  induction clients generalizing clientele with
  | nil => exact .refl clientele
  | cons client rest induction =>
      refine Later.trans ?_ (induction sound.reap)
      obtain ⟨same, _⟩ | ⟨member, departs, _, same⟩ := reap_cases sound.identified client
      · rw [same]
        exact .refl clientele
      · rw [same]
        exact later_letGo sound.identified departs.mem

theorem Sound.later_of_change (sound : clientele.Sound []) (change : clientele.Change after) :
    Later clientele after := by
  cases change with
  | start kind => exact .of_same rfl rfl
  | addHook context => exact .of_same rfl rfl
  | removeHook context hook => exact .of_same rfl rfl
  | popHook mem unrun spent => exact .of_same rfl rfl
  | endClose mem closed unrun => exact .of_same rfl rfl
  | enter opened found =>
      exact .of_events []
        (fun member mem => ⟨member, List.mem_append_left _ mem, .refl member⟩)
        (List.append_nil _).symm fun _ _ _ => rfl
  | @close member mem present opened =>
      have becomes : member.Becomes { member with toClientLife := member.afterClose } :=
        ⟨rfl, rfl, rfl, fun _ => rfl, fun gone => gone⟩
      exact .of_update sound.identified mem becomes
        [.shutDown member.id, .closed member.id (.ok ())] rfl (List.append_assoc _ _ _) fun _ => rfl
  | @note event harmless =>
      refine .of_events [event] (fun member mem => ⟨member, mem, .refl member⟩) rfl
        fun member mem closed => ?_
      rw [List.countP_singleton]
      cases harmless with
      | returned context => rfl
      | refused other_mem other_closed => rfl
      | @asked other other_mem opened =>
          refine if_neg fun same => ?_
          rw [sound.identified.eq_of_id other_mem mem (beq_iff_eq.mp same), closed] at opened
          cases opened
  | hold referenced clients => exact .of_same rfl rfl
  | release mem =>
      refine Later.trans ?_ (later_foldl_reap (sound.dropped mem))
      exact .of_same rfl rfl
  | replace mem referenced =>
      refine Later.trans ?_ (later_foldl_reap (sound.remade mem referenced))
      exact .of_same rfl rfl

theorem Sound.later_of_changes (sound : clientele.Sound []) (changes : Changes clientele after) :
    Later clientele after := by
  induction changes with
  | refl => exact .refl clientele
  | tail before change induction =>
      exact induction.trans ((sound.changes before).later_of_change change)

theorem Sound.later_perform (sound : clientele.Sound []) (action : Action) :
    Later clientele (clientele.perform action).1 := by
  obtain changes | ⟨home, _, _, _, same⟩ := sound.perform_cases action
  · exact sound.later_of_changes changes
  · rw [same]
    exact .of_same rfl rfl

theorem Sound.later_run (sound : clientele.Sound []) (actions : List Action) :
    Later clientele (clientele.run actions) := by
  induction actions generalizing clientele with
  | nil => exact .refl clientele
  | cons action rest induction =>
      exact (sound.later_perform action).trans (induction (sound.perform action))

/-! ## What a closed client refuses -/

/-- An action that only an open client can carry out, once its arguments can be used. -/
inductive Demands (clientele : Clientele) (client : Nat) : Action → Prop where
  | close {handle : Nat} {member : Member} (called : clientele.caller? handle = some member)
      (same : member.id = client) : Demands clientele client (.close handle)
  | acquire {handle : Nat} {member : Member} (called : clientele.caller? handle = some member)
      (same : member.id = client) : Demands clientele client (.acquire handle)
  | dispatch {handle : Nat} {member : Member} (called : clientele.caller? handle = some member)
      (same : member.id = client) {host uri : String} (has_host : (bareHost host).isEmpty = false)
      (has_uri : uri.isEmpty = false) (method : String) (port : UInt16) (secure : Option Bool)
      (headers : Option Http.Headers) :
      Demands clientele client (.dispatch handle method host port secure uri headers)
  | subscribe {id : Nat} {holder : Holder} {stream : WebSocket.UpgradeStream Unit}
      {member : Member} (found : clientele.holder? id = some holder)
      (opens : holder.item = .stream stream)
      (member_found : clientele.member? holder.client = some member) (same : member.id = client)
      (first : stream.subscribed = false)
      (has_host : (stream.options.destination member.client.config).host.isEmpty = false)
      (has_uri : stream.options.uri.isEmpty = false) : Demands clientele client (.subscribe id)
  | exchange {id : Nat} {holder : Holder} {loop : SendLoop}
      (found : clientele.holder? id = some holder)
      (sends : holder.item = .send loop (.ready client)) : Demands clientele client (.exchange id)

theorem call_reply {handle : Nat} {answer : Member → Clientele × Except ClientError Unit}
    (called : clientele.caller? handle = some member) :
    (clientele.call handle answer).2 = some (answer member).2 := by
  rw [call, called]
  rfl

theorem dispatch_of_closed {client : Client} (closed : client.closed = true)
    {host uri : String} (has_host : (bareHost host).isEmpty = false)
    (has_uri : uri.isEmpty = false) (method : String) (port : UInt16) (secure : Option Bool)
    (headers : Option Http.Headers) :
    client.dispatch method host port secure uri headers = .error .clientClosed := by
  rw [Courier.Client.dispatch]
  simp only [has_host, has_uri, closed]
  rfl

theorem subscribe_of_closed {stream : WebSocket.UpgradeStream Unit} {client : Client}
    (closed : client.closed = true) (first : stream.subscribed = false)
    (has_host : (stream.options.destination client.config).host.isEmpty = false)
    (has_uri : stream.options.uri.isEmpty = false) :
    stream.subscribe client = ({ stream with subscribed := true }, .failed .clientClosed) := by
  rw [WebSocket.UpgradeStream.subscribe, if_neg (by simp [first])]
  simp only [WebSocket.UpgradeStream.checkArguments, has_host, has_uri, closed]
  rfl

/-- A closed client refuses whatever needs an open one. -/
theorem Identified.refused (identified : clientele.Identified) (mem : member ∈ clientele.members)
    (closed : member.client.closed = true) (demands : clientele.Demands member.id action) :
    (clientele.perform action).2 = some (.error .clientClosed) := by
  have asks : clientele.ask member = (clientele, .error .clientClosed) := by
    obtain ⟨opened, _⟩ | ⟨_, same⟩ := clientele.ask_cases member
    · rw [closed] at opened
      cases opened
    · exact same
  cases demands with
  | close called same =>
      rw [identified.eq_of_id (mem_of_caller? called).1 mem same] at called
      rw [perform, call_reply called]
      obtain ⟨opened, _⟩ | ⟨_, done⟩ := clientele.closeMember_cases member
      · rw [closed] at opened
        cases opened
      · rw [done]
  | acquire called same =>
      rw [identified.eq_of_id (mem_of_caller? called).1 mem same] at called
      rw [perform, call_reply called, asks]
  | dispatch called same has_host has_uri method port secure headers =>
      rw [identified.eq_of_id (mem_of_caller? called).1 mem same] at called
      rw [perform, call_reply called, dispatch,
        dispatch_of_closed closed has_host has_uri]
  | @subscribe id holder stream other found opens other_found same first has_host has_uri =>
      obtain rfl := identified.eq_of_id (Identity.mem_of_find other_found).1 mem same
      simp only [perform, withHolder, found, opens, other_found, subscribe,
        subscribe_of_closed closed first has_host has_uri, told]
  | exchange found sends =>
      have member_found : clientele.member? member.id = some member :=
        Identity.find_of_mem identified.members.distinct mem
      simp only [perform, withHolder, found, sends, member_found, exchange, asks, told]

/-! ## Every run -/

theorem Member.parted_eq_false_iff :
    member.parted = false ↔ member.client.closed = false ∧ member.gone = false := by
  rw [parted, Bool.or_eq_false_iff]

/-- Whether a client is gone can be told from what refers to it. -/
theorem Sound.gone_eq (sound : clientele.Sound []) (mem : member ∈ clientele.members) :
    member.gone = !clientele.isReferenced member.id := by
  cases gone : member.gone with
  | true => rw [sound.referred.unreferenced member mem gone, Bool.not_false]
  | false =>
      have referenced := sound.referred.referenced member mem gone
      rw [referenced.resolve_right List.not_mem_nil, Bool.not_true]

/-- The clients whose close is registered on a context that is not closed. -/
theorem Sound.clients_perm (sound : clientele.Sound []) (mem : home ∈ clientele.homes)
    (opened : home.context.closed = false) :
    home.clients.Perm ((clientele.members.filter fun member =>
      member.context == some home.id && !member.client.closed &&
        clientele.isReferenced member.id).map (·.id)) := by
  have distinct : ((clientele.members.filter fun member =>
      member.context == some home.id && !member.client.closed &&
        clientele.isReferenced member.id).map (·.id)).Nodup :=
    sound.identified.members.distinct.sublist ((List.filter_sublist).map _)
  refine (List.perm_ext_iff_of_nodup (sound.hooked.once home mem) distinct).mpr fun id => ?_
  rw [Home.mem_clients, List.mem_map]
  constructor
  · rintro ⟨hook, listed, closes⟩
    obtain ⟨member, member_mem, unparted, is_context, rfl⟩ :=
      sound.hooked.registered home mem hook listed id closes
    obtain ⟨still_open, present⟩ := Member.parted_eq_false_iff.mp unparted
    rw [sound.gone_eq member_mem, Bool.not_eq_false'] at present
    refine ⟨member, List.mem_filter.mpr ⟨member_mem, ?_⟩, Option.some.inj closes⟩
    rw [is_context, still_open, present, beq_self_eq_true]
    rfl
  · rintro ⟨member, listed, rfl⟩
    obtain ⟨member_mem, chosen⟩ := List.mem_filter.mp listed
    simp only [Bool.and_eq_true, beq_iff_eq, Bool.not_eq_true'] at chosen
    obtain ⟨⟨is_context, still_open⟩, referenced⟩ := chosen
    have unparted : member.parted = false := by
      rw [Member.parted_eq_false_iff, sound.gone_eq member_mem, referenced]
      exact ⟨still_open, rfl⟩
    obtain ⟨other, other_mem, here, waits⟩ :=
      sound.hooked.waiting member member_mem unparted home.id is_context
    rw [sound.identified.eq_of_home other_mem mem here, (sound.paced home mem).idle opened] at waits
    exact ⟨member.closeHook, waits.resolve_right List.not_mem_nil, rfl⟩

/-- After any actions a client has shut its pool down once if it was closed or nothing refers to it
any more, and not at all otherwise; a close of it has succeeded once if it was closed, and every
other one has been refused.  Once it was closed it asks its pool for nothing any more, whatever
happens later on, and refuses whatever needs an open client.  A context that is not closed has the
close hook of every open client that was made on it and is referred to, once, and of no other. -/
theorem run_lifecycle (actions later : List Action) :
    let before := ({} : Clientele).run actions
    let now := before.run later
    (∀ member ∈ before.members,
      before.shutdowns member.id =
          (member.client.closed || !before.isReferenced member.id).toNat ∧
        before.successes member.id = member.client.closed.toNat ∧
        (member.client.closed = true →
          now.requests member.id = before.requests member.id ∧
            ∀ action, now.Demands member.id action →
              (now.perform action).2 = some (.error .clientClosed))) ∧
      (∀ client result, .closed client result ∈ before.history →
        result = .ok () ∨ result = .error .clientClosed) ∧
      ∀ home ∈ before.homes, home.context.closed = false →
        home.clients.Perm ((before.members.filter fun member =>
          member.context == some home.id && !member.client.closed &&
            before.isReferenced member.id).map (·.id)) := by
  intro before now
  have sound : before.Sound [] := sound_empty.run actions
  have sound_now : now.Sound [] := sound.run later
  refine ⟨fun member mem => ?_, sound.accounted.answered, fun home mem => sound.clients_perm mem⟩
  rw [sound.accounted.shutdowns member mem, Member.parted, sound.gone_eq mem]
  refine ⟨rfl, sound.accounted.successes member mem, fun closed => ?_⟩
  have follows := sound.later_run later
  refine ⟨follows.requests member mem closed, fun action demands => ?_⟩
  obtain ⟨current, current_mem, becomes⟩ := follows.members member mem
  rw [← becomes.id] at demands
  exact sound_now.identified.refused current_mem (becomes.closed closed) demands

/-- One client was closed and another one made on the same context. -/
theorem closed_client_and_successor :
    let before := ({} : Clientele).run
      [.startContext .eventLoop, .make {} (some 0), .close 3, .make {} (some 0)]
    let home : Home := { id := 0, context := { kind := .eventLoop, hooks := [⟨5, .ofClient 4⟩] } }
    before.shutdowns 1 = 1 ∧ before.successes 1 = 1 ∧ before.shutdowns 4 = 0 ∧
      ((before.run [.drop 6]).perform (.acquire 3)).2 = some (.error .clientClosed) ∧
        home ∈ before.homes ∧ home.clients.Perm [4] := by
  intro before home
  obtain ⟨lives, _, hooks⟩ := run_lifecycle
    [.startContext .eventLoop, .make {} (some 0), .close 3, .make {} (some 0)] [.drop 6]
  let first : Member :=
    { id := 1, client := { config := {}, closed := true }, context := some 0, hook := 2 }
  obtain ⟨shutdowns, successes, refuses⟩ := lives first (.head _)
  obtain ⟨open_shutdowns, _, _⟩ := lives
    { id := 4, client := { config := {} }, context := some 0, hook := 5 } (.tail _ (.head _))
  have home_mem : home ∈ before.homes := .head _
  refine ⟨shutdowns, successes, open_shutdowns, ?_, home_mem, hooks home home_mem rfl⟩
  exact (refuses rfl).2 (.acquire 3) (@Demands.acquire _ 1 3 first rfl rfl)

/-- A host of brackets only is refused before anything is asked about the client. -/
theorem bracketed_host_refused_first :
    ¬∀ (actions : List Action) (handle : Nat) (member : Member) (method host : String)
      (port : UInt16) (secure : Option Bool) (uri : String) (headers : Option Http.Headers),
      let clientele := ({} : Clientele).run actions
      clientele.caller? handle = some member → member.client.closed = true →
        host.isEmpty = false → uri.isEmpty = false →
          (clientele.perform (.dispatch handle method host port secure uri headers)).2 =
            some (.error .clientClosed) := by
  intro refuses
  have refused := refuses [.make {} none, .close 2] 2
    { id := 0, client := { config := {}, closed := true }, context := none, hook := 1 }
    "GET" "[]" 80 none "/" none rfl rfl rfl rfl
  have told : ((({} : Clientele).run [.make {} none, .close 2]).perform
      (.dispatch 2 "GET" "[]" 80 none "/" none)).2 =
        some (.error (.invalidArgument .emptyHost)) := rfl
  rw [told] at refused
  cases refused

end Courier.Clientele
