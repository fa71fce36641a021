import Courier.Proofs.Clientele.Changes

/-!
# What actions change

An action takes the close hooks of a context or makes a sequence of other changes.
-/

namespace Courier.Clientele

variable {clientele : Clientele} {member : Member} {holder : Holder} {home : Home}
  {client id : Nat}

theorem close_change (mem : member ∈ clientele.members) (present : member.gone = false) :
    clientele.Change (clientele.closeMember member).1 := by
  obtain ⟨opened, same⟩ | ⟨closed, same⟩ := clientele.closeMember_cases member
  · rw [same]
    exact .close mem present opened
  · rw [same]
    exact .note (.refused mem closed)

theorem ask_changes (mem : member ∈ clientele.members) :
    Changes clientele (clientele.ask member).1 := by
  obtain ⟨opened, same⟩ | ⟨_, same⟩ := clientele.ask_cases member
  · rw [same]
    exact .single (.note (.asked mem opened))
  · rw [same]

theorem make_changes (clientele : Clientele) (config : Config) (here : Option Nat) :
    Changes clientele (clientele.make config here).1 := by
  rw [make]
  split
  · exact .refl
  · rename_i client created
    refine .single (.enter ?_ fun id is_home => ?_)
    · rw [Client.create] at created
      split at created
      · split at created
        · cases created
        · cases created
          rfl
      · cases created
    · obtain ⟨home, found, rfl⟩ := Option.map_eq_some_iff.mp is_home
      obtain ⟨context, _, found⟩ := Option.bind_eq_some_iff.mp found
      exact ⟨home, (Identity.mem_of_find found).1, rfl⟩

theorem dispatch_changes (referenced : clientele.isReferenced member.id = true)
    (method host : String) (port : UInt16) (secure : Option Bool) (uri : String)
    (headers : Option Http.Headers) :
    Changes clientele (clientele.dispatch member method host port secure uri headers).1 := by
  rw [dispatch]
  split
  · exact .refl
  · exact .single (.hold referenced rfl)

/-- An upgrade starts for an open client only. -/
theorem opened_of_started {stream changed : WebSocket.UpgradeStream Unit} {client : Client}
    {destination : WebSocket.Destination}
    (started : stream.subscribe client = (changed, .started destination)) :
    client.closed = false := by
  cases closed : client.closed with
  | false => rfl
  | true =>
      rw [WebSocket.UpgradeStream.subscribe] at started
      split at started
      · cases started
      · dsimp only at started
        split at started
        · cases started
        · cases started

theorem subscribe_changes (mem : holder ∈ clientele.holders)
    (member_mem : member ∈ clientele.members) (same : member.id = holder.client)
    (stream : WebSocket.UpgradeStream Unit) :
    Changes clientele (clientele.subscribe holder stream member).1 := by
  have replaced : ∀ stream, clientele.Change (clientele.replace holder (.stream stream)) :=
    fun _ => .replace mem (fun _ listed => nomatch listed)
  rw [subscribe]
  split
  · exact .single (replaced _)
  · exact .single (replaced _)
  · rename_i destination started
    have opened := opened_of_started started
    refine .tail (.tail (.single (.note (.asked member_mem opened))) (.hold ?_ rfl))
      (.replace (List.mem_append_left _ mem) fun _ listed => nomatch listed)
    exact same ▸ referenced_of_mem mem

theorem arrive_changes (mem : holder ∈ clientele.holders) (member_mem : member ∈ clientele.members)
    (retries : Nat) (endpoint : Endpoint) (valid : Bool) :
    Changes clientele (clientele.arrive holder retries member endpoint valid).1 := by
  rw [arrive]
  split
  · exact .refl
  · exact .single (.release mem)
  · obtain ⟨opened, same⟩ | ⟨_, same⟩ := clientele.ask_cases member
    · rw [same]
      exact .tail (.single (.note (.asked member_mem opened)))
        (.replace mem fun _ listed => nomatch listed)
    · rw [same]
      exact .single (.release mem)

theorem exchange_changes (mem : holder ∈ clientele.holders)
    (member_mem : member ∈ clientele.members) (kept : member.id ∈ holder.kept) (loop : SendLoop) :
    Changes clientele (clientele.exchange holder loop member).1 := by
  rw [exchange]
  obtain ⟨opened, same⟩ | ⟨_, same⟩ := clientele.ask_cases member
  · rw [same]
    refine .tail (.single (.note (.asked member_mem opened))) (.replace mem fun client listed => ?_)
    rw [List.mem_singleton.mp listed]
    exact isReferenced_iff.mpr ⟨holder, mem, kept⟩
  · rw [same]
    exact .single (.release mem)

theorem respond_changes (mem : holder ∈ clientele.holders) (loop : SendLoop)
    (result : Except ClientError Response) :
    Changes clientele (clientele.respond holder loop result) := by
  rw [respond]
  split
  · exact .single (.release mem)
  · exact .single (.replace mem fun _ listed => nomatch listed)

theorem follow_change (mem : holder ∈ clientele.holders)
    (referenced : clientele.isReferenced client = true) (decided : SendLoop.AfterDecision) :
    clientele.Change (clientele.follow holder client decided) := by
  cases decided with
  | finished result => exact .release mem
  | exchange loop =>
      refine .replace mem fun other listed => ?_
      rw [List.mem_singleton.mp listed]
      exact referenced

theorem mem_follow_holders {other : Holder} (mem : other ∈ clientele.holders)
    (different : other.id ≠ holder.id) (decided : SendLoop.AfterDecision) :
    other ∈ (clientele.follow holder client decided).holders := by
  cases decided with
  | finished result => exact (clientele.mem_release_holders holder).mpr ⟨mem, different⟩
  | exchange loop =>
      rw [follow, replace_holders]
      refine List.mem_map.mpr ⟨other, mem, if_neg ?_⟩
      simpa using different

theorem decide_changes (identified : clientele.Identified) (mem : holder ∈ clientele.holders)
    {loop : SendLoop} {stage : SendStage} (sends : holder.item = .send loop stage)
    (response : Response) (verdict : Verdict) :
    Changes clientele (clientele.decide holder loop response verdict) := by
  have own := follow_change mem (referenced_of_mem mem)
  cases verdict with
  | stay => rw [decide]; exact .single (own _)
  | refuse error => rw [decide]; exact .single (own _)
  | breakDown text => rw [decide]; exact .single (own _)
  | next request =>
      rw [decide]
      split
      · rename_i named found
        obtain ⟨named_mem, _⟩ := Identity.mem_of_find found
        split
        · rename_i request is_request
          have different : named.id ≠ holder.id := by
            intro same
            rw [identified.eq_of_holder named_mem mem same, sends] at is_request
            cases is_request
          exact .tail (.single (follow_change mem (referenced_of_mem named_mem) _))
            (.release (mem_follow_holders named_mem different _))
        · exact .refl
      · exact .refl

theorem closeMember_progress (clientele : Clientele) (member : Member) :
    (clientele.closeMember member).1.homes.map Home.progress =
      clientele.homes.map Home.progress := by
  obtain ⟨_, same⟩ | ⟨_, same⟩ := clientele.closeMember_cases member
  · rw [same]
    exact part_progress _ _ _
  · rw [same]
    rfl

theorem closeMember_parts (identified : clientele.Identified) (mem : member ∈ clientele.members) :
    ∀ later ∈ (clientele.closeMember member).1.members, later.id = member.id →
      later.parted = true := by
  intro later later_mem same_id
  obtain ⟨_, same⟩ | ⟨closed, same⟩ := clientele.closeMember_cases member
  · rw [same] at later_mem
    rcases (mem_updateMember identified mem).mp later_mem with rfl | ⟨_, different⟩
    · rfl
    · exact absurd same_id different
  · rw [same] at later_mem
    rw [identified.eq_of_id later_mem mem same_id, Member.parted, closed, Bool.true_or]

/-- After a close hook was run nothing is left for it to close. -/
theorem closeHooked_spent (identified : clientele.Identified) (hook : CloseHook Hook) :
    Changes clientele (clientele.closeHooked hook) ∧
      (clientele.closeHooked hook).homes.map Home.progress = clientele.homes.map Home.progress ∧
      (clientele.closeHooked hook).Spent hook := by
  rw [closeHooked]
  split
  · rename_i unknown
    refine ⟨.refl, rfl, fun client closes member mem same => ?_⟩
    rw [closes, Option.bind_some] at unknown
    exact absurd same (by simpa using List.find?_eq_none.mp unknown member mem)
  · rename_i member found
    obtain ⟨client, closes, found⟩ := Option.bind_eq_some_iff.mp found
    obtain ⟨mem, rfl⟩ := Identity.mem_of_find found
    split
    · rename_i gone
      refine ⟨.refl, rfl, fun other_client other_closes other other_mem same => ?_⟩
      rw [closes, Option.some_inj] at other_closes
      rw [identified.eq_of_id other_mem mem (same.trans other_closes.symm), Member.parted, gone,
        Bool.or_true]
    · rename_i present
      rw [Bool.not_eq_true] at present
      refine ⟨.single (close_change mem present), closeMember_progress _ _, ?_⟩
      intro other_client other_closes later later_mem same
      rw [closes, Option.some_inj] at other_closes
      exact closeMember_parts identified mem later later_mem (same.trans other_closes.symm)

theorem runHook_changes (identified : clientele.Identified) (mem : home ∈ clientele.homes) :
    Changes clientele (clientele.runHook home) := by
  rw [runHook]
  split
  · exact .refl
  · rename_i hook rest unrun
    obtain ⟨closing, progress, spent⟩ := closeHooked_spent identified hook
    obtain ⟨later, later_mem, same⟩ := exists_of_progress progress mem
    obtain ⟨same_id, _, _, same_unrun⟩ := Home.of_progress same
    rw [← same_id]
    exact .tail closing (.popHook later_mem (same_unrun.trans unrun) spent)

theorem endClose_changes (mem : home ∈ clientele.homes) :
    Changes clientele (clientele.endClose home) := by
  rw [endClose]
  split
  · rename_i ends
    simp only [Bool.and_eq_true, List.isEmpty_iff] at ends
    exact .tail (.single (.endClose mem ends.1.1 ends.2)) (.note (.returned _))
  · exact .refl

theorem call_changes {handle : Nat} {answer : Member → Clientele × Except ClientError Unit}
    (changes : ∀ member ∈ clientele.members, clientele.isReferenced member.id = true →
      Changes clientele (answer member).1) :
    Changes clientele (clientele.call handle answer).1 := by
  rw [call]
  split
  · exact .refl
  · rename_i member called
    obtain ⟨mem, referenced⟩ := mem_of_caller? called
    exact changes member mem referenced

theorem withHolder_changes {change : Holder → Clientele × Reply}
    (changes : ∀ holder ∈ clientele.holders, Changes clientele (change holder).1) :
    Changes clientele (clientele.withHolder id change).1 := by
  rw [withHolder]
  split
  · exact .refl
  · rename_i holder found
    exact changes holder (Identity.mem_of_find found).1

theorem withHome_changes {change : Home → Clientele}
    (changes : ∀ home ∈ clientele.homes, home.id = id → Changes clientele (change home)) :
    Changes clientele (clientele.withHome id change).1 := by
  rw [withHome]
  split
  · exact .refl
  · rename_i home found
    obtain ⟨mem, same⟩ := Identity.mem_of_find found
    exact changes home mem same

/-- An action that does not take the close hooks of a context is a sequence of changes. -/
theorem perform_cases (identified : clientele.Identified)
    (present : ∀ member ∈ clientele.members, member.gone = true →
      clientele.isReferenced member.id = false) (action : Action) :
    Changes clientele (clientele.perform action).1 ∨
      ∃ home ∈ clientele.homes, action = .beginClose home.id ∧ home.context.closed = false ∧
        (clientele.perform action).1 = clientele.takeHooks home := by
  cases action with
  | startContext kind => exact Or.inl (.single (.start kind))
  | addHook context => exact Or.inl (.single (.addHook context))
  | removeHook context hook => exact Or.inl (.single (.removeHook context hook))
  | beginClose context =>
      rw [perform, withHome]
      split
      · exact Or.inl .refl
      · rename_i home found
        obtain ⟨mem, rfl⟩ := Identity.mem_of_find found
        cases closed : home.context.closed with
        | false => exact Or.inr ⟨home, mem, rfl, closed, beginClose_of_open closed⟩
        | true =>
            rw [beginClose_of_closed closed]
            exact Or.inl (.single (.note (.returned _)))
  | runHook context => exact Or.inl (withHome_changes fun _ mem _ => runHook_changes identified mem)
  | endClose context => exact Or.inl (withHome_changes fun _ mem _ => endClose_changes mem)
  | make config here => exact Or.inl (make_changes _ _ _)
  | clone handle =>
      exact Or.inl (call_changes fun _ _ referenced => .single (.hold referenced rfl))
  | drop holder => exact Or.inl (withHolder_changes fun _ mem => .single (.release mem))
  | close handle =>
      refine Or.inl (call_changes fun member mem referenced => .single (close_change mem ?_))
      cases gone : member.gone with
      | false => rfl
      | true => rw [present member mem gone] at referenced; cases referenced
  | dispatch handle method host port secure uri headers =>
      exact Or.inl (call_changes fun _ _ referenced => dispatch_changes referenced _ _ _ _ _ _)
  | acquire handle => exact Or.inl (call_changes fun _ mem _ => ask_changes mem)
  | openStream handle options =>
      exact Or.inl (call_changes fun _ _ referenced => .single (.hold referenced rfl))
  | subscribe stream =>
      refine Or.inl (withHolder_changes fun holder mem => ?_)
      split
      · rename_i stream member _ found
        obtain ⟨member_mem, same⟩ := Identity.mem_of_find found
        exact subscribe_changes mem member_mem same stream
      · exact .refl
  | arrive upgrade endpoint valid =>
      refine Or.inl (withHolder_changes fun holder mem => ?_)
      split
      · rename_i retries member _ found
        exact arrive_changes mem (Identity.mem_of_find found).1 retries endpoint valid
      · exact .refl
  | send request =>
      refine Or.inl (withHolder_changes fun holder mem => ?_)
      split
      · rename_i request member _ found
        refine .single (.replace mem fun client listed => ?_)
        rw [List.mem_singleton.mp listed, (Identity.mem_of_find found).2]
        exact referenced_of_mem mem
      · exact .refl
  | exchange send =>
      refine Or.inl (withHolder_changes fun holder mem => ?_)
      split
      · rename_i loop client sends
        split
        · rename_i member found
          obtain ⟨member_mem, same⟩ := Identity.mem_of_find found
          refine exchange_changes mem member_mem ?_ loop
          rw [Holder.kept, sends, same]
          exact List.mem_cons_of_mem _ List.mem_cons_self
        · exact .refl
      · exact .refl
  | respond send result =>
      refine Or.inl (withHolder_changes fun holder mem => ?_)
      split
      · exact respond_changes mem _ result
      · exact .refl
  | decide send verdict =>
      refine Or.inl (withHolder_changes fun holder mem => ?_)
      split
      · rename_i loop response sends
        exact decide_changes identified mem sends response verdict
      · exact .refl

end Courier.Clientele
