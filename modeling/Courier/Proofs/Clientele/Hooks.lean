import Courier.Proofs.Clientele.Changes

/-!
# Close hooks of clients

Until a client is closed or gone its close hook is registered on its context once, unless the close
of that context has taken the hook and has still to run it.
-/

namespace Courier.Clientele

variable {clientele after : Clientele} {member : Member} {home : Home} {hook : CloseHook Hook}
  {context id : Nat} {life : ClientLife}

/-! ## Contexts with and without a hook -/

/-- The clients whose close hooks are registered. -/
def Home.clients (home : Home) : List Nat := home.context.hooks.filterMap (·.action.client?)

theorem Home.mem_without_hooks :
    hook ∈ (home.without member).context.hooks ↔
      hook ∈ home.context.hooks ∧ (member.context = some home.id → hook.id ≠ member.hook) := by
  rw [without]
  split
  · rename_i here
    simp [Context.removeHook, here]
  · rename_i elsewhere
    simp [elsewhere]

theorem Home.without_clients (home : Home) (member : Member) :
    (home.without member).clients.Sublist home.clients := by
  rw [without]
  split
  · exact (List.filter_sublist).filterMap _
  · exact List.Sublist.refl _

theorem Home.mem_joinedBy_hooks :
    hook ∈ (home.joinedBy member).context.hooks ↔
      hook ∈ home.context.hooks ∨ member.context = some home.id ∧ hook = member.closeHook := by
  rw [Home.joinedBy]
  split
  · rename_i here
    simp [Context.addHook, here, Member.closeHook]
  · rename_i elsewhere
    simp [elsewhere]

theorem Home.joinedBy_clients (home : Home) (member : Member) :
    (home.joinedBy member).clients =
      home.clients ++ if member.context = some home.id then [member.id] else [] := by
  rw [Home.joinedBy]
  split
  · exact List.filterMap_append
  · exact (List.append_nil _).symm

theorem Home.mem_clients :
    id ∈ home.clients ↔ ∃ hook ∈ home.context.hooks, hook.action.client? = some id :=
  List.mem_filterMap

/-! ## The invariant -/

/-- Where the close hooks of clients are. -/
structure Hooked (clientele : Clientele) : Prop where
  registered : ∀ home ∈ clientele.homes, ∀ hook ∈ home.context.hooks, ∀ client,
    hook.action.client? = some client → ∃ member ∈ clientele.members,
      member.parted = false ∧ member.context = some home.id ∧ member.closeHook = hook
  once : ∀ home ∈ clientele.homes, home.clients.Nodup
  waiting : ∀ member ∈ clientele.members, member.parted = false → ∀ context,
    member.context = some context → ∃ home ∈ clientele.homes, home.id = context ∧
      (member.closeHook ∈ home.context.hooks ∨ member.closeHook ∈ home.unrun)

/-- Clients that are closed or gone do not matter. -/
theorem Hooked.of_same_homes (hooked : clientele.Hooked) (homes : after.homes = clientele.homes)
    (members : ∀ member, member.parted = false →
      (member ∈ after.members ↔ member ∈ clientele.members)) : after.Hooked where
  registered home mem hook listed client closes := by
    obtain ⟨member, member_mem, unparted, same⟩ :=
      hooked.registered home (homes ▸ mem) hook listed client closes
    exact ⟨member, (members member unparted).mpr member_mem, unparted, same⟩
  once home mem := hooked.once home (homes ▸ mem)
  waiting member mem unparted context is_context := by
    rw [homes]
    exact hooked.waiting member ((members member unparted).mp mem) unparted context is_context

/-- What a context may go through while clients stay as they are. -/
structure Home.Keeps (clientele : Clientele) (home later : Home) : Prop where
  id : later.id = home.id
  registered : ∀ hook ∈ later.context.hooks, ∀ client, hook.action.client? = some client →
    hook ∈ home.context.hooks
  clients : later.clients.Sublist home.clients
  waiting : ∀ member ∈ clientele.members, member.parted = false →
    member.closeHook ∈ home.context.hooks ∨ member.closeHook ∈ home.unrun →
    member.closeHook ∈ later.context.hooks ∨ member.closeHook ∈ later.unrun

theorem Home.Keeps.refl (clientele : Clientele) (home : Home) : Keeps clientele home home where
  id := rfl
  registered _ mem _ _ := mem
  clients := List.Sublist.refl _
  waiting _ _ _ waits := waits

theorem Hooked.updateHome (hooked : clientele.Hooked) {change : Home → Home}
    (keeps : ∀ home ∈ clientele.homes, home.id = id → Home.Keeps clientele home (change home)) :
    (clientele.updateHome id change).Hooked := by
  have changed : ∀ later ∈ (clientele.updateHome id change).homes,
      ∃ home ∈ clientele.homes, Home.Keeps clientele home later := by
    intro later mem
    obtain ⟨home, home_mem, rfl⟩ := List.mem_map.mp mem
    refine ⟨home, home_mem, ?_⟩
    split
    · rename_i same
      exact keeps home home_mem (beq_iff_eq.mp same)
    · exact Home.Keeps.refl clientele home
  constructor
  case registered =>
    intro later mem hook listed client closes
    obtain ⟨home, home_mem, kept⟩ := changed later mem
    rw [kept.id]
    exact hooked.registered home home_mem hook (kept.registered hook listed client closes)
      client closes
  case once =>
    intro later mem
    obtain ⟨home, home_mem, kept⟩ := changed later mem
    exact (hooked.once home home_mem).sublist kept.clients
  case waiting =>
    intro member member_mem unparted context is_context
    obtain ⟨home, home_mem, here, waits⟩ :=
      hooked.waiting member member_mem unparted context is_context
    refine ⟨_, List.mem_map_of_mem home_mem, ?_⟩
    split
    · rename_i same
      have kept := keeps home home_mem (beq_iff_eq.mp same)
      exact ⟨kept.id.trans here, kept.waiting member member_mem unparted waits⟩
    · exact ⟨here, waits⟩

/-! ## Changes -/

theorem Hooked.start (hooked : clientele.Hooked) (kind : ContextKind) :
    (clientele.start kind).Hooked where
  registered home mem hook listed client closes := by
    rcases List.mem_append.mp mem with before | here
    · exact hooked.registered home before hook listed client closes
    · rw [List.mem_singleton.mp here] at listed
      cases listed
  once home mem := by
    rcases List.mem_append.mp mem with before | here
    · exact hooked.once home before
    · rw [List.mem_singleton.mp here]
      exact List.nodup_nil
  waiting member mem unparted context is_context := by
    obtain ⟨home, home_mem, waits⟩ := hooked.waiting member mem unparted context is_context
    exact ⟨home, List.mem_append_left _ home_mem, waits⟩

theorem Hooked.addHook (hooked : clientele.Hooked) (context : Nat) :
    (clientele.addHook context).Hooked := by
  suffices updated : (clientele.updateHome context fun home =>
      { home with context := home.context.addHook clientele.next .other }).Hooked from
    updated.of_same_homes rfl fun _ _ => Iff.rfl
  refine hooked.updateHome fun home _ _ => ?_
  constructor
  case id => rfl
  case registered =>
    intro hook listed client closes
    rcases List.mem_append.mp listed with before | here
    · exact before
    · rw [List.mem_singleton.mp here] at closes
      cases closes
  case clients =>
    rw [Home.clients, Context.addHook, List.filterMap_append]
    exact (List.append_nil home.clients).symm ▸ List.Sublist.refl _
  case waiting =>
    intro member _ _ waits
    exact waits.imp_left (List.mem_append_left _)

theorem Hooked.removeHook (hooked : clientele.Hooked) (context id : Nat) :
    (clientele.removeHook context id).Hooked := by
  refine hooked.updateHome fun home mem _ => ?_
  split
  · exact Home.Keeps.refl clientele home
  · rename_i not_client
    constructor
    case id => rfl
    case registered => exact fun hook listed _ _ => (List.mem_filter.mp listed).1
    case clients => exact (List.filter_sublist).filterMap _
    case waiting =>
      intro member _ _ waits
      refine waits.imp_left fun listed => List.mem_filter.mpr ⟨listed, ?_⟩
      rw [bne_iff_ne]
      rintro rfl
      refine not_client (List.any_eq_true.mpr ⟨member.closeHook, listed, ?_⟩)
      simp [Member.closeHook, Hook.client?]

theorem Hooked.popHook (hooked : clientele.Hooked) (identified : clientele.Identified)
    (mem : home ∈ clientele.homes) {rest : List (CloseHook Hook)}
    (unrun : home.unrun = hook :: rest) (spent : clientele.Spent hook) :
    (clientele.updateHome home.id fun home => { home with unrun := rest }).Hooked := by
  refine hooked.updateHome fun other other_mem same => ?_
  rw [identified.eq_of_home other_mem mem same]
  constructor
  case id => rfl
  case registered => exact fun _ listed _ _ => listed
  case clients => exact List.Sublist.refl _
  case waiting =>
    intro member member_mem unparted waits
    refine waits.imp_right fun listed => ?_
    rw [unrun] at listed
    rcases List.mem_cons.mp listed with rfl | later
    · rw [spent member.id rfl member member_mem rfl] at unparted
      cases unparted
    · exact later

theorem Hooked.endClose (hooked : clientele.Hooked) (id : Nat) :
    (clientele.updateHome id fun home => { home with context := home.context.endClose }).Hooked :=
  hooked.updateHome fun _ _ _ =>
    ⟨rfl, fun _ listed _ _ => listed, List.Sublist.refl _, fun _ _ _ waits => waits⟩

theorem Hooked.takeHooks (hooked : clientele.Hooked) (identified : clientele.Identified)
    (mem : home ∈ clientele.homes) (idle : home.unrun = []) :
    (clientele.takeHooks home).Hooked := by
  refine hooked.updateHome fun other other_mem same => ?_
  rw [identified.eq_of_home other_mem mem same]
  constructor
  case id => rfl
  case registered => exact fun _ listed _ _ => nomatch listed
  case clients => exact List.nil_sublist _
  case waiting =>
    rintro member _ _ (listed | unrun)
    · exact Or.inr listed
    · rw [idle] at unrun
      cases unrun

/-- A client that is closed or gone has no hook on its context. -/
theorem Hooked.part (hooked : clientele.Hooked) (identified : clientele.Identified)
    (mem : member ∈ clientele.members) (parted : (life.client.closed || life.gone) = true) :
    (clientele.part member life).Hooked := by
  have homes : ∀ later, later ∈ (clientele.part member life).homes ↔
      ∃ home ∈ clientele.homes, home.without member = later := fun later => List.mem_map
  have members : ∀ later, later.parted = false →
      (later ∈ (clientele.part member life).members ↔
        later ∈ clientele.members ∧ later.id ≠ member.id) := by
    intro later unparted
    refine (mem_updateMember identified mem).trans ?_
    refine ⟨fun either => either.resolve_left ?_, Or.inr⟩
    rintro rfl
    rw [Member.parted, parted] at unparted
    cases unparted
  constructor
  case registered =>
    intro later later_mem hook listed client closes
    obtain ⟨home, home_mem, rfl⟩ := (homes later).mp later_mem
    obtain ⟨listed, foreign⟩ := Home.mem_without_hooks.mp listed
    obtain ⟨other, other_mem, unparted, is_context, rfl⟩ :=
      hooked.registered home home_mem hook listed client closes
    have different : other.id ≠ member.id := by
      intro same
      rw [identified.eq_of_id other_mem mem same] at is_context foreign
      exact foreign is_context rfl
    refine ⟨other, (members other unparted).mpr ⟨other_mem, different⟩, unparted, ?_, rfl⟩
    rw [(Home.of_progress (home.without_progress member)).1]
    exact is_context
  case once =>
    intro later later_mem
    obtain ⟨home, home_mem, rfl⟩ := (homes later).mp later_mem
    exact (hooked.once home home_mem).sublist (home.without_clients member)
  case waiting =>
    intro later later_mem unparted context is_context
    obtain ⟨other_mem, different⟩ := (members later unparted).mp later_mem
    obtain ⟨home, home_mem, here, waits⟩ :=
      hooked.waiting later other_mem unparted context is_context
    obtain ⟨same_id, _, _, same_unrun⟩ := Home.of_progress (home.without_progress member)
    refine ⟨_, (homes _).mpr ⟨home, home_mem, rfl⟩, same_id.trans here, ?_⟩
    rw [same_unrun]
    refine waits.imp_left fun listed => Home.mem_without_hooks.mpr ⟨listed, fun _ same => ?_⟩
    exact different (congrArg Member.id (identified.eq_of_hook other_mem mem same))

/-- A closed client is let go. -/
theorem Hooked.departClosed (hooked : clientele.Hooked) (identified : clientele.Identified)
    (mem : member ∈ clientele.members) (closed : member.client.closed = true)
    (gone : life.gone = true) : (clientele.updateMember member.id life).Hooked := by
  refine hooked.of_same_homes rfl fun later unparted => ?_
  rw [mem_updateMember identified mem]
  constructor
  · rintro (rfl | ⟨other_mem, _⟩)
    · rw [Member.parted, gone, Bool.or_true] at unparted
      cases unparted
    · exact other_mem
  · intro later_mem
    refine Or.inr ⟨later_mem, fun same => ?_⟩
    rw [identified.eq_of_id later_mem mem same, Member.parted, closed, Bool.true_or] at unparted
    cases unparted

theorem Hooked.enter (hooked : clientele.Hooked) (identified : clientele.Identified)
    {client : Client} (opened : client.closed = false) {context : Option Nat}
    (found : ∀ id, context = some id → ∃ home ∈ clientele.homes, home.id = id) :
    (clientele.enter client context).Hooked := by
  let entered : Member :=
    { id := clientele.next, client, context, hook := clientele.next + 1 }
  have unparted : entered.parted = false := by rw [Member.parted, opened, Bool.false_or]
  have homes : ∀ later, later ∈ (clientele.enter client context).homes ↔
      ∃ home ∈ clientele.homes, home.joinedBy entered = later := fun later => List.mem_map
  constructor
  case registered =>
    intro later later_mem hook listed other closes
    obtain ⟨home, home_mem, rfl⟩ := (homes later).mp later_mem
    rw [(Home.of_progress (home.joinedBy_progress entered)).1]
    rcases Home.mem_joinedBy_hooks.mp listed with before | ⟨is_context, rfl⟩
    · obtain ⟨member, mem, rest⟩ := hooked.registered home home_mem hook before other closes
      exact ⟨member, List.mem_append_left _ mem, rest⟩
    · exact ⟨entered, List.mem_append_right _ List.mem_cons_self, unparted, is_context, rfl⟩
  case once =>
    intro later later_mem
    obtain ⟨home, home_mem, rfl⟩ := (homes later).mp later_mem
    rw [Home.joinedBy_clients]
    refine List.nodup_append.mpr ⟨hooked.once home home_mem, by split <;> simp, ?_⟩
    intro listed listed_mem new new_mem same
    split at new_mem
    · obtain ⟨hook, hook_mem, closes⟩ := Home.mem_clients.mp listed_mem
      obtain ⟨member, mem, _, _, rfl⟩ := hooked.registered home home_mem hook hook_mem listed closes
      have old := identified.members.old member.id (List.mem_map_of_mem mem)
      have is_member : member.id = listed := Option.some.inj closes
      have is_new : new = clientele.next := List.mem_singleton.mp new_mem
      omega
    · cases new_mem
  case waiting =>
    intro later later_mem later_unparted id is_context
    rcases List.mem_append.mp later_mem with before | here
    · obtain ⟨home, home_mem, here, waits⟩ :=
        hooked.waiting later before later_unparted id is_context
      obtain ⟨same_id, _, _, same_unrun⟩ := Home.of_progress (home.joinedBy_progress entered)
      refine ⟨_, (homes _).mpr ⟨home, home_mem, rfl⟩, same_id.trans here, ?_⟩
      rw [same_unrun]
      exact waits.imp_left fun listed => Home.mem_joinedBy_hooks.mpr (Or.inl listed)
    · rw [List.mem_singleton.mp here] at is_context ⊢
      obtain ⟨home, home_mem, here⟩ := found id is_context
      obtain ⟨same_id, _⟩ := Home.of_progress (home.joinedBy_progress entered)
      refine ⟨_, (homes _).mpr ⟨home, home_mem, rfl⟩, same_id.trans here, Or.inl ?_⟩
      exact Home.mem_joinedBy_hooks.mpr (Or.inr ⟨here ▸ is_context, rfl⟩)

end Courier.Clientele
