import Courier.Clientele
import Courier.Proofs.Identity
import Mathlib.Logic.Relation

/-!
# Changes of clients

Clients, what refers to them and their contexts go through few changes; besides, the call that
closes a context takes its close hooks.  What holds of them is proved change by change.
-/

namespace Courier.Clientele

variable {clientele after : Clientele} {member : Member} {holder : Holder} {home : Home}
  {item : Item} {client id : Nat} {life : ClientLife}

/-! ## Identities -/

/-- Identities that were issued once each, all of them before the next one. -/
structure Issued (next : Nat) (ids : List Nat) : Prop where
  distinct : ids.Nodup
  old : ∀ id ∈ ids, id < next

theorem Issued.sublist {next later : Nat} {ids fewer : List Nat} (issued : Issued next ids)
    (sublist : fewer.Sublist ids) (le : next ≤ later) : Issued later fewer :=
  ⟨issued.distinct.sublist sublist, fun id mem =>
    Nat.lt_of_lt_of_le (issued.old id (sublist.subset mem)) le⟩

theorem Issued.mono {next later : Nat} {ids : List Nat} (issued : Issued next ids)
    (le : next ≤ later) : Issued later ids :=
  issued.sublist (List.Sublist.refl _) le

theorem Issued.append {next later : Nat} {ids : List Nat} (issued : Issued next ids)
    (new : next ≤ id) (lt : id < later) : Issued later (ids ++ [id]) := by
  refine ⟨List.nodup_append.mpr ⟨issued.distinct, by simp, ?_⟩, ?_⟩
  · intro other other_mem same same_mem
    rw [List.mem_singleton.mp same_mem]
    exact Nat.ne_of_lt (Nat.lt_of_lt_of_le (issued.old other other_mem) new)
  · intro other other_mem
    rcases List.mem_append.mp other_mem with before | here
    · have := issued.old other before
      omega
    · rwa [List.mem_singleton.mp here]

/-- Clients, their hooks, contexts and holders have identities of their own. -/
structure Identified (clientele : Clientele) : Prop where
  members : Issued clientele.next (clientele.members.map (·.id))
  hooks : Issued clientele.next (clientele.members.map (·.hook))
  homes : Issued clientele.next (clientele.homes.map (·.id))
  holders : Issued clientele.next (clientele.holders.map (·.id))

theorem Identified.eq_of_id (identified : clientele.Identified) {other : Member}
    (mem : member ∈ clientele.members) (other_mem : other ∈ clientele.members)
    (same : member.id = other.id) : member = other :=
  Identity.eq_of_identity identified.members.distinct mem other_mem same

theorem Identified.eq_of_hook (identified : clientele.Identified) {other : Member}
    (mem : member ∈ clientele.members) (other_mem : other ∈ clientele.members)
    (same : member.hook = other.hook) : member = other :=
  Identity.eq_of_identity identified.hooks.distinct mem other_mem same

theorem Identified.eq_of_home (identified : clientele.Identified) {other : Home}
    (mem : home ∈ clientele.homes) (other_mem : other ∈ clientele.homes)
    (same : home.id = other.id) : home = other :=
  Identity.eq_of_identity identified.homes.distinct mem other_mem same

theorem Identified.eq_of_holder (identified : clientele.Identified) {other : Holder}
    (mem : holder ∈ clientele.holders) (other_mem : other ∈ clientele.holders)
    (same : holder.id = other.id) : holder = other :=
  Identity.eq_of_identity identified.holders.distinct mem other_mem same

/-- Changing one client leaves the others as they are. -/
theorem mem_updateMember (identified : clientele.Identified) (mem : member ∈ clientele.members)
    {later : Member} :
    later ∈ (clientele.updateMember member.id life).members ↔
      later = { member with toClientLife := life } ∨
        later ∈ clientele.members ∧ later.id ≠ member.id := by
  rw [updateMember, List.mem_map]
  constructor
  · rintro ⟨other, other_mem, rfl⟩
    split
    · rename_i same
      rw [identified.eq_of_id other_mem mem (beq_iff_eq.mp same)]
      exact Or.inl rfl
    · rename_i different
      exact Or.inr ⟨other_mem, fun same => different (beq_iff_eq.mpr same)⟩
  · rintro (rfl | ⟨later_mem, different⟩)
    · exact ⟨member, mem, if_pos (beq_self_eq_true _)⟩
    · exact ⟨later, later_mem, if_neg (by simpa using different)⟩

/-- What refers to a client. -/
theorem isReferenced_iff :
    clientele.isReferenced client = true ↔ ∃ holder ∈ clientele.holders, client ∈ holder.kept := by
  simp [isReferenced]

theorem referenced_of_mem (mem : holder ∈ clientele.holders) :
    clientele.isReferenced holder.client = true :=
  isReferenced_iff.mpr ⟨holder, mem, List.mem_cons_self⟩

/-- The client that can be called through a holder is referred to by it. -/
theorem mem_of_caller? (called : clientele.caller? id = some member) :
    member ∈ clientele.members ∧ clientele.isReferenced member.id = true := by
  rw [caller?, Option.bind_eq_some_iff] at called
  obtain ⟨holder, found, called⟩ := called
  have referenced := referenced_of_mem (Identity.mem_of_find found).1
  have of_member : ∀ found : clientele.member? holder.client = some member,
      member ∈ clientele.members ∧ clientele.isReferenced member.id = true := by
    intro found
    obtain ⟨mem, same⟩ := Identity.mem_of_find found
    exact ⟨mem, same ▸ referenced⟩
  split at called
  · exact of_member called
  · exact of_member called
  · cases called

/-! ## Letting go -/

/-- A client that is let go was there, and nothing refers to it. -/
structure Departs (clientele : Clientele) (member : Member) : Prop where
  mem : member ∈ clientele.members
  present : member.gone = false
  unreferenced : clientele.isReferenced member.id = false

/-- A client that cannot be let go stays as it is. -/
theorem reap_cases (identified : clientele.Identified) (client : Nat) :
    (clientele.reap client = clientele ∧ ∀ member ∈ clientele.members, member.id = client →
      member.gone = true ∨ clientele.isReferenced client = true) ∨
    ∃ member, clientele.Departs member ∧ member.id = client ∧
      clientele.reap client = clientele.letGo member := by
  rw [reap]
  cases found : clientele.member? client with
  | none =>
      refine Or.inl ⟨rfl, fun member mem same => ?_⟩
      exact absurd same (by simpa using List.find?_eq_none.mp found member mem)
  | some member =>
      obtain ⟨mem, same⟩ := Identity.mem_of_find found
      by_cases stays : (member.gone || clientele.isReferenced client) = true
      · refine Or.inl ⟨if_pos stays, fun other other_mem other_same => ?_⟩
        rw [identified.eq_of_id other_mem mem (other_same.trans same.symm)]
        exact (Bool.or_eq_true _ _).mp stays
      · rw [Bool.not_eq_true, Bool.or_eq_false_iff] at stays
        exact Or.inr ⟨member, ⟨mem, stays.1, same ▸ stays.2⟩, same,
          if_neg (by simp [stays.1, stays.2])⟩

/-- Letting clients go leaves alone what letting one go leaves alone. -/
theorem foldl_reap_same {α : Type} (view : Clientele → α)
    (same : ∀ (clientele : Clientele) (member : Member),
      view (clientele.letGo member) = view clientele)
    (clientele : Clientele) (clients : List Nat) :
    view (clients.foldl reap clientele) = view clientele := by
  induction clients generalizing clientele with
  | nil => rfl
  | cons client rest induction =>
      refine (induction _).trans ?_
      rw [reap]
      split
      · rfl
      · split
        · rfl
        · exact same _ _

theorem letGo_holders (clientele : Clientele) (member : Member) :
    (clientele.letGo member).holders = clientele.holders := by
  rw [letGo]
  split <;> rfl

theorem mem_release_holders (clientele : Clientele) (holder : Holder) {other : Holder} :
    other ∈ (clientele.release holder).holders ↔
      other ∈ clientele.holders ∧ other.id ≠ holder.id := by
  rw [release, foldl_reap_same (·.holders) letGo_holders, List.mem_filter]
  simp

theorem replace_holders (clientele : Clientele) (holder : Holder) (item : Item) :
    (clientele.replace holder item).holders = clientele.holders.map fun other =>
      if other.id == holder.id then { other with item } else other :=
  foldl_reap_same (·.holders) letGo_holders _ _

/-! ## How far closes have come -/

/-- A context by its identity, and how far its close has come. -/
def Home.progress (home : Home) : Nat × Bool × Bool × List (CloseHook Hook) :=
  (home.id, home.context.closed, home.context.stopping, home.unrun)

theorem Home.of_progress {later : Home} (same : later.progress = home.progress) :
    later.id = home.id ∧ later.context.closed = home.context.closed ∧
      later.context.stopping = home.context.stopping ∧ later.unrun = home.unrun := by
  simpa [progress] using same

theorem Home.joinedBy_progress (home : Home) (member : Member) :
    (home.joinedBy member).progress = home.progress := by
  rw [joinedBy]
  split <;> rfl

theorem Home.without_progress (home : Home) (member : Member) :
    (home.without member).progress = home.progress := by
  rw [without]
  split <;> rfl

/-- A change of contexts that leaves their progress alone. -/
theorem map_progress (homes : List Home) {change : Home → Home}
    (same : ∀ home, (change home).progress = home.progress) :
    (homes.map change).map Home.progress = homes.map Home.progress := by
  rw [List.map_map]
  exact List.map_congr_left fun home _ => same home

theorem updateHome_progress (clientele : Clientele) {id : Nat} {change : Home → Home}
    (same : ∀ home, (change home).progress = home.progress) :
    (clientele.updateHome id change).homes.map Home.progress =
      clientele.homes.map Home.progress := by
  refine map_progress _ fun home => ?_
  split
  · exact same home
  · rfl

theorem part_progress (clientele : Clientele) (member : Member) (life : ClientLife) :
    (clientele.part member life).homes.map Home.progress = clientele.homes.map Home.progress :=
  map_progress _ fun home => home.without_progress member

theorem letGo_progress (clientele : Clientele) (member : Member) :
    (clientele.letGo member).homes.map Home.progress = clientele.homes.map Home.progress := by
  rw [letGo]
  split
  · exact part_progress _ _ _
  · rfl

/-- A context whose progress is left alone is still there. -/
theorem exists_of_progress
    (same : after.homes.map Home.progress = clientele.homes.map Home.progress)
    (mem : home ∈ clientele.homes) : ∃ later ∈ after.homes, later.progress = home.progress :=
  List.mem_map.mp (same ▸ List.mem_map_of_mem mem)

/-! ## Changes -/

/-- The call that closes a context takes the close hooks. -/
def takeHooks (clientele : Clientele) (home : Home) : Clientele :=
  clientele.updateHome home.id fun other =>
    { other with
      context := { home.context with closed := true, hooks := [] }
      unrun := home.context.hooks }

/-- The life of a client that was closed. -/
def Member.afterClose (member : Member) : ClientLife :=
  { member.toClientLife with client := { member.client with closed := true } }

/-- The life of a client that was let go. -/
def Member.afterDeparture (member : Member) : ClientLife :=
  { member.toClientLife with gone := true }

/-- Whether a hook has nothing to close any more. -/
def Spent (clientele : Clientele) (hook : CloseHook Hook) : Prop :=
  ∀ client, hook.action.client? = some client →
    ∀ member ∈ clientele.members, member.id = client → member.parted = true

/-- An event that changes no client: a call of a context's close has returned, a closed client was
closed again, or an open one has asked its pool for a connection. -/
inductive Harmless (clientele : Clientele) : Event → Prop where
  | returned (context : Nat) : Harmless clientele (.returned context)
  | refused {member : Member} (mem : member ∈ clientele.members)
      (closed : member.client.closed = true) :
      Harmless clientele (.closed member.id (.error .clientClosed))
  | asked {member : Member} (mem : member ∈ clientele.members)
      (opened : member.client.closed = false) : Harmless clientele (.asked member.id)

/-- A change. -/
inductive Change (clientele : Clientele) : Clientele → Prop where
  | start (kind : ContextKind) : Change clientele (clientele.start kind)
  | addHook (context : Nat) : Change clientele (clientele.addHook context)
  | removeHook (context hook : Nat) : Change clientele (clientele.removeHook context hook)
  | popHook {home : Home} {hook : CloseHook Hook} {rest : List (CloseHook Hook)}
      (mem : home ∈ clientele.homes) (unrun : home.unrun = hook :: rest)
      (spent : clientele.Spent hook) :
      Change clientele (clientele.updateHome home.id fun home => { home with unrun := rest })
  | endClose {home : Home} (mem : home ∈ clientele.homes) (closed : home.context.closed = true)
      (unrun : home.unrun = []) :
      Change clientele (clientele.updateHome home.id fun home =>
        { home with context := home.context.endClose })
  | enter {client : Client} {context : Option Nat} (opened : client.closed = false)
      (found : ∀ id, context = some id → ∃ home ∈ clientele.homes, home.id = id) :
      Change clientele (clientele.enter client context)
  | close {member : Member} (mem : member ∈ clientele.members) (present : member.gone = false)
      (opened : member.client.closed = false) :
      Change clientele
        ((clientele.part member member.afterClose).note (.closed member.id (.ok ())))
  | note {event : Event} (harmless : clientele.Harmless event) :
      Change clientele (clientele.note event)
  | hold {client : Nat} {item : Item} (referenced : clientele.isReferenced client = true)
      (clients : item.clients = []) : Change clientele (clientele.hold client item)
  | release {holder : Holder} (mem : holder ∈ clientele.holders) :
      Change clientele (clientele.release holder)
  | replace {holder : Holder} {item : Item} (mem : holder ∈ clientele.holders)
      (referenced : ∀ client ∈ item.clients, clientele.isReferenced client = true) :
      Change clientele (clientele.replace holder item)

/-- Changes, one after the other. -/
abbrev Changes : Clientele → Clientele → Prop := Relation.ReflTransGen Change

theorem beginClose_of_open (opened : home.context.closed = false) :
    clientele.beginClose home = clientele.takeHooks home := by
  rw [beginClose, Context.beginClose, if_neg (by simp [opened])]
  rfl

theorem beginClose_of_closed (closed : home.context.closed = true) :
    clientele.beginClose home = clientele.note (.returned home.id) := by
  rw [beginClose, Context.beginClose, if_pos closed]

/-- The close of a client either succeeds and parts it, or is refused and changes nothing. -/
theorem closeMember_cases (clientele : Clientele) (member : Member) :
    (member.client.closed = false ∧ clientele.closeMember member =
      ((clientele.part member member.afterClose).note (.closed member.id (.ok ())), .ok ())) ∨
    (member.client.closed = true ∧ clientele.closeMember member =
      (clientele.note (.closed member.id (.error .clientClosed)), .error .clientClosed)) := by
  cases closed : member.client.closed with
  | false =>
      refine Or.inl ⟨rfl, ?_⟩
      rw [closeMember, ClientLife.close, if_neg (by simp [closed])]
      rfl
  | true =>
      refine Or.inr ⟨rfl, ?_⟩
      rw [closeMember, ClientLife.close, if_pos closed]

theorem ask_cases (clientele : Clientele) (member : Member) :
    (member.client.closed = false ∧
      clientele.ask member = (clientele.note (.asked member.id), .ok ())) ∨
    (member.client.closed = true ∧ clientele.ask member = (clientele, .error .clientClosed)) := by
  cases closed : member.client.closed with
  | false =>
      refine Or.inl ⟨rfl, ?_⟩
      rw [ask, ClientLife.checkOpen, if_neg (by simp [closed])]
  | true =>
      refine Or.inr ⟨rfl, ?_⟩
      rw [ask, ClientLife.checkOpen, if_pos closed]

end Courier.Clientele
