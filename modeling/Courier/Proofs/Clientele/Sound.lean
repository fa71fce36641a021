import Courier.Proofs.Clientele.Accounts
import Courier.Proofs.Clientele.Actions
import Courier.Proofs.Clientele.Closes
import Courier.Proofs.Clientele.Hooks

/-!
# Clients in every reachable state

What refers to clients, what has happened to them and where their close hooks are is in step after
every action.
-/

namespace Courier.Clientele

variable {clientele after : Clientele} {member : Member} {holder : Holder} {home : Home}
  {item : Item} {client id : Nat} {life : ClientLife} {loose : List Nat}

/-! ## Identities -/

theorem Identified.of_same (identified : clientele.Identified)
    (members : after.members.map (·.id) = clientele.members.map (·.id))
    (hooks : after.members.map (·.hook) = clientele.members.map (·.hook))
    (homes : after.homes.map (·.id) = clientele.homes.map (·.id))
    (holders : (after.holders.map (·.id)).Sublist (clientele.holders.map (·.id)))
    (next : clientele.next ≤ after.next) : after.Identified where
  members := members ▸ identified.members.mono next
  hooks := hooks ▸ identified.hooks.mono next
  homes := homes ▸ identified.homes.mono next
  holders := identified.holders.sublist holders next

theorem Identified.updateHome (identified : clientele.Identified) {change : Home → Home}
    (same : ∀ home, (change home).id = home.id) : (clientele.updateHome id change).Identified := by
  refine identified.of_same rfl rfl ?_ (List.Sublist.refl _) (Nat.le_refl _)
  rw [Clientele.updateHome, List.map_map]
  refine List.map_congr_left fun home _ => ?_
  rw [Function.comp_apply]
  split
  · exact same home
  · rfl

theorem ids_of_progress (same : after.homes.map Home.progress = clientele.homes.map Home.progress) :
    after.homes.map (·.id) = clientele.homes.map (·.id) := by
  have ids := congrArg (List.map Prod.fst) same
  rwa [List.map_map, List.map_map] at ids

/-- A client changes, and contexts at most in their hooks. -/
theorem Identified.updateMember (identified : clientele.Identified)
    (mem : member ∈ clientele.members)
    (members : after.members = (clientele.updateMember member.id life).members)
    (hook : life.hook = member.hook)
    (homes : after.homes.map Home.progress = clientele.homes.map Home.progress)
    (holders : after.holders = clientele.holders) (next : after.next = clientele.next) :
    after.Identified := by
  refine identified.of_same ?_ ?_ (ids_of_progress homes) (holders ▸ List.Sublist.refl _)
    (Nat.le_of_eq next.symm)
  all_goals
    rw [members, Clientele.updateMember, List.map_map]
    refine List.map_congr_left fun other other_mem => ?_
    rw [Function.comp_apply]
    split
  · rfl
  · rfl
  · rename_i same
    rw [identified.eq_of_id other_mem mem (beq_iff_eq.mp same)]
    exact hook
  · rfl

theorem Identified.start (identified : clientele.Identified) (kind : ContextKind) :
    (clientele.start kind).Identified where
  members := identified.members.mono (Nat.le_succ _)
  hooks := identified.hooks.mono (Nat.le_succ _)
  homes := by
    rw [Clientele.start, List.map_append]
    exact identified.homes.append (Nat.le_refl _) (Nat.lt_succ_self _)
  holders := identified.holders.mono (Nat.le_succ _)

theorem Identified.hold (identified : clientele.Identified) (client : Nat) (item : Item) :
    (clientele.hold client item).Identified where
  members := identified.members.mono (Nat.le_succ _)
  hooks := identified.hooks.mono (Nat.le_succ _)
  homes := identified.homes.mono (Nat.le_succ _)
  holders := by
    rw [Clientele.hold, List.map_append]
    exact identified.holders.append (Nat.le_refl _) (Nat.lt_succ_self _)

theorem Identified.enter (identified : clientele.Identified) (client : Client)
    (context : Option Nat) : (clientele.enter client context).Identified where
  members := by
    rw [Clientele.enter, List.map_append]
    exact identified.members.append (Nat.le_refl _) (Nat.lt_add_of_pos_right (Nat.zero_lt_succ 2))
  hooks := by
    rw [Clientele.enter, List.map_append]
    exact identified.hooks.append (Nat.le_add_right _ 1) (Nat.lt_succ_of_lt (Nat.lt_succ_self _))
  homes := by
    have homes : (clientele.enter client context).homes.map (·.id) =
        clientele.homes.map (·.id) :=
      ids_of_progress (map_progress _ fun home => home.joinedBy_progress _)
    rw [homes]
    exact identified.homes.mono (Nat.le_add_right _ 3)
  holders := by
    rw [Clientele.enter, List.map_append]
    exact identified.holders.append (Nat.le_add_right _ 2) (Nat.lt_succ_self _)

/-! ## The invariant -/

/-- Everything is in step, but for clients that are about to be let go. -/
structure Sound (clientele : Clientele) (loose : List Nat) : Prop where
  identified : clientele.Identified
  referred : clientele.Referred loose
  accounted : clientele.Accounted
  hooked : clientele.Hooked
  paced : ∀ home ∈ clientele.homes, home.Paced

theorem sound_empty : ({} : Clientele).Sound [] where
  identified := by
    refine ⟨?_, ?_, ?_, ?_⟩
    all_goals exact ⟨List.nodup_nil, fun _ mem => nomatch mem⟩
  referred := ⟨fun _ mem => (nomatch mem), fun _ mem => nomatch mem⟩
  accounted := ⟨fun _ mem => (nomatch mem), fun _ mem => (nomatch mem),
    fun _ mem => (nomatch mem), fun _ _ mem => nomatch mem⟩
  hooked := ⟨fun _ mem => (nomatch mem), fun _ mem => (nomatch mem), fun _ mem => nomatch mem⟩
  paced _ mem := nomatch mem

/-- Letting a client go parts it, unless it was closed before. -/
theorem letGo_cases (clientele : Clientele) (member : Member) :
    (member.client.closed = false ∧ clientele.letGo member =
      clientele.part member member.afterDeparture) ∨
    (member.client.closed = true ∧ clientele.letGo member =
      clientele.updateMember member.id member.afterDeparture) := by
  rw [letGo, ClientLife.depart]
  cases member.client.closed with
  | false => exact Or.inl ⟨rfl, rfl⟩
  | true => exact Or.inr ⟨rfl, rfl⟩

theorem Sound.letGo (sound : clientele.Sound (member.id :: loose))
    (departs : clientele.Departs member) : (clientele.letGo member).Sound loose := by
  obtain ⟨identified, referred, accounted, hooked, paced⟩ := sound
  obtain ⟨opened, same⟩ | ⟨closed, same⟩ := clientele.letGo_cases member
  · rw [same]
    constructor
    case identified =>
      exact identified.updateMember departs.mem rfl rfl (part_progress _ _ _) rfl rfl
    case referred =>
      exact referred.depart identified departs rfl rfl
    case accounted => exact accounted.depart identified departs opened
    case hooked => exact hooked.part identified departs.mem (by simp [Member.afterDeparture])
    case paced => exact (HomesStay.of_progress (part_progress _ _ _)).paced paced
  · rw [same]
    constructor
    case identified => exact identified.updateMember departs.mem rfl rfl rfl rfl rfl
    case referred => exact referred.depart identified departs rfl rfl
    case accounted => exact accounted.departClosed identified departs.mem closed
    case hooked => exact hooked.departClosed identified departs.mem closed rfl
    case paced => exact paced

theorem Sound.reap (sound : clientele.Sound (client :: loose)) :
    (clientele.reap client).Sound loose := by
  obtain ⟨same, stays⟩ | ⟨member, departs, rfl, same⟩ := reap_cases sound.identified client
  · rw [same]
    exact ⟨sound.identified, sound.referred.stay stays, sound.accounted, sound.hooked, sound.paced⟩
  · rw [same]
    exact sound.letGo departs

theorem Sound.foldl_reap {clients : List Nat} (sound : clientele.Sound clients) :
    (clients.foldl Clientele.reap clientele).Sound [] := by
  induction clients generalizing clientele with
  | nil => exact sound
  | cons client rest induction =>
      exact induction sound.reap

/-- Holders change. -/
theorem Sound.rehold (sound : clientele.Sound []) {holders : List Holder}
    (ids : (holders.map (·.id)).Sublist (clientele.holders.map (·.id)))
    (referred : ({ clientele with holders } : Clientele).Referred loose) :
    ({ clientele with holders } : Clientele).Sound loose where
  identified := sound.identified.of_same rfl rfl rfl ids (Nat.le_refl _)
  referred := referred
  accounted := sound.accounted.of_same rfl rfl (Nat.le_refl _)
  hooked := sound.hooked.of_same_homes rfl fun _ _ => Iff.rfl
  paced := sound.paced

theorem Sound.dropped (sound : clientele.Sound []) (mem : holder ∈ clientele.holders) :
    ({ clientele with
      holders := clientele.holders.filter (·.id != holder.id) } : Clientele).Sound holder.kept := by
  refine sound.rehold ((List.filter_sublist).map _) ?_
  refine sound.referred.rehold rfl (fun client => ?_) fun client => ?_
  all_goals
    rw [isReferenced_iff, isReferenced_iff]
    rintro ⟨other, other_mem, kept⟩
  · exact ⟨other, (List.mem_filter.mp other_mem).1, kept⟩
  · by_cases same : other.id = holder.id
    · rw [sound.identified.eq_of_holder other_mem mem same] at kept
      exact Or.inr kept
    · exact Or.inl ⟨other, List.mem_filter.mpr ⟨other_mem, by simpa using same⟩, kept⟩

theorem Sound.remade (sound : clientele.Sound []) (mem : holder ∈ clientele.holders)
    (referenced : ∀ client ∈ item.clients, clientele.isReferenced client = true) :
    ({ clientele with
      holders := clientele.holders.map fun other =>
        if other.id == holder.id then { other with item } else other } : Clientele).Sound
      holder.kept := by
  refine sound.rehold ?_ ?_
  · rw [List.map_map]
    refine (List.map_congr_left fun other _ => ?_) ▸ List.Sublist.refl _
    rw [Function.comp_apply]
    split <;> rfl
  · refine sound.referred.rehold rfl (fun client => ?_) fun client => ?_
    all_goals rw [isReferenced_iff]
    · rintro ⟨later, later_mem, kept⟩
      obtain ⟨other, other_mem, rfl⟩ := List.mem_map.mp later_mem
      split at kept
      · rcases List.mem_cons.mp kept with rfl | listed
        · exact isReferenced_iff.mpr ⟨other, other_mem, List.mem_cons_self⟩
        · exact referenced client listed
      · exact isReferenced_iff.mpr ⟨other, other_mem, kept⟩
    · rintro ⟨other, other_mem, kept⟩
      by_cases same : other.id = holder.id
      · rw [sound.identified.eq_of_holder other_mem mem same] at kept
        exact Or.inr kept
      · refine Or.inl (isReferenced_iff.mpr ⟨_, List.mem_map_of_mem other_mem, ?_⟩)
        rw [if_neg (by simpa using same)]
        exact kept

/-- Only contexts change. -/
theorem Sound.updateHome (sound : clientele.Sound []) {change : Home → Home}
    (same : ∀ home, (change home).id = home.id) (hooked : (clientele.updateHome id change).Hooked)
    (paced : ∀ home ∈ (clientele.updateHome id change).homes, home.Paced) :
    (clientele.updateHome id change).Sound [] where
  identified := sound.identified.updateHome same
  referred := sound.referred.of_same_members rfl rfl
  accounted := sound.accounted.of_same rfl rfl (Nat.le_refl _)
  hooked := hooked
  paced := paced

theorem Sound.close (sound : clientele.Sound []) (mem : member ∈ clientele.members)
    (present : member.gone = false) (opened : member.client.closed = false) :
    ((clientele.part member member.afterClose).note (.closed member.id (.ok ()))).Sound [] where
  identified := sound.identified.updateMember mem rfl rfl (part_progress _ _ _) rfl rfl
  referred := by
    refine sound.referred.of_members rfl fun later later_mem => ?_
    rcases (mem_updateMember sound.identified mem).mp later_mem with rfl | ⟨other_mem, _⟩
    · exact ⟨member, mem, rfl, rfl⟩
    · exact ⟨later, other_mem, rfl, rfl⟩
  accounted := sound.accounted.close sound.identified mem present opened
  hooked := by
    have parted : (clientele.part member member.afterClose).Hooked :=
      sound.hooked.part sound.identified mem (by simp [Member.afterClose])
    exact parted.of_same_homes rfl fun _ _ => Iff.rfl
  paced := (HomesStay.of_progress (part_progress _ _ _)).paced sound.paced

theorem Sound.change (sound : clientele.Sound []) (change : clientele.Change after) :
    after.Sound [] := by
  have paced := (change.homesStay sound.identified).paced sound.paced
  have identified := sound.identified
  cases change with
  | start kind =>
      exact ⟨identified.start kind, sound.referred.of_same_members rfl rfl,
        sound.accounted.of_same rfl rfl (Nat.le_succ _), sound.hooked.start kind, paced⟩
  | addHook context =>
      have updated : (clientele.updateHome context fun home =>
          { home with context := home.context.addHook clientele.next .other }).Identified :=
        identified.updateHome fun _ => rfl
      exact ⟨updated.of_same rfl rfl rfl (List.Sublist.refl _) (Nat.le_succ _),
        sound.referred.of_same_members rfl rfl, sound.accounted.of_same rfl rfl (Nat.le_succ _),
        sound.hooked.addHook context, paced⟩
  | removeHook context hook =>
      refine sound.updateHome (fun home => ?_) (sound.hooked.removeHook context hook) paced
      split <;> rfl
  | popHook mem unrun spent =>
      exact sound.updateHome (fun _ => rfl) (sound.hooked.popHook identified mem unrun spent) paced
  | endClose mem closed unrun =>
      exact sound.updateHome (fun _ => rfl) (sound.hooked.endClose _) paced
  | enter opened found =>
      exact ⟨identified.enter _ _, sound.referred.enter identified _ _,
        sound.accounted.enter opened _, sound.hooked.enter identified opened found, paced⟩
  | close mem present opened => exact sound.close mem present opened
  | note harmless =>
      exact ⟨identified.of_same rfl rfl rfl (List.Sublist.refl _) (Nat.le_refl _),
        sound.referred.of_same_members rfl rfl, sound.accounted.note identified harmless,
        sound.hooked.of_same_homes rfl fun _ _ => Iff.rfl, paced⟩
  | hold referenced clients =>
      exact ⟨identified.hold _ _, sound.referred.hold referenced clients,
        sound.accounted.of_same rfl rfl (Nat.le_succ _),
        sound.hooked.of_same_homes rfl fun _ _ => Iff.rfl, paced⟩
  | release mem => exact (sound.dropped mem).foldl_reap
  | replace mem referenced => exact (sound.remade mem referenced).foldl_reap

theorem Sound.takeHooks (sound : clientele.Sound []) (mem : home ∈ clientele.homes)
    (opened : home.context.closed = false) : (clientele.takeHooks home).Sound [] :=
  sound.updateHome (fun _ => rfl)
    (sound.hooked.takeHooks sound.identified mem ((sound.paced home mem).idle opened))
    (takeHooks_paced sound.paced opened mem)

theorem Sound.changes (sound : clientele.Sound []) (changes : Changes clientele after) :
    after.Sound [] := by
  induction changes with
  | refl => exact sound
  | tail _ change induction => exact induction.change change

/-- An action either takes the close hooks of a context or makes changes. -/
theorem Sound.perform_cases (sound : clientele.Sound []) (action : Action) :
    Changes clientele (clientele.perform action).1 ∨
      ∃ home ∈ clientele.homes, action = .beginClose home.id ∧ home.context.closed = false ∧
        (clientele.perform action).1 = clientele.takeHooks home :=
  Clientele.perform_cases sound.identified sound.referred.unreferenced action

theorem Sound.perform (sound : clientele.Sound []) (action : Action) :
    (clientele.perform action).1.Sound [] := by
  obtain changes | ⟨home, mem, _, opened, same⟩ := sound.perform_cases action
  · exact sound.changes changes
  · rw [same]
    exact sound.takeHooks mem opened

theorem Sound.run (sound : clientele.Sound []) (actions : List Action) :
    (clientele.run actions).Sound [] := by
  induction actions generalizing clientele with
  | nil => exact sound
  | cons action rest induction => exact induction (sound.perform action)

end Courier.Clientele
