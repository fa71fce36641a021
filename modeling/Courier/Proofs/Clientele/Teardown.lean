import Courier.Proofs.Clientele.Lifecycle
import Mathlib.Data.List.Induction

/-!
# Closed contexts

When the call that has closed a context returns, every client that was made on the context before
that call is closed or gone and has shut its pool down.  Other calls of the close return before, and
a client that is made after the hooks were taken stays open.
-/

namespace Courier.Clientele

variable {clientele after : Clientele} {member : Member} {home : Home} {context : Nat}
  {actions : List Action}

/-! ## The call that closes a context -/

theorem run_append (clientele : Clientele) (actions later : List Action) :
    clientele.run (actions ++ later) = (clientele.run actions).run later :=
  List.foldl_append

theorem HomesStay.closed (stay : HomesStay clientele after) {later : Home}
    (mem : later ∈ after.homes) (closed : later.context.closed = true) :
    ∃ home ∈ clientele.homes, home.id = later.id ∧ home.context.closed = true := by
  rcases stay.before later mem with ⟨opened, _⟩ | ⟨home, home_mem, stays⟩
  · rw [opened] at closed
    cases closed
  · exact ⟨home, home_mem, stays.id.symm, stays.closed.symm.trans closed⟩

theorem Sound.closed_before (sound : clientele.Sound []) (changes : Changes clientele after)
    {later : Home} (mem : later ∈ after.homes) (closed : later.context.closed = true) :
    ∃ home ∈ clientele.homes, home.id = later.id ∧ home.context.closed = true := by
  induction changes generalizing later with
  | refl => exact ⟨later, mem, rfl, closed⟩
  | tail before change induction =>
      obtain ⟨home, home_mem, same, home_closed⟩ :=
        (change.homesStay (sound.changes before).identified).closed mem closed
      obtain ⟨first, first_mem, first_same, first_closed⟩ := induction home_mem home_closed
      exact ⟨first, first_mem, first_same.trans same, first_closed⟩

/-- A context that is closed was closed before, or the action has closed it. -/
theorem Sound.perform_closed (sound : clientele.Sound []) {action : Action} {later : Home}
    (mem : later ∈ (clientele.perform action).1.homes) (closed : later.context.closed = true) :
    (∃ home ∈ clientele.homes, home.id = later.id ∧ home.context.closed = true) ∨
      action = .beginClose later.id ∧
        ∃ home ∈ clientele.homes, home.id = later.id ∧ home.context.closed = false := by
  obtain changes | ⟨home, home_mem, is_close, opened, same⟩ := sound.perform_cases action
  · exact Or.inl (sound.closed_before changes mem closed)
  · rw [same] at mem
    obtain ⟨other, other_mem, rfl⟩ := List.mem_map.mp mem
    split at closed
    · rename_i here
      rw [if_pos here]
      have same_id : home.id = other.id := (beq_iff_eq.mp here).symm
      exact Or.inr ⟨same_id ▸ is_close, home, home_mem, same_id, opened⟩
    · rename_i elsewhere
      rw [if_neg elsewhere]
      exact Or.inl ⟨other, other_mem, rfl, closed⟩

/-- A closed context was closed by one call. -/
theorem run_closed (actions : List Action) :
    ∀ home ∈ (({} : Clientele).run actions).homes, home.context.closed = true →
      ∃ before later, actions = before ++ .beginClose home.id :: later ∧
        ∃ dying ∈ (({} : Clientele).run before).homes,
          dying.id = home.id ∧ dying.context.closed = false := by
  induction actions using List.reverseRecOn with
  | nil => exact fun _ mem => nomatch mem
  | append_singleton actions action induction =>
      intro home mem closed
      have sound : (({} : Clientele).run actions).Sound [] := sound_empty.run actions
      rw [run_append] at mem
      rcases sound.perform_closed mem closed with ⟨old, old_mem, same, old_closed⟩ | ⟨rfl, opened⟩
      · obtain ⟨before, later, rfl, dying⟩ := induction old old_mem old_closed
        rw [same] at dying
        exact ⟨before, later ++ [action], by rw [same, List.append_assoc]; rfl, dying⟩
      · exact ⟨actions, [], rfl, opened⟩

/-! ## Clients whose context closes -/

/-- A client is closed or gone, or the close of its context is about to run its hook. -/
def Doomed (clientele : Clientele) (context : Nat) (member : Member) : Prop :=
  ∃ now ∈ clientele.members, member.Becomes now ∧ (now.parted = true ∨
    ∃ home ∈ clientele.homes, home.id = context ∧ home.context.closed = true ∧
      now.closeHook ∈ home.unrun)

theorem doomed_of_takeHooks (sound : clientele.Sound []) (mem : home ∈ clientele.homes)
    (opened : home.context.closed = false) (member_mem : member ∈ clientele.members)
    (is_context : member.context = some home.id) :
    (clientele.takeHooks home).Doomed home.id member := by
  refine ⟨member, member_mem, .refl member, ?_⟩
  cases parted : member.parted with
  | true => exact Or.inl rfl
  | false =>
      obtain ⟨other, other_mem, here, waits⟩ :=
        sound.hooked.waiting member member_mem parted home.id is_context
      rw [sound.identified.eq_of_home other_mem mem here,
        (sound.paced home mem).idle opened] at waits
      refine Or.inr ⟨_, List.mem_map_of_mem mem, ?_⟩
      rw [if_pos (beq_self_eq_true _)]
      exact ⟨rfl, rfl, waits.resolve_right List.not_mem_nil⟩

theorem Doomed.change (doomed : clientele.Doomed context member) (sound : clientele.Sound [])
    (change : clientele.Change after) : after.Doomed context member := by
  obtain ⟨now, now_mem, becomes, waits⟩ := doomed
  obtain ⟨next, next_mem, goes_on⟩ := (sound.later_of_change change).members now now_mem
  refine ⟨next, next_mem, becomes.trans goes_on, ?_⟩
  rcases waits with parted | ⟨home, home_mem, here, closed, waits⟩
  · exact Or.inl (goes_on.parted parted)
  · obtain ⟨later, later_mem, stays⟩ := (change.homesStay sound.identified).later home home_mem
    rcases stays.waits now.closeHook waits with still | spent
    · have same_hook : next.closeHook = now.closeHook := by
        rw [Member.closeHook, goes_on.id, goes_on.hook, Member.closeHook]
      exact Or.inr ⟨later, later_mem, stays.id.trans here, stays.closed.trans closed,
        same_hook ▸ still⟩
    · exact Or.inl (goes_on.parted (spent now.id rfl now now_mem rfl))

theorem Doomed.takeHooks (doomed : clientele.Doomed context member)
    (identified : clientele.Identified) (mem : home ∈ clientele.homes)
    (opened : home.context.closed = false) :
    (clientele.takeHooks home).Doomed context member := by
  obtain ⟨now, now_mem, becomes, waits⟩ := doomed
  refine ⟨now, now_mem, becomes, waits.imp_right fun waiting => ?_⟩
  obtain ⟨other, other_mem, here, closed, waits⟩ := waiting
  refine ⟨_, List.mem_map_of_mem other_mem, ?_⟩
  have elsewhere : ¬(other.id == home.id) = true := by
    intro same
    rw [identified.eq_of_home other_mem mem (beq_iff_eq.mp same), opened] at closed
    cases closed
  rw [if_neg elsewhere]
  exact ⟨here, closed, waits⟩

theorem Doomed.perform (doomed : clientele.Doomed context member) (sound : clientele.Sound [])
    (action : Action) : (clientele.perform action).1.Doomed context member := by
  obtain changes | ⟨home, mem, _, opened, same⟩ := sound.perform_cases action
  · generalize (clientele.perform action).1 = after at changes
    induction changes with
    | refl => exact doomed
    | tail before change induction => exact induction.change (sound.changes before) change
  · rw [same]
    exact doomed.takeHooks sound.identified mem opened

theorem Doomed.run (doomed : clientele.Doomed context member) (sound : clientele.Sound [])
    (actions : List Action) : (clientele.run actions).Doomed context member := by
  induction actions generalizing clientele with
  | nil => exact doomed
  | cons action rest induction =>
      exact induction (doomed.perform sound action) (sound.perform action)

/-- Once the call that has closed its context returns, a client is closed or gone. -/
theorem Doomed.parted (doomed : clientele.Doomed context member) (sound : clientele.Sound [])
    (mem : home ∈ clientele.homes) (here : home.id = context)
    (stopping : home.context.stopping = true) :
    ∃ now ∈ clientele.members, member.Becomes now ∧ now.parted = true := by
  obtain ⟨now, now_mem, becomes, parted | ⟨other, other_mem, same, _, waits⟩⟩ := doomed
  · exact ⟨now, now_mem, becomes, parted⟩
  · rw [sound.identified.eq_of_home other_mem mem (same.trans here.symm),
      ((sound.paced home mem).ended stopping).2] at waits
    cases waits

/-! ## Every run -/

/-- Whenever the call that has closed a context has returned, every client that was made on the
context before that call is closed, or gone, and has shut its pool down once. -/
theorem run_teardown (actions : List Action) :
    let now := ({} : Clientele).run actions
    ∀ home ∈ now.homes, home.context.stopping = true →
      ∃ before later, actions = before ++ .beginClose home.id :: later ∧
        (∃ dying ∈ (({} : Clientele).run before).homes,
          dying.id = home.id ∧ dying.context.closed = false) ∧
        ∀ member ∈ (({} : Clientele).run before).members, member.context = some home.id →
          (∃ last ∈ now.members, last.id = member.id ∧
            (last.client.closed = true ∨ last.gone = true)) ∧ now.shutdowns member.id = 1 := by
  intro now home mem stopping
  have sound_now : now.Sound [] := sound_empty.run actions
  obtain ⟨before, later, rfl, dying, dying_mem, same, opened⟩ :=
    run_closed actions home mem ((sound_now.paced home mem).ended stopping).1
  refine ⟨before, later, rfl, ⟨dying, dying_mem, same, opened⟩, fun member member_mem made => ?_⟩
  have sound : (({} : Clientele).run before).Sound [] := sound_empty.run before
  have took : ((({} : Clientele).run before).perform (.beginClose home.id)).1 =
      (({} : Clientele).run before).takeHooks dying := by
    have found : (({} : Clientele).run before).home? home.id = some dying :=
      same ▸ Identity.find_of_mem sound.identified.homes.distinct dying_mem
    rw [perform, withHome, found]
    exact beginClose_of_open opened
  have doomed := doomed_of_takeHooks sound dying_mem opened member_mem (same.symm ▸ made)
  rw [same, ← took] at doomed
  have doomed_now : now.Doomed home.id member := by
    rw [show now = _ from run_append _ _ _]
    exact doomed.run (sound.perform _) later
  obtain ⟨last, last_mem, becomes, parted⟩ := doomed_now.parted sound_now mem rfl stopping
  refine ⟨⟨last, last_mem, becomes.id, (Bool.or_eq_true _ _).mp parted⟩, ?_⟩
  rw [← becomes.id, sound_now.accounted.shutdowns last last_mem, parted]
  rfl

/-- A context with one client and its hook, closed by a call that has returned. -/
theorem closed_context_parts_client :
    let now := ({} : Clientele).run
      [.startContext .eventLoop, .make {} (some 0), .beginClose 0, .runHook 0, .endClose 0]
    let home : Home :=
      { id := 0, context := { kind := .eventLoop, closed := true, stopping := true } }
    home ∈ now.homes ∧ home.context.stopping = true ∧ now.shutdowns 1 = 1 := by
  intro now home
  have mem : home ∈ now.homes := .head _
  obtain ⟨before, later, split, _, parted⟩ := run_teardown
    [.startContext .eventLoop, .make {} (some 0), .beginClose 0, .runHook 0, .endClose 0]
    home mem rfl
  have made : (⟨⟨{ config := {} }, some 0, 2, false⟩, 1⟩ : Member) ∈
      (({} : Clientele).run before).members := by
    rcases before with _ | ⟨first, _ | ⟨second, _ | ⟨third, _ | ⟨fourth, _ | ⟨fifth, rest⟩⟩⟩⟩⟩
    · cases split
    · cases split
    · cases split
      exact .head _
    · cases split
    · cases split
    · simp at split
  exact ⟨mem, rfl, (parted _ made rfl).2⟩

/-- A call of the close from a hook returns while a client waits for its own hook; and a client that
a hook makes stays open when the call that runs the hooks returns. -/
theorem returned_close_leaves_open :
    (¬∀ (actions : List Action) (context : Nat),
      let now := ({} : Clientele).run actions
      .returned context ∈ now.history → ∀ member ∈ now.members, member.context = some context →
        (member.client.closed = true ∨ member.gone = true) ∧ now.shutdowns member.id = 1) ∧
    ¬∀ (actions : List Action), ∀ home ∈ (({} : Clientele).run actions).homes,
      let now := ({} : Clientele).run actions
      home.context.stopping = true → ∀ member ∈ now.members, member.context = some home.id →
        (member.client.closed = true ∨ member.gone = true) ∧ now.shutdowns member.id = 1 := by
  constructor
  · intro claim
    have parted := claim
      [.startContext .eventLoop, .addHook 0, .make {} (some 0), .beginClose 0, .beginClose 0] 0
      (.head _) ⟨⟨{ config := {} }, some 0, 3, false⟩, 2⟩ (.head _) rfl
    rcases parted.1 with closed | gone
    · cases closed
    · cases gone
  · intro claim
    have parted := claim
      [.startContext .eventLoop, .addHook 0, .beginClose 0, .make {} (some 0), .runHook 0,
        .endClose 0]
      { id := 0, context := { kind := .eventLoop, closed := true, stopping := true
                              hooks := [⟨3, .ofClient 2⟩] } } (.head _) rfl
      ⟨⟨{ config := {} }, some 0, 3, false⟩, 2⟩ (.head _) rfl
    rcases parted.1 with closed | gone
    · cases closed
    · cases gone

end Courier.Clientele
