import Courier.Proofs.Delivery.Record
import Courier.Proofs.Handoff

/-!
# Sound deliveries

The record of a delivery is held against its state, whoever acts and in whatever order.
-/

namespace Courier

/-- Nothing waits at a context whose driver has stopped. -/
def Context.Idle {φ ψ η : Type} (context : Context φ ψ η) : Prop :=
  context.stopped = true → context.jobs = []

theorem Context.Idle.of_not_stopped {φ ψ η : Type} {context : Context φ ψ η}
    (not_stopped : context.stopped = false) (jobs : List (φ ⊕ ψ)) :
    { context with jobs }.Idle := by
  intro stopped
  cases not_stopped.symm.trans stopped

theorem Context.Idle.submit {φ ψ η : Type} {context : Context φ ψ η}
    (accepts : context.accepts = true) (jobs : List (φ ⊕ ψ)) : { context with jobs }.Idle := by
  have not_stopped := (Bool.and_eq_true_iff.mp accepts).2
  exact .of_not_stopped (by simpa using not_stopped) jobs

theorem Context.Idle.execute {φ ψ η : Type} {context : Context φ ψ η} (idle : context.Idle)
    (closure : φ) : (context.execute closure).1.Idle := by
  rw [Context.execute]
  split
  · rename_i accepts
    exact .submit accepts _
  · exact idle

theorem Context.Idle.spawn {φ ψ η : Type} {context : Context φ ψ η} (idle : context.Idle)
    (future : ψ) : (context.spawn future).1.Idle := by
  rw [Context.spawn]
  split
  · rename_i accepts
    exact .submit accepts _
  · exact idle

theorem Context.Idle.beginClose {φ ψ η : Type} {context : Context φ ψ η} (idle : context.Idle) :
    context.beginClose.1.Idle := by
  rw [Context.beginClose]
  split <;> exact idle

namespace Delivery

variable {κ ψ η : Type} {hasContext : Bool} {delivery : Delivery κ ψ η}

/-- How far a request has got, and what the record has of it. -/
inductive Stage (hasContext : Bool) (delivery : Delivery κ ψ η) : Prop where
  | unanswered (held : delivery.handoff.sender = .held) (nothing : delivery.handoff.arrived = none)
      (untold : delivery.finished = false) (waits : delivery.waits = false)
      (first : given delivery.history = [])
  | under_way (answer : Answer κ) (in_flight : delivery.handoff.sender = .inFlight answer)
      (nothing : delivery.handoff.arrived = none) (untold : delivery.finished = false)
      (waits : delivery.waits = true) (given : .given answer ∈ delivery.history)
  | arrived (answer : Answer κ) (gone : delivery.handoff.sender = .gone)
      (arrived : delivery.handoff.arrived = some answer) (untold : delivery.finished = false)
      (listening : delivery.handoff.listening = true)
      (published : .published hasContext answer ∈ delivery.history)
  | ended (gone : delivery.handoff.sender = .gone) (nothing : delivery.handoff.arrived = none)
      (reason : delivery.finished = true ∨ delivery.handoff.cancelled = true ∨
        Missed delivery.history)

/-- The record of a delivery shows whether its requester has given up, is justified, and accounts for
every connection but one that is still carried. -/
structure Consistent (hasContext : Bool) (carried : Option κ) (delivery : Delivery κ ψ η) :
    Prop where
  has_context : delivery.context.isSome = hasContext
  idle : ∀ context, delivery.context = some context → context.Idle
  cancelled_iff : delivery.handoff.cancelled = true ↔
    .cancelled ∈ delivery.history ∨ .forsaken ∈ delivery.history
  listening_iff : delivery.handoff.listening = true ↔ .forsaken ∉ delivery.history
  returned : ∀ answer, .returned answer ∈ delivery.history → delivery.handoff.cancelled = true
  justified : Justified hasContext delivery.history
  accounted : Accounted delivery.history carried

/-- A delivery is sound if its record is consistent with what it carries and where it has got. -/
structure Sound (hasContext : Bool) (delivery : Delivery κ ψ η) : Prop where
  consistent : delivery.Consistent hasContext delivery.handoff.connection?
  stage : delivery.Stage hasContext

theorem sound_start (kind : Option ContextKind) :
    Sound kind.isSome (start kind : Delivery κ ψ η) where
  consistent :=
    { has_context := by simp [start]
      idle := by
        intro context same
        obtain ⟨kind, _, rfl⟩ := Option.map_eq_some_iff.mp same
        exact nofun
      cancelled_iff := by simp [start]
      listening_iff := by simp [start]
      returned := nofun
      justified := justified_nil _
      accounted := accounted_nil }
  stage := .unanswered rfl rfl rfl (by cases kind <;> rfl) rfl

variable {carried : Option κ}

theorem Sound.carries (sound : delivery.Sound hasContext)
    (same : delivery.handoff.connection? = carried) : delivery.Consistent hasContext carried := by
  rw [← same]
  exact sound.consistent

theorem Consistent.sound (consistent : delivery.Consistent hasContext carried)
    (same : delivery.handoff.connection? = carried) (stage : delivery.Stage hasContext) :
    delivery.Sound hasContext := by
  refine ⟨?_, stage⟩
  rw [same]
  exact consistent

/-- A record that is continued remains consistent, unless the requester gives up. -/
theorem Consistent.extend {now : Option κ} (consistent : delivery.Consistent hasContext carried)
    (event : Event κ) (not_cancelled : event ≠ .cancelled) (not_forsaken : event ≠ .forsaken)
    (returned : ∀ answer, event = .returned answer → delivery.handoff.cancelled = true)
    (justified : event.Justified hasContext delivery.history)
    (accounted : Accounted (event :: delivery.history) now) :
    (delivery.record event).Consistent hasContext now where
  has_context := consistent.has_context
  idle := consistent.idle
  cancelled_iff := by
    simp [Delivery.record, not_cancelled.symm, not_forsaken.symm, consistent.cancelled_iff]
  listening_iff := by simp [Delivery.record, not_forsaken.symm, consistent.listening_iff]
  returned := by
    intro answer member
    rcases List.mem_cons.mp member with same | member
    · exact returned answer same.symm
    · exact consistent.returned answer member
  justified := consistent.justified.cons justified
  accounted := accounted

theorem Consistent.record {now : Option κ} (consistent : delivery.Consistent hasContext carried)
    (event : Event κ) (plain : event.isPlain = true)
    (justified : event.Justified hasContext delivery.history)
    (accounted : Accounted (event :: delivery.history) now) :
    (delivery.record event).Consistent hasContext now := by
  refine consistent.extend event ?_ ?_ ?_ justified accounted
  · rintro rfl
    cases plain
  · rintro rfl
    cases plain
  · rintro answer rfl
    cases plain

/-- An answer is given back only if the requester has given up. -/
theorem Consistent.giveBack {answer : Answer κ}
    (consistent : delivery.Consistent hasContext answer.toOption)
    (cancelled : delivery.handoff.cancelled = true) :
    (delivery.record (.returned answer)).Consistent hasContext none :=
  consistent.extend (.returned answer) (by simp) (by simp) (fun _ _ => cancelled) trivial
    (consistent.accounted.lose .returned)

theorem Consistent.lose {answer : Answer κ} {event : Event κ}
    (consistent : delivery.Consistent hasContext answer.toOption) (plain : event.isPlain = true)
    (loses : event.Loses answer) : (delivery.record event).Consistent hasContext none := by
  refine consistent.record event plain ?_ (consistent.accounted.lose loses)
  cases loses <;> trivial

/-- What pool and context do to an answer does not concern the record. -/
theorem Consistent.setHandoff (consistent : delivery.Consistent hasContext carried)
    (handoff : Handoff κ) (finished : Bool)
    (cancelled : handoff.cancelled = delivery.handoff.cancelled)
    (listening : handoff.listening = delivery.handoff.listening) :
    { delivery with handoff, finished }.Consistent hasContext carried :=
  { consistent with
    cancelled_iff := by
      rw [cancelled]
      exact consistent.cancelled_iff
    listening_iff := by
      rw [listening]
      exact consistent.listening_iff
    returned := by
      rw [cancelled]
      exact consistent.returned }

/-- The record of a requester that has not given up does not show that it has. -/
theorem Consistent.not_given_up (consistent : delivery.Consistent hasContext carried)
    (wanted : delivery.handoff.cancelled = false) :
    .cancelled ∉ delivery.history ∧ .forsaken ∉ delivery.history := by
  refine ⟨fun cancelled => ?_, fun forsaken => ?_⟩
  · have gave_up := consistent.cancelled_iff.mpr (Or.inl cancelled)
    rw [wanted] at gave_up
    cases gave_up
  · have gave_up := consistent.cancelled_iff.mpr (Or.inr forsaken)
    rw [wanted] at gave_up
    cases gave_up

theorem Consistent.cancelled_of_isCancelled (consistent : delivery.Consistent hasContext carried)
    (given_up : delivery.handoff.isCancelled = true) : delivery.handoff.cancelled = true := by
  rcases Bool.or_eq_true_iff.mp given_up with cancelled | not_listening
  · exact cancelled
  · refine consistent.cancelled_iff.mpr (Or.inr (Classical.byContradiction fun absent => ?_))
    rw [consistent.listening_iff.mpr absent] at not_listening
    cases not_listening

/-! ## What the context does -/

theorem Consistent.setContext {after : Context Job ψ η}
    (consistent : delivery.Consistent hasContext carried) (present : delivery.context.isSome = true)
    (idle : after.Idle) : { delivery with context := some after }.Consistent hasContext carried :=
  { consistent with
    has_context := present.symm.trans consistent.has_context
    idle := by
      intro context same
      cases same
      exact idle }

/-- Where a request has got to depends on the context by what waits there. -/
theorem Stage.setContext {context : Option (Context Job ψ η)} (stage : delivery.Stage hasContext)
    (waits : { delivery with context }.waits = delivery.waits) :
    { delivery with context }.Stage hasContext := by
  cases stage with
  | unanswered held nothing untold waits_not first =>
      exact .unanswered held nothing untold (waits.trans waits_not) first
  | under_way answer in_flight nothing untold waits_now given =>
      exact .under_way answer in_flight nothing untold (waits.trans waits_now) given
  | arrived answer gone arrived untold listening published =>
      exact .arrived answer gone arrived untold listening published
  | ended gone nothing reason => exact .ended gone nothing reason

theorem Sound.setContext {before after : Context Job ψ η} (sound : delivery.Sound hasContext)
    (context : delivery.context = some before)
    (waits : after.jobs.any delivers = before.jobs.any delivers) (idle : after.Idle) :
    { delivery with context := some after }.Sound hasContext :=
  ⟨sound.consistent.setContext (by rw [context]; rfl) idle,
    sound.stage.setContext (by simp [Delivery.waits, context, waits])⟩

theorem Sound.changeContext {change : Context Job ψ η → Context Job ψ η}
    (sound : delivery.Sound hasContext)
    (waits : ∀ context, (change context).jobs.any delivers = context.jobs.any delivers)
    (idle : ∀ context, context.Idle → (change context).Idle) :
    (delivery.changeContext change).Sound hasContext := by
  cases context : delivery.context with
  | none =>
      have same : delivery.changeContext change = delivery := by
        rw [Delivery.changeContext, context]
        exact congrArg (Delivery.mk _ · _ _) context.symm
      rw [same]
      exact sound
  | some before =>
      rw [Delivery.changeContext, context]
      exact sound.setContext context (waits before)
        (idle before (sound.consistent.idle before context))

/-! ## What the requester does -/

theorem Stage.gone_of_arrived {answer : Answer κ} (stage : delivery.Stage hasContext)
    (arrived : delivery.handoff.arrived = some answer) : delivery.handoff.sender = .gone := by
  cases stage with
  | unanswered _ nothing => cases nothing.symm.trans arrived
  | under_way _ _ nothing => cases nothing.symm.trans arrived
  | arrived _ gone => exact gone
  | ended _ nothing => cases nothing.symm.trans arrived

theorem Stage.record (stage : delivery.Stage hasContext) (event : Event κ)
    (gives : event.given? = none) : (delivery.record event).Stage hasContext := by
  cases stage with
  | unanswered held nothing untold waits first =>
      exact .unanswered held nothing untold waits ((given_cons_of_none gives).trans first)
  | under_way answer in_flight nothing untold waits given =>
      exact .under_way answer in_flight nothing untold waits (List.mem_cons_of_mem _ given)
  | arrived answer gone arrived untold listening published =>
      exact .arrived answer gone arrived untold listening (List.mem_cons_of_mem _ published)
  | ended gone nothing reason =>
      exact .ended gone nothing (reason.imp_right (Or.imp_right (Missed.cons · event)))

theorem Sound.cancel (sound : delivery.Sound hasContext) : delivery.cancel.Sound hasContext := by
  rw [Delivery.cancel]
  split
  · refine ⟨?_, ?_⟩
    · exact
        { has_context := sound.consistent.has_context
          idle := sound.consistent.idle
          cancelled_iff := by simp [Delivery.record, Handoff.cancel]
          listening_iff := by
            simp [Delivery.record, Handoff.cancel, sound.consistent.listening_iff]
          returned := fun _ _ => rfl
          justified := sound.consistent.justified.cons trivial
          accounted := sound.consistent.accounted.neutral _ rfl rfl }
    · refine Stage.record ?_ _ rfl
      cases sound.stage with
      | unanswered held nothing untold waits first =>
          exact .unanswered held nothing untold waits first
      | under_way answer in_flight nothing untold waits given =>
          exact .under_way answer in_flight nothing untold waits given
      | arrived answer gone arrived untold listening published =>
          exact .arrived answer gone arrived untold listening published
      | ended gone nothing _ => exact .ended gone nothing (Or.inr (Or.inl rfl))
  · exact sound

/-- A record to which it is added that the requester is gone carries what it did before. -/
theorem Consistent.forsake (consistent : delivery.Consistent hasContext carried) :
    ({ delivery with handoff := delivery.handoff.dropReceiver.1 }.record
      .forsaken).Consistent hasContext carried where
  has_context := consistent.has_context
  idle := consistent.idle
  cancelled_iff := by simp [Delivery.record, Handoff.dropReceiver]
  listening_iff := by simp [Delivery.record, Handoff.dropReceiver]
  returned := fun _ _ => rfl
  justified := consistent.justified.cons trivial
  accounted := consistent.accounted.neutral _ rfl rfl

/-- Without its requester a request keeps what is on its way and loses what has arrived. -/
theorem Stage.forsake (stage : delivery.Stage hasContext) :
    { delivery with handoff := delivery.handoff.dropReceiver.1 }.Stage hasContext := by
  cases stage with
  | unanswered held _ untold waits first => exact .unanswered held rfl untold waits first
  | under_way answer in_flight _ untold waits given =>
      exact .under_way answer in_flight rfl untold waits given
  | arrived _ gone => exact .ended gone rfl (Or.inr (Or.inl rfl))
  | ended gone _ _ => exact .ended gone rfl (Or.inr (Or.inl rfl))

theorem Sound.forsake (sound : delivery.Sound hasContext) :
    delivery.forsake.Sound hasContext := by
  rw [Delivery.forsake]
  split
  · have forsaken : (({ delivery with handoff := delivery.handoff.dropReceiver.1 }.record
        .forsaken).recordAnswer .unread delivery.handoff.arrived).Sound hasContext := by
      have stage := sound.stage.forsake.record .forsaken rfl
      cases arrived : delivery.handoff.arrived with
      | none =>
          refine sound.consistent.forsake.sound ?_ stage
          simp [Delivery.record, Handoff.connection?, Handoff.carried?, Handoff.dropReceiver,
            arrived]
      | some answer =>
          have gone := sound.stage.gone_of_arrived arrived
          have carries := Handoff.connection_of_arrived gone arrived
          exact ((sound.carries carries).forsake.lose rfl .unread).sound
            (Handoff.connection_of_gone gone) (stage.record _ rfl)
    exact forsaken
  · exact sound

/-- What has arrived at a requester that has not given up, it receives. -/
theorem Consistent.received {answer : Answer κ}
    (consistent : delivery.Consistent hasContext carried)
    (wanted : delivery.handoff.cancelled = false)
    (published : .published hasContext answer ∈ delivery.history) :
    Received hasContext delivery.history answer where
  given := consistent.justified.given_of_published published
  kept := by
    intro other returned
    rw [consistent.returned other returned] at wanted
    cases wanted
  published := published
  not_cancelled := (consistent.not_given_up wanted).1
  not_forsaken := (consistent.not_given_up wanted).2

/-- A requester that has given up is told so whenever it looks. -/
theorem Sound.look_cancelled (sound : delivery.Sound hasContext)
    (listening : delivery.handoff.listening = true)
    (cancelled : delivery.handoff.cancelled = true) :
    (delivery.record (.settled (.error .abandoned))).Sound hasContext := by
  have accounted := sound.consistent.accounted.neutral (.settled (.error .abandoned)) rfl rfl
  refine ⟨?_, sound.stage.record _ rfl⟩
  refine sound.consistent.record _ rfl ?_ accounted
  have not_forsaken := sound.consistent.listening_iff.mp listening
  have gave_up := (sound.consistent.cancelled_iff.mp cancelled).resolve_right not_forsaken
  exact Or.inr ⟨rfl, Or.inl gave_up⟩

theorem Sound.look_arrived {answer : Answer κ} (sound : delivery.Sound hasContext)
    (wanted : delivery.handoff.cancelled = false)
    (arrived : delivery.handoff.arrived = some answer)
    (published : .published hasContext answer ∈ delivery.history) :
    ({ delivery with handoff := { delivery.handoff with arrived := none }, finished := true }.record
      (.settled answer)).Sound hasContext := by
  have gone := sound.stage.gone_of_arrived arrived
  have received := sound.consistent.received wanted published
  have carries := Handoff.connection_of_arrived gone arrived
  have justified : (Event.settled answer).Justified hasContext delivery.history := by
    cases answer with
    | error error => exact Or.inl received
    | ok connection => exact received
  have taken := (sound.carries carries).setHandoff { delivery.handoff with arrived := none } true
    rfl rfl
  have settled := taken.record (.settled answer) rfl justified taken.accounted.settle
  exact settled.sound (Handoff.connection_of_gone gone) (.ended gone rfl (Or.inl rfl))

/-- A requester whose answer can no longer arrive is told that the request was abandoned. -/
theorem Sound.look_ended (sound : delivery.Sound hasContext)
    (gone : delivery.handoff.sender = .gone) (nothing : delivery.handoff.arrived = none)
    (missed : Missed delivery.history) :
    ({ delivery with handoff := { delivery.handoff with arrived := none }, finished := true }.record
      (.settled (.error .abandoned))).Sound hasContext := by
  have taken := sound.consistent.setHandoff { delivery.handoff with arrived := none } true rfl rfl
  have accounted := sound.consistent.accounted.neutral (.settled (.error .abandoned)) rfl rfl
  have settled := taken.record (.settled (.error .abandoned)) rfl
    (Or.inr ⟨rfl, missed⟩) accounted
  refine settled.sound ?_ (.ended gone rfl (Or.inl rfl))
  rw [Handoff.connection_of_ended gone nothing]
  exact Handoff.connection_of_ended gone rfl

theorem Sound.look (sound : delivery.Sound hasContext) : delivery.look.Sound hasContext := by
  rw [Delivery.look]
  split
  · rename_i may_look
    obtain ⟨listening, untold_or_cancelled⟩ := Bool.and_eq_true_iff.mp may_look
    cases cancelled : delivery.handoff.cancelled with
    | true =>
        have taken : delivery.handoff.take = (delivery.handoff, .ready (.error .abandoned)) := by
          simp [Handoff.take, Handoff.poll, cancelled]
        have same : (delivery.finished || !true) = delivery.finished := Bool.or_false _
        rw [taken, same]
        exact sound.look_cancelled listening cancelled
    | false =>
        have same : (delivery.finished || !false) = true := Bool.or_true _
        have take_eq : delivery.handoff.take =
            ({ delivery.handoff with arrived := none }, delivery.handoff.poll) := by
          simp [Handoff.take, cancelled]
        rw [take_eq, same]
        cases sound.stage with
        | unanswered held nothing =>
            have pending : delivery.handoff.poll = .pending := by
              simp [Handoff.poll, cancelled, nothing, held]
            rw [pending]
            exact sound
        | under_way answer in_flight nothing =>
            have pending : delivery.handoff.poll = .pending := by
              simp [Handoff.poll, cancelled, nothing, in_flight]
            rw [pending]
            exact sound
        | arrived answer gone arrived _ _ published =>
            have ready : delivery.handoff.poll = .ready answer := by
              simp [Handoff.poll, cancelled, arrived]
            rw [ready]
            exact sound.look_arrived cancelled arrived published
        | ended gone nothing reason =>
            have ready : delivery.handoff.poll = .ready (.error .abandoned) := by
              simp [Handoff.poll, cancelled, nothing, gone]
            have untold : delivery.finished ≠ true := by
              intro told
              rw [told, cancelled] at untold_or_cancelled
              cases untold_or_cancelled
            have missed := (reason.resolve_left untold).resolve_left (by simp [cancelled])
            rw [ready]
            exact sound.look_ended gone nothing missed
  · exact sound

/-! ## What the pool does -/

theorem Stage.of_held (stage : delivery.Stage hasContext) (held : delivery.handoff.sender = .held) :
    delivery.handoff.arrived = none ∧ delivery.finished = false ∧ delivery.waits = false ∧
      given delivery.history = [] := by
  cases stage with
  | unanswered _ nothing untold waits first => exact ⟨nothing, untold, waits, first⟩
  | under_way _ in_flight => cases held.symm.trans in_flight
  | arrived _ gone => cases held.symm.trans gone
  | ended gone => cases held.symm.trans gone

theorem Sound.withdraw (sound : delivery.Sound hasContext) :
    delivery.withdraw.Sound hasContext := by
  rw [Delivery.withdraw]
  split
  · rename_i held
    obtain ⟨nothing, _, _, _⟩ := sound.stage.of_held held
    have dropped : delivery.handoff.dropSender.1 = { delivery.handoff with sender := .gone } := by
      rw [Handoff.dropSender, held]
    have before : delivery.handoff.connection? = none := by
      rw [Handoff.connection?, Handoff.carried?, held, nothing]
      rfl
    have gone := (sound.carries before).setHandoff { delivery.handoff with sender := .gone }
      delivery.finished rfl rfl
    have withdrawn := gone.record .withdrawn rfl trivial
      (gone.accounted.neutral _ rfl rfl)
    have missed : Missed (.withdrawn :: delivery.history) :=
      Or.inr (Or.inl List.mem_cons_self)
    rw [dropped]
    exact withdrawn.sound (Handoff.connection_of_ended rfl nothing)
      (.ended rfl nothing (Or.inr (Or.inr missed)))
  · exact sound

/-- The route of an answer shows whether there is a context, and whether that accepts jobs. -/
theorem route_cases (delivery : Delivery κ ψ η) :
    (delivery.route = .direct ∧ delivery.context = none) ∨
      (∃ context, delivery.context = some context ∧
        (context.accepts = true ∧ delivery.route = .context ∨
          context.accepts = false ∧ delivery.route = .refused)) := by
  rw [route]
  cases delivery.context with
  | none => exact Or.inl ⟨rfl, rfl⟩
  | some context =>
      refine Or.inr ⟨context, rfl, ?_⟩
      cases accepts : context.accepts with
      | true => exact Or.inl ⟨rfl, by simp [accepts]⟩
      | false => exact Or.inr ⟨rfl, by simp [accepts]⟩

/-- An answer that was just given is carried, whatever became of the handoff. -/
theorem Sound.given (sound : delivery.Sound hasContext) (held : delivery.handoff.sender = .held)
    (answer : Answer κ) (handoff : Handoff κ)
    (cancelled : handoff.cancelled = delivery.handoff.cancelled)
    (listening : handoff.listening = delivery.handoff.listening) :
    ({ delivery with handoff }.record (.given answer)).Consistent hasContext answer.toOption := by
  obtain ⟨_, _, _, first⟩ := sound.stage.of_held held
  exact (sound.consistent.setHandoff handoff delivery.finished cancelled listening).record
    (.given answer) rfl trivial (sound.consistent.accounted.give first answer)

theorem Sound.give_returned (sound : delivery.Sound hasContext)
    (held : delivery.handoff.sender = .held) (given_up : delivery.handoff.isCancelled = true)
    (answer : Answer κ) :
    (({ delivery with handoff := { delivery.handoff with sender := .gone } }.record
      (.given answer)).record (.returned answer)).Sound hasContext := by
  obtain ⟨nothing, _, _, _⟩ := sound.stage.of_held held
  have cancelled := sound.consistent.cancelled_of_isCancelled given_up
  have given := sound.given held answer { delivery.handoff with sender := .gone } rfl rfl
  exact (given.giveBack cancelled).sound
    (Handoff.connection_of_ended rfl nothing) (.ended rfl nothing (Or.inr (Or.inl cancelled)))

theorem Sound.give_refused (sound : delivery.Sound hasContext)
    (held : delivery.handoff.sender = .held) (answer : Answer κ) :
    (({ delivery with handoff := { delivery.handoff with sender := .gone } }.record
      (.given answer)).record (.refused answer)).Sound hasContext := by
  obtain ⟨nothing, _, _, _⟩ := sound.stage.of_held held
  have given := sound.given held answer { delivery.handoff with sender := .gone } rfl rfl
  have missed : Missed (.refused answer :: .given answer :: delivery.history) :=
    Or.inr (Or.inr ⟨answer, Or.inl List.mem_cons_self⟩)
  exact (given.lose rfl .refused).sound
    (Handoff.connection_of_ended rfl nothing) (.ended rfl nothing (Or.inr (Or.inr missed)))

/-- What arrives was given, and finds a requester that has not given up. -/
theorem Consistent.publish {byDriver : Bool} {answer : Answer κ}
    (consistent : delivery.Consistent hasContext carried) (driver : byDriver = hasContext)
    (given : .given answer ∈ delivery.history) (wanted : delivery.handoff.cancelled = false) :
    (delivery.record (.published byDriver answer)).Consistent hasContext carried :=
  consistent.record _ rfl ⟨driver, given, consistent.not_given_up wanted⟩
    (consistent.accounted.neutral _ rfl rfl)

theorem Sound.give_direct (sound : delivery.Sound hasContext)
    (held : delivery.handoff.sender = .held) (wanted : delivery.handoff.isCancelled = false)
    (no_context : delivery.context = none) (answer : Answer κ) :
    (({ delivery with
        handoff := { delivery.handoff with sender := .gone, arrived := some answer } }.record
      (.given answer)).record (.published false answer)).Sound hasContext := by
  obtain ⟨_, untold, _, _⟩ := sound.stage.of_held held
  obtain ⟨not_cancelled, not_deaf⟩ := Bool.or_eq_false_iff.mp wanted
  have listening : delivery.handoff.listening = true := by simpa using not_deaf
  have driver : false = hasContext := by
    rw [← sound.consistent.has_context, no_context]
    rfl
  have given := sound.given held answer
    { delivery.handoff with sender := .gone, arrived := some answer } rfl rfl
  have published : .published hasContext answer ∈
      .published false answer :: .given answer :: delivery.history := by
    rw [← driver]
    exact List.mem_cons_self
  exact (given.publish driver List.mem_cons_self not_cancelled).sound
    (Handoff.connection_of_gone rfl) (.arrived answer rfl rfl untold listening published)

theorem Sound.give_context {context : Context Job ψ η} (sound : delivery.Sound hasContext)
    (held : delivery.handoff.sender = .held) (present : delivery.context = some context)
    (accepts : context.accepts = true) (answer : Answer κ) :
    (({ delivery with handoff := { delivery.handoff with sender := .inFlight answer } }.record
      (.given answer)).changeContext fun context => (context.execute .deliver).1).Sound
        hasContext := by
  obtain ⟨nothing, untold, _, _⟩ := sound.stage.of_held held
  have given := sound.given held answer
    { delivery.handoff with sender := .inFlight answer } rfl rfl
  have executed : (context.execute .deliver).1 =
      { context with jobs := context.jobs ++ [.inl .deliver] } := by
    simp [Context.execute, accepts]
  have submitted := given.setContext (by rw [record, present]; rfl)
    (Context.Idle.submit accepts (context.jobs ++ [.inl .deliver]))
  simp only [Delivery.changeContext, record, present, Option.map_some, executed]
  refine submitted.sound rfl (.under_way answer rfl nothing untold ?_ List.mem_cons_self)
  simp [waits, delivers]

theorem Sound.give (sound : delivery.Sound hasContext) (answer : Answer κ) :
    (delivery.give answer).Sound hasContext := by
  rw [Delivery.give]
  split
  · rename_i held
    obtain ⟨given_up, resolved⟩ | ⟨wanted, direct, resolved⟩ | ⟨wanted, through, resolved⟩ |
      ⟨_, _, resolved⟩ := delivery.handoff.resolve_cases delivery.route answer
    · rw [resolved]
      exact sound.give_returned held given_up answer
    · rw [resolved]
      obtain ⟨_, no_context⟩ | ⟨_, _, ⟨_, route⟩ | ⟨_, route⟩⟩ := delivery.route_cases
      · exact sound.give_direct held wanted no_context answer
      · cases direct.symm.trans route
      · cases direct.symm.trans route
    · rw [resolved]
      obtain ⟨route, _⟩ | ⟨context, present, ⟨accepts, _⟩ | ⟨_, route⟩⟩ := delivery.route_cases
      · cases through.symm.trans route
      · exact sound.give_context held present accepts answer
      · cases through.symm.trans route
    · rw [resolved]
      exact sound.give_refused held answer
  · exact sound

/-! ## What the driver does -/

/-- The job finds that the requester has given up. -/
theorem Sound.deliver_unwanted {answer : Answer κ} (sound : delivery.Sound hasContext)
    (in_flight : delivery.handoff.sender = .inFlight answer)
    (nothing : delivery.handoff.arrived = none) (given_up : delivery.handoff.isCancelled = true)
    {after : Context Job ψ η} (present : delivery.context.isSome = true) (idle : after.Idle) :
    ({ delivery with
        context := some after, handoff := { delivery.handoff with sender := .gone } }.record
      (.unwanted answer)).Sound hasContext := by
  have cancelled := sound.consistent.cancelled_of_isCancelled given_up
  have gone := ((sound.carries (Handoff.connection_of_in_flight in_flight)).setContext present
    idle).setHandoff { delivery.handoff with sender := .gone } delivery.finished rfl rfl
  exact (gone.lose rfl .unwanted).sound
    (Handoff.connection_of_ended rfl nothing) (.ended rfl nothing (Or.inr (Or.inl cancelled)))

/-- The job finds that the requester waits. -/
theorem Sound.deliver_wanted {answer : Answer κ} (sound : delivery.Sound hasContext)
    (in_flight : delivery.handoff.sender = .inFlight answer) (untold : delivery.finished = false)
    (given : .given answer ∈ delivery.history) (wanted : delivery.handoff.isCancelled = false)
    {after : Context Job ψ η} (present : delivery.context.isSome = true) (idle : after.Idle) :
    ({ delivery with
        context := some after
        handoff := { delivery.handoff with sender := .gone, arrived := some answer } }.record
      (.published true answer)).Sound hasContext := by
  obtain ⟨not_cancelled, not_deaf⟩ := Bool.or_eq_false_iff.mp wanted
  have listening : delivery.handoff.listening = true := by simpa using not_deaf
  have driver : true = hasContext := present.symm.trans sound.consistent.has_context
  have gone := ((sound.carries (Handoff.connection_of_in_flight in_flight)).setContext present
    idle).setHandoff { delivery.handoff with sender := .gone, arrived := some answer }
      delivery.finished rfl rfl
  have published : .published hasContext answer ∈ .published true answer :: delivery.history := by
    rw [← driver]
    exact List.mem_cons_self
  exact (gone.publish driver given not_cancelled).sound (Handoff.connection_of_gone rfl)
    (.arrived answer rfl rfl untold listening published)

theorem Sound.deliver {before after : Context Job ψ η} (sound : delivery.Sound hasContext)
    (present : delivery.context = some before) (waits : before.jobs.any delivers = true)
    (idle : after.Idle) :
    { delivery with context := some after }.deliver.Sound hasContext := by
  have some_context : delivery.context.isSome = true := by
    rw [present]
    rfl
  have consistent := sound.consistent.setContext some_context idle
  rw [Delivery.deliver]
  cases sound.stage with
  | unanswered _ _ _ waits_not =>
      rw [Delivery.waits, present] at waits_not
      cases waits_not.symm.trans waits
  | under_way answer in_flight nothing untold _ given =>
      cases given_up : delivery.handoff.isCancelled with
      | true =>
          rw [in_flight, Handoff.publish_of_given_up in_flight given_up]
          exact sound.deliver_unwanted in_flight nothing given_up some_context idle
      | false =>
          rw [in_flight, Handoff.publish_of_wanted in_flight given_up]
          exact sound.deliver_wanted in_flight untold given given_up some_context idle
  | arrived answer gone arrived untold listening published =>
      rw [gone, Handoff.publish_of_gone gone]
      exact consistent.sound rfl (.arrived answer gone arrived untold listening published)
  | ended gone nothing reason =>
      rw [gone, Handoff.publish_of_gone gone]
      exact consistent.sound rfl (.ended gone nothing reason)

/-- The job is dropped together with the answer. -/
theorem Sound.lose {answer : Answer κ} (sound : delivery.Sound hasContext)
    (in_flight : delivery.handoff.sender = .inFlight answer)
    (nothing : delivery.handoff.arrived = none)
    {after : Context Job ψ η} (present : delivery.context.isSome = true) (idle : after.Idle) :
    ({ delivery with
        context := some after, handoff := { delivery.handoff with sender := .gone } }.record
      (.lost answer)).Sound hasContext := by
  have gone := ((sound.carries (Handoff.connection_of_in_flight in_flight)).setContext present
    idle).setHandoff { delivery.handoff with sender := .gone } delivery.finished rfl rfl
  have missed : Missed (.lost answer :: delivery.history) :=
    Or.inr (Or.inr ⟨answer, Or.inr List.mem_cons_self⟩)
  exact (gone.lose rfl .lost).sound
    (Handoff.connection_of_ended rfl nothing) (.ended rfl nothing (Or.inr (Or.inr missed)))

theorem Sound.stop {context : Context Job ψ η} (sound : delivery.Sound hasContext)
    (present : delivery.context = some context) : (delivery.stop context).Sound hasContext := by
  have some_context : delivery.context.isSome = true := by
    rw [present]
    rfl
  have idle : context.halt.1.Idle := fun _ => rfl
  cases waits : context.jobs.any delivers with
  | false =>
      have stopped : delivery.stop context = { delivery with context := some context.halt.1 } := by
        simp [Delivery.stop, Context.halt, waits]
      rw [stopped]
      exact sound.setContext present waits.symm idle
  | true =>
      have stopped : delivery.stop context =
          { delivery with
            context := some context.halt.1
            handoff := delivery.handoff.dropSender.1 }.recordAnswer .lost
              delivery.handoff.dropSender.2 := by
        simp [Delivery.stop, Context.halt, waits]
      have consistent := sound.consistent.setContext some_context idle
      rw [stopped]
      cases sound.stage with
      | unanswered _ _ _ waits_not =>
          rw [Delivery.waits, present] at waits_not
          cases waits_not.symm.trans waits
      | under_way answer in_flight nothing =>
          rw [Handoff.dropSender_of_in_flight in_flight]
          exact sound.lose in_flight nothing some_context idle
      | arrived answer gone arrived untold listening published =>
          rw [Handoff.dropSender_of_not_in_flight (by simp [gone])]
          exact (consistent.setHandoff { delivery.handoff with sender := .gone } _ rfl rfl).sound
            (by rw [Handoff.connection_of_gone gone]; exact Handoff.connection_of_gone rfl)
            (.arrived answer rfl arrived untold listening published)
      | ended gone nothing reason =>
          rw [Handoff.dropSender_of_not_in_flight (by simp [gone])]
          exact (consistent.setHandoff { delivery.handoff with sender := .gone } _ rfl rfl).sound
            (by rw [Handoff.connection_of_gone gone]; exact Handoff.connection_of_gone rfl)
            (.ended rfl nothing reason)

/-- A driver stops, delivers the answer, or goes on past the first of the jobs that wait. -/
theorem turn_cases (context : Context Job ψ η) :
    context.turn = (context, .stop) ∨
      (∃ jobs, context.jobs = .inl .deliver :: jobs ∧
        context.turn = ({ context with jobs }, .run .deliver)) ∨
      (context.jobs.tail.any delivers = context.jobs.any delivers ∧
        ∃ next, context.turn = ({ context with jobs := context.jobs.tail }, next) ∧
          (next = .run .other ∨ (∃ future, next = .adopt future) ∨ next = .futures)) := by
  rw [Context.turn, Context.take?]
  split
  · exact Or.inl rfl
  · refine Or.inr ?_
    cases waiting : context.jobs with
    | nil =>
        have same : context = { context with jobs := [] } := by rw [← waiting]
        exact Or.inr ⟨rfl, .futures, congrArg (·, _) same, Or.inr (Or.inr rfl)⟩
    | cons job jobs =>
        rcases job with closure | future
        · cases closure with
          | deliver => exact Or.inl ⟨jobs, rfl, rfl⟩
          | other => exact Or.inr ⟨by simp [delivers], _, rfl, Or.inl rfl⟩
        · exact Or.inr ⟨by simp [delivers], _, rfl, Or.inr (Or.inl ⟨future, rfl⟩)⟩

/-- A driver that has not stopped has its turn. -/
theorem drive_cases (delivery : Delivery κ ψ η) :
    (delivery.drive = delivery ∧
        ∀ context, delivery.context = some context → context.stopped = true) ∨
      ∃ context, delivery.context = some context ∧ context.stopped = false ∧
        (delivery.drive = delivery.stop context ∨
          (∃ jobs, context.jobs = .inl .deliver :: jobs ∧ context.turn.2 = .run .deliver ∧
            delivery.drive = { delivery with context := some { context with jobs } }.deliver) ∨
          (context.jobs.tail.any delivers = context.jobs.any delivers ∧
            delivery.drive =
              { delivery with context := some { context with jobs := context.jobs.tail } })) := by
  cases present : delivery.context with
  | none => exact Or.inl ⟨by rw [drive, present], nofun⟩
  | some context =>
      cases stopped : context.stopped with
      | true =>
          refine Or.inl ⟨by simp [drive, present, stopped], ?_⟩
          intro other same
          cases same
          exact stopped
      | false =>
          refine Or.inr ⟨context, rfl, stopped, ?_⟩
          obtain turn | ⟨jobs, waiting, turn⟩ | ⟨same, next, turn, kind⟩ := turn_cases context
          · exact Or.inl (by simp [drive, present, stopped, turn])
          · exact Or.inr (Or.inl ⟨jobs, waiting, by rw [turn],
              by simp [drive, present, stopped, turn]⟩)
          · refine Or.inr (Or.inr ⟨same, ?_⟩)
            rcases kind with rfl | ⟨future, rfl⟩ | rfl
            · simp [drive, present, stopped, turn]
            · simp [drive, present, stopped, turn]
            · simp [drive, present, stopped, turn]

theorem Sound.drive (sound : delivery.Sound hasContext) : delivery.drive.Sound hasContext := by
  obtain ⟨same, _⟩ | ⟨context, present, not_stopped, stops | ⟨jobs, waiting, _, delivers⟩ |
    ⟨same, rests⟩⟩ := delivery.drive_cases
  · rw [same]
    exact sound
  · rw [stops]
    exact sound.stop present
  · rw [delivers]
    exact sound.deliver present (by simp [waiting, Delivery.delivers])
      (.of_not_stopped not_stopped jobs)
  · rw [rests]
    exact sound.setContext present same (.of_not_stopped not_stopped _)

theorem Sound.breakDown (sound : delivery.Sound hasContext) :
    delivery.breakDown.Sound hasContext := by
  rw [Delivery.breakDown]
  split
  · exact sound
  · rename_i context present
    split
    · exact sound
    · exact sound.stop present

/-! ## Any order -/

theorem any_delivers_execute (context : Context Job ψ η) :
    (context.execute .other).1.jobs.any delivers = context.jobs.any delivers := by
  rw [Context.execute]
  split <;> simp [delivers]

theorem any_delivers_spawn (context : Context Job ψ η) (future : ψ) :
    (context.spawn future).1.jobs.any delivers = context.jobs.any delivers := by
  rw [Context.spawn]
  split <;> simp [delivers]

theorem any_delivers_beginClose (context : Context Job ψ η) :
    context.beginClose.1.jobs.any delivers = context.jobs.any delivers := by
  rw [Context.beginClose]
  split <;> rfl

/-- Whatever somebody does next, a delivery stays sound. -/
theorem Sound.step (sound : delivery.Sound hasContext) (action : Action κ ψ) :
    (delivery.step action).Sound hasContext := by
  cases action with
  | cancel => exact sound.cancel
  | forsake => exact sound.forsake
  | look => exact sound.look
  | give answer => exact sound.give answer
  | withdraw => exact sound.withdraw
  | execute => exact sound.changeContext any_delivers_execute fun _ idle => idle.execute _
  | spawn future =>
      exact sound.changeContext (any_delivers_spawn · future) fun _ idle => idle.spawn _
  | beginClose => exact sound.changeContext any_delivers_beginClose fun _ idle => idle.beginClose
  | endClose => exact sound.changeContext (fun _ => rfl) fun _ idle => idle
  | drive => exact sound.drive
  | breakDown => exact sound.breakDown

theorem Sound.run (sound : delivery.Sound hasContext) (actions : List (Action κ ψ)) :
    (delivery.run actions).Sound hasContext := by
  induction actions generalizing delivery with
  | nil => exact sound
  | cons action rest induction => exact induction (sound.step action)

end Delivery

end Courier
