import Courier.Proofs.Sending.Round
import Courier.Proofs.Sending.Sound

/-!
# The counter of a send

A send counts its redirects with thirty-two bits.  Below the largest limit that these can hold the
count is exact and the bound is kept.  At the largest limit the count starts again from zero and
never exceeds it, so a send whose server and policy go on redirecting goes on for ever.
-/

namespace Courier.Sending

variable {clients : Nat → Client} {owner policy : Nat} {request : Request} {sending : Sending}
  {outside : Outside} {action : Action}

/-- A turn in which a policy names another request. -/
def Names (sending : Sending) : Action → Prop
  | .turn outside =>
    (∃ decider response, sending.stage = .deciding decider response) ∧
      ∃ next, outside.decision = .next next
  | _ => False

/-- A turn that counts a redirect which the counter has no room for. -/
def Overflows (sending : Sending) (action : Action) : Prop :=
  sending.Names action ∧ sending.loop.hops.toNat + 1 = UInt32.size

/-- Unless it has ended, a send has counted the redirects that were named as far as its counter
reaches. -/
def Counted (sending : Sending) : Prop :=
  (∃ result, sending.stage = .finished result) ∨
    sending.loop.hops.toNat = (named sending.history).length % UInt32.size

theorem counted_start (clients : Nat → Client) (owner policy : Nat) (request : Request) :
    (start clients owner policy request).Counted := .inr rfl

/-! ## Turns -/

/-- Nothing is counted. -/
def Uncounted (sending after : Sending) : Prop :=
  after.loop = sending.loop ∧ named after.history = named sending.history

theorem settle_uncounted (sending : Sending) (result : Except ClientError Response) :
    sending.Uncounted (sending.settle result) := by
  rw [settle]
  split <;> exact ⟨rfl, rfl⟩

theorem begin_uncounted (sending : Sending) : sending.Uncounted sending.begin := by
  rw [begin]
  split
  · exact settle_uncounted (sending.note (.began sending.client sending.loop.current)) _
  · exact ⟨rfl, rfl⟩

theorem receive_uncounted (sending : Sending) (answer : Answer Unit) :
    sending.Uncounted (sending.receive answer) := by
  cases answer with
  | error error => exact settle_uncounted sending _
  | ok connection =>
      rw [receive]
      split
      · exact settle_uncounted (sending.note .connected) _
      · exact ⟨rfl, rfl⟩

/-- Only a decision is counted. -/
theorem turn_uncounted (undecided : ∀ decider response, sending.stage ≠ .deciding decider response)
    (outside : Outside) : sending.Uncounted (sending.turn outside) := by
  rw [turn]
  cases stage : sending.stage with
  | ready => exact begin_uncounted sending
  | acquiring => exact receive_uncounted sending outside.answer
  | exchanging => exact settle_uncounted sending _
  | deciding decider response => exact absurd stage (undecided decider response)
  | finished result => exact ⟨rfl, rfl⟩

/-- A decision ends a send, or names a request within the limit, which is exchanged next. -/
theorem obey_cases (sending : Sending) (decider : Nat) (response : Response) (decision : Decision)
    (client : Nat) :
    (∃ result, (sending.obey decider response decision client).stage = .finished result ∧
        (sending.obey decider response decision client).loop = sending.loop) ∨
      ∃ next, decision = .next next ∧
        sending.obey decider response decision client =
          { sending.note (.decided decider (.next next) client) with
            loop :=
              { sending.loop with
                hops := sending.loop.hops + 1
                current := { next with followRedirects := true } }
            client
            stage := .ready } := by
  rw [obey]
  cases after : sending.loop.afterDecision response decision with
  | finished result => exact .inl ⟨result, rfl, rfl⟩
  | exchange loop =>
      obtain ⟨next, rfl, rfl⟩ := SendLoop.named_of_exchange after
      exact .inr ⟨next, rfl, rfl⟩

theorem turn_of_deciding {decider : Nat} {response : Response}
    (stage : sending.stage = .deciding decider response) (outside : Outside) :
    sending.turn outside = sending.obey decider response outside.decision outside.client := by
  rw [turn, stage]

theorem Counted.turn (counted : sending.Counted) (outside : Outside) :
    (sending.turn outside).Counted := by
  by_cases deciding : ∃ decider response, sending.stage = .deciding decider response
  · obtain ⟨decider, response, stage⟩ := deciding
    have hops_eq := counted.resolve_left fun ⟨_, finished⟩ => by cases stage.symm.trans finished
    rw [turn_of_deciding stage]
    obtain ⟨result, finished, _⟩ | ⟨next, _, equation⟩ :=
      sending.obey_cases decider response outside.decision outside.client
    · exact .inl ⟨result, finished⟩
    · refine .inr ?_
      rw [equation]
      calc (sending.loop.hops + 1).toNat
          = (sending.loop.hops.toNat + 1) % UInt32.size := UInt32.toNat_add _ _
        _ = ((named sending.history).length % UInt32.size + 1) % UInt32.size := by rw [hops_eq]
        _ = ((named sending.history).length + 1) % UInt32.size := Nat.mod_add_mod ..
  · have undecided : ∀ decider response, sending.stage ≠ .deciding decider response :=
      fun decider response stage => deciding ⟨decider, response, stage⟩
    obtain ⟨same_loop, same_named⟩ := turn_uncounted undecided outside
    rcases counted with ⟨result, finished⟩ | hops_eq
    · refine .inl ⟨result, ?_⟩
      rw [Sending.turn, finished]
      exact finished
    · exact .inr (by rw [same_loop, same_named, hops_eq])

theorem Counted.step (counted : sending.Counted) (action : Action) :
    (sending.step action).Counted := by
  cases action with
  | install policy => exact counted
  | close client => exact counted
  | turn outside => exact counted.turn outside

/-- A send counts as far as its counter reaches, whatever happens. -/
theorem Counted.run (counted : sending.Counted) (actions : List Action) :
    (sending.run actions).Counted := by
  induction actions generalizing sending with
  | nil => exact counted
  | cons action rest induction => exact induction (counted.step action)

/-- The counter overflows whenever the number of redirects comes to a multiple of its range. -/
theorem Counted.overflows_iff (counted : sending.Counted) :
    sending.Overflows action ↔
      sending.Names action ∧ UInt32.size ∣ (named sending.history).length + 1 := by
  refine and_congr_right fun names => ?_
  have hops_eq : sending.loop.hops.toNat = (named sending.history).length % UInt32.size := by
    refine counted.resolve_left fun ⟨result, finished⟩ => ?_
    cases action with
    | turn outside =>
        obtain ⟨⟨decider, response, stage⟩, _⟩ := names
        cases stage.symm.trans finished
    | install policy => exact names
    | close client => exact names
  have size : UInt32.size = 4294967296 := rfl
  rw [hops_eq, size]
  omega

/-! ## The limit -/

theorem turn_limit (sending : Sending) (outside : Outside) :
    (sending.turn outside).loop.limit = sending.loop.limit := by
  by_cases deciding : ∃ decider response, sending.stage = .deciding decider response
  · obtain ⟨decider, response, stage⟩ := deciding
    rw [turn_of_deciding stage]
    obtain ⟨_, _, same_loop⟩ | ⟨_, _, equation⟩ :=
      sending.obey_cases decider response outside.decision outside.client
    · rw [same_loop]
    · rw [equation]
  · have undecided : ∀ decider response, sending.stage ≠ .deciding decider response :=
      fun decider response stage => deciding ⟨decider, response, stage⟩
    rw [(turn_uncounted undecided outside).1]

theorem run_limit (sending : Sending) (actions : List Action) :
    (sending.run actions).loop.limit = sending.loop.limit := by
  induction actions generalizing sending with
  | nil => rfl
  | cons action rest induction =>
      refine (induction (sending.step action)).trans ?_
      cases action with
      | install policy => rfl
      | close client => rfl
      | turn outside => exact turn_limit sending outside

/-- No count exceeds the largest limit. -/
theorem within_largest (largest : sending.loop.limit.toNat = UInt32.size - 1) :
    ¬sending.loop.hops + 1 > sending.loop.limit := by
  intro beyond
  have past := UInt32.lt_iff_toNat_lt.mp beyond
  have word := (sending.loop.hops + 1).toNat_lt_size
  omega

/-- At the largest limit every redirect is followed. -/
theorem step_of_names (largest : sending.loop.limit.toNat = UInt32.size - 1)
    (names : sending.Names action) : (sending.step action).stage = .ready := by
  cases action with
  | install policy => exact names.elim
  | close client => exact names.elim
  | turn outside =>
      obtain ⟨⟨decider, response, stage⟩, next, named⟩ := names
      rw [step, turn_of_deciding stage, named, obey_of_within (within_largest largest)]

/-! ## Servers and policies that go on redirecting -/

/-- What a send meets with that is redirected at each of its exchanges: the client of the request
is open and the request can be written, the pool gives a connection, a response comes over it, and
the policy names another request. -/
inductive Redirects (clients : Nat → Client) : Nat → Request → List Outside → Prop
  | stop (client : Nat) (request : Request) : Redirects clients client request []
  | go {client : Nat} {request next : Request} {outside : Outside} {rest : List Outside}
      {written : Http.Outgoing} {reply : Http.Reply} (is_open : (clients client).closed = false)
      (writable : request.outgoing = .ok written) (answered : outside.answer = .ok ())
      (read : outside.speech.outcome ((clients client).readingTerms request) = .ok reply)
      (named : outside.decision = .next next)
      (goes_on :
        Redirects clients outside.client { next with followRedirects := true } rest) :
      Redirects clients client request (outside :: rest)

/-- The turns of an exchange and of the decision about its response. -/
def turns (course : List Outside) : List Action :=
  course.flatMap fun outside => List.replicate 4 (.turn outside)

theorem run_append (sending : Sending) (earlier later : List Action) :
    sending.run (earlier ++ later) = (sending.run earlier).run later :=
  List.foldl_append

/-- A send whose first exchange is redirected comes to a response, and to the next request. -/
theorem Launched.responds (launched : sending.Launched) {rest : List Outside}
    (redirects :
      Redirects sending.clients sending.client sending.loop.current (outside :: rest)) :
    ∃ response next, sending.Responds outside response ∧ outside.decision = .next next ∧
      Redirects sending.clients outside.client { next with followRedirects := true } rest := by
  cases redirects with
  | go is_open writable answered read named goes_on =>
      have heard_eq := congrArg (Except.map sending.loop.current.responseOf) read
      exact ⟨_, _, ⟨launched, is_open, ⟨_, writable⟩, answered, heard_eq⟩, named, goes_on⟩

/-- What a course of redirects makes of a send. -/
structure Went (sending after : Sending) (redirects : Nat) : Prop where
  launched : after.Launched
  begun_eq : (begun after.history).length = (begun sending.history).length + redirects
  named_eq : (named after.history).length = (named sending.history).length + redirects

theorem Went.trans {middle after : Sending} {count more : Nat} (first : sending.Went middle count)
    (second : middle.Went after more) : sending.Went after (count + more) where
  launched := second.launched
  begun_eq := by rw [second.begun_eq, first.begun_eq, Nat.add_assoc]
  named_eq := by rw [second.named_eq, first.named_eq, Nat.add_assoc]

/-- At the largest limit a send follows every redirect of a course, however long that is, and goes
on with what is left. -/
theorem Launched.run_course {course later : List Outside}
    (redirects :
      Redirects sending.clients sending.client sending.loop.current (course ++ later))
    (launched : sending.Launched) (largest : sending.loop.limit.toNat = UInt32.size - 1) :
    let after := sending.run (turns course)
    sending.Went after course.length ∧
      Redirects after.clients after.client after.loop.current later := by
  induction course generalizing sending with
  | nil => exact ⟨⟨launched, rfl, rfl⟩, redirects⟩
  | cons outside rest induction =>
      obtain ⟨response, next, responds, named, goes_on⟩ := launched.responds redirects
      have first : sending.Went (sending.redirected response next outside.client) 1 :=
        ⟨⟨rfl, rfl⟩, rfl, rfl⟩
      obtain ⟨further, left⟩ := induction goes_on first.launched largest
      have turns_eq : turns (outside :: rest) =
          List.replicate 4 (.turn outside) ++ turns rest := rfl
      rw [turns_eq, run_append, responds.run_redirected (within_largest largest) named,
        List.length_cons, Nat.add_comm]
      exact ⟨first.trans further, left⟩

/-- After three turns a redirect is about to be counted. -/
theorem Launched.names (launched : sending.Launched) {rest : List Outside}
    (redirects :
      Redirects sending.clients sending.client sending.loop.current (outside :: rest)) :
    (sending.run (List.replicate 3 (.turn outside))).Names (.turn outside) ∧
      named (sending.run (List.replicate 3 (.turn outside))).history =
        named sending.history := by
  obtain ⟨response, next, responds, named, _⟩ := launched.responds redirects
  rw [responds.run]
  exact ⟨⟨⟨_, _, rfl⟩, next, named⟩, rfl⟩

/-- At the largest limit a send is redirected as often as its server and its policy like, and the
redirects that come to a multiple of the counter's range overflow it. -/
theorem follows_course {course : List Outside} (follows : request.followRedirects = true)
    (largest : (limit clients owner).toNat = UInt32.size - 1)
    (redirects : Redirects clients owner request (course ++ [outside])) :
    let sending := (start clients owner policy request).run (turns course)
    sending.stage = .ready ∧ (begun sending.history).length = course.length ∧
      (named sending.history).length = course.length ∧
      ((sending.run (List.replicate 3 (.turn outside))).Overflows (.turn outside) ↔
        UInt32.size ∣ course.length + 1) := by
  intro sending
  have launched : (start clients owner policy request).Launched := ⟨rfl, follows⟩
  obtain ⟨⟨still_launched, begun_eq, named_eq⟩, left⟩ := launched.run_course redirects largest
  have counted := (counted_start clients owner policy request).run (turns course)
  obtain ⟨names, same_named⟩ := still_launched.names left
  refine ⟨still_launched.stage, begun_eq.trans (Nat.zero_add _), named_eq.trans (Nat.zero_add _),
    ?_⟩
  rw [(counted.run _).overflows_iff, and_iff_right names, same_named, named_eq]
  change UInt32.size ∣ 0 + course.length + 1 ↔ _
  rw [Nat.zero_add]

/-! ## Whole runs -/

/-- When the counter of a send can be trusted.  Below the largest limit it counts every redirect,
never overflows and keeps the number of exchanges within the bound, whatever the send learns and
whatever others do meanwhile.  In every run it overflows at the redirects that come to a multiple of
its range.  At the largest limit no redirect is refused, so that a send is exchanged as often as its
server and its policy like, and such redirects are reached. -/
theorem hops_overflow_iff (clients : Nat → Client) (owner policy : Nat) (request : Request) :
    let launched := start clients owner policy request
    ((limit clients owner).toNat < UInt32.size - 1 → ∀ actions,
        (begun (launched.run actions).history).length ≤ (limit clients owner).toNat + 1 ∧
          ∀ action, ¬(launched.run actions).Overflows action) ∧
      (∀ actions action, (launched.run actions).Overflows action ↔
        (launched.run actions).Names action ∧
          UInt32.size ∣ (named (launched.run actions).history).length + 1) ∧
      ((limit clients owner).toNat = UInt32.size - 1 →
        (∀ actions action, (launched.run actions).Names action →
          ((launched.run actions).step action).stage = .ready) ∧
          ∀ course outside, request.followRedirects = true →
            Redirects clients owner request (course ++ [outside]) →
              let sending := launched.run (turns course)
              sending.stage = .ready ∧ (begun sending.history).length = course.length ∧
                (named sending.history).length = course.length ∧
                ((sending.run (List.replicate 3 (.turn outside))).Overflows (.turn outside) ↔
                  UInt32.size ∣ course.length + 1)) := by
  intro launched
  refine ⟨fun limit_lt actions => ?_, fun actions action => ?_, fun largest => ⟨?_, ?_⟩⟩
  · have consistent := ((sound_start clients owner policy request).run limit_lt actions).consistent
    refine ⟨consistent.begun_le, fun action overflows => ?_⟩
    have hops_le := consistent.hops_le
    have full : ((start clients owner policy request).run actions).loop.hops.toNat + 1 =
        UInt32.size := overflows.2
    omega
  · exact ((counted_start clients owner policy request).run actions).overflows_iff
  · intro actions action names
    refine step_of_names ?_ names
    rw [run_limit]
    exact largest
  · exact fun course outside follows redirects => follows_course follows largest redirects

/-- The default limit is far below the largest. -/
theorem default_limit_kept :
    let clients : Nat → Client := fun _ => { config := {} }
    let request : Request :=
      { method := "GET", target := ⟨"a", 80, false, "/", "a", 80, "a"⟩, followRedirects := true }
    let launched := start clients 0 0 request
    (limit clients 0).toNat < UInt32.size - 1 ∧ ∀ actions,
      (begun (launched.run actions).history).length ≤ 17 ∧
        ∀ action, ¬(launched.run actions).Overflows action := by
  intro clients request launched
  have limit_lt : (limit clients 0).toNat < UInt32.size - 1 := by decide
  exact ⟨limit_lt, (hops_overflow_iff clients 0 0 request).1 limit_lt⟩

/-- The exchange of a request leads back to that request. -/
structure Loops (clients : Nat → Client) (client : Nat) (request : Request) (outside : Outside) :
    Prop where
  is_open : (clients client).closed = false
  follows : request.followRedirects = true
  writable : ∃ written, request.outgoing = .ok written
  answered : outside.answer = .ok ()
  read : ∃ reply, outside.speech.outcome ((clients client).readingTerms request) = .ok reply
  named : outside.decision = .next request
  client_eq : outside.client = client

theorem Loops.redirects {client : Nat} (loops : Loops clients client request outside)
    (times : Nat) : Redirects clients client request (List.replicate times outside) := by
  obtain ⟨written, writable⟩ := loops.writable
  obtain ⟨reply, read⟩ := loops.read
  induction times with
  | zero => exact .stop client request
  | succ times induction =>
      refine .go loops.is_open writable loops.answered read loops.named ?_
      rw [loops.client_eq, ← loops.follows]
      exact induction

/-- At the largest limit, a loop keeps no bound and overflows the counter. -/
theorem Loops.endless (loops : Loops clients owner request outside)
    (largest : (limit clients owner).toNat = UInt32.size - 1) :
    (¬∀ actions, (begun ((start clients owner policy request).run actions).history).length ≤
        (limit clients owner).toNat + 1) ∧
      ¬∀ actions action, ¬((start clients owner policy request).run actions).Overflows action := by
  have course (times : Nat) :
      let sending := (start clients owner policy request).run
        (turns (List.replicate times outside))
      (begun sending.history).length = times ∧
        ((sending.run (List.replicate 3 (.turn outside))).Overflows (.turn outside) ↔
          UInt32.size ∣ times + 1) := by
    have redirects :
        Redirects clients owner request (List.replicate times outside ++ [outside]) := by
      rw [← List.replicate_succ']
      exact loops.redirects (times + 1)
    obtain ⟨_, begun_eq, _, overflows_iff⟩ := follows_course loops.follows largest redirects
    rw [List.length_replicate] at begun_eq overflows_iff
    exact ⟨begun_eq, overflows_iff⟩
  constructor
  · intro bounded
    have few := bounded (turns (List.replicate (UInt32.size + 1) outside))
    rw [(course (UInt32.size + 1)).1, largest] at few
    exact absurd few (by decide)
  · intro safe
    refine safe (turns (List.replicate (UInt32.size - 1) outside) ++
      List.replicate 3 (.turn outside)) (.turn outside) ?_
    rw [run_append]
    exact (course (UInt32.size - 1)).2.mpr (by decide)

/-- A client with the largest limit, which is valid, sends a request to a server that redirects to
the same place for ever.  The standard policy follows, the counter overflows, and the send goes on
beyond its bound. -/
theorem endless_redirects_overflow :
    let client : Client := { config := { followRedirects := true, maxRedirects := 4294967295 } }
    let request : Request :=
      { method := "GET", target := ⟨"a", 80, false, "/", "a", 80, "a"⟩, followRedirects := true }
    let launched := start (fun _ => client) 0 0 request
    client.config.Valid ∧ client.dispatch "GET" "a" 80 none "/" none = .ok request ∧
      (¬∀ actions, (begun (launched.run actions).history).length ≤
          (limit (fun _ => client) 0).toNat + 1) ∧
        ¬∀ actions action, ¬(launched.run actions).Overflows action := by
  intro client request launched
  let answer := "HTTP/1.1 302 Found\r\nLocation: /\r\nContent-Length: 0\r\n\r\n"
  let reply : Http.Reply :=
    { head :=
        { version := .http11
          status := 302
          headers := .ofList
            [("location", Bytes.ofString "/"), ("content-length", Bytes.ofString "0")] }
      body := [] }
  let found : Outside :=
    { answer := .ok ()
      speech := ⟨[Bytes.ofString answer], false⟩
      decision := client.decide (request.responseOf reply)
      client := 0 }
  have read : found.speech.outcome (client.readingTerms request) = .ok reply := by decide +kernel
  have named : found.decision = .next request := by decide +kernel
  have writable : ∃ written, request.outgoing = .ok written := by
    have writes : request.outgoing.toOption.isSome = true := by decide +kernel
    cases outgoing_eq : request.outgoing with
    | error cause =>
        rw [outgoing_eq] at writes
        cases writes
    | ok written => exact ⟨written, rfl⟩
  have loops : Loops (fun _ => client) 0 request found :=
    ⟨rfl, rfl, writable, rfl, ⟨reply, read⟩, named, rfl⟩
  have largest : (limit (fun _ => client) 0).toNat = UInt32.size - 1 := rfl
  exact ⟨by decide, by decide +kernel, loops.endless largest⟩

end Courier.Sending
