import LineEcho.Proofs.Transfer.Choices
import LineEcho.Proofs.Transfer.Written

/-!
# The course of an exchange

`Exchange.course` lists the stages that an exchange goes through, turn by turn, up to its end.  At
each of them the client is in the state `Exchange.state`.  It streams until the file has been sent
and then finalizes the transfer, without writing anything more.
-/

namespace LineEcho

namespace TransferState

/-- The states that a state can go to.  Going on in it is one way. -/
inductive GoesTo : TransferState → TransferState → Prop where
  | stays (state : TransferState) : GoesTo state state
  | streams : GoesTo .connecting .streaming
  | finalizes : GoesTo .streaming .finalizing
  | closes : GoesTo .finalizing .closed
  | fails {state : TransferState}
      (going : state = .connecting ∨ state = .streaming ∨ state = .finalizing) :
      GoesTo state .failed

/-- Each state in a list goes to the one after it. -/
def IsPath : List TransferState → Prop
  | [] => True
  | [_] => True
  | first :: second :: rest => GoesTo first second ∧ IsPath (second :: rest)

theorem isPath_append {first second : List TransferState} (firstPath : IsPath first)
    (secondPath : IsPath second)
    (joins : ∀ last ∈ first.getLast?, ∀ next ∈ second.head?, GoesTo last next) :
    IsPath (first ++ second) := by
  induction first with
  | nil => exact secondPath
  | cons state rest ih =>
    cases rest with
    | nil =>
      cases second with
      | nil => exact firstPath
      | cons next others => exact ⟨joins state rfl next rfl, secondPath⟩
    | cons following others =>
      refine ⟨firstPath.1, ih firstPath.2 (fun last ends => joins last ?_)⟩
      rw [List.getLast?_cons_cons]
      exact ends

end TransferState

theorem Delivery.isSent_settle {delivery : Delivery} (sent : delivery.isSent = true)
    (now : Instant) : (settle now delivery).isSent = true := by
  fun_cases settle now delivery <;> simp_all [isSent]

theorem Delivery.isSent_resume {delivery : Delivery} (sent : delivery.isSent = true)
    (now : Instant) (answer : Answer) : (delivery.resume now answer).isSent = true := by
  refine isSent_settle ?_ now
  cases delivery with
  | sending part => cases sent
  | finishing counts part => rfl
  | ended result => rfl

namespace Exchange

variable {exchange : Exchange} {choice : Side} {turn : Turn}

/-- The state that a client is in during an exchange.  The file is streamed until it has been sent
or cannot be sent. -/
def state (exchange : Exchange) : TransferState :=
  match exchange.delivery with
  | .sending _ => .streaming
  | .ended (.error (.transfer .reading _)) => .streaming
  | .ended (.error (.transfer .writing _)) => .streaming
  | _ => .finalizing

theorem state_cases (exchange : Exchange) :
    exchange.state = .streaming ∨ exchange.state = .finalizing := by
  unfold state
  split <;> simp

theorem request_sending {part : Sending} (sending : exchange.delivery = .sending part) :
    exchange.request .outward = part.request := by
  simp only [request, sending, Delivery.request]

theorem request_finishing {counts : SendCounts} {part : Finishing}
    (finishing : exchange.delivery = .finishing counts part) :
    exchange.request .outward = part.request := by
  simp only [request, finishing, Delivery.request]

/-- Once the file has been sent, the client finalizes the transfer, even when that fails. -/
theorem state_finishing {counts : SendCounts} {part : Finishing} {asked : Request}
    (finishing : exchange.delivery = .finishing counts part)
    (asks : part.request = some asked) :
    (exchange.answer asked .outward).state = .finalizing := by
  obtain ⟨now, delivery, draining, drained, streams⟩ := exchange
  cases finishing
  have going : part.FailsAsFinalizing := by
    intro error failed
    simp [Finishing.request, failed] at asks
  let reply := streams.await part.deadline now asked
  have fails := going.resume reply.now reply.answer
  have resumed :
      (answer ⟨now, .finishing counts part, draining, drained, streams⟩ asked .outward).delivery =
        .settle reply.now (.finishing counts (part.resume reply.now reply.answer)) := rfl
  simp only [state, resumed, Delivery.settle]
  cases phase : (part.resume reply.now reply.answer).phase with
  | done result =>
    cases result with
    | ok _ => rfl
    | error error =>
      obtain ⟨cause, rfl⟩ := fails error phase
      rfl
  | _ => rfl

theorem goesTo_take (next : exchange.turn? choice = some turn) :
    TransferState.GoesTo exchange.state (exchange.take turn).state := by
  obtain ⟨-, ⟨side, asked, rfl, polled⟩ | ⟨stop, rfl, -⟩⟩ := turn?_eq_some next
  · have asks := request_of_asked? (poll?_eq_some.1 polled).1
    cases side with
    | inward => exact .stays _
    | outward =>
      cases delivery : exchange.delivery with
      | ended result => simp [request, delivery, Delivery.request] at asks
      | sending part =>
        have streaming : exchange.state = .streaming := by simp only [state, delivery]
        rw [streaming]
        rcases state_cases (exchange.take (.answer .outward asked)) with same | later
        · rw [same]
          exact .stays _
        · rw [later]
          exact .finalizes
      | finishing counts part =>
        have finalizing : exchange.state = .finalizing := by simp only [state, delivery]
        have stays : (exchange.take (.answer .outward asked)).state = .finalizing :=
          state_finishing delivery (request_finishing delivery ▸ asks)
        rw [finalizing, stays]
        exact .stays _
  · exact .stays _

/-- The stages that an exchange goes through, each a turn after the one before it. -/
def course (choices : Nat → Side) (exchange : Exchange) : List Exchange :=
  match _next : exchange.turn? (choices 0) with
  | none => [exchange]
  | some turn => exchange :: course (fun index => choices (index + 1)) (exchange.take turn)
termination_by (exchange.streams.weight, exchange.rank, exchange.isIdle.toNat)
decreasing_by exact take_decreases ‹_›

theorem finish_of_turn?_eq_none {choices : Nat → Side}
    (isOver : exchange.turn? (choices 0) = none) : exchange.finish choices = exchange := by
  rw [finish]
  split
  · rfl
  · rename_i turn next
    rw [isOver] at next
    contradiction

theorem finish_of_turn?_eq_some {choices : Nat → Side}
    (next : exchange.turn? (choices 0) = some turn) :
    exchange.finish choices = (exchange.take turn).finish (fun index => choices (index + 1)) := by
  conv => lhs; rw [finish]
  split
  · rename_i isOver
    rw [isOver] at next
    contradiction
  · rename_i other nextOther
    rw [next] at nextOther
    cases nextOther
    rfl

theorem reaches_of_mem_course {choices : Nat → Side} {stage : Exchange}
    (member : stage ∈ exchange.course choices) : stage.Reaches (exchange.finish choices) := by
  fun_induction course choices exchange with
  | case1 choices exchange isOver =>
    rw [List.mem_singleton.1 member]
    exact (reaches_finish choices .start).1
  | case2 choices exchange turn next ih =>
    rcases List.mem_cons.1 member with rfl | later
    · exact (reaches_finish choices .start).1
    · rw [finish_of_turn?_eq_some next]
      exact ih later

/-- The states on the course of an exchange go from one to the next, up to the state at its end. -/
theorem isPath_course (choices : Nat → Side) (exchange : Exchange) :
    TransferState.IsPath ((exchange.course choices).map state) ∧
      ((exchange.course choices).map state).head? = some exchange.state ∧
      ((exchange.course choices).map state).getLast? = some (exchange.finish choices).state := by
  fun_induction course choices exchange with
  | case1 choices exchange isOver =>
    rw [finish_of_turn?_eq_none isOver]
    exact ⟨trivial, rfl, rfl⟩
  | case2 choices exchange turn next ih =>
    obtain ⟨path, begins, ends⟩ := ih
    rw [finish_of_turn?_eq_some next]
    cases rest : ((exchange.take turn).course fun index => choices (index + 1)).map state with
    | nil => simp [rest] at begins
    | cons first others =>
      rw [rest] at path begins ends
      cases begins
      rw [List.map_cons, rest]
      exact ⟨⟨goesTo_take next, path⟩, rfl, (List.getLast?_cons_cons).trans ends⟩

/-- Once the file has been sent, no turn writes anything. -/
theorem quiet_take (sent : exchange.delivery.isSent = true)
    (next : exchange.turn? choice = some turn) :
    (exchange.take turn).delivery.isSent = true ∧
      Quiet exchange.streams.log.toList (exchange.take turn).streams.log.toList := by
  obtain ⟨-, ⟨side, asked, rfl, polled⟩ | ⟨stop, rfl, -⟩⟩ := turn?_eq_some next
  · have asks := request_of_asked? (poll?_eq_some.1 polled).1
    have noWrite : ∀ octets, asked ≠ .write octets := by
      cases side with
      | inward =>
        rintro octets rfl
        cases side_of_request asks
      | outward =>
        cases delivery : exchange.delivery with
        | sending part => simp [delivery, Delivery.isSent] at sent
        | ended result => simp [request, delivery, Delivery.request] at asks
        | finishing counts part =>
          rw [request_finishing delivery] at asks
          exact Finishing.request_ne_write asks
    refine ⟨?_, _, log_answer exchange asked side, write_not_mem_pollOf exchange noWrite side⟩
    cases side with
    | inward => exact sent
    | outward => exact Delivery.isSent_resume sent _ _
  · refine ⟨sent, ?_⟩
    rw [take, log_sleep]
    exact .refl _

theorem quiet_of_reaches {begun : Exchange} (sent : begun.delivery.isSent = true)
    (reached : begun.Reaches exchange) :
    exchange.delivery.isSent = true ∧
      Quiet begun.streams.log.toList exchange.streams.log.toList := by
  induction reached with
  | start => exact ⟨sent, .refl _⟩
  | turn reached choice next ih =>
    obtain ⟨sent, quiet⟩ := ih
    obtain ⟨sent, quietToo⟩ := quiet_take sent next
    exact ⟨sent, quiet.trans quietToo⟩

/-- A direction is shut down only after the file has been sent. -/
theorem isSent_of_shutdown (shuts : exchange.request .outward = some .shutdown) :
    exchange.delivery.isSent = true := by
  cases delivery : exchange.delivery with
  | sending part =>
    rw [request_sending delivery] at shuts
    exact absurd rfl (Sending.request_ne_shutdown shuts)
  | _ => rfl

theorem Leads.delivery_of_ok {delivered : Progress Delivery} {drained : Progress Draining}
    {counts : SendCounts} (leads : Leads delivered drained exchange)
    (isOver : exchange.turn? choice = none) (succeeds : exchange.outcome = .ok counts) :
    exchange.delivery = .ended (.ok counts) := by
  cases failed : exchange.failure? with
  | some error => simp [outcome, failed] at succeeds
  | none =>
    cases delivery : exchange.delivery with
    | ended result =>
      simp only [outcome, failed, delivery, Delivery.result?] at succeeds
      rw [succeeds]
    | _ =>
      have asksNothing : exchange.request .outward = none :=
        leads.asked?_eq .outward ▸ turn?_eq_none isOver failed .outward
      exact absurd asksNothing (leads.asks (by simp [delivery, Delivery.result?]))

end Exchange

end LineEcho
