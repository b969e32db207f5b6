import LineEcho.Proofs.Transfer.Delivery

/-!
# Two sides that do not disturb each other

Whatever the order is in which the sides of an exchange are polled, each of them is at every moment
on its way to where it comes alone.  The flag that keeps a drained echo from being polled again says
the truth, and the clock never runs ahead of both sides.  `Exchange.Leads` collects these facts and
is kept by every turn.
-/

namespace LineEcho

theorem Draining.keepsTo_inward : machine.KeepsTo .inward :=
  fun _ _ => side_of_request

theorem Draining.request_of_isFinished {draining : Draining}
    (finished : draining.isFinished = true) : draining.request = none := by
  cases result : draining.result <;> simp_all [isFinished, request]

theorem Delivery.request_of_result? {delivery : Delivery} {result : Except Error SendCounts}
    (ended : delivery.result? = some result) : delivery.request = none := by
  cases delivery <;> simp_all [result?, request]

/-- A delivery that has not ended asks for something: it never stays with a part that is done. -/
theorem Delivery.asks_settle (now : Instant) (delivery : Delivery)
    (going : (settle now delivery).result? = none) : (settle now delivery).request ≠ none := by
  cases delivery with
  | sending part =>
    cases phase : part.phase with
    | done result => cases result <;> simp_all [settle, result?, request, Finishing.start,
        Finishing.request]
    | _ => simp_all [settle, request, Sending.request]
  | finishing counts part =>
    cases phase : part.phase with
    | done result => cases result <;> simp_all [settle, result?]
    | _ => simp_all [settle, request, Finishing.request]
  | ended result => simp [settle, result?] at going

namespace Exchange

/-- What a side does, without the other one. -/
def outward (exchange : Exchange) : Progress Delivery :=
  ⟨exchange.now, exchange.delivery, exchange.streams, false⟩

def inward (exchange : Exchange) : Progress Draining :=
  ⟨exchange.now, exchange.draining, exchange.streams, false⟩

/-- Both sides are on their ways, and known to be there as soon as they are. -/
structure Leads (delivered : Progress Delivery) (drained : Progress Draining)
    (exchange : Exchange) : Prop where
  outward : Delivery.machine.Heads delivered exchange.outward
  inward : Draining.machine.Heads drained exchange.inward
  asks : exchange.delivery.result? = none → exchange.delivery.request ≠ none
  drained_eq : exchange.drained = exchange.draining.isFinished
  now_le : exchange.now ≤ max delivered.now drained.now

variable {delivered : Progress Delivery} {drained : Progress Draining} {exchange : Exchange}
  {side : Side} {asked : Request} {stop : Instant}

namespace Leads

/-- A side asks for nothing more when it is no longer polled. -/
theorem asked?_eq (leads : Leads delivered drained exchange) (side : Side) :
    exchange.asked? side = exchange.request side := by
  rw [asked?]
  split
  · rfl
  · rename_i unpolled
    symm
    cases side with
    | outward =>
      obtain ⟨result, ended⟩ : ∃ result, exchange.delivery.result? = some result :=
        Option.ne_none_iff_exists'.1 (by simpa [isPolled] using unpolled)
      exact Delivery.request_of_result? ended
    | inward =>
      have finished : exchange.drained = true := by simpa [isPolled] using unpolled
      exact Draining.request_of_isFinished (leads.drained_eq ▸ finished)

/-- As long as nothing has failed, exactly those sides are polled that have something to ask for. -/
theorem isPolled_eq (leads : Leads delivered drained exchange) (unfailed : exchange.failure? = none)
    (side : Side) : exchange.isPolled side = (exchange.request side).isSome := by
  cases side with
  | outward =>
    cases ended : exchange.delivery.result? with
    | none => simp [isPolled, request, ended, Option.isSome_iff_ne_none, leads.asks ended]
    | some result => simp [isPolled, request, ended, Delivery.request_of_result? ended]
  | inward =>
    cases ended : exchange.draining.result with
    | none =>
      simp [isPolled, request, Draining.request, leads.drained_eq, Draining.isFinished, ended]
    | some result =>
      cases result with
      | ok _ =>
        simp [isPolled, request, Draining.request, leads.drained_eq, Draining.isFinished, ended]
      | error fault =>
        simp only [failure?, ended] at unfailed
        split at unfailed <;> simp_all

theorem answeredAt_le (leads : Leads delivered drained exchange)
    (asks : exchange.request side = some asked) :
    exchange.answeredAt side asked ≤ max delivered.now drained.now := by
  cases side with
  | outward => exact Nat.le_trans (leads.outward.answered_le asks) (Nat.le_max_left _ _)
  | inward => exact Nat.le_trans (leads.inward.answered_le asks) (Nat.le_max_right _ _)

/-- An answer takes the side that gets it further, and the other one notices nothing. -/
theorem answer (leads : Leads delivered drained exchange)
    (asks : exchange.request side = some asked)
    (answered : exchange.answeredAt side asked = exchange.now) :
    Leads delivered drained (exchange.answer asked side) := by
  have about := side_of_request asks
  cases side with
  | outward =>
    have going : Delivery.machine.request exchange.outward.state = some asked := asks
    -- the draining is answered from scripts that this answer does not touch
    have elsewhere : asked.side ≠ .inward := by
      rw [about]
      decide
    have untouched := Streams.only_await elsewhere exchange.delivery.deadline exchange.now
      exchange.streams
    refine ⟨?_, ?_, ?_, leads.drained_eq, leads.now_le⟩
    · exact (leads.outward.advance going).congr Delivery.keepsTo_outward ⟨answered, rfl, rfl⟩
    · exact leads.inward.congr Draining.keepsTo_inward ⟨rfl, rfl, untouched.symm⟩
    · exact Delivery.asks_settle _ _
  | inward =>
    have going : Draining.machine.request exchange.inward.state = some asked := asks
    have elsewhere : asked.side ≠ .outward := by
      rw [about]
      decide
    have untouched := Streams.only_await elsewhere exchange.draining.deadline exchange.now
      exchange.streams
    refine ⟨?_, ?_, leads.asks, rfl, leads.now_le⟩
    · exact leads.outward.congr Delivery.keepsTo_outward ⟨rfl, rfl, untouched.symm⟩
    · exact (leads.inward.advance going).congr Draining.keepsTo_inward ⟨answered, rfl, rfl⟩

/-- Sleeping until a side is answered takes neither of them anywhere else. -/
theorem sleep (leads : Leads delivered drained exchange) (wakes : exchange.wake? = some stop) :
    Leads delivered drained (exchange.sleep stop) := by
  obtain ⟨⟨side, asked, asks, answered⟩, first⟩ := wake?_eq_some wakes
  have forward : exchange.now ≤ stop := answered ▸ now_le_answeredAt _ _ _
  -- a side that asks for nothing is done, and one that asks is answered no earlier than the sleep
  -- is over
  refine ⟨?_, ?_, leads.asks, leads.drained_eq, ?_⟩
  · cases waits : exchange.request .outward with
    | none => exact leads.outward.stay waits rfl forward
    | some waiting =>
      have polled := (leads.asked?_eq _).trans waits
      have same := await_sleep polled forward (first _ _ polled)
      exact leads.outward.wait Delivery.keepsTo_outward waits rfl same
  · cases waits : exchange.request .inward with
    | none => exact leads.inward.stay waits rfl forward
    | some waiting =>
      have polled := (leads.asked?_eq _).trans waits
      have same := await_sleep polled forward (first _ _ polled)
      exact leads.inward.wait Draining.keepsTo_inward waits rfl same
  · exact answered ▸ leads.answeredAt_le (request_of_asked? asks)

theorem take (leads : Leads delivered drained exchange) {choice : Side} {turn : Turn}
    (next : exchange.turn? choice = some turn) :
    Leads delivered drained (exchange.take turn) := by
  obtain ⟨-, ⟨side, asked, rfl, polled⟩ | ⟨stop, rfl, wakes, -⟩⟩ := turn?_eq_some next
  · obtain ⟨asks, answered⟩ := poll?_eq_some.1 polled
    exact leads.answer (request_of_asked? asks) answered
  · exact leads.sleep wakes

end Leads

/-- The exchanges that one comes to by turns, whatever is chosen before each of them. -/
inductive Reaches (begun : Exchange) : Exchange → Prop where
  | start : Reaches begun begun
  | turn {exchange : Exchange} (reached : Reaches begun exchange) (choice : Side) {turn : Turn}
      (next : exchange.turn? choice = some turn) : Reaches begun (exchange.take turn)

theorem Leads.of_reaches {begun : Exchange} (leads : Leads delivered drained begun)
    (reached : begun.Reaches exchange) : Leads delivered drained exchange := by
  induction reached with
  | start => exact leads
  | turn _ choice next ih => exact ih.take next

/-- An exchange comes to its end by turns, and then there is no other. -/
theorem reaches_finish {begun : Exchange} (choices : Nat → Side)
    (reached : begun.Reaches exchange) :
    begun.Reaches (exchange.finish choices) ∧
      ∃ choice, (exchange.finish choices).turn? choice = none := by
  fun_induction finish choices exchange with
  | case1 choices exchange isOver => exact ⟨reached, _, isOver⟩
  | case2 choices exchange turn next ih => exact ih (reached.turn _ next)

/-- An exchange is over when a side has failed or both ask for nothing. -/
theorem turn?_eq_none {choice : Side} (isOver : exchange.turn? choice = none)
    (unfailed : exchange.failure? = none) (side : Side) : exchange.asked? side = none := by
  simp only [turn?, unfailed, Option.isSome_none, Bool.false_eq_true, if_false] at isOver
  split at isOver
  · contradiction
  · contradiction
  · have nobodyWaits : exchange.wake? = none := by simpa using isOver
    have none_of := List.min?_eq_none_iff.1 nobodyWaits
    have := List.filterMap_eq_nil_iff.1 none_of side side.mem_all
    simpa [wakeOf?] using this

end Exchange

end LineEcho
