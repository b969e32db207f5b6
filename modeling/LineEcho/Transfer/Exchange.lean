import LineEcho.Stream.Sides
import LineEcho.Transfer.Delivery
import LineEcho.Transfer.Draining

/-!
# Sending and draining alongside each other

A delivery and the draining of its echo share a connection and a clock. Each time round both are
polled, in an order that is a choice, and the first that finds an answer goes on; when neither does,
both wait, and the clock moves on to the first moment at which one of them will. A side is polled as
long as it is not known to be done. An exchange is over when one side has failed or both are done.

A choice is made before every single answer. So the orders in which a side, once it is polled, goes
on until there is no answer for it are among those that choices give.
-/

namespace LineEcho

/-- A delivery keeps to the side that goes out. -/
theorem Delivery.side_of_request {delivery : Delivery} {asked : Request}
    (asks : delivery.request = some asked) : asked.side = .outward := by
  simp only [request] at asks
  split at asks
  · simp only [Sending.request] at asks
    split at asks <;> cases asks <;> rfl
  · simp only [Finishing.request] at asks
    split at asks <;> cases asks <;> rfl
  · contradiction

theorem Draining.side_of_request {draining : Draining} {asked : Request}
    (asks : draining.request = some asked) : asked.side = .inward := by
  simp only [request] at asks
  split at asks <;> cases asks
  rfl

/-- A delivery and the draining of its echo: the moment, how far each of them is, whether the echo
is known to be at its end, and the streams of the connection and of the file. -/
structure Exchange where
  now : Instant
  delivery : Delivery
  draining : Draining
  drained : Bool
  streams : Streams

namespace Exchange

/-- An exchange that begins at a moment. The echo's limit counts from then on. -/
def start (now : Instant) (source : LineSource) (writeTimeout echoTimeout : Option Duration)
    (receipt : Receipt) (streams : Streams) : Exchange :=
  ⟨now, .start now source writeTimeout, .start now echoTimeout receipt, false, streams⟩

/-- The error of an echo that could not be drained. -/
def echoError (fault : Fault) : Error :=
  .transfer .finalizing fault

/-- The error of the side that has failed, if one has. -/
def failure? (exchange : Exchange) : Option Error :=
  match exchange.delivery.result?, exchange.draining.result with
  | some (.error error), _ => some error
  | _, some (.error fault) => some (echoError fault)
  | _, _ => none

/-- Whether a side is polled: the delivery until it has ended, the draining until the echo is known
to be at its end. -/
def isPolled (exchange : Exchange) : Side → Bool
  | .outward => exchange.delivery.result?.isNone
  | .inward => !exchange.drained

/-- What a side asks for. -/
def request (exchange : Exchange) : Side → Option Request
  | .outward => exchange.delivery.request
  | .inward => exchange.draining.request

def deadline (exchange : Exchange) : Side → Option Deadline
  | .outward => exchange.delivery.deadline
  | .inward => exchange.draining.deadline

/-- What a side asks for when it is polled. -/
def asked? (exchange : Exchange) (side : Side) : Option Request :=
  if exchange.isPolled side then exchange.request side else none

/-- The moment at which a request of a side is answered. -/
def answeredAt (exchange : Exchange) (side : Side) (asked : Request) : Instant :=
  (exchange.streams.await (exchange.deadline side) exchange.now asked).now

/-- Polls a side: its request, if there is an answer to it at this moment. -/
def poll? (exchange : Exchange) (side : Side) : Option Request :=
  (exchange.asked? side).filter (fun asked => exchange.answeredAt side asked = exchange.now)

/-- The moment for which a side waits. -/
def wakeOf? (exchange : Exchange) (side : Side) : Option Instant :=
  (exchange.asked? side).map (exchange.answeredAt side)

/-- The first moment for which a side waits. -/
def wake? (exchange : Exchange) : Option Instant :=
  (Side.all.filterMap exchange.wakeOf?).min?

/-- What happens next: a side is answered, or time passes up to a moment. -/
inductive Turn where
  | answer (side : Side) (asked : Request)
  | sleep (stop : Instant)

/-- Polls the sides, the chosen one first, and has them wait if there is no answer for either. -/
def turn? (choice : Side) (exchange : Exchange) : Option Turn :=
  if exchange.failure?.isSome then none
  else
    match exchange.poll? choice, exchange.poll? choice.other with
    | some asked, _ => some (.answer choice asked)
    | none, some asked => some (.answer choice.other asked)
    | none, none => exchange.wake?.map .sleep

def answer (exchange : Exchange) (asked : Request) : Side → Exchange
  | .outward =>
    let progress := Delivery.machine.advance
      ⟨exchange.now, exchange.delivery, exchange.streams, false⟩ asked
    { exchange with delivery := progress.state, streams := progress.streams }
  | .inward =>
    let progress := Draining.machine.advance
      ⟨exchange.now, exchange.draining, exchange.streams, false⟩ asked
    { exchange with
      draining := progress.state, drained := progress.state.isFinished,
      streams := progress.streams }

/-- The streams once a side that is polled has waited in vain up to a moment. -/
def lapse (exchange : Exchange) (stop : Instant) (side : Side) (streams : Streams) : Streams :=
  match exchange.asked? side with
  | some asked => streams.lapse exchange.now stop asked
  | none => streams

def sleep (stop : Instant) (exchange : Exchange) : Exchange :=
  { exchange with
    now := stop
    streams := exchange.lapse stop .inward (exchange.lapse stop .outward exchange.streams) }

def take (exchange : Exchange) : Turn → Exchange
  | .answer side asked => exchange.answer asked side
  | .sleep stop => exchange.sleep stop

/-- How far the two sides are from their ends. -/
def rank (exchange : Exchange) : Nat :=
  exchange.delivery.rank + exchange.draining.rank

/-- Whether there is no answer for either side at this moment. -/
def isIdle (exchange : Exchange) : Bool :=
  (exchange.poll? .outward).isNone && (exchange.poll? .inward).isNone

variable {exchange : Exchange} {side : Side} {asked : Request} {stop : Instant}

theorem isPolled_of_asked? (asks : exchange.asked? side = some asked) :
    exchange.isPolled side = true := by
  unfold asked? at asks
  split at asks
  · assumption
  · contradiction

theorem request_of_asked? (asks : exchange.asked? side = some asked) :
    exchange.request side = some asked := by
  rwa [asked?, if_pos (isPolled_of_asked? asks)] at asks

theorem poll?_eq_some :
    exchange.poll? side = some asked ↔
      exchange.asked? side = some asked ∧ exchange.answeredAt side asked = exchange.now := by
  simp [poll?, Option.filter_eq_some_iff]

theorem side_of_request (asks : exchange.request side = some asked) : asked.side = side := by
  cases side with
  | outward => exact Delivery.side_of_request asks
  | inward => exact Draining.side_of_request asks

theorem now_le_answeredAt (exchange : Exchange) (side : Side) (asked : Request) :
    exchange.now ≤ exchange.answeredAt side asked :=
  Streams.le_now_await _ _ _ _

theorem wake?_eq_some (wakes : exchange.wake? = some stop) :
    (∃ side asked, exchange.asked? side = some asked ∧ exchange.answeredAt side asked = stop) ∧
      ∀ side asked, exchange.asked? side = some asked →
        stop ≤ exchange.answeredAt side asked := by
  obtain ⟨waits, first⟩ := List.min?_eq_some_iff.1 wakes
  obtain ⟨side, -, wakesOf⟩ := List.mem_filterMap.1 waits
  obtain ⟨asked, asks, answered⟩ := Option.map_eq_some_iff.1 wakesOf
  refine ⟨⟨side, asked, asks, answered⟩, fun other asked asks => first _ ?_⟩
  refine List.mem_filterMap.2 ⟨other, other.mem_all, ?_⟩
  rw [wakeOf?, asks, Option.map_some]

theorem only_lapse {other : Side} (different : side ≠ other) (stop : Instant) (streams : Streams) :
    (exchange.lapse stop other streams).only side = streams.only side := by
  unfold lapse
  split
  · rename_i asked asks
    have sameSide := side_of_request (request_of_asked? asks)
    exact Streams.only_lapse (fun same => different (same.symm.trans sameSide)) _ _ _
  · rfl

theorem weight_lapse_le (stop : Instant) (side : Side) (streams : Streams) :
    (exchange.lapse stop side streams).weight ≤ streams.weight := by
  unfold lapse
  split
  · exact Streams.weight_lapse_le _ _ _ _
  · exact Nat.le_refl _

/-- Sleeping, a side that is polled waits in vain on its own scripts. -/
theorem only_sleep (asks : exchange.asked? side = some asked) (stop : Instant) :
    (exchange.sleep stop).streams.only side =
      (exchange.streams.lapse exchange.now stop asked).only side := by
  have sameSide := side_of_request (request_of_asked? asks)
  cases side with
  | outward =>
    simp only [sleep]
    rw [only_lapse (by decide), lapse, asks]
  | inward =>
    have untouched : (exchange.lapse stop .outward exchange.streams).only .inward =
        exchange.streams.only .inward := only_lapse (by decide) _ _
    simp only [sleep]
    rw [lapse.eq_def exchange stop .inward, asks]
    rw [← sameSide] at untouched ⊢
    exact Streams.lapse_congr untouched _ _

/-- Sleeping no longer than up to an answer changes nothing of the answer. -/
theorem await_sleep (asks : exchange.asked? side = some asked) (forward : exchange.now ≤ stop)
    (early : stop ≤ exchange.answeredAt side asked) :
    Streams.SameReply side
      ((exchange.sleep stop).streams.await (exchange.deadline side) stop asked)
      (exchange.streams.await (exchange.deadline side) exchange.now asked) := by
  have sameSide := side_of_request (request_of_asked? asks)
  have waited := only_sleep asks stop
  subst sameSide
  have same := Streams.await_congr waited (exchange.deadline asked.side) stop
  rwa [Streams.await_lapse forward early] at same

theorem weight_sleep_le (stop : Instant) :
    (exchange.sleep stop).streams.weight ≤ exchange.streams.weight :=
  Nat.le_trans (weight_lapse_le _ _ _) (weight_lapse_le _ _ _)

/-- Whoever sleeps until a side is answered finds its answer. -/
theorem isIdle_sleep (wakes : exchange.wake? = some stop) :
    (exchange.sleep stop).isIdle = false := by
  obtain ⟨⟨side, asked, asks, answered⟩, -⟩ := wake?_eq_some wakes
  have forward : exchange.now ≤ stop := answered ▸ now_le_answeredAt _ _ _
  have same := await_sleep asks forward (Nat.le_of_eq answered.symm)
  have found : (exchange.sleep stop).poll? side = some asked :=
    poll?_eq_some.2 ⟨asks, same.now_eq.trans answered⟩
  cases side <;> simp [isIdle, found]

/-- A side is answered when it asks for something, and the exchange sleeps when it is idle. -/
theorem turn?_eq_some {choice : Side} {turn : Turn} (next : exchange.turn? choice = some turn) :
    exchange.failure? = none ∧
      ((∃ side asked, turn = .answer side asked ∧ exchange.poll? side = some asked) ∨
        ∃ stop, turn = .sleep stop ∧ exchange.wake? = some stop ∧ exchange.isIdle = true) := by
  unfold turn? at next
  split at next
  · contradiction
  · rename_i unfailed
    refine ⟨by simpa using unfailed, ?_⟩
    split at next
    · cases next
      exact .inl ⟨_, _, rfl, ‹_›⟩
    · cases next
      exact .inl ⟨_, _, rfl, ‹_›⟩
    · rename_i chosen other
      obtain ⟨stop, wakes, rfl⟩ := Option.map_eq_some_iff.1 next
      refine .inr ⟨stop, rfl, wakes, ?_⟩
      cases choice <;> simp_all [isIdle, Side.other]

/-- Answering a side uses up a script or lowers the rank. -/
theorem answer_decreases (asks : exchange.request side = some asked) :
    (exchange.answer asked side).streams.weight < exchange.streams.weight ∨
      ((exchange.answer asked side).streams.weight = exchange.streams.weight ∧
        (exchange.answer asked side).rank < exchange.rank) := by
  cases side with
  | outward =>
    have decreases := Delivery.machine.advance_decreases
      ⟨exchange.now, exchange.delivery, exchange.streams, false⟩ asked asks
    rcases Prod.lex_def.1 decreases with fewer | ⟨same, lower⟩
    · exact .inl fewer
    · exact .inr ⟨same, Nat.add_lt_add_right lower _⟩
  | inward =>
    have decreases := Draining.machine.advance_decreases
      ⟨exchange.now, exchange.draining, exchange.streams, false⟩ asked asks
    rcases Prod.lex_def.1 decreases with fewer | ⟨same, lower⟩
    · exact .inl fewer
    · exact .inr ⟨same, Nat.add_lt_add_left lower _⟩

/-- Every turn uses up a script, lowers the rank or wakes an idle exchange. -/
theorem take_decreases {choice : Side} {turn : Turn} (next : exchange.turn? choice = some turn) :
    Prod.Lex (· < ·) (Prod.Lex (· < ·) (· < ·))
      ((exchange.take turn).streams.weight, (exchange.take turn).rank,
        (exchange.take turn).isIdle.toNat)
      (exchange.streams.weight, exchange.rank, exchange.isIdle.toNat) := by
  obtain ⟨-, ⟨side, asked, rfl, polled⟩ | ⟨stop, rfl, wakes, idle⟩⟩ := turn?_eq_some next
  · have asks := request_of_asked? (poll?_eq_some.1 polled).1
    rcases answer_decreases asks with fewer | ⟨same, lower⟩
    · exact .left _ _ fewer
    · exact Prod.lex_def.2 (.inr ⟨same, .left _ _ lower⟩)
  · rcases Nat.lt_or_eq_of_le (weight_sleep_le stop) with fewer | same
    · exact .left _ _ fewer
    · refine Prod.lex_def.2 (.inr ⟨same, Prod.lex_def.2 (.inr ⟨rfl, ?_⟩)⟩)
      simp [take, isIdle_sleep wakes, idle]

/-- Gives the sides their turns until the exchange is over. The choices are taken one after
another. -/
def finish (choices : Nat → Side) (exchange : Exchange) : Exchange :=
  match _next : exchange.turn? (choices 0) with
  | none => exchange
  | some turn => finish (fun index => choices (index + 1)) (exchange.take turn)
termination_by (exchange.streams.weight, exchange.rank, exchange.isIdle.toNat)
decreasing_by exact take_decreases ‹_›

/-- The outcome of an exchange that is over. -/
def outcome (exchange : Exchange) : Except Error SendCounts :=
  match exchange.failure?, exchange.delivery.result? with
  | some error, _ => .error error
  | none, some result => result
  | none, none => .ok default

end Exchange

end LineEcho
