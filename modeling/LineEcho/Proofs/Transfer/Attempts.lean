import LineEcho.Proofs.Receipt
import LineEcho.Proofs.Stream.Alone
import LineEcho.Proofs.Stream.Resuming
import LineEcho.Transfer.Draining

/-!
# Draining in several attempts

An attempt to read the echo to its end may fail, because a read fails or because its limit runs out,
and be followed by another one with the same receipt.  Nothing is lost between them and nothing is
read twice.  The limit covers an attempt as a whole and begins anew with the next one, while a wait
that was running goes on: an attempt that is cut off and the next one without a limit together come
to what the first one would have come to without a limit.
-/

namespace LineEcho

namespace Poll

/-- A read that the stream answered with some octets. -/
def Delivers (poll : Poll) : Prop :=
  poll.late = false ∧ poll.chunk?.isSome = true

end Poll

namespace Draining

/-- A read that ends an attempt, and how: there was nothing more to read, or the read failed. -/
inductive Ends : Poll → Except Fault Unit → Prop where
  | finished : Ends ⟨.read room, .received [], false⟩ (.ok ())
  | failed (fault : Fault) (late : Bool) :
      Ends ⟨.read room, .failed fault, late⟩ (.error fault)

/-- What an attempt has read since it began with a receipt: every read but the last one delivered
something, all of which was recorded, and the last one ends the attempt. -/
structure Records (receipt : Receipt) (progress : Progress Draining) (past : List Poll) : Prop where
  receipt_eq : progress.state.receipt = (deliveredChunks past).foldl Receipt.record receipt
  polled :
    match progress.state.result with
    | none => progress.late = false ∧ ∀ poll ∈ past, poll.Delivers
    | some result => ∃ earlier last, past = earlier ++ [last] ∧
        (∀ poll ∈ earlier, poll.Delivers) ∧ last.late = progress.late ∧ Ends last result

variable {receipt : Receipt} {progress : Progress Draining} {past : List Poll}

theorem result_of_request {draining : Draining} {asked : Request}
    (asks : draining.request = some asked) : draining.result = none ∧ asked = .read room := by
  unfold request at asks
  split at asks
  · rename_i going
    exact ⟨Option.isNone_iff_eq_none.1 going, (Option.some.inj asks).symm⟩
  · contradiction

theorem late_of_received {deadline : Option Deadline} {now : Instant} {streams : Streams}
    {asked : Request} {octets : Bytes}
    (received : (streams.await deadline now asked).answer = .received octets) :
    (streams.await deadline now asked).late = false := by
  rw [← Bool.not_eq_true]
  intro late
  obtain ⟨bound, -, failed⟩ := Streams.await_late late
  rw [failed] at received
  contradiction

/-- A read that ends the attempt delivers nothing. -/
theorem Records.stop {next : Progress Draining} {poll : Poll} {result : Except Fault Unit}
    (records : Records receipt progress past) (going : progress.state.result = none)
    (ends : Ends poll result)
    (state_eq : next.state = { progress.state with result := some result })
    (late_eq : next.late = poll.late) : Records receipt next (past ++ [poll]) := by
  obtain ⟨receipt_eq, polled⟩ := records
  rw [going] at polled
  have nothing : poll.chunk? = none := by cases ends <;> rfl
  refine ⟨?_, ?_⟩
  · rw [state_eq, deliveredChunks_concat, nothing, Option.toList_none, List.append_nil]
    exact receipt_eq
  · rw [state_eq]
    exact ⟨past, poll, rfl, polled.2, late_eq.symm, ends⟩

/-- What a read delivers is recorded. -/
theorem Records.take {next : Progress Draining} {octet : UInt8} {octets : Bytes}
    (records : Records receipt progress past) (going : progress.state.result = none)
    (state_eq : next.state =
      { progress.state with receipt := progress.state.receipt.record (octet :: octets) })
    (late_eq : next.late = false) :
    Records receipt next (past ++ [⟨.read room, .received (octet :: octets), false⟩]) := by
  obtain ⟨receipt_eq, polled⟩ := records
  rw [going] at polled
  refine ⟨?_, ?_⟩
  · rw [state_eq, receipt_eq]
    simp [Poll.chunk?]
  · rw [state_eq]
    simp only [going]
    exact ⟨late_eq, forall_polls_concat polled.2 ⟨rfl, rfl⟩⟩

theorem Records.advance (records : Records receipt progress past) {asked : Request}
    (asks : machine.request progress.state = some asked) :
    Records receipt (machine.advance progress asked) (past ++ [machine.poll progress asked]) := by
  obtain ⟨going, rfl⟩ := result_of_request asks
  have inTime : progress.late = false := by
    have polled := records.polled
    rw [going] at polled
    exact polled.1
  have fits := Streams.await_fits (machine.deadline progress.state) progress.now progress.streams
    (.read room)
  cases answer : (progress.streams.await (machine.deadline progress.state) progress.now
      (.read room)).answer with
  | accepted count => rw [answer] at fits; cases fits
  | interrupted => rw [answer] at fits; cases fits
  | completed => rw [answer] at fits; cases fits
  | failed fault =>
    have ends : Ends (machine.poll progress (.read room)) (.error fault) := by
      simp only [Machine.poll, answer]
      exact .failed fault _
    refine records.stop going ends ?_ ?_
    · simp only [Machine.advance, answer]
      rfl
    · simp only [Machine.advance, Machine.poll, inTime, Bool.false_or]
  | received octets =>
    have punctual := late_of_received answer
    have poll_eq : machine.poll progress (.read room) = ⟨.read room, .received octets, false⟩ := by
      simp only [Machine.poll, answer, punctual]
    have late_eq : (machine.advance progress (.read room)).late = false := by
      simp only [Machine.advance, inTime, punctual, Bool.or_self]
    rw [poll_eq]
    cases octets with
    | nil =>
      refine records.stop going .finished ?_ late_eq
      simp only [Machine.advance, answer]
      rfl
    | cons octet octets =>
      refine records.take going ?_ late_eq
      simp only [Machine.advance, answer]
      rfl

/-! ### With and without a limit -/

/-- The same attempt without a limit. -/
def Freed (draining free : Draining) : Prop :=
  free = { draining with deadline := none }

theorem deadline_resume (now : Instant) (answer : Answer) (draining : Draining) :
    (draining.resume now answer).deadline = draining.deadline := by
  fun_cases resume now answer draining <;> rfl

theorem deadline_advance (progress : Progress Draining) (asked : Request) :
    (machine.advance progress asked).state.deadline = progress.state.deadline := by
  let reply := progress.streams.await (machine.deadline progress.state) progress.now asked
  exact deadline_resume reply.now reply.answer progress.state

theorem eases_freed : machine.Eases Freed where
  request_eq := by
    rintro draining free rfl
    rfl
  resume := by
    rintro draining free rfl now answer
    show resume now answer _ = { resume now answer draining with deadline := none }
    cases answer with
    | received octets => cases octets <;> rfl
    | _ => rfl
  noSooner := by
    rintro draining free rfl bound given
    contradiction

/-- An attempt that was cut off at its deadline, beside the one without a limit, which ends later:
going on without a limit leads to the end of that. -/
structure Expires (bound : Deadline) (ended unlimited : Progress Draining) : Prop where
  result_eq : ended.state.result = some (.error (.noProgress bound.limit))
  now_eq : ended.now = bound.instant
  early : ended.now < unlimited.now
  resumes : run ended.now none ended.state.receipt ended.streams = unlimited

/-- A read that is cut off ends the attempt, and leaves the rest to one without a limit. -/
theorem expires_of_cutOff {now : Instant} {deadline : Option Deadline} {streams : Streams}
    (cutOff : Streams.CutOff deadline (.read room) (streams.await deadline now (.read room))
      (streams.await none now (.read room))) :
    ∃ bound, deadline = some bound ∧
      Expires bound (machine.finish ⟨now, ⟨receipt, deadline, none⟩, streams, false⟩)
        (run now none receipt streams) := by
  obtain ⟨⟨bound, given, now_eq, answer⟩, early, again⟩ := cutOff
  -- whenever it begins, an attempt begins with a read
  have begins : ∀ deadline later left,
      machine.finish ⟨later, ⟨receipt, deadline, none⟩, left, false⟩ =
        machine.finish (machine.advance ⟨later, ⟨receipt, deadline, none⟩, left, false⟩
          (.read room)) :=
    fun deadline later left => machine.finish_of_request_eq_some rfl
  have advanced : machine.advance ⟨now, ⟨receipt, deadline, none⟩, streams, false⟩ (.read room) =
      ⟨(streams.await deadline now (.read room)).now,
        ⟨receipt, deadline, some (.error (.noProgress bound.limit))⟩,
        (streams.await deadline now (.read room)).streams,
        (streams.await deadline now (.read room)).late⟩ := by
    have deadline_eq : machine.deadline ⟨receipt, deadline, none⟩ = deadline := rfl
    simp only [Machine.advance, deadline_eq, answer, Bool.false_or]
    rfl
  have unlimited : run now none receipt streams = machine.finish (machine.advance
      ⟨now, ⟨receipt, none, none⟩, streams, false⟩ (.read room)) :=
    begins none now streams
  rw [begins, advanced, machine.finish_of_request_eq_none rfl]
  refine ⟨bound, given, rfl, now_eq, ?_, ?_⟩
  · refine Nat.lt_of_lt_of_le early ?_
    exact @Machine.now_await_le_finish _ machine ⟨now, ⟨receipt, none, none⟩, streams, false⟩ _ rfl
  · rw [unlimited]
    refine (begins none _ _).trans (congrArg machine.finish ?_)
    have deadline_eq : machine.deadline ⟨receipt, none, none⟩ = none := rfl
    simp only [Machine.advance, deadline_eq, again]

variable {free : Progress Draining}

theorem eq_of_inStep (inStep : Machine.InStep Freed progress free)
    (going : progress.state.result = none) (inTime : progress.late = false) :
    free = ⟨progress.now, ⟨progress.state.receipt, none, none⟩, progress.streams, false⟩ := by
  obtain ⟨now, state, streams, late⟩ := free
  obtain ⟨rfl, state_eq, rfl, late_eq⟩ := inStep
  rw [show state = _ from state_eq, show late = _ from late_eq, inTime, going]

/-- An attempt is cut off, or it comes to the same end in time as without a limit. -/
theorem finish_beside (inStep : Machine.InStep Freed progress free) (inTime : progress.late = false)
    (early : Deadline.Allows progress.state.deadline progress.now) :
    let ended := machine.finish progress
    (ended.late = true ∧
        ∃ bound, progress.state.deadline = some bound ∧ Expires bound ended (machine.finish free)) ∨
      (ended.late = false ∧ Machine.InStep Freed ended (machine.finish free) ∧
        Deadline.Allows progress.state.deadline ended.now) := by
  fun_induction Machine.finish machine progress generalizing free with
  | case1 progress asks =>
    rw [machine.finish_of_request_eq_none ((eases_freed.request_eq inStep.state).trans asks)]
    exact .inr ⟨inTime, inStep, early⟩
  | case2 progress asked asks ih =>
    obtain ⟨going, rfl⟩ := result_of_request asks
    obtain ⟨late, cutOff⟩ | ⟨punctual, earlyStill⟩ :=
      Streams.await_of_allows early progress.streams (.read room)
    · refine .inl ⟨?_, ?_⟩
      · refine Machine.late_finish_of_late ?_
        exact Bool.or_eq_true_iff.2 (.inr late)
      · have progress_eq : ⟨progress.now, ⟨progress.state.receipt, progress.state.deadline, none⟩,
            progress.streams, false⟩ = progress := by
          rw [← going, ← inTime]
        have expires := @expires_of_cutOff progress.state.receipt _ _ _ cutOff
        rw [progress_eq, machine.finish_of_request_eq_some asks] at expires
        rw [eq_of_inStep inStep going inTime]
        exact expires
    · have asksToo := (eases_freed.request_eq inStep.state).trans asks
      rw [machine.finish_of_request_eq_some asksToo]
      have inTimeStill : (machine.advance progress (.read room)).late = false :=
        Bool.or_eq_false_iff.2 ⟨inTime, punctual⟩
      have advanced := ih (inStep.advance eases_freed punctual) inTimeStill
      rw [deadline_advance] at advanced
      exact advanced earlyStill

/-! ### Attempts one after another -/

/-- Where draining stands between two attempts. -/
structure Standing where
  now : Instant
  receipt : Receipt
  streams : Streams

namespace Standing

/-- Where an attempt has left the receipt and the stream. -/
def left (ended : Progress Draining) : Standing :=
  ⟨ended.now, ended.state.receipt, ended.streams⟩

def attempt (limit : Option Duration) (standing : Standing) : Progress Draining :=
  run standing.now limit standing.receipt standing.streams

/-- The reads of an attempt. -/
def polls (limit : Option Duration) (standing : Standing) : List Poll :=
  machine.polls
    ⟨standing.now, start standing.now limit standing.receipt, standing.streams, false⟩

/-- Where so many attempts lead, one after another and each with the same limit. -/
def after (limit : Option Duration) (standing : Standing) : Nat → Standing
  | 0 => standing
  | count + 1 => left ((standing.after limit count).attempt limit)

/-- The octets that so many attempts were delivered. -/
def delivered (limit : Option Duration) (standing : Standing) (count : Nat) : Bytes :=
  (List.range count).flatMap
    (fun index => deliveredOctets ((standing.after limit index).polls limit))

theorem delivered_succ (limit : Option Duration) (standing : Standing) (count : Nat) :
    standing.delivered limit (count + 1) =
      standing.delivered limit count ++
        deliveredOctets ((standing.after limit count).polls limit) := by
  simp [delivered, List.range_succ]

theorem records_attempt (limit : Option Duration) (standing : Standing) :
    Records standing.receipt (standing.attempt limit) (standing.polls limit) := by
  have kept := machine.finish_polls_invariant (Records standing.receipt)
    (fun _ _ _ asks records => records.advance asks)
    ⟨standing.now, start standing.now limit standing.receipt, standing.streams, false⟩ []
    ⟨rfl, rfl, by simp⟩
  exact kept

/-- What was delivered so far is recorded, and is no longer in the script. -/
theorem recorded_after (capture : Bool) (limit : Option Duration) (now : Instant)
    (streams : Streams) (count : Nat) :
    let begun : Standing := ⟨now, .empty capture, streams⟩
    (begun.after limit count).receipt = .ofOctets capture (begun.delivered limit count) ∧
      Incoming.payload streams.incoming.steps = begun.delivered limit count ++
        Incoming.payload (begun.after limit count).streams.incoming.steps := by
  intro begun
  induction count with
  | zero => exact ⟨rfl, rfl⟩
  | succ count ih =>
    obtain ⟨receipt_eq, payload_eq⟩ := ih
    let before := begun.after limit count
    have recorded := (before.records_attempt limit).receipt_eq
    have consumed := machine.payload_finish
      ⟨before.now, start before.now limit before.receipt, before.streams, false⟩
    rw [delivered_succ]
    refine ⟨?_, ?_⟩
    · show (before.attempt limit).state.receipt = _
      rw [recorded, receipt_eq, Receipt.foldl_record]
      rfl
    · rw [payload_eq, List.append_assoc]
      exact congrArg _ consumed.symm

/-- An attempt ends with its last read, which tells how. -/
theorem exists_last (limit : Option Duration) (standing : Standing) :
    ∃ earlier last result, standing.polls limit = earlier ++ [last] ∧
      (∀ poll ∈ earlier, poll.Delivers) ∧ last.late = (standing.attempt limit).late ∧
      (standing.attempt limit).state.result = some result ∧ Ends last result := by
  have polled := (standing.records_attempt limit).polled
  cases ended : (standing.attempt limit).state.result with
  | none =>
    have asksNothing : (standing.attempt limit).state.request = none :=
      machine.request_finish _
    simp [request, ended] at asksNothing
  | some result =>
    rw [ended] at polled
    obtain ⟨earlier, last, polls_eq, delivers, late_eq, ends⟩ := polled
    exact ⟨earlier, last, result, polls_eq, delivers, late_eq, rfl, ends⟩

/-- An attempt is cut off when its limit has passed, or the limit changes nothing. -/
theorem attempt_beside (limit : Option Duration) (standing : Standing) :
    let attempt := standing.attempt limit
    let unlimited := standing.attempt none
    (attempt.late = true ∧ ∃ bound, limit = some bound ∧
        Expires ⟨bound, standing.now⟩ attempt unlimited) ∨
      (attempt.late = false ∧ attempt.state.result = unlimited.state.result ∧
        left attempt = left unlimited ∧
        ∀ bound, limit = some bound → unlimited.now ≤ standing.now + bound.ticks) := by
  intro attempt unlimited
  let begun : Progress Draining :=
    ⟨standing.now, start standing.now limit standing.receipt, standing.streams, false⟩
  let free : Progress Draining :=
    ⟨standing.now, start standing.now none standing.receipt, standing.streams, false⟩
  have inStep : Machine.InStep Freed begun free := ⟨rfl, rfl, rfl, rfl⟩
  have early : Deadline.Allows begun.state.deadline begun.now := by
    rintro bound given
    obtain ⟨_, -, rfl⟩ := Option.map_eq_some_iff.1 given
    exact Nat.le_add_right _ _
  obtain ⟨late, bound, given, expires⟩ | ⟨punctual, ended, inTime⟩ :=
    finish_beside inStep rfl early
  · obtain ⟨duration, limit_eq, rfl⟩ := Option.map_eq_some_iff.1 given
    exact .inl ⟨late, duration, limit_eq, expires⟩
  · have state_eq : unlimited.state = { attempt.state with deadline := none } := ended.state
    have now_eq : unlimited.now = attempt.now := ended.now_eq
    have streams_eq : unlimited.streams = attempt.streams := ended.streams_eq
    refine .inr ⟨punctual, by rw [state_eq], ?_, ?_⟩
    · rw [left, left, now_eq, streams_eq, state_eq]
    · rintro bound rfl
      rw [now_eq]
      exact inTime ⟨bound, standing.now⟩ rfl

end Standing

/-- What the last read of an attempt says of its result. -/
theorem Ends.result_iff {poll : Poll} {result : Except Fault Unit} (ends : Ends poll result) :
    (result = .ok () ↔ poll.isEnd = true) ∧
      ∀ fault, result = .error fault ↔ poll.answer = .failed fault := by
  cases ends <;> simp [Poll.isEnd]

/-- **Draining in several attempts.**  After each attempt the receipt holds exactly the octets that
were delivered so far, in their order, which are those that have gone from the script.  An attempt
ends with its last read: it succeeds when that read found nothing, and fails with its fault
otherwise.  That is the fault of the limit exactly when the attempt would take longer than the limit
without one.  Then it ends when the limit has passed, and another attempt without a limit comes to
what this one would have come to; and if it takes no longer, the limit changes nothing. -/
theorem attempts_lose_nothing (capture : Bool) (limit : Option Duration) (now : Instant)
    (streams : Streams) (count : Nat) :
    let begun : Standing := ⟨now, .empty capture, streams⟩
    let before := begun.after limit count
    let attempt := before.attempt limit
    let unlimited := before.attempt none
    let delivered := begun.delivered limit (count + 1)
    attempt.state.receipt = .ofOctets capture delivered ∧
    Incoming.payload streams.incoming.steps =
      delivered ++ Incoming.payload attempt.streams.incoming.steps ∧
    (∃ earlier last result, before.polls limit = earlier ++ [last] ∧
      (∀ poll ∈ earlier, poll.Delivers) ∧ last.late = attempt.late ∧
      attempt.state.result = some result ∧
      (result = .ok () ↔ last.isEnd = true) ∧
      ∀ fault, result = .error fault ↔ last.answer = .failed fault) ∧
    (attempt.late = true ↔
      ∃ bound, limit = some bound ∧ before.now + bound.ticks < unlimited.now) ∧
    (attempt.late = true → ∃ bound, limit = some bound ∧
      attempt.state.result = some (.error (.noProgress bound)) ∧
      attempt.now = before.now + bound.ticks ∧
      (Standing.left attempt).attempt none = unlimited) ∧
    (attempt.late = false → attempt.state.result = unlimited.state.result ∧
      Standing.left attempt = Standing.left unlimited) := by
  intro begun before attempt unlimited delivered
  obtain ⟨receipt_eq, payload_eq⟩ := Standing.recorded_after capture limit now streams (count + 1)
  obtain ⟨earlier, last, result, polls_eq, delivers, last_late, result_eq, ends⟩ :=
    before.exists_last limit
  obtain ⟨ok_iff, error_iff⟩ := ends.result_iff
  refine ⟨receipt_eq, payload_eq, ⟨earlier, last, result, polls_eq, delivers, last_late, result_eq,
    ok_iff, error_iff⟩, ?_⟩
  obtain ⟨late, bound, rfl, expires⟩ | ⟨punctual, sameResult, sameLeft, inTime⟩ :=
    before.attempt_beside limit
  · have now_eq : attempt.now = before.now + bound.ticks := expires.now_eq
    have early : before.now + bound.ticks < unlimited.now := now_eq ▸ expires.early
    have resumes : (Standing.left attempt).attempt none = unlimited := expires.resumes
    refine ⟨iff_of_true late ⟨bound, rfl, early⟩,
      fun _ => ⟨bound, rfl, expires.result_eq, now_eq, resumes⟩, fun punctual => ?_⟩
    rw [show attempt.late = true from late] at punctual
    contradiction
  · have notLate : ¬ attempt.late = true := by
      rw [show attempt.late = false from punctual]
      exact Bool.false_ne_true
    refine ⟨iff_of_false notLate ?_, fun late => absurd late notLate,
      fun _ => ⟨sameResult, sameLeft⟩⟩
    rintro ⟨bound, given, early⟩
    exact Nat.not_lt.2 (inTime bound given) early

end Draining

end LineEcho
