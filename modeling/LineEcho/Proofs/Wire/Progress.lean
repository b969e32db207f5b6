import LineEcho.Proofs.Wire.Conservation

/-!
# Progress of a circuit

No circuit that can be reached waits in a circle.  When nothing can be drained and the service has
nothing to put into the pipe back, the service has read all there is, and then the pipe to the
service is empty and the client can go on.

Every answer brings the parties nearer to their ends.  It moves some octets, which can be moved only
so often, or else it is the answer that a party gets when nothing holds it up, and that lowers the
rank of the party.
-/

namespace LineEcho

namespace Pipe

variable {pipe after : Pipe} {octets : Bytes} {space : Nat} {answer : Answer}

theorem length_passed_le (pipe : Pipe) : pipe.passed.length ≤ pipe.entered.length := by
  simp [entered]

theorem Writes.accepted (writes : pipe.Writes octets answer after) :
    ∃ count, answer = .accepted count ∧ 0 < count ∧
      after.entered.length = pipe.entered.length + count ∧ after.passed = pipe.passed := by
  cases writes with
  | part count moves offered room =>
    refine ⟨count, rfl, moves, ?_, rfl⟩
    rw [entered_push, List.length_append, List.length_take_of_le offered]

theorem Reads.moves (reads : pipe.Reads space answer after) :
    ∃ octets, answer = .received octets ∧ after.entered = pipe.entered ∧
      after.passed.length = pipe.passed.length + octets.length := by
  obtain ⟨octets, same, -, passed, -⟩ := reads.received
  exact ⟨octets, same, reads.entered_eq, by rw [passed, List.length_append]⟩

end Pipe

namespace Sending

variable {sending : Sending}

/-- A piece of the file leads away from the end by less than three for each of its octets, and the
end of the file leads nearer. -/
theorem rank_fetch_lt {fetched : Bytes} (now : Instant) (piece : Bytes)
    (fetching : sending.phase = .fetching fetched) :
    (sending.resume now (.received piece)).rank < sending.rank + 3 * piece.length := by
  cases piece with
  | nil =>
    have asks : sending.request = some (.fetch sending.source.capacity) := by
      simp only [request, fetching]
    exact machine.rank_fallback now sending _ asks
  | cons octet rest =>
    have held := LineSource.held_scan fetched { sending.source with buffered := octet :: rest }
    simp only [resume, fetching, LineSource.onFetch]
    cases searched : LineSource.scan fetched { sending.source with buffered := octet :: rest } with
    | mk result after =>
      rw [searched] at held
      cases result with
      | line line =>
        simp only [found, rank, fetching, LineSource.held, List.length_cons] at held ⊢
        omega
      | finished =>
        simp only [found, rank, fetching]
        omega
      | broken fault =>
        simp only [found, fail, rank, fetching]
        omega
      | incomplete more =>
        simp only [found, rank, fetching, LineSource.held, List.length_cons] at held ⊢
        omega

theorem rank_write_le {octets : Bytes} {count : Nat} (now : Instant) (moves : 0 < count)
    (asks : sending.request = some (.write octets)) :
    (sending.resume now (.accepted count)).rank ≤ sending.rank := by
  cases phase : sending.phase with
  | fetching fetched => simp [request, phase] at asks
  | done result => simp [request, phase] at asks
  | writing since line unsent =>
    rw [resume_writing now count phase]
    rcases wrote_of_pos unsent (completeLine now line) (.writing since line) sending moves with
      ⟨-, wrote_eq⟩ | ⟨-, wrote_eq⟩
    · have lower := rank_found_next now
        { sending with
          counts :=
            { sending.counts with
              lines := sending.counts.lines + 1
              octetsSent := sending.counts.octetsSent + line.length } }
      rw [wrote_eq]
      simp only [rank, phase]
      exact Nat.le_of_lt lower
    · rw [wrote_eq]
      simp only [rank, phase, Nat.le_refl]
  | ending since unsent =>
    rw [resume_ending now count phase]
    rcases wrote_of_pos unsent
        (fun whole => { whole with phase := .done (.ok (finalCounts whole.counts)) })
        (.ending since) sending moves with
      ⟨-, wrote_eq⟩ | ⟨-, wrote_eq⟩
    · rw [wrote_eq]
      exact Nat.zero_le _
    · rw [wrote_eq]
      simp only [rank, phase, Nat.le_refl]

end Sending

namespace Delivery

variable {setup : Circuit.Setup} {unread : Bytes} {forth : Pipe} {delivery : Delivery}

/-- A delivery that has not shut its pipe asks for something, and for no empty write. -/
theorem Delivers.exists_request (delivers : delivery.Delivers setup unread forth)
    (isOpen : forth.isShut = false) :
    delivery.request = some (.fetch setup.capacity) ∨
      (∃ octets, delivery.request = some (.write octets) ∧ octets ≠ []) ∨
      delivery.request = some .flush ∨ delivery.request = some .shutdown := by
  cases delivers with
  | @sending part serves unfinished _ =>
    obtain ⟨written, follows⟩ := serves.follows
    cases phase : part.phase with
    | fetching fetched =>
      left
      simp only [request, Sending.request, phase, serves.capacity_eq]
    | writing since line unsent =>
      obtain ⟨-, owed, -⟩ := (Sending.follows_writing phase).1 follows
      exact .inr (.inl ⟨unsent, by simp only [request, Sending.request, phase], owed.unsent_ne_nil⟩)
    | ending since unsent =>
      obtain ⟨-, owed, -⟩ := (Sending.follows_ending phase).1 follows
      exact .inr (.inl ⟨unsent, by simp only [request, Sending.request, phase], owed.unsent_ne_nil⟩)
    | done result => exact absurd phase (unfinished result)
  | @finishing part sent unfinished _ =>
    cases phase : part.phase with
    | flushing since =>
      exact .inr (.inr (.inl (by simp only [request, Finishing.request, phase])))
    | shuttingDown since =>
      exact .inr (.inr (.inr (by simp only [request, Finishing.request, phase])))
    | done result => exact absurd phase (unfinished result)
  | ended sent isShut => rw [isOpen] at isShut; contradiction

theorem Delivers.entered_prefix (delivers : delivery.Delivers setup unread forth) :
    forth.entered <+: setup.stream := by
  cases delivers with
  | sending serves unfinished isOpen => exact serves.accepted_prefix
  | finishing sent unfinished isOpen => exact sent ▸ List.prefix_refl _
  | ended sent isShut => exact sent ▸ List.prefix_refl _

theorem Delivers.result?_of_isShut (delivers : delivery.Delivers setup unread forth)
    (isShut : forth.isShut = true) : delivery.result? = some (.ok setup.counts) := by
  cases delivers with
  | sending serves unfinished isOpen => rw [isOpen] at isShut; contradiction
  | finishing sent unfinished isOpen => rw [isOpen] at isShut; contradiction
  | ended sent isShut => rfl

theorem rank_fetch_lt {space : Nat} (asks : delivery.request = some (.fetch space))
    (piece : Bytes) :
    (delivery.resume 0 (.received piece)).rank < delivery.rank + 3 * piece.length := by
  refine Nat.lt_of_le_of_lt (rank_settle_le 0 _) ?_
  cases delivery with
  | sending part =>
    obtain ⟨fetched, phase, -⟩ | ⟨octets, other⟩ := Sending.request_cases asks
    · have rank := Sending.rank_fetch_lt 0 piece phase
      simp only [take, Delivery.rank]
      omega
    · cases other
  | finishing counts part =>
    obtain ⟨other, -⟩ | ⟨other, -⟩ := Finishing.request_cases asks <;> cases other
  | ended result => cases asks

theorem rank_write_le {octets : Bytes} {count : Nat}
    (asks : delivery.request = some (.write octets)) (moves : 0 < count) :
    (delivery.resume 0 (.accepted count)).rank ≤ delivery.rank := by
  refine Nat.le_trans (rank_settle_le 0 _) ?_
  cases delivery with
  | sending part => exact Nat.add_le_add_right (Sending.rank_write_le 0 moves asks) 3
  | finishing counts part =>
    obtain ⟨other, -⟩ | ⟨other, -⟩ := Finishing.request_cases asks <;> cases other
  | ended result => cases asks

end Delivery

namespace Session

variable {forth back : Pipe} {session : Session}

theorem Echoes.exists_request (echoes : session.Echoes forth back) (isOpen : back.isShut = false) :
    (∃ room, session.request = some (.read room) ∧ 0 < room) ∨
      (∃ octets, session.request = some (.write octets) ∧ octets ≠ []) ∨
      session.request = some .shutdown := by
  obtain ⟨chunks, -, tallies⟩ := echoes.tallies
  cases phase : session.phase with
  | accepted => exact absurd phase echoes.begun
  | reading since =>
    exact .inl ⟨session.room, by simp only [request, phase], Nat.le_max_right _ _⟩
  | writing since chunk unsent =>
    simp only [Tallies, phase] at tallies
    exact .inr (.inl ⟨unsent, by simp only [request, phase], tallies.unsent_ne_nil⟩)
  | closing result => exact .inr (.inr (by simp only [request, phase]))
  | closed result =>
    rw [echoes.isShut_iff.2 ⟨result, phase⟩] at isOpen
    contradiction

theorem Echoes.entered_prefix (echoes : session.Echoes forth back) :
    back.entered <+: forth.passed := by
  obtain ⟨chunks, delivered, tallies⟩ := echoes.tallies
  exact delivered ▸ tallies.accepted_prefix

/-- A chunk that was read has to be written. -/
theorem rank_read_lt {space : Nat} (asks : session.request = some (.read space))
    (octets : Bytes) :
    (session.resume 0 (.received octets)).rank < session.rank + 2 * octets.length := by
  obtain ⟨-, since, phase⟩ | ⟨_, _, _, other, -⟩ | ⟨other, -⟩ := request_cases asks
  · cases octets with
    | nil => simp [resume, phase, rank, leave]
    | cons octet rest =>
      simp only [resume, phase, rank, List.length_cons]
      omega
  · cases other
  · cases other

theorem rank_write_le {octets : Bytes} {count : Nat}
    (asks : session.request = some (.write octets)) (moves : 0 < count) :
    (session.resume 0 (.accepted count)).rank ≤ session.rank := by
  obtain ⟨other, -⟩ | ⟨since, chunk, unsent, -, phase⟩ | ⟨other, -⟩ := request_cases asks
  · cases other
  · have resumed : session.resume 0 (.accepted count) =
        session.wrote 0 since chunk unsent count := by
      simp only [resume, phase]
    have before : session.rank = 3 := by simp only [rank, phase]
    rw [resumed, before]
    obtain ⟨begun, after⟩ | ⟨begun, whole, rest, after⟩ :=
      wrote_isInLoop 0 since chunk unsent moves session
    · simp only [rank, after]; decide
    · simp only [rank, after]; decide
  · cases other

end Session

theorem Draining.rank_read_lt {space : Nat} {draining : Draining}
    (asks : draining.request = some (.read space)) (octets : Bytes) :
    (draining.resume 0 (.received octets)).rank < draining.rank + octets.length := by
  cases octets with
  | nil => exact machine.rank_fallback 0 draining _ asks
  | cons octet rest => simp [resume, rank]

namespace Circuit

variable {setup : Setup} {circuit next : Circuit}

theorem Step.room_eq (step : circuit.Step next) :
    next.forth.room = circuit.forth.room ∧ next.back.room = circuit.back.room := by
  cases step with
  | write asks writes => cases writes; exact ⟨rfl, rfl⟩
  | drain asks reads => cases reads <;> exact ⟨rfl, rfl⟩
  | echoRead asks reads => cases reads <;> exact ⟨rfl, rfl⟩
  | echoWrite asks writes => cases writes; exact ⟨rfl, rfl⟩
  | _ => exact ⟨rfl, rfl⟩

theorem room_of_reaches (reaches : (start setup).Reaches circuit) :
    circuit.forth.room = setup.roomForth ∧ circuit.back.room = setup.roomBack := by
  induction reaches with
  | refl => exact ⟨rfl, rfl⟩
  | step _ step same =>
    exact ⟨step.room_eq.1.trans same.1, step.room_eq.2.trans same.2⟩

/-- As long as its pipe is open and empty, the client can go on. -/
theorem Sound.exists_step_of_delivery (sound : circuit.Sound setup)
    (isOpen : circuit.forth.isShut = false) (empty : circuit.forth.carried = [])
    (room : 0 < circuit.forth.room) : ∃ next, circuit.Step next := by
  obtain asks | ⟨octets, asks, nonempty⟩ | asks | asks := sound.delivers.exists_request isOpen
  · cases unread : circuit.unread with
    | nil => exact ⟨_, .fetchEnd asks unread⟩
    | cons octet rest =>
      exact ⟨_, .fetch 1 asks Nat.one_pos setup.capacity_pos (by simp [unread])⟩
  · obtain ⟨answer, after, writes⟩ := Pipe.exists_writes nonempty (by rw [empty]; exact room)
    exact ⟨_, .write asks writes⟩
  · exact ⟨_, .flush asks⟩
  · exact ⟨_, .shutForth asks⟩

/-- As long as the pipe back is open and empty, the service or the client can go on. -/
theorem Sound.exists_step_of_session (sound : circuit.Sound setup)
    (isOpen : circuit.back.isShut = false) (empty : circuit.back.carried = [])
    (roomForth : 0 < circuit.forth.room) (roomBack : 0 < circuit.back.room) :
    ∃ next, circuit.Step next := by
  obtain ⟨room, asks, some_room⟩ | ⟨octets, asks, nonempty⟩ | asks :=
    sound.echoes.exists_request isOpen
  · by_cases nothing : circuit.forth.carried = []
    · cases shut : circuit.forth.isShut with
      | true => exact ⟨_, .echoRead asks (.finish shut nothing)⟩
      | false => exact sound.exists_step_of_delivery shut nothing roomForth
    · obtain ⟨answer, after, reads⟩ := Pipe.exists_reads some_room nothing
      exact ⟨_, .echoRead asks reads⟩
  · obtain ⟨answer, after, writes⟩ := Pipe.exists_writes nonempty (by rw [empty]; exact roomBack)
    exact ⟨_, .echoWrite asks writes⟩
  · exact ⟨_, .shutBack asks⟩

/-- As long as a transfer is not over, some party can go on. -/
theorem Sound.exists_step (sound : circuit.Sound setup) (roomForth : 0 < circuit.forth.room)
    (roomBack : 0 < circuit.back.room) (going : circuit.outcome? = none) :
    ∃ next, circuit.Step next := by
  -- follow the octets backwards: whoever waits, waits for the party before it in the circle, and
  -- the delivery waits for nobody once its pipe is empty
  cases drained : circuit.draining.result with
  | none =>
    have asks : circuit.draining.request = some (.read Draining.room) := by
      simp [Draining.request, drained]
    by_cases nothing : circuit.back.carried = []
    · cases shut : circuit.back.isShut with
      | true => exact ⟨_, .drain asks (.finish shut nothing)⟩
      | false => exact sound.exists_step_of_session shut nothing roomForth roomBack
    · have some_room : 0 < Draining.room := by decide
      obtain ⟨answer, after, reads⟩ := Pipe.exists_reads some_room nothing
      exact ⟨_, .drain asks reads⟩
  | some result =>
    obtain ⟨rfl, ended⟩ := sound.drains.ended result drained
    obtain ⟨endedForth, -⟩ := sound.echoes.closed ended.isShut
    have delivered := sound.delivers.result?_of_isShut endedForth.isShut
    simp [outcome?, delivered, drained] at going

/-- How many octets have been put into the pipes and have come out of them.  What comes out of the
pipe to the service counts twice, since the service has to write it then. -/
def moved (circuit : Circuit) : Nat :=
  circuit.forth.entered.length + 2 * circuit.forth.passed.length + circuit.back.entered.length +
    circuit.back.passed.length

/-- How far a circuit is from the end of its transfer. -/
def distance (setup : Setup) (circuit : Circuit) : Nat :=
  3 * circuit.unread.length + (5 * setup.stream.length - circuit.moved) + circuit.delivery.rank +
    circuit.session.rank + circuit.draining.rank

/-- No pipe ever carries more than the stream of the transfer. -/
theorem Sound.moved_le (sound : circuit.Sound setup) :
    circuit.moved ≤ 5 * setup.stream.length := by
  have sent := sound.delivers.entered_prefix.length_le
  have delivered := circuit.forth.length_passed_le
  have echoed := sound.echoes.entered_prefix.length_le
  have received := circuit.back.length_passed_le
  simp only [moved]
  omega

/-- Every step leads nearer to the end of the transfer. -/
theorem Sound.distance_lt (sound : circuit.Sound setup) (step : circuit.Step next) :
    next.distance setup < circuit.distance setup := by
  -- subtraction in the distance is exact only because nothing moves more often than it can
  have bound := (sound.step step).moved_le
  cases step with
  | @fetch space count asks moves asked there =>
    have rank := Delivery.rank_fetch_lt asks (circuit.unread.take count)
    have split := congrArg List.length (List.take_append_drop count circuit.unread)
    rw [List.length_append] at split
    simp only [distance, moved, deliver] at bound ⊢
    omega
  | fetchEnd asks nothing =>
    have rank := Delivery.rank_fetch_lt asks []
    simp only [distance, moved, deliver, List.length_nil] at bound rank ⊢
    omega
  | @write octets answer forth asks writes =>
    obtain ⟨count, rfl, moves, entered, passed⟩ := writes.accepted
    have rank := Delivery.rank_write_le asks moves
    simp only [distance, moved, deliver, entered, passed] at bound ⊢
    omega
  | flush asks =>
    have rank := Delivery.machine.rank_fallback 0 _ _ asks
    simp only [Delivery.machine, Request.fallback] at rank
    simp only [distance, moved, deliver] at bound ⊢
    omega
  | shutForth asks =>
    have rank := Delivery.machine.rank_fallback 0 _ _ asks
    simp only [Delivery.machine, Request.fallback] at rank
    simp only [distance, moved, deliver, Pipe.entered_shut, Pipe.passed_shut] at bound ⊢
    omega
  | drain asks reads =>
    obtain ⟨octets, rfl, entered, passed⟩ := reads.moves
    have rank := Draining.rank_read_lt asks octets
    simp only [distance, moved, drain, entered, passed] at bound ⊢
    omega
  | echoRead asks reads =>
    obtain ⟨octets, rfl, entered, passed⟩ := reads.moves
    have rank := Session.rank_read_lt asks octets
    simp only [distance, moved, echo, entered, passed] at bound ⊢
    omega
  | @echoWrite octets answer back asks writes =>
    obtain ⟨count, rfl, moves, entered, passed⟩ := writes.accepted
    have rank := Session.rank_write_le asks moves
    simp only [distance, moved, echo, entered, passed] at bound ⊢
    omega
  | shutBack asks =>
    have rank := Session.machine.rank_fallback 0 _ _ asks
    simp only [Session.machine, Request.fallback] at rank
    simp only [distance, moved, echo, Pipe.entered_shut, Pipe.passed_shut] at bound ⊢
    omega

/-- By any time of a run the circuit has come nearer to the end by as many steps. -/
theorem distance_add_le {run : Nat → Circuit} {time : Nat} (starts : run 0 = start setup)
    (steps : ∀ earlier < time, (run earlier).Step (run (earlier + 1))) :
    (start setup).Reaches (run time) ∧
      (run time).distance setup + time ≤ (start setup).distance setup := by
  induction time with
  | zero =>
    rw [starts]
    exact ⟨.refl, Nat.le_refl _⟩
  | succ time ih =>
    obtain ⟨reaches, bound⟩ := ih (fun earlier before => steps earlier (Nat.lt_succ_of_lt before))
    have step := steps time (Nat.lt_succ_self time)
    have nearer := (sound_of_reaches reaches).distance_lt step
    exact ⟨reaches.step step, by omega⟩

/-- **Progress.**  Take any file, any mode of line endings, any buffers and any room in the pipes.
In every circuit that can be reached before the transfer has returned, some party can go on.  No run
goes on for ever.  So a circuit in which no party can go on is one whose transfer has returned, and
it has not failed. -/
theorem transfer_returns (setup : Setup) :
    (∀ circuit, (start setup).Reaches circuit → circuit.outcome? = none →
      ∃ next, circuit.Step next) ∧
    (¬ ∃ run : Nat → Circuit, run 0 = start setup ∧
      ∀ time, (run time).Step (run (time + 1))) ∧
    (∀ circuit, (start setup).Reaches circuit → (∀ next, ¬ circuit.Step next) →
      ∃ counts receipt, circuit.outcome? = some (.ok (counts, receipt))) := by
  have goes_on : ∀ circuit, (start setup).Reaches circuit → circuit.outcome? = none →
      ∃ next, circuit.Step next := by
    intro circuit reaches going
    obtain ⟨forth, back⟩ := room_of_reaches reaches
    exact (sound_of_reaches reaches).exists_step (forth ▸ setup.roomForth_pos)
      (back ▸ setup.roomBack_pos) going
  refine ⟨goes_on, ?_, ?_⟩
  · rintro ⟨run, starts, steps⟩
    obtain ⟨-, bound⟩ := distance_add_le starts
      (fun earlier (_ : earlier < (start setup).distance setup + 1) => steps earlier)
    omega
  · intro circuit reaches stuck
    cases isOver : circuit.outcome? with
    | none =>
      obtain ⟨next, step⟩ := goes_on circuit reaches isOver
      exact absurd step (stuck next)
    | some outcome =>
      obtain ⟨rfl, -⟩ := (sound_of_reaches reaches).outcome_eq isOver
      exact ⟨_, _, rfl⟩

end Circuit

end LineEcho
