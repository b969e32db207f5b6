import LineEcho.Proofs.Echo.Lifecycle
import LineEcho.Proofs.Transfer.Delivery

/-!
# Limits only cut off

The limits on reading and writing decide how far a session of the echo or the sending of a file
comes, and nothing else.  A run in which no deadline is missed is the run without limits.  A run in
which one is missed fails for that reason, and what reached the connection before is a beginning of
what would have reached it without limits.  Limits that are longer, or absent, are missed only if
shorter ones are.
-/

namespace LineEcho

/-- A limit that is no shorter than another one: it is absent, or both are given. -/
def Duration.NoShorter (long short : Option Duration) : Prop :=
  ∀ limit, long = some limit → ∃ less, short = some less ∧ less.nanos ≤ limit.nanos

theorem Duration.noShorter_none (short : Option Duration) : NoShorter none short := by
  intro limit given
  contradiction

/-- The deadline of an operation comes no sooner under a limit that is no shorter. -/
theorem Deadline.noSooner_of_noShorter {long short : Option Duration}
    (noShorter : Duration.NoShorter long short) (since : Instant) :
    NoSooner (long.map (⟨·, since⟩)) (short.map (⟨·, since⟩)) := by
  intro bound given
  obtain ⟨limit, rfl, rfl⟩ := Option.map_eq_some_iff.1 given
  obtain ⟨less, rfl, le⟩ := noShorter limit rfl
  exact ⟨⟨less, since⟩, rfl,
    Nat.add_le_add_left (Nat.div_le_div_right (Nat.add_le_add_right le _)) _⟩

theorem Deadline.noSooner_none (later : Option Deadline) (absent : later = none) :
    NoSooner later none := by
  intro bound given
  rw [absent] at given
  contradiction

namespace EchoSettings

/-- Settings without limits. -/
def unlimited (settings : EchoSettings) : EchoSettings :=
  { settings with readTimeout := none, writeTimeout := none }

/-- The same buffer, and limits that are no shorter. -/
structure Eases (eased settings : EchoSettings) : Prop where
  bufferSize_eq : eased.bufferSize = settings.bufferSize
  read : Duration.NoShorter eased.readTimeout settings.readTimeout
  write : Duration.NoShorter eased.writeTimeout settings.writeTimeout

theorem unlimited_eases (settings : EchoSettings) : settings.unlimited.Eases settings :=
  ⟨rfl, Duration.noShorter_none _, Duration.noShorter_none _⟩

end EchoSettings

namespace Session

/-- The same session under settings that are easier. -/
def Eased (session free : Session) : Prop :=
  free.settings.Eases session.settings ∧ free = { session with settings := free.settings }

theorem resume_withSettings (now : Instant) (answer : Answer) (session : Session)
    (settings : EchoSettings) :
    resume now answer { session with settings := settings } =
      { session.resume now answer with settings := settings } := by
  obtain ⟨own, phase, octets, chunks, reason⟩ := session
  cases phase with
  | accepted => rfl
  | reading since =>
    cases answer with
    | received octets => cases octets <;> rfl
    | accepted count => rfl
    | interrupted => rfl
    | completed => rfl
    | failed fault => rfl
  | writing since chunk unsent =>
    cases answer with
    | received octets => rfl
    | accepted count =>
      simp only [resume, wrote]
      split
      · rfl
      · split <;> rfl
    | interrupted => rfl
    | completed => rfl
    | failed fault => rfl
  | closing result => rfl
  | closed result => rfl

theorem eases_eased : machine.Eases Eased where
  request_eq := by
    rintro session free ⟨easier, same⟩
    rw [same]
    simp only [machine, request, room, easier.bufferSize_eq]
  resume := by
    rintro session free ⟨easier, same⟩ now answer
    have free_eq : machine.resume now answer free =
        { session.resume now answer with settings := free.settings } := by
      conv => lhs; rw [same]
      exact resume_withSettings now answer session free.settings
    rw [free_eq]
    refine ⟨?_, rfl⟩
    rw [show (machine.resume now answer session).settings = session.settings from
      settings_resume now answer session]
    exact easier
  noSooner := by
    rintro session free ⟨easier, same⟩
    rw [same]
    simp only [machine, deadline]
    split
    · exact Deadline.noSooner_of_noShorter easier.read _
    · exact Deadline.noSooner_of_noShorter easier.write _
    · exact Deadline.noSooner_none _ rfl

/-- Easier settings change nothing of what a session has come to. -/
theorem Eased.result_eq {session free : Session} (eased : session.Eased free) :
    free.result = session.result := by
  rw [eased.2]
  rfl

theorem Eased.summary_eq {session free : Session} (eased : session.Eased free) :
    free.summary = session.summary := by
  rw [eased.2]
  rfl

theorem Eased.state_eq {session free : Session} (eased : session.Eased free) :
    free.state = session.state := by
  rw [eased.2]
  rfl

theorem inStep_start {settings easier : EchoSettings} (eases : easier.Eases settings)
    (now : Instant) (streams : Streams) :
    Machine.InStep Eased ⟨now, (start settings).read now, streams, false⟩
      ⟨now, (start easier).read now, streams, false⟩ :=
  ⟨rfl, ⟨eases, rfl⟩, rfl, rfl⟩

/-- A session that misses a deadline leaves the loop with the fault of the limit. -/
theorem resume_noProgress {session : Session} {asked : Request} {bound : Deadline}
    (asks : session.request = some asked) (given : session.deadline = some bound) (now : Instant) :
    let fault := Fault.noProgress bound.limit
    let left := session.resume now (.failed fault)
    left.phase = .closing (.error fault) ∧
      (left.reason = some (.readFailed fault.text) ∨
        left.reason = some (.writeFailed fault.text)) := by
  intro fault left
  obtain ⟨settings, phase, octets, chunks, reason⟩ := session
  cases phase with
  | reading since => exact ⟨rfl, .inl rfl⟩
  | writing since chunk unsent => exact ⟨rfl, .inr rfl⟩
  | accepted => contradiction
  | closing result => contradiction
  | closed result => contradiction

/-- What becomes of a session under limits, compared with the same session without any. -/
theorem run_cutOff (settings : EchoSettings) (now : Instant) (streams : Streams)
    (late : ((start settings).run now streams).late = true) :
    let run := (start settings).run now streams
    let free := (start settings.unlimited).run now streams
    ∃ fault before, run.result = .error fault ∧ fault.kind = .timedOut ∧
      (run.session.reason = some (.readFailed fault.text) ∨
        run.session.reason = some (.writeFailed fault.text)) ∧
      run.streams.log.toList = before ++ [.shutdown] ∧ before <+: free.streams.log.toList := by
  intro run free
  have inStep := inStep_start settings.unlimited_eases now streams
  obtain ⟨miss, asked, bound, first⟩ := inStep.exists_firstMiss eases_eased rfl late
  obtain ⟨later, state_eq⟩ := first.state_eq
  obtain ⟨phase, reason⟩ := resume_noProgress first.asks first.bound_eq later
  have state_eq : (machine.advance miss asked).state = miss.state.resume later _ := state_eq
  rw [← state_eq] at phase reason
  obtain ⟨closed, log⟩ := finish_closing phase
  rw [← first.finish_eq] at closed log
  refine ⟨.noProgress bound.limit, (machine.advance miss asked).streams.log.toList, ?_, rfl, ?_,
    log, first.log_prefix⟩
  · show Session.result (machine.finish _).state = _
    rw [closed]
    rfl
  · show (machine.finish _).state.reason = _ ∨ (machine.finish _).state.reason = _
    rw [closed]
    exact reason

end Session

namespace Sending

/-- The same sending under a limit that is no shorter. -/
def Eased (sending free : Sending) : Prop :=
  Duration.NoShorter free.writeTimeout sending.writeTimeout ∧
    free = { sending with writeTimeout := free.writeTimeout }

theorem found_withTimeout (now : Instant) (search : LineSource.Search × LineSource)
    (sending : Sending) (limit : Option Duration) :
    found now search { sending with writeTimeout := limit } =
      { found now search sending with writeTimeout := limit } := by
  obtain ⟨result, source⟩ := search
  cases result <;> rfl

theorem resume_withTimeout (now : Instant) (answer : Answer) (sending : Sending)
    (limit : Option Duration) :
    resume now answer { sending with writeTimeout := limit } =
      { sending.resume now answer with writeTimeout := limit } := by
  obtain ⟨source, own, counts, phase⟩ := sending
  cases phase with
  | fetching fetched => exact found_withTimeout now _ _ limit
  | writing since line unsent =>
    cases answer with
    | received octets => rfl
    | accepted count =>
      simp only [resume, wrote]
      split
      · rfl
      · split
        · exact found_withTimeout now source.next
            ⟨source, own, ⟨counts.lines + 1, counts.octetsSent + line.length, counts.collisions⟩,
              .writing since line unsent⟩ limit
        · rfl
    | interrupted => rfl
    | completed => rfl
    | failed fault => rfl
  | ending since unsent =>
    cases answer with
    | received octets => rfl
    | accepted count =>
      simp only [resume, wrote]
      split
      · rfl
      · split <;> rfl
    | interrupted => rfl
    | completed => rfl
    | failed fault => rfl
  | done result => rfl

theorem eases_eased : machine.Eases Eased where
  request_eq := by
    rintro sending free ⟨easier, same⟩
    rw [same]
    rfl
  resume := by
    rintro sending free ⟨easier, same⟩ now answer
    have free_eq : machine.resume now answer free =
        { sending.resume now answer with writeTimeout := free.writeTimeout } := by
      conv => lhs; rw [same]
      exact resume_withTimeout now answer sending free.writeTimeout
    rw [free_eq]
    refine ⟨?_, rfl⟩
    rw [show (machine.resume now answer sending).writeTimeout = sending.writeTimeout from
      writeTimeout_resume now answer sending]
    exact easier
  noSooner := by
    rintro sending free ⟨easier, same⟩
    rw [same]
    simp only [machine, deadline]
    split
    · exact Deadline.noSooner_of_noShorter easier _
    · exact Deadline.noSooner_of_noShorter easier _
    · exact Deadline.noSooner_none _ rfl

theorem Eased.result_eq {sending free : Sending} (eased : sending.Eased free) :
    free.result = sending.result := by
  rw [eased.2]
  rfl

theorem Eased.counts_eq {sending free : Sending} (eased : sending.Eased free) :
    free.counts = sending.counts := by
  rw [eased.2]

theorem inStep_start {limit easier : Option Duration}
    (noShorter : Duration.NoShorter easier limit) (now : Instant) (source : LineSource)
    (streams : Streams) :
    Machine.InStep Eased ⟨now, start now source limit, streams, false⟩
      ⟨now, start now source easier, streams, false⟩ := by
  refine ⟨rfl, ⟨?_, ?_⟩, rfl, rfl⟩
  · simp only [start, writeTimeout_found]
    exact noShorter
  · simp only [start, writeTimeout_found]
    exact found_withTimeout now source.next ⟨source, limit, default, .fetching []⟩ easier

/-- Sending that misses a deadline fails in writing with the fault of the limit, and is done. -/
theorem resume_noProgress {sending : Sending} {asked : Request} {bound : Deadline}
    (asks : sending.request = some asked) (given : sending.deadline = some bound) (now : Instant) :
    let fault := Fault.noProgress bound.limit
    (sending.resume now (.failed fault)).phase = .done (.error (.transfer .writing fault)) := by
  intro fault
  obtain ⟨source, own, counts, phase⟩ := sending
  cases phase with
  | writing since line unsent => rfl
  | ending since unsent => rfl
  | fetching fetched => contradiction
  | done result => contradiction

theorem run_cutOff (now : Instant) (source : LineSource) (limit : Option Duration)
    (streams : Streams) (late : (run now source limit streams).late = true) :
    ∃ fault, (run now source limit streams).state.result = .error (.transfer .writing fault) ∧
      fault.kind = .timedOut ∧
      (run now source limit streams).streams.log.toList <+:
        (run now source none streams).streams.log.toList := by
  have inStep := inStep_start (Duration.noShorter_none limit) now source streams
  obtain ⟨miss, asked, bound, first⟩ := inStep.exists_firstMiss eases_eased rfl late
  obtain ⟨later, state_eq⟩ := first.state_eq
  have phase : (machine.advance miss asked).state.phase = _ :=
    (congrArg phase state_eq).trans (resume_noProgress first.asks first.bound_eq later)
  have asksNothing : machine.request (machine.advance miss asked).state = none := by
    show request _ = none
    simp only [request, phase]
  have ends : run now source limit streams = machine.advance miss asked :=
    first.finish_eq.trans (machine.finish_of_request_eq_none asksNothing)
  refine ⟨.noProgress bound.limit, ?_, rfl, ?_⟩
  · rw [ends, result, phase]
  · rw [ends]
    exact first.log_prefix

end Sending

/-- **Limits only cut off.**  For a session of the echo and for the sending of a file on any
scripts, whether or not these have an interrupted write tried again, a run under limits is compared
with the run without any.  If no deadline is missed, the results, the counters, the moment of the
end and the streams with their log are the same.  If one is missed, the run fails with a fault of
that kind in the operation that missed it, and its log, but for the shutdown by which the session
ends, is a beginning of the log without limits.  And if no deadline is missed under some limits,
none is missed under limits that are each no shorter or absent. -/
theorem limits_only_cut_off (now : Instant) (streams : Streams) :
    (∀ settings : EchoSettings,
      let run := (Session.start settings).run now streams
      let free := (Session.start settings.unlimited).run now streams
      (run.late = false →
        run.result = free.result ∧ run.session.summary = free.session.summary ∧
        run.session.state = free.session.state ∧ run.now = free.now ∧
        run.streams = free.streams) ∧
      (run.late = true →
        ∃ fault before, run.result = .error fault ∧ fault.kind = .timedOut ∧
          (run.session.reason = some (.readFailed fault.text) ∨
            run.session.reason = some (.writeFailed fault.text)) ∧
          run.streams.log.toList = before ++ [.shutdown] ∧
          before <+: free.streams.log.toList) ∧
      ∀ easier : EchoSettings, easier.Eases settings → run.late = false →
        ((Session.start easier).run now streams).late = false) ∧
    ∀ (source : LineSource) (limit : Option Duration),
      let run := Sending.run now source limit streams
      let free := Sending.run now source none streams
      (run.late = false →
        run.state.result = free.state.result ∧ run.state.counts = free.state.counts ∧
        run.now = free.now ∧ run.streams = free.streams) ∧
      (run.late = true →
        ∃ fault, run.state.result = .error (.transfer .writing fault) ∧ fault.kind = .timedOut ∧
          run.streams.log.toList <+: free.streams.log.toList) ∧
      ∀ easier : Option Duration, Duration.NoShorter easier limit → run.late = false →
        (Sending.run now source easier streams).late = false := by
  constructor
  · intro settings run free
    refine ⟨fun inTime => ?_, Session.run_cutOff settings now streams, ?_⟩
    · have same := (Session.inStep_start settings.unlimited_eases now streams).finish
        Session.eases_eased inTime
      exact ⟨same.state.result_eq.symm, same.state.summary_eq.symm, same.state.state_eq.symm,
        same.now_eq.symm, same.streams_eq.symm⟩
    · intro easier eases inTime
      have same := (Session.inStep_start eases now streams).finish Session.eases_eased inTime
      exact same.late_eq.trans inTime
  · intro source limit run free
    refine ⟨fun inTime => ?_, Sending.run_cutOff now source limit streams, ?_⟩
    · have same := (Sending.inStep_start (Duration.noShorter_none limit) now source streams).finish
        Sending.eases_eased inTime
      exact ⟨same.state.result_eq.symm, same.state.counts_eq.symm, same.now_eq.symm,
        same.streams_eq.symm⟩
    · intro easier noShorter inTime
      have same := (Sending.inStep_start noShorter now source streams).finish
        Sending.eases_eased inTime
      exact same.late_eq.trans inTime

/-- A peer that sends one octet and closes a hundred milliseconds later. -/
def tardy : Streams :=
  { (default : Streams) with
    incoming := .ofSteps [.answer (.data [0x61]), .wait 100, .answer .finished] }

/-- Half of that time is too short a limit on a read, and all of it is long enough. -/
theorem limits_only_cut_off_tardy :
    let within (millis : Nat) : EchoSettings := ⟨4, some (.ofMillis millis), none⟩
    let run (millis : Nat) := (Session.start (within millis)).run 0 tardy
    let free := (Session.start ⟨4, none, none⟩).run 0 tardy
    (run 50).late = true ∧ (∃ fault, (run 50).result = .error fault ∧ fault.kind = .timedOut) ∧
      (run 100).late = false ∧ (run 100).result = free.result ∧ (run 200).late = false := by
  intro within run free
  have tooShort : (run 50).late = true := by cbv
  have longEnough : (run 100).late = false := by cbv
  have easier : (within 200).Eases (within 100) := by
    refine ⟨rfl, ?_, Duration.noShorter_none _⟩
    intro limit given
    cases given
    exact ⟨_, rfl, by decide⟩
  obtain ⟨fault, -, failed, kind, -⟩ :=
    ((limits_only_cut_off 0 tardy).1 (within 50)).2.1 tooShort
  obtain ⟨same, -, eases⟩ := (limits_only_cut_off 0 tardy).1 (within 100)
  exact ⟨tooShort, ⟨fault, failed, kind⟩, longEnough, (same longEnough).1,
    eases _ easier longEnough⟩

end LineEcho
