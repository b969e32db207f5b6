import LineEcho.Proofs.Stream.Waiting
import LineEcho.Transfer.LineSource

/-!
# The lines that a source yields

A source is asked for its next line until it comes to the end of the file or a fetch fails.  What it
yields on the way, `LineSource.yield`, depends on the answers in the script of the file alone, and
not on when it is asked or on how long it has to wait: no limit is put on fetches.

`LineSearch.yieldFrom` is the same for a search that is under way, so that the answer to one fetch
can be followed.
-/

namespace LineEcho

namespace Streams

/-- The scripts of the file give the same answers. -/
def SameSource (first second : Streams) : Prop :=
  Script.ready first.source.steps = Script.ready second.source.steps

/-- A fetch gets the next answer of the script of the file, and changes nothing else. -/
theorem await_fetch (now : Instant) (streams : Streams) (room : Nat) :
    ∃ later, streams.await none now (.fetch room) =
      ⟨(Incoming.answer room (Script.ready streams.source.steps)).1, false, later,
        { streams with
          source := .ofSteps (Incoming.answer room (Script.ready streams.source.steps)).2 }⟩ :=
  awaitOn_none streams.source (Incoming.answer room)
    (fun script _ => { streams with source := script }) now

theorem sameSource_await_write (deadline : Option Deadline) (now : Instant) (streams : Streams)
    (octets : Bytes) :
    (streams.await deadline now (.write octets)).streams.SameSource streams := by
  simp only [await, SameSource]
  rcases awaitOn_cases _ _ _ deadline now with ⟨later, limit, left, reply⟩ | ⟨later, steps, reply⟩
  · rw [reply]
  · rw [reply]

end Streams

namespace LineSource

theorem splitLine?_ne_nil {octets line after : Bytes}
    (split : splitLine? octets = some (line, after)) : line ≠ [] := by
  cases octets with
  | nil => simp [splitLine?] at split
  | cons octet rest =>
    simp only [splitLine?] at split
    split at split
    · cases split
      exact List.cons_ne_nil _ _
    · obtain ⟨found, -, same⟩ := Option.map_eq_some_iff.1 split
      cases same
      exact List.cons_ne_nil _ _

theorem apply_ne_nil (endings : LineEndings) {line : Bytes} (nonempty : line ≠ []) :
    endings.apply line ≠ [] := by
  cases endings with
  | preserve => exact nonempty
  | normalize => simp [LineEndings.apply]

/-- No line is empty: it has its newline, or it is the beginning of one. -/
theorem ne_nil_of_scan {fetched line : Bytes} {source : LineSource}
    (found : (source.scan fetched).1 = .line line) : line ≠ [] := by
  unfold scan at found
  split at found
  · rename_i octets after split
    cases found
    exact apply_ne_nil _ (List.append_ne_nil_of_right_ne_nil _ (splitLine?_ne_nil split))
  · cases found

theorem ne_nil_of_onFetch {fetched line : Bytes} {answer : Answer} {source : LineSource}
    (found : (source.onFetch fetched answer).1 = .line line) : line ≠ [] := by
  unfold onFetch at found
  split at found
  · split at found
    · cases found
    · rename_i begun
      cases found
      exact apply_ne_nil _ (fun nothing => begun (List.isEmpty_iff.2 nothing))
  · exact ne_nil_of_scan found
  · split at found <;> cases found
  · cases found

end LineSource

/-- What a fetch delivers is no longer in the script. -/
theorem Incoming.weight_answer_add_length (room : Nat) (steps : List (Step Incoming)) :
    Script.weight cost (answer room steps).2 + (octetsOf (answer room steps).1).length ≤
      Script.weight cost steps := by
  fun_cases answer room steps with
  | case1 octets rest =>
    have lengths := congrArg List.length (List.take_append_drop room octets)
    rw [List.length_append] at lengths
    split <;> simp only [octetsOf, Script.weight, cost] <;> omega
  | case2 rest => simp [octetsOf, Script.weight, Nat.add_assoc]
  | case3 fault rest => simp [octetsOf, Script.weight, Nat.add_assoc]
  | case4 steps => simp [octetsOf]

theorem Script.weight_ready_le {α : Type} (cost : α → Nat) (steps : List (Step α)) :
    weight cost (ready steps) ≤ weight cost steps := by
  fun_induction ready steps with
  | case1 millis rest ih => simp only [weight]; omega
  | case2 steps noWait => exact Nat.le_refl _

namespace LineSearch

/-- The octets that a search has at hand.  A line that was found counts as one. -/
def held (search : LineSearch) : Nat :=
  match search.found with
  | .incomplete fetched => search.source.held fetched
  | .line _ => search.source.buffered.length + 1
  | _ => 0

theorem held_scan_le (fetched : Bytes) (source : LineSource) :
    held ⟨(source.scan fetched).2, (source.scan fetched).1⟩ ≤ source.held fetched := by
  have scanned := LineSource.held_scan fetched source
  revert scanned
  cases source.scan fetched with
  | mk found after =>
    cases found with
    | line octets => intro fewer; simp only [held, LineSource.held] at fewer ⊢; omega
    | incomplete more => intro same; simp only [held] at same ⊢; omega
    | finished => intro _; exact Nat.zero_le _
    | broken fault => intro _; exact Nat.zero_le _

theorem held_start_le (source : LineSource) : (start source).held ≤ source.buffered.length := by
  have scanned := held_scan_le [] source
  simp only [LineSource.held, List.length_nil, Nat.zero_add] at scanned
  exact scanned

theorem held_resume_le (now : Instant) (answer : Answer) (search : LineSearch)
    (asks : search.request ≠ none) :
    (search.resume now answer).held ≤ search.held + (Incoming.octetsOf answer).length := by
  obtain ⟨source, found⟩ := search
  cases found with
  | line octets => simp [request] at asks
  | finished => simp [request] at asks
  | broken fault => simp [request] at asks
  | incomplete fetched =>
    simp only [resume]
    fun_cases LineSource.onFetch fetched answer source with
    | case1 nothing => exact Nat.zero_le _
    | case2 begun =>
      have positive : 0 < fetched.length :=
        List.length_pos_iff.2 (fun nothing => begun (List.isEmpty_iff.2 nothing))
      simp only [LineSource.yieldLine, held, LineSource.held]
      omega
    | case3 octets delivers =>
      have scanned := held_scan_le fetched { source with buffered := octets }
      simp only [held, LineSource.held, Incoming.octetsOf] at scanned ⊢
      omega
    | case4 fault interrupted => simp only [held]; omega
    | case5 fault fails => exact Nat.zero_le _
    | case6 answer _ _ => simp only [held]; omega

/-- The answer that the next fetch of a run gets. -/
def nextAnswer (streams : Streams) (room : Nat) : Answer × List (Step Incoming) :=
  Incoming.answer room (Script.ready streams.source.steps)

theorem request_eq_some {search : LineSearch} {asked : Request}
    (asks : search.request = some asked) : asked = .fetch search.source.capacity := by
  simp only [request] at asks
  split at asks
  · exact (Option.some.inj asks).symm
  · contradiction

/-- A search goes on by one fetch, which moves nothing but the script of the file. -/
theorem advance_eq {progress : Progress LineSearch} {asked : Request}
    (asks : progress.state.request = some asked) :
    ∃ later, machine.advance progress asked =
      ⟨later,
        progress.state.resume later
          (nextAnswer progress.streams progress.state.source.capacity).1,
        { progress.streams with
          source := .ofSteps (nextAnswer progress.streams progress.state.source.capacity).2 },
        progress.late⟩ := by
  rw [request_eq_some asks]
  obtain ⟨later, reply⟩ := Streams.await_fetch progress.now progress.streams
    progress.state.source.capacity
  have noDeadline : machine.deadline progress.state = none := rfl
  refine ⟨later, ?_⟩
  rw [Machine.advance, noDeadline, reply, Bool.or_false]
  rfl

theorem weight_add_held_advance_le {progress : Progress LineSearch} {asked : Request}
    (asks : progress.state.request = some asked) :
    (machine.advance progress asked).streams.weight +
        (machine.advance progress asked).state.held ≤
      progress.streams.weight + progress.state.held := by
  obtain ⟨later, next⟩ := advance_eq asks
  have fetched := Incoming.weight_answer_add_length progress.state.source.capacity
    (Script.ready progress.streams.source.steps)
  have waited := Script.weight_ready_le Incoming.cost progress.streams.source.steps
  have held := held_resume_le later
    (nextAnswer progress.streams progress.state.source.capacity).1 progress.state
    (by rw [asks]; simp)
  rw [next]
  simp only [Streams.weight, Script.ofSteps, nextAnswer] at *
  omega

/-- Searching uses up the script of the file and what the source has at hand. -/
theorem weight_add_held_finish_le (progress : Progress LineSearch) :
    (machine.finish progress).streams.weight + (machine.finish progress).state.held ≤
      progress.streams.weight + progress.state.held := by
  refine machine.finish_invariant
    (fun later => later.streams.weight + later.state.held ≤
      progress.streams.weight + progress.state.held) ?_ progress (Nat.le_refl _)
  intro later asked asks bound
  exact Nat.le_trans (weight_add_held_advance_le asks) bound

/-- A line uses up an octet at least. -/
theorem run_decreases {now : Instant} {source : LineSource} {streams : Streams} {line : Bytes}
    (found : (run now source streams).state.outcome = .ok (some line)) :
    (run now source streams).streams.weight +
        (run now source streams).state.source.buffered.length <
      streams.weight + source.buffered.length := by
  have bound := weight_add_held_finish_le ⟨now, start source, streams, false⟩
  have begun := held_start_le source
  have counted : (run now source streams).state.held =
      (run now source streams).state.source.buffered.length + 1 := by
    unfold outcome at found
    unfold held
    split at found <;> simp_all
  simp only [run, Machine.run] at *
  omega

end LineSearch

namespace LineSource

/-- The lines that a source yields one after another, and the fault that ended them, if it was not
the end of the file. -/
structure Yield where
  lines : List Bytes
  fault? : Option Fault
  deriving DecidableEq, Repr

/-- The same with some lines before. -/
def Yield.after (written : List Bytes) (yield : Yield) : Yield :=
  { yield with lines := written ++ yield.lines }

/-- Asks a source for its next line until there is none or a fetch fails. -/
def yield (now : Instant) (source : LineSource) (streams : Streams) : Yield :=
  let progress := LineSearch.run now source streams
  match _found : progress.state.outcome with
  | .ok (some line) =>
    (yield progress.now progress.state.source progress.streams).after [line]
  | .ok none => ⟨[], none⟩
  | .error fault => ⟨[], some fault⟩
termination_by streams.weight + source.buffered.length
decreasing_by exact LineSearch.run_decreases ‹_›

/-- What a source yields from the outcome of a search on. -/
def Yield.ofOutcome (progress : Progress LineSearch) : Yield :=
  match progress.state.outcome with
  | .ok (some line) =>
    (yield progress.now progress.state.source progress.streams).after [line]
  | .ok none => ⟨[], none⟩
  | .error fault => ⟨[], some fault⟩

theorem yield_eq_ofOutcome (now : Instant) (source : LineSource) (streams : Streams) :
    source.yield now streams = Yield.ofOutcome (LineSearch.run now source streams) := by
  rw [yield, Yield.ofOutcome]
  split <;> simp_all

/-- What is shown of a source from what holds after its next line, if it has one, holds of every
source. -/
theorem yield_induction {motive : Instant → LineSource → Streams → Prop}
    (step : ∀ now source streams,
      (∀ line, (LineSearch.run now source streams).state.outcome = .ok (some line) →
        motive (LineSearch.run now source streams).now
          (LineSearch.run now source streams).state.source
          (LineSearch.run now source streams).streams) →
      motive now source streams)
    (now : Instant) (source : LineSource) (streams : Streams) : motive now source streams := by
  refine step now source streams (fun line found => ?_)
  exact yield_induction step _ _ _
termination_by streams.weight + source.buffered.length
decreasing_by exact LineSearch.run_decreases found

/-- What a search that came to something yields, given what comes after it.  An incomplete one has
yielded nothing of its own. -/
def Search.before (ahead : Yield) : Search → Yield
  | .line octets => ahead.after [octets]
  | .finished => ⟨[], none⟩
  | .broken fault => ⟨[], some fault⟩
  | .incomplete _ => ahead

end LineSource

namespace LineSearch

/-- Two runs of the same search on files that give the same answers. -/
structure Alike (first second : Progress LineSearch) : Prop where
  state_eq : first.state = second.state
  source_eq : first.streams.SameSource second.streams

theorem Alike.advance {first second : Progress LineSearch} {asked : Request}
    (alike : Alike first second) (asks : first.state.request = some asked) :
    Alike (machine.advance first asked) (machine.advance second asked) := by
  obtain ⟨sooner, firstNext⟩ := advance_eq asks
  obtain ⟨later, secondNext⟩ := advance_eq (alike.state_eq ▸ asks)
  have sameAnswer : nextAnswer first.streams = nextAnswer second.streams :=
    funext fun room => congrArg (Incoming.answer room) alike.source_eq
  rw [firstNext, secondNext, sameAnswer, alike.state_eq]
  exact ⟨rfl, rfl⟩

theorem Alike.finish {first second : Progress LineSearch} (alike : Alike first second) :
    Alike (machine.finish first) (machine.finish second) := by
  fun_induction Machine.finish machine first generalizing second with
  | case1 first asks =>
    have same : machine.request second.state = none := alike.state_eq ▸ asks
    rw [machine.finish_of_request_eq_none same]
    exact alike
  | case2 first asked asks ih =>
    have same : machine.request second.state = some asked := alike.state_eq ▸ asks
    rw [machine.finish_of_request_eq_some same]
    exact ih (alike.advance asks)

theorem alike_run {first second : Streams} (same : first.SameSource second) (now later : Instant)
    (source : LineSource) : Alike (run now source first) (run later source second) :=
  Alike.finish ⟨rfl, same⟩

end LineSearch

namespace LineSource

/-- What a source yields depends on the answers in the script of the file alone. -/
theorem yield_congr {first second : Streams} (same : first.SameSource second)
    (now later : Instant) (source : LineSource) :
    source.yield now first = source.yield later second := by
  induction now, source, first using yield_induction generalizing later second with
  | step now source first ih =>
    have alike := LineSearch.alike_run same now later source
    rw [yield_eq_ofOutcome now, yield_eq_ofOutcome later, Yield.ofOutcome, Yield.ofOutcome,
      ← alike.state_eq]
    split
    · rename_i line found
      rw [ih line found alike.source_eq]
    · rfl
    · rfl

end LineSource

namespace LineSearch

open LineSource

/-- What a search that is under way yields, and the searches after it. -/
def yieldFrom (progress : Progress LineSearch) : Yield :=
  Yield.ofOutcome (machine.finish progress)

theorem yieldFrom_congr {first second : Progress LineSearch} (alike : Alike first second) :
    yieldFrom first = yieldFrom second := by
  have ended := alike.finish
  simp only [yieldFrom, Yield.ofOutcome, ended.state_eq]
  split
  · rw [yield_congr ended.source_eq]
  · rfl
  · rfl

/-- A search yields the same before and after a fetch. -/
theorem yieldFrom_advance {progress : Progress LineSearch} {asked : Request}
    (asks : progress.state.request = some asked) :
    yieldFrom progress = yieldFrom (machine.advance progress asked) := by
  have asks : machine.request progress.state = some asked := asks
  rw [yieldFrom, machine.finish_of_request_eq_some asks, yieldFrom]

theorem yieldFrom_eq_before (now : Instant) (source : LineSource) (found : Search)
    (streams : Streams) (late : Bool) :
    yieldFrom ⟨now, ⟨source, found⟩, streams, late⟩ =
      found.before
        (match found with
        | .incomplete _ => yieldFrom ⟨now, ⟨source, found⟩, streams, late⟩
        | _ => source.yield now streams) := by
  cases found with
  | incomplete fetched => rfl
  | line line => rw [yieldFrom, machine.finish_of_request_eq_none rfl]; rfl
  | finished => rw [yieldFrom, machine.finish_of_request_eq_none rfl]; rfl
  | broken fault => rw [yieldFrom, machine.finish_of_request_eq_none rfl]; rfl

end LineSearch

end LineEcho
