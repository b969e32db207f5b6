import LineEcho.Proofs.Line.Cut
import LineEcho.Proofs.Transfer.Lines

/-!
# Lines of what is read

A script says in which chunks a file is delivered, and when.  A reader of lines takes notice only of
the octets, of the reads that find none and of the faults, in their order: `Incoming.inputs`.

`Input.Takes` says which line is the next one of some inputs, and what is left of them.  It is
computed by `Input.takeLine`, octet by octet.  Every octet is in exactly one line, unless it stands
before a fault.
-/

namespace LineEcho

/-- What reading a file meets, one thing after another: an octet, a read without octets, or a
fault. -/
inductive Input where
  | delivers (octet : UInt8)
  | nothing
  | fails (fault : Fault)
  deriving DecidableEq, Repr

namespace Input

def ofOctets (octets : Bytes) : List Input :=
  octets.map .delivers

/-- The octets among some inputs. -/
def octetsOf (inputs : List Input) : Bytes :=
  inputs.flatMap fun
    | .delivers octet => [octet]
    | _ => []

@[simp]
theorem octetsOf_append (first second : List Input) :
    octetsOf (first ++ second) = octetsOf first ++ octetsOf second :=
  List.flatMap_append

@[simp]
theorem octetsOf_ofOctets (octets : Bytes) : octetsOf (ofOctets octets) = octets := by
  induction octets with
  | nil => rfl
  | cons octet rest ih => exact congrArg (octet :: ·) ih

@[simp]
theorem ofOctets_append (first second : Bytes) :
    ofOctets (first ++ second) = ofOctets first ++ ofOctets second :=
  List.map_append

/-- What asking for a line comes to: a line, none at the end of the file, or a fault. -/
abbrev Outcome :=
  Except Fault (Option Bytes)

/-- The next read finds nothing.  Some inputs are left after it, or the file is over and stays
so. -/
inductive Ends : List Input → List Input → Prop where
  | once (left : List Input) : Ends (.nothing :: left) left
  | ended : Ends [] []

/-- The next line of some inputs, none, or a fault, and the inputs that are left.  A line reaches to
its newline or, if it is the last one, to a read that finds nothing; there is none if that read is
the next one.  The octets of a line that a fault breaks off are lost. -/
inductive Takes : List Input → Outcome → List Input → Prop where
  | line {content : Bytes} (noNewline : Bytes.newline ∉ content) (left : List Input) :
      Takes (ofOctets (content ++ [Bytes.newline]) ++ left)
        (.ok (some (content ++ [Bytes.newline]))) left
  | last {content : Bytes} (noNewline : Bytes.newline ∉ content) (nonempty : content ≠ [])
      {ending left : List Input} (ends : Ends ending left) :
      Takes (ofOctets content ++ ending) (.ok (some content)) left
  | none {ending left : List Input} (ends : Ends ending left) : Takes ending (.ok none) left
  | failed {lost : Bytes} (noNewline : Bytes.newline ∉ lost) (fault : Fault) (left : List Input) :
      Takes (ofOctets lost ++ .fails fault :: left) (.error fault) left

/-- What a read that finds nothing makes of the beginning of a line. -/
def atEnd (begun : Bytes) : Outcome :=
  .ok (if begun.isEmpty then none else some begun)

/-- Takes the next line off some inputs, when the line has been begun. -/
def takeLine (begun : Bytes) : List Input → Outcome × List Input
  | [] => (atEnd begun, [])
  | .nothing :: rest => (atEnd begun, rest)
  | .fails fault :: rest => (.error fault, rest)
  | .delivers octet :: rest =>
    if octet = Bytes.newline then (.ok (some (begun ++ [octet])), rest)
    else takeLine (begun ++ [octet]) rest

theorem takes_atEnd {begun : Bytes} (noNewline : Bytes.newline ∉ begun) {ending left : List Input}
    (ends : Ends ending left) : Takes (ofOctets begun ++ ending) (atEnd begun) left := by
  by_cases empty : begun = []
  · subst empty
    exact .none ends
  · have begins : ¬begun.isEmpty = true := fun nothing => empty (List.isEmpty_iff.1 nothing)
    rw [atEnd, if_neg begins]
    exact .last noNewline empty ends

theorem takes_takeLine {begun : Bytes} (noNewline : Bytes.newline ∉ begun) (inputs : List Input) :
    Takes (ofOctets begun ++ inputs) (takeLine begun inputs).1 (takeLine begun inputs).2 := by
  induction inputs generalizing begun with
  | nil => exact takes_atEnd noNewline .ended
  | cons input rest ih =>
    cases input with
    | nothing => exact takes_atEnd noNewline (.once rest)
    | fails fault => exact .failed noNewline fault rest
    | delivers octet =>
      have moved : ofOctets begun ++ .delivers octet :: rest =
          ofOctets (begun ++ [octet]) ++ rest := by
        rw [ofOctets_append, List.append_assoc]
        rfl
      rw [takeLine, moved]
      split
      · rename_i isNewline
        subst isNewline
        exact .line noNewline rest
      · rename_i other
        exact ih (by simp [noNewline, Ne.symm other])

/-- A line that can be split off is taken. -/
theorem takeLine_of_splitLine? {octets line after : Bytes}
    (split : LineSource.splitLine? octets = some (line, after)) (begun : Bytes)
    (rest : List Input) :
    takeLine begun (ofOctets octets ++ rest) =
      (.ok (some (begun ++ line)), ofOctets after ++ rest) := by
  induction octets generalizing begun line with
  | nil => simp [LineSource.splitLine?] at split
  | cons octet octets ih =>
    have unfolded : takeLine begun (ofOctets (octet :: octets) ++ rest) =
        if octet = Bytes.newline then
          (.ok (some (begun ++ [octet])), ofOctets octets ++ rest)
        else takeLine (begun ++ [octet]) (ofOctets octets ++ rest) := rfl
    simp only [LineSource.splitLine?] at split
    split at split
    · rename_i isNewline
      cases split
      rw [unfolded, if_pos isNewline]
    · rename_i isOther
      obtain ⟨⟨shorter, left⟩, found, same⟩ := Option.map_eq_some_iff.1 split
      cases same
      rw [unfolded, if_neg isOther, ih found, List.append_assoc, List.singleton_append]

/-- Octets without a newline are put to the line that has been begun. -/
theorem takeLine_ofOctets {octets : Bytes} (noNewline : Bytes.newline ∉ octets) (begun : Bytes)
    (rest : List Input) :
    takeLine begun (ofOctets octets ++ rest) = takeLine (begun ++ octets) rest := by
  induction octets generalizing begun with
  | nil => simp [ofOctets]
  | cons octet octets ih =>
    obtain ⟨other, noneLeft⟩ : ¬Bytes.newline = octet ∧ Bytes.newline ∉ octets := by
      simpa using noNewline
    have step : takeLine begun (ofOctets (octet :: octets) ++ rest) =
        takeLine (begun ++ [octet]) (ofOctets octets ++ rest) := if_neg (Ne.symm other)
    rw [step, ih noneLeft, List.append_assoc, List.singleton_append]

theorem takeLine_of_ends {ending left : List Input} (ends : Ends ending left) (begun : Bytes) :
    takeLine begun ending = (atEnd begun, left) := by
  cases ends <;> rfl

/-- There is only one next line. -/
theorem takes_iff {inputs left : List Input} {outcome : Outcome} :
    Takes inputs outcome left ↔ takeLine [] inputs = (outcome, left) := by
  refine ⟨fun takes => ?_, fun taken => ?_⟩
  · cases takes with
    | @line content noNewline =>
      rw [ofOctets_append, List.append_assoc, takeLine_ofOctets noNewline]
      rfl
    | last noNewline nonempty ends =>
      rw [takeLine_ofOctets noNewline, takeLine_of_ends ends]
      simp [atEnd, nonempty]
    | none ends => exact takeLine_of_ends ends []
    | failed noNewline => rw [takeLine_ofOctets noNewline]; rfl
  · have takes := takes_takeLine (List.not_mem_nil) inputs
    rw [taken] at takes
    exact takes

/-- Some inputs are the same as others, one after another.  After their end nothing is found, so
that a read more or less which says so makes no difference there. -/
def SameAs (first second : List Input) : Prop :=
  ∀ index, first.getD index .nothing = second.getD index .nothing

theorem sameAs_concat_nothing (inputs : List Input) : SameAs (inputs ++ [.nothing]) inputs := by
  induction inputs with
  | nil =>
    intro index
    cases index <;> rfl
  | cons input rest ih =>
    intro index
    cases index with
    | zero => rfl
    | succ index => exact ih index

theorem SameAs.tail {first second : Input} {firstRest secondRest : List Input}
    (same : SameAs (first :: firstRest) (second :: secondRest)) : SameAs firstRest secondRest :=
  fun index => same (index + 1)

theorem SameAs.takeLine {first second : List Input} (same : SameAs first second) (begun : Bytes) :
    (Input.takeLine begun first).1 = (Input.takeLine begun second).1 ∧
      SameAs (Input.takeLine begun first).2 (Input.takeLine begun second).2 := by
  induction first generalizing begun second with
  | nil =>
    cases second with
    | nil => exact ⟨rfl, same⟩
    | cons input rest =>
      obtain rfl : .nothing = input := same 0
      exact ⟨rfl, fun index => same (index + 1)⟩
  | cons input rest ih =>
    cases second with
    | nil =>
      obtain rfl : input = .nothing := same 0
      exact ⟨rfl, fun index => same (index + 1)⟩
    | cons other others =>
      obtain rfl : input = other := same 0
      cases input with
      | nothing => exact ⟨rfl, same.tail⟩
      | fails fault => exact ⟨rfl, same.tail⟩
      | delivers octet =>
        simp only [Input.takeLine]
        split
        · exact ⟨rfl, same.tail⟩
        · exact ih same.tail _

/-- The octets of what was taken. -/
def taken : Outcome → Bytes
  | .ok (some line) => line
  | _ => []

def isLine : Outcome → Bool
  | .ok (some _) => true
  | _ => false

/-- Without a fault, what is taken and what is left make up the whole. -/
theorem Takes.octetsOf_eq {inputs left : List Input} {outcome : Outcome}
    (takes : Takes inputs outcome left) (unfailed : ∀ fault, outcome ≠ .error fault) :
    octetsOf inputs = taken outcome ++ octetsOf left := by
  have octetsOf_ends {ending left : List Input} (ends : Ends ending left) :
      octetsOf ending = octetsOf left := by
    cases ends <;> rfl
  cases takes with
  | line => rw [octetsOf_append, octetsOf_ofOctets]; rfl
  | last noNewline nonempty ends =>
    rw [octetsOf_append, octetsOf_ofOctets, octetsOf_ends ends]
    rfl
  | none ends => exact octetsOf_ends ends
  | failed noNewline fault => exact absurd rfl (unfailed fault)

/-- Inputs that are the octets of a file and nothing after them. -/
def Deliver (content : Bytes) (inputs : List Input) : Prop :=
  ∃ count, inputs = ofOctets content ++ List.replicate count .nothing

theorem takeLine_nothing (begun : Bytes) (count : Nat) :
    takeLine begun (List.replicate count .nothing) =
      (atEnd begun, List.replicate (count - 1) .nothing) := by
  cases count <;> rfl

/-- The lines of a file are taken where it is cut. -/
theorem Deliver.takeLine {content : Bytes} {inputs : List Input}
    (deliver : Deliver content inputs) :
    ∃ after, Deliver after (Input.takeLine [] inputs).2 ∧
      match (Input.takeLine [] inputs).1 with
      | .ok (some line) => Line.cut content = line :: Line.cut after
      | .ok none => content = []
      | .error _ => False := by
  obtain ⟨count, rfl⟩ := deliver
  cases split : LineSource.splitLine? content with
  | some pair =>
    obtain ⟨line, after⟩ := pair
    rw [takeLine_of_splitLine? split]
    exact ⟨after, ⟨count, rfl⟩, LineSource.cut_of_splitLine? split⟩
  | none =>
    rw [takeLine_ofOctets (LineSource.splitLine?_eq_none_iff.1 split), takeLine_nothing,
      List.nil_append]
    refine ⟨[], ⟨count - 1, rfl⟩, ?_⟩
    by_cases empty : content = []
    · simp [atEnd, empty]
    · have begun : ¬content.isEmpty = true := fun nothing => empty (List.isEmpty_iff.1 nothing)
      simp only [atEnd, if_neg begun]
      exact LineSource.cut_of_splitLine?_eq_none split empty

/-- What is taken off some inputs by one call after another. -/
inductive Reads : List Input → List Outcome → List Input → Prop where
  | nil (inputs : List Input) : Reads inputs [] inputs
  | cons {inputs between left : List Input} {outcome : Outcome}
      {outcomes : List Outcome} (takes : Takes inputs outcome between)
      (reads : Reads between outcomes left) : Reads inputs (outcome :: outcomes) left

/-- So many calls can take only one thing. -/
theorem Reads.unique {first second firstLeft secondLeft : List Input}
    {outcomes others : List Outcome}
    (reads : Reads first outcomes firstLeft) (readsToo : Reads second others secondLeft)
    (same : SameAs first second) (lengths : outcomes.length = others.length) :
    outcomes = others := by
  induction reads generalizing second others with
  | nil inputs => exact (List.length_eq_zero_iff.1 lengths.symm).symm
  | cons takes reads ih =>
    cases readsToo with
    | nil => contradiction
    | cons takesToo readsToo =>
      obtain ⟨outcome_eq, sameLeft⟩ := same.takeLine []
      rw [takes_iff.1 takes, takes_iff.1 takesToo] at outcome_eq sameLeft
      exact congr (congrArg List.cons outcome_eq) (ih readsToo sameLeft (Nat.succ.inj lengths))

theorem Reads.octetsOf_eq {inputs left : List Input} {outcomes : List Outcome}
    (reads : Reads inputs outcomes left) (unfailed : ∀ fault, .error fault ∉ outcomes) :
    octetsOf inputs = outcomes.flatMap taken ++ octetsOf left := by
  induction reads with
  | nil inputs => rfl
  | @cons inputs between left outcome outcomes takes reads ih =>
    rw [takes.octetsOf_eq fun fault same => unfailed fault (by simp [same]),
      ih fun fault member => unfailed fault (List.mem_cons_of_mem _ member),
      List.flatMap_cons, List.append_assoc]

end Input

namespace Input

/-- What an answer to a read stands for.  One that delivers no octets finds nothing, and after an
interruption the read is made again. -/
def ofAnswer : Answer → List Input
  | .received [] => [.nothing]
  | .received octets => ofOctets octets
  | .failed fault => if fault.kind = .interrupted then [] else [.fails fault]
  | _ => []

end Input

namespace Incoming

/-- What reading a script meets, without the waits and however the octets are cut into chunks. -/
def inputs : List (Step Incoming) → List Input
  | [] => []
  | .wait _ :: rest => inputs rest
  | .answer (.data octets) :: rest => Input.ofAnswer (.received octets) ++ inputs rest
  | .answer .finished :: rest => .nothing :: inputs rest
  | .answer (.fails fault) :: rest => Input.ofAnswer (.failed fault) ++ inputs rest

theorem octetsOf_inputs (steps : List (Step Incoming)) :
    Input.octetsOf (inputs steps) = payload steps := by
  have payload_cons (step : Step Incoming) (rest : List (Step Incoming)) :
      payload (step :: rest) = payload [step] ++ payload rest := by
    simp [payload]
  fun_induction inputs steps with
  | case1 => rfl
  | case2 millis rest ih => exact ih
  | case3 octets rest ih =>
    rw [payload_cons, Input.octetsOf_append, ih]
    congr 1
    cases octets with
    | nil => rfl
    | cons octet octets =>
      rw [Input.ofAnswer, Input.octetsOf_ofOctets] <;> simp [payload]
  | case4 rest ih => exact ih
  | case5 fault rest ih =>
    rw [payload_cons, Input.octetsOf_append, ih]
    congr 1
    rw [Input.ofAnswer]
    split <;> rfl

theorem payload_ready (steps : List (Step Incoming)) :
    payload (Script.ready steps) = payload steps := by
  fun_induction Script.ready steps with
  | case1 millis rest ih => exact ih
  | case2 steps noWait => rfl

/-- A chunk is met as its octets, wherever a read stops in it. -/
theorem ofAnswer_split {room : Nat} (has_room : 0 < room) {octets : Bytes}
    (delivers : octets ≠ []) :
    Input.ofAnswer (.received octets) =
      Input.ofAnswer (.received (octets.take room)) ++ Input.ofOctets (octets.drop room) := by
  obtain ⟨octet, rest, rfl⟩ := List.exists_cons_of_ne_nil delivers
  obtain ⟨less, rfl⟩ := Nat.exists_eq_succ_of_ne_zero (Nat.pos_iff_ne_zero.1 has_room)
  have split := List.take_append_drop less rest
  simp only [List.take_succ_cons, List.drop_succ_cons, Input.ofAnswer, ← Input.ofOctets_append,
    List.cons_append, split]

/-- Answering a read takes off the script what is met next. -/
theorem takeLine_answer {room : Nat} (has_room : 0 < room) (begun : Bytes)
    (steps : List (Step Incoming)) :
    Input.takeLine begun (inputs steps) =
      Input.takeLine begun (Input.ofAnswer (answer room (Script.ready steps)).1 ++
        inputs (answer room (Script.ready steps)).2) := by
  fun_induction inputs steps with
  | case1 => rfl
  | case2 millis rest ih => exact ih
  | case3 octets rest ih =>
    simp only [Script.ready, answer]
    by_cases empty : octets = []
    · subst empty
      simp
    · rw [ofAnswer_split has_room empty, List.append_assoc]
      congr 2
      by_cases whole : octets.drop room = []
      · simp [whole, Input.ofOctets]
      · obtain ⟨octet, others, remain⟩ := List.exists_cons_of_ne_nil whole
        simp [remain, inputs, Input.ofAnswer]
  | case4 rest ih => rfl
  | case5 fault rest ih => rfl

end Incoming

end LineEcho
