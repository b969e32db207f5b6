import LineEcho.Fault

/-!
# Faults that the operating system reports

A reported error is known by its number, and otherwise shown with its own words.
-/

namespace LineEcho.Live

/-- The number and the words of a reported error. -/
def numberAndWords : IO.Error → Nat × String
  | .alreadyExists _ number words => (number.toNat, words)
  | .otherError number words => (number.toNat, words)
  | .resourceBusy number words => (number.toNat, words)
  | .resourceVanished number words => (number.toNat, words)
  | .unsupportedOperation number words => (number.toNat, words)
  | .hardwareFault number words => (number.toNat, words)
  | .unsatisfiedConstraints number words => (number.toNat, words)
  | .illegalOperation number words => (number.toNat, words)
  | .protocolError number words => (number.toNat, words)
  | .timeExpired number words => (number.toNat, words)
  | .interrupted _ number words => (number.toNat, words)
  | .noFileOrDirectory _ number words => (number.toNat, words)
  | .invalidArgument _ number words => (number.toNat, words)
  | .permissionDenied _ number words => (number.toNat, words)
  | .resourceExhausted _ number words => (number.toNat, words)
  | .inappropriateType _ number words => (number.toNat, words)
  | .noSuchThing _ number words => (number.toNat, words)
  | .unexpectedEof => (0, FaultKind.description .unexpectedEnd)
  | .userError words => (0, words)

/-- The number of an error, which some calls report with the sign reversed. -/
def unsigned (number : Nat) : Nat :=
  if UInt32.size / 2 ≤ number then UInt32.size - number else number

/-- The fault that a reported error is. -/
def faultOf (error : IO.Error) : Fault :=
  let (number, words) := numberAndWords error
  match SystemError.ofNumber? (unsigned number) with
  | some known => .ofSystem known
  | none => ⟨.other, words⟩

/-- What an action comes to. -/
def attempt {α : Type} (action : IO α) : IO (Except Fault α) := do
  try
    return .ok (← action)
  catch error => return .error (faultOf error)

end LineEcho.Live
