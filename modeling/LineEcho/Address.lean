import LineEcho.Text.Digit

/-!
# Addresses of sockets

An address is four octets or eight groups of sixteen bits, with a port. `SocketAddress.parse?` reads
the usual notations, and `SocketAddress.text` writes the canonical one, in which two colons stand
for the longest run of zero groups, the first of several, if it has at least two of them.
-/

namespace LineEcho

/-- An address with a port. Addresses of the longer kind may name the zone that they are valid
in. -/
inductive SocketAddress where
  | v4 (octets : List Nat) (port : Nat)
  | v6 (groups : List Nat) (zone : Nat) (port : Nat)
  deriving DecidableEq, Repr

namespace SocketAddress

/-- How a number is written: its base, the digits that it has at most, whether it may begin with
zeros, and the bound below which it lies. -/
structure NumberForm where
  base : Nat
  maxDigits : Option Nat
  zerosAllowed : Bool
  bound : Nat

/-- Reads a number at the start of a text. -/
def readNumber (form : NumberForm) (text : List Char) : Option (Nat × List Char) :=
  let digits := text.takeWhile (Text.isDigitOf form.base)
  let value := Text.numberOf form.base digits
  if digits.isEmpty ∨ form.bound ≤ value ∨ form.maxDigits.any (· < digits.length) ∨
      (!form.zerosAllowed && 1 < digits.length && digits.head? == some '0') then none
  else some (value, text.drop digits.length)

/-- Reads one character at the start of a text. -/
def readChar (expected : Char) : List Char → Option (List Char)
  | [] => none
  | character :: rest => if character = expected then some rest else none

def octetForm : NumberForm := ⟨10, some 3, false, 256⟩

def groupForm : NumberForm := ⟨16, some 4, true, 65536⟩

def portForm : NumberForm := ⟨10, none, true, 65536⟩

def zoneForm : NumberForm := ⟨10, none, true, 4294967296⟩

/-- Reads so many octets with dots between them. -/
def readOctets : Nat → List Char → Option (List Nat × List Char)
  | 0, _ => none
  | 1, text => do
    let (octet, rest) ← readNumber octetForm text
    return ([octet], rest)
  | count + 2, text => do
    let (octet, rest) ← readNumber octetForm text
    let (others, rest) ← readOctets (count + 1) (← readChar '.' rest)
    return (octet :: others, rest)

/-- Reads groups with colons between them, at most as many as asked for. Four octets may stand for
the last two. -/
def readGroups (first : Bool) : Nat → List Char → List Nat × Bool × List Char
  | 0, text => ([], false, text)
  | count + 1, text =>
    match if first then some text else readChar ':' text with
    | none => ([], false, text)
    | some inner =>
      match if count = 0 then none else readOctets 4 inner with
      | some ([a, b, c, d], rest) => ([a * 256 + b, c * 256 + d], true, rest)
      | _ =>
        match readNumber groupForm inner with
        | none => ([], false, text)
        | some (group, rest) =>
          let (others, embedded, rest) := readGroups false count rest
          (group :: others, embedded, rest)

/-- Reads the eight groups of an address, where two colons stand for the zero groups that are
missing. -/
def readGroups8 (text : List Char) : Option (List Nat × List Char) :=
  match readGroups true 8 text with
  | (head, embedded, rest) =>
    if head.length = 8 then some (head, rest)
    else if embedded then none
    else do
      let rest ← readChar ':' rest
      let rest ← readChar ':' rest
      let (tail, _, rest) := readGroups true (7 - head.length) rest
      return (head ++ List.replicate (8 - head.length - tail.length) 0 ++ tail, rest)

def readPort (text : List Char) : Option Nat := do
  let (port, rest) ← readNumber portForm (← readChar ':' text)
  if rest.isEmpty then some port else none

def parseV4? (text : List Char) : Option SocketAddress := do
  let (octets, rest) ← readOctets 4 text
  return .v4 octets (← readPort rest)

/-- Reads an address of the longer kind, which stands in brackets. -/
def parseV6? (text : List Char) : Option SocketAddress := do
  let (groups, rest) ← readGroups8 (← readChar '[' text)
  let (zone, rest) :=
    match (readChar '%' rest).bind (readNumber zoneForm) with
    | some (zone, rest) => (zone, rest)
    | none => (0, rest)
  return .v6 groups zone (← readPort (← readChar ']' rest))

def parse? (text : String) : Option SocketAddress :=
  (parseV4? text.toList).orElse (fun _ => parseV6? text.toList)

/-- The address of a host that is given by its number. -/
def ofHost? (host : String) (port : UInt16) : Option SocketAddress :=
  match readOctets 4 host.toList, readGroups8 host.toList with
  | some (octets, []), _ => some (.v4 octets port.toNat)
  | _, some (groups, []) => some (.v6 groups 0 port.toNat)
  | _, _ => none

def port : SocketAddress → Nat
  | v4 _ port => port
  | v6 _ _ port => port

def withPort (port : Nat) : SocketAddress → SocketAddress
  | v4 octets _ => v4 octets port
  | v6 groups zone _ => v6 groups zone port

/-- Whether listening at one address takes the port at another one too. The address of zeros stands
for all addresses of its kind, and the longer one for those of both kinds. -/
def covers : SocketAddress → SocketAddress → Bool
  | v4 [0, 0, 0, 0] port, v4 _ other => port == other
  | v6 [0, 0, 0, 0, 0, 0, 0, 0] _ port, other => port == other.port
  | address, other => address == other

/-- The octets of an address of the shorter kind. -/
def octetsText (octets : List Nat) : String :=
  ".".intercalate (octets.map toString)

def groupsText (groups : List Nat) : String :=
  ":".intercalate (groups.map (fun group => String.ofList (Nat.toDigits 16 group)))

/-- Where the longest run of zeros in a list is, and how long it is. -/
def longestZeros (groups : List Nat) : Nat × Nat :=
  let runs := (List.range groups.length).map
    (fun start => (start, ((groups.drop start).takeWhile (· == 0)).length))
  runs.foldl (fun best run => if best.2 < run.2 then run else best) (0, 0)

/-- The canonical text of eight groups. Those that stand for an address of the shorter kind end in
its octets. -/
def addressText (groups : List Nat) : String :=
  match groups with
  | [0, 0, 0, 0, 0, 0xFFFF, high, low] =>
    "::ffff:" ++ octetsText [high / 256, high % 256, low / 256, low % 256]
  | _ =>
    let (start, length) := longestZeros groups
    if 1 < length then
      groupsText (groups.take start) ++ "::" ++ groupsText (groups.drop (start + length))
    else groupsText groups

def text : SocketAddress → String
  | v4 octets port => octetsText octets ++ ":" ++ toString port
  | v6 groups zone port =>
    "[" ++ addressText groups ++ (if zone = 0 then "" else "%" ++ toString zone) ++ "]:" ++
      toString port

end SocketAddress

end LineEcho
