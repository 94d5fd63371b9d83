import TemplateScan.Pattern.Atom
import TemplateScan.Pattern.Nesting

/-! # Classes of a pattern

A class is a list of members in brackets: characters, ranges of them, and classes. Between two
doubled signs stand the operands of a set operation. Reading one tells how deep it nests.
-/

namespace TemplateScan

namespace Pattern

/-- What a class that is being read stands in. -/
inductive ClassFrame where
  /-- A bracket was opened behind members that nest this deep. -/
  | opened (outer : List Nat)
  /-- A set operation was begun, whose left operand nests this deep. -/
  | operand (left : Nat)
deriving DecidableEq, Repr

/-- How far a class is read. -/
structure ClassReader where
  stack : List ClassFrame := []
  /-- How deep each of the members so far nests. -/
  members : List Nat := []
  /-- Does the place come directly behind an opening bracket, or behind dashes there? -/
  fresh : Bool := false
deriving DecidableEq, Repr

/-- What a turn of reading a class comes to. -/
inductive ClassTurn where
  | more (reader : ClassReader) (rest : List Char)
  /-- The outermost bracket was closed. -/
  | done (depth : Nat) (rest : List Char)
deriving DecidableEq, Repr

/-- The names of the classes of ASCII characters. -/
def asciiClassNames : List String :=
  ["alnum", "alpha", "ascii", "blank", "cntrl", "digit", "graph", "lower", "print", "punct",
    "space", "upper", "word", "xdigit"]

/-- Reads a class of ASCII characters from behind its bracket on: its name between colons, and
whether it is negated. -/
def readAsciiClass? : List Char → Option (Bool × List Char)
  | ':' :: cs =>
      let (negated, cs) := match cs with
        | '^' :: rest => (true, rest)
        | rest => (false, rest)
      match cs.dropWhile (· != ':') with
      | ':' :: ']' :: rest =>
          if asciiClassNames.contains (String.ofList (cs.takeWhile (· != ':'))) then
            some (negated, rest)
          else
            none
      | _ => none
  | _ => none

namespace ClassReader

/-- Takes a member into account. -/
def add (reader : ClassReader) (depth : Nat) : ClassReader :=
  { reader with members := reader.members ++ [depth], fresh := false }

/-- Takes a character into account that stands for itself. -/
def addLiteral (reader : ClassReader) (modes : Modes) (c : Char) (rest : List Char) :
    Option ClassTurn :=
  if (Atom.literal c false).isMember modes then some (.more (reader.add 0) rest) else none

/-- Opens a bracket. All characters but some are only to be had of characters, not of bytes. -/
def openBracket (reader : ClassReader) (modes : Modes) (cs : List Char) : Option ClassTurn :=
  let inner : ClassReader := { stack := .opened reader.members :: reader.stack, fresh := true }
  match modes.skip cs with
  | '^' :: rest => if modes.unicode then some (.more inner rest) else none
  | rest => some (.more inner rest)

/-- How deep the members since the last bracket nest, with the set operation that they end, and what
they stand in. -/
def finishOperation (reader : ClassReader) : Nat × List ClassFrame :=
  match reader.stack with
  | .operand left :: stack => (nesting [left, nesting reader.members], stack)
  | stack => (nesting reader.members, stack)

/-- Begins a set operation. -/
def beginOperation (reader : ClassReader) : ClassReader :=
  let (depth, stack) := reader.finishOperation
  { stack := .operand depth :: stack }

/-- Closes a bracket. -/
def closeBracket (reader : ClassReader) (rest : List Char) : Option ClassTurn :=
  match reader.finishOperation with
  | (depth, [.opened _]) => some (.done (depth + 1) rest)
  | (depth, .opened outer :: stack) =>
      some (.more { stack := stack, members := outer ++ [depth + 1] } rest)
  | _ => none

/-- Reads a class of ASCII characters, or else opens a bracket in the class. -/
def readInner (reader : ClassReader) (modes : Modes) (cs : List Char) : Option ClassTurn :=
  match readAsciiClass? cs with
  | some (negated, rest) =>
      if modes.unicode && modes.ignoreCase || !modes.unicode && negated then none
      else some (.more (reader.add 0) rest)
  | none => reader.openBracket modes cs

/-- Reads an atom of a class. -/
def readAtom (modes : Modes) : List Char → Option (Atom × List Char)
  | [] => none
  | '\\' :: rest => Atom.readEscaped modes rest
  | c :: rest => some (.literal c false, rest)

/-- Reads the upper end of a range, which is not below the lower one. -/
def readUpper (modes : Modes) (lower : Char) (cs : List Char) : Option (List Char) :=
  match readAtom modes cs with
  | some (.literal upper isByte, rest) =>
      if lower ≤ upper ∧ (Atom.literal upper isByte).isMember modes then some rest else none
  | _ => none

/-- Reads a member or a range. A dash makes a range unless the class ends behind it, or another dash
follows. -/
def readMember (reader : ClassReader) (modes : Modes) (cs : List Char) : Option ClassTurn := do
  let (atom, rest) ← readAtom modes cs
  if !atom.isMember modes then none
  else
    match modes.skip rest with
    | '-' :: behind =>
        if modes.ahead? behind = some ']' ∨ modes.ahead? behind = some '-' then
          some (.more (reader.add 0) ('-' :: behind))
        else
          match atom with
          | .literal lower _ =>
              (readUpper modes lower (modes.skip behind)).map (.more (reader.add 0) ·)
          | _ => none
    | rest => some (.more (reader.add 0) rest)

/-- One turn of reading a class. Dashes directly behind an opening bracket stand for themselves, and
so does a closing bracket there. -/
def step (reader : ClassReader) (modes : Modes) (cs : List Char) : Option ClassTurn :=
  match modes.skip cs with
  | [] => none
  | '[' :: rest => reader.readInner modes rest
  | ']' :: rest =>
      if reader.fresh && reader.members.isEmpty then reader.addLiteral modes ']' rest
      else reader.closeBracket rest
  | '&' :: '&' :: rest => some (.more reader.beginOperation rest)
  | '~' :: '~' :: rest => some (.more reader.beginOperation rest)
  | '-' :: rest =>
      if reader.fresh then
        (reader.addLiteral modes '-' rest).map fun turn =>
          match turn with
          | .more reader rest => .more { reader with fresh := true } rest
          | turn => turn
      else
        match rest with
        | '-' :: rest => some (.more reader.beginOperation rest)
        | _ => reader.readMember modes ('-' :: rest)
  | rest => reader.readMember modes rest

/-- Reads a class up to its end, in at most as many turns as there are characters. -/
def run (modes : Modes) : (turns : Nat) → ClassReader → List Char → Option (Nat × List Char)
  | 0, _, _ => none
  | turns + 1, reader, cs =>
      match reader.step modes cs with
      | none => none
      | some (.done depth rest) => some (depth, rest)
      | some (.more reader rest) => run modes turns reader rest

end ClassReader

/-- Reads a class from behind its bracket on. Tells how deep it nests, if it is one. -/
def readClass (modes : Modes) (cs : List Char) : Option (Nat × List Char) :=
  match ({} : ClassReader).openBracket modes cs with
  | some (.more reader rest) => reader.run modes (cs.length + 1) rest
  | _ => none

end Pattern

end TemplateScan
