import TemplateScan.Pattern.Class
import TemplateScan.Text.Alphanumeric

/-! # Patterns

A pattern describes texts by a regular expression: characters and classes of them, one behind the
other or with bars between them, in groups, and repeated. Here it is only told whether a text is a
pattern that can be used.
-/

namespace TemplateScan

/-- Why a pattern cannot be used. -/
inductive PatternError where
  | malformed
  /-- The ends of words are to be found in a text of any script. -/
  | wordBoundary
deriving DecidableEq, Repr

/-- What is said about a pattern that cannot be used. -/
def PatternError.message : PatternError → String
  | .malformed => "error building NFA"
  | .wordBoundary =>
      "unsupported regex feature for DFAs: cannot build DFAs for regexes with Unicode word " ++
        "boundaries; switch to ASCII word boundaries, or heuristically enable Unicode word " ++
        "boundaries or use a different regex engine"

namespace Pattern

/-- A part of a pattern. -/
structure Piece where
  /-- How deep it nests. -/
  depth : Nat := 0
  /-- Can it be repeated? Flags cannot. -/
  repeatable : Bool := true
deriving DecidableEq, Repr

/-- What is read of a group, or of the whole pattern. -/
structure Level where
  /-- How deep each of the branches nests whose bar was read. -/
  branches : List Nat := []
  /-- The parts of the branch that is being read, last one first. -/
  pieces : List Piece := []
deriving DecidableEq, Repr

namespace Level

/-- How deep the branch nests that is being read. -/
def branchDepth (level : Level) : Nat :=
  nesting (level.pieces.map (·.depth))

/-- How deep everything that is read nests. -/
def depth (level : Level) : Nat :=
  nesting (level.branches ++ [level.branchDepth])

/-- Takes a part into account. -/
def add (level : Level) (piece : Piece) : Level :=
  { level with pieces := piece :: level.pieces }

/-- Ends a branch. -/
def addBranch (level : Level) : Level :=
  { branches := level.branches ++ [level.branchDepth] }

/-- Repeats the last part, if there is one that can be repeated. -/
def repeatLast? (level : Level) : Option Level :=
  match level.pieces with
  | piece :: pieces =>
      if piece.repeatable then some { level with pieces := { depth := piece.depth + 1 } :: pieces }
      else none
  | [] => none

end Level

/-- How far a pattern is read. -/
structure Reader where
  modes : Modes := {}
  level : Level := {}
  /-- The levels around the group that is being read, with their modes, innermost first. -/
  outer : List (Modes × Level) := []
  /-- The names of the groups so far. -/
  names : List (List Char) := []
  /-- Does the pattern look for the ends of words in a text of any script? -/
  seeksWords : Bool := false
deriving DecidableEq, Repr

namespace Reader

/-- Takes a part into account. -/
def add (reader : Reader) (piece : Piece) : Reader :=
  { reader with level := reader.level.add piece }

/-- Opens a group in which the given modes hold. -/
def openGroup (reader : Reader) (modes : Modes) : Reader :=
  { reader with
    modes := modes
    level := {}
    outer := (reader.modes, reader.level) :: reader.outer }

/-- Closes a group. The modes in front of it hold again. -/
def closeGroup? (reader : Reader) : Option Reader :=
  match reader.outer with
  | (modes, level) :: outer =>
      some { reader with
        modes := modes
        level := level.add { depth := reader.level.depth + 1 }
        outer := outer }
  | [] => none

/-- Is a text the name of a group? -/
def isName : List Char → Bool
  | [] => false
  | first :: rest =>
      (first == '_' || isAlphabetic first) &&
        rest.all fun c => c == '_' || c == '.' || c == '[' || c == ']' || isAlphanumeric c

/-- Reads the name of a group, which no other group has. -/
def readName (reader : Reader) (cs : List Char) : Option (Reader × List Char) :=
  let name := cs.takeWhile (· != '>')
  match cs.dropWhile (· != '>') with
  | '>' :: rest =>
      if isName name && !reader.names.contains name then
        some ({ reader.openGroup reader.modes with names := name :: reader.names }, rest)
      else
        none
  | _ => none

/-- Reads flags: by themselves for the rest of the group, or with a colon for a new one. -/
def readFlags (reader : Reader) (cs : List Char) : Option (Reader × List Char) :=
  let flags := cs.takeWhile fun c => c != ':' && c != ')'
  if Modes.areFlags flags then
    match cs.drop flags.length with
    | ':' :: rest => some (reader.openGroup (reader.modes.switch flags), rest)
    | ')' :: rest =>
        if flags.isEmpty then none
        else
          some ({ reader.add { repeatable := false } with modes := reader.modes.switch flags },
            rest)
    | _ => none
  else
    none

/-- Reads what stands behind the opening parenthesis of a group. -/
def readGroup (reader : Reader) (cs : List Char) : Option (Reader × List Char) :=
  match reader.modes.skip cs with
  | '?' :: 'P' :: '<' :: rest => reader.readName rest
  | '?' :: '<' :: rest => reader.readName rest
  | '?' :: rest => reader.readFlags rest
  | rest => some (reader.openGroup reader.modes, rest)

/-- Takes an atom into account. -/
def addAtom (reader : Reader) (atom : Atom) : Option Reader :=
  if atom.isAdmitted reader.modes then
    some { reader.add {} with
      seeksWords := reader.seeksWords || (atom == .wordBoundary && reader.modes.unicode) }
  else
    none

/-- Repeats the last part. A question mark directly behind the sign belongs to it. -/
def readRepetition (reader : Reader) (cs : List Char) : Option (Reader × List Char) := do
  let level ← reader.level.repeatLast?
  let rest := match cs with
    | '?' :: rest => rest
    | rest => rest
  return ({ reader with level := level }, rest)

/-- One turn of reading a pattern, from a character that counts for something on. A number of
repetitions stands in braces, which are never closed where a pattern stands. -/
def step (reader : Reader) (c : Char) (cs : List Char) : Option (Reader × List Char) :=
  match c with
  | '(' => reader.readGroup cs
  | ')' => reader.closeGroup?.map (·, cs)
  | '|' => some ({ reader with level := reader.level.addBranch }, cs)
  | '[' => (readClass reader.modes cs).map fun (depth, rest) => (reader.add { depth := depth }, rest)
  | '?' | '*' | '+' => reader.readRepetition cs
  | '\x7b' => none
  | '\\' => do
      let (atom, rest) ← Atom.readEscaped reader.modes cs
      return (← reader.addAtom atom, rest)
  | '.' => if reader.modes.unicode then some (reader.add {}, cs) else none
  | '^' | '$' => (reader.addAtom .anchor).map (·, cs)
  | c => (reader.addAtom (.literal c false)).map (·, cs)

/-- Reads a pattern up to its end, in at most as many turns as there are characters. -/
def run : (turns : Nat) → Reader → List Char → Option Reader
  | 0, _, _ => none
  | turns + 1, reader, cs =>
      match reader.modes.skip cs with
      | [] => some reader
      | c :: rest =>
          match reader.step c rest with
          | none => none
          | some (reader, rest) => run turns reader rest

end Reader

/-- Can a text be used as a pattern? -/
def check (text : List Char) : Except PatternError Unit :=
  match Reader.run (text.length + 1) {} text with
  | none => .error .malformed
  | some reader =>
      if !reader.outer.isEmpty || maxNesting < reader.level.depth then .error .malformed
      else if reader.seeksWords then .error .wordBoundary
      else .ok ()

end Pattern

end TemplateScan
