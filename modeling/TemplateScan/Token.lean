import TemplateScan.Span

/-! # Tokens

The two kinds of token that are recognized outside the grammar proper, the set of kinds a host
offers at a position, and a recognized token.
-/

namespace TemplateScan

/-- A kind of external token. -/
inductive TokenKind where
  /-- A maximal run of literal template text between directive markers. -/
  | content
  /-- A block comment. -/
  | comment
deriving DecidableEq, Repr, Inhabited

namespace TokenKind

/-- All kinds in the order of their symbols. -/
def all : List TokenKind :=
  [.content, .comment]

theorem mem_all (kind : TokenKind) : kind ∈ all := by
  cases kind <;> simp [all]

/-- The number by which the grammar knows a kind. -/
def symbol : TokenKind → Nat
  | .content => 0
  | .comment => 1

/-- The kind that a symbol stands for. -/
def ofSymbol? : Nat → Option TokenKind
  | 0 => some .content
  | 1 => some .comment
  | _ => none

/-- A kind's symbol stands for that kind and for no other. -/
theorem ofSymbol?_eq_some_iff {symbol : Nat} {kind : TokenKind} :
    ofSymbol? symbol = some kind ↔ symbol = kind.symbol := by
  match symbol with
  | 0 => cases kind <;> simp [ofSymbol?, TokenKind.symbol]
  | 1 => cases kind <;> simp [ofSymbol?, TokenKind.symbol]
  | _ + 2 => cases kind <;> simp [ofSymbol?, TokenKind.symbol]

/-- The grammar's name of a kind. -/
def name : TokenKind → String
  | .content => "content"
  | .comment => "comment"

/-- The name of a kind in log lines. -/
def label : TokenKind → String
  | .content => "Content"
  | .comment => "BlockComment"

end TokenKind

/-- The kinds a host accepts at a position. Any subset may be offered, the empty one included. -/
structure Offered where
  content : Bool := false
  comment : Bool := false
deriving DecidableEq, Repr, Inhabited

namespace Offered

/-- Nothing is accepted. -/
def nothing : Offered :=
  {}

/-- Both kinds are accepted, as between directives. -/
def everything : Offered :=
  ⟨true, true⟩

/-- Only the given kind is accepted. -/
def only : TokenKind → Offered
  | .content => ⟨true, false⟩
  | .comment => ⟨false, true⟩

/-- May a token of this kind be returned? -/
def accepts (offered : Offered) : TokenKind → Bool
  | .content => offered.content
  | .comment => offered.comment

/-- Comments without content are offered only inside a directive, where leading blanks are the
recognizer's to skip. -/
def insideDirective (offered : Offered) : Bool :=
  offered.comment && !offered.content

/-- The set given by one flag per kind in the order of the symbols; a flag that is missing counts
as false and further flags count for nothing. -/
def ofFlags (flags : List Bool) : Offered :=
  ⟨flags[TokenKind.content.symbol]? == some true, flags[TokenKind.comment.symbol]? == some true⟩

/-- The set as a number with one bit per kind. -/
def bits (offered : Offered) : Nat :=
  (if offered.content then 1 else 0) + (if offered.comment then 2 else 0)

/-- The set of the two lowest bits; higher bits are dropped. -/
def ofBits (bits : Nat) : Offered :=
  ⟨bits.testBit 0, bits.testBit 1⟩

/-- A set is written as its members, or as zero where it has none. -/
def render (offered : Offered) : String :=
  let members := match offered with
    | ⟨false, false⟩ => "0x0"
    | ⟨true, false⟩ => "CONTENT"
    | ⟨false, true⟩ => "BLOCK_COMMENT"
    | ⟨true, true⟩ => "CONTENT | BLOCK_COMMENT"
  "ValidTokens(" ++ members ++ ")"

@[simp] theorem accepts_only (kind other : TokenKind) :
    (only kind).accepts other = (kind == other) := by
  cases kind <;> cases other <;> rfl

@[simp] theorem ofBits_bits (offered : Offered) : ofBits offered.bits = offered := by
  rcases offered with ⟨_ | _, _ | _⟩ <;> rfl

end Offered

/-- A recognized token: its kind and the bytes it covers. -/
structure Token where
  kind : TokenKind
  span : Span
deriving DecidableEq, Repr, Inhabited

namespace Token

/-- A token as log lines show it. -/
def render (token : Token) : String :=
  "ScannedToken \x7b kind: " ++ token.kind.label ++ ", span: " ++ token.span.render ++ " \x7d"

/-- The outcome of an attempt at a token as log lines show it. -/
def renderOption : Option Token → String
  | none => "None"
  | some token => "Some(" ++ token.render ++ ")"

end Token

end TemplateScan
