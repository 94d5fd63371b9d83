import TemplateScan.Lexer.Progress
import TemplateScan.Log.Event
import TemplateScan.Template.Marker

/-! # Token streams

The tokens of a source when the same kinds are offered at every place. Where an attempt is refused,
the host steps over an opening marker as a whole, and over one character otherwise.
-/

namespace TemplateScan

/-- The host, the tokens taken so far, and the log of the attempts. -/
structure TokenStream (source : Source) where
  lexer : Lexer source := {}
  tokens : Array Token := #[]
  events : Array Event := #[]
deriving DecidableEq, Repr

namespace TokenStream

variable {source : Source}

/-- Moves the host over what an attempt has refused. -/
def stepOver (lexer : Lexer source) : Checked (Lexer source) :=
  if lexer.startsWith Marker.directiveOpen then lexer.setOffset (lexer.offset + 2)
  else lexer.bumpChar

/-- One attempt at a token, and the step over what it refuses. -/
def step (offered : Offered) (s : TokenStream source) : Checked (TokenStream source) :=
  match s.lexer.scan offered with
  | (some token, lexer) =>
      .ok ⟨lexer, s.tokens.push token,
        s.events.push (.scanned s.lexer.offset offered (some token))⟩
  | (none, lexer) => do
      return ⟨← stepOver lexer, s.tokens, s.events.push (.scanned s.lexer.offset offered none)⟩

theorem offset_lt_of_stepOver {l l' : Lexer source} (hleft : l.offset < source.size)
    (h : stepOver l = .ok l') : l.offset < l'.offset := by
  unfold stepOver at h
  split at h
  · have := (Lexer.offset_eq_of_setOffset h).1
    omega
  · exact Lexer.offset_lt_of_bumpChar hleft h

/-- Each step moves the host forward where input is left. -/
theorem offset_lt_of_step {offered : Offered} {s s' : TokenStream source}
    (hleft : s.lexer.offset < source.size) (h : s.step offered = .ok s') :
    s.lexer.offset < s'.lexer.offset := by
  unfold step at h
  split at h
  next token lexer hscan =>
    cases h
    exact (Lexer.offset_lt_of_scan_eq_some hscan).2
  next lexer hscan =>
    have hoffset := Lexer.offset_eq_of_scan_eq_none hscan
    simp only [bind, Except.bind] at h
    split at h
    · cases h
    next moved hmove =>
      have hmoved := offset_lt_of_stepOver (by omega) hmove
      cases h
      exact hoffset ▸ hmoved

/-- Takes steps to the end of the source. -/
def run (offered : Offered) (s : TokenStream source) : Checked (TokenStream source) :=
  if _hend : s.lexer.isAtEnd then
    .ok s
  else
    match _hstep : s.step offered with
    | .error fault => .error fault
    | .ok next => next.run offered
termination_by source.size - s.lexer.offset
decreasing_by
  have hleft : s.lexer.offset < source.size := by simpa [Lexer.isAtEnd] using _hend
  have hprogress := offset_lt_of_step hleft _hstep
  omega

end TokenStream

/-- The token stream of a source with its log. -/
def Source.tokenStream (source : Source) (offered : Offered) : Checked (TokenStream source) :=
  TokenStream.run offered {}

/-- The tokens of a source. -/
def Source.tokens (source : Source) (offered : Offered) : Checked (List Token) :=
  (fun stream => stream.tokens.toList) <$> source.tokenStream offered

/-- The text of a token. The source must be the one that it was taken from. -/
def Token.text (token : Token) (source : Source) : Checked String :=
  source.cut token.span

end TemplateScan
