import TemplateScan.TokenStream

/-! # Token listings

A header with the name of the file and the number of tokens, then a line for each token.
-/

namespace TemplateScan

namespace Report

/-- The line of a token. -/
def tokenLine (token : Token) : String :=
  "  " ++ token.kind.name ++ " @ " ++ token.span.render ++ "\n"

/-- The listing of a file's tokens. -/
def tokenListing (path : String) (tokens : List Token) : String :=
  "Tokens for '" ++ path ++ "' (" ++ toString tokens.length ++ " tokens):\n" ++
    String.join (tokens.map tokenLine)

/-- The listing of the tokens of a source, when the given kinds are offered everywhere. -/
def tokens (path : String) (source : Source) (offered : Offered) : Checked String :=
  tokenListing path <$> source.tokens offered

end Report

end TemplateScan
