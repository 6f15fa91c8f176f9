namespace Middleware

/-!
# Request methods

A method is any non-empty token: ASCII letters, ASCII digits and the
punctuation that tokens allow. Its case is kept.
-/

/-- The punctuation that a token may contain. -/
def tokenPunctuation : List Char :=
  ['!', '#', '$', '%', '&', '\x27', '*', '+', '-', '.', '^', '_', '\x60', '|', '~']

/-- Whether a character may occur in a method token. -/
def isTokenChar (c : Char) : Bool :=
  c.isAlphanum || tokenPunctuation.contains c

/-- Whether a text is a method token. -/
def isToken (text : String) : Bool :=
  !text.isEmpty && text.toList.all isTokenChar

/-- A request method: a non-empty token. -/
structure Method where
  token : String
  isToken : isToken token = true
deriving DecidableEq

namespace Method

/-- The method of a plain retrieval. -/
def get : Method :=
  ⟨"GET", by decide⟩

/-- The method a text spells, if it is a token. -/
def ofString? (text : String) : Option Method :=
  if valid : Middleware.isToken text = true then some ⟨text, valid⟩ else none

end Method

end Middleware
