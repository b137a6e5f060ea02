import WorkflowChain.Text.Split

/-! # Words of a command line

A command line is cut into words at spaces, tabs and line feeds. Single and double
quotes hold such characters together, also in the middle of a word, and a number sign
at the start of a word begins a comment that ends with the line. A backslash is an
ordinary character.
-/

namespace WorkflowChain.Text.ShellWords

/-- Where the reader of a command line stands. -/
inductive Place where
  /-- Between words. -/
  | gap
  /-- Inside a word, outside quotes. -/
  | word
  /-- Inside a word, after the given opening quote. -/
  | quoted (quote : Char)
  /-- In a comment. -/
  | comment
  deriving DecidableEq, Repr

/-- The characters that end a word outside quotes. -/
def isDelimiter (c : Char) : Bool := c = ' ' || c = '\t' || c = '\n'

/-- The characters that open a quotation. -/
def isQuote (c : Char) : Bool := c = '\'' || c = '"'

/-- Read the rest of a command line from a place, with the characters of the word under
construction in reverse. A quotation that is never closed gives `none`. -/
def read : Place → List Char → List Char → Option (List String)
  | .gap, _, [] => some []
  | .gap, word, c :: rest =>
    if isQuote c then read (.quoted c) word rest
    else if isDelimiter c then read .gap word rest
    else if c = '#' then read .comment word rest
    else read .word (c :: word) rest
  | .word, word, [] => some [String.ofList word.reverse]
  | .word, word, c :: rest =>
    if isQuote c then read (.quoted c) word rest
    else if isDelimiter c then
      (read .gap [] rest).map (String.ofList word.reverse :: ·)
    else read .word (c :: word) rest
  | .quoted _, _, [] => none
  | .quoted quote, word, c :: rest =>
    if c = quote then read .word word rest else read (.quoted quote) (c :: word) rest
  | .comment, _, [] => some []
  | .comment, word, c :: rest =>
    if c = '\n' then read .gap word rest else read .comment word rest

/-- The words of a command line, if its quotes are balanced. -/
def split? (line : String) : Option (List String) := read .gap [] line.toList

/-- The words of a command line; one with an open quotation is cut at white space instead. -/
def split (line : String) : List String :=
  (split? line).getD (runs isBlank line.toList)

end WorkflowChain.Text.ShellWords
