/-! # Cutting and joining text

Text is cut at single characters, at white space or at a fixed separator. All functions work on
the characters of the text, so their laws are laws of `List.takeWhile`,
`List.dropWhile` and `List.map`.
-/

namespace WorkflowChain.Text

/-- Whether a character has the `White_Space` property. -/
def isBlank (c : Char) : Bool :=
  let n := c.toNat
  (9 ≤ n && n ≤ 13) || n = 0x20 || n = 0x85 || n = 0xA0 || n = 0x1680
    || (0x2000 ≤ n && n ≤ 0x200A) || n = 0x2028 || n = 0x2029 || n = 0x202F || n = 0x205F
    || n = 0x3000

/-- The parts before and after the first `mark`, if there is one. -/
def cutFirst? (mark : Char) (text : String) : Option (String × String) :=
  match text.toList.dropWhile (· != mark) with
  | [] => none
  | _ :: rest => some (String.ofList (text.toList.takeWhile (· != mark)), String.ofList rest)

/-- The part after the last `mark`, or the whole text if there is none. -/
def afterLast (mark : Char) (text : String) : String :=
  String.ofList (text.toList.reverse.takeWhile (· != mark)).reverse

/-- The text with every `old` character written as `new`. -/
def replaceChar (old new : Char) (text : String) : String :=
  String.ofList (text.toList.map fun c => if c = old then new else c)

/-- The text without any `unwanted` character. -/
def withoutChar (unwanted : Char) (text : String) : String :=
  String.ofList (text.toList.filter (· != unwanted))

/-- Whether `part` stands somewhere in the characters of a text. -/
def occursIn (part : List Char) : List Char → Bool
  | [] => part.isEmpty
  | c :: rest => part.isPrefixOf (c :: rest) || occursIn part rest

/-- The texts one after the other, with `separator` between neighbours. -/
def joinWith (separator : String) : List String → String
  | [] => ""
  | [only] => only
  | first :: second :: rest => first ++ separator ++ joinWith separator (second :: rest)

/-- The non-empty runs of characters that do not satisfy `isGap`. -/
def runs (isGap : Char → Bool) (chars : List Char) : List String :=
  close (chars.foldr step ([], []))
where
  /-- Put the run under construction, if it has begun, before the finished ones. -/
  close : List Char × List String → List String
    | ([], done) => done
    | (run, done) => String.ofList run :: done
  /-- Extend the run under construction to the left, or end it at a gap. -/
  step (c : Char) (state : List Char × List String) : List Char × List String :=
    if isGap c then ([], close state) else (c :: state.1, state.2)

/-- The lines of a text: each ends at a line feed, which is not part of it, and so does the last
one if the text ends with a line feed. -/
def lines (text : String) : List String :=
  match (cut text.toList).reverse with
  | [] :: rest => (rest.reverse).map String.ofList
  | all => (all.reverse).map String.ofList
where
  /-- The stretches between line feeds, always at least one. -/
  cut : List Char → List (List Char)
    | [] => [[]]
    | c :: rest =>
      if c = '\n' then [] :: cut rest
      else match cut rest with
        | [] => [[c]]
        | line :: others => (c :: line) :: others

end WorkflowChain.Text
