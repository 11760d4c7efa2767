/-!
# Topic patterns

A topic pattern is a routing key whose dot-separated words may be wildcards: `*`
stands for exactly one word and `#` for any number of words, none included.

`Topic.matches` works through the pattern word by word and keeps a row that
tells, for each number `j`, whether the pattern so far matches the first `j`
words of the key. Its time is the product of the two lengths, whatever the
wildcards.
-/

namespace ChannelRouting.Topic

/-- The dot-separated words of a key; an empty key has one empty word. -/
def words : List Char → List (List Char)
  | [] => [[]]
  | c :: cs =>
    if c = '.' then [] :: words cs
    else
      match words cs with
      | w :: ws => (c :: w) :: ws
      | [] => [[c]]

/-- One word of a pattern. -/
inductive PatternWord where
  | oneWord
  | anyWords
  | literal (word : List Char)
deriving DecidableEq

/-- How a word of a pattern is read. -/
def PatternWord.ofWord (w : List Char) : PatternWord :=
  if w = ['*'] then .oneWord else if w = ['#'] then .anyWords else .literal w

/-- Whether a word of a pattern that takes up exactly one word accepts it. -/
def PatternWord.accepts : PatternWord → List Char → Bool
  | oneWord, _ => true
  | anyWords, _ => false
  | literal p, w => decide (p = w)

/-- A row in which every entry after a `true` is `true`. -/
def spread (seen : Bool) : List Bool → List Bool
  | [] => []
  | b :: row => (seen || b) :: spread (seen || b) row

/-- The row after one more word of the pattern. -/
def advance (key : List (List Char)) (row : List Bool) : PatternWord → List Bool
  | .anyWords => spread false row
  | p => false :: List.zipWith (fun w reached => reached && p.accepts w) key row

/-- The row of the empty pattern: it matches the first 0 words only. -/
def start (key : List (List Char)) : List Bool := true :: key.map fun _ => false

/-- Whether the words of a pattern match the words of a key. -/
def matchesWords (pattern : List PatternWord) (key : List (List Char)) : Bool :=
  (pattern.foldl (advance key) (start key)).getLast?.getD false

/-- Whether a topic pattern matches a routing key. -/
def «matches» (pattern key : String) : Bool :=
  matchesWords ((words pattern.toList).map .ofWord) (words key.toList)

end ChannelRouting.Topic
