/-!
Names of neighbouring characters, each told by what it shares with the one before it.
-/

namespace RelaxCompact.CharacterName

/-- How a name follows from the one before it: the number at its end goes up, or other words stand
between the first and the last ones. -/
inductive Step
  | count
  | change (leading : Nat) (middle : List String) (trailing : Nat)
  deriving DecidableEq, Repr

/-- Characters with consecutive numbers. The line of a name is a small letter from `a` on for how
many leading words it keeps, its own words, and a small letter from `q` on for how many trailing
words it keeps, if any. A plus sign stands for a name whose number goes up. -/
structure Block where
  first : Nat
  lines : List String

def isWordChar (c : Char) : Bool := c.isUpper || c.isDigit || c = '-' || c = ' '

/-- How many trailing words the letter at the front of a line keeps; another letter keeps none. -/
def trailing (line : List Char) : Nat :=
  (line.head?.filter ('q' ≤ ·)).elim 0 fun c => c.toNat - 'p'.toNat

/-- The steps that a line tells. -/
def steps : List Char → List Step
  | [] => []
  | c :: rest =>
    if c = '+' then .count :: steps rest
    else
      let middle := rest.takeWhile isWordChar
      let words := if middle.isEmpty then [] else (String.ofList middle).splitOn " "
      let kept := trailing (rest.drop middle.length)
      .change (c.toNat - 'a'.toNat) words kept ::
        steps (rest.drop (middle.length + (if kept = 0 then 0 else 1)))
termination_by line => line.length

/-- A word with the number at its end increased; leading zeros keep their places. -/
def countUp (word : String) : String :=
  let cs := word.toList
  let digits := (cs.reverse.takeWhile Char.isDigit).reverse
  let number := digits.foldl (fun n d => 10 * n + (d.toNat - '0'.toNat)) 0 + 1
  let numerals := Nat.toDigits 10 number
  String.ofList (cs.take (cs.length - digits.length) ++
    List.replicate (digits.length - numerals.length) '0' ++ numerals)

/-- The name that a step leads to. -/
def Step.apply (words : List String) : Step → List String
  | count => words.dropLast ++ (words.getLast?.map countUp).toList
  | change leading middle trailing =>
    words.take leading ++ middle ++ words.drop (words.length - trailing)

/-- The names that steps lead to, one after another. -/
def names (words : List String) : List Step → List (List String)
  | [] => []
  | step :: rest =>
    let next := step.apply words
    next :: names next rest

/-- The number of the character with a name, which is given by its words. -/
def Block.find? (block : Block) (name : List String) : Option Nat :=
  ((names [] (block.lines.flatMap fun line => steps line.toList)).idxOf? name).map
    (block.first + ·)

end RelaxCompact.CharacterName
