import PolicyHost.Text.CellWidth
import PolicyHost.Text.Characters

namespace PolicyHost
namespace Paragraph

/-!
# Lines of text on a terminal

Text is laid out in lines of a bounded width.  A line that is too long is
broken between words.  A word that is longer than a line is folded over
several lines, or cut off with an ellipsis.
-/

/-- What to do with a word that is longer than a line. -/
inductive Overflow where
  | fold
  | ellipsis
deriving DecidableEq, Repr

/-- The cells some characters take. -/
def width (chars : List Char) : Nat :=
  chars.foldl (fun cells c => cells + CellWidth.ofChar c) 0

/-- The parts of a text between separators, the part that is being read given
in reverse. -/
def splitFrom (separator : Char) : List Char → List Char → List (List Char)
  | part, [] => [part.reverse]
  | part, c :: rest =>
    if c = separator then part.reverse :: splitFrom separator [] rest
    else splitFrom separator (c :: part) rest

/-- The parts of a text between separators. -/
def split (separator : Char) (chars : List Char) : List (List Char) :=
  splitFrom separator [] chars

/-- How far apart tabulator stops are. -/
def tabSize : Nat := 8

/-- Replace tabulators by spaces up to the next stop, from a position on. -/
def expandFrom (position : Nat) : List (List Char) → List Char
  | [] => []
  | [last] => last
  | part :: rest =>
    let stop := position + width part + 1
    let stop := (stop + tabSize - 1) / tabSize * tabSize
    part ++ List.replicate (stop - position - width part) ' ' ++ expandFrom stop rest

/-- Replace tabulators by spaces. -/
def expandTabs (line : List Char) : List Char :=
  expandFrom 0 (split '\t' line)

inductive Place where
  | before
  | inside
  | after
deriving DecidableEq

/-- Cut a text into words with the blanks around them: the blanks between two
words belong to the first.  Blanks alone are no word. -/
def wordsFrom : Place → List Char → List Char → List (List Char)
  | .before, _, [] => []
  | _, word, [] => [word.reverse]
  | place, word, c :: rest =>
    let blank := Characters.isBlank c
    match place with
    | .before => wordsFrom (if blank then .before else .inside) (c :: word) rest
    | .inside => wordsFrom (if blank then .after else .inside) (c :: word) rest
    | .after =>
      if blank then wordsFrom .after (c :: word) rest
      else word.reverse :: wordsFrom .inside [c] rest

def words (line : List Char) : List (List Char) := wordsFrom .before [] line

/-- Text without blanks at its end. -/
def trimEnd (chars : List Char) : List Char :=
  (chars.reverse.dropWhile Characters.isBlank).reverse

/-- Fold a word into pieces of a width, given the piece that is being filled
in reverse and the cells it takes. -/
def foldFrom (limit : Nat) : List Char → Nat → List Char → List (List Char)
  | piece, _, [] => [piece.reverse]
  | piece, taken, c :: rest =>
    let cells := CellWidth.ofChar c
    if limit < taken + cells then piece.reverse :: foldFrom limit [c] cells rest
    else foldFrom limit (c :: piece) (taken + cells) rest

/-- Break words into lines, given the lines so far in reverse and the cells
that count as taken on the last one. -/
def fill (limit : Nat) (overflow : Overflow) : List (List Char) → Nat → List (List Char) →
    List (List Char)
  | lines, _, [] => lines.reverse
  | lines, taken, word :: rest =>
    let length := width (trimEnd word)
    if taken + length ≤ limit then
      match lines with
      | [] => fill limit overflow [word] (taken + width word) rest
      | line :: lines => fill limit overflow ((line ++ word) :: lines) (taken + width word) rest
    else if limit < length then
      match overflow with
      | .fold =>
        let pieces := foldFrom limit [] 0 word
        fill limit overflow (pieces.reverse ++ lines) (width ((pieces.getLast?).getD [])) rest
      | .ellipsis => fill limit overflow (word :: lines) (width word) rest
    else fill limit overflow (word :: lines) (width word) rest

/-- Remove blanks at the end of a line as far as it is too long. -/
def trimExcess (limit : Nat) (line : List Char) : List Char :=
  let blanks := line.length - (trimEnd line).length
  line.take (line.length - min blanks (line.length - limit))

/-- As many characters as fit into a width, filled up with spaces. -/
def fit (limit : Nat) : List Char → List Char
  | [] => List.replicate limit ' '
  | c :: rest =>
    let cells := CellWidth.ofChar c
    if limit < cells then List.replicate limit ' '
    else if limit = 0 then []
    else c :: fit (limit - cells) rest

/-- Cut a line off that is still too long. -/
def truncate (limit : Nat) (overflow : Overflow) (line : List Char) : List Char :=
  if width line ≤ limit then line
  else match overflow with
    | .fold => fit limit line
    | .ellipsis => fit (limit - 1) line ++ ['…']

def lines (limit : Nat) (overflow : Overflow) (text : List Char) : List (List Char) :=
  (split '\n' text).flatMap fun line =>
    let line := expandTabs line
    let broken := match fill limit overflow [] 0 (words line) with
      | [] => [line]
      | broken => broken
    broken.map fun part => truncate limit overflow (trimExcess limit part)

/-- Fill a line up with spaces at its end. -/
def padRight (limit : Nat) (line : List Char) : List Char :=
  line ++ List.replicate (limit - width line) ' '

/-- Fill a line up with spaces at its beginning. -/
def padLeft (limit : Nat) (line : List Char) : List Char :=
  let line := trimEnd line
  List.replicate (limit - width line) ' ' ++ line

/-- The width a text takes without breaking lines. -/
def naturalWidth (text : List Char) : Nat :=
  ((split '\n' text).map width).foldl max 0

end Paragraph
end PolicyHost
