import SchemaMigration.Proofs.Script.Pieces

/-!
# Pieces read as statements

`openBlocks`     : how many blocks wait for their `END` after the pieces of a fragment.
`cutFragments`   : the fragments that end at a semicolon outside blocks, and the pieces after the last of them.
`readStatements` : the statements of a script, or why it has none.

A fragment is kept with its newest piece first: whether a block is open depends on the last word, and what the word
means on all that stands before it.
-/

namespace SchemaMigration.Script

set_option autoImplicit false

open Text (isAlphanumeric sameIgnoringCase isBlank trim)

/-! ## Words -/

def isWordPart (c : Char) : Bool := isAlphanumeric c || c == '_'

/-- Whether the piece is part of a word. A region never is, so that it ends the word before it. -/
def Piece.inWord : Piece → Bool
  | code c => isWordPart c
  | _ => false

/-- The piece as it counts for the head of a trigger: a comment is a blank. -/
def Piece.inHead : Piece → List Char
  | lineComment _ | blockComment _ => [' ']
  | p => p.text

def textOf (fragment : List Piece) : List Char := fragment.reverse.flatMap Piece.text

/-- The characters of a fragment with every comment as a blank. -/
def headOf (fragment : List Piece) : List Char := fragment.reverse.flatMap Piece.inHead

def lastWord (fragment : List Piece) : List Char := textOf (fragment.takeWhile Piece.inWord)

def beforeLastWord (fragment : List Piece) : List Piece := fragment.dropWhile Piece.inWord

/-! ## Blocks -/

/-- How a word changes the number of open blocks; `head` is the fragment up to the word and with it. -/
def blocksAfter (word head : List Char) (blocks : Nat) : Nat :=
  if sameIgnoringCase word "CASE".toList then blocks + 1
  else if sameIgnoringCase word "BEGIN".toList then if isTriggerHead head then blocks + 1 else blocks
  else if sameIgnoringCase word "END".toList then blocks - 1
  else blocks

/-- How many blocks are open after a fragment. -/
def openBlocks (fragment : List Piece) : Nat :=
  match fragment with
  | [] => 0
  | p :: before =>
    if p.inWord then blocksAfter (lastWord (p :: before)) (headOf (p :: before)) (openBlocks (beforeLastWord before))
    else openBlocks before
termination_by fragment.length
decreasing_by
  all_goals simp only [beforeLastWord, List.length_cons]
  · exact Nat.lt_succ_of_le (List.dropWhile_suffix _).length_le
  · exact Nat.lt_succ_self _

theorem openBlocks_nil : openBlocks [] = 0 := by
  rw [openBlocks]

theorem openBlocks_cons_of_not_inWord {p : Piece} (h : p.inWord = false) (before : List Piece) :
    openBlocks (p :: before) = openBlocks before := by
  rw [openBlocks, h, if_neg Bool.false_ne_true]

theorem openBlocks_cons_of_inWord {p : Piece} (h : p.inWord = true) (before : List Piece) :
    openBlocks (p :: before) =
      blocksAfter (lastWord (p :: before)) (headOf (p :: before)) (openBlocks (beforeLastWord before)) := by
  rw [openBlocks, if_pos h]

/-! ## Fragments -/

/-- Whether a piece ends the fragment before it: a semicolon does, outside blocks. -/
def endsFragment (before : List Piece) (p : Piece) : Bool := p == .code ';' && openBlocks before == 0

/-- The fragments that are ended among the pieces, and the pieces after the last of them. `before` is the fragment under
way. -/
def cutFragments (before : List Piece) : List Piece → List (List Piece) × List Piece
  | [] => ([], before)
  | p :: ps =>
    if endsFragment before p then (before :: (cutFragments [] ps).1, (cutFragments [] ps).2)
    else cutFragments (p :: before) ps

/-- Whether the piece is more than blanks and comments. -/
def Piece.isSolid : Piece → Bool
  | code c => !isBlank c
  | quoted .. => true
  | lineComment _ | blockComment _ => false

/-- The statement that a fragment is, unless it holds nothing but blanks and comments. -/
def statementOf? (fragment : List Piece) : Option (List Char) :=
  if fragment.any Piece.isSolid then some (trim (textOf fragment)) else none

/-- The statements among the pieces. The last fragment needs no semicolon, but its blocks have to be closed. -/
def statementsOf (before : List Piece) (ps : List Piece) : Except String (List (List Char)) :=
  let (ended, last) := cutFragments before ps
  if 0 < openBlocks last then .error "BEGIN or CASE block is missing its END"
  else .ok ((ended ++ [last]).filterMap statementOf?)

/-- The statements of a script, or why it has none. -/
def readStatements (s : List Char) : Except String (List (List Char)) := pieces s >>= statementsOf []

end SchemaMigration.Script
