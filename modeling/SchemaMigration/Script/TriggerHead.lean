import SchemaMigration.Text.Blank
import SchemaMigration.Text.Character

/-!
# The head of a trigger definition

`isTriggerHead` : whether code begins with `CREATE TRIGGER`, `CREATE TEMP TRIGGER` or `CREATE TEMPORARY TRIGGER`, in any
case and with blanks before and between the words. The last word has to end there.
-/

namespace SchemaMigration.Script

set_option autoImplicit false

open Text (trimStart isBlank isWordChar sameIgnoringCase)

/-- What follows the keyword, if the code begins with it in any case. -/
def afterKeyword? (keyword : List Char) (code : List Char) : Option (List Char) :=
  if sameIgnoringCase (code.take keyword.length) keyword then some (code.drop keyword.length) else none

def afterBlanks? (code : List Char) : Option (List Char) :=
  match code with
  | c :: _ => if isBlank c then some (trimStart code) else none
  | [] => none

/-- Whether the code begins with the word `TRIGGER`, which ends there. -/
def isTriggerWord (code : List Char) : Bool :=
  match afterKeyword? "TRIGGER".toList code with
  | some (c :: _) => !isWordChar c
  | some [] => true
  | none => false

def isQualifiedTrigger (keyword : List Char) (code : List Char) : Bool :=
  match afterKeyword? keyword code >>= afterBlanks? with
  | some rest => isTriggerWord rest
  | none => false

def isTriggerHead (code : List Char) : Bool :=
  match afterKeyword? "CREATE".toList (trimStart code) >>= afterBlanks? with
  | some rest =>
    isTriggerWord rest || isQualifiedTrigger "TEMP".toList rest || isQualifiedTrigger "TEMPORARY".toList rest
  | none => false

end SchemaMigration.Script
