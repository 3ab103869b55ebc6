import Persistence.Text.CaseTable
import Persistence.Text.Ranges

/-!
# Lower case

The full lower-case form of a text. Two letters need more than the table: the dotted
capital I becomes two characters, and a capital sigma at the end of a word takes its
final form.
-/

set_option autoImplicit false

namespace Persistence.Text

def isCased (character : Char) : Bool := inRanges casedRanges character.toNat

def isCaseIgnorable (character : Char) : Bool := inRanges caseIgnorableRanges character.toNat

/-- The simple lower-case form, the character itself if it has none. -/
def lowercaseChar (character : Char) : Char :=
  let code := character.toNat
  match lowercaseRuns.find? fun (first, last, step, _) =>
      first ≤ code && code ≤ last && (code - first) % step == 0 with
  | none => character
  | some (_, _, _, offset) => Char.ofNat ((code : Int) + offset).toNat

/-- Whether a cased character comes next once the case-ignorable ones are skipped. -/
def meetsCased (characters : List Char) : Bool :=
  match characters.dropWhile isCaseIgnorable with
  | [] => false
  | next :: _ => isCased next

/-- Lower-case form of the rest of a text, given what precedes it, nearest first. -/
def lowercaseFrom : List Char → List Char → List Char
  | _, [] => []
  | before, character :: rest =>
      let written :=
        if character.toNat < 0x80 then [character.toLower]
        else if character == 'Σ' then
          if meetsCased before && !meetsCased rest then ['ς'] else ['σ']
        else if character == 'İ' then ['i', '\u0307']
        else [lowercaseChar character]
      written ++ lowercaseFrom (character :: before) rest

def lowercase (text : String) : String :=
  String.ofList (lowercaseFrom [] text.toList)

def equalsIgnoringAsciiCase (left right : String) : Bool :=
  left.toList.map Char.toLower == right.toList.map Char.toLower

end Persistence.Text
