import ReportQuery.Text.CaseTable
import ReportQuery.Text.Characters

/-!
# Lower case of Unicode text

Every letter is replaced by its lower-case form. Two letters depend on more
than themselves: a capital I with a dot becomes two characters, and a capital
sigma takes its final form after a cased letter that no cased letter follows.
-/

namespace ReportQuery.Text

/-- Whether a run holds a code point. -/
def CaseRun.holds (run : CaseRun) (n : Nat) : Bool :=
  run.first ≤ n && n ≤ run.last && (n - run.first) % run.stride == 0

/-- The lower-case form of a letter alone. -/
def lowerChar (c : Char) : Char :=
  match lowerRuns.find? fun run => run.holds c.toNat with
  | some run => Char.ofNat ((c.toNat : Int) + run.offset).toNat
  | none => c

/-- Whether a cased character comes first once those that do not count are
passed over. -/
def meetsCased (cs : List Char) : Bool :=
  match cs.dropWhile (inRanges caseIgnorableRanges) with
  | c :: _ => inRanges casedRanges c
  | [] => false

/-- The lower-case form of a character between those before it, nearest first,
and those after. -/
def lowerBetween (before : List Char) (c : Char) (after : List Char) :
    List Char :=
  if c = '\u0130' then ['i', '\u0307']
  else if c = '\u03A3' then
    if meetsCased before && !meetsCased after then ['\u03C2'] else ['\u03C3']
  else if c.toNat < 0x80 then [c.toLower]
  else [lowerChar c]

/-- The lower-case forms of characters that come after others, nearest first. -/
def lowerAfter (before : List Char) : List Char → List Char
  | [] => []
  | c :: cs => lowerBetween before c cs ++ lowerAfter (c :: before) cs

/-- The text in lower case. -/
def lowercase (s : String) : String :=
  String.ofList (lowerAfter [] s.toList)

end ReportQuery.Text
