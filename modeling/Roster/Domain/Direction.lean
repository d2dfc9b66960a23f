import Roster.Text.Runs

/-!
# Direction of writing

A name with a character of a script written from right to left is shown safely only if every
label keeps to one direction. The conditions are those of RFC 5893.

* `Direction.isMixed` says whether a name has such a character.
* `Direction.fits` is the condition on one label.
-/

namespace Roster.Domain.Direction

/-- The runs of characters, each with its length and its direction class. -/
def directionLines : List String := [
  "9:b 5:x e:b 5:x 2:o 3:t 5:o 1:s 1:c 1:s 2:c a:e 1:c 6:o 1a 6:o 1a 4:o 22:b 1:o 4:t a:o 6:t",
  "29:o 18 1:o 1c1 2:o 7 e:o 2 1c:o 1 11:o 71:m 4 2:o 7f 2:o 8b 8:m ff 5:o 2:t 2d:m 1:r 1:m",
  "1:r 2:m 1:r 2:m 1:r 9:m 36:r 2:o 1:a 2:t 1:a 1:c 1:a 2:o b:m 30:a 15:m a:n 1:t 2:n 3:a 1:m",
  "65:a 8:m 1:o 6:m 2:a 2:m 1:o 4:m 2:a a:e 17:a 1:m 1e:a 1d:m 59:a b:m f:a 2b:r 9:m 2:r 4:o",
  "3:r 1:m 18:r 4:m 1:r 9:m 1:r 3:m 1:r 7:m 29:r 5:m 2:r 38:a 8:m 2a:a 39:m 37 1:m 1 1:m 4 8:m",
  "4 1:m 3 f:m 2 2:m 1d 1:m 3a 1:m 4 6:m 6 1:m 14 4:m c 2:t 7 1:t 2 5:m 39 2:m 3 1b:m 14 2:m 3",
  "1:m b 2:m 39 1:m 4 8:m 4 3:m 12 4:m b 8:t 1 8:m 3a 1:m 2 1:m 1 6:m 6 a:m b 4:m 1c 1:m 3d",
  "1:m c 3:m 23 6:o 1:t 6:o 1:m 3 1:m 37 1:m 1 3:m 5 12:m a 4:m 12 7:o 2 1:m 3a 1:m f 9:m d",
  "4:m 1a 2:m 39 2:m 4 5:m 7 1:m 14 4:m 1b 1:m 48 5:m 3 6:m 59 1:m 2 b:m 1:t 7 8:m 62 1:m 2",
  "9:m b 8:m 48 2:m 1b 1:m 1 1:m 1 1:m 4:o 33 e:m 1 5:m 1 2:m 5 31:m 8 1:m 66 4:m 1 6:m 1 2:m",
  "2 2:m 19 2:m 4 3:m 10 4:m d 1:m 2 2:m 6 1:m f 1:m 2bf 3:m 30 10:o 60 1:o 29a 5:o 72 3:m 1d",
  "2:m 1e e:m 12 e:m 37 7:m 8 1:m 2 b:m 7 1:t 1 3:m 10 20:o 75 2:m 22 1:m 76 3:m 4 2:m 9 1:m 6",
  "7:m 6:o 98 22:o 17 2:m 2 3:m 38 1:m 1 9:m 1 1:m 2 8:m 6 d:m 30 1f:m 31 4:m 30 1:m 1 5:m 1",
  "1:m 5 1:m 28 9:m c 2:m 20 4:m 2 2:m 1 3:m 38 1:m 1 2:m 3 1:m 1 3:m 3a 8:m 2 5:m 95 3:m 1",
  "d:m 1 7:m 4 1:m 6 1:m 3 2:m c6 41:m 20b 4:b 20:o 5:t f:o 1:c 5b:o 30:t 34:m 2a:o c:t 14:o",
  "3c 88:o 1:s 1:t 122:o 45 1a:o 1 91:o 19 26c:o 1 153:o 100 296:o 1 99:o b5 7:o 3 4:m 6 7:o",
  "7f 1:m 60 20:m 205:o 3 19:o 9 4:m 2 1:o 6 4:o 2 4:o 58 4:m 3 1:o 5a 1:o c4 24:o 1bdc 40:o",
  "5690 40:o 13d 3:o 5f 4:m 1:o a:m 3:o 1d 2:m 50 2:m e 23:o 65 1:o 79 1:m 3 1:m 4 1:m 19 2:m",
  "1 4:o 4:m 8 8:t 34 c:o 44 a:m 12 12:m d 1:m 26 8:m 19 b:m 2e 3:m 30 1:m 2 4:m 2 2:m 27 1:m",
  "43 6:m 2 2:m 2 b:m 3 1:m 8 1:m 2f 1:m 33 1:m 1 3:m 2 2:m 5 2:m 1 1:m 2a 2:m 8 b:m 69 56:o",
  "25 1:m 2 1:m 4 3:m 4f2e 94:m 18c:a 52:o 3f:a 51:o 25:m 2e:o 18d:a 101 1:o 3e 4d:o 3 40:o 2d",
  "83:m 60 1:m 1f:e 76 a:m 480 11f:r 1:o e1:r f:m 28:r 8:m a5:r 6:m 4e:r 7:o 1c0:r 24:a c:m",
  "10:n 120:r 20:n 2b:r 2:m 15:r 3b:a 3:m 30:r 16:a b:m 1f:a 12:r 4:m 7a:r 1 1:m 36 f:m b 14:o",
  "a 1:m 2 2:m a 3:m 31 4:m 2 2:m 7 e:m 30 3:m 24 5:m 1 9:m 3d 1:m c 2:m 34 9:m a 4:m 2 1:m 5f",
  "3:m 2 1:m 1 2:m 6 1:m 2 3f:m 5f 1:m 3 d:m 10 2:m 39 2:m 3 1:m 25 1a:m b8 8:m 2 3:m 1 1:m 17",
  "1:m 54 6:m 1 1:m 4 2:m 1 2:m ee 6:m 4 2:m 1 2:m 1b 24:m 33 8:m 2 1:m 1 2:m 1f 20:o 2b 1:m 1",
  "1:m 2 6:m 1 1:m 65 3:m 2 4:m 1 9:m ff 9:m 1 2:m 100 2:m 1 1:m 4 1:m 90 8:m 4 1:m 20 6:m 2",
  "2:m 28 6:m 2 4:m 8 9:m 1 6:m 2 3:m 2e d:m 1 2:m 196 e:m 54 17:m 1 7:m 1 2:m 1 4b:m 31 15:m",
  "1 9:m 40 3:m 2 1:m 1 1:m 15b 2:m b 2:m 34 8:m 2 1:m 1 1:m 92 8:o 4:t 1e:o 1441 1:m 6 19:m",
  "3690 5:m 3b 7:m 418 1:m 3f 4:m 4f 1:o 1 c:m 4cad 2:m 1261 50:m 217 3:m 11 8:m 2 7:m 1e 4:m",
  "3b 59:o 3:m 7b:o 40 60:o 6a0 37:m 4 32:m 8 1:m e 1:m 16 465:m 100 100:m 30 7:m 177 12:m 2c",
  "4:m f 1d1:t 1c 4:m 310 d0:r 52:m 22:r 7:m 326:r 27f:a 260:o 1d 3:o 3d 39:o 7a 478:o 4 9b:o",
  "4 137:o 4e 154:o c 29:o 7 2e:o 1 7:o 8 e:o 4 9:o 7 db:o"]

/-- The direction class of a character. -/
inductive Class
  /-- Written from left to right. -/
  | left
  /-- Written from right to left. -/
  | right
  /-- An Arabic letter. -/
  | arabicLetter
  /-- An Arabic digit. -/
  | arabicNumber
  /-- A European digit. -/
  | number
  /-- A sign between European digits. -/
  | separator
  /-- A sign between any digits. -/
  | commonSeparator
  /-- A sign at the end of a number. -/
  | terminator
  /-- Without direction. -/
  | neutral
  /-- Without effect. -/
  | boundary
  /-- A mark, which goes with what it marks. -/
  | mark
  /-- Any other class. -/
  | other
deriving DecidableEq

/-- Reads the text form of a direction class. -/
def Class.read : List Char → Class
  | [] => .left
  | [':', 'r'] => .right
  | [':', 'a'] => .arabicLetter
  | [':', 'n'] => .arabicNumber
  | [':', 'e'] => .number
  | [':', 's'] => .separator
  | [':', 'c'] => .commonSeparator
  | [':', 't'] => .terminator
  | [':', 'o'] => .neutral
  | [':', 'b'] => .boundary
  | [':', 'm'] => .mark
  | _ => .other

/-- The direction classes, run by run. -/
def directions : Text.Runs Class := Text.Runs.ofLines Class.read 0 directionLines

/-- The direction class of a character. -/
def direction (c : Char) : Class := (directions.value? c.toNat).getD .left

/-- Whether a text has a character written from right to left. -/
def isMixed (cs : List Char) : Bool :=
  cs.any fun c => [Class.right, .arabicLetter, .arabicNumber].contains (direction c)

/-- The class of the last character that is not a mark. -/
def lastClass (ds : List Class) : Option Class := (ds.filter (· != .mark)).getLast?

/-- Whether a label keeps to one direction. -/
def fits (cs : List Char) : Bool :=
  let ds := cs.map direction
  match ds with
  | [] => true
  | .right :: _ | .arabicLetter :: _ =>
    ds.all (fun d => d != .left && d != .other) &&
      (match lastClass ds with
        | some .right | some .arabicLetter | some .number | some .arabicNumber => true
        | _ => false) &&
      !(ds.contains .number && ds.contains .arabicNumber)
  | .left :: _ =>
    ds.all (fun d =>
      !([Class.right, .arabicLetter, .arabicNumber, .other].contains d)) &&
      (match lastClass ds with
        | some .left | some .number => true
        | _ => false)
  | _ => false

end Roster.Domain.Direction
