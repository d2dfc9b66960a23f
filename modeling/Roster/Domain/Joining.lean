import Roster.Domain.Composition

/-!
# Marks and joiners

`Joining.isMark` tells combining marks. The two invisible joiners may stand in a name only
where they change what is written: behind a virama, or, for the one that separates, between
two letters that would otherwise join. `Joining.joinersFit` checks this.
-/

namespace Roster.Domain.Joining

/-- The runs of characters, each with its length, marked `m` where they are combining marks. -/
def markLines : List String := [
  "300 70m 113 7m 107 2dm 1 1m 1 2m 1 2m 1 1m 48 bm 30 15m 10 1m 65 7m 2 6m 2 2m 1 4m 23 1m 1e",
  "1bm 5b bm 3a 9m 9 1m 18 4m 1 9m 1 3m 1 5m 2b 3m 3b 9m 2a 18m 1 21m 36 3m 1 12m 1 7m a 2m 1d",
  "3m 38 1m 1 7m 2 2m 2 3m 9 1m a 2m 1a 1m 2 3m 38 1m 1 5m 4 2m 2 3m 3 1m 1e 2m 3 1m b 3m 38",
  "1m 1 8m 1 3m 1 3m 14 2m 16 6m 1 3m 38 1m 1 7m 2 2m 2 3m 7 3m a 2m 1e 1m 3b 5m 3 3m 1 4m 9",
  "1m 28 5m 37 1m 1 7m 1 3m 1 4m 7 2m b 2m 1d 3m 38 1m 1 7m 1 3m 1 4m 7 2m b 2m f 1m c 4m 37",
  "2m 1 7m 1 3m 1 4m 9 1m a 2m 1d 3m 46 1m 4 6m 1 1m 1 8m 12 2m 3d 1m 2 7m c 8m 62 1m 2 9m b",
  "7m 49 2m 1b 1m 1 1m 1 1m 4 2m 31 14m 1 2m 5 bm 1 24m 9 1m 64 14m 17 4m 4 3m 1 3m 2 7m 3 4m",
  "d cm 1 1m a 4m 2bf 3m 3b2 4m 1c 3m 1d 2m 1e 2m 40 20m 9 1m 2d 3m 1 1m 75 2m 22 1m 76 cm 4",
  "cm db 5m 39 am 1 1dm 2 1m 30 2em 2 cm 14 5m 2f 11m 26 9m c 3m 1e dm 38 em 30 14m 98 3m 1",
  "15m 4 1m 6 1m 2 3m c6 40m 2d0 21m bfe 3m 8d 1m 60 20m 22a 6m 69 2m 75d4 4m 1 am 20 2m 50 2m",
  "110 1m 3 1m 4 1m 17 5m 4 1m 53 2m 32 12m 1a 12m d 1m 26 8m 19 dm 2c 4m 2f em 24 1m 43 em c",
  "1m 8 2m 2d 3m 32 1m 1 3m 2 2m 5 2m 1 1m 29 5m 5 2m ec 8m 1 2m 4f30 1m 2e1 10m 10 10m 3cd 1m",
  "e2 1m 95 5m 686 3m 1 2m 5 4m 28 3m 4 1m a5 2m 23d 4m 41 5m 13d 2m 4d 6m 46 bm 31 4m 7a 3m",
  "35 fm 29 1m 2 2m a 4m 2d bm 7 1m 3d 3m 24 em 10 2m 2c 1m c 3m 30 em 8 4m 1 2m 5c cm 6 1m 2",
  "1m 9d cm 15 4m 37 2m 1 7m 2 2m 2 3m 9 1m a 2m 2 7m 3 5m 43 9m 1 1m 2 1m 1 4m 1 5m 1 1m e 2m",
  "52 12m 17 1m 51 14m eb 7m 2 9m 1b 2m 52 11m 6a dm 65 fm 100 fm f5 6m 1 2m 2 4m 1 1m 1 2m 8d",
  "7m 2 7m 3 1m 1c am 28 7m 1 4m 8 1m 9 bm 2e 10m c6 8m c7 8m 1 8m 52 16m 1 em 7a 6m 3 1m 1 2m",
  "1 7m 1 1m 42 5m 1 2m 1 5m 15b 4m 9 2m 1 1m 30 7m 3 5m 17 1m 14e5 1m 6 fm 2cc8 12m 9c0 5m 3b",
  "7m 418 1m 1 37m 7 4m 51 1m b 2m 4cab 2m 1261 2em 2 17m 21e 5m 3 6m 8 8m 2 7m 1e 4m 94 3m",
  "7bb 37m 4 32m 8 1m e 1m 16 5m 1 fm 550 7m 1 11m 2 7m 1 2m 1 5m 64 1m a0 7m 177 1m 3d 4m 1fc",
  "4m fe 2m f3 1m 2 1m 7 2m 5 1m 1da 7m 6d 7m c17b5 f0m"]

/-- The runs of combining marks and of other characters. -/
def marks : Text.Runs Bool := Text.Runs.marked markLines

/-- Whether a character is a combining mark. -/
def isMark (c : Char) : Bool := (marks.value? c.toNat).getD false

/-- The runs of characters, each with its length and how they join their neighbours. -/
def joiningLines : List String := [
  "ad 1:t 252 70:t 113 7:t 107 2d:t 1 1:t 1 2:t 1 2:t 1 1:t 48 b:t 1 1:t 3 1:d 1 4:r 1:d 1:r",
  "1:d 1:r 5:d 4:r d:d 1 7:d 1:r 2:d 15:t e 2:d 1:t 3:r 1 3:r 10:d 12:r 26:d 1:r 2:d 9:r 1:d",
  "1:r 1:d 1:r 2:d 2:r 1 1:r 7:t 2 6:t 2 2:t 1 4:t 2:r a 3:d 2 1:d f 1:t 1:r 1:t 3:d 5:r 4:d",
  "1:r 9:d 1:r 1:d 1:r 1:d 1:r 2:d 1:r 1b:t 2 1:r b:d 3:r f:d 2:r 4:d 1:r 1:d 2:r 3:d 2:r 6:d",
  "26 b:t 19 21:d 9:t 9 1:t 18 4:t 1 9:t 1 3:t 1 5:t 12 1:r 5:d 2:r 1:d 1:r a:d 1:r 1:d 3:r",
  "3:t 4 1:d 1 4:d 1 1:r 1:d 2:r 5 13:r 3 1:d 2 5:d 1:r 1:d 7 9:t a:d 3:r 1 1:r 2:d 2:r 6:d",
  "1:r f:d 1 18:t 1 20:t 37 1:t 1 1:t 4 8:t 4 1:t 3 7:t a 2:t 1d 1:t 3a 1:t 4 4:t 8 1:t 14 2:t",
  "1a 1:t 2 2:t 39 1:t 4 2:t 4 2:t 2 3:t 3 1:t 1e 2:t 3 1:t b 2:t 39 1:t 4 5:t 1 2:t 4 1:t 14",
  "2:t 16 6:t 1 1:t 3a 1:t 2 1:t 1 4:t 8 1:t 7 2:t b 2:t 1e 1:t 3d 1:t c 1:t 32 1:t 3 1:t 37",
  "1:t 1 3:t 5 3:t 1 4:t 7 2:t b 2:t 1d 1:t 3a 1:t 2 1:t 6 1:t 5 2:t 14 2:t 1c 2:t 39 2:t 4",
  "4:t 8 1:t 14 2:t 1d 1:t 48 1:t 7 3:t 1 1:t 5a 1:t 2 7:t c 8:t 62 1:t 2 9:t b 7:t 49 2:t 1b",
  "1:t 1 1:t 1 1:t 37 e:t 1 5:t 1 2:t 5 b:t 1 24:t 9 1:t 66 4:t 1 6:t 1 2:t 2 2:t 19 2:t 4 3:t",
  "10 4:t d 1:t 2 2:t 6 1:t f 1:t 2bf 3:t 3b2 3:t 1d 2:t 1e 2:t 1e 2:t 40 2:t 1 7:t 8 1:t 2",
  "b:t 9 1:t 29 1:d 3 3:t 1 1:t 10 59:d c 2:t 22:d 1:t 1:d 75 3:t 4 2:t 9 1:t 6 3:t db 2:t 2",
  "1:t 3a 1:t 1 7:t 1 1:t 1 1:t 2 8:t 6 a:t 2 1:t 30 2e:t 2 c:t 14 4:t 30 1:t 1 5:t 1 1:t 5",
  "1:t 28 9:t c 2:t 20 4:t 2 2:t 1 3:t 38 1:t 1 2:t 3 1:t 1 3:t 3a 8:t 2 2:t 98 3:t 1 d:t 1",
  "7:t 4 1:t 6 1:t 3 2:t c6 40:t 20b 1:t 2 2:t 1a 5:t 31 5:t 5 6:t 60 21:t bfe 3:t 8d 1:t 60",
  "20:t 22a 4:t 6b 2:t 75d4 4:t 1 a:t 20 2:t 50 2:t 110 1:t 3 1:t 4 1:t 19 2:t 5 1:t 13 32:d",
  "1:l 51 2:t 1a 12:t d 1:t 26 8:t 19 b:t 2e 3:t 30 1:t 2 4:t 2 2:t 27 1:t 43 6:t 2 2:t 2 2:t",
  "c 1:t 8 1:t 2f 1:t 33 1:t 1 3:t 2 2:t 5 2:t 1 1:t 2a 2:t 8 1:t ee 1:t 2 1:t 4 1:t 4f30 1:t",
  "2e1 10:t 10 10:t cf 1:t f9 3:t 201 1:t e2 1:t 95 5:t 686 3:t 1 2:t 5 4:t 28 3:t 4 1:t 80",
  "5:d 1:r 1 1:r 1 2:r 2 1:l 5:r 4:d 1:l 5:d 1:r 3:d 1:r 2 1:r 2:t 4 4:d 1:r 90 1:d 1:r 1:d",
  "3:r 3:d 1:r 2:d 1:r 1:d 2:r 1:d 1:r 17 4:r 2:d 151 1:l 21:d 1:r 1:d 4:t 41 5:t 13d 2:t 15",
  "1:r 2:d 1 2:d 32 6:t 30 3:d 1:r 11:d 1 b:t 3:d 1:r 1b 4:d 2:r c:d 4:t 2a 1:d 1 2:d 3:r 1",
  "1:d 2:r 2:d 1:r 2:d 1 1:d 2:r 1:d 4 1:r 1:d 1:l 35 1:t 36 f:t 29 1:t 2 2:t a 3:t 31 4:t 2",
  "2:t 7 1:t 3d 3:t 24 5:t 1 8:t 3e 1:t c 2:t 34 9:t a 4:t 2 1:t 5f 3:t 2 1:t 1 2:t 6 1:t 2",
  "1:t 9d 1:t 3 8:t 15 2:t 39 2:t 3 1:t 25 7:t 3 5:t 46 6:t d 1:t 1 1:t 1 1:t e 2:t 55 8:t 2",
  "3:t 1 1:t 17 1:t 54 6:t 1 1:t 4 2:t 1 2:t ee 4:t 6 2:t 1 2:t 1b 2:t 55 8:t 2 1:t 1 2:t 6a",
  "1:t 1 1:t 2 6:t 1 1:t 65 1:t 1 1:t 2 4:t 1 5:t 103 9:t 1 2:t 100 2:t 1 1:t 4 1:t 90 4:t 2",
  "2:t 4 1:t 20 a:t 28 6:t 2 4:t 8 1:t 9 6:t 2 3:t 2e d:t 1 2:t c6 1:t 1 3:t 1 1:t c9 7:t 1",
  "6:t 1 1:t 52 16:t 2 7:t 1 2:t 1 2:t 7a 6:t 3 1:t 1 2:t 1 7:t 1 1:t 48 2:t 3 1:t 1 1:t 15b",
  "2:t b 2:t 34 5:t 5 1:t 1 1:t 17 1:t 14d5 11:t 6 f:t 2cc8 c:t 3 3:t 9c0 5:t 3b 7:t 418 1:t",
  "3f 4:t 51 1:t 4cb8 2:t 1 4:t 125c 2e:t 2 17:t 220 3:t 9 10:t 2 7:t 1e 4:t 94 3:t 7bb 37:t 4",
  "32:t 8 1:t e 1:t 16 5:t 1 f:t 550 7:t 1 11:t 2 7:t 1 2:t 1 5:t 64 1:t a0 7:t 177 1:t 3d 4:t",
  "1fc 4:t fe 2:t f3 1:t 2 1:t 7 2:t 5 1:t 1da 7:t 29 44:d 8:t c16b5 1:t 1e 60:t 80 f0:t"]

/-- How a character joins its neighbours in a cursive script. -/
inductive Class
  /-- It joins the character behind it. -/
  | left
  /-- It joins the character in front of it. -/
  | right
  /-- It joins both. -/
  | dual
  /-- Its neighbours join across it. -/
  | transparent
  /-- It joins nothing. -/
  | none
deriving DecidableEq

/-- Reads the text form of a kind of joining. -/
def Class.read : List Char → Class
  | [':', 'l'] => .left
  | [':', 'r'] => .right
  | [':', 'd'] => .dual
  | [':', 't'] => .transparent
  | _ => .none

/-- How the characters join, run by run. -/
def joinings : Text.Runs Class := Text.Runs.ofLines Class.read 0 joiningLines

/-- How a character joins. -/
def joining (c : Char) : Class := (joinings.value? c.toNat).getD .none

/-- Whether the characters in front, the nearest first, join what follows. -/
def joinsOn : List Char → Bool
  | [] => false
  | c :: cs =>
    match joining c with
    | .left | .dual => true
    | .transparent => joinsOn cs
    | _ => false

/-- Whether the characters behind join what stands in front of them. -/
def joinsBack : List Char → Bool
  | [] => false
  | c :: cs =>
    match joining c with
    | .right | .dual => true
    | .transparent => joinsBack cs
    | _ => false

/-- Whether the joiners of a label fit, `front` being what precedes, the nearest first. -/
def joinersFit (front : List Char) : List Char → Bool
  | [] => true
  | c :: cs =>
    let behindVirama := (front.head?.map Composition.combiningClass) == some 9
    let fits :=
      if c.toNat == 0x200C then behindVirama || (joinsOn front && joinsBack cs)
      else if c.toNat == 0x200D then behindVirama
      else true
    fits && joinersFit (c :: front) cs

end Roster.Domain.Joining
