import Roster.Text.Runs

/-!
# Letters with two cases

Letters that have an upper and a lower case, or are in one of the two, make up words. Marks,
apostrophes and points may stand in a word without being letters of it.

* `isCased` and `isCaseIgnorable` are the classes of the Unicode properties `Cased` and
  `Case_Ignorable`.
* `touchesWord` tells whether a text begins within a word.
-/

namespace Roster.Text

/-- The runs of characters, each with its length, marked `m` where they are in a case. -/
def casedLines : List String := [
  "41 1am 6 1am 2f 1m a 1m 4 1m 5 17m 1 1fm 1 c3m 1 4m 4 d0m 2 23m 7 2m 1e 5m 60 1m 2a 4m 2 2m",
  "2 4m 1 1m 6 1m 1 3m 1 1m 1 14m 1 53m 1 8bm 8 a6m 1 26m 9 29m b17 26m 1 1m 5 1m 2 2bm 1 4m",
  "2a0 56m 2 6m 882 bm 5 2bm 2 3m 40 c0m 40 116m 2 6m 2 26m 2 6m 2 8m 1 1m 1 1m 1 1m 1 1fm 2",
  "35m 1 7m 1 1m 3 3m 1 7m 3 4m 2 6m 4 dm 5 3m 1 7m 74 1m d 1m 10 dm 65 1m 4 1m 2 am 1 1m 3 5m",
  "6 1m 1 1m 1 1m 1 4m 1 6m 4 1m 2 4m 5 5m 4 1m 11 20m 3 2m 331 34m 716 e5m 6 4m 3 2m c 26m 1",
  "1m 5 1m 7912 2em 12 1em 84 66m 3 4m 1 4dm 14 6m 1 3m 335 2bm 1 em 6 50m 4f40 7m c 5m 409",
  "1am 6 1am 4a5 50m 60 24m 4 24m 74 bm 1 fm 1 7m 1 2m 1 bm 1 fm 1 7m 1 2m 1c3 1m 2 3m 1 2am 1",
  "9m 4c5 33m d 33m 5d 16m a 16m b1a 40m 5560 40m 20 19m 2 19m 652c 55m 1 47m 1 2m 2 1m 2 2m 2",
  "4m 1 cm 1 1m 1 7m 1 41m 1 4m 2 8m 1 7m 1 1cm 1 4m 1 5m 1 1m 3 7m 1 154m 2 19m 1 19m 1 1fm 1",
  "19m 1 1fm 1 19m 1 1fm 1 19m 1 1fm 1 19m 1 8m 734 am 1 14m 6 6m 105 3em 892 44m 7ec 1am 6",
  "1am 6 1am"]

/-- The runs of characters, each with its length, marked `m` where they may stand in a word. -/
def caseIgnorableLines : List String := [
  "27 1m 6 1m b 1m 23 1m 1 1m 47 1m 4 1m 1 1m 4 1m 2 2m 1f7 c0m 4 2m 4 1m 9 2m 1 1m fb 7m cf",
  "1m 5 1m 31 2dm 1 1m 1 2m 1 2m 1 1m 2c 1m b 6m a bm 1 1m 23 1m a 15m 10 1m 65 8m 1 am 1 4m",
  "21 1m 1 1m 1e 1bm 5b bm 3a bm 4 1m 2 1m 18 18m 2b 3m 2c 1m 7 2m 5 9m 29 3am 37 1m 1 1m 4 8m",
  "4 1m 3 7m a 2m d 1m f 1m 3a 1m 4 4m 8 1m 14 2m 1a 1m 2 2m 39 1m 4 2m 4 2m 2 3m 3 1m 1e 2m 3",
  "1m b 2m 39 1m 4 5m 1 2m 4 1m 14 2m 16 6m 1 1m 3a 1m 2 1m 1 4m 8 1m 7 2m b 2m 1e 1m 3d 1m c",
  "1m 32 1m 3 1m 37 1m 1 3m 5 3m 1 4m 7 2m b 2m 1d 1m 3a 1m 2 1m 6 1m 5 2m 14 2m 1c 2m 39 2m 4",
  "4m 8 1m 14 2m 1d 1m 48 1m 7 3m 1 1m 5a 1m 2 7m b 9m 62 1m 2 9m 9 1m 1 7m 49 2m 1b 1m 1 1m 1",
  "1m 37 em 1 5m 1 2m 5 bm 1 24m 9 1m 66 4m 1 6m 1 2m 2 2m 19 2m 4 3m 10 4m d 1m 2 2m 6 1m f",
  "1m 5e 1m 260 3m 3b2 3m 1d 2m 1e 2m 1e 2m 40 2m 1 7m 8 1m 2 bm 3 1m 5 1m 2d 5m 33 1m 41 2m",
  "22 1m 76 3m 4 2m 9 1m 6 3m db 2m 2 1m 3a 1m 1 7m 1 1m 1 1m 2 8m 6 am 2 1m 27 1m 8 2em 2 cm",
  "14 4m 30 1m 1 5m 1 1m 5 1m 28 9m c 2m 20 4m 2 2m 1 3m 38 1m 1 2m 3 1m 1 3m 3a 8m 2 2m 40 6m",
  "52 3m 1 dm 1 7m 4 1m 6 1m 3 2m 32 3fm d 1m 22 65m 1bd 1m 1 3m b 3m d 3m d 3m d 2m c 5m 8 2m",
  "a 1m 2 1m 2 5m 31 5m 1 am 1 1m d 1m 10 dm 33 21m b8b 2m 71 3m 7d 1m f 1m 60 20m 2f 1m 1d5",
  "1m 24 4m 3 5m 5 1m 5d 6m 5d 3m 6f16 1m 4e2 6m 10e 1m 62 4m 1 am 1 1m 1c 4m 50 2m e 22m 4e",
  "1m 17 3m 66 4m 3 2m 8 1m 3 1m 4 1m 19 2m 5 1m 97 2m 1a 12m d 1m 26 8m 19 bm 2e 3m 30 1m 2",
  "4m 2 2m 11 1m 15 2m 42 6m 2 2m 2 2m c 1m 8 1m 23 1m b 1m 33 1m 1 3m 2 2m 5 2m 1 1m 1b 1m e",
  "2m 5 2m 1 1m 64 5m 9 3m 79 1m 2 1m 4 1m 4f30 1m 93 11m 23d 10m 3 1m c 10m 22 1m 2 1m a9 1m",
  "7 1m 6 1m b 1m 23 1m 1 1m 2f 1m 2d 2m 43 1m 15 3m 201 1m e2 1m 95 5m 405 6m 1 2am 1 9m 246",
  "3m 1 2m 5 4m 28 3m 4 1m a5 2m 23d 4m 26 1m 1a 5m 1 1m 13b 2m 18 1m 34 6m 46 bm 31 4m 7b 1m",
  "36 fm 29 1m 2 2m a 3m 31 4m 2 2m 2 1m 4 1m a 1m 32 3m 24 5m 1 8m 3e 1m c 2m 34 9m a 4m 2 1m",
  "5f 3m 2 1m 1 2m 6 1m 2 1m 9d 1m 3 8m 15 2m 39 2m 3 1m 25 7m 3 5m 46 6m d 1m 1 1m 1 1m e 2m",
  "55 8m 2 3m 1 1m 17 1m 54 6m 1 1m 4 2m 1 2m ee 4m 6 2m 1 2m 1b 2m 55 8m 2 1m 1 2m 6a 1m 1 1m",
  "2 6m 1 1m 65 1m 1 1m 2 4m 1 5m 103 9m 1 2m 100 2m 1 1m 4 1m 90 4m 2 2m 4 1m 20 am 28 6m 2",
  "4m 8 1m 9 6m 2 3m 2e dm 1 2m c6 1m 1 3m 1 1m c9 7m 1 6m 1 1m 52 16m 2 7m 1 2m 1 2m 7a 6m 3",
  "1m 1 2m 1 7m 1 1m 48 2m 3 1m 1 1m 41 1m 119 2m b 2m 34 5m 5 1m 1 1m 17 1m 14d5 11m 6 fm",
  "2cc8 cm 3 3m 9c0 5m 3b 7m 9 4m 1fc 3m 28 2m 1e2 1m 3f 11m 40 2m 1 2m d 2m 3ffc 4m 1 7m 1 2m",
  "c9e 2m 1 4m 125c 2em 2 17m 220 3m 9 10m 2 7m 1e 4m 94 3m 7bb 37m 4 32m 8 1m e 1m 16 5m 1 fm",
  "550 7m 1 11m 2 7m 1 2m 1 5m 5 3em 21 1m a0 em 170 1m 3d 4m 1fb 5m fe 2m f3 1m 2 1m 7 2m 5",
  "1m 9 1m 1d0 7m 6d 8m aaf 5m c0c01 1m 1e 60m 80 f0m"]

/-- The runs of characters that are in a case and of other characters. -/
def casedRuns : Runs Bool := Runs.marked casedLines

/-- The runs of characters that may stand in a word and of other characters. -/
def caseIgnorableRuns : Runs Bool := Runs.marked caseIgnorableLines

/-- Whether a character is in upper, lower or title case. -/
def isCased (c : Char) : Bool := (casedRuns.value? c.toNat).getD false

/-- Whether a character may stand in a word without being a letter of it. -/
def isCaseIgnorable (c : Char) : Bool := (caseIgnorableRuns.value? c.toNat).getD false

/-- Whether a text begins within a word: its first character that does not just stand in words
is in a case. -/
def touchesWord (cs : List Char) : Bool :=
  match cs.dropWhile isCaseIgnorable with
  | [] => false
  | c :: _ => isCased c

end Roster.Text
