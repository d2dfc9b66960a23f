import Roster.Json.Value

/-!
# Reading JSON

A reader takes the front of a text and gives what it read and the rest, or the kind of fault
that it found first.

* `readText` and `readNumeral` read what follows a quote and a digit or sign.
* `stray` stands for a byte that is part of no character.
* `readValue` reads any data; `Value.ofText` reads a text that holds nothing else.
-/

namespace Roster.Json

/-- The kinds of faults. -/
inductive Fault
  /-- The text ends too early. -/
  | incomplete
  /-- The text does not go on as JSON. -/
  | malformed
  /-- The data is not what was asked for. -/
  | unsuitable
deriving DecidableEq

/-- What a reader gives: what it read, and the rest of the text. -/
abbrev Reading (α : Type) := Except Fault (α × List Char)

/-- White space between the parts of a text. -/
def isSpace (c : Char) : Bool := c == ' ' || c == '\n' || c == '\t' || c == '\r'

/-- The text without white space at its front. -/
def skipSpace (cs : List Char) : List Char := cs.dropWhile isSpace

/-- The fault of a text that should go on differently. -/
def faultAt : List Char → Fault
  | [] => .incomplete
  | _ => .malformed

/-! ### Texts -/

/-- Where a reader of texts stands. -/
inductive TextState
  /-- Between characters. -/
  | plain
  /-- Behind a backslash. -/
  | escaped
  /-- Inside a number of which `left + 1` digits are to come; `lead` is the first half of a
  pair, if this is the second. -/
  | digits (left value : Nat) (lead : Option Nat)
  /-- Behind the first half of a pair. -/
  | half (lead : Nat)
  /-- Behind the first half of a pair and a backslash. -/
  | halfEscaped (lead : Nat)

/-- The character that a letter stands for behind a backslash. -/
def escape? (c : Char) : Option Char :=
  match c with
  | '"' => some '"'
  | '\\' => some '\\'
  | '/' => some '/'
  | 'b' => some '\x08'
  | 'f' => some '\x0c'
  | 'n' => some '\n'
  | 'r' => some '\r'
  | 't' => some '\t'
  | _ => none

/-- Whether four digits follow; if not, whether the text is too short for them. -/
def checkDigits (cs : List Char) : Except Fault Unit :=
  let ds := cs.take 4
  if ds.length = 4 && ds.all fun c => (Text.Percent.digit? c).isSome then .ok ()
  else if (cs.take 4).foldl (fun n c => n + c.utf8Size) 0 < 4 then .error .incomplete
  else .error .malformed

/-- What a number behind a backslash means: a character, or the first half of a pair. With
`strict`, halves without a partner are refused; else they are passed over. -/
def meaning (strict : Bool) (lead : Option Nat) (n : Nat) :
    Except Fault (List Char × TextState) :=
  match lead with
  | some m =>
    if 0xDC00 ≤ n ∧ n ≤ 0xDFFF then
      .ok ([Char.ofNat ((m - 0xD800) * 0x400 + (n - 0xDC00) + 0x10000)], .plain)
    else .error .malformed
  | none =>
    if 0xD800 ≤ n ∧ n ≤ 0xDFFF then
      if !strict then .ok ([], .plain)
      else if n ≤ 0xDBFF then .ok ([], .half n)
      else .error .malformed
    else .ok ([Char.ofNat n], .plain)

/-- Reads a text up to its closing quote; `acc` is what came before, last character first. -/
def readTextFrom (strict : Bool) (acc : List Char) : TextState → List Char → Reading (List Char)
  | _, [] => .error .incomplete
  | .plain, c :: cs =>
    if c == '"' then .ok (acc.reverse, cs)
    else if c == '\\' then readTextFrom strict acc .escaped cs
    else if c.toNat < 0x20 then .error .malformed
    else readTextFrom strict (c :: acc) .plain cs
  | .escaped, c :: cs =>
    if c == 'u' then
      match checkDigits cs with
      | .ok () => readTextFrom strict acc (.digits 3 0 none) cs
      | .error f => .error f
    else match escape? c with
      | some d => readTextFrom strict (d :: acc) .plain cs
      | none => .error .malformed
  | .digits left value lead, c :: cs =>
    let value := value * 16 + (Text.Percent.digit? c).getD 0
    match left with
    | left + 1 => readTextFrom strict acc (.digits left value lead) cs
    | 0 =>
      match meaning strict lead value with
      | .ok (ds, state) => readTextFrom strict (ds ++ acc) state cs
      | .error f => .error f
  | .half lead, c :: cs =>
    if c == '\\' then readTextFrom strict acc (.halfEscaped lead) cs else .error .malformed
  | .halfEscaped lead, c :: cs =>
    if c == 'u' then
      match checkDigits cs with
      | .ok () => readTextFrom strict acc (.digits 3 0 (some lead)) cs
      | .error f => .error f
    else .error .malformed

/-- Reads a text behind its opening quote. -/
def readText (strict : Bool) (cs : List Char) : Reading (List Char) :=
  readTextFrom strict [] .plain cs

/-- What is read in place of a byte that belongs to no character: a character with half of a pair
behind it. A reader that looks into a text refuses it, and one that passes over the text does not;
anywhere else it is no JSON. -/
def stray : List Char := ['\uFFFD', '\\', 'u', 'd', 'c', '0', '0']

/-! ### Numbers and words -/

/-- At least one digit. -/
def readDigits (cs : List Char) : Reading (List Char) :=
  match cs.takeWhile Char.isDigit with
  | [] => .error (faultAt cs)
  | ds => .ok (ds, cs.dropWhile Char.isDigit)

/-- The digits in front of the point: a zero stands alone. -/
def readWhole (cs : List Char) : Reading (List Char) :=
  match cs with
  | '0' :: rest =>
    if (rest.head?.map Char.isDigit).getD false then .error .malformed else .ok (['0'], rest)
  | _ => readDigits cs

/-- The exponent of a number. -/
def readExponent (cs : List Char) : Reading (Bool × List Char) :=
  match cs with
  | '-' :: rest => (readDigits rest).map fun (ds, rest) => ((true, ds), rest)
  | '+' :: rest => (readDigits rest).map fun (ds, rest) => ((false, ds), rest)
  | _ => (readDigits cs).map fun (ds, rest) => ((false, ds), rest)

/-- Reads a number. -/
def readNumeral (cs : List Char) : Except Fault (Numeral × List Char) := do
  let (negative, cs) :=
    match cs with
    | '-' :: rest => (true, rest)
    | _ => (false, cs)
  let (whole, cs) ← readWhole cs
  let (fraction, cs) ←
    match cs with
    | '.' :: rest => readDigits rest
    | _ => pure ([], cs)
  match cs with
  | c :: rest =>
    if c == 'e' || c == 'E' then
      let (e, rest) ← readExponent rest
      return (⟨negative, whole, fraction, some e⟩, rest)
    else return (⟨negative, whole, fraction, none⟩, cs)
  | [] => return (⟨negative, whole, fraction, none⟩, cs)

/-- Takes a word off the front of a text. -/
def readWord : List Char → List Char → Except Fault (List Char)
  | [], cs => .ok cs
  | _ :: _, [] => .error .incomplete
  | w :: ws, c :: cs => if w == c then readWord ws cs else .error .malformed

/-! ### Data -/

/-- What stands in front of a colon: the name of a member. -/
def readName (strict : Bool) (cs : List Char) : Except Fault (List Char × List Char) := do
  match skipSpace cs with
  | '"' :: rest =>
    let (k, rest) ← readText strict rest
    match skipSpace rest with
    | ':' :: rest => return (k, rest)
    | rest => throw (faultAt rest)
  | rest => throw (faultAt rest)

/-- Reads data other than lists and tables, whose readers are given. -/
def readScalar (strict : Bool) (cs : List Char) : Reading Value :=
  match cs with
  | [] => .error .incomplete
  | c :: rest =>
    if c == '"' then (readText strict rest).map fun (t, rest) => (.text t, rest)
    else if c == 'n' then (readWord ['u', 'l', 'l'] rest).map (.null, ·)
    else if c == 't' then (readWord ['r', 'u', 'e'] rest).map (.bool true, ·)
    else if c == 'f' then (readWord ['a', 'l', 's', 'e'] rest).map (.bool false, ·)
    else if c == '-' || c.isDigit then (readNumeral cs).map fun (n, rest) => (.number n, rest)
    else .error .malformed

mutual

/-- Reads any data, at most `depth` lists and tables inside each other. -/
def readValue (strict : Bool) : Nat → Nat → List Char → Reading Value
  | 0, _, _ => .error .malformed
  | fuel + 1, depth, cs =>
    match skipSpace cs with
    | '[' :: rest =>
      match depth with
      | 0 => .error .malformed
      | depth + 1 =>
        match skipSpace rest with
        | ']' :: rest => .ok (.list [], rest)
        | rest => (readItems strict fuel depth rest).map fun (vs, rest) => (.list vs, rest)
    | '\x7b' :: rest =>
      match depth with
      | 0 => .error .malformed
      | depth + 1 =>
        match skipSpace rest with
        | '\x7d' :: rest => .ok (.table [], rest)
        | rest => (readMembers strict fuel depth rest).map fun (ms, rest) => (.table ms, rest)
    | rest => readScalar strict rest

/-- Reads items up to the closing bracket. -/
def readItems (strict : Bool) : Nat → Nat → List Char → Except Fault (List Value × List Char)
  | 0, _, _ => .error .malformed
  | fuel + 1, depth, cs => do
    let (v, rest) ← readValue strict fuel depth cs
    match skipSpace rest with
    | ',' :: rest =>
      let (vs, rest) ← readItems strict fuel depth rest
      return (v :: vs, rest)
    | ']' :: rest => return ([v], rest)
    | rest => throw (faultAt rest)

/-- Reads members up to the closing brace. -/
def readMembers (strict : Bool) :
    Nat → Nat → List Char → Except Fault (List (List Char × Value) × List Char)
  | 0, _, _ => .error .malformed
  | fuel + 1, depth, cs => do
    let (k, rest) ← readName strict cs
    let (v, rest) ← readValue strict fuel depth rest
    match skipSpace rest with
    | ',' :: rest =>
      let (ms, rest) ← readMembers strict fuel depth rest
      return ((k, v) :: ms, rest)
    | '\x7d' :: rest => return ([(k, v)], rest)
    | rest => throw (faultAt rest)

end

/-- Passes over any data, however deep, without looking into its texts. -/
def skipValue (cs : List Char) : Except Fault (List Char) :=
  (readValue false (2 * cs.length + 2) cs.length cs).map Prod.snd

/-- How many lists and tables may stand inside each other in a text that is read whole. -/
def depthLimit : Nat := 127

/-- The data of a text. -/
def Value.ofText (cs : List Char) : Except Fault Value := do
  let (v, rest) ← readValue true (2 * cs.length + 2) depthLimit cs
  if (skipSpace rest).isEmpty then return v else throw .malformed

end Roster.Json
