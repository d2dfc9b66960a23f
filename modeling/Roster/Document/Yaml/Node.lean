import Roster.Document.Yaml.Scalar
import Roster.Document.Yaml.Text

/-!
# Nodes in YAML

A node is a scalar, a list or a table. Lists and tables are written with brackets, or with one
line for each entry; entries of one list or table start in one column, and what belongs to an
entry starts behind it.

* `Yaml.document?` is the data of a text. A text without any node is an empty table.
-/

namespace Roster.Document.Yaml

/-! ### Names, tags and aliases -/

/-- What stands in front of a node: the name that it gets, and a tag. -/
structure Properties where
  anchor : Option String := none
  tag : Option String := none

/-- Whether a character can stand in a name. -/
def isNameChar (c : Char) : Bool := !(isSpace c || c == '\n' || isFlowMark c)

/-- Reads a name behind the sign in front of it. -/
def readName : Reader String := do
  dropChars 1
  let name ← takeChars isNameChar
  require (!name.isEmpty)
  return String.ofList name

/-- Reads what stands in front of a node. -/
def readProperties : Nat → Properties → Reader Properties
  | 0, props => pure props
  | fuel + 1, props => do
    match ← peek with
    | some '&' =>
      require props.anchor.isNone
      let name ← readName
      skipSpaces
      readProperties fuel { props with anchor := some name }
    | some '!' =>
      require props.tag.isNone
      let tag ← takeChars isNameChar
      skipSpaces
      readProperties fuel { props with tag := some (String.ofList tag) }
    | _ => return props

/-- Gives a node its name. -/
def bindName (props : Properties) (d : Data) : Reader Data := do
  match props.anchor with
  | some name => modify fun cur => { cur with anchors := (name, d) :: cur.anchors }
  | none => pure ()
  return d

/-- Reads an alias: the node that was given its name. -/
def readAlias : Reader Data := do
  let name ← readName
  match (← get).anchors.find? fun a => a.1 == name with
  | some (_, d) => return d
  | none => refuse

/-- The data of a scalar. -/
def scalarData (s : Scalar) : Reader Data := fun cur => s.data?.map fun d => (d, cur)

/-! ### Members of tables -/

/-- The members of a table so far, with their names as they are written. -/
abbrev Members := List (Scalar × Data)

/-- Whether a name can still be given. -/
def isFree (members : Members) (k : Scalar) : Bool := !members.any fun m => m.1.clashes k

/-- The table with these members, the last one first. -/
def tableOf (members : Members) : Reader Data := fun cur =>
  (members.reverse.mapM fun m => (Scalar.key? m.1).map fun k => (k, m.2)).map fun ms => (.table ms, cur)

/-- Whether a character can stand in a word. -/
def isWordChar (c : Char) : Bool := c.isAlphanum || c == '_' || c == '-'

/-- Passes over a colon. Tabs alone do not part it from a word. -/
def readColon : Reader Unit := do
  dropChars 1
  if (← peek) == some '\t' then
    let spaces ← takeChars isSpace
    require (spaces.contains ' ' || !((← peek).map isWordChar).getD false)

/-! ### Nodes with brackets -/

/-- Goes on to the next character that counts within brackets. What the brackets hold does not
stand too far left, but commas and closing brackets may. -/
def skipInFlow (least : Nat) : Reader Unit := do
  skipLines true
  let cur ← get
  let mark := cur.rest.head?.map fun c => c == ',' || c == ']' || c == '\x7d'
  require (!cur.atBoundary && (mark.getD false || decide (least ≤ cur.column)))

/-- Passes over a bracket or a comma. A comment cannot follow without white space in between. -/
def readMark : Reader Unit := do
  dropChars 1
  require ((← peek) != some '#')

/-- Reads a scalar within brackets. -/
def flowScalar (least : Nat) (tag : Option String) : Reader Scalar := do
  match ← peek with
  | some '"' => return ⟨(← readQuoted '"' least).1, false, tag⟩
  | some '\'' => return ⟨(← readQuoted '\'' least).1, false, tag⟩
  | _ =>
    require (startsPlain true (← get).rest)
    let first ← readPlainLine true
    return ⟨← readPlainLines true least first, true, tag⟩

/-- Whether a colon is next. -/
def atColon : Reader Bool := do return (← peek) == some ':'

/-- Whether nothing stands here. -/
def atFlowGap : Reader Bool := do
  return match ← peek with
    | some c => c == ',' || c == ']' || c == '\x7d'
    | none => false

/-- What a node within brackets is: a scalar, which may turn out to be a name, or data. -/
abbrev FlowNode := Scalar ⊕ Data

mutual

/-- Reads a node within brackets. -/
def flowNode (least : Nat) : Nat → Reader FlowNode
  | 0 => refuse
  | fuel + 1 => do
    let props ← readProperties 2 {}
    skipInFlow least
    match ← peek with
    | some '[' =>
      readMark
      return .inr (← bindName props (← flowItems least fuel []))
    | some '\x7b' =>
      readMark
      return .inr (← bindName props (← flowMembers least fuel []))
    | some '*' => return .inr (← readAlias)
    | _ =>
      if ← atFlowGap then return .inr (← bindName props .null)
      let s ← flowScalar least props.tag
      if props.anchor.isSome then
        let _ ← bindName props (← scalarData s)
      return .inl s

/-- Reads the data behind a colon within brackets. -/
def flowData (least : Nat) : Nat → Reader Data
  | 0 => refuse
  | fuel + 1 => do
    skipInFlow least
    if ← atFlowGap then return .null
    match ← flowNode least fuel with
    | .inl s => scalarData s
    | .inr d => return d

/-- Reads items up to the closing bracket; `items` are those before, the last one first. -/
def flowItems (least : Nat) : Nat → List Data → Reader Data
  | 0, _ => refuse
  | fuel + 1, items => do
    skipInFlow least
    if (← peek) == some ']' then
      readMark
      return .list items.reverse
    require (!(← atFlowGap))
    let node ← flowNode least fuel
    skipInFlow least
    let item ← if ← atColon then do
        readColon
        match node with
        | .inl k => tableOf [(k, ← flowData least fuel)]
        | .inr _ => refuse
      else match node with
        | .inl s => scalarData s
        | .inr d => pure d
    skipInFlow least
    match ← peek with
    | some ',' =>
      readMark
      flowItems least fuel (item :: items)
    | some ']' =>
      readMark
      return .list (item :: items).reverse
    | _ => refuse

/-- Reads members up to the closing brace. -/
def flowMembers (least : Nat) : Nat → Members → Reader Data
  | 0, _ => refuse
  | fuel + 1, members => do
    skipInFlow least
    if (← peek) == some '\x7d' then
      readMark
      return ← tableOf members
    require (!(← atFlowGap))
    match ← flowNode least fuel with
    | .inr _ => refuse
    | .inl k =>
      require (isFree members k)
      skipInFlow least
      let d ← if ← atColon then do
          readColon
          flowData least fuel
        else pure .null
      skipInFlow least
      match ← peek with
      | some ',' =>
        readMark
        flowMembers least fuel ((k, d) :: members)
      | some '\x7d' =>
        readMark
        tableOf ((k, d) :: members)
      | _ => refuse

end

/-! ### Nodes with a line for each entry -/

/-- Whether a colon that makes a name of what came before is next. -/
def atNameColon : Reader Bool := do
  skipSpaces
  return match (← get).rest with
    | ':' :: cs => startsBlank cs
    | _ => false

/-- Reads what may be a name: a scalar of which only the first line is read, and whether it ends
on its line. -/
def readFirst (least : Nat) (tag : Option String) : Reader (Scalar × Bool) := do
  match ← peek with
  | some '"' =>
    let (s, single) ← readQuoted '"' least
    return (⟨s, false, tag⟩, single)
  | some '\'' =>
    let (s, single) ← readQuoted '\'' least
    return (⟨s, false, tag⟩, single)
  | _ =>
    require (startsPlain false (← get).rest)
    return (⟨← readPlainLine false, true, tag⟩, true)

/-- Gives a scalar its name. -/
def bindScalar (props : Properties) (s : Scalar) : Reader Unit := do
  if props.anchor.isSome then
    let _ ← bindName props (← scalarData s)

/-- Reads a name and the colon behind it. -/
def readKey : Reader Scalar := do
  let props ← readProperties 2 {}
  let (k, single) ← readFirst 0 props.tag
  bindScalar props k
  require (single && (← atNameColon))
  readColon
  return k

/-- Refuses a colon that would make a name of what cannot be one. -/
def noName (d : Data) : Reader Data := do
  require (!(← atNameColon))
  return d

/-- The data of a node that is left out. -/
def missing (tag : Option String) : Data := if tag == some "!!str" then .text "" else .null

/-- Passes over the sign in front of an item. Tabs do not part it from another one. -/
def readDash : Reader Unit := do
  dropChars 1
  let spaces ← takeChars isSpace
  require (!(spaces.contains '\t' && (← get).atIndicator '-'))

mutual

/-- Reads what belongs to an entry, on its line or on the ones behind it, from the column `least`
on. A node with a line for each entry may start on the line of the entry if `compact`; a list may
also start in the column of a name if `aligned`. -/
def node (least : Nat) (compact aligned : Bool) : Nat → Reader Data
  | 0 => refuse
  | fuel + 1 => do
    skipSpaces
    let column := (← get).column
    let props ← readProperties 2 {}
    if ← atLineEnd then
      skipLines false
      let cur ← get
      if !cur.atBoundary && decide (least ≤ cur.column) then
        let own ← readProperties 2 {}
        nodeBehind least cur.column true props own fuel
      else if aligned && !cur.atBoundary && cur.column + 1 == least && cur.atIndicator '-' then
        bindName props (← blockItems cur.column fuel [])
      else bindName props (missing props.tag)
    else nodeBehind least column compact {} props fuel
termination_by structural fuel => fuel

/-- Reads a node behind what stands in front of it: `props` on a line before, and `own` from
`column` on. In front of a name, the latter belongs to the name. -/
def nodeBehind (least column : Nat) (compact : Bool) (props own : Properties) :
    Nat → Reader Data
  | 0 => refuse
  | fuel + 1 => do
    let cur ← get
    let doubled := (props.anchor.isSome && own.anchor.isSome) || (props.tag.isSome && own.tag.isSome)
    let all : Properties := ⟨own.anchor <|> props.anchor, own.tag <|> props.tag⟩
    match cur.rest with
    | '[' :: _ =>
      require (!doubled)
      readMark
      bindName all (← flowItems least fuel []) >>= noName
    | '\x7b' :: _ =>
      require (!doubled)
      readMark
      bindName all (← flowMembers least fuel []) >>= noName
    | '*' :: _ => readAlias >>= noName
    | '|' :: _ =>
      require (!doubled)
      scalarData ⟨← readBlock least, false, none⟩ >>= bindName all
    | '>' :: _ =>
      require (!doubled)
      scalarData ⟨← readBlock least, false, none⟩ >>= bindName all
    | _ =>
      if cur.atIndicator '-' then
        require (compact && own.anchor.isNone && own.tag.isNone)
        bindName props (← blockItems cur.column fuel [])
      else
        let (s, single) ← readFirst least own.tag
        if ← atNameColon then
          require (compact && single)
          bindScalar own s
          readColon
          let d ← node (column + 1) false true fuel
          bindName props (← blockMembers column fuel [(s, d)])
        else
          require (!doubled)
          let s := { s with tag := all.tag }
          let s ← if s.plain then do
              pure { s with text := ← readPlainLines false least s.text }
            else pure s
          scalarData s >>= noName >>= bindName all
termination_by structural fuel => fuel

/-- Reads the items of a list, from the first sign on; `items` are those before, the last one
first. -/
def blockItems (column : Nat) : Nat → List Data → Reader Data
  | 0, _ => refuse
  | fuel + 1, items => do
    readDash
    let d ← node (column + 1) true false fuel
    skipLines false
    let cur ← get
    require (cur.atBoundary || decide (cur.column ≤ column))
    if !cur.atBoundary && cur.column == column && cur.atIndicator '-' then
      blockItems column fuel (d :: items)
    else return .list (d :: items).reverse
termination_by structural fuel => fuel

/-- Reads the members of a table behind those read before, the last one of which is first. -/
def blockMembers (column : Nat) : Nat → Members → Reader Data
  | 0, _ => refuse
  | fuel + 1, members => do
    skipLines false
    let cur ← get
    require (cur.atBoundary || decide (cur.column ≤ column))
    if !cur.atBoundary && cur.column == column then
      let k ← readKey
      require (isFree members k)
      let d ← node (column + 1) false true fuel
      blockMembers column fuel ((k, d) :: members)
    else tableOf members
termination_by structural fuel => fuel

end

/-! ### Documents -/

/-- Passes over the lines in front of a document that are about all of it. -/
def skipDirectives : Nat → Reader Bool
  | 0 => return false
  | fuel + 1 => do
    skipLines false
    if (← get).column == 0 && (← peek) == some '%' then
      let _ ← takeChars fun _ => true
      let _ ← skipDirectives fuel
      return true
    else return false

/-- Passes over marks for the ends of documents. -/
def skipEnds : Nat → Reader Unit
  | 0 => pure ()
  | fuel + 1 => do
    skipLines false
    if (← get).atMark '.' then
      dropChars 3
      skipSpaces
      require (← atLineEnd)
      skipEnds fuel

/-- Reads a text that holds at most one document. -/
def readDocument : Reader Data := do
  let fuel := 4 * (← get).rest.length + 8
  skipEnds fuel
  let directives ← skipDirectives fuel
  let cur ← get
  require (!directives || cur.atMark '-')
  if cur.atEnd then return .table []
  let d ← if cur.atMark '-' then do
      dropChars 3
      node 0 false false fuel
    else node 0 true false fuel
  skipEnds fuel
  require (← get).atEnd
  return d

/-- Writes every end of a line in one way. -/
def withBreaks : List Char → List Char
  | '\r' :: '\n' :: cs => '\n' :: withBreaks cs
  | '\r' :: cs => '\n' :: withBreaks cs
  | c :: cs => c :: withBreaks cs
  | [] => []

/-- The data of a text. -/
def document? (cs : List Char) : Option Data :=
  (readDocument ⟨withBreaks cs, 0, []⟩).map Prod.fst

end Roster.Document.Yaml
