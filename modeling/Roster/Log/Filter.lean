import Roster.Log.Event
import Roster.Text.Pieces

/-!
# Which events are logged

A filter is a list of directives. A directive has a part of the program, or none for all of it,
and the least level that it lets through, or none to let nothing through. The directive with
the longest part that the event's begins with decides.

* `Filter.ofText?` reads directives such as `info,strata_cluster=debug`.
* `Filter.lets` says whether an event is let through.
-/

namespace Roster.Log

/-- What is let through of a part of the program. -/
structure Directive where
  part : Option (List Char)
  least : Option Level
deriving DecidableEq

namespace Directive

/-- The least level with a name or a number, in any case; `off` lets nothing through. -/
def least? (cs : List Char) : Option (Option Level) :=
  match cs.map Char.toLower with
  | ['0'] => some none
  | ['1'] => some (some .error)
  | ['2'] => some (some .warn)
  | ['3'] => some (some .info)
  | ['4'] => some (some .debug)
  | ['5'] => some (some .trace)
  | cs =>
    if cs = "off".toList then some none
    else ([Level.trace, .debug, .info, .warn, .error].find? fun l =>
      l.name.toList.map Char.toLower == cs).map some

/-- Whether a character can stand in the name of a part. -/
def isPartChar (c : Char) : Bool := c.isAlphanum || c == '_' || c == ':' || c == '-'

/-- Whether a text can be the name of a part. -/
def isPart (cs : List Char) : Bool := !cs.isEmpty && cs.all isPartChar

/-- The directive that a text stands for: a level, a part, or a part with its level. -/
def ofText? (cs : List Char) : Option Directive :=
  match least? cs with
  | some l => some ⟨none, l⟩
  | none =>
    let part := cs.takeWhile (· != '=')
    if !isPart part then none
    else match cs.dropWhile (· != '=') with
      | [] | ['='] => some ⟨some part, some .trace⟩
      | _ :: level => (least? level).map fun l => ⟨some part, l⟩

/-- How much a directive says about the part it is for. -/
def length (d : Directive) : Nat :=
  match d.part with
  | some part => part.length + 1
  | none => 0

/-- Whether a directive is about an event. -/
def concerns (d : Directive) (e : Event) : Bool :=
  match d.part with
  | some part => part.isPrefixOf e.target.toList
  | none => true

/-- Whether a directive lets events of a level through. -/
def lets (d : Directive) (l : Level) : Bool :=
  match d.least with
  | some least => least.covers l
  | none => false

end Directive

/-- Which events are logged. -/
structure Filter where
  directives : List Directive
deriving DecidableEq

namespace Filter

/-- The filter that lets through what has a level or more. -/
def ofLevel (l : Level) : Filter := ⟨[⟨none, some l⟩]⟩

/-- The better one of two directives; of two for the same part, the later one. -/
def better (best : Option Directive) (d : Directive) : Option Directive :=
  match best with
  | some b => if d.length < b.length then some b else some d
  | none => some d

/-- The directive that decides about an event. -/
def directive? (f : Filter) (e : Event) : Option Directive :=
  (f.directives.filter fun d => d.concerns e).foldl better none

/-- Whether an event is logged. -/
def lets (f : Filter) (e : Event) : Bool := (f.directive? e).any fun d => d.lets e.level

/-- The filter that a text stands for. Without any directive, errors alone are logged. -/
def ofText? (text : String) : Option Filter :=
  let pieces := (Text.pieces (· == ',') text.toList).filter fun p => !p.isEmpty
  if pieces.isEmpty then some (ofLevel .error)
  else (pieces.mapM Directive.ofText?).map Filter.mk

end Filter

end Roster.Log
