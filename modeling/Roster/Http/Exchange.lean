import Roster.Address.Reader
import Roster.Failure
import Roster.Log.Event
import Roster.Json.Form
import Roster.Text.Percent

/-!
# Exchanges with nodes over HTTP

An exchange is a series of requests, each of which may depend on the outcomes of the ones before
it. An outcome is what came of a request: no answer, or a status with a body that may be cut off.
A body may hold any bytes; it has to be text only where something reads it.

* `Exchange.getJson` asks for JSON and explains what is wrong with an outcome that holds none:
  a node that gave no answer at all, or none in time, is unreachable; one whose answer cannot be
  used broke the protocol.
* `Exchange.runWith` runs an exchange with a network that gives the outcomes.
* `request` is the address that is asked, without user and password, if it can be asked.
-/

namespace Roster.Http

/-- What came of the body of an answer. -/
inductive Body
  /-- All of it arrived. -/
  | whole (bytes : List UInt8)
  /-- It ended too early. -/
  | cut
  /-- It did not arrive in time. -/
  | late
deriving DecidableEq

/-- What came of a request in the end. Redirects are followed by the network, so that an answer is
that of the last address, and redirects that never end are no answer. -/
inductive Outcome
  /-- No answer arrived; perhaps the time was over. -/
  | silence (timedOut : Bool)
  /-- An answer arrived. -/
  | answer (status : Nat) (reason : String) (body : Body)
deriving DecidableEq

/-- A series of requests. -/
inductive Exchange (α : Type) where
  /-- There is nothing left to ask. -/
  | done (result : α)
  /-- An event is noted. -/
  | note (e : Log.Event) (next : Exchange α)
  /-- An address is asked. -/
  | get (url : Address) (next : Outcome → Exchange α)

namespace Exchange

variable {α β : Type}

/-- Goes on with what an exchange yields. -/
def bind (x : Exchange α) (k : α → Exchange β) : Exchange β :=
  match x with
  | done r => k r
  | note e next => note e (bind next k)
  | get url next => get url fun o => bind (next o) k

instance : Monad Exchange where
  pure := done
  bind := bind

/-- Runs an exchange with a network. -/
def runWith {m : Type → Type} [Monad m] (fetch : Address → m Outcome)
    (write : Log.Event → m Unit) : Exchange α → m α
  | done r => pure r
  | note e next => do
    write e
    runWith fetch write next
  | get url next => do runWith fetch write (next (← fetch url))

end Exchange

/-! ### Requests -/

/-- Whether a user or password is left out of a request: the user's name has to be text, and one
of the two has to be there. -/
def hasUser (a : Address) : Bool :=
  let isText (s : String) := (Text.Utf8.decode (Text.Percent.decode s.toList)).isSome
  isText a.user && (!a.user.isEmpty || a.password?.any isText)

/-- The address that is asked, as errors show it. -/
def shown (url : Address) : Address := if hasUser url then url.withoutUser else url

/-- Characters that a host may have but a request may not. -/
def neverInRequest (c : Char) : Bool := "\"`\x7b\x7d".toList.contains c

/-- How many bytes the address of a request may have. -/
def lengthLimit : Nat := 65534

/-- Whether an address is short enough to be asked. -/
def fits (url : Address) : Bool := (shown url).text.utf8ByteSize ≤ lengthLimit

/-- Whether an address can be asked. -/
def isRequest (url : Address) : Bool :=
  (url.scheme == "http" || url.scheme == "https") &&
    !(url.hostText?.any fun h => h.toList.any neverInRequest) && fits url

/-! ### Failures -/

/-- What is wrong with a request that cannot be made. -/
def notMade (node url : Address) : Failure :=
  .unreachable node.text s!"builder error for url ({shown url})" false

/-- What is wrong if no answer arrived. -/
def noResponse (node url : Address) (timedOut : Bool) : Failure :=
  .unreachable node.text s!"error sending request for url ({shown url})" timedOut

/-- What is wrong with an answer whose status is that of an error. -/
def badStatus (node url : Address) (status : Nat) (reason : String) : Failure :=
  let whose := if status < 500 then "client" else "server"
  .protocol node.text s!"HTTP status {whose} error ({status} {reason}) for url ({shown url})"

/-- What is wrong with an answer whose body cannot be read. -/
def badBody (node url : Address) : Failure :=
  .protocol node.text s!"error decoding response body for url ({shown url})"

/-- What is wrong with an answer whose body did not arrive in time. -/
def lateBody (node url : Address) : Failure :=
  .unreachable node.text s!"error decoding response body for url ({shown url})" true

/-- What is wrong with a node to whose address nothing can be added. -/
def noBase (node : Address) : Failure :=
  .configuration s!"{node} cannot be used as a base address"

/-- Reads a body. Bytes that are no text do not matter where nothing reads them. -/
def readBody {α : Type} (read : List Char → Except Json.Fault α) (bytes : List UInt8) : Option α :=
  (read (Text.Utf8.decodeWith Json.stray bytes)).toOption

/-- What an outcome holds, or what is wrong with it. -/
def received {α : Type} (read : List Char → Except Json.Fault α) (node url : Address) :
    Outcome → Except Failure α
  | .silence timedOut => .error (noResponse node url timedOut)
  | .answer status reason body =>
    if 400 ≤ status ∧ status < 600 then .error (badStatus node url status reason)
    else match body with
      | .cut => .error (badBody node url)
      | .late => .error (lateBody node url)
      | .whole bytes =>
        match readBody read bytes with
        | some a => .ok a
        | none => .error (badBody node url)

/-- Asks a node for JSON, under its address with some segments added. -/
def Exchange.getJson {α : Type} (node : Address) (segments : List String)
    (read : List Char → Except Json.Fault α) : Exchange (Except Failure α) :=
  match node.add? segments with
  | none => .done (.error (noBase node))
  | some url =>
    if isRequest url then .get url fun o => .done (received read node url o)
    else .done (.error (notMade node url))

end Roster.Http
