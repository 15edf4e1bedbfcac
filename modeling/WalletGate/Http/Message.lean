import WalletGate.Json.Written
import WalletGate.Text.Letter
/-!
# HTTP messages

Requests and responses as far as the routes of the host depend on them. A response carries JSON or a
text of no interest, and the id of the request if it had one; otherwise it is given a new one.
-/

namespace WalletGate.Http

structure Request where
  method : String
  /-- The path and the query, perhaps with a fragment. -/
  target : String
  headers : List (String × String)
  body : String
deriving DecidableEq, Repr

namespace Request

/-- The value of the first header with a name, in any case. -/
def header? (r : Request) (name : String) : Option String :=
  (r.headers.find? fun header => Text.eqIgnoringCase header.1 name).map (·.2)

/-- The target without a fragment. -/
def resource (r : Request) : List Char := r.target.toList.takeWhile (· != '#')

def path (r : Request) : String := String.ofList (r.resource.takeWhile (· != '?'))

/-- What follows the first question mark. -/
def query (r : Request) : List Char := (r.resource.dropWhile (· != '?')).drop 1

end Request

structure Response where
  status : Nat
  /-- The body, if it is JSON. -/
  body : Option String
  /-- The id that the request came with. -/
  requestId : Option String
deriving DecidableEq, Repr

/-- A status and a JSON body. -/
structure Answer where
  status : Nat
  body : Option Json

/-- An answer whose body is JSON, its fields in the order given. -/
def Answer.json (status : Nat) (fields : List (String × Json)) : Answer :=
  ⟨status, some (.object fields)⟩

/-- An answer without a JSON body. -/
def Answer.bare (status : Nat) : Answer := ⟨status, none⟩

end WalletGate.Http
