import WalletGate.Json.Record
/-!
# Requests and responses

The messages of JSON-RPC 2.0. A request carries the origin of the connection that it arrived on,
which is never read from its text nor written to it. A response that is read may hold a result and
an error; a reply, which is a response under construction, never does: `setResult` and `setError`
each clear the other.
-/

namespace WalletGate.Rpc

/-- The version that every response names, and every request that names none. -/
def version : String := "2.0"

structure Request where
  jsonrpc : String
  id : Json
  method : String
  params : Option Json
  /-- The origin of the connection, stamped by the host. -/
  origin : Option String

namespace Request

def fields (r : Request) : List (String × Json) :=
  [("jsonrpc", .text r.jsonrpc), ("id", r.id), ("method", .text r.method)]
    ++ Json.fieldOf "params" (fun v => v) r.params

structure Draft where
  jsonrpc : Option String := none
  id : Option Json := none
  method : Option String := none
  params : Option (Option Json) := none

def layout : Decoder.Layout Draft Request where
  name := "JsonRpcRequest"
  columns := [
    Decoder.column "jsonrpc" .text Draft.jsonrpc fun v d => { d with jsonrpc := v },
    Decoder.column "id" .json Draft.id fun v d => { d with id := v },
    Decoder.column "method" .text Draft.method fun v d => { d with method := v },
    Decoder.column "params" (.optional .json) Draft.params fun v d => { d with params := some v }]
  start := {}
  finish
    | ⟨_, _, none, _⟩ => .error "method"
    | ⟨jsonrpc, id, some method, params⟩ =>
      .ok ⟨jsonrpc.getD version, id.getD .null, method, params.join, none⟩

instance : Wire Request where
  toJson r := .ofFields r.fields
  written r := (Json.object r.fields).written
  decoder := .record layout

end Request

/-- The error of a failed response. -/
structure ErrorObject where
  code : Int64
  message : String
  data : Option Json

namespace ErrorObject

def fields (e : ErrorObject) : List (String × Json) :=
  [("code", .int e.code), ("message", .text e.message)] ++ Json.fieldOf "data" (fun v => v) e.data

structure Draft where
  code : Option Int64 := none
  message : Option String := none
  data : Option (Option Json) := none

def layout : Decoder.Layout Draft ErrorObject where
  name := "JsonRpcErrorObject"
  columns := [
    Decoder.column "code" .int64 Draft.code fun v d => { d with code := v },
    Decoder.column "message" .text Draft.message fun v d => { d with message := v },
    Decoder.column "data" (.optional .json) Draft.data fun v d => { d with data := some v }]
  start := {}
  finish
    | ⟨none, _, _⟩ => .error "code"
    | ⟨_, none, _⟩ => .error "message"
    | ⟨some code, some message, data⟩ => .ok ⟨code, message, data.join⟩

instance : Wire ErrorObject where
  toJson e := .ofFields e.fields
  written e := (Json.object e.fields).written
  decoder := .record layout

end ErrorObject

/-- A response as it is read and written. -/
structure Response where
  jsonrpc : String
  id : Json
  result : Option Json
  error : Option ErrorObject

namespace Response

/-- The empty response to a request. -/
def answering (r : Request) : Response := ⟨version, r.id, none, none⟩

def setResult (r : Response) (result : Json) : Response :=
  { r with result := some result, error := none }

def setError (r : Response) (error : ErrorObject) : Response :=
  { r with result := none, error := some error }

/-- Whether the response has a result or an error. -/
def isComplete (r : Response) : Bool := r.result.isSome || r.error.isSome

/-- The fields, given the form of an error. -/
def fields (error : ErrorObject → Json) (r : Response) : List (String × Json) :=
  [("jsonrpc", .text r.jsonrpc), ("id", r.id)] ++ Json.fieldOf "result" (fun v => v) r.result
    ++ Json.fieldOf "error" error r.error

structure Draft where
  jsonrpc : Option String := none
  id : Option Json := none
  result : Option (Option Json) := none
  error : Option (Option ErrorObject) := none

def layout : Decoder.Layout Draft Response where
  name := "JsonRpcResponse"
  columns := [
    Decoder.column "jsonrpc" .text Draft.jsonrpc fun v d => { d with jsonrpc := v },
    Decoder.column "id" .json Draft.id fun v d => { d with id := v },
    Decoder.column "result" (.optional .json) Draft.result fun v d => { d with result := some v },
    Decoder.column "error" (.optional (.record ErrorObject.layout)) Draft.error
      fun v d => { d with error := some v }]
  start := {}
  finish
    | ⟨none, _, _, _⟩ => .error "jsonrpc"
    | ⟨_, none, _, _⟩ => .error "id"
    | ⟨some jsonrpc, some id, result, error⟩ => .ok ⟨jsonrpc, id, result.join, error.join⟩

instance : Wire Response where
  toJson r := .ofFields (r.fields toJson)
  written r := (Json.object (r.fields fun e => .object e.fields)).written
  decoder := .record layout

end Response

/-- A response under construction: it has a result or an error or nothing yet, and never both. -/
structure Reply extends Response where
  single : result = none ∨ error = none

namespace Reply

/-- The empty reply to a request. -/
def answering (r : Request) : Reply := ⟨.answering r, .inl rfl⟩

def setResult (r : Reply) (result : Json) : Reply := ⟨r.toResponse.setResult result, .inr rfl⟩

def setError (r : Reply) (error : ErrorObject) : Reply := ⟨r.toResponse.setError error, .inl rfl⟩

end Reply

end WalletGate.Rpc
