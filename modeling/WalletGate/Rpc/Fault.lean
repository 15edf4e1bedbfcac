import WalletGate.Rpc.Message
import WalletGate.Wallet.Call
/-!
# Faults of requests

Why a request fails, the code and the text of each cause, and the error object that answers it.
-/

namespace WalletGate.Rpc

open Wallet (Hook Refusal)

/-- Why a request fails. -/
inductive Fault where
  /-- The payload is not a request. -/
  | invalidRequest (message : String)
  /-- The method is refused to everyone. -/
  | unsupported (method : String)
  /-- Nothing answers to the method. -/
  | unknownMethod (method : String)
  | invalidParams (message : String)
  /-- The handler broke down. -/
  | handlerFailed (method message : String)
  /-- An account is listed of which nothing is known. -/
  | missingIdentity (address : String)
  /-- The handler asked what it may not ask. -/
  | notGranted (hook : Hook)
  /-- The wallet refused to answer. -/
  | refused (cause : Refusal)
  | internal (message : String)

namespace Fault

def code : Fault → Int64
  | invalidRequest _ => -32600
  | unsupported _ => -32004
  | unknownMethod _ => -32601
  | invalidParams _ => -32602
  | handlerFailed .. | missingIdentity _ | notGranted _ | refused _ | internal _ => -32603

def message : Fault → String
  | invalidRequest message => "Invalid request: " ++ message
  | unsupported method => "The method \"" ++ method ++ "\" is not supported."
  | unknownMethod method => "The method \"" ++ method ++ "\" does not exist / is not available."
  | invalidParams message => message
  | handlerFailed method message => "Handler for \"" ++ method ++ "\" failed: " ++ message
  | missingIdentity address => "Missing identity for address: \"" ++ address ++ "\"."
  | notGranted hook => "Hook \"" ++ hook.name ++ "\" was not granted to this handler"
  | refused cause => cause.message
  | internal message => message

/-- The method, for causes that are about a method. -/
def data? : Fault → Option Json
  | unsupported method | unknownMethod method => some (.ofFields [("method", .text method)])
  | _ => none

/-- The error object that answers a request which failed for this cause. -/
def object (fault : Fault) : ErrorObject := ⟨fault.code, fault.message, fault.data?⟩

end Fault

end WalletGate.Rpc
