import MarkupLint.Json.Fault
import MarkupLint.Json.Printer

/-! Messages between an editor and the server: requests, which have an identity and are answered,
notifications, which have none, and responses. -/
namespace MarkupLint.Protocol

def version : String := "2.0"

inductive RequestId where
  | number (n : Int)
  | text (s : String)
  | null
  deriving DecidableEq, Repr

def RequestId.ofJson? : Json → Option RequestId
  | .number (.integer n) => if -0x8000000000000000 ≤ n ∧ n < 0x8000000000000000 then some (.number n) else none
  | .text s => some (.text s)
  | .null => some .null
  | _ => none

def RequestId.toJson : RequestId → Json
  | .number n => .integer n
  | .text s => .text s
  | .null => .null

/-- A request, or a notification if it has no identity. -/
structure Call where
  id : Option RequestId
  method : String
  params : Option Json

/-- The response to a request of the server; none for a failure. -/
structure Response where
  id : RequestId
  result : Option Json

inductive Incoming where
  | call (c : Call)
  | response (r : Response)

def Call.ofJson? (v : Json) : Option Call := do
  guard (v.member? "jsonrpc" == some (.text version))
  let method ← match v.member? "method" with
    | none => some ""
    | some (.text m) => some m
    | some _ => none
  let id ← match v.member? "id" with
    | none => some none
    | some i => (RequestId.ofJson? i).map some
  return ⟨id, method, v.member? "params"⟩

/-- A response has a result or an error, and no method. -/
def Response.ofJson? (v : Json) : Option Response := do
  guard (v.member? "jsonrpc" == some (.text version))
  let id ← RequestId.ofJson? (← v.member? "id")
  match v.member? "result", v.member? "error" with
  | some result, none => return ⟨id, some result⟩
  | none, some _ => return ⟨id, none⟩
  | _, _ => none

def Incoming.ofJson? (v : Json) : Option Incoming :=
  match Response.ofJson? v with
  | some r => some (.response r)
  | none => (Call.ofJson? v).map .call

inductive Refusal where
  /-- The message is no JSON. -/
  | parseError
  | notInitialized
  | invalidRequest
  | unknownMethod (method : String)
  | notImplemented
  | missingParams
  | unexpectedParams (v : Json)
  | badParams (m : Json.Mismatch)

def Refusal.code : Refusal → Int
  | .parseError => -32700
  | .notInitialized => -32002
  | .invalidRequest => -32600
  | .unknownMethod _ => -32601
  | .notImplemented => -32601
  | .missingParams => -32602
  | .unexpectedParams _ => -32602
  | .badParams _ => -32602

def Refusal.message : Refusal → String
  | .parseError => "Parse error"
  | .notInitialized => "Server not initialized"
  | .invalidRequest => "Invalid request"
  | .unknownMethod _ => "Method not found"
  | .notImplemented => "Method not found"
  | .missingParams => "Missing params field"
  | .unexpectedParams v => "Unexpected params: " ++ v.compact
  | .badParams m => m.message

def Refusal.toJson (r : Refusal) : Json :=
  let data := match r with
    | .unknownMethod method => [("data", .text method)]
    | _ => []
  .object ([("code", .integer r.code)] ++ data ++ [("message", .text r.message)])

abbrev Verdict := Except Refusal Json

def responseJson (id : RequestId) : Verdict → Json
  | .ok result =>
    .object [("id", id.toJson), ("jsonrpc", .text version), ("result", result)]
  | .error r =>
    .object [("error", r.toJson), ("id", id.toJson), ("jsonrpc", .text version)]

end MarkupLint.Protocol
