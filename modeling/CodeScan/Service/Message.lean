import CodeScan.Json.Basic
import CodeScan.Log
import CodeScan.Service.Target
import CodeScan.Text.Case

/-!
# Requests and responses

Header names are compared without regard to ASCII case: requests may spell them in any way, and
responses have them in lower case.  A JSON body can be sent only if it has a UTF-8 form and holds no
number that JSON cannot write; `Json.isSendable` tells.
-/

namespace CodeScan

namespace Service

/-- Headers by name. -/
abbrev Headers := List (Text × Text)

/-- A request. -/
structure Request where
  /-- The method, in any case. -/
  method : Text
  target : Target
  headers : Headers
  body : List Char

namespace Request

/-- The value of a header, by its name in lower case. -/
def header? (request : Request) (name : Text) : Option Text :=
  (request.headers.find? fun header => Text.lowerAscii header.1 == name).map Prod.snd

/-- The method in upper case. -/
def verb (request : Request) : Text := request.method.upper

end Request

/-- The body of a response. -/
inductive Body where
  | json (value : Json)
  | text (t : Text)

/-- A response. -/
structure Response where
  status : Nat
  headers : Headers
  body : Body

/-- What a request leads to: the response, the log, and how many identifiers are used up. -/
structure Reply where
  response : Response
  logs : List LogRecord
  serial : Nat

namespace Response

/-- The type of JSON bodies. -/
def jsonType : Text := "application/json"

/-- The type of text bodies. -/
def textType : Text := "text/plain; charset=utf-8"

/-- A JSON response. -/
def json (status : Nat) (value : Json) (headers : Headers := []) : Response :=
  ⟨status, ("content-type", jsonType) :: headers, .json value⟩

/-- A text response. -/
def text (status : Nat) (t : Text) (headers : Headers := []) : Response :=
  ⟨status, ("content-type", textType) :: headers, .text t⟩

/-- The response to a request that cannot be served. -/
def detail (status : Nat) (message : Text) (headers : Headers := []) : Response :=
  json status (.object [("detail", .string message)]) headers

/-- The response where the service itself fails. -/
def internalError : Response := text 500 "Internal Server Error"

end Response

end Service

namespace Json

/-- Whether no lone surrogate is in a text. -/
def isEncodable (t : Text) : Bool := t.chars?.isSome

mutual

/-- Whether a value can be the body of a response. -/
def isSendable : Json → Bool
  | .null | .bool _ | .int _ => true
  | .float x => x.isFinite
  | .string t => isEncodable t
  | .array items => areSendable items
  | .object members => membersAreSendable members

/-- Whether all elements can be sent. -/
def areSendable : List Json → Bool
  | [] => true
  | item :: rest => item.isSendable && areSendable rest

/-- Whether all members can be sent, names included. -/
def membersAreSendable : List (Text × Json) → Bool
  | [] => true
  | (name, value) :: rest => isEncodable name && value.isSendable && membersAreSendable rest

end

end Json

end CodeScan
