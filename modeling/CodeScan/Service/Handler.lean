import CodeScan.Report.Build
import CodeScan.Report.Export
import CodeScan.Service.ScanRequest
import CodeScan.Settings
import CodeScan.Text.Utf8

/-!
# The service

Four routes: two that are read (`/health`, `/rules`) and two that scan the code of a request
(`/scan`, `/export`).  A known path with slashes after it is redirected, a known path with another
method is refused, and everything else is not found.

Cross-origin rules stand around the routes.  A preflight is answered by them alone; any other
response gets the origin of the request as an allowed one, if it is.  A failure of the service
itself is reported outside of them.
-/

namespace CodeScan

/-- A running service. -/
structure Service where
  settings : Settings
  /-- The origins that may call the service. -/
  origins : List Text
  session : Session
  /-- The name the service is reached by, where a request does not give one. -/
  host : Text
  /-- How many identifiers of the session are used up. -/
  serial : Nat := 0
  /-- Why no scan succeeds, for a service whose scanner is out of order. -/
  outage : Option Text := none

namespace Service

/-- The part of the program whose name is in the log records of the service. -/
def logOrigin : Text := "guardian_scan.main"

/-- A reply that leaves no trace. -/
def quiet (service : Service) (response : Response) : Reply := ⟨response, [], service.serial⟩

/-- What came of scanning for a request: a report, or the response in its place. -/
structure Scanned where
  outcome : Except Response ScanReport
  logs : List LogRecord
  serial : Nat

/-- The name that a request is reported under: the given one, unless that is missing or empty. -/
def reportedName (service : Service) (request : ScanRequest) : Text :=
  let given := request.fileName.getD []
  if given.isEmpty then service.settings.defaultFileName else given

/-- The response where a scan fails. -/
def scanFailed (reason : Text) : Response := .detail 500 ("Scan failed: " ++ reason)

/-- Scans the code of a request. -/
def scan (service : Service) (request : ScanRequest) : Scanned :=
  match request.code.chars? with
  | none => ⟨.error .internalError, [], service.serial⟩
  | some code =>
    let size := Utf8.size code
    let limit := service.settings.maxCodeBytes
    if limit < size then
      let message : Text := "Code is " ++ Text.ofNat size ++ " bytes; the limit is " ++
        Text.ofInt limit
      ⟨.error (.detail 413 message), [], service.serial⟩
    else
      let name := service.reportedName request
      let opening : LogRecord :=
        ⟨.info, logOrigin, "Scanning " ++ name ++ " (" ++ Text.ofNat size ++ " bytes)"⟩
      let failed (reason : Text) (logs : List LogRecord) (serial : Nat) : Scanned :=
        let closing : LogRecord :=
          ⟨.error, logOrigin, "Scan failed for " ++ name ++ ": " ++ reason⟩
        ⟨.error (scanFailed reason), opening :: logs ++ [closing], serial⟩
      match service.outage with
      | some reason => failed reason [] service.serial
      | none =>
        let built := ScanReport.build service.session service.serial code (.string name)
        match built.outcome with
        | .error issues => failed issues.text built.logs built.serial
        | .ok report =>
          let closing : LogRecord := ⟨.info, logOrigin, report.summary.text⟩
          ⟨.ok report, opening :: built.logs ++ [closing], built.serial⟩

/-- Answers a request that scans; `respond` makes the response of a report. -/
def scanning (service : Service) (request : Request) (respond : ScanReport → Response) : Reply :=
  match scanRequest request with
  | .error response => service.quiet response
  | .ok scanRequest =>
    let scanned := service.scan scanRequest
    match scanned.outcome with
    | .error response => ⟨response, scanned.logs, scanned.serial⟩
    | .ok report => ⟨respond report, scanned.logs, scanned.serial⟩

/-- The export of a report as a download. -/
def exportResponse (service : Service) (report : ScanReport) : Response :=
  let name := ScanReport.exportName report.fileName report.id "json"
  .json 200 (report.exportPayload service.session.now)
    [("content-disposition", "attachment; filename=\"" ++ name ++ "\"")]

/-- The routes. -/
inductive Route where
  | health
  | rules
  | scan
  | download

namespace Route

/-- All routes. -/
def all : List Route := [.health, .rules, .scan, .download]

/-- The path of a route. -/
def path : Route → Text
  | .health => "/health"
  | .rules => "/rules"
  | .scan => "/scan"
  | .download => "/export"

/-- The one method of a route. -/
def method : Route → Text
  | .health | .rules => "GET"
  | .scan | .download => "POST"

/-- The route of a path.  A line feed at the end of the path does not count. -/
def ofPath? (path : Text) : Option Route :=
  all.find? fun route => path == route.path || path == route.path ++ "\n"

end Route

/-- Answers a request to a route with its method. -/
def serve (service : Service) (request : Request) : Route → Reply
  | .health => service.quiet (.json 200 (.object [("status", .string "ok")]))
  | .rules =>
    let shown := Catalog.builtIn.map fun rule => (RuleInfo.ofRule rule).toJson
    service.quiet (.json 200 (.array shown))
  | .scan => service.scanning request fun report => .json 200 report.toJson
  | .download => service.scanning request service.exportResponse

/-- A path without the slashes at its end. -/
def withoutFinalSlashes (path : Text) : Text :=
  (path.reverse.dropWhile (· == .char '/')).reverse

/-- Answers a request by its path and method. -/
def dispatch (service : Service) (request : Request) : Reply :=
  match Route.ofPath? request.target.path with
  | some route =>
    if request.verb == route.method then service.serve request route
    else service.quiet (.detail 405 "Method Not Allowed" [("allow", route.method)])
  | none =>
    let shorter := withoutFinalSlashes request.target.path
    if shorter ≠ request.target.path ∧ (Route.ofPath? shorter).isSome then
      let host := (request.header? "host").getD service.host
      let location := location host shorter request.target.query
      service.quiet ⟨307, [("location", location)], .text []⟩
    else service.quiet (.detail 404 "Not Found")

/-- The methods that other origins may use. -/
def allowedMethods : List Text := ["POST", "GET"]

/-- How long the answer to a preflight holds, in seconds. -/
def preflightAge : Text := "600"

/-- The header that allows an origin, if it is allowed. -/
def allowOrigin (service : Service) (origin : Text) : Headers :=
  if service.origins.contains origin then [("access-control-allow-origin", origin)] else []

/-- Answers a preflight. -/
def preflight (service : Service) (request : Request) (origin method : Text) : Response :=
  let badOrigin : List Text := if service.origins.contains origin then [] else ["origin"]
  let badMethod : List Text := if allowedMethods.contains method then [] else ["method"]
  let badNetwork : List Text :=
    if (request.header? "access-control-request-private-network").isSome then ["private-network"]
    else []
  let faults := badOrigin ++ badMethod ++ badNetwork
  let echoed : Headers := match request.header? "access-control-request-headers" with
    | some names => [("access-control-allow-headers", names)]
    | none => []
  let fixed : Headers :=
    [("access-control-allow-methods", Text.join ", " allowedMethods),
     ("access-control-max-age", preflightAge)]
  let headers := fixed ++ service.allowOrigin origin ++ echoed
  if faults.isEmpty then .text 200 "OK" headers
  else .text 400 ("Disallowed CORS " ++ Text.join ", " faults) headers

/-- Replaces a response that cannot be sent by a failure of the service. -/
def ensureSendable (reply : Reply) : Reply :=
  match reply.response.body with
  | .json value =>
    if value.isSendable then reply else { reply with response := .internalError }
  | .text _ => reply

/-- Adds headers to a response, but not to a failure of the service itself. -/
def addHeaders (headers : Headers) (reply : Reply) : Reply :=
  match reply.response.status, reply.response.body with
  | 500, .text _ => reply
  | _, _ =>
    { reply with response := { reply.response with headers := reply.response.headers ++ headers } }

/-- Drops the body of a response to a request for headers only. -/
def dropBody (request : Request) (reply : Reply) : Reply :=
  if request.verb == ("HEAD" : Text) then
    { reply with response := { reply.response with body := .text [] } }
  else reply

/-- The answer to a preflight, if the request is one. -/
def preflight? (service : Service) (request : Request) : Option Response := do
  let origin ← request.header? "origin"
  let method ← request.header? "access-control-request-method"
  if request.verb == ("OPTIONS" : Text) then some (service.preflight request origin method)
  else none

/-- Answers a request. -/
def handle (service : Service) (request : Request) : Reply :=
  let reply := match service.preflight? request with
    | some response => service.quiet response
    | none =>
      let answer := ensureSendable (service.dispatch request)
      match request.header? "origin" with
      | some origin => addHeaders (service.allowOrigin origin) answer
      | none => answer
  dropBody request reply

end Service

end CodeScan
