import CodeScan.Proofs.Json.Equality
import CodeScan.Proofs.Service.Sendable

/-!
# The front ends agree

Code can be scanned by a request to the service, by a request for an export, and from the command
line.  Each way has its own check of the size, its own default for the name and its own writing of
the report.  Given the same code and the same hint at a file name, they refuse the same code, and
otherwise they give the same report: `handle_agrees_runWith`.

The service is followed from the inside out.  `scanRequest_of_posts` says what is read from the
body, `response_scanning` how it is answered by a route that scans, and `handle_of_posts` that
nothing around the routes changes that answer, unless it cannot be sent.
-/

namespace CodeScan

/-! ## Hints at a file name -/

/-- A hint at the name of a file, as an object can carry it. -/
inductive NameHint where
  | absent
  | null
  | given (name : List Char)

namespace NameHint

/-- The value of the member that carries a hint, if there is one. -/
def value? : NameHint → Option Json
  | .absent => none
  | .null => some .null
  | .given name => some (.string (Text.ofChars name))

/-- The text of a hint that is a string. -/
def text? : NameHint → Option Text
  | .absent | .null => none
  | .given name => some (Text.ofChars name)

/-- The name that a hint leads to.  A hint that is missing, null or empty gives way to the
fallback. -/
def nameOr (fallback : Text) : NameHint → Text
  | .absent | .null | .given [] => fallback
  | .given (c :: cs) => Text.ofChars (c :: cs)

end NameHint

/-- A hint is read as its text, under either name of the field. -/
theorem Finding.withDefault_fileNameField {members : Json.Members} {hint : NameHint}
    (h : (members.get? "fileName").or (members.get? "file_name") = hint.value?) :
    fileNameField.withDefault none (Reader.optional Reader.text) members = .ok hint.text? := by
  refine FieldName.withDefault_eq_ok ?_
  rw [fileNameField, h]
  cases hint <;> rfl

namespace Service

/-! ## The service -/

/-- A request that posts code and a hint to a route: its body is an object with the two, the hint
under either of its names. -/
structure Posts (route : Route) (code : List Char) (hint : NameHint) (request : Request) :
    Prop where
  verb_eq : request.verb = ("POST" : Text)
  path_eq : request.target.path = route.path
  body_eq : ∃ members : Json.Members, bodyValue request = .ok (some (.object members)) ∧
    members.get? "code" = some (.string (Text.ofChars code)) ∧
      (members.get? "fileName").or (members.get? "file_name") = hint.value?

variable {service : Service} {request : Request} {route : Route} {code : List Char}
  {hint : NameHint}

/-- What is read from the body of such a request. -/
theorem scanRequest_of_posts (h : Posts route code hint request) :
    scanRequest request = .ok ⟨Text.ofChars code, hint.text?⟩ := by
  obtain ⟨members, hbody, hcode, hname⟩ := h.body_eq
  simp only [scanRequest, hbody, bind, Except.bind, ScanRequest.readMembers,
    FieldName.required_same, hcode, Finding.withDefault_fileNameField hname]
  rfl

/-- The service goes by the default name in place of a hint that is missing, null or empty. -/
theorem reportedName_text? (service : Service) (code : Text) (hint : NameHint) :
    service.reportedName ⟨code, hint.text?⟩ = hint.nameOr service.settings.defaultFileName := by
  cases hint with
  | absent => rfl
  | null => rfl
  | given name => cases name <;> rfl

/-- The report on code that comes with a hint. -/
def reportOn (service : Service) (code : List Char) (hint : NameHint) : ScanReport :=
  (ScanReport.ofScan code (hint.nameOr service.settings.defaultFileName)
    (service.session.identifier service.serial) service.session.now).1

/-- The response to code that is too long. -/
def tooLong (service : Service) (code : List Char) : Response :=
  .detail 413 ("Code is " ++ Text.ofNat (Utf8.size code) ++ " bytes; the limit is " ++
    Text.ofInt service.settings.maxCodeBytes)

/-- A route that scans refuses code that is too long and responds to the report on all other
code. -/
theorem response_scanning (houtage : service.outage = none) (h : Posts route code hint request)
    (respond : ScanReport → Response) :
    (service.scanning request respond).response =
      if service.settings.maxCodeBytes < Utf8.size code then service.tooLong code
      else respond (service.reportOn code hint) := by
  have hchars : (ScanRequest.mk (Text.ofChars code) hint.text?).code.chars? = some code :=
    Text.chars?_ofChars code
  have houtcome := scan_outcome houtage hchars
  simp only [reportedName_text?] at houtcome
  simp only [scanning, scanRequest_of_posts h]
  by_cases hsize : service.settings.maxCodeBytes < Utf8.size code
  · rw [if_pos hsize] at houtcome
    rw [if_pos hsize, houtcome]
    rfl
  · rw [if_neg hsize] at houtcome
    rw [if_neg hsize, houtcome]
    rfl

/-- Every route is found under its path. -/
theorem Route.ofPath?_path (route : Route) : ofPath? route.path = some route := by
  cases route <;> rfl

/-- Headers that are added change neither the status nor the body. -/
theorem addHeaders_response (headers : Headers) (reply : Reply) :
    (addHeaders headers reply).response.status = reply.response.status ∧
      (addHeaders headers reply).response.body = reply.response.body := by
  rw [addHeaders]
  split <;> exact ⟨rfl, rfl⟩

/-- A posted request is no preflight request. -/
theorem preflight?_of_post (service : Service) (h : request.verb = ("POST" : Text)) :
    service.preflight? request = none := by
  rw [preflight?, h]
  cases request.header? "origin" <;> cases request.header? "access-control-request-method" <;> rfl

/-- The answer to a posted request is sent with its body. -/
theorem dropBody_of_post (h : request.verb = ("POST" : Text)) (reply : Reply) :
    dropBody request reply = reply := by
  rw [dropBody, h]
  rfl

/-- What stands around the routes leaves status and body of a posted request as they are. -/
theorem handle_of_post (service : Service) (h : request.verb = ("POST" : Text)) :
    let answer := ensureSendable (service.dispatch request)
    (service.handle request).response.status = answer.response.status ∧
      (service.handle request).response.body = answer.response.body := by
  intro answer
  simp only [handle, service.preflight?_of_post h, dropBody_of_post h]
  cases request.header? "origin" with
  | none => exact ⟨rfl, rfl⟩
  | some origin => exact addHeaders_response _ _

/-- A JSON body is sent if it can be, and otherwise replaced by an internal error. -/
theorem ensureSendable_response {reply : Reply} {value : Json}
    (h : reply.response.body = .json value) :
    (ensureSendable reply).response =
      if value.isSendable then reply.response else .internalError := by
  rw [ensureSendable, h]
  by_cases hsendable : value.isSendable = true
  · simp only [hsendable, if_true]
  · simp only [hsendable, if_false, Bool.false_eq_true]

/-- A request that is posted to a route that scans gets there. -/
theorem dispatch_of_posts {respond : ScanReport → Response} (h : Posts route code hint request)
    (hmethod : route.method = ("POST" : Text))
    (hserve : service.serve request route = service.scanning request respond) :
    service.dispatch request = service.scanning request respond := by
  rw [dispatch, h.path_eq, Route.ofPath?_path]
  simp only [h.verb_eq, hmethod, beq_self_eq_true, if_true, hserve]

/-- How a request to a route that scans is answered, where the route responds to the report with the
given body.  Code that is too long is refused, and a body that cannot be sent makes the service
fail. -/
theorem handle_of_posts {respond : ScanReport → Response} {body : Json} {headers : Headers}
    (houtage : service.outage = none) (h : Posts route code hint request)
    (hmethod : route.method = ("POST" : Text))
    (hserve : service.serve request route = service.scanning request respond)
    (hrespond : respond (service.reportOn code hint) = .json 200 body headers) :
    let response := (service.handle request).response
    if service.settings.maxCodeBytes < Utf8.size code then response.status = 413
    else if body.isSendable then response.status = 200 ∧ response.body = .json body
    else response.status = 500 := by
  intro response
  have hresponse := response_scanning houtage h respond
  obtain ⟨hstatus, hbody⟩ := handle_of_post service h.verb_eq
  rw [dispatch_of_posts h hmethod hserve] at hstatus hbody
  by_cases hsize : service.settings.maxCodeBytes < Utf8.size code
  · rw [if_pos hsize] at hresponse ⊢
    -- The refusal is plain text, so it passes the check for what can be sent.
    have hkept : (ensureSendable (service.scanning request respond)).response =
        service.tooLong code := by
      rw [ensureSendable_response (congrArg Response.body hresponse), hresponse]
      exact if_pos (by simp [Json.isSendable, Json.membersAreSendable])
    rw [hstatus, hkept]
    rfl
  · rw [if_neg hsize, hrespond] at hresponse
    rw [if_neg hsize, hstatus, hbody,
      ensureSendable_response (congrArg Response.body hresponse), hresponse]
    by_cases hsendable : body.isSendable = true
    · rw [if_pos hsendable, if_pos hsendable]
      exact ⟨rfl, rfl⟩
    · rw [if_neg hsendable, if_neg hsendable]
      rfl

end Service

/-! ## The command line -/

namespace CommandLine

/-- The members of a call with code and a hint, and without files. -/
structure Asks (code : List Char) (hint : NameHint) (members : Json.Members) : Prop where
  files_eq : (members.get? "files").getD .null = .null
  code_eq : members.get? "code" = some (.string (Text.ofChars code))
  name_eq : members.get? "file_name" = hint.value?

/-- The command line goes by the default name in place of a hint that is missing, null or empty. -/
theorem shownName_value? (hint : NameHint) (fallback : Text) :
    let name := hint.value?.getD .null
    (if name.isGiven then name else .string fallback) = .string (hint.nameOr fallback) := by
  cases hint with
  | absent => rfl
  | null => rfl
  | given name => cases name <;> rfl

/-- The command line refuses code that is too long and prints the report on all other code. -/
theorem runWith_of_asks {code : List Char} {hint : NameHint} {members : Json.Members}
    (h : Asks code hint members) (settings : Settings) (call : Invocation) :
    let outcome := runWith settings call members
    if settings.maxCodeBytes < Utf8.size code then
      outcome.exitCode = 1 ∧ outcome.answer =
        failure ("Code exceeds " ++ Text.ofInt settings.maxCodeBytes ++ " bytes")
    else
      outcome.exitCode = 0 ∧ outcome.answer =
        (Batch.scanPayload call.session call.serial code
          (hint.nameOr settings.defaultFileName)).1 := by
  intro outcome
  have hanswer : answer settings call members =
      scanCode settings call.session call.serial (.string (Text.ofChars code))
        (hint.value?.getD .null) := by
    simp only [answer, h.files_eq, h.code_eq, h.name_eq, Option.getD_some]
  have hcode := scanCode_eq (shownName_value? hint settings.defaultFileName) call.session
    call.serial code
  by_cases hsize : settings.maxCodeBytes < Utf8.size code
  · simp only [if_pos hsize] at hcode
    simp [outcome, runWith, hanswer, hcode, hsize]
  · simp only [if_neg hsize] at hcode
    simp [outcome, runWith, hanswer, hcode, hsize]

end CommandLine

/-! ## Agreement -/

/-- The members of a report that shows a name for the file, itself and in each of its findings. -/
def ScanReport.ShowsName (name : Text) (body : Json.Members) : Prop :=
  body.get? "fileName" = some (.string name) ∧
    ∃ findings, body.get? "vulnerabilities" = some (.array findings) ∧
      ∀ finding ∈ findings, ∃ fields : Json.Members, finding = .object fields ∧
        fields.get? "fileName" = some (.string name)

/-- A report shows the name under which its code was scanned. -/
theorem ScanReport.showsName_ofScan (code : List Char) (fileName id : Text) (now : Timestamp) :
    ShowsName fileName (ofScan code fileName id now).1.members := by
  rw [ofScan_eq]
  refine ⟨by simp [members, Finding.fileNameField],
    (Scan.detect Catalog.builtIn code fileName).findings.map Finding.toJson,
    by simp [members, Finding.fileNameField], ?_⟩
  intro finding hfinding
  obtain ⟨f, hf, rfl⟩ := List.mem_map.1 hfinding
  obtain ⟨hname, -, -⟩ := Scan.fields_of_mem_findings hf
  exact ⟨_, rfl, by simp [Finding.fileNameField, hname]⟩

/-- What the front ends add to a report has a name of its own. -/
theorem ScanReport.get?_members_added (r : ScanReport) :
    r.members.get? "categories" = none ∧ r.members.get? "exportInfo" = none := by
  simp [members, Finding.fileNameField, Metrics.totalLinesField, codeMetricsField]

/-- Given the same code and the same hint at a file name, the front ends answer alike.  Code that is
too long is refused by all of them.  For all other code they give one report, to which the command
line adds the categories and the export the block that describes it. -/
theorem Service.handle_agrees_runWith {service : Service} {call : CommandLine.Invocation}
    {code : List Char} {hint : NameHint} {scanRequest exportRequest : Request}
    {members : Json.Members} (houtage : service.outage = none)
    (hsession : call.session = service.session) (hserial : call.serial = service.serial)
    (hscan : Posts .scan code hint scanRequest) (hexport : Posts .download code hint exportRequest)
    (hasks : CommandLine.Asks code hint members) :
    let settings := service.settings
    let scanned := (service.handle scanRequest).response
    let exported := (service.handle exportRequest).response
    let printed := CommandLine.runWith settings call members
    let name := hint.nameOr settings.defaultFileName
    let report := service.reportOn code hint
    let body := report.members
    let categories : Json.Members :=
      [("categories", (ScanReport.breakdown report.findings).toJson)]
    let info : Json.Members := [("exportInfo", ScanReport.exportInfo service.session.now)]
    (scanned.status = 413 ↔ settings.maxCodeBytes < Utf8.size code) ∧
      (settings.maxCodeBytes < Utf8.size code ↔ printed.exitCode = 1 ∧ printed.answer =
        CommandLine.failure ("Code exceeds " ++ Text.ofInt settings.maxCodeBytes ++ " bytes")) ∧
      exported.status = scanned.status ∧
      (Utf8.size code ≤ settings.maxCodeBytes →
        Json.isEncodable (service.session.identifier service.serial) = true →
        Json.isEncodable name = true →
        scanned.status = 200 ∧ scanned.body = .json (.object body) ∧
          printed.exitCode = 0 ∧ printed.answer = .object (body ++ categories) ∧
          exported.body = .json (.object (body ++ info)) ∧
          body.get? "categories" = none ∧ body.get? "exportInfo" = none ∧
          ScanReport.ShowsName name body) ∧
      (Json.read call.input = .ok (.object members) →
        Settings.load call.environment = .ok settings → CommandLine.run call = printed) := by
  intro settings scanned exported printed name report body categories info
  have hscanned := handle_of_posts houtage hscan rfl rfl rfl
  have hexported := handle_of_posts houtage hexport rfl rfl rfl
  have hprinted := CommandLine.runWith_of_asks hasks settings call
  rw [ScanReport.isSendable_exportPayload] at hexported
  rw [hsession, hserial] at hprinted
  have hrun (hread : Json.read call.input = .ok (.object members))
      (hload : Settings.load call.environment = .ok settings) : CommandLine.run call = printed := by
    simp only [CommandLine.run, hread, hload, printed]
  by_cases hsize : settings.maxCodeBytes < Utf8.size code
  · rw [if_pos hsize] at hscanned hexported hprinted
    exact ⟨iff_of_true hscanned hsize, iff_of_true hsize hprinted, hexported.trans hscanned.symm,
      fun hle => absurd hsize (Int.not_lt.2 hle), hrun⟩
  · rw [if_neg hsize] at hscanned hexported hprinted
    obtain ⟨hexit, hanswer⟩ := hprinted
    have hrefused : ¬ printed.exitCode = 1 := by rw [hexit]; decide
    by_cases hsendable : report.toJson.isSendable = true
    · rw [if_pos hsendable] at hscanned hexported
      obtain ⟨hstatus, hbody⟩ := hscanned
      refine ⟨iff_of_false (by rw [hstatus]; decide) hsize,
        iff_of_false hsize fun h => hrefused h.1, hexported.1.trans hstatus.symm, ?_, hrun⟩
      intro _ _ _
      obtain ⟨hcategories, hinfo⟩ := report.get?_members_added
      exact ⟨hstatus, hbody, hexit, hanswer, hexported.2, hcategories, hinfo,
        ScanReport.showsName_ofScan code name _ _⟩
    · rw [if_neg hsendable] at hscanned hexported
      refine ⟨iff_of_false (by rw [hscanned]; decide) hsize,
        iff_of_false hsize fun h => hrefused h.1, hexported.trans hscanned.symm, ?_, hrun⟩
      intro _ hid hname
      -- The two texts that could hold a lone surrogate hold none.
      refine absurd ?_ hsendable
      simp only [report, reportOn, ScanReport.isSendable_ofScan, Bool.and_eq_true]
      exact ⟨hid, hname⟩

/-- Code of two-byte characters that has just the greatest size, with an empty hint under either
name: it is scanned under the default name. -/
theorem Service.handle_agrees_at_limit :
    let settings : Settings := { Settings.default with maxCodeBytes := 8 }
    let session : Session := ⟨⟨2025, 1, 2, 3, 4, 5, 678901, some 0⟩, fun _ => "id"⟩
    let service : Service := ⟨settings, ["http://localhost"], session, "localhost", 0, none⟩
    let code := "eval(é)".toList
    let headers : Headers :=
      [("Content-Type", "application/json"), ("Origin", "http://localhost")]
    let input := "\x7b\"code\": \"eval(é)\", \"file_name\": \"\"\x7d".toList
    let scanRequest : Request := ⟨"POST", ⟨"/scan", []⟩, headers,
      "\x7b\"code\": \"eval(é)\", \"fileName\": \"\"\x7d".toList⟩
    let exportRequest : Request := ⟨"POST", ⟨"/export", []⟩, headers, input⟩
    let call : CommandLine.Invocation :=
      ⟨Text.ofChars input, ⟨none, some "8", none, none⟩, fun _ => .error .notFound, session, 0⟩
    Utf8.size code = 8 ∧ (service.handle scanRequest).response.status = 200 ∧
      (service.handle exportRequest).response.status = 200 ∧
      (CommandLine.run call).exitCode = 0 ∧
      ScanReport.ShowsName "pasted-code.js" (service.reportOn code (.given [])).members := by
  intro settings session service code headers input scanRequest exportRequest call
  let members : Json.Members := [("code", .string (Text.ofChars code)), ("file_name", .string [])]
  have hsize : Utf8.size code = 8 := by decide
  have hscan : Posts .scan code (.given []) scanRequest := by
    refine ⟨by rfl, by rfl, [("code", .string (Text.ofChars code)), ("fileName", .string [])], ?_,
      by rfl, by rfl⟩
    simp only [scanRequest, headers, code]
    exact Json.eq_ok_of_toOption (by decide +kernel)
  have hexport : Posts .download code (.given []) exportRequest := by
    refine ⟨by rfl, by rfl, members, ?_, by rfl, by rfl⟩
    simp only [exportRequest, headers, input, members, code]
    exact Json.eq_ok_of_toOption (by decide +kernel)
  have hasks : CommandLine.Asks code (.given []) members := ⟨by rfl, by rfl, by rfl⟩
  obtain ⟨-, -, hsame, hagree, hrun⟩ :=
    @handle_agrees_runWith service call code (.given []) scanRequest exportRequest members
      rfl rfl rfl hscan hexport hasks
  obtain ⟨hstatus, -, hexit, -, -, -, -, hname⟩ :=
    hagree (by rw [hsize]; decide) (Json.isEncodable_ofString _) (Json.isEncodable_ofString _)
  have hread : Json.read call.input = .ok (.object members) := by
    simp only [call, input, members, code]
    exact Json.eq_ok_of_toOption (by decide +kernel)
  have hload : Settings.load call.environment = .ok service.settings := rfl
  refine ⟨hsize, hstatus, hsame.trans hstatus, ?_, hname⟩
  rw [hrun hread hload]
  exact hexit

end CodeScan
