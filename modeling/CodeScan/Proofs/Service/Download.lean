import CodeScan.Proofs.FrontEnds
import CodeScan.Proofs.Report.ExportName

/-!
# Downloads

One header of a response tells under which name it is to be saved.  Among all responses of the
service, those to requests that are refused included, only exports have it, and they have it with
the name of their report (`offersExports_handle`).  An export that is accepted does have it
(`handle_offers_export`).

So the value of that header is safe for every request as long as the identifiers of the session are
made of hexadecimal digits and hyphens, as random ones are.
-/

namespace CodeScan

namespace Service

/-- The name of the header that holds a download name. -/
def dispositionName : Text := "content-disposition"

/-- The value of that header for a download name. -/
def dispositionValue (name : Text) : Text := "attachment; filename=\"" ++ name ++ "\""

/-- A name of harmless characters makes a value that is safe in a header. -/
theorem isHeaderSafe_dispositionValue {name : Text}
    (hname : ∀ c ∈ name, isNameCharacter c = true) : IsHeaderSafe (dispositionValue name) := by
  have hfront : Text.IsAscii "attachment; filename=" := by decide
  exact isHeaderSafe_quoted hfront (by decide) hname

/-- Headers none of which holds a download name. -/
def OffersNone (headers : Headers) : Prop := ∀ header ∈ headers, header.1 ≠ dispositionName

/-- The only headers that hold a download name are those of exports of reports under identifiers of
the session. -/
def OffersExports (service : Service) (headers : Headers) : Prop :=
  ∀ value, (dispositionName, value) ∈ headers →
    ∃ (report : ScanReport) (n : Nat), report.id = service.session.identifier n ∧
      value = dispositionValue (ScanReport.exportName report.fileName report.id "json")

theorem offersNone_nil : OffersNone [] := List.forall_mem_nil _

/-- A header of another name may be put in front of headers without a download name. -/
theorem offersNone_cons {name text : Text} {headers : Headers} (hname : name ≠ dispositionName)
    (h : OffersNone headers) : OffersNone ((name, text) :: headers) :=
  List.forall_mem_cons.2 ⟨hname, h⟩

/-- Headers without a download name have none together either. -/
theorem OffersNone.append {headers more : Headers} (h : OffersNone headers)
    (hmore : OffersNone more) : OffersNone (headers ++ more) :=
  List.forall_mem_append.2 ⟨h, hmore⟩

/-- A JSON response has a download name only if one is given in its headers. -/
theorem offersNone_json (status : Nat) (body : Json) {headers : Headers}
    (h : OffersNone headers) : OffersNone (Response.json status body headers).headers :=
  offersNone_cons (by decide) h

theorem offersNone_text (status : Nat) (body : Text) {headers : Headers}
    (h : OffersNone headers) : OffersNone (Response.text status body headers).headers :=
  offersNone_cons (by decide) h

section

variable {service : Service} {request : Request} {reply : Reply} {headers more : Headers}
  {code : List Char} {hint : NameHint}

/-- Where nothing is offered, nothing but exports is. -/
theorem OffersNone.offersExports (h : OffersNone headers) : service.OffersExports headers :=
  fun _ hmem => absurd rfl (h _ hmem)

/-- Headers that offer only exports offer only exports together. -/
theorem OffersExports.append (h : service.OffersExports headers)
    (hmore : service.OffersExports more) : service.OffersExports (headers ++ more) :=
  fun value hmem => (List.mem_append.1 hmem).elim (h value) (hmore value)

/-! ### Responses to requests that are refused -/

/-- A refusal is the response itself. -/
theorem offersNone_of_error {α : Type} {refusal response : Response}
    (hnone : OffersNone refusal.headers)
    (h : (.error refusal : Except Response α) = .error response) : OffersNone response.headers :=
  Except.error.inj h ▸ hnone

/-- A body that cannot be read is refused without a download name. -/
theorem offersNone_of_bodyValue {response : Response} (h : bodyValue request = .error response) :
    OffersNone response.headers := by
  rw [bodyValue] at h
  split_ifs at h
  split at h
  · exact offersNone_of_error (offersNone_json _ _ offersNone_nil) h
  · exact offersNone_of_error (offersNone_json _ _ offersNone_nil) h
  · exact offersNone_of_error (offersNone_json _ _ offersNone_nil) h
  · cases h

/-- A body that is no request for a scan is refused without a download name. -/
theorem offersNone_of_scanRequest {response : Response}
    (h : scanRequest request = .error response) : OffersNone response.headers := by
  rw [scanRequest] at h
  cases hbody : bodyValue request with
  | error refusal =>
    obtain rfl : refusal = response := by simpa [hbody, bind, Except.bind] using h
    exact offersNone_of_bodyValue hbody
  | ok found =>
    simp only [hbody, bind, Except.bind] at h
    split at h
    · exact offersNone_of_error (offersNone_json _ _ offersNone_nil) h
    · split at h
      · cases h
      · exact offersNone_of_error (offersNone_json _ _ offersNone_nil) h
    · exact offersNone_of_error (offersNone_json _ _ offersNone_nil) h

/-- A scan gives a response without a download name, or a report under the next identifier. -/
theorem scan_outcome_cases (service : Service) (request : ScanRequest) :
    (∃ response, (service.scan request).outcome = .error response ∧
      OffersNone response.headers) ∨
    ∃ report, (service.scan request).outcome = .ok report ∧
      report.id = service.session.identifier service.serial := by
  cases hcode : request.code.chars? with
  | none =>
    simp only [scan, hcode]
    exact .inl ⟨_, rfl, offersNone_text _ _ offersNone_nil⟩
  | some code =>
    simp only [scan, hcode, ScanReport.build_string]
    split_ifs
    · exact .inl ⟨_, rfl, offersNone_json _ _ offersNone_nil⟩
    · cases service.outage with
      | some reason => exact .inl ⟨_, rfl, offersNone_json _ _ offersNone_nil⟩
      | none => exact .inr ⟨_, rfl, rfl⟩

/-- An export is offered under the name of its report. -/
theorem offersExports_exportResponse {report : ScanReport} {n : Nat}
    (h : report.id = service.session.identifier n) :
    service.OffersExports (service.exportResponse report).headers := by
  intro value hmem
  simp only [exportResponse, Response.json, List.mem_cons, List.not_mem_nil, or_false] at hmem
  rcases hmem with htype | hoffer
  · exact absurd (Prod.mk.inj htype).1 (by decide)
  · exact ⟨report, n, h, (Prod.mk.inj hoffer).2⟩

/-! ### All responses -/

/-- A route that scans offers only exports if its response to each report does. -/
theorem offersExports_scanning {respond : ScanReport → Response}
    (hrespond : ∀ report n, report.id = service.session.identifier n →
      service.OffersExports (respond report).headers) :
    service.OffersExports (service.scanning request respond).response.headers := by
  rw [scanning]
  cases hread : scanRequest request with
  | error refusal => exact (offersNone_of_scanRequest hread).offersExports
  | ok scanRequest =>
    rcases service.scan_outcome_cases scanRequest with
      ⟨response, houtcome, hnone⟩ | ⟨report, houtcome, hid⟩
    · simp only [houtcome]
      exact hnone.offersExports
    · simp only [houtcome]
      exact hrespond report _ hid

/-- Every route offers only exports. -/
theorem offersExports_serve (service : Service) (request : Request) (route : Route) :
    service.OffersExports (service.serve request route).response.headers := by
  cases route with
  | health => exact (offersNone_json _ _ offersNone_nil).offersExports
  | rules => exact (offersNone_json _ _ offersNone_nil).offersExports
  | scan =>
    exact offersExports_scanning fun _ _ _ => (offersNone_json _ _ offersNone_nil).offersExports
  | download => exact offersExports_scanning fun _ _ hid => offersExports_exportResponse hid

/-- So does the service for a path without a route and for a wrong method. -/
theorem offersExports_dispatch (service : Service) (request : Request) :
    service.OffersExports (service.dispatch request).response.headers := by
  simp only [dispatch]
  split
  · split
    · exact offersExports_serve service request _
    · exact (offersNone_json _ _ (offersNone_cons (by decide) offersNone_nil)).offersExports
  · split
    · exact (offersNone_cons (by decide) offersNone_nil).offersExports
    · exact (offersNone_json _ _ offersNone_nil).offersExports

/-- A body that cannot be sent is replaced by a response without a download name. -/
theorem offersExports_ensureSendable (h : service.OffersExports reply.response.headers) :
    service.OffersExports (ensureSendable reply).response.headers := by
  rw [ensureSendable]
  split
  · split
    · exact h
    · exact (offersNone_text _ _ offersNone_nil).offersExports
  · exact h

/-- Headers that are added later may offer only exports, too. -/
theorem offersExports_addHeaders (h : service.OffersExports reply.response.headers)
    (hmore : service.OffersExports more) :
    service.OffersExports (addHeaders more reply).response.headers := by
  rw [addHeaders]
  split
  · exact h
  · exact h.append hmore

/-- The headers for an origin that is allowed hold no download name. -/
theorem offersNone_allowOrigin (service : Service) (origin : Text) :
    OffersNone (service.allowOrigin origin) := by
  rw [allowOrigin]
  split
  · exact offersNone_cons (by decide) offersNone_nil
  · exact offersNone_nil

/-- A preflight request is answered without a download name, accepted or not. -/
theorem offersNone_preflight (service : Service) (request : Request) (origin method : Text) :
    OffersNone (service.preflight request origin method).headers := by
  unfold preflight
  extract_lets _ _ _ faults echoed fixed headers
  have hfixed : OffersNone fixed :=
    offersNone_cons (by decide) (offersNone_cons (by decide) offersNone_nil)
  have hechoed : OffersNone echoed := by
    simp only [echoed]
    split
    · exact offersNone_cons (by decide) offersNone_nil
    · exact offersNone_nil
  have hall : OffersNone headers :=
    (hfixed.append (offersNone_allowOrigin service origin)).append hechoed
  split
  · exact offersNone_text _ _ hall
  · exact offersNone_text _ _ hall

/-- The same, for a request that turns out to be a preflight request. -/
theorem offersNone_of_preflight? {response : Response}
    (h : service.preflight? request = some response) : OffersNone response.headers := by
  simp only [preflight?, bind, Option.bind_eq_some_iff] at h
  obtain ⟨origin, -, method, -, hresponse⟩ := h
  split at hresponse
  · obtain rfl := Option.some.inj hresponse
    exact offersNone_preflight service request origin method
  · cases hresponse

/-- A response that is sent without its body keeps its headers. -/
theorem headers_dropBody (request : Request) (reply : Reply) :
    (dropBody request reply).response.headers = reply.response.headers := by
  rw [dropBody]
  split <;> rfl

/-- Only exports are offered under a download name, and that name is the one of their report. -/
theorem offersExports_handle (service : Service) (request : Request) :
    service.OffersExports (service.handle request).response.headers := by
  simp only [handle, headers_dropBody]
  cases hpreflight : service.preflight? request with
  | some response => exact (offersNone_of_preflight? hpreflight).offersExports
  | none =>
    have hanswer := offersExports_ensureSendable (service.offersExports_dispatch request)
    dsimp only
    cases request.header? "origin" with
    | some origin =>
      exact offersExports_addHeaders hanswer (offersNone_allowOrigin service origin).offersExports
    | none => exact hanswer

/-! ### Exports -/

/-- What stands around the routes takes no header away from a posted request. -/
theorem mem_headers_handle_of_post {header : Text × Text} (h : request.verb = ("POST" : Text))
    (hmem : header ∈ (ensureSendable (service.dispatch request)).response.headers) :
    header ∈ (service.handle request).response.headers := by
  simp only [handle, service.preflight?_of_post h, dropBody_of_post h]
  cases request.header? "origin" with
  | none => exact hmem
  | some origin =>
    simp only [addHeaders]
    split
    · exact hmem
    · exact List.mem_append_left _ hmem

/-- Code that is posted for export is offered under the name of its report, unless it is too long or
the report cannot be sent. -/
theorem handle_offers_export (houtage : service.outage = none)
    (h : Posts .download code hint request)
    (hsize : ¬ service.settings.maxCodeBytes < Utf8.size code)
    (hsendable : (service.reportOn code hint).toJson.isSendable = true) :
    let name := hint.nameOr service.settings.defaultFileName
    let id := service.session.identifier service.serial
    (dispositionName, dispositionValue (ScanReport.exportName name id "json")) ∈
      (service.handle request).response.headers := by
  intro name id
  have hdispatch : service.dispatch request = service.scanning request service.exportResponse :=
    dispatch_of_posts h rfl rfl
  have hresponse := response_scanning houtage h service.exportResponse
  rw [if_neg hsize] at hresponse
  refine mem_headers_handle_of_post h.verb_eq ?_
  rw [hdispatch, ensureSendable_response (congrArg Response.body hresponse), hresponse,
    ScanReport.isSendable_exportPayload, if_pos hsendable]
  exact List.mem_cons_of_mem _ List.mem_cons_self

end

end Service

namespace ScanReport

variable {fileName id ext : Text}

/-- The name of an export is safe in a header, whatever file it is named after. -/
theorem isHeaderSafe_exportName (hid : IsIdentifier id) :
    IsHeaderSafe (Service.dispositionValue (exportName fileName id "json")) :=
  Service.isHeaderSafe_dispositionValue
    (isNameCharacter_of_mem_exportName hid (List.all_eq_true.1 (by decide)))

/-- A download name has only harmless characters.  It holds a text as long as the file name, with
the ASCII letters and digits of the file name in their places, and it tells the identifier.  So the
header of an export is safe, and with harmless identifiers no response has any other. -/
theorem exportName_isHarmless (hid : IsIdentifier id) (hext : IsExtension ext) :
    (∀ c ∈ exportName fileName id ext, isNameCharacter c = true) ∧
    (∃ safe : Text,
      exportName fileName id ext = "guardian-scan-report-" ++ safe ++ "-" ++ id ++ "." ++ ext ∧
        safe.length = fileName.length ∧
        ∀ (i : Nat) (x : Char), fileName[i]? = some (.char x) → x.isAlphanum = true →
          safe[i]? = some (.char x)) ∧
    (∀ otherName otherId : Text, otherId ≠ id →
      exportName otherName otherId ext ≠ exportName fileName id ext) ∧
    (∀ (service : Service) (report : ScanReport), report.fileName = fileName → report.id = id →
      let value := Service.dispositionValue (exportName fileName id "json")
      (service.exportResponse report).headers.lookup Service.dispositionName = some value ∧
        IsHeaderSafe value) ∧
    ∀ service : Service, (∀ n, IsIdentifier (service.session.identifier n)) →
      ∀ (request : Service.Request) (value : Text),
        (Service.dispositionName, value) ∈ (service.handle request).response.headers →
          IsHeaderSafe value := by
  refine ⟨isNameCharacter_of_mem_exportName hid hext, ?_, ?_, ?_, ?_⟩
  · exact ⟨sanitize fileName, rfl, length_sanitize fileName, fun _ _ => getElem?_sanitize⟩
  · exact fun _ _ hne hsame => hne (exportName_inj hsame)
  · rintro service report rfl rfl
    exact ⟨rfl, isHeaderSafe_exportName hid⟩
  · intro service hids request value hmem
    -- The only header of this name is the one that the export sets.
    obtain ⟨report, n, hreport, rfl⟩ := service.offersExports_handle request value hmem
    exact isHeaderSafe_exportName (hreport ▸ hids n)

/-- A file name with quotes, a line break, a slash, a hyphen and an accented letter, and two random
identifiers. -/
theorem exportName_isHarmless_randomIdentifier :
    let fileName : Text := "a\"\r\n/-é.js"
    let identifier (n : Nat) := Session.randomIdentifier (List.replicate 16 (UInt8.ofNat n))
    let session : Session := ⟨⟨2025, 1, 2, 3, 4, 5, 678901, some 0⟩, identifier⟩
    let service : Service := ⟨Settings.default, [], session, "localhost", 0, none⟩
    exportName fileName (identifier 0x5A) "json" =
        "guardian-scan-report-a_______js-5a5a5a5a-5a5a-4a5a-9a5a-5a5a5a5a5a5a.json" ∧
      exportName "a-b" (identifier 1) "json" ≠ exportName fileName (identifier 0x5A) "json" ∧
      (∀ report : ScanReport, report.fileName = fileName → report.id = identifier 0x5A →
        (service.exportResponse report).headers.lookup Service.dispositionName =
          some (Service.dispositionValue (exportName fileName (identifier 0x5A) "json"))) ∧
      ∀ (request : Service.Request) (value : Text),
        (Service.dispositionName, value) ∈ (service.handle request).response.headers →
          IsHeaderSafe value := by
  intro fileName identifier session service
  have hids (n : Nat) : IsIdentifier (service.session.identifier n) := by
    dsimp only [service, session]
    exact isIdentifier_randomIdentifier _
  have hid : IsIdentifier (identifier 0x5A) := isIdentifier_randomIdentifier _
  have hext : IsExtension "json" := List.all_eq_true.1 (by decide)
  obtain ⟨-, -, hdiffer, hexport, hhandle⟩ :=
    @exportName_isHarmless fileName (identifier 0x5A) "json" hid hext
  refine ⟨by decide +kernel, ?_, ?_, hhandle service hids⟩
  · exact hdiffer "a-b" (identifier 1) (by decide +kernel)
  · exact fun report hname hid => (hexport service report hname hid).1

end ScanReport

end CodeScan
