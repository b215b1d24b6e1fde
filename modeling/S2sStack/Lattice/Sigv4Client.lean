import S2sStack.Js.Number
import S2sStack.Js.Record
import S2sStack.Service.Transport

set_option autoImplicit false

/- `sigv4Client.ts`: a request is rebuilt, signed and handed to `fetch`. -/
namespace S2s

open Js (HeaderRecord Number)

/-- `LatticeRequestInput`; no object has two properties of one name. -/
structure LatticeRequestInput where
  url : String
  method : String
  headers : HeaderRecord
  body : Option String
  distinct : (headers.map Prod.fst).Nodup

/-- `record[name] = value`; a text cannot become the prototype of the record. -/
def setField (record : HeaderRecord) (name value : String) : HeaderRecord :=
  if name = "__proto__" then record else record.assign name value

def setFields (record : HeaderRecord) (fields : List (String × String)) : HeaderRecord :=
  fields.foldl (fun built field => setField built field.1 field.2) record

/-- The `HttpRequest` that is signed; its path begins with a slash. -/
structure HttpRequest where
  protocol : String
  hostname : String
  method : String
  path : String
  query : HeaderRecord
  headers : HeaderRecord
  port : Option Number
  body : Option String

/-- A URL that `fetch` sends to. -/
def LatticeUrl.IsWeb (url : LatticeUrl) : Prop := url.protocol = "http:" ∨ url.protocol = "https:"

/-- An optional query behind a path. -/
def withSearch (text search : String) : String :=
  text ++ (if search = "" then "" else "?" ++ search)

/-- `URL` and `URLSearchParams`. A URL that is put together from the parts of another one has
these parts, and the search parameters that are serialized into it. -/
structure UrlLibrary where
  parse : String → Option LatticeUrl
  searchText : List (String × String) → String
  parse_parts : ∀ text url, parse text = some url → url.IsWeb →
    ∀ params, (params.map Prod.fst).Nodup → params ⊆ url.searchParams →
      parse (withSearch (url.protocol ++ "//" ++ url.host ++ url.pathname) (searchText params)) =
        some { url with searchParams := params }

/-- `SignatureV4`: the headers that it adds to a request, or a failure, and the headers of the
caller that it removes first. The names it adds are in lower case, and `host` is none of them. -/
structure Signer where
  added : HttpRequest → Except Fault HeaderRecord
  removes : String → Bool
  lower : ∀ request own, added request = .ok own →
    ∀ field ∈ own, Js.toLowerCase field.1 = field.1
  distinct : ∀ request own, added request = .ok own → (own.map Prod.fst).Nodup
  notHost : ∀ request own, added request = .ok own → "host" ∉ own.map Prod.fst
  keepsHost : removes "host" = false

/-- `signer.sign(request)`: the names it looks for are in any letter case. -/
def Signer.sign (S : Signer) (request : HttpRequest) : Except Fault HttpRequest :=
  (S.added request).map fun own =>
    { request with
      headers := HeaderRecord.spread
        (request.headers.filter fun field => !S.removes (Js.toLowerCase field.1)) own }

def httpRequest (url : LatticeUrl) (input : LatticeRequestInput) : HttpRequest where
  protocol := url.protocol
  hostname := url.hostname
  method := Js.toUpperCase input.method
  path := url.pathname
  query := setFields [] url.searchParams
  headers := setFields [("host", url.host)] input.headers
  port := if url.port = "" then none else some (Js.toNumber url.port)
  body := input.body

/-- What `fetchImpl` is called with. -/
structure LatticeRequest where
  url : String
  method : String
  headers : HeaderRecord
  body : Option String

def finalUrl (U : UrlLibrary) (url : LatticeUrl) (signed : HttpRequest) : String :=
  withSearch (signed.protocol ++ "//" ++ url.host ++ signed.path)
    (U.searchText (Js.objectEntries signed.query))

def createLatticeFetch (U : UrlLibrary) (S : Signer) (input : LatticeRequestInput) :
    Except Fault LatticeRequest :=
  match U.parse input.url with
  | none => .error (plainError "Invalid URL")
  | some url =>
      (S.sign (httpRequest url input)).map fun signed =>
        { url := finalUrl U url signed
          method := signed.method
          headers := signed.headers
          body := input.body }

/-- The signed request of the two outbound calls, which always have a body. -/
def HttpRequest.signable (url : LatticeUrl) (body : String) (request : HttpRequest) :
    SignableRequest where
  protocol := request.protocol
  hostname := request.hostname
  method := request.method
  path := request.path
  query := request.query.map fun param => (param.1, [param.2])
  headers := request.headers
  port := if url.port = "" then none else some url.port
  body := body

/-- The fields that an assignment can set. -/
def ownFields (fields : List (String × String)) : List (String × String) :=
  fields.filter fun field => field.1 ≠ "__proto__"

theorem setFields_eq (record : HeaderRecord) (fields : List (String × String)) :
    setFields record fields = HeaderRecord.spread record (ownFields fields) := by
  induction fields generalizing record with
  | nil => rfl
  | cons field rest ih =>
      have step : setFields record (field :: rest) =
          setFields (setField record field.1 field.2) rest := rfl
      rw [step, ih, setField]
      by_cases prototype : field.1 = "__proto__"
      · simp [ownFields, prototype]
      · simp [ownFields, prototype, HeaderRecord.spread]

theorem ownFields_of_settable {fields : List (String × String)}
    (settable : ∀ field ∈ fields, field.1 ≠ "__proto__") : ownFields fields = fields := by
  apply List.filter_eq_self.mpr
  intro field inside
  exact decide_eq_true (settable field inside)

/-- For a URL without search parameters this is the client under the two outbound calls. -/
theorem latticeFetch_eq {U : UrlLibrary} {S : Signer} {L : LatticeLibrary}
    {input : LatticeRequestInput} {url : LatticeUrl} {body : String}
    (parses : L.parseUrl = U.parse) (serializes : L.searchText = U.searchText)
    (signs : ∀ request : HttpRequest, L.sign (request.signable url body) =
      (S.sign request).map (HttpRequest.signable url body))
    (parsed : U.parse input.url = some url) (searchless : url.searchParams = [])
    (given : input.body = some body)
    (settable : ∀ field ∈ input.headers, field.1 ≠ "__proto__") :
    latticeFetch L ⟨input.method, input.url, input.headers, body⟩ =
      (createLatticeFetch U S input).map fun sent =>
        ⟨sent.method, sent.url, sent.headers, sent.body.getD ""⟩ := by
  have headers : (httpRequest url input).headers =
      HeaderRecord.spread [("host", url.host)] input.headers := by
    change setFields [("host", url.host)] input.headers = _
    rw [setFields_eq, ownFields_of_settable settable]
  have same : signableRequest url ⟨input.method, input.url, input.headers, body⟩ =
      (httpRequest url input).signable url body := by
    simp only [signableRequest, HttpRequest.signable, headers]
    simp [httpRequest, searchless, setFields, HeaderRecord.spread]
  rw [latticeFetch, createLatticeFetch, parses, parsed]
  simp only
  rw [same, signs, Signer.sign]
  cases S.added (httpRequest url input) with
  | error fault => rfl
  | ok own =>
      simp [Except.map, reassemble, HttpRequest.signable, finalUrl, withSearch, serializes,
        httpRequest, searchless, setFields, Js.objectEntries, given]

end S2s
