import S2sStack.Js.Fields
import S2sStack.Lattice.Sigv4Client

set_option autoImplicit false

/- When the Lattice client sends the request it was given. -/
namespace S2s

open Js (HeaderRecord)

variable {U : UrlLibrary} {S : Signer} {url : LatticeUrl} {input : LatticeRequestInput}
  {own : HeaderRecord}

/-- What is sent has the path, the search parameters and the body that were given, and one header
for each name, whatever its letter case, `host` among them. -/
structure SentAsGiven (U : UrlLibrary) (url : LatticeUrl) (input : LatticeRequestInput)
    (sent : LatticeRequest) : Prop where
  reached : ∃ parsed, U.parse sent.url = some parsed ∧ parsed.pathname = url.pathname ∧
    parsed.searchParams.Perm url.searchParams
  body : sent.body = input.body
  unique : (sent.headers.map fun field => Js.toLowerCase field.1).Nodup
  host : sent.headers.valuesOf "host" = [url.host]

/-- The caller's headers that are sent. -/
def forwarded (S : Signer) (headers : HeaderRecord) : HeaderRecord :=
  (ownFields headers).filter fun field => !S.removes (Js.toLowerCase field.1)

/-- No parameter and no header takes the place of another one, or stands beside one that differs
from it in letter case only. -/
structure OnePlaceEach (S : Signer) (url : LatticeUrl) (input : LatticeRequestInput)
    (own : HeaderRecord) : Prop where
  parameters : (url.searchParams.map Prod.fst).Nodup
  settable : "__proto__" ∉ url.searchParams.map Prod.fst
  headers : ∀ one ∈ forwarded S input.headers, ∀ other ∈ forwarded S input.headers,
    Js.toLowerCase one.1 = Js.toLowerCase other.1 → one.1 = other.1
  authority : ∀ field ∈ input.headers, Js.toLowerCase field.1 = "host" → field = ("host", url.host)
  signature : ∀ field ∈ forwarded S input.headers,
    Js.toLowerCase field.1 ∈ own.map Prod.fst → field.1 = Js.toLowerCase field.1

section Records

/-- A record keeps the parameters of a URL exactly where their names differ and can be set. -/
theorem setFields_perm_iff {fields : List (String × String)} :
    (setFields [] fields).Perm fields ↔
      (fields.map Prod.fst).Nodup ∧ "__proto__" ∉ fields.map Prod.fst := by
  rw [setFields_eq]
  constructor
  · intro same
    have names := same.map Prod.fst
    have distinct : ((HeaderRecord.spread [] (ownFields fields)).map Prod.fst).Nodup :=
      HeaderRecord.nodup_spread List.nodup_nil
    refine ⟨names.nodup_iff.mp distinct, ?_⟩
    intro prototype
    rcases HeaderRecord.mem_names_spread_iff.mp (names.mem_iff.mpr prototype) with none | kept
    · cases none
    · obtain ⟨field, inside, here⟩ := List.mem_map.mp kept
      have settable := (List.mem_filter.mp inside).2
      rw [here] at settable
      simp at settable
  · intro ⟨distinct, settable⟩
    have all : ownFields fields = fields := by
      apply ownFields_of_settable
      intro field inside prototype
      exact settable (prototype ▸ List.mem_map_of_mem inside)
    have whole : HeaderRecord.spread [] fields = [] ++ fields :=
      HeaderRecord.spread_of_nodup distinct
    rw [all, whole, List.nil_append]

/-- What a record keeps of fields are some of them. -/
theorem setFields_subset (fields : List (String × String)) : setFields [] fields ⊆ fields := by
  intro field member
  rw [setFields_eq] at member
  rcases HeaderRecord.mem_of_mem_spread member with none | kept
  · cases none
  · exact List.mem_of_mem_filter kept

theorem setFields_nodup {record : HeaderRecord} (distinct : (record.map Prod.fst).Nodup)
    (fields : List (String × String)) : ((setFields record fields).map Prod.fst).Nodup := by
  rw [setFields_eq]
  exact HeaderRecord.nodup_spread distinct

end Records

section Headers

/-- The headers before the signer adds its own. -/
def unsignedHeaders (S : Signer) (url : LatticeUrl) (input : LatticeRequestInput) : HeaderRecord :=
  (setFields [("host", url.host)] input.headers).filter
    fun field => !S.removes (Js.toLowerCase field.1)

theorem host_lower : Js.toLowerCase "host" = "host" := by decide

theorem ownFields_nodup (input : LatticeRequestInput) :
    ((ownFields input.headers).map Prod.fst).Nodup :=
  input.distinct.sublist (List.filter_sublist.map _)

/-- The forwarded headers of the caller, and `host` where the caller does not give it. -/
theorem mem_unsignedHeaders_iff {field : String × String} :
    field ∈ unsignedHeaders S url input ↔ field ∈ forwarded S input.headers ∨
      field = ("host", url.host) ∧ "host" ∉ (ownFields input.headers).map Prod.fst := by
  have alone : (List.map Prod.fst [("host", url.host)]).Nodup := List.nodup_singleton "host"
  rw [unsignedHeaders, List.mem_filter, setFields_eq,
    HeaderRecord.mem_spread_iff alone (ownFields_nodup input), forwarded, List.mem_filter,
    List.mem_singleton]
  constructor
  · rintro ⟨given | ⟨rfl, absent⟩, kept⟩
    · exact .inl ⟨given, kept⟩
    · exact .inr ⟨rfl, absent⟩
  · rintro (⟨given, kept⟩ | ⟨rfl, absent⟩)
    · exact ⟨.inl given, kept⟩
    · refine ⟨.inr ⟨rfl, absent⟩, ?_⟩
      rw [host_lower, S.keepsHost]
      rfl

theorem unsignedHeaders_nodup : ((unsignedHeaders S url input).map Prod.fst).Nodup := by
  have alone : (List.map Prod.fst [("host", url.host)]).Nodup := List.nodup_singleton "host"
  exact (setFields_nodup alone input.headers).sublist (List.filter_sublist.map _)

theorem fields_nodup (S : Signer) (url : LatticeUrl) (input : LatticeRequestInput)
    (own : HeaderRecord) :
    ((HeaderRecord.spread (unsignedHeaders S url input) own).map Prod.fst).Nodup :=
  HeaderRecord.nodup_spread unsignedHeaders_nodup

/-- A header named `host` is not removed. -/
theorem forwarded_of_host {field : String × String} (given : field ∈ input.headers)
    (host : Js.toLowerCase field.1 = "host") : field ∈ forwarded S input.headers := by
  have settable : field.1 ≠ "__proto__" := by
    intro prototype
    rw [prototype] at host
    revert host
    decide
  refine List.mem_filter.mpr ⟨List.mem_filter.mpr ⟨given, decide_eq_true settable⟩, ?_⟩
  rw [host, S.keepsHost]
  rfl

/-- Either the caller's `host` is sent or that of the URL. -/
theorem exists_host (S : Signer) (url : LatticeUrl) (input : LatticeRequestInput) :
    ∃ value, ("host", value) ∈ unsignedHeaders S url input ∧
      (value = url.host ∨ ("host", value) ∈ input.headers) := by
  by_cases given : "host" ∈ (ownFields input.headers).map Prod.fst
  · obtain ⟨⟨name, value⟩, inside, rfl⟩ := List.mem_map.mp given
    have member := List.mem_of_mem_filter inside
    exact ⟨value, mem_unsignedHeaders_iff.mpr (.inl (forwarded_of_host member host_lower)),
      .inr member⟩
  · exact ⟨url.host, mem_unsignedHeaders_iff.mpr (.inr ⟨rfl, given⟩), .inl rfl⟩

theorem unsigned_name {name : String}
    (member : name ∈ (unsignedHeaders S url input).map Prod.fst) :
    name ∈ (forwarded S input.headers).map Prod.fst ∨ name = "host" := by
  obtain ⟨field, inside, rfl⟩ := List.mem_map.mp member
  rcases mem_unsignedHeaders_iff.mp inside with sent | ⟨rfl, _⟩
  · exact .inl (List.mem_map_of_mem sent)
  · exact .inr rfl

/-- Names of different headers differ in more than letter case. -/
def OneCase (names : List String) : Prop :=
  ∀ one ∈ names, ∀ other ∈ names, Js.toLowerCase one = Js.toLowerCase other → one = other

theorem oneCase_iff {record : HeaderRecord} (distinct : (record.map Prod.fst).Nodup) :
    (record.map fun field => Js.toLowerCase field.1).Nodup ↔ OneCase (record.map Prod.fst) := by
  have lowered : (record.map fun field => Js.toLowerCase field.1) =
      (record.map Prod.fst).map Js.toLowerCase := by
    rw [List.map_map]
    rfl
  rw [lowered, List.nodup_map_iff_inj_on distinct, OneCase]

theorem own_lower (signs : S.added (httpRequest url input) = .ok own) {name : String}
    (member : name ∈ own.map Prod.fst) : Js.toLowerCase name = name := by
  obtain ⟨field, inside, rfl⟩ := List.mem_map.mp member
  exact S.lower _ own signs field inside

/-- The names that are sent differ in more than letter case exactly where those do that the caller
gives, the URL's `host` and the signer's own names included. -/
theorem oneCase_sent_iff (signs : S.added (httpRequest url input) = .ok own) :
    OneCase ((HeaderRecord.spread (unsignedHeaders S url input) own).map Prod.fst) ↔
      OneCase ((forwarded S input.headers).map Prod.fst) ∧
      (∀ field ∈ input.headers, Js.toLowerCase field.1 = "host" → field.1 = "host") ∧
      ∀ field ∈ forwarded S input.headers,
        Js.toLowerCase field.1 ∈ own.map Prod.fst → field.1 = Js.toLowerCase field.1 := by
  have notHost := S.notHost _ own signs
  have ofForwarded {name : String} (member : name ∈ (forwarded S input.headers).map Prod.fst) :
      name ∈ (HeaderRecord.spread (unsignedHeaders S url input) own).map Prod.fst := by
    obtain ⟨field, inside, rfl⟩ := List.mem_map.mp member
    apply HeaderRecord.mem_names_spread_iff.mpr
    exact .inl (List.mem_map_of_mem (mem_unsignedHeaders_iff.mpr (.inl inside)))
  constructor
  · intro oneCase
    refine ⟨?_, ?_, ?_⟩
    · intro one first other second
      exact oneCase one (ofForwarded first) other (ofForwarded second)
    · intro field given host
      obtain ⟨value, sent, _⟩ := exists_host S url input
      have named : "host" ∈ (unsignedHeaders S url input).map Prod.fst := List.mem_map_of_mem sent
      apply oneCase field.1 (ofForwarded (List.mem_map_of_mem (forwarded_of_host given host)))
        "host" (HeaderRecord.mem_names_spread_iff.mpr (.inl named))
      rw [host, host_lower]
    · intro field inside signed
      apply oneCase field.1 (ofForwarded (List.mem_map_of_mem inside)) _
        (HeaderRecord.mem_names_spread_iff.mpr (.inr signed))
      rw [own_lower signs signed]
  · intro ⟨among, authority, signature⟩
    -- A name of the caller, or the URL's `host`, beside a name of the signer.
    have beside {name signed : String}
        (sent : name ∈ (forwarded S input.headers).map Prod.fst ∨ name = "host")
        (added : signed ∈ own.map Prod.fst) (same : Js.toLowerCase name = signed) :
        name = signed := by
      rcases sent with inside | rfl
      · obtain ⟨field, member, rfl⟩ := List.mem_map.mp inside
        rw [signature field member (same ▸ added), same]
      · rw [host_lower] at same
        exact same
    intro one first other second same
    rcases HeaderRecord.mem_names_spread_iff.mp first with sent | added
    · rcases HeaderRecord.mem_names_spread_iff.mp second with sent' | added'
      · rcases unsigned_name sent with inside | rfl
        · rcases unsigned_name sent' with inside' | rfl
          · exact among one inside other inside' same
          · obtain ⟨field, member, rfl⟩ := List.mem_map.mp inside
            have given := List.mem_of_mem_filter (List.mem_of_mem_filter member)
            exact authority field given (same.trans host_lower)
        · rcases unsigned_name sent' with inside' | rfl
          · obtain ⟨field, member, rfl⟩ := List.mem_map.mp inside'
            have given := List.mem_of_mem_filter (List.mem_of_mem_filter member)
            exact (authority field given (same.symm.trans host_lower)).symm
          · rfl
      · exact beside (unsigned_name sent) added' (same.trans (own_lower signs added'))
    · rcases HeaderRecord.mem_names_spread_iff.mp second with sent' | added'
      · exact (beside (unsigned_name sent') added (same.symm.trans (own_lower signs added))).symm
      · rw [own_lower signs added, own_lower signs added'] at same
        exact same

/-- Among names of one case, the one `host` that is sent is the URL's exactly where the caller
gives no other. -/
theorem host_sent_iff (signs : S.added (httpRequest url input) = .ok own)
    (oneCase : OneCase ((HeaderRecord.spread (unsignedHeaders S url input) own).map Prod.fst)) :
    (HeaderRecord.spread (unsignedHeaders S url input) own).valuesOf "host" = [url.host] ↔
      ∀ value, ("host", value) ∈ input.headers → value = url.host := by
  have unique := (oneCase_iff (HeaderRecord.nodup_spread unsignedHeaders_nodup)).mpr oneCase
  have sent {value : String} (unsigned : ("host", value) ∈ unsignedHeaders S url input) :
      (HeaderRecord.spread (unsignedHeaders S url input) own).valuesOf "host" = [value] := by
    have member : ("host", value) ∈ HeaderRecord.spread (unsignedHeaders S url input) own :=
      (HeaderRecord.mem_spread_iff unsignedHeaders_nodup (S.distinct _ own signs)).mpr
        (.inr ⟨unsigned, S.notHost _ own signs⟩)
    have values := HeaderRecord.valuesOf_of_unique unique member
    rw [host_lower] at values
    exact values
  constructor
  · intro host value given
    have unsigned : ("host", value) ∈ unsignedHeaders S url input :=
      mem_unsignedHeaders_iff.mpr (.inl (forwarded_of_host given host_lower))
    rw [sent unsigned] at host
    exact List.singleton_inj.mp host
  · intro same
    obtain ⟨value, unsigned, origin⟩ := exists_host S url input
    rw [sent unsigned]
    rcases origin with here | given
    · rw [here]
    · rw [same value given]

end Headers

/-- The request that is sent with what the signer adds. -/
def sentRequest (U : UrlLibrary) (S : Signer) (url : LatticeUrl) (input : LatticeRequestInput)
    (own : HeaderRecord) : LatticeRequest where
  url := withSearch (url.protocol ++ "//" ++ url.host ++ url.pathname)
    (U.searchText (Js.objectEntries (setFields [] url.searchParams)))
  method := Js.toUpperCase input.method
  headers := HeaderRecord.spread (unsignedHeaders S url input) own
  body := input.body

theorem createLatticeFetch_sends (parsed : U.parse input.url = some url)
    (signs : S.added (httpRequest url input) = .ok own) :
    createLatticeFetch U S input = .ok (sentRequest U S url input own) := by
  rw [createLatticeFetch, parsed]
  simp only [Signer.sign, signs]
  rfl

/-- What the URL that is sent is parsed to. -/
theorem parse_sent (parsed : U.parse input.url = some url) (web : url.IsWeb) :
    U.parse (sentRequest U S url input own).url =
      some { url with searchParams := Js.objectEntries (setFields [] url.searchParams) } := by
  have same := Js.objectEntries_perm (setFields [] url.searchParams)
  have none : (([] : HeaderRecord).map Prod.fst).Nodup := List.nodup_nil
  have distinct := setFields_nodup none url.searchParams
  apply U.parse_parts input.url url parsed web
  · exact (same.map Prod.fst).nodup_iff.mpr distinct
  · intro field member
    exact setFields_subset url.searchParams (same.mem_iff.mp member)

/-- A request is sent as it was given exactly where no parameter or header takes the place of
another one or stands beside one that differs in letter case only. -/
theorem sentAsGiven_iff (U : UrlLibrary) (S : Signer) (input : LatticeRequestInput)
    {url : LatticeUrl} (parsed : U.parse input.url = some url) (web : url.IsWeb)
    {own : HeaderRecord} (signs : S.added (httpRequest url input) = .ok own) :
    ∃ sent, createLatticeFetch U S input = .ok sent ∧
      (SentAsGiven U url input sent ↔ OnePlaceEach S url input own) := by
  refine ⟨_, createLatticeFetch_sends parsed signs, ?_⟩
  have same := Js.objectEntries_perm (setFields [] url.searchParams)
  have unique := oneCase_iff (fields_nodup S url input own)
  constructor
  · intro given
    obtain ⟨reparsed, found, _, kept⟩ := given.reached
    rw [parse_sent parsed web, Option.some.injEq] at found
    rw [← found] at kept
    obtain ⟨parameters, settable⟩ := setFields_perm_iff.mp (same.symm.trans kept)
    have oneCase := unique.mp given.unique
    obtain ⟨among, authority, signature⟩ := (oneCase_sent_iff signs).mp oneCase
    have host := (host_sent_iff signs oneCase).mp given.host
    refine ⟨parameters, settable, ?_, ?_, signature⟩
    · intro one first other second
      exact among one.1 (List.mem_map_of_mem first) other.1 (List.mem_map_of_mem second)
    · intro field member lower
      have named := authority field member lower
      exact Prod.ext named (host field.2 (named ▸ member))
  · intro clear
    have oneCase : OneCase ((sentRequest U S url input own).headers.map Prod.fst) := by
      apply (oneCase_sent_iff signs).mpr
      refine ⟨?_, ?_, clear.signature⟩
      · intro name first name' second
        obtain ⟨one, inside, rfl⟩ := List.mem_map.mp first
        obtain ⟨other, inside', rfl⟩ := List.mem_map.mp second
        exact clear.headers one inside other inside'
      · intro field member lower
        rw [clear.authority field member lower]
    refine ⟨⟨_, parse_sent parsed web, rfl, ?_⟩, rfl, unique.mpr oneCase, ?_⟩
    · exact same.trans (setFields_perm_iff.mpr ⟨clear.parameters, clear.settable⟩)
    · apply (host_sent_iff signs oneCase).mpr
      intro value member
      exact congrArg Prod.snd (clear.authority ("host", value) member host_lower)

section Examples

def thingsUrl (params : List (String × String)) : LatticeUrl where
  protocol := "https:"
  host := "things.example"
  pathname := "/v1/things"
  hostname := "things.example"
  port := ""
  searchParams := params

/-- The serialization of parameters that need no escapes. -/
def plainSearch (params : List (String × String)) : String :=
  "&".intercalate (params.map fun param => param.1 ++ "=" ++ param.2)

def thingsText (params : List (String × String)) : String :=
  withSearch ("https:" ++ "//" ++ "things.example" ++ "/v1/things") (plainSearch params)

def knownParams : List (List (String × String)) :=
  [[], [("id", "1")], [("id", "2")], [("id", "1"), ("id", "2")]]

def parseThings (text : String) : Option LatticeUrl :=
  (knownParams.find? fun params => text = thingsText params).map thingsUrl

theorem find_known : ∀ params ∈ knownParams,
    knownParams.find? (fun other => thingsText params = thingsText other) = some params := by
  decide +kernel

theorem parseThings_known {text : String} {params : List (String × String)}
    (same : text = thingsText params) (known : params ∈ knownParams) :
    parseThings text = some (thingsUrl params) := by
  rw [parseThings, same, find_known params known]
  rfl

theorem known_of_nodup {params : List (String × String)} (distinct : (params.map Prod.fst).Nodup)
    (known : params ⊆ [("id", "1"), ("id", "2")]) :
    params = [] ∨ params = [("id", "1")] ∨ params = [("id", "2")] := by
  have named (param : String × String) (member : param ∈ params) :
      param = ("id", "1") ∨ param = ("id", "2") := by
    simpa using known member
  cases params with
  | nil => exact .inl rfl
  | cons first rest =>
      cases rest with
      | nil =>
          rcases named first List.mem_cons_self with rfl | rfl
          · exact .inr (.inl rfl)
          · exact .inr (.inr rfl)
      | cons second rest =>
          have ids (param : String × String) (member : param ∈ first :: second :: rest) :
              param.1 = "id" := by
            rcases named param member with rfl | rfl
            · rfl
            · rfl
          rw [List.map_cons, List.map_cons, ids first List.mem_cons_self,
            ids second (List.mem_cons_of_mem _ List.mem_cons_self)] at distinct
          simp at distinct

def thingsLibrary : UrlLibrary where
  parse := parseThings
  searchText := plainSearch
  parse_parts := by
    intro text url parsed _ params distinct within
    obtain ⟨given, found, rfl⟩ := Option.map_eq_some_iff.mp parsed
    have among : ∀ given ∈ knownParams, given ⊆ [("id", "1"), ("id", "2")] := by decide
    have known := among given (List.mem_of_find?_eq_some found)
    apply parseThings_known rfl
    rcases known_of_nodup distinct fun param member => known (within member) with rfl | rfl | rfl
    · decide
    · decide
    · decide

/-- A signer that adds its date and its credential. -/
def dateSigner : Signer where
  added _ := .ok [("x-amz-date", "20260101T000000Z"), ("authorization", "AWS4-HMAC-SHA256 task")]
  removes name := ["authorization", "x-amz-date", "date"].contains name
  lower := by
    intro request own added
    cases added
    decide
  distinct := by
    intro request own added
    cases added
    decide
  notHost := by
    intro request own added
    cases added
    decide
  keepsHost := by decide

def jsonRequest : LatticeRequestInput where
  url := "https://things.example/v1/things?id=1"
  method := "post"
  headers := [("Content-Type", "application/json")]
  body := some "\x7b\x7d"
  distinct := by decide

theorem jsonRequest_asGiven :
    ∃ sent, createLatticeFetch thingsLibrary dateSigner jsonRequest = .ok sent ∧
      SentAsGiven thingsLibrary (thingsUrl [("id", "1")]) jsonRequest sent := by
  have text : jsonRequest.url = thingsText [("id", "1")] := by decide +kernel
  have parsed : thingsLibrary.parse jsonRequest.url = some (thingsUrl [("id", "1")]) :=
    parseThings_known text (by decide)
  obtain ⟨sent, run, asGiven⟩ := sentAsGiven_iff thingsLibrary dateSigner jsonRequest parsed
    (.inr rfl) rfl
  refine ⟨sent, run, asGiven.mpr ⟨?_, ?_, ?_, ?_, ?_⟩⟩
  · decide
  · decide
  · decide +kernel
  · decide +kernel
  · decide +kernel

/-- One parameter twice, and one header in two letter cases. -/
def repeatedRequest : LatticeRequestInput where
  url := "https://things.example/v1/things?id=1&id=2"
  method := "GET"
  headers := [("accept", "text/html"), ("Accept", "application/json")]
  body := none
  distinct := by decide

theorem repeatedRequest_altered :
    ∃ sent, createLatticeFetch thingsLibrary dateSigner repeatedRequest = .ok sent ∧
      sent.url = "https://things.example/v1/things?id=2" ∧
      ¬ (sent.headers.map fun field => Js.toLowerCase field.1).Nodup ∧
      ¬ SentAsGiven thingsLibrary (thingsUrl [("id", "1"), ("id", "2")]) repeatedRequest sent := by
  have text : repeatedRequest.url = thingsText [("id", "1"), ("id", "2")] := by decide +kernel
  have parsed : thingsLibrary.parse repeatedRequest.url =
      some (thingsUrl [("id", "1"), ("id", "2")]) := parseThings_known text (by decide)
  have doubled : ¬ ((sentRequest thingsLibrary dateSigner (thingsUrl [("id", "1"), ("id", "2")])
      repeatedRequest [("x-amz-date", "20260101T000000Z"),
        ("authorization", "AWS4-HMAC-SHA256 task")]).headers.map
          fun field => Js.toLowerCase field.1).Nodup := by decide +kernel
  refine ⟨_, createLatticeFetch_sends parsed rfl, by decide +kernel, doubled, ?_⟩
  intro asGiven
  exact doubled asGiven.unique

end Examples

end S2s
