import PackageIndex.Proofs.Catalog.Documents
import PackageIndex.Proofs.Crawl.Conclusions
import PackageIndex.Proofs.Fetch
import PackageIndex.Proofs.Json.Bytes
/-!
A document that goes to the document service and comes back. The service finds the stored document
in the request as it is, and what tells of a document is read as this document. A service that
sends back what it was sent therefore changes no document, and a refresh with it concludes that
the package was not modified.
-/
namespace PackageIndex

namespace DocumentService

variable {transport : Http.Transport} {base : String} {request : FetchRequest} {reply : Http.Reply}
  {d : Document}

/-- What the service answers to a text that is sent to it. -/
def post (transport : Http.Transport) (base : String) (cs : List Char) : Except Cause Http.Reply :=
  Http.send transport "POST" (Http.trimBase base ++ "/fetch")
    [("accept", "*/*"), ("content-type", "application/json")] (String.ofList cs)

/-- The service answers a request that gives a stored document with this document. -/
def Echoes (transport : Http.Transport) (base : String) : Prop :=
  ∀ cs d, FetchRequest.priorIn? cs = some d → ∃ reply, post transport base cs = .ok reply ∧
    Http.isSuccess reply.status = true ∧ d.ToldBy (Json.characters reply.body)

theorem interpret_of_toldBy (hsuccess : Http.isSuccess reply.status = true)
    (htold : d.ToldBy (Json.characters reply.body)) : interpret request reply = .ok (some d) := by
  have hrange : 200 ≤ reply.status ∧ reply.status < 300 := by
    simpa [Http.isSuccess] using hsuccess
  have hmissing : reply.status ≠ 404 := by omega
  have hunchanged : reply.status ≠ 304 := by omega
  simp only [interpret, if_neg hmissing, if_neg hunchanged, if_pos hsuccess, htold.ofJson?]

theorem fetcher_of_toldBy (hreply : exchange transport base request = .ok reply)
    (hsuccess : Http.isSuccess reply.status = true) (htold : d.ToldBy (Json.characters reply.body)) :
    fetcher transport base request = .ok (some d) := by
  rw [fetcher, fetch_of_exchange_ok hreply, interpret_of_toldBy hsuccess htold]

theorem Echoes.fetcher (h : Echoes transport base) (hprior : request.prior = some d) :
    fetcher transport base request = .ok (some d) := by
  rw [← request.priorIn?_toJson] at hprior
  obtain ⟨reply, hreply, hsuccess, htold⟩ := h _ _ hprior
  exact fetcher_of_toldBy hreply hsuccess htold

/-- Requests can be sent to the service. -/
def IsSendable (base : String) : Prop :=
  ∃ url, Http.Url.parse? (Http.trimBase base ++ "/fetch").toList = some url ∧ url.isSendable = true

theorem IsSendable.post_eq_ok (h : IsSendable base) (cs : List Char) :
    ∃ http : Http.Request, http.body = String.ofList cs ∧ ∀ transport reply,
      transport http = some reply → post transport base cs = .ok reply := by
  obtain ⟨url, hparse, hsendable⟩ := h
  refine ⟨{ method := "POST", target := String.ofList url.target
            host := String.ofList url.authority
            headers := [("accept", "*/*"), ("content-type", "application/json"),
              ("user-agent", Http.userAgent)]
            body := String.ofList cs }, rfl, fun transport reply hreply => ?_⟩
  simp only [post, Http.send, Http.request?, hparse, Option.filter_some, hsendable, if_true,
    Option.map_some, List.cons_append, List.nil_append, hreply]

/-- A service can be reached and sends back the stored document that it is sent. -/
theorem echoes_of_sendable (hbase : IsSendable base)
    (hecho : ∀ http d, FetchRequest.priorIn? http.body.toList = some d →
      ∃ reply, transport http = some reply ∧ Http.isSuccess reply.status = true ∧
        d.ToldBy (Json.characters reply.body)) : Echoes transport base := by
  intro cs d hprior
  obtain ⟨http, hbody, hsent⟩ := hbase.post_eq_ok cs
  rw [← String.toList_ofList (l := cs), ← hbody] at hprior
  obtain ⟨reply, hreply, hanswer⟩ := hecho http d hprior
  exact ⟨reply, hsent _ _ hreply, hanswer⟩

end DocumentService

namespace Crawl

variable {settings : CrawlSettings} {fetch : Fetcher} {faults later : CatalogFaults}
  {now : Instant} {c : Catalog} {entry : Entry} {path : String}

/-- A stored package whose document is found again as it is has not been modified. -/
theorem refresh_of_same_document (hstored : c.get path = .ok (some entry))
    (hfetch : fetch (refreshRequest entry) = .ok (some entry.record.document))
    (hetag : entry.record.document.etag ≠ "")
    (hwritten : faults (.setNextCrawl entry.record.document.projectRoot) = none) :
    (refresh settings fetch faults later now entry c).exit = .ok .notModified ∧
      c.Reschedules entry.record.document.projectRoot entry.record.document.etag
        (now.after settings.maxAge) (refresh settings fetch faults later now entry c).catalog := by
  obtain ⟨_, r, _, _, rfl⟩ := Catalog.get_eq_some_iff.mp hstored
  have hsame : SameVersion r.document r.document := ⟨hetag, rfl⟩
  have hop : faults (refreshOp r (some r.document)) = none := by
    rw [refreshOp, if_pos hsame]
    exact hwritten
  obtain ⟨c', hmoved⟩ : ∃ c', c.Reschedules r.document.projectRoot r.document.etag
      (now.after settings.maxAge) c' := ⟨_, Catalog.reschedules_iff.mpr rfl⟩
  have houtcome : RefreshOutcome settings faults later now r c
      (fetch (refreshRequest (c.entry r))) (.ok .notModified) c' := by
    rw [hfetch]
    exact .notModified hsame hop hmoved
  rw [houtcome.eq_refresh]
  exact ⟨rfl, hmoved⟩

theorem holds_of_reschedules {c' : Catalog} {root etag : String} {at' : Instant} {d : Document}
    (h : c.Reschedules root etag at' c') : c'.Holds path d ↔ c.Holds path d := by
  obtain rfl := Catalog.reschedules_iff.mp h
  exact Catalog.holds_of_adjust (fun row => row.projectRoot = root ∧ row.etag = etag) at'.secs rfl

/-- A document is read from its JSON form as it is, and so is the stored document in the request for
a package; whatever tells of a document, as an object with its members in any order and others among
them, is fetched as this document. With a service that sends back the stored document, the refresh
of a package that has an etag finds it not modified, and changes no document. -/
theorem documents_survive_the_exchange (d : Document) :
    Document.ofJson? d.toJson = some d ∧
    (∀ (c : Catalog) (nextCrawl? : Option Instant) (suppressed : Bool),
      (c.putDocument d nextCrawl? suppressed).Holds d.importPath d) ∧
    (∀ (c : Catalog) (path : String) (entry : Entry), c.get path = .ok (some entry) →
      entry.record.document = d → FetchRequest.priorIn? (refreshRequest entry).toJson = some d) ∧
    (∀ (transport : Http.Transport) (base : String) (request : FetchRequest) (reply : Http.Reply),
      DocumentService.exchange transport base request = .ok reply →
      Http.isSuccess reply.status = true → d.ToldBy (Json.characters reply.body) →
      DocumentService.fetcher transport base request = .ok (some d)) ∧
    ∀ (settings : CrawlSettings) (transport : Http.Transport) (base : String)
      (faults later : CatalogFaults) (now : Instant) (c : Catalog) (path : String) (entry : Entry),
      c.get path = .ok (some entry) → entry.record.document = d → d.etag ≠ "" →
      DocumentService.Echoes transport base → faults (.setNextCrawl d.projectRoot) = none →
      let result :=
        refresh settings (DocumentService.fetcher transport base) faults later now entry c
      result.exit = .ok .notModified ∧
        c.Reschedules d.projectRoot d.etag (now.after settings.maxAge) result.catalog ∧
        ∀ path d', result.catalog.Holds path d' ↔ c.Holds path d' := by
  refine ⟨d.toldBy_toJson.ofJson?, fun c nextCrawl? suppressed => ?_, ?_, ?_, ?_⟩
  · exact Catalog.holds_putDocument.mpr (.inl ⟨rfl, rfl⟩)
  · rintro c path entry - rfl
    exact FetchRequest.priorIn?_toJson _
  · intro transport base request reply hreply hsuccess htold
    exact DocumentService.fetcher_of_toldBy hreply hsuccess htold
  · rintro settings transport base faults later now c path entry hstored rfl hetag hecho hwritten
    obtain ⟨hexit, hmoved⟩ :=
      refresh_of_same_document hstored (hecho.fetcher rfl) hetag hwritten
    exact ⟨hexit, hmoved, fun path d' => holds_of_reschedules hmoved⟩

/-- A document with a quote in it, and with no name. -/
def quoting : Document :=
  { importPath := "p", projectRoot := "r", etag := "v1", synopsis := "\"", imports := ["a", "b"] }

/-- The document's members out of their order and with others among them, and without the name. -/
def shuffledText : String :=
  "\x7b \"imports\": [\"a\" , \"\\u0062\"],\"extra\":[[\x7b\"etag\":null\x7d],1.5e3]," ++
    "\"etag\":\"v1\",\"extra\":true,\"synopsis\":\"\\u0022\"," ++
    "\"project_root\":\"r\",\"import_path\":\"p\"\x7d\n"

theorem toldBy_shuffledText : quoting.ToldBy shuffledText.toList :=
  Document.toldBy_iff.mpr (by decide +kernel)

/-- A service that sends back the stored document in its compact form. -/
def echo : Http.Transport := fun http =>
  (FetchRequest.priorIn? http.body.toList).map fun d => ⟨200, (String.ofList d.toJson).toUTF8⟩

theorem isSendable_docs : DocumentService.IsSendable "http://docs" := by
  have hurl : ((Http.Url.parse? (Http.trimBase "http://docs" ++ "/fetch").toList).filter
      Http.Url.isSendable).isSome = true := by decide +kernel
  obtain ⟨url, hurl⟩ := Option.isSome_iff_exists.mp hurl
  exact ⟨url, Option.filter_eq_some_iff.mp hurl⟩

theorem echoes_echo : DocumentService.Echoes echo "http://docs" :=
  DocumentService.echoes_of_sendable isSendable_docs fun http d hprior => by
    refine ⟨⟨200, (String.ofList d.toJson).toUTF8⟩, by rw [echo, hprior, Option.map_some], rfl, ?_⟩
    rw [Json.characters_toUTF8, String.toList_ofList]
    exact d.toldBy_toJson

theorem quoting_document_comes_back :
    let c := ({} : Catalog).putDocument quoting none false
    let request := FetchRequest.newTarget "p" false
    DocumentService.fetcher (fun _ => some ⟨200, shuffledText.toUTF8⟩) "http://docs" request =
      .ok (some quoting) ∧
    ∃ entry, c.get "p" = .ok (some entry) ∧
      FetchRequest.priorIn? (refreshRequest entry).toJson = some quoting ∧
      DocumentService.Echoes echo "http://docs" ∧
      (refresh {} (DocumentService.fetcher echo "http://docs") (fun _ => none) (fun _ => none)
        .epoch entry c).exit = .ok .notModified := by
  intro c request
  obtain ⟨_, hstored, hprior, hfetch, hrefresh⟩ := documents_survive_the_exchange quoting
  obtain ⟨http, _, hsent⟩ := isSendable_docs.post_eq_ok request.toJson
  obtain ⟨entry, hget, hdocument⟩ := hstored {} none false
  have htold : quoting.ToldBy (Json.characters shuffledText.toUTF8) := by
    rw [Json.characters_toUTF8]
    exact toldBy_shuffledText
  refine ⟨hfetch _ _ request _ (hsent _ ⟨200, shuffledText.toUTF8⟩ rfl) rfl htold,
    entry, hget, hprior c "p" entry hget hdocument, echoes_echo, ?_⟩
  exact (hrefresh {} echo "http://docs" (fun _ => none) (fun _ => none) .epoch c "p" entry hget
    hdocument (by decide) echoes_echo rfl).1

end Crawl

end PackageIndex
