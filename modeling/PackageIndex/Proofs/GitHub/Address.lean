import PackageIndex.Launch
import PackageIndex.Proofs.Http.Address
/-!
The request for a resource of the code host. Whatever the resource, its address leads to the code
host, and it is sent as long as it is not too long; the names of a repository stand in the target
as they are, if they are plain.
-/
namespace PackageIndex.GitHub

open Http

namespace Client

/-- The request for a resource, if its address can be sent. -/
def request? (base : String) (credentials : Option Credentials) (resource : String) :
    Option Request :=
  Http.request? "GET" (Client.url ⟨closed, base⟩ resource) (headers credentials) ""

variable {α : Type} {base : String} {credentials : Option Credentials} {resource : String}
  {request : Request}

theorem get_of_request? (transport : Transport) (read? : Json.Value → Option α)
    (h : request? base credentials resource = some request) :
    get ⟨transport, base⟩ resource credentials read? = match transport request with
      | none => .error (.unreachable (Client.url ⟨closed, base⟩ resource) .connection)
      | some reply => interpret (Client.url ⟨closed, base⟩ resource) read? reply := by
  have hsent : Http.request? "GET" (Client.url ⟨transport, base⟩ resource) (headers credentials)
      "" = some request := h
  simp only [get, send, hsent]
  cases transport request <;> rfl

theorem get_of_unsendable (transport : Transport) (read? : Json.Value → Option α)
    (h : request? base credentials resource = none) :
    get ⟨transport, base⟩ resource credentials read? =
      .error (.unreachable (Client.url ⟨closed, base⟩ resource) .address) := by
  have hunsent : Http.request? "GET" (Client.url ⟨transport, base⟩ resource)
      (headers credentials) "" = none := h
  simp only [get, send, hunsent]
  rfl

/-- The name of the code host. -/
def hostName : List Char := "api.github.com".toList

/-- What follows the name of the code host in the address of a resource. -/
def pathOf (resource : String) : List Char :=
  '/' :: Url.cleaned (resource.toList.dropWhile (· = '/'))

/-- The address of a resource of the code host. -/
def hostUrl (resource : String) : Url where
  scheme := .https
  host := .name hostName
  port := none
  target := Url.targetOf (pathOf resource)
  fragment := Url.fragmentOf (pathOf resource)

theorem parse?_codeHost (resource : String) :
    Url.parse? (Client.url ⟨closed, Launch.codeHost⟩ resource).toList =
      some (hostUrl resource) := by
  have hbase : (trimBase Launch.codeHost).toList = "https://api.github.com".toList := by
    simp [trimBase, Launch.codeHost]
  have hslash : "/".toList = ['/'] := by simp
  have hwritten : (Client.url ⟨closed, Launch.codeHost⟩ resource).toList =
      Url.addressOf .https hostName (resource.toList.dropWhile (· = '/')) := by
    simp only [url, String.toList_append, hbase, hslash, String.toList_ofList]
    rfl
  have hhost : Host.parse? hostName = some (.name hostName) := by decide +kernel
  have hplain : IsPlain hostName := by decide
  rw [hwritten]
  exact Url.parse?_addressOf hplain (by decide) hhost _

/-- Every address of the code host is sent, unless it is too long. -/
theorem request?_codeHost (credentials : Option Credentials) (resource : String) :
    request? Launch.codeHost credentials resource =
      if (hostUrl resource).text.length ≤ Url.longestSent then
        some { method := "GET"
               target := String.ofList (hostUrl resource).target
               host := String.ofList hostName
               headers := headers credentials ++ [("user-agent", userAgent)] }
      else none := by
  have hauthority : (hostUrl resource).authority = hostName := List.append_nil _
  have hclean : hostName.any Url.isUnsendable = false := by decide
  have hsendable : (hostUrl resource).isSendable =
      decide ((hostUrl resource).text.length ≤ Url.longestSent) := by
    rw [Url.isSendable, hauthority, hclean, Bool.not_false, Bool.true_and]
  rw [request?, Http.request?, parse?_codeHost, Option.filter_some, hsendable]
  simp only [decide_eq_true_eq]
  split
  · rw [Option.map_some, hauthority]
  · rfl

section

variable {owner repository : String} (howner : Url.IsSegment owner.toList)
  (hrepository : Url.IsSegment repository.toList)
include howner hrepository

/-- Plain names stand in the address as they are. -/
theorem hostUrl_of_plain :
    hostUrl ("repos/" ++ owner ++ "/" ++ repository) =
      { scheme := .https, host := .name hostName, port := none
        target := "/repos/".toList ++ owner.toList ++ '/' :: repository.toList
        fragment := [] } := by
  have hsegments : ∀ s ∈ ["repos".toList, owner.toList, repository.toList], Url.IsSegment s := by
    simp only [List.forall_mem_cons]
    exact ⟨⟨by decide, by decide⟩, howner, hrepository, by simp⟩
  have hpath : pathOf ("repos/" ++ owner ++ "/" ++ repository) =
      '/' :: List.intercalate ['/'] ["repos".toList, owner.toList, repository.toList] := by
    rw [← Url.cleaned_of_segments hsegments, pathOf]
    simp [List.intercalate]
  simp only [hostUrl, hpath, Url.targetOf_of_segments (List.cons_ne_nil _ _) hsegments,
    Url.fragmentOf_of_segments hsegments]
  simp [List.intercalate]

theorem request?_of_plain (credentials : Option Credentials) :
    request? Launch.codeHost credentials ("repos/" ++ owner ++ "/" ++ repository) =
      if 30 + owner.length + repository.length ≤ Url.longestSent then
        some { method := "GET"
               target := "/repos/" ++ owner ++ "/" ++ repository
               host := "api.github.com"
               headers := headers credentials ++ [("user-agent", userAgent)] }
      else none := by
  have hurl := hostUrl_of_plain howner hrepository
  have hlength : (hostUrl ("repos/" ++ owner ++ "/" ++ repository)).text.length =
      30 + owner.length + repository.length := by
    have hauthority (target fragment : List Char) : Url.authority
        { scheme := .https, host := .name hostName, port := none, target, fragment } =
          hostName := List.append_nil _
    have hstart : (Scheme.https.text ++ "://".toList ++ hostName).length = 22 := by decide
    have hrepos : "/repos/".toList.length = 7 := by decide
    rw [hurl, Url.text, hauthority]
    simp only [List.append_nil, List.length_append, List.length_cons, String.length_toList, hrepos]
      at hstart ⊢
    omega
  have htarget : String.ofList (hostUrl ("repos/" ++ owner ++ "/" ++ repository)).target =
      "/repos/" ++ owner ++ "/" ++ repository := by
    rw [hurl]
    simp [← String.toList_inj]
  rw [request?_codeHost, hlength, htarget]
  rfl

end

end Client

end PackageIndex.GitHub
