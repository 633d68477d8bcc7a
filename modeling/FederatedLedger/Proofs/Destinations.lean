import FederatedLedger.Client
import FederatedLedger.Connection
import FederatedLedger.Proofs.Endpoints

/-!
# Where requests go

A request goes to the address that the endpoint of a node and the path of the request spell together. No endpoint ends
with a slash, and the path of every question to a node starts with one (`Api.head?_names`). So the authority ends where
it does in the endpoint alone (`Endpoint.Parts.parse_append`), and no text in a path can change the scheme, the host or
the port (`Api.requests_stay_on_node`).
-/

namespace FederatedLedger

/-! ## Addresses below an endpoint -/

/-- What follows an endpoint, and starts with a slash, is read as the end of its path. -/
theorem Endpoint.Parts.parse_append (p : Endpoint.Parts) {tail : List Char} (h : tail.head? = some '/') :
    Url.parse (p.chars ++ tail) =
      .ok (.web (Url.ofAuthority p.scheme none p.host (some p.port) (Url.pathChars p.path ++ Url.tidied tail))) := by
  have hplain := Url.isPlainPath_pathChars p.path_clean
  obtain ⟨rest, rfl⟩ := List.head?_eq_some_iff.1 h
  have hslash : Url.tidied ('/' :: rest) = '/' :: Url.tidied rest :=
    @Url.tidied_append ['/'] (List.forall_mem_singleton.2 (by decide)) rest
  apply Url.parse_spelled_append p.host_sound p.port_le hplain
  rw [hslash]
  cases hpath : Url.pathChars p.path with
  | nil => simp
  | cons c path => simpa [hpath] using hplain.head

/-! ## Origins -/

/-- Whether addresses have one scheme, host and port. -/
structure Url.SameOrigin (u v : Url) : Prop where
  scheme : v.scheme = u.scheme
  host : v.host = u.host
  port : v.portOrDefault = u.portOrDefault

theorem Url.SameOrigin.withPairs {u v : Url} (h : u.SameOrigin v) (pairs : List (String × String)) :
    u.SameOrigin (v.withPairs pairs) := by
  obtain ⟨hscheme, hhost, hport⟩ := h
  unfold Url.withPairs
  dsimp only
  split
  · exact ⟨hscheme, hhost, hport⟩
  · split <;> exact ⟨hscheme, hhost, hport⟩

/-- Whatever follows an endpoint, the address is one of the endpoint's origin. -/
theorem Endpoint.Parts.sameOrigin (p : Endpoint.Parts) (credentials : Option Credentials) (rest : List Char) :
    p.url.SameOrigin (Url.ofAuthority p.scheme credentials p.host (some p.port) rest) where
  scheme := rfl
  host := rfl
  port := by simp [Url.portOrDefault, Url.ofAuthority, Endpoint.Parts.url]

/-! ## Questions to a node -/

namespace Api

/-- The names in the path of a question, each behind a slash. -/
def names : Api → List String
  | .info => [""]
  | .apiInfo => ["api", "v1"]
  | .transactions _ _ | .submit _ _ => ["api", "v1", "transactions", ""]
  | .transaction id => ["api", "v1", "transactions", id]
  | .status _ => ["api", "v1", "statuses"]
  | .outputs _ _ => ["api", "v1", "outputs", ""]
  | .blocksOf _ => ["api", "v1", "blocks", ""]
  | .block height => ["api", "v1", "blocks", toString height.toNat]
  | .assets _ _ => ["api", "v1", "assets", ""]
  | .metadata _ _ => ["api", "v1", "metadata", ""]

theorem path_withParam? (r : Request) (name : String) (value : Option String) :
    (r.withParam? name value).path = r.path := by
  cases value <;> rfl

theorem toList_collection (name : String) :
    (collection name).toList = Url.pathChars (["api", "v1", name, ""].map String.toList) := by
  simp [collection, root, Url.pathChars]

theorem toList_member (name id : String) :
    (member name id).toList = Url.pathChars (["api", "v1", name, id].map String.toList) := by
  simp [member, collection, root, Url.pathChars]

theorem path_request (question : Api) : ∃ path, question.request.path = some path ∧
    path.toList = Url.pathChars (question.names.map String.toList) := by
  cases question with
  | info => exact ⟨"/", rfl, rfl⟩
  | apiInfo => exact ⟨root, rfl, rfl⟩
  | transactions _ _ => exact ⟨_, path_withParam? _ _ _, toList_collection _⟩
  | submit _ _ => exact ⟨_, rfl, toList_collection _⟩
  | transaction id => exact ⟨_, rfl, toList_member _ _⟩
  | status _ => exact ⟨_, rfl, by simp [root, names, Url.pathChars]⟩
  | outputs _ _ => exact ⟨_, path_withParam? _ _ _, toList_collection _⟩
  | blocksOf _ => exact ⟨_, rfl, toList_collection _⟩
  | block _ => exact ⟨_, rfl, toList_member _ _⟩
  | assets _ _ => exact ⟨_, path_withParam? _ _ _, toList_collection _⟩
  | metadata _ _ => exact ⟨_, path_withParam? _ _ _, toList_collection _⟩

theorem head?_names (question : Api) : (Url.pathChars (question.names.map String.toList)).head? = some '/' := by
  cases question <;> rfl

end Api

namespace Connection
variable {c : Connection} {p : Endpoint.Parts} {r : Request} {named : Headers} {u : Url}

/-- The address of a question on a node, as text. -/
theorem toList_urlFor (hc : c.endpoint = p.text) (question : Api) (headers : Headers) :
    (c.urlFor (question.request.withHeaders headers).path).toList =
      p.chars ++ Url.pathChars (question.names.map String.toList) := by
  obtain ⟨path, hpath, hchars⟩ := question.path_request
  have hpath : (question.request.withHeaders headers).path = some path := hpath
  rw [urlFor, hpath, hc, Option.getD_some, String.toList_append, hchars, Endpoint.Parts.text, String.toList_ofList]

/-- The address of a question is read as the endpoint with the rest as the end of its path. -/
theorem parse_urlFor (hc : c.endpoint = p.text) (question : Api) (headers : Headers) : ∃ rest,
    Url.parse (c.urlFor (question.request.withHeaders headers).path).toList =
      .ok (.web (Url.ofAuthority p.scheme none p.host (some p.port) rest)) := by
  rw [toList_urlFor hc]
  exact ⟨_, p.parse_append question.head?_names⟩

/-- What a node gets, if its address can be read and the headers can be sent. -/
theorem compose_of_parse (hnamed : r.headers.sent = .ok named) (hu : Url.parse (c.urlFor r.path).toList = .ok (.web u)) :
    ∃ out, c.compose r = .ok out ∧ out.url = u.withPairs r.params := by
  rw [compose, hnamed]
  dsimp only
  rw [hu]
  exact ⟨_, rfl, rfl⟩

end Connection

/-- **Requests stay on their node.** Whatever the texts in a question are, its address on a node can be read and has
exactly the scheme, the host and the port of the endpoint, and names no user; and so has what the node gets, with the
pairs of the query. -/
theorem Api.requests_stay_on_node {s e : String} (h : Endpoint.normalize s = .ok e) : ∃ u path,
    Url.parse e.toList = .ok (.web u) ∧ Endpoint.Spells e u.scheme u.host u.portOrDefault path ∧
    ∀ (c : Connection), c.endpoint = e → ∀ (question : Api) (headers : Headers), ∃ v,
      Url.parse (c.urlFor (question.request.withHeaders headers).path).toList = .ok (.web v) ∧
      u.SameOrigin v ∧ v.credentials = none ∧
      ∀ named, (question.request.withHeaders headers).headers.sent = .ok named →
        ∃ out, c.compose (question.request.withHeaders headers) = .ok out ∧ u.SameOrigin out.url := by
  obtain ⟨p, rfl⟩ := Endpoint.exists_parts h
  have hspells := p.spells
  rw [← p.portOrDefault_url] at hspells
  refine ⟨p.url, _, ?_, hspells, fun c hc question headers => ?_⟩
  · rw [Endpoint.Parts.text, String.toList_ofList]
    exact p.parse_chars
  · obtain ⟨rest, hparse⟩ := Connection.parse_urlFor hc question headers
    have horigin := p.sameOrigin none rest
    refine ⟨_, hparse, horigin, rfl, fun named hnamed => ?_⟩
    obtain ⟨out, hout, hurl⟩ := Connection.compose_of_parse hnamed hparse
    exact ⟨out, hout, hurl ▸ horigin.withPairs _⟩

/-- An id with an `@`, a backslash and dot segments does not lead away from the node. -/
theorem Api.requests_stay_on_node_at : Endpoint.normalize "https://user@node.xyz/api/" = .ok "https://node.xyz:443/api" ∧
    ∃ v out, Url.parse (Connection.urlFor ⟨"https://node.xyz:443/api", []⟩
        (Api.transaction "@evil:80\\/../../../..?#").request.path).toList = .ok (.web v) ∧
      v.scheme = .https ∧ v.host = .name "node.xyz" ∧ v.portOrDefault = 443 ∧
      Connection.compose ⟨"https://node.xyz:443/api", []⟩ (Api.transaction "@evil:80\\/../../../..?#").request = .ok out ∧
      out.url.host = .name "node.xyz" := by
  have h : Endpoint.normalize "https://user@node.xyz/api/" = .ok "https://node.xyz:443/api" := by decide
  have hread : Url.parse "https://node.xyz:443/api".toList =
      .ok (.web ⟨.https, none, .name "node.xyz", none, ["api"], none⟩) := by decide
  obtain ⟨u, path, hu, -, hquestions⟩ := Api.requests_stay_on_node h
  obtain ⟨v, hv, horigin, -, hsent⟩ := hquestions ⟨_, []⟩ rfl (.transaction "@evil:80\\/../../../..?#") []
  obtain ⟨out, hout, houtOrigin⟩ := hsent [] rfl
  obtain rfl := Address.web.inj (Except.ok.inj (hu.symm.trans hread))
  exact ⟨h, v, out, hv, horigin.scheme, horigin.host, horigin.port, hout, houtOrigin.host⟩

end FederatedLedger
