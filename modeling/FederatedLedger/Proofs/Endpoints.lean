import FederatedLedger.Node
import FederatedLedger.Proofs.Addresses

/-!
# The form of an endpoint

Every name of a node is brought into the form `scheme://host:port/path` (`Endpoint.exists_parts`), with a host that can
be read and a path whose segments are clean and do not end with an empty one. A text of this form is read as its parts
(`Endpoint.Parts.parse_chars`), and names the node by itself (`Endpoint.Parts.normalize_text`). So the form is settled
after one step (`Endpoint.normalize_of_normalize`).
-/

namespace FederatedLedger
namespace Endpoint
variable {s e : String} {cs : List Char} {u : Url} {port : Nat}

/-! ## The port in the text -/

/-- What may be the authority, behind `://`. -/
def authorityText (rest : List Char) : List Char := rest.takeWhile fun c => c ≠ '/' && c ≠ '?' && c ≠ '#'

theorem authorityText_append {authority rest : List Char}
    (hinside : ∀ c ∈ authority, Url.endsAuthority true c = false)
    (hrest : ∀ c ∈ rest.head?, c = '/' ∨ c = '?' ∨ c = '#') : authorityText (authority ++ rest) = authority := by
  apply takeWhile_append_of_head
  · intro c hc
    have hend := hinside c hc
    simp only [Url.endsAuthority, Bool.or_eq_false_iff, decide_eq_false_iff_not] at hend
    simp [hend.1]
  · intro c hc
    rcases hrest c hc with rfl | rfl | rfl <;> decide

/-- What may be the host and the port. -/
def hostText (rest : List Char) : List Char := (afterLast? '@' (authorityText rest)).getD (authorityText rest)

/-- A port behind a closing bracket is written if a colon follows. -/
theorem writesPort_bracketed {name rest body tail : List Char} (hcut : cutAtFirst? separator cs = some (name, rest))
    (hhost : hostText rest = '[' :: (body ++ ']' :: tail)) (hbody : ']' ∉ body) :
    writesPort cs = true ↔ tail.head? = some ':' := by
  have hclosing : ']' ∉ '[' :: body := by simpa using hbody
  have hbracket := cutAtFirst?_append hclosing tail
  rw [writesPort, hcut]
  dsimp only
  rw [← authorityText, ← hostText, hhost]
  rw [List.cons_append] at hbracket
  rw [hbracket]
  cases tail with
  | nil => simp
  | cons c tail => by_cases hc : c = ':' <;> simp [hc]

/-- A port behind a name is written if there is a colon. -/
theorem writesPort_plain {name rest host : List Char} (hcut : cutAtFirst? separator cs = some (name, rest))
    (hhost : hostText rest = host) (hname : host.head? ≠ some '[') : writesPort cs = true ↔ ':' ∈ host := by
  rw [writesPort, hcut]
  dsimp only
  rw [← authorityText, ← hostText, hhost]
  split
  · exact absurd rfl hname
  · simp

/-- A port that is written is the port of the address. -/
theorem portOf_of_writesPort (h : writesPort cs = true) : portOf cs u = u.portOrDefault := by
  rw [portOf, Url.portOrDefault]
  cases u.port with
  | none => simp [h]
  | some p => rfl

/-! ## The parts of an endpoint -/

/-- What an endpoint says. -/
structure Parts where
  scheme : Scheme
  host : Host
  port : Nat
  path : List (List Char)
  host_sound : host.Sound
  port_le : port ≤ 65535
  path_clean : ∀ s ∈ path, Url.IsClean s
  path_trimmed : Url.trimmed path = path

namespace Parts

/-- The characters of an endpoint. -/
def chars (p : Parts) : List Char := Url.spelled p.scheme p.host p.port (Url.pathChars p.path)

def text (p : Parts) : String := String.ofList p.chars

/-- The address that an endpoint is. -/
def url (p : Parts) : Url where
  scheme := p.scheme
  credentials := none
  host := p.host
  port := if p.port = p.scheme.defaultPort then none else some p.port
  path := if p.path = [] then [""] else p.path.map String.ofList
  query := none

/-- **An endpoint is read as its parts.** -/
theorem parse_chars (p : Parts) : Url.parse p.chars = .ok (.web p.url) := by
  rw [chars, Url.parse_spelled p.host_sound p.port_le (Url.isPlainPath_pathChars p.path_clean),
    Url.ofAuthority_pathChars p.path_clean, url]
  simp only [Option.some.injEq]

theorem isVisible_chars (p : Parts) : ∀ c ∈ p.chars, Url.IsVisible c :=
  Url.forall_mem_spelled p.host_sound (Url.isPlainPath_pathChars p.path_clean)

/-! ### An endpoint is a name of itself -/

theorem trimBlanks_chars (p : Parts) : trimBlanks p.chars = p.chars := by
  apply trimBlanks_of_forall
  intro c hc
  obtain ⟨hlow, hhigh⟩ := p.isVisible_chars c hc
  simp only [isBlank]
  simp
  omega

/-- The scheme ends where the authority starts. -/
theorem cutAtFirst?_chars (p : Parts) : cutAtFirst? separator p.chars =
    some (p.scheme.text.toList, Url.authorityChars p.host p.port ++ Url.pathChars p.path) := by
  rw [chars, Url.spelled]
  cases p.scheme <;> simp [Scheme.text, separator, cutAtFirst?]

theorem withScheme_chars (p : Parts) : withScheme p.chars = p.chars := by
  rw [withScheme, cutAtFirst?_chars]
  rfl

/-- The port of an endpoint is written. -/
theorem writesPort_chars (p : Parts) : writesPort p.chars = true := by
  have hchars := Url.forall_mem_authorityChars p.host_sound p.port
  have hauthority : authorityText (Url.authorityChars p.host p.port ++ Url.pathChars p.path) =
      Url.authorityChars p.host p.port :=
    authorityText_append (fun c hc => (hchars c hc).2.1) fun c hc =>
      .inl ((Url.isPlainPath_pathChars p.path_clean).head c hc)
  have huser : afterLast? '@' (Url.authorityChars p.host p.port) = none :=
    afterLast?_of_not_mem fun hat => (hchars '@' hat).2.2 rfl
  have hhost : hostText (Url.authorityChars p.host p.port ++ Url.pathChars p.path) =
      p.host.text.toList ++ ':' :: Nat.toDigits 10 p.port := by
    rw [hostText, hauthority, huser]
    rfl
  have hshape := Host.shape_text p.host_sound
  generalize p.host.text.toList = t at hshape hhost
  cases hshape with
  | plain hne hplain =>
    refine (writesPort_plain p.cutAtFirst?_chars hhost ?_).2 (by simp)
    rw [List.head?_append_of_ne_nil _ hne]
    intro hhead
    have hmem := List.mem_of_head? hhead
    exact (Url.isAuthorityChar_of_not_isForbidden (hplain '[' hmem).1 (hplain '[' hmem).2).2.2 rfl
  | bracketed hbody =>
    refine (writesPort_bracketed p.cutAtFirst?_chars (hhost.trans (by simp; rfl)) ?_).2 rfl
    exact fun hmem => (Url.isAuthorityChar_of_hexDigit (hbody ']' hmem)).2.2 rfl

theorem portOrDefault_url (p : Parts) : p.url.portOrDefault = p.port := by
  have hport : p.url.port = if p.port = p.scheme.defaultPort then none else some p.port := rfl
  rw [Url.portOrDefault, hport]
  split
  · rename_i hdefault
    exact hdefault.symm
  · rfl

end Parts

/-- The text of an endpoint, by the segments of the path of its address. -/
theorem ofUrl_eq {segs : List (List Char)} (hsegs : ∀ s ∈ segs, Url.IsClean s)
    (hpath : u.path = segs.map String.ofList) :
    ofUrl port u = String.ofList (Url.spelled u.scheme u.host port (Url.pathChars (Url.trimmed segs))) := by
  have htext : u.pathText.toList = Url.pathChars segs := by
    simp [Url.pathText, hpath, Url.pathChars, List.flatMap_map]
  have hslash : ∀ s ∈ segs, '/' ∉ s := fun s hs hmem => ((hsegs s hs).chars '/' hmem).2.2.1 rfl
  rw [ofUrl, htext, Url.dropTrailing_pathChars hslash, ← String.toList_inj]
  simp [Url.spelled, Url.authorityChars, Nat.toString_eq_repr]

namespace Parts

theorem ofUrl_url (p : Parts) : ofUrl p.port p.url = p.text := by
  by_cases hpath : p.path = []
  · have hurl : p.url.path = [[]].map String.ofList := by simp [url, hpath]
    rw [ofUrl_eq (by simpa using Url.isClean_nil) hurl, text, chars, hpath]
    rfl
  · have hurl : p.url.path = p.path.map String.ofList := by simp [url, hpath]
    rw [ofUrl_eq p.path_clean hurl, p.path_trimmed]
    rfl

/-- **An endpoint names itself.** -/
theorem normalize_text (p : Parts) : normalize p.text = .ok p.text := by
  have hne : p.chars ≠ [] := by simp [chars, Url.spelled]
  rw [normalize]
  dsimp only
  rw [text, String.toList_ofList, trimBlanks_chars, if_neg hne, withScheme_chars, parse_chars]
  dsimp only
  rw [portOf_of_writesPort p.writesPort_chars, portOrDefault_url, ofUrl_url, text]

end Parts

theorem portOf_le (h : u.Sound) (cs : List Char) : portOf cs u ≤ 65535 := by
  rw [portOf]
  split
  · rename_i q hq
    exact h.port_le q hq
  · rename_i hnone
    have hdefault : u.portOrDefault ≤ 65535 := by
      rw [Url.portOrDefault, hnone]
      cases u.scheme <;> decide
    split
    · exact hdefault
    · cases u.scheme <;> decide

/-- An address that is read makes an endpoint. -/
theorem exists_parts_of_sound (h : u.Sound) (hport : port ≤ 65535) :
    ∃ p : Parts, p.text = ofUrl port u ∧ p.scheme = u.scheme ∧ p.host = u.host ∧ p.port = port := by
  obtain ⟨segs, -, hsegs, hpath⟩ := h.path
  have hclean : ∀ s ∈ Url.trimmed segs, Url.IsClean s := fun s hs =>
    hsegs s ((List.rdropWhile_prefix List.isEmpty segs).subset hs)
  have htrimmed : Url.trimmed (Url.trimmed segs) = Url.trimmed segs := List.rdropWhile_idempotent _ _
  exact ⟨⟨u.scheme, u.host, port, Url.trimmed segs, h.host, hport, hclean, htrimmed⟩, (ofUrl_eq hsegs hpath).symm, rfl,
    rfl, rfl⟩

/-- The standard node. -/
def standardParts : Parts where
  scheme := .http
  host := .name "localhost"
  port := 9984
  path := []
  host_sound := ⟨by decide, by decide, by decide⟩
  port_le := by decide
  path_clean := nofun
  path_trimmed := rfl

theorem text_standardParts : standardParts.text = standard := by
  decide

/-- What a name that is not blank is read as. -/
theorem normalize_eq_ok (hs : trimBlanks s.toList ≠ []) : normalize s = .ok e ↔
    ∃ u, Url.parse (withScheme (trimBlanks s.toList)) = .ok (.web u) ∧
      ofUrl (portOf (withScheme (trimBlanks s.toList)) u) u = e := by
  rw [normalize]
  dsimp only
  rw [if_neg hs]
  split
  · rename_i hparse
    simp [hparse]
  · rename_i hparse
    simp [hparse]
  · rename_i u hparse
    simp [hparse]

theorem normalize_of_blank (hs : trimBlanks s.toList = []) : normalize s = .ok standard := by
  rw [normalize]
  dsimp only
  rw [if_pos hs]

/-- Every endpoint has the one form. -/
theorem exists_parts (h : normalize s = .ok e) : ∃ p : Parts, p.text = e := by
  by_cases hs : trimBlanks s.toList = []
  · rw [normalize_of_blank hs] at h
    exact ⟨standardParts, text_standardParts.trans (Except.ok.inj h)⟩
  · obtain ⟨u, hparse, rfl⟩ := (normalize_eq_ok hs).1 h
    have hsound := Url.sound_of_parse hparse
    obtain ⟨p, hp, -⟩ := exists_parts_of_sound hsound (portOf_le hsound _)
    exact ⟨p, hp⟩

/-! ## What an endpoint spells -/

/-- An endpoint is a scheme, a host and a port, perhaps with a path, and nothing else. -/
structure Spells (e : String) (scheme : Scheme) (host : Host) (port : Nat) (path : String) : Prop where
  eq : e = scheme.text ++ "://" ++ host.text ++ ":" ++ toString port ++ path
  host : ∀ c ∈ host.text.toList, Url.endsAuthority true c = false ∧ c ≠ '@'
  port_le : port ≤ 65535
  path : ∀ c ∈ path.toList.head?, c = '/'
  no_query : '?' ∉ e.toList
  no_fragment : '#' ∉ e.toList
  no_slash : e.toList.getLast? ≠ some '/'

namespace Parts

theorem forall_mem_chars (p : Parts) : ∀ c ∈ p.chars, c ≠ '?' ∧ c ≠ '#' := by
  have hscheme : ∀ c ∈ p.scheme.text.toList, c ≠ '?' ∧ c ≠ '#' := by
    cases p.scheme <;> simp [Scheme.text]
  have hauthority : ∀ c ∈ Url.authorityChars p.host p.port, c ≠ '?' ∧ c ≠ '#' := by
    intro c hc
    have hend := (Url.forall_mem_authorityChars p.host_sound p.port c hc).2.1
    simp only [Url.endsAuthority, Bool.or_eq_false_iff, decide_eq_false_iff_not] at hend
    exact ⟨hend.1.1.2, hend.1.2⟩
  simp only [chars, Url.spelled, List.forall_mem_append, List.forall_mem_cons]
  exact ⟨hscheme, by decide, by decide, by decide, hauthority, fun c hc =>
    ((Url.isPlainPath_pathChars p.path_clean).visible c hc).2⟩

/-- The last character is a digit of the port, or stands in the last segment. -/
theorem getLast?_chars (p : Parts) : p.chars.getLast? ≠ some '/' := by
  have hend (cs : List Char) {ds : List Char} (hne : ds ≠ []) (hds : ∀ c ∈ ds, c ≠ '/') :
      (cs ++ ds).getLast? ≠ some '/' := by
    rw [List.getLast?_append_of_ne_nil _ hne]
    exact fun hlast => hds '/' (List.mem_of_getLast? hlast) rfl
  -- the path is trimmed, so its last segment has a last character, which is no slash
  by_cases hpath : p.path = []
  · have hchars : p.chars = p.scheme.text.toList ++ ':' :: '/' :: '/' :: (p.host.text.toList ++ [':']) ++
        Nat.toDigits 10 p.port := by simp [chars, Url.spelled, Url.authorityChars, hpath, Url.pathChars]
    rw [hchars]
    apply hend _ Nat.toDigits_ne_nil
    rintro c hc rfl
    exact absurd (Ipv4.isDigit_toDigits p.port '/' hc) (by decide)
  · have hlast : p.path.getLast hpath ≠ [] := by
      simpa using List.rdropWhile_eq_self_iff.1 p.path_trimmed hpath
    have hclean := p.path_clean _ (List.getLast_mem hpath)
    have hsegments : Url.pathChars p.path = Url.pathChars p.path.dropLast ++ '/' :: p.path.getLast hpath := by
      conv_lhs => rw [← List.dropLast_append_getLast hpath]
      simp [Url.pathChars]
    have hchars : p.chars = p.scheme.text.toList ++ ':' :: '/' :: '/' :: (Url.authorityChars p.host p.port ++
        Url.pathChars p.path.dropLast ++ ['/']) ++ p.path.getLast hpath := by
      simp [chars, Url.spelled, hsegments]
    rw [hchars]
    exact hend _ hlast fun c hc => (hclean.chars c hc).2.2.1

theorem spells (p : Parts) : Spells p.text p.scheme p.host p.port (String.ofList (Url.pathChars p.path)) where
  eq := by
    rw [← String.toList_inj]
    simp [text, chars, Url.spelled, Url.authorityChars, Nat.toString_eq_repr]
  host c hc := (Url.forall_mem_of_shape (Host.shape_text p.host_sound) c hc).2
  port_le := p.port_le
  path := by simpa using (Url.isPlainPath_pathChars p.path_clean).head
  no_query hmem := (p.forall_mem_chars '?' (by simpa [text] using hmem)).1 rfl
  no_fragment hmem := (p.forall_mem_chars '#' (by simpa [text] using hmem)).2 rfl
  no_slash := by simpa [text] using p.getLast?_chars

theorem pathText_url (p : Parts) : p.url.pathText =
    if String.ofList (Url.pathChars p.path) = "" then "/" else String.ofList (Url.pathChars p.path) := by
  by_cases hpath : p.path = []
  · simp [Url.pathText, url, hpath, Url.pathChars]
  · have hne : String.ofList (Url.pathChars p.path) ≠ "" := by
      rw [Url.pathChars_eq hpath]
      simp
    rw [if_neg hne]
    simp [Url.pathText, url, hpath, Url.pathChars, List.flatMap_map]

end Parts

/-- **The form of an endpoint is settled.** A name that is brought into it twice is what it was after the first time. It
spells a scheme, a host, a port and perhaps a path, nothing else, and is read as the address with these. -/
theorem normalize_of_normalize (h : normalize s = .ok e) : normalize e = .ok e ∧
    ∃ scheme host port path, Spells e scheme host port path ∧
      ∃ u, Url.parse e.toList = .ok (.web u) ∧ u.scheme = scheme ∧ u.host = host ∧ u.portOrDefault = port ∧
        u.pathText = (if path = "" then "/" else path) ∧ u.credentials = none ∧ u.query = none := by
  obtain ⟨p, rfl⟩ := exists_parts h
  refine ⟨p.normalize_text, p.scheme, p.host, p.port, _, p.spells, p.url, ?_, rfl, rfl, p.portOrDefault_url,
    p.pathText_url, rfl, rfl⟩
  rw [Parts.text, String.toList_ofList]
  exact p.parse_chars

theorem normalize_of_normalize_api : normalize "HTTPS://user@Node.xyz:443/a/../api/?q=1#top" = .ok "https://node.xyz:443/api" ∧
    normalize "https://node.xyz:443/api" = .ok "https://node.xyz:443/api" := by
  have h : normalize "HTTPS://user@Node.xyz:443/a/../api/?q=1#top" = .ok "https://node.xyz:443/api" := by decide
  exact ⟨h, (normalize_of_normalize h).1⟩

end Endpoint
end FederatedLedger
