import FederatedLedger.Proofs.Destinations
import FederatedLedger.Proofs.Triples

/-!
# Which resource an id reaches

The id of a transaction is put into the path of its request as it is, and read there as part of an address. A plain id
(`Api.IsPlainId`) is read as one segment that stands for it. Any other id is not: what is read of it as the last segment
is a part of it at most, and stands for no more bytes than it has, so that it would have to be the id itself
(`Url.isPlainId_of_getLast?`). Hence an address locates the transaction with an id exactly if the id is plain, and no two
plain ids, and no plain id and another question, have one address (`Api.transaction_located_iff`).
-/

namespace FederatedLedger

/-! ## Plain segments -/

/-- An id that stands for itself at the end of an address: nothing in it ends a segment or is left out in reading, it is
no dot segment, and no percent triple is in it. -/
structure Api.IsPlainId (cs : List Char) : Prop where
  marks : ∀ c ∈ cs, c ∉ ['/', '\\', '?', '#', '\t', '\n', '\r']
  last : ∀ c ∈ cs.getLast?, 0x20 < c.toNat
  dots : cs ≠ ['.'] ∧ cs ≠ ['.', '.']
  triples : Percent.hasTriple cs = false

instance (cs : List Char) : Decidable (Api.IsPlainId cs) :=
  decidable_of_iff (cs.all (fun c => c ∉ ['/', '\\', '?', '#', '\t', '\n', '\r']) = true ∧
      cs.getLast?.all (fun c => 0x20 < c.toNat) = true ∧ (cs ≠ ['.'] ∧ cs ≠ ['.', '.']) ∧ Percent.hasTriple cs = false)
    ⟨fun ⟨marks, last, dots, triples⟩ => ⟨by simpa using marks, by simpa [Option.all_eq_true] using last, dots, triples⟩,
      fun h => ⟨by simpa using h.marks, by simpa [Option.all_eq_true] using h.last, h.dots, h.triples⟩⟩

namespace Url
variable {cs s : List Char} {base : List (List Char)}

theorem keepsTriples_pathSet : Percent.KeepsTriples Percent.pathSet := by
  have hset : Percent.pathSet.all (fun c => c ≠ '%' && !Percent.isDigit c) = true := by decide
  simpa [Percent.KeepsTriples] using hset

/-- A plain id stands for itself. -/
theorem decode_of_isPlainId (h : Api.IsPlainId cs) :
    Percent.decode (Percent.encode Percent.pathSet cs) = utf8 (String.ofList cs) := by
  rw [Percent.decode_encode keepsTriples_pathSet, Percent.decode_of_not_hasTriple h.triples]

/-! ## Dot segments -/

/-- Lower case comes from the character itself or from its capital. -/
theorem toLower_cases {c d : Char} (hd : d.toNat < 128) (h : c.toLower = d) : c = d ∨ c = d.toUpper := by
  have hascii : c.toNat < 128 := by
    by_contra hc
    rw [toLower_of_le (Nat.not_lt.1 hc)] at h
    exact hc (h ▸ hd)
  subst h
  exact forall_ascii (P := fun c => c = c.toLower ∨ c = c.toLower.toUpper) (by decide) c hascii

/-- How a dot may be written, in lower case. -/
def IsDot (cs : List Char) : Prop := cs = ['.'] ∨ cs = ['%', '2', 'e']

theorem decode_dot (h : IsDot (s.map Char.toLower)) (rest : List Char) :
    Percent.decode (s ++ rest) = utf8 "." ++ Percent.decode rest := by
  have hutf8 : utf8 "." = [0x2E] := by decide
  simp only [IsDot, List.map_eq_cons_iff, List.map_eq_nil_iff] at h
  rw [hutf8]
  rcases h with ⟨c, _, rfl, hc, rfl⟩ | ⟨a, _, rfl, ha, b, _, rfl, hb, c, _, rfl, hc, rfl⟩
  · obtain rfl : c = '.' := (toLower_cases (by decide) hc).elim id id
    exact Percent.decode_cons (.inl (by decide))
  · obtain rfl : a = '%' := (toLower_cases (by decide) ha).elim id id
    obtain rfl : b = '2' := (toLower_cases (by decide) hb).elim id id
    rcases toLower_cases (by decide) hc with rfl | rfl <;> rfl

/-- A dot segment stands for its dots. -/
theorem decode_of_isHere (h : isHere s = true) : Percent.decode s = utf8 "." := by
  have hdot := decode_dot (s := s) (by simpa [isHere, IsDot] using h) []
  rwa [List.append_nil] at hdot

theorem decode_of_isUp (h : isUp s = true) : Percent.decode s = utf8 ".." := by
  have hdots : ∃ x y, s.map Char.toLower = x ++ y ∧ IsDot x ∧ IsDot y := by
    simp only [isUp, Bool.or_eq_true, decide_eq_true_eq] at h
    rcases h with ((h | h) | h) | h
    · exact ⟨['.'], ['.'], h, .inl rfl, .inl rfl⟩
    · exact ⟨['.'], ['%', '2', 'e'], h, .inl rfl, .inr rfl⟩
    · exact ⟨['%', '2', 'e'], ['.'], h, .inr rfl, .inl rfl⟩
    · exact ⟨['%', '2', 'e'], ['%', '2', 'e'], h, .inr rfl, .inr rfl⟩
  obtain ⟨x, y, hs, hx, hy⟩ := hdots
  obtain ⟨s, t, rfl, rfl, rfl⟩ := List.map_eq_append_iff.1 hs
  have ht := decode_dot hy []
  rw [List.append_nil] at ht
  rw [decode_dot hx, ht]
  decide

/-! ## What is read of an id -/

/-- A text up to the query or the fragment. -/
def pathPart (cs : List Char) : List Char := cs.takeWhile fun c => c ≠ '?' && c ≠ '#'

theorem takeWhile_below (h : ∀ s ∈ base, IsClean s) (rest : List Char) :
    (pathChars base ++ '/' :: rest).takeWhile (fun c => c ≠ '?' && c ≠ '#') = pathChars base ++ '/' :: pathPart rest := by
  have hfront : ∀ c ∈ pathChars base ++ ['/'], (c ≠ '?' && c ≠ '#') = true := by
    have hplain := (isPlainPath_pathChars h).visible
    simp only [List.forall_mem_append, List.forall_mem_singleton]
    exact ⟨fun c hc => by simpa using (hplain c hc).2, by decide⟩
  rw [List.append_cons, List.takeWhile_append_of_pos hfront, ← pathPart, List.append_assoc, List.singleton_append]

/-- The segments of a path that goes on below others. -/
def segmentsBelow (base : List (List Char)) (cs : List Char) : List (List Char) :=
  resolve base.reverse ((splitAtEach isSlash (pathPart cs)).map (Percent.encode Percent.pathSet))

theorem path_below (h : ∀ s ∈ base, IsClean s) (scheme : Scheme) (host : Host) (port : Option Nat) (rest : List Char) :
    (ofAuthority scheme none host port (pathChars base ++ '/' :: rest)).path =
      (segmentsBelow base rest).map String.ofList := by
  rw [ofAuthority, takeWhile_below h, segments_append h, segmentsBelow]

theorem query_below (h : ∀ s ∈ base, IsClean s) (scheme : Scheme) (host : Host) (port : Option Nat) {rest : List Char}
    (hrest : pathPart rest = rest) : (ofAuthority scheme none host port (pathChars base ++ '/' :: rest)).query = none := by
  rw [ofAuthority, takeWhile_below h, hrest, List.drop_length]

theorem tidied_sublist (cs : List Char) : (tidied cs).Sublist cs :=
  List.filter_sublist.trans (dropTrailing_sublist _ cs)

/-- A plain id is read as it stands, as one segment that is no dot segment. -/
theorem read_of_isPlainId (h : Api.IsPlainId cs) : tidied cs = cs ∧ pathPart cs = cs ∧ splitAtEach isSlash cs = [cs] ∧
    isUp (Percent.encode Percent.pathSet cs) = false ∧ isHere (Percent.encode Percent.pathSet cs) = false := by
  have hmarks : ∀ c ∈ cs, (c ≠ '/' ∧ c ≠ '\\') ∧ (c ≠ '?' ∧ c ≠ '#') ∧ c ≠ '\t' ∧ c ≠ '\n' ∧ c ≠ '\r' :=
    fun c hc => by simpa [and_assoc] using h.marks c hc
  have hdecode := decode_of_isPlainId h
  refine ⟨?_, ?_, ?_, ?_, ?_⟩
  · rw [tidied, dropTrailing_of_getLast? (by simpa using h.last)]
    exact List.filter_eq_self.2 fun c hc => by simp [isTabOrBreak, (hmarks c hc).2.2]
  · exact List.takeWhile_eq_self_iff.2 fun c hc => by simp [(hmarks c hc).2.1]
  · exact splitAtEach_of_forall fun c hc => by simp [isSlash, (hmarks c hc).1]
  · rw [← Bool.not_eq_true]
    intro hup
    have hdots := utf8_injective (hdecode.symm.trans (decode_of_isUp hup))
    exact h.dots.2 (by simpa using congrArg String.toList hdots)
  · rw [← Bool.not_eq_true]
    intro hhere
    have hdots := utf8_injective (hdecode.symm.trans (decode_of_isHere hhere))
    exact h.dots.1 (by simpa using congrArg String.toList hdots)

theorem segmentsBelow_of_isPlainId (h : Api.IsPlainId cs) :
    segmentsBelow base (tidied cs) = base ++ [Percent.encode Percent.pathSet cs] := by
  obtain ⟨htidied, hpath, hsplit, hup, hhere⟩ := read_of_isPlainId h
  rw [segmentsBelow, htidied, hpath, hsplit, List.map_singleton, resolve, hup, hhere]
  simp

/-- Reading leaves characters out, so what is read as a part of a path is made of some of them. -/
theorem sublist_of_mem_parts {part : List Char} (h : part ∈ splitAtEach isSlash (pathPart (tidied cs))) :
    part.Sublist (pathPart (tidied cs)) ∧ (pathPart (tidied cs)).Sublist (tidied cs) :=
  ⟨sublist_of_mem_splitAtEach h, List.takeWhile_sublist _⟩

/-- A text that is itself a part of what is read of it lost nothing, so nothing in it ends a part or is left out. -/
theorem marks_of_mem_parts (h : cs ∈ splitAtEach isSlash (pathPart (tidied cs))) :
    (∀ c ∈ cs, c ∉ ['/', '\\', '?', '#', '\t', '\n', '\r']) ∧ ∀ c ∈ cs.getLast?, 0x20 < c.toNat := by
  obtain ⟨hpart, hpath⟩ := sublist_of_mem_parts h
  have hfilter : (tidied cs).Sublist (dropTrailing (·.toNat ≤ 0x20) cs) := List.filter_sublist
  have htrimmed := (dropTrailing_sublist _ cs).antisymm (hpart.trans (hpath.trans hfilter))
  have htidied := (tidied_sublist cs).antisymm (hpart.trans hpath)
  rw [htidied] at h hpart hpath
  have hwhole := hpath.antisymm hpart
  constructor
  · intro c hc
    have hslash := (forall_mem_of_mem_splitAtEach h c hc).2
    have hpathPart : c ∈ pathPart cs := hwhole.symm ▸ hc
    have hmark := List.mem_takeWhile_imp hpathPart
    have hkept : c ∈ tidied cs := htidied.symm ▸ hc
    have hbreak : (!isTabOrBreak c) = true := (List.mem_filter.1 hkept).2
    simp only [isSlash, Bool.or_eq_false_iff, decide_eq_false_iff_not] at hslash
    simp only [Bool.and_eq_true, decide_eq_true_eq] at hmark
    simp only [isTabOrBreak, Bool.not_eq_true', Bool.or_eq_false_iff, decide_eq_false_iff_not] at hbreak
    simp [hslash, hmark, hbreak]
  · intro c hc
    rw [← htrimmed] at hc
    simpa using getLast?_dropTrailing _ _ c hc

/-- **Only a plain id is what the last segment stands for.** The last segment is made of a part of what is read of the
id, and stands for no more bytes than this part has; so the part is the id, and nothing in it was left out or changed. -/
theorem isPlainId_of_getLast? {id segment : List Char} (hid : id ≠ [])
    (hlast : (segmentsBelow base (tidied id)).getLast? = some segment)
    (hsegment : Percent.decode segment = utf8 (String.ofList id)) : Api.IsPlainId id := by
  have hbytes : utf8 (String.ofList id) ≠ [] := by
    intro hnil
    have hempty : String.ofList id = "" := utf8_injective hnil
    exact hid (by simpa using congrArg String.toList hempty)
  obtain ⟨part, hpart⟩ : ∃ part, (splitAtEach isSlash (pathPart (tidied id))).getLast? = some part :=
    ⟨_, List.getLast?_eq_some_getLast (splitAtEach_ne_nil _ _)⟩
  have hmem := List.mem_of_getLast? hpart
  have hread : (segmentsBelow base (tidied id)).getLast? = _ :=
    getLast?_resolve (Percent.encode Percent.pathSet part) (by simp [hpart])
  rw [hread, Option.some.injEq] at hlast
  subst hlast
  split at hsegment
  · exact absurd hsegment.symm hbytes
  · rename_i hdots
    rw [Percent.decode_encode keepsTriples_pathSet] at hsegment
    have hlength := Percent.length_decode_le part
    rw [hsegment] at hlength
    -- The part takes as many bytes as the id, so the reading keeps all of it.
    obtain ⟨hsub, hpath⟩ := sublist_of_mem_parts hmem
    obtain rfl : part = id := Percent.eq_of_sublist (hsub.trans (hpath.trans (tidied_sublist id))) hlength
    obtain ⟨hmarks, hend⟩ := marks_of_mem_parts hmem
    refine ⟨hmarks, hend, ⟨?_, ?_⟩, Percent.decode_eq_utf8_iff.1 hsegment⟩
    · rintro rfl
      exact hdots (by decide)
    · rintro rfl
      exact hdots (by decide)

end Url

/-! ## Names in paths -/

theorem Api.isPlainId_toString (n : Nat) : Api.IsPlainId (toString n).toList := by
  have hchars : (toString n).toList = Nat.toDigits 10 n := by simp [Nat.toString_eq_repr]
  have hplain : ∀ c ∈ Nat.toDigits 10 n,
      c ∉ ['/', '\\', '?', '#', '\t', '\n', '\r'] ∧ 0x20 < c.toNat ∧ c ≠ '.' ∧ c ≠ '%' := by
    intro c hc
    have hdigit := Ipv4.isDigit_toDigits n c hc
    exact forall_ascii (P := fun c => c.isDigit = true →
      c ∉ ['/', '\\', '?', '#', '\t', '\n', '\r'] ∧ 0x20 < c.toNat ∧ c ≠ '.' ∧ c ≠ '%') (by decide) c
      (toNat_lt_of_isDigit hdigit) hdigit
  rw [hchars]
  refine ⟨fun c hc => (hplain c hc).1, fun c hc => (hplain c (List.mem_of_getLast? hc)).2.1, ⟨?_, ?_⟩,
    Percent.not_hasTriple_of_not_mem fun hmem => (hplain '%' hmem).2.2.2 rfl⟩
  · intro hdot
    exact (hplain '.' (by simp [hdot])).2.2.1 rfl
  · intro hdots
    exact (hplain '.' (by simp [hdots])).2.2.1 rfl

/-- Every question but one names its resource in a plain way. -/
theorem Api.names_cases (question : Api) : (∃ id, question = .transaction id) ∨
    ∃ front name, question.names = front ++ [name] ∧ (∀ s ∈ front, Url.IsClean s.toList) ∧ IsPlainId name.toList ∧
      (front = ["api", "v1", "transactions"] → name = "") := by
  cases question with
  | transaction id => exact .inl ⟨id, rfl⟩
  | info => exact .inr ⟨[], "", rfl, by decide, by decide, by decide⟩
  | apiInfo => exact .inr ⟨["api"], "v1", rfl, by decide, by decide, by decide⟩
  | transactions _ _ | submit _ _ =>
    exact .inr ⟨["api", "v1", "transactions"], "", rfl, by decide, by decide, by decide⟩
  | status _ => exact .inr ⟨["api", "v1"], "statuses", rfl, by decide, by decide, by decide⟩
  | outputs _ _ => exact .inr ⟨["api", "v1", "outputs"], "", rfl, by decide, by decide, by decide⟩
  | blocksOf _ => exact .inr ⟨["api", "v1", "blocks"], "", rfl, by decide, by decide, by decide⟩
  | block height =>
    exact .inr ⟨["api", "v1", "blocks"], toString height.toNat, rfl, by decide, isPlainId_toString _,
      fun hfront => absurd hfront (by decide)⟩
  | assets _ _ => exact .inr ⟨["api", "v1", "assets"], "", rfl, by decide, by decide, by decide⟩
  | metadata _ _ => exact .inr ⟨["api", "v1", "metadata"], "", rfl, by decide, by decide, by decide⟩

theorem Api.isClean_transactions : ∀ s ∈ ["api", "v1", "transactions"], Url.IsClean s.toList := by decide

/-! ## The address of a transaction -/

/-- An address locates something by an id: below the given segments there is one more, which stands for the id, and
nothing follows it. -/
structure Url.Locates (u : Url) (base : List String) (id : String) : Prop where
  path : ∃ segment, u.path = base ++ [segment] ∧ Percent.decode segment.toList = utf8 id
  query : u.query = none

namespace Connection
variable {c : Connection} {p : Endpoint.Parts} {question : Api} {front : List String} {name : String}

/-- What the address of a question on a node is read as. -/
def address (c : Connection) (question : Api) : Except UrlError Address := Url.parse (c.urlFor question.request.path).toList

end Connection

namespace Endpoint.Parts
variable {c : Connection} {p : Endpoint.Parts} {question : Api} {front : List String} {name id : String}

/-- The segments of the path of an endpoint. -/
def segments (p : Parts) : List String := p.path.map String.ofList

/-- The address of a name below others on a node. -/
def below (p : Parts) (front : List String) (name : String) : Url :=
  Url.ofAuthority p.scheme none p.host (some p.port)
    (Url.pathChars (p.path ++ front.map String.toList) ++ '/' :: Url.tidied name.toList)

theorem address_eq (hc : c.endpoint = p.text) (hnames : question.names = front ++ [name])
    (hfront : ∀ s ∈ front, Url.IsClean s.toList) : c.address question = .ok (.web (p.below front name)) := by
  have hchars : Url.pathChars (question.names.map String.toList) =
      Url.pathChars (front.map String.toList) ++ ['/'] ++ name.toList := by simp [hnames, Url.pathChars]
  have hplain := (Url.isPlainPath_pathChars (List.forall_mem_map.2 hfront)).visible
  have hvisible : ∀ c ∈ Url.pathChars (front.map String.toList) ++ ['/'], Url.IsVisible c := by
    simp only [List.forall_mem_append, List.forall_mem_singleton]
    exact ⟨fun c hc => (hplain c hc).1, by decide⟩
  have htext : (c.urlFor question.request.path).toList = _ := Connection.toList_urlFor hc question []
  rw [Connection.address, htext, p.parse_append question.head?_names, hchars, Url.tidied_append hvisible, below]
  simp [Url.pathChars]

theorem isClean_append (p : Parts) (hfront : ∀ s ∈ front, Url.IsClean s.toList) :
    ∀ s ∈ p.path ++ front.map String.toList, Url.IsClean s :=
  List.forall_mem_append.2 ⟨p.path_clean, List.forall_mem_map.2 hfront⟩

theorem path_below (hfront : ∀ s ∈ front, Url.IsClean s.toList) : (p.below front name).path =
    (Url.segmentsBelow (p.path ++ front.map String.toList) (Url.tidied name.toList)).map String.ofList :=
  Url.path_below (p.isClean_append hfront) _ _ _ _

theorem path_of_isPlainId (hfront : ∀ s ∈ front, Url.IsClean s.toList) (h : Api.IsPlainId name.toList) :
    (p.below front name).path =
      p.segments ++ front ++ [String.ofList (Percent.encode Percent.pathSet name.toList)] := by
  rw [path_below hfront, Url.segmentsBelow_of_isPlainId h]
  simp [segments]

/-- An address below an endpoint locates what its id names exactly if the id is plain. -/
theorem locates_iff (hfront : ∀ s ∈ front, Url.IsClean s.toList) (hid : id ≠ "") :
    (p.below front id).Locates (p.segments ++ front) id ↔ Api.IsPlainId id.toList := by
  constructor
  · rintro ⟨⟨segment, hpath, hsegment⟩, -⟩
    have hlast := congrArg List.getLast? ((path_below hfront).symm.trans hpath)
    rw [List.getLast?_concat, List.getLast?_map, Option.map_eq_some_iff] at hlast
    obtain ⟨cs, hcs, rfl⟩ := hlast
    exact Url.isPlainId_of_getLast? (by simpa using hid) hcs (by simpa using hsegment)
  · intro h
    obtain ⟨htidied, hpart, -⟩ := Url.read_of_isPlainId h
    refine ⟨⟨_, path_of_isPlainId hfront h, ?_⟩, ?_⟩
    · rw [String.toList_ofList, Url.decode_of_isPlainId h, String.ofList_toList]
    · exact Url.query_below (p.isClean_append hfront) _ _ _ (by rw [htidied, hpart])

/-- Plain names are told apart by their addresses. -/
theorem below_inj {front' : List String} {name' : String} (hfront : ∀ s ∈ front, Url.IsClean s.toList)
    (hfront' : ∀ s ∈ front', Url.IsClean s.toList) (h : Api.IsPlainId name.toList) (h' : Api.IsPlainId name'.toList)
    (hpath : (p.below front name).path = (p.below front' name').path) : front = front' ∧ name = name' := by
  rw [path_of_isPlainId hfront h, path_of_isPlainId hfront' h', List.append_assoc, List.append_assoc,
    List.append_cancel_left_eq] at hpath
  obtain ⟨hfronts, hnames⟩ := List.append_inj' hpath rfl
  have hencoded : Percent.encode Percent.pathSet name.toList = Percent.encode Percent.pathSet name'.toList := by
    simpa using congrArg (List.map String.toList) hnames
  have hbytes := congrArg Percent.decode hencoded
  rw [Url.decode_of_isPlainId h, Url.decode_of_isPlainId h', String.ofList_toList, String.ofList_toList] at hbytes
  exact ⟨hfronts, utf8_injective hbytes⟩

/-- No fragment follows a plain id. -/
theorem hash_not_mem (hc : c.endpoint = p.text) (h : Api.IsPlainId id.toList) :
    '#' ∉ (c.urlFor (Api.transaction id).request.path).toList := by
  have htext : (c.urlFor (Api.transaction id).request.path).toList = _ :=
    Connection.toList_urlFor hc (.transaction id) []
  have hfront := (Url.isPlainPath_pathChars (List.forall_mem_map.2 Api.isClean_transactions)).visible
  have hchars : Url.pathChars ((Api.transaction id).names.map String.toList) =
      Url.pathChars (["api", "v1", "transactions"].map String.toList) ++ '/' :: id.toList := by
    simp [Api.names, Url.pathChars]
  rw [htext, hchars, List.mem_append, List.mem_append, List.mem_cons]
  rintro (hmem | hmem | hmem | hmem)
  · exact (p.forall_mem_chars _ hmem).2 rfl
  · exact (hfront _ hmem).2.2 rfl
  · exact absurd hmem (by decide)
  · exact h.marks _ hmem (by decide)

end Endpoint.Parts

/-- **Which transaction an id reaches.** The address of a transaction can be read, and the node gets it as it is read. It
locates the transaction below the path of the endpoint, with no query and no fragment, exactly if the id is plain. No
other question has the address of a plain id, nor has any other plain id. -/
theorem Api.transaction_located_iff {s e : String} (h : Endpoint.normalize s = .ok e) : ∃ scheme host port base,
    Endpoint.Spells e scheme host port (String.ofList (Url.pathChars (base.map String.toList))) ∧
    ∀ (c : Connection), c.endpoint = e → ∀ id : String, id ≠ "" → ∃ u, c.address (.transaction id) = .ok (.web u) ∧
      (∃ out, c.compose (Api.transaction id).request = .ok out ∧ out.url = u) ∧
      (u.Locates (base ++ ["api", "v1", "transactions"]) id ∧ '#' ∉ (c.urlFor (Api.transaction id).request.path).toList ↔
        IsPlainId id.toList) ∧
      (IsPlainId id.toList → ∀ question v, c.address question = .ok (.web v) → v.path = u.path →
        ∃ other, question = .transaction other ∧ (IsPlainId other.toList → other = id)) := by
  obtain ⟨p, rfl⟩ := Endpoint.exists_parts h
  have hspells := p.spells
  have hpath : p.path = p.segments.map String.toList := by simp [Endpoint.Parts.segments]
  rw [hpath] at hspells
  refine ⟨_, _, _, p.segments, hspells, fun c hc id hid => ?_⟩
  have haddress (id : String) : c.address (.transaction id) = .ok (.web (p.below ["api", "v1", "transactions"] id)) :=
    Endpoint.Parts.address_eq hc rfl isClean_transactions
  have hlocates := Endpoint.Parts.locates_iff (p := p) isClean_transactions hid
  refine ⟨_, haddress id, Connection.compose_of_parse rfl (haddress id), ?_, fun hplain question v hv hsame => ?_⟩
  · refine ⟨fun hlocated => hlocates.1 hlocated.1, fun hplain => ⟨hlocates.2 hplain, ?_⟩⟩
    exact Endpoint.Parts.hash_not_mem hc hplain
  · rcases question.names_cases with ⟨other, rfl⟩ | ⟨front, name, hnames, hfront, hname, hempty⟩
    · obtain rfl := Address.web.inj (Except.ok.inj (hv.symm.trans (haddress other)))
      exact ⟨other, rfl, fun hother =>
        (Endpoint.Parts.below_inj isClean_transactions isClean_transactions hother hplain hsame).2⟩
    · have hread := Endpoint.Parts.address_eq hc hnames hfront
      obtain rfl := Address.web.inj (Except.ok.inj (hv.symm.trans hread))
      obtain ⟨hfronts, rfl⟩ := Endpoint.Parts.below_inj hfront isClean_transactions hname hplain hsame
      exact absurd (hempty hfronts) hid

/-- An id with a space, a percent sign and a letter outside ASCII is plain: it reaches its transaction, and no question
about something else does. -/
theorem Api.transaction_located_iff_percent : Endpoint.normalize "node/x" = .ok "http://node:9984/x" ∧
    ∃ u, Connection.address ⟨"http://node:9984/x", []⟩ (.transaction "50% ü") = .ok (.web u) ∧
      u.Locates ["x", "api", "v1", "transactions"] "50% ü" ∧
      ∀ question v, Connection.address ⟨"http://node:9984/x", []⟩ question = .ok (.web v) → v.path = u.path →
        ∃ other, question = .transaction other ∧ (IsPlainId other.toList → other = "50% ü") := by
  have h : Endpoint.normalize "node/x" = .ok "http://node:9984/x" := by decide
  have hplain : IsPlainId "50% ü".toList := by decide
  have hread : Connection.address ⟨"http://node:9984/x", []⟩ (.transaction "50% ü") = .ok (.web ⟨.http, none,
      .name "node", some 9984, ["x"] ++ ["api", "v1", "transactions"] ++ ["50%%20%C3%BC"], none⟩) := by decide
  obtain ⟨scheme, host, port, base, -, hids⟩ := Api.transaction_located_iff h
  obtain ⟨u, hu, -, hlocated, hothers⟩ := hids ⟨_, []⟩ rfl "50% ü" (by decide)
  refine ⟨h, u, hu, ?_, hothers hplain⟩
  have hlocates := (hlocated.2 hplain).1
  obtain ⟨segment, hpath, -⟩ := hlocates.path
  obtain rfl := Address.web.inj (Except.ok.inj (hu.symm.trans hread))
  obtain rfl : ["x"] = base := List.append_inj_left' (List.append_inj_left' hpath rfl) rfl
  exact hlocates

/-- Ids that are not plain lead to a block, to the transaction of another id, and to a query. -/
theorem Api.ids_lead_astray : Endpoint.normalize "node" = .ok "http://node:9984" ∧
    Connection.address ⟨"http://node:9984", []⟩ (.transaction "../blocks/7") =
      Connection.address ⟨"http://node:9984", []⟩ (.block 7) ∧
    Connection.address ⟨"http://node:9984", []⟩ (.transaction "a#b") =
      Connection.address ⟨"http://node:9984", []⟩ (.transaction "a") ∧
    Connection.address ⟨"http://node:9984", []⟩ (.transaction "a?b") =
      .ok (.web ⟨.http, none, .name "node", some 9984, ["api", "v1", "transactions", "a"], some "b"⟩) := by
  have hblock : Connection.address ⟨"http://node:9984", []⟩ (.block 7) =
      .ok (.web ⟨.http, none, .name "node", some 9984, ["api", "v1", "blocks", "7"], none⟩) := rfl
  have htransaction : Connection.address ⟨"http://node:9984", []⟩ (.transaction "a") =
      .ok (.web ⟨.http, none, .name "node", some 9984, ["api", "v1", "transactions", "a"], none⟩) := rfl
  rw [hblock, htransaction]
  exact ⟨by decide, rfl, rfl, rfl⟩

end FederatedLedger
