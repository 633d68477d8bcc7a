import FederatedLedger.Proofs.Paths

/-!
# Web addresses, read and written

What the parts of an address are, by the text it was read from (`Url.parse_eq_web`, `Url.sound_of_parse`), and the
reading of an address that is written in plain characters and with its port (`Url.parse_spelled`): the authority ends
where the path starts, no `@` stands in it, and the host ends at the colon before the port.
-/

namespace FederatedLedger

/-- A computation that succeeds does so at each of its steps. -/
theorem bind_eq_ok {ε α β : Type} {x : Except ε α} {f : α → Except ε β} {b : β} :
    (x >>= f) = .ok b ↔ ∃ a, x = .ok a ∧ f a = .ok b := by
  cases x <;> simp [bind, Except.bind]

theorem except_map_eq_ok {ε α β : Type} {x : Except ε α} {f : α → β} {b : β} :
    x.map f = .ok b ↔ ∃ a, x = .ok a ∧ f a = b := by
  cases x <;> simp [Except.map]

namespace Url
variable {cs rest t path : List Char} {u : Url} {host : Host} {port : Option Nat} {credentials : Option Credentials}
  {scheme : Scheme}

/-! ## What an address says -/

theorem authority_eq_ok : authority cs = .ok (credentials, host, port, rest) ↔
    checkUser true (cutUser true cs).1 (cutUser true cs).2 = .ok () ∧
    hostPart true false (cutUser true cs).2 ≠ [] ∧
    Host.parse (hostPart true false (cutUser true cs).2) = .ok host ∧
    readOptionalPort ((cutUser true cs).2.drop (hostPart true false (cutUser true cs).2).length) = .ok (port, rest) ∧
    (cutUser true cs).1.bind readCredentials = credentials := by
  simp only [authority, bind_eq_ok]
  constructor
  · rintro ⟨_, hcheck, h⟩
    split at h
    · obtain ⟨_, hthrow, -⟩ := bind_eq_ok.1 h
      cases hthrow
    · rename_i hne
      obtain ⟨host, hhost, h⟩ := bind_eq_ok.1 h
      obtain ⟨⟨port, rest⟩, hport, h⟩ := bind_eq_ok.1 h
      cases h
      exact ⟨hcheck, hne, hhost, hport, rfl⟩
  · rintro ⟨hcheck, hne, hhost, hport, rfl⟩
    refine ⟨(), hcheck, ?_⟩
    rw [if_neg hne, hhost, hport]
    rfl

/-- What an address is, by what stands after its scheme and the slashes. -/
def ofAuthority (scheme : Scheme) (credentials : Option Credentials) (host : Host) (port : Option Nat)
    (rest : List Char) : Url where
  scheme := scheme
  credentials := credentials
  host := host
  port := if port = some scheme.defaultPort then none else port
  path := (segments (rest.takeWhile fun c => c ≠ '?' && c ≠ '#')).map String.ofList
  query := match rest.drop (rest.takeWhile fun c => c ≠ '?' && c ≠ '#').length with
    | '?' :: r => some (String.ofList (Percent.encode Percent.querySet (r.takeWhile (· ≠ '#'))))
    | _ => none

theorem ofParts_eq_ok : ofParts scheme cs = .ok u ↔ ∃ credentials host port rest,
    authority cs = .ok (credentials, host, port, rest) ∧ ofAuthority scheme credentials host port rest = u := by
  rw [ofParts, bind_eq_ok]
  constructor
  · rintro ⟨⟨credentials, host, port, rest⟩, h, hu⟩
    exact ⟨credentials, host, port, rest, h, Except.ok.inj hu⟩
  · rintro ⟨credentials, host, port, rest, h, rfl⟩
    exact ⟨(credentials, host, port, rest), h, rfl⟩

/-- The text after the scheme and the slashes. -/
def afterSlashes (cs : List Char) : List Char := cs.dropWhile fun c => c = '/' || c = '\\'

theorem parse_of_scheme? (h : scheme? (clean cs) = some (scheme.text.toList, rest)) :
    parse cs = (ofParts scheme (afterSlashes rest)).map .web := by
  rw [parse, h]
  cases scheme <;> simp [Scheme.text, afterSlashes]

/-- What a web address says, by the text that it is read from. -/
theorem parse_eq_web (h : parse cs = .ok (.web u)) : ∃ r credentials port rest,
    scheme? (clean cs) = some (u.scheme.text.toList, r) ∧
    authority (afterSlashes r) = .ok (credentials, u.host, port, rest) ∧
    ofAuthority u.scheme credentials u.host port rest = u := by
  cases hscheme : scheme? (clean cs) with
  | none => simp [parse, hscheme] at h
  | some found =>
    obtain ⟨name, r⟩ := found
    have hparts (scheme : Scheme) (hname : String.ofList name = scheme.text)
        (hread : (ofParts scheme (afterSlashes r)).map Address.web = .ok (.web u)) :
        ∃ r' credentials port rest, some (name, r) = some (u.scheme.text.toList, r') ∧
          authority (afterSlashes r') = .ok (credentials, u.host, port, rest) ∧
          ofAuthority u.scheme credentials u.host port rest = u := by
      obtain ⟨_, hparts, hu⟩ := except_map_eq_ok.1 hread
      obtain rfl := Address.web.inj hu
      obtain ⟨credentials, host, port, rest, hauthority, rfl⟩ := ofParts_eq_ok.1 hparts
      refine ⟨r, credentials, port, rest, ?_, hauthority, rfl⟩
      rw [ofAuthority, ← hname, String.toList_ofList]
    -- addresses of the other schemes are no web addresses
    have hother {α : Type} {x : Except UrlError α} {f : α → Address} (hx : x.map f = .ok (.web u))
        (hf : ∀ a, f a ≠ .web u) : False := by
      obtain ⟨a, -, ha⟩ := except_map_eq_ok.1 hx
      exact hf a ha
    simp only [parse, hscheme] at h
    split at h
    · rename_i hname
      exact hparts .http hname h
    · split at h
      · rename_i hname
        exact hparts .https hname h
      · split at h
        · exact (hother h nofun).elim
        · split at h
          · exact (hother h nofun).elim
          · split at h
            · exact (hother h nofun).elim
            · cases h

/-- A web address that can be read: its host and port fit, and the segments of its path are clean. -/
structure Sound (u : Url) : Prop where
  host : u.host.Sound
  port_le : ∀ p ∈ u.port, p ≤ 65535
  path : ∃ segs, segs ≠ [] ∧ (∀ s ∈ segs, IsClean s) ∧ u.path = segs.map String.ofList

/-- A port is the number of the digits, if there are some, and the authority ends behind them. -/
theorem readPort_spec (h : readPort cs = .ok (port, rest)) : (∀ p ∈ port, p ≤ 65535) ∧
    (port = none ↔ cs.takeWhile Char.isDigit = []) ∧ rest = cs.dropWhile Char.isDigit ∧
    ∀ c ∈ rest.head?, endsAuthority true c = true := by
  unfold readPort at h
  dsimp only at h
  split at h
  · cases h
  · rename_i hle
    split at h
    · rename_i hdrop
      obtain ⟨rfl, rfl⟩ := Prod.mk.inj (Except.ok.inj h)
      refine ⟨?_, by simp, hdrop.symm, by simp⟩
      simp
      omega
    · rename_i c r hdrop
      split at h
      · rename_i hend
        obtain ⟨rfl, rfl⟩ := Prod.mk.inj (Except.ok.inj h)
        refine ⟨?_, by simp, rfl, ?_⟩
        · simp
          omega
        · rw [hdrop]
          simpa using hend
      · cases h

theorem readOptionalPort_le (h : readOptionalPort cs = .ok (port, rest)) : ∀ p ∈ port, p ≤ 65535 := by
  unfold readOptionalPort at h
  split at h
  · exact (readPort_spec h).1
  · cases h
    simp

theorem sound_ofAuthority (h : authority cs = .ok (credentials, host, port, rest)) :
    (ofAuthority scheme credentials host port rest).Sound := by
  obtain ⟨-, -, hhost, hport, -⟩ := authority_eq_ok.1 h
  refine ⟨Host.sound_of_parse hhost, ?_, _, segments_ne_nil _, isClean_of_mem_segments, rfl⟩
  intro p hp
  rw [ofAuthority] at hp
  dsimp only at hp
  split at hp
  · cases hp
  · exact readOptionalPort_le hport p hp

/-- A web address that is read can be read. -/
theorem sound_of_parse (h : parse cs = .ok (.web u)) : u.Sound := by
  obtain ⟨r, credentials, port, rest, -, hauthority, hu⟩ := parse_eq_web h
  rw [← hu]
  exact sound_ofAuthority hauthority

/-! ## What an address is written as -/

/-- The characters that are read as they stand. -/
def IsVisible (c : Char) : Prop := 0x20 < c.toNat ∧ c.toNat < 128

instance (c : Char) : Decidable (IsVisible c) := inferInstanceAs (Decidable (_ ∧ _))

/-- Those among them that end neither an authority nor its user information. -/
def IsAuthorityChar (c : Char) : Prop := IsVisible c ∧ endsAuthority true c = false ∧ c ≠ '@'

instance (c : Char) : Decidable (IsAuthorityChar c) := inferInstanceAs (Decidable (_ ∧ _ ∧ _))

theorem isAuthorityChar_of_isDigit {c : Char} (h : c.isDigit = true) : IsAuthorityChar c :=
  forall_ascii (P := fun c => c.isDigit = true → IsAuthorityChar c) (by decide) c (toNat_lt_of_isDigit h) h

theorem isAuthorityChar_of_hexDigit {c : Char} (h : (Hex.digitValue? c).isSome = true ∨ c = ':') :
    IsAuthorityChar c ∧ c ≠ '[' ∧ c ≠ ']' := by
  rcases h with h | rfl
  · exact forall_ascii (P := fun c => (Hex.digitValue? c).isSome = true → IsAuthorityChar c ∧ c ≠ '[' ∧ c ≠ ']')
      (by decide) c (Hex.toNat_lt_of_isSome_digitValue? h) h
  · decide

theorem isAuthorityChar_of_not_isForbidden {c : Char} (hascii : c.toNat < 128) (h : Idna.isForbidden c = false) :
    IsAuthorityChar c ∧ c ≠ ':' ∧ c ≠ '[' :=
  forall_ascii (P := fun c => Idna.isForbidden c = false → IsAuthorityChar c ∧ c ≠ ':' ∧ c ≠ '[') (by decide) c hascii h

/-- The text of a host can stand in an authority. -/
theorem forall_mem_of_shape (h : Host.Shape t) : ∀ c ∈ t, IsAuthorityChar c := by
  cases h with
  | plain _ hplain => exact fun c hc => (isAuthorityChar_of_not_isForbidden (hplain c hc).1 (hplain c hc).2).1
  | bracketed hbody =>
    simp only [List.forall_mem_cons, List.forall_mem_append]
    exact ⟨by decide, fun c hc => (isAuthorityChar_of_hexDigit (hbody c hc)).1, by decide, nofun⟩

/-- What is read of the end of an address: no controls and spaces at its own end, and no tabs and line breaks. -/
def tidied (cs : List Char) : List Char := (dropTrailing (·.toNat ≤ 0x20) cs).filter fun c => !isTabOrBreak c

theorem isTabOrBreak_of_isVisible {c : Char} (h : IsVisible c) : isTabOrBreak c = false :=
  forall_ascii (P := fun c => IsVisible c → isTabOrBreak c = false) (by decide) c h.2 h

theorem tidied_append {front : List Char} (h : ∀ c ∈ front, IsVisible c) (cs : List Char) :
    tidied (front ++ cs) = front ++ tidied cs := by
  have hend : ∀ c ∈ front, decide (c.toNat ≤ 0x20) = false := by simpa using fun c hc => (h c hc).1
  have hfilter : front.filter (fun c => !isTabOrBreak c) = front := by
    simpa using fun c hc => isTabOrBreak_of_isVisible (h c hc)
  rw [tidied, dropTrailing_append hend, List.filter_append, hfilter, tidied]

/-- What stands in front of an address is read as it is. -/
theorem clean_append {front : List Char} (hne : front ≠ []) (h : ∀ c ∈ front, IsVisible c) (cs : List Char) :
    clean (front ++ cs) = front ++ tidied cs := by
  have hstart : (front ++ cs).dropWhile (fun c => decide (c.toNat ≤ 0x20)) = front ++ cs := by
    cases front with
    | nil => exact absurd rfl hne
    | cons c front =>
      have hc := (h c List.mem_cons_self).1
      rw [List.cons_append, List.dropWhile_cons_of_neg (by simpa using hc)]
  have hclean : clean (front ++ cs) = tidied ((front ++ cs).dropWhile fun c => decide (c.toNat ≤ 0x20)) := rfl
  rw [hclean, hstart, tidied_append h]

/-- Without an `@` in the authority nothing is cut off. -/
theorem cutUser_of_not_mem (h : '@' ∉ cs.takeWhile fun c => !endsAuthority true c) : cutUser true cs = (none, cs) := by
  rw [cutUser, afterLast?_of_not_mem h]

/-- Behind a bracket the host goes on up to the closing one. -/
theorem hostPart_inside {body : List Char} (rest : List Char)
    (hbody : ∀ c ∈ body, endsAuthority true c = false ∧ c ≠ '[' ∧ c ≠ ']') :
    hostPart true true (body ++ ']' :: rest) = body ++ ']' :: hostPart true false rest := by
  induction body with
  | nil => simp [hostPart, endsAuthority]
  | cons c body ih =>
    rw [List.forall_mem_cons] at hbody
    simp [hostPart, hbody.1, ih hbody.2]

theorem hostPart_plain (h : ∀ c ∈ t, endsAuthority true c = false ∧ c ≠ ':' ∧ c ≠ '[') :
    hostPart true false (t ++ ':' :: rest) = t := by
  induction t with
  | nil => simp [hostPart]
  | cons c t ih =>
    rw [List.forall_mem_cons] at h
    simp [hostPart, h.1, ih h.2]

/-- A host ends at the colon before its port. -/
theorem hostPart_of_shape (h : Host.Shape t) (rest : List Char) : hostPart true false (t ++ ':' :: rest) = t := by
  cases h with
  | plain _ hplain =>
    apply hostPart_plain
    intro c hc
    obtain ⟨hchar, hmarks⟩ := isAuthorityChar_of_not_isForbidden (hplain c hc).1 (hplain c hc).2
    exact ⟨hchar.2.1, hmarks⟩
  | bracketed hbody =>
    have hinside : ∀ c ∈ _, endsAuthority true c = false ∧ c ≠ '[' ∧ c ≠ ']' := fun c hc =>
      ⟨(isAuthorityChar_of_hexDigit (hbody c hc)).1.2.1, (isAuthorityChar_of_hexDigit (hbody c hc)).2⟩
    have hclosed := hostPart_inside (':' :: rest) hinside
    rw [List.cons_append, List.append_assoc, List.singleton_append, hostPart, if_neg (by decide), if_pos rfl, hclosed]
    simp [hostPart]

/-- A port ends where the path starts. -/
theorem readPort_append {port : Nat} (hport : port ≤ 65535) (hpath : ∀ c ∈ path.head?, c = '/') :
    readPort (Nat.toDigits 10 port ++ path) = .ok (some port, path) := by
  have hdigit := Ipv4.isDigit_toDigits port
  have hstop : ∀ c ∈ path.head?, c.isDigit = false := by
    intro c hc
    rw [hpath c hc]
    decide
  have hvalue : (Nat.toDigits 10 port).foldl (fun n c => 10 * n + (c.toNat - 48)) 0 = port :=
    Nat.ofDigitChars_eq_foldl.symm.trans Nat.ofDigitChars_ten_toDigits
  unfold readPort
  simp only [takeWhile_append_of_head hdigit hstop, dropWhile_append_of_head hdigit hstop, hvalue,
    if_neg (Nat.not_lt.2 hport), if_neg Nat.toDigits_ne_nil]
  cases path with
  | nil => rfl
  | cons c path =>
    obtain rfl := hpath c rfl
    simp [endsAuthority]

/-- An authority of a host and a port. -/
def authorityChars (host : Host) (port : Nat) : List Char := host.text.toList ++ ':' :: Nat.toDigits 10 port

theorem forall_mem_authorityChars (h : host.Sound) (port : Nat) : ∀ c ∈ authorityChars host port, IsAuthorityChar c :=
  List.forall_mem_append.2 ⟨forall_mem_of_shape (Host.shape_text h), List.forall_mem_cons.2 ⟨by decide, fun c hc =>
    isAuthorityChar_of_isDigit (Ipv4.isDigit_toDigits port c hc)⟩⟩

/-- **A host and a port are read as such.** -/
theorem authority_append {port : Nat} (h : host.Sound) (hport : port ≤ 65535) (hpath : ∀ c ∈ path.head?, c = '/') :
    authority (authorityChars host port ++ path) = .ok (none, host, some port, path) := by
  have hshape := Host.shape_text h
  have hchars := forall_mem_authorityChars h port
  have hpart : hostPart true false (authorityChars host port ++ path) = host.text.toList := by
    rw [authorityChars, List.append_assoc, List.cons_append]
    exact hostPart_of_shape hshape _
  have huser : cutUser true (authorityChars host port ++ path) = (none, authorityChars host port ++ path) := by
    apply cutUser_of_not_mem
    have hinside : ∀ c ∈ authorityChars host port, (!endsAuthority true c) = true := fun c hc => by
      simp [(hchars c hc).2.1]
    have hend : ∀ c ∈ path.head?, (!endsAuthority true c) = false := by
      intro c hc
      rw [hpath c hc]
      decide
    rw [takeWhile_append_of_head hinside hend]
    exact fun hat => (hchars '@' hat).2.2 rfl
  rw [authority_eq_ok, huser]
  dsimp only
  rw [hpart]
  refine ⟨rfl, hshape.ne_nil, Host.parse_text_of_sound h, ?_, rfl⟩
  rw [authorityChars, List.append_assoc, List.drop_left]
  exact readPort_append hport hpath

/-- What may follow the authority: nothing, or a path in characters that stand for themselves. -/
structure IsPlainPath (path : List Char) : Prop where
  chars : ∀ c ∈ path, IsPathChar c ∨ c = '/'
  head : ∀ c ∈ path.head?, c = '/'

theorem IsPlainPath.visible (h : IsPlainPath path) : ∀ c ∈ path, IsVisible c ∧ c ≠ '?' ∧ c ≠ '#' := by
  intro c hc
  rcases h.chars c hc with hchar | rfl
  · have hascii : c.toNat < 128 := by
      have hunwritten := hchar.1
      simp only [Percent.isUnwritten, Bool.or_eq_false_iff, decide_eq_false_iff_not] at hunwritten
      omega
    exact forall_ascii (P := fun c => IsPathChar c → IsVisible c ∧ c ≠ '?' ∧ c ≠ '#') (by decide) c hascii hchar
  · decide

theorem isPlainPath_pathChars {segs : List (List Char)} (h : ∀ s ∈ segs, IsClean s) : IsPlainPath (pathChars segs) where
  chars c hc := by
    obtain ⟨s, hs, hc⟩ := List.mem_flatMap.1 hc
    rcases List.mem_cons.1 hc with rfl | hc
    · exact .inr rfl
    · exact .inl ((h s hs).chars c hc)
  head c hc := by
    cases segs with
    | nil => cases hc
    | cons s segs => exact (Option.some.inj hc).symm

/-- An address with its port. -/
def spelled (scheme : Scheme) (host : Host) (port : Nat) (path : List Char) : List Char :=
  scheme.text.toList ++ ':' :: '/' :: '/' :: (authorityChars host port ++ path)

theorem scheme?_text_append (scheme : Scheme) (rest : List Char) :
    scheme? (scheme.text.toList ++ ':' :: rest) = some (scheme.text.toList, rest) := by
  cases scheme <;> rfl

theorem forall_mem_spelled {port : Nat} (h : host.Sound) (hpath : IsPlainPath path) :
    ∀ c ∈ spelled scheme host port path, IsVisible c := by
  have hscheme : ∀ c ∈ scheme.text.toList, IsVisible c := by
    cases scheme <;> simp [Scheme.text, IsVisible]
  have hauthority : ∀ c ∈ authorityChars host port, IsVisible c := fun c hc =>
    (forall_mem_authorityChars h port c hc).1
  simp only [spelled, List.forall_mem_append, List.forall_mem_cons]
  exact ⟨hscheme, by decide, by decide, by decide, hauthority, fun c hc => (hpath.visible c hc).1⟩

/-- No authority starts with a slash or a backslash. -/
theorem afterSlashes_append {authority : List Char} (hne : authority ≠ [])
    (hinside : ∀ c ∈ authority, endsAuthority true c = false) (rest : List Char) :
    afterSlashes ('/' :: '/' :: (authority ++ rest)) = authority ++ rest := by
  cases authority with
  | nil => exact absurd rfl hne
  | cons c authority =>
    have hc := hinside c List.mem_cons_self
    simp only [endsAuthority, Bool.or_eq_false_iff, decide_eq_false_iff_not, Bool.true_and] at hc
    simp [afterSlashes, hc]

/-- **An address that is written with its port is read as its parts**, up to what reading leaves out. -/
theorem parse_of_clean {port : Nat} (h : host.Sound) (hport : port ≤ 65535) (hpath : ∀ c ∈ path.head?, c = '/')
    (hclean : clean cs = spelled scheme host port path) :
    parse cs = .ok (.web (ofAuthority scheme none host (some port) path)) := by
  have hscheme : scheme? (clean cs) = some (scheme.text.toList, '/' :: '/' :: (authorityChars host port ++ path)) := by
    rw [hclean]
    exact scheme?_text_append scheme _
  have hne : authorityChars host port ≠ [] := by simp [authorityChars]
  have hinside : ∀ c ∈ authorityChars host port, endsAuthority true c = false := fun c hc =>
    (forall_mem_authorityChars h port c hc).2.1
  rw [parse_of_scheme? hscheme, afterSlashes_append hne hinside, except_map_eq_ok]
  exact ⟨_, ofParts_eq_ok.2 ⟨_, _, _, _, authority_append h hport hpath, rfl⟩, rfl⟩

/-- What follows an address with its port is read as the end of its path. -/
theorem parse_spelled_append {port : Nat} (h : host.Sound) (hport : port ≤ 65535) (hpath : IsPlainPath path)
    {tail : List Char} (htail : ∀ c ∈ (path ++ tidied tail).head?, c = '/') :
    parse (spelled scheme host port path ++ tail) =
      .ok (.web (ofAuthority scheme none host (some port) (path ++ tidied tail))) := by
  apply parse_of_clean h hport htail
  rw [clean_append (by simp [spelled]) (forall_mem_spelled h hpath)]
  simp [spelled]

theorem parse_spelled {port : Nat} (h : host.Sound) (hport : port ≤ 65535) (hpath : IsPlainPath path) :
    parse (spelled scheme host port path) = .ok (.web (ofAuthority scheme none host (some port) path)) := by
  have hnone : tidied [] = [] := rfl
  have hread : parse (spelled scheme host port path ++ []) = _ :=
    parse_spelled_append h hport hpath (by simpa [hnone] using hpath.head)
  rwa [hnone, List.append_nil, List.append_nil] at hread

/-- What follows is the path alone, and its segments are those that were written. -/
theorem ofAuthority_pathChars {segs : List (List Char)} (h : ∀ s ∈ segs, IsClean s) :
    ofAuthority scheme credentials host port (pathChars segs) = {
      scheme, credentials, host
      port := if port = some scheme.defaultPort then none else port
      path := if segs = [] then [""] else segs.map String.ofList
      query := none } := by
  have htake : (pathChars segs).takeWhile (fun c => c ≠ '?' && c ≠ '#') = pathChars segs := by
    apply List.takeWhile_eq_self_iff.2
    intro c hc
    obtain ⟨-, hquery, hfragment⟩ := (isPlainPath_pathChars h).visible c hc
    simp [hquery, hfragment]
  have hsegments : (segments (pathChars segs)).map String.ofList =
      if segs = [] then [""] else segs.map String.ofList := by
    by_cases hne : segs = []
    · have hnil : pathChars [] = [] := rfl
      rw [hne, hnil, segments_nil, if_pos rfl]
      rfl
    · rw [segments_pathChars hne h, if_neg hne]
  rw [ofAuthority, htake, List.drop_length, hsegments]

end Url
end FederatedLedger
