import FederatedLedger.Proofs.Endpoints

/-!
# Written and missing ports

The port of an endpoint is found by two readers. The reader of addresses finds the number that is written
(`Endpoint.writtenPort?`) and hides it if the scheme implies it; `Endpoint.writesPort` looks into the text for a colon, to
tell a hidden port from a missing one. The port is the written one, or else the usual one, exactly where the two agree on
what is hidden and what is missing (`Endpoint.normalize_port`).
-/

namespace FederatedLedger

/-! ## Where the parts of an authority end -/

namespace Url
variable {cs rest : List Char} {port : Option Nat}

/-- The characters up to the end of an authority. -/
def shown (cs : List Char) : List Char := cs.takeWhile fun c => !endsAuthority true c

theorem shown_append {front : List Char} (h : ∀ c ∈ front, endsAuthority true c = false) (cs : List Char) :
    shown (front ++ cs) = front ++ shown cs := by
  rw [shown, List.takeWhile_append_of_pos (by simpa using h), shown]

theorem endsAuthority_of_mem_shown {c : Char} (h : c ∈ shown cs) : endsAuthority true c = false := by
  simpa using List.mem_takeWhile_imp h

theorem shown_dropWhile (cs : List Char) : shown (cs.dropWhile fun c => !endsAuthority true c) = [] := by
  rw [shown, List.takeWhile_eq_nil_iff]
  intro hlength
  simpa using List.dropWhile_get_zero_not (fun c => !endsAuthority true c) cs hlength

/-- What is left without user information is what stands behind the last `@`. -/
theorem shown_cutUser (cs : List Char) : shown (cutUser true cs).2 = (afterLast? '@' (shown cs)).getD (shown cs) := by
  rw [cutUser]
  dsimp only
  rw [← shown]
  cases hlast : afterLast? '@' (shown cs) with
  | none => rfl
  | some r =>
    obtain ⟨front, hfront⟩ := afterLast?_eq_some hlast
    have hsplit : cs = front ++ '@' :: r ++ cs.dropWhile fun c => !endsAuthority true c := by
      rw [← hfront, shown, List.takeWhile_append_dropWhile]
    have huser : (shown cs).take ((shown cs).length - r.length - 1) = front := by
      rw [hfront, List.length_append, List.length_cons, List.take_append_of_le_length (by omega)]
      exact List.take_of_length_le (by omega)
    have hdrop : cs.drop (front.length + 1) = r ++ cs.dropWhile fun c => !endsAuthority true c := by
      conv_lhs => rw [hsplit]
      simp [List.drop_append]
    have hr : ∀ c ∈ r, endsAuthority true c = false := fun c hc =>
      endsAuthority_of_mem_shown (by rw [hfront]; exact List.mem_append_right _ (List.mem_cons_of_mem _ hc))
    dsimp only
    rw [huser, hdrop, shown_append hr, shown_dropWhile, List.append_nil]
    rfl

/-- The host ends at a colon outside brackets, or with the authority. -/
theorem hostPart_spec (inside : Bool) (cs : List Char) : ∃ tail, cs = hostPart true inside cs ++ tail ∧
    (∀ c ∈ tail.head?, c = ':' ∨ endsAuthority true c = true) ∧
    ∀ c ∈ hostPart true inside cs, endsAuthority true c = false := by
  induction cs generalizing inside with
  | nil => exact ⟨[], rfl, by simp, by simp [hostPart]⟩
  | cons c cs ih =>
    rw [hostPart]
    split
    · rename_i hend
      refine ⟨c :: cs, rfl, ?_, by simp⟩
      simp only [Bool.or_eq_true, Bool.and_eq_true, decide_eq_true_eq] at hend
      simpa using hend.imp_left And.left
    · rename_i hend
      obtain ⟨tail, htail, hhead, hinside⟩ := ih (if c = '[' then true else if c = ']' then false else inside)
      simp only [Bool.or_eq_true, not_or, Bool.not_eq_true] at hend
      refine ⟨tail, ?_, hhead, List.forall_mem_cons.2 ⟨hend.2, hinside⟩⟩
      rw [List.cons_append, ← htail]

/-- Without brackets a host has no colon. -/
theorem colon_not_mem_hostPart (h : '[' ∉ hostPart true false cs) : ':' ∉ hostPart true false cs := by
  induction cs with
  | nil => simp [hostPart]
  | cons c cs ih =>
    rw [hostPart] at h ⊢
    split
    · simp
    · rename_i hend
      rw [if_neg hend, List.mem_cons, not_or] at h
      simp only [Bool.or_eq_true, not_or, Bool.not_false, Bool.and_true, decide_eq_true_eq] at hend
      have hinside : (if c = '[' then true else if c = ']' then false else false) = false := by
        rw [if_neg (Ne.symm h.1)]
        split <;> rfl
      rw [hinside] at h ⊢
      rw [List.mem_cons, not_or]
      exact ⟨Ne.symm hend.1, ih h.2⟩

/-- What an authority shows behind the host: nothing, or a colon and the digits of the port. -/
theorem shown_of_readOptionalPort (h : readOptionalPort cs = .ok (port, rest))
    (hhead : ∀ c ∈ cs.head?, c = ':' ∨ endsAuthority true c = true) : (shown cs = [] ∧ port = none) ∨
      ∃ digits, shown cs = ':' :: digits ∧ (∀ c ∈ digits, c.isDigit = true) ∧ (port = none ↔ digits = []) := by
  unfold readOptionalPort at h
  split at h
  · rename_i r
    right
    have hdigit : ∀ c ∈ r.takeWhile Char.isDigit, c.isDigit = true := fun c hc => List.mem_takeWhile_imp hc
    obtain ⟨-, hport, hrest, hend⟩ := readPort_spec h
    have hdigits : ∀ c ∈ ':' :: r.takeWhile Char.isDigit, endsAuthority true c = false :=
      List.forall_mem_cons.2 ⟨by decide, fun c hc => (isAuthorityChar_of_isDigit (hdigit c hc)).2.1⟩
    have hstop : shown rest = [] := by
      cases rest with
      | nil => rfl
      | cons c rest => simp [shown, hend c rfl]
    have hsplit : ':' :: r = ':' :: r.takeWhile Char.isDigit ++ rest := by
      rw [hrest, List.cons_append, List.takeWhile_append_dropWhile]
    refine ⟨r.takeWhile Char.isDigit, ?_, hdigit, hport⟩
    rw [hsplit, shown_append hdigits, hstop, List.append_nil]
  · rename_i hcolon
    obtain ⟨rfl, -⟩ := Prod.mk.inj (Except.ok.inj h)
    left
    refine ⟨?_, rfl⟩
    cases cs with
    | nil => rfl
    | cons c cs =>
      rcases hhead c rfl with rfl | hend
      · exact absurd rfl (hcolon cs)
      · simp [shown, hend]

/-- A scheme ends at the first colon. -/
theorem eq_append_of_scheme? {name r : List Char} (h : scheme? cs = some (name, r)) :
    ∃ front, cs = front ++ ':' :: r ∧ ':' ∉ front := by
  unfold scheme? at h
  dsimp only at h
  split at h
  · rename_i c name r' htake hdrop
    split at h
    · obtain ⟨-, rfl⟩ := Prod.mk.inj (Option.some.inj h)
      refine ⟨c :: name, ?_, ?_⟩
      · rw [← htake, ← hdrop, List.takeWhile_append_dropWhile]
      · rw [← htake]
        intro hmem
        exact absurd (List.mem_takeWhile_imp hmem) (by decide)
    · cases h
  · cases h

/-- A host that starts with a bracket ends at the one that closes it. -/
theorem eq_bracketed_of_parse {part : List Char} {host : Host} (h : Host.parse ('[' :: part) = .ok host) :
    ∃ body, part = body ++ [']'] ∧ ']' ∉ body := by
  have hbracketed : ∃ ps, Host.bracketed? ('[' :: part) = some (.ok ps) := by
    unfold Host.parse at h
    cases hread : Host.bracketed? ('[' :: part) with
    | none => cases hread
    | some read =>
      rw [hread] at h
      obtain ⟨ps, rfl, -⟩ := except_map_eq_ok.1 h
      exact ⟨ps, rfl⟩
  obtain ⟨ps, hps⟩ := hbracketed
  rw [Host.bracketed?, Option.some.injEq] at hps
  split at hps
  · rename_i hlast
    split at hps
    · rename_i qs hqs
      refine ⟨part.dropLast, ?_, ?_⟩
      · obtain ⟨init, rfl⟩ := List.getLast?_eq_some_iff.1 hlast
        simp
      · intro hmem
        have hchar := Ipv6.isChar_of_parse? hqs ']' hmem
        simp [Ipv6.IsChar, Hex.digitValue?] at hchar
    · cases hps
  · cases hps

end Url

namespace Endpoint
variable {s e : String} {cs : List Char} {u : Url}

/-- The port number in the authority of an address, if there is one. The scheme is followed by any number of slashes and
backslashes, and the authority ends where the reader of addresses ends it. -/
def writtenPort? (cs : List Char) : Option Nat :=
  (Url.scheme? (Url.clean cs)).bind fun found =>
    (Url.authority (Url.afterSlashes found.2)).toOption.bind fun parts => parts.2.2.1

theorem writtenPort?_of_authority {scheme r rest : List Char} {credentials : Option Credentials} {host : Host}
    {port : Option Nat} (hscheme : Url.scheme? (Url.clean cs) = some (scheme, r))
    (h : Url.authority (Url.afterSlashes r) = .ok (credentials, host, port, rest)) : writtenPort? cs = port := by
  rw [writtenPort?, hscheme, Option.bind_some, h]
  rfl

/-- An address hides the port that its scheme implies. -/
theorem port_of_parse (h : Url.parse cs = .ok (.web u)) :
    u.port = if writtenPort? cs = some u.scheme.defaultPort then none else writtenPort? cs := by
  obtain ⟨r, credentials, port, rest, hscheme, hauthority, hu⟩ := Url.parse_eq_web h
  rw [writtenPort?_of_authority hscheme hauthority]
  exact (congrArg Url.port hu).symm

/-- The port of a node: the number that is written, but where the text shows no colon, the usual port in place of the
one that the scheme implies; and without a number, this one where there is a colon. -/
theorem portOf_of_parse (h : Url.parse cs = .ok (.web u)) : portOf cs u =
    if writtenPort? cs = some u.scheme.defaultPort ∨ writtenPort? cs = none then
      if writesPort cs then u.scheme.defaultPort else usualPort u.scheme
    else (writtenPort? cs).getD (usualPort u.scheme) := by
  have hport := port_of_parse h
  rw [portOf, Url.portOrDefault, hport]
  cases hwritten : writtenPort? cs with
  | none => simp
  | some p =>
    by_cases hdefault : p = u.scheme.defaultPort
    · simp [hdefault]
    · simp [hdefault]

/-- The port that an address asks for: the number that is written, and without one the usual port. -/
def askedPort (scheme : Scheme) (cs : List Char) : Nat := (writtenPort? cs).getD (usualPort scheme)

/-- It is found where the text shows a port that the scheme implies, and shows none where none is written. -/
theorem portOf_eq_askedPort_iff (h : Url.parse cs = .ok (.web u)) : portOf cs u = askedPort u.scheme cs ↔
    u.scheme = .https ∨
      (writtenPort? cs = some 80 → writesPort cs = true) ∧ (writtenPort? cs = none → writesPort cs = false) := by
  rw [portOf_of_parse h, askedPort]
  cases u.scheme with
  | https =>
    cases writtenPort? cs with
    | none => simp [Scheme.defaultPort, usualPort]
    | some p => by_cases hp : p = 443 <;> simp [hp, Scheme.defaultPort, usualPort]
  | http =>
    cases writtenPort? cs with
    | none => cases writesPort cs <;> simp [Scheme.defaultPort, usualPort]
    | some p => by_cases hp : p = 80 <;> cases writesPort cs <;> simp [hp, Scheme.defaultPort, usualPort]

/-! ## Plain spelling -/

/-- An address that is written plainly, with this authority: nothing is left out in reading it, the authority stands
right behind `://` and without backslashes, and a bracket only starts the host. -/
structure IsPlain (cs authority : List Char) : Prop where
  clean : Url.clean cs = cs
  split : ∃ name rest, cs = name ++ separator ++ (authority ++ rest) ∧ ':' ∉ name ∧
    ∀ c ∈ rest.head?, c = '/' ∨ c = '?' ∨ c = '#'
  ne_nil : authority ≠ []
  inside : ∀ c ∈ authority, Url.endsAuthority true c = false
  bracket : '[' ∉ ((afterLast? '@' authority).getD authority).tail

theorem cutAtFirst?_separator {name : List Char} (h : ':' ∉ name) (rest : List Char) :
    cutAtFirst? separator (name ++ separator ++ rest) = some (name, rest) := by
  induction name with
  | nil => simp [separator, cutAtFirst?]
  | cons c name ih =>
    rw [List.mem_cons, not_or] at h
    have hne : (':' == c) = false := beq_eq_false_iff_ne.2 h.1
    have hc : separator.isPrefixOf (c :: (name ++ separator ++ rest)) = false := by
      rw [separator, List.isPrefixOf_cons_cons, hne, Bool.false_and]
    rw [List.cons_append, List.cons_append, cutAtFirst?, hc, ih h.2]
    rfl

section
variable {authority name rest scheme r : List Char}

/-- For the reader of addresses, too, the scheme ends at the first colon. -/
theorem eq_of_scheme? (hname : ':' ∉ name) (h : Url.scheme? (name ++ separator ++ rest) = some (scheme, r)) :
    r = '/' :: '/' :: rest := by
  obtain ⟨front, hfront, hcolon⟩ := Url.eq_append_of_scheme? h
  have hsplit : name ++ separator ++ rest = name ++ ':' :: '/' :: '/' :: rest := by simp [separator]
  have hcut := cutAtFirst?_append hcolon r
  rw [← hfront, hsplit, cutAtFirst?_append hname] at hcut
  exact (congrArg Prod.snd (Option.some.inj hcut)).symm

/-- A plain address in its parts: the reader of addresses and the text agree on where the authority stands. -/
theorem IsPlain.parts (h : IsPlain cs authority) : ∃ rest, Url.shown rest = [] ∧
    (∃ name, cutAtFirst? separator cs = some (name, authority ++ rest)) ∧
    hostText (authority ++ rest) = (afterLast? '@' authority).getD authority ∧
    ∀ {scheme r : List Char}, Url.scheme? (Url.clean cs) = some (scheme, r) → Url.afterSlashes r = authority ++ rest := by
  obtain ⟨name, rest, hcs, hname, hrest⟩ := h.split
  refine ⟨rest, ?_, ⟨name, ?_⟩, ?_, ?_⟩
  · cases rest with
    | nil => rfl
    | cons c rest => rcases hrest c rfl with rfl | rfl | rfl <;> simp [Url.shown, Url.endsAuthority]
  · rw [hcs]
    exact cutAtFirst?_separator hname _
  · rw [hostText, authorityText_append h.inside hrest]
  · intro scheme r hscheme
    rw [h.clean, hcs] at hscheme
    rw [eq_of_scheme? hname hscheme, Url.afterSlashes_append h.ne_nil h.inside]

/-- What follows the last `@` ends as the authority does. -/
theorem getLast?_getD_afterLast? (h : (afterLast? '@' authority).getD authority ≠ []) :
    ((afterLast? '@' authority).getD authority).getLast? = authority.getLast? := by
  cases hlast : afterLast? '@' authority with
  | none => rfl
  | some r =>
    rw [hlast, Option.getD_some] at h
    obtain ⟨front, hfront⟩ := afterLast?_eq_some hlast
    rw [Option.getD_some, hfront, List.getLast?_append_of_ne_nil _ (List.cons_ne_nil _ _)]
    exact (List.getLast?_cons_of_ne_nil h).symm

/-- The text shows a port if a colon stands behind the host; the host itself ends with none. -/
theorem writesPort_iff_colon {host : Host} {part tail : List Char} (hcut : cutAtFirst? separator cs = some (name, rest))
    (htext : hostText rest = part ++ tail) (hne : part ≠ []) (hhost : Host.parse part = .ok host)
    (hcolon : '[' ∉ part → ':' ∉ part) (hbracket : '[' ∉ (part ++ tail).tail)
    (htail : ':' ∈ tail ↔ tail.head? = some ':') :
    (writesPort cs = true ↔ tail.head? = some ':') ∧ part.getLast? ≠ some ':' := by
  cases part with
  | nil => exact absurd rfl hne
  | cons c part =>
    by_cases hc : c = '['
    · subst hc
      obtain ⟨body, rfl, hbody⟩ := Url.eq_bracketed_of_parse hhost
      refine ⟨writesPort_bracketed hcut (htext.trans (by simp)) hbody, ?_⟩
      rw [← List.cons_append, List.getLast?_concat]
      decide
    · have hname : ':' ∉ c :: part := by
        apply hcolon
        rw [List.mem_cons, not_or]
        exact ⟨Ne.symm hc, fun hmem => hbracket (List.mem_append_left _ hmem)⟩
      refine ⟨(writesPort_plain hcut htext (by simpa using hc)).trans ?_, ?_⟩
      · rw [List.mem_append, or_iff_right hname]
        exact htail
      · exact fun hlast => hname (List.mem_of_getLast? hlast)

/-- In a plain address a number that is written shows, and a colon shows a missing one only at the end of the authority. -/
theorem writesPort_of_isPlain (hparse : Url.parse cs = .ok (.web u)) (h : IsPlain cs authority) :
    (writtenPort? cs ≠ none → writesPort cs = true ∧ authority.getLast? ≠ some ':') ∧
    (writtenPort? cs = none → (writesPort cs = true ↔ authority.getLast? = some ':')) := by
  obtain ⟨r, credentials, port, rest', hscheme, hauthority, -⟩ := Url.parse_eq_web hparse
  have hwritten := writtenPort?_of_authority hscheme hauthority
  obtain ⟨rest, hstop, ⟨name, hcut⟩, hhostText, hafter⟩ := h.parts
  rw [hafter hscheme] at hauthority
  obtain ⟨-, hne, hhost, hport, -⟩ := Url.authority_eq_ok.1 hauthority
  have hshown := Url.shown_cutUser (authority ++ rest)
  rw [Url.shown_append h.inside, hstop, List.append_nil, ← hhostText] at hshown
  -- from here on only the text behind the user information matters: the host and what is shown behind it
  generalize (Url.cutUser true (authority ++ rest)).2 = cs' at hne hhost hport hshown
  obtain ⟨tail, htail, hhead, hinside⟩ := Url.hostPart_spec false cs'
  have hcolon := @Url.colon_not_mem_hostPart cs'
  generalize Url.hostPart true false cs' = part at hne hhost hport htail hinside hcolon
  subst htail
  rw [List.drop_left] at hport
  rw [Url.shown_append hinside] at hshown
  have hends : authority.getLast? = (part ++ Url.shown tail).getLast? := by
    rw [hshown, hhostText, getLast?_getD_afterLast?]
    rw [← hhostText, ← hshown]
    simp [hne]
  have hbracket := h.bracket
  rw [← hhostText, ← hshown] at hbracket
  have hshape := writesPort_iff_colon hcut hshown.symm hne hhost hcolon hbracket
  rw [hwritten, hends]
  rcases Url.shown_of_readOptionalPort hport hhead with ⟨hnil, rfl⟩ | ⟨digits, hdigits, hdigit, hnone⟩
  · rw [hnil] at hshape ⊢
    obtain ⟨hwrites, hlast⟩ := hshape (by simp)
    simp [hwrites, hlast]
  · obtain ⟨hwrites, -⟩ := hshape (by simp [hdigits])
    have hcolon : writesPort cs = true := hwrites.2 (by rw [hdigits]; rfl)
    have hlast : (part ++ Url.shown tail).getLast? = some ':' ↔ digits = [] := by
      rw [hdigits, List.getLast?_append_of_ne_nil _ (List.cons_ne_nil _ _)]
      cases digits with
      | nil => simp
      | cons d digits =>
        simp only [List.getLast?_cons_cons, reduceCtorEq, iff_false]
        intro hmem
        exact absurd (hdigit ':' (List.mem_of_getLast? hmem)) (by decide)
    exact ⟨fun hport => ⟨hcolon, fun hend => hport (hnone.2 (hlast.1 hend))⟩,
      fun hport => ⟨fun _ => hlast.2 (hnone.1 hport), fun _ => hcolon⟩⟩

end

/-- A plain address has the port that it asks for, but for an empty port of `http`. -/
theorem portOf_eq_askedPort_iff_of_isPlain {authority : List Char} (hparse : Url.parse cs = .ok (.web u))
    (h : IsPlain cs authority) :
    portOf cs u = askedPort u.scheme cs ↔ u.scheme = .https ∨ authority.getLast? ≠ some ':' := by
  obtain ⟨hwritten, hmissing⟩ := writesPort_of_isPlain hparse h
  rw [portOf_eq_askedPort_iff hparse]
  cases hport : writtenPort? cs with
  | none =>
    have hcolon := hmissing hport
    cases hwrites : writesPort cs <;> simp_all
  | some p =>
    have hshown := hwritten (by simp [hport])
    simp [hshown]

/-! ## The port of an endpoint -/

/-- The text of a name with its scheme, as it is read. -/
def written (s : String) : List Char := withScheme (trimBlanks s.toList)

/-- **The port of an endpoint.** An endpoint has the port that its name asks for exactly if the scheme is `https`, or the
text shows a written 80 and no colon without a number. A name in plain spelling only misses it with an empty port. -/
theorem normalize_port (hs : trimBlanks s.toList ≠ []) (h : normalize s = .ok e) : ∃ u v,
    Url.parse (written s) = .ok (.web u) ∧ Url.parse e.toList = .ok (.web v) ∧ v.scheme = u.scheme ∧
    (v.portOrDefault = askedPort u.scheme (written s) ↔ u.scheme = .https ∨
      (writtenPort? (written s) = some 80 → writesPort (written s) = true) ∧
      (writtenPort? (written s) = none → writesPort (written s) = false)) ∧
    ∀ authority, IsPlain (written s) authority →
      (v.portOrDefault = askedPort u.scheme (written s) ↔ u.scheme = .https ∨ authority.getLast? ≠ some ':') := by
  obtain ⟨u, hparse, rfl⟩ := (normalize_eq_ok hs).1 h
  have hsound := Url.sound_of_parse hparse
  obtain ⟨p, hp, hscheme, -, hport⟩ := exists_parts_of_sound hsound (portOf_le hsound (written s))
  have hread : Url.parse (ofUrl (portOf (written s) u) u).toList = .ok (.web p.url) := by
    rw [← hp, Parts.text, String.toList_ofList]
    exact p.parse_chars
  refine ⟨u, p.url, hparse, hread, hscheme, ?_, fun authority hplain => ?_⟩
  · rw [p.portOrDefault_url, hport]
    exact portOf_eq_askedPort_iff hparse
  · rw [p.portOrDefault_url, hport]
    exact portOf_eq_askedPort_iff_of_isPlain hparse hplain

/-- A default port that is written is kept. -/
theorem normalize_port_eighty : normalize "node:80" = .ok "http://node:80" ∧ ∃ u v,
    Url.parse (written "node:80") = .ok (.web u) ∧ Url.parse "http://node:80".toList = .ok (.web v) ∧
    v.portOrDefault = askedPort u.scheme (written "node:80") := by
  have h : normalize "node:80" = .ok "http://node:80" := by decide
  have hplain : IsPlain (written "node:80") ['n', 'o', 'd', 'e', ':', '8', '0'] :=
    ⟨by decide, ⟨['h', 't', 't', 'p'], [], by decide, by simp, by simp⟩, by simp, by simp [Url.endsAuthority],
      by simp [afterLast?]⟩
  obtain ⟨u, v, hu, hv, -, -, hport⟩ := normalize_port (by decide) h
  exact ⟨h, u, v, hu, hv, (hport _ hplain).2 (.inr (by decide))⟩

/-- An empty port shows a colon, a written 80 behind two more slashes shows none, and behind a backslash the text shows
the colon of a path. -/
theorem normalize_misses_port :
    (normalize "http://node:" = .ok "http://node:80" ∧ askedPort .http (written "http://node:") = 9984) ∧
    (normalize "http:////node:80" = .ok "http://node:9984" ∧ askedPort .http (written "http:////node:80") = 80) ∧
    (normalize "http://node\\a:80" = .ok "http://node:80/a:80" ∧ askedPort .http (written "http://node\\a:80") = 9984) := by
  decide

end Endpoint
end FederatedLedger
