import FederatedLedger.Config.File
import FederatedLedger.Proofs.RoundTrip

/-!
# Settings in JSON and back

Each section of a configuration is read from its own form again (`BackoffConfig.read?_document` and so on). Only the time
limit is a double, and what is read for it is what its digits stand for; so the form of a configuration gives it back
with the limit that was read (`Config.read?_document`), and its text gives it back exactly if the limit is read as it is
printed (`Config.ofJson?_text_iff`). What is read from any text has its headers in order and a finite limit
(`Config.held_of_ofJson?`), whichever of its sections and fields were there, and can be read again from its own text
(`Config.settings_round_trip`).
-/

namespace FederatedLedger

/-! ## Values of fields -/

namespace Json
variable {room : Nat}

/-- A map from names to texts is read as it is, if its names are in order. -/
theorem texts?_document {ms : List (String × String)} (hroom : room ≠ 0) (h : Entries.Ascending ms) :
    (ofTexts ms).document.texts? room = some ms := by
  have hmembers : (ofTexts ms).document.members? room = some (fieldDocuments (ms.map fun m => (m.1, .string m.2))) :=
    members?_document hroom
  have hread : (fieldDocuments (ms.map fun m => (m.1, .string m.2))).mapM (fun m => m.2.string?.map (m.1, ·)) =
      some ms := by
    clear hmembers h
    induction ms with
    | nil => rfl
    | cons m ms ih =>
      rw [List.map_cons, fieldDocuments, List.map_cons, List.mapM_cons, ← fieldDocuments, ih]
      rfl
  exact Option.bind_eq_some_iff.2 ⟨_, hmembers, Option.bind_eq_some_iff.2 ⟨_, hread, congrArg some h.ordered_eq⟩⟩

/-- Such a map has its members in order, and no numbers. -/
theorem faithful_ofTexts {ms : List (String × String)} (h : Entries.Ascending ms) : (ofTexts ms).Faithful := by
  refine .object ?_ (List.forall_mem_map.2 fun _ _ => .string _)
  rw [Entries.Ascending, List.map_map]
  exact h

theorem isFinite_ofTexts (ms : List (String × String)) : (ofTexts ms).isFinite = true :=
  isFinite_object (List.forall_mem_map.2 fun _ _ => rfl)

theorem word64?_document (n : UInt64) : word64? (ofNat n.toNat).document = some n := by
  rw [word64?, natural?_document n.toNat_lt (Nat.le_refl _), Option.map_some, UInt64.ofNat_toNat]

theorem word32?_document (n : UInt32) : word32? (ofNat n.toNat).document = some n := word?_document n

end Json

/-- The form of a section is an object, from which both readers of sections take the same. -/
theorem Surplus.record?_document (s : Surplus) {members : List (String × Json)} {names : List String} {room : Nat}
    (hroom : room ≠ 0) (hnodup : (members.map Prod.fst).Nodup) (hknown : ∀ m ∈ members, names.contains m.1 = true) :
    s.record? names room (Json.object members).document = some (Json.fields members) := by
  rw [← Json.record?_document hroom hnodup hknown]
  cases s <;> rfl

/-! ## Sections -/

section
variable {room : Nat}

/-- Everything in the form of a node has a value. -/
theorem NodeSpec.value?_document {n : NodeSpec} (h : n.headers.Ascending) :
    n.toJson.document.value? (room + 2) = some n.toJson := by
  cases n with
  | plain e => rfl
  | detailed e hs =>
    have hfaithful : (toJson (detailed e hs)).Faithful := by
      have hlt : "endpoint" < "headers" := by decide
      refine .object (List.pairwise_pair.2 hlt) ?_
      simp only [List.forall_mem_cons, List.not_mem_nil, false_implies, implies_true, and_true]
      exact ⟨.string e, Json.faithful_ofTexts h⟩
    have hdepth : (toJson (detailed e hs)).depth ≤ room + 2 := by
      refine Json.depth_object_le_iff.2 ?_
      simp only [List.forall_mem_cons, List.not_mem_nil, false_implies, implies_true, and_true]
      exact ⟨Nat.zero_le _, Json.depth_object_le_iff.2 (List.forall_mem_map.2 fun _ _ => Nat.zero_le room)⟩
    exact Json.value?_document hfaithful.ordered hfaithful.stable hdepth

/-- A node is read from its form, with headers if it was written with headers, be they none, and else without. -/
theorem NodeSpec.read?_document {n : NodeSpec} (h : n.headers.Ascending) :
    NodeSpec.read? (room + 2) n.toJson.document = some n := by
  have hvalue : n.toJson.document.value? (room + 2) = _ := value?_document h
  cases n with
  | plain e => rfl
  | detailed e hs =>
    have hrecord : (toJson (detailed e hs)).document.namedRecord? ["endpoint", "headers"] (room + 2) =
        some (Json.fields _) := Json.namedRecord?_document (Nat.succ_ne_zero _) (by simp)
    have hheaders : (Json.ofTexts hs).document.texts? (room + 1) = some hs :=
      Json.texts?_document (Nat.succ_ne_zero room) h
    obtain ⟨members, hobject⟩ : ∃ members, (toJson (detailed e hs)).document = .object members := ⟨_, rfl⟩
    rw [hobject] at hvalue hrecord ⊢
    rw [read?, hvalue]
    simp [hrecord, Json.required?_fields, Json.defaulted?_fields, List.lookup_cons, hheaders, guard, Json.document,
      Document.string?]

theorem BackoffConfig.read?_document (c : BackoffConfig) (s : Surplus) :
    BackoffConfig.read? s (room + 1) c.toJson.document = some c := by
  have hrecord : s.record? ["initial_delay_ms", "max_retries", "no_timeout_cap_secs", "jitter"] (room + 1)
      c.toJson.document = some (Json.fields _) := s.record?_document (Nat.succ_ne_zero room) (by simp) (by simp)
  rw [read?, hrecord]
  simp [Json.defaulted?_fields, List.lookup_cons, Json.word64?_document, Json.word32?_document, Json.document,
    Document.bool?]

theorem LogConfig.read?_document (c : LogConfig) (s : Surplus) :
    LogConfig.read? s (room + 1) c.toJson.document = some c := by
  have hrecord : s.record? ["log_level"] (room + 1) c.toJson.document = some (Json.fields _) :=
    s.record?_document (Nat.succ_ne_zero room) (by simp) (by simp)
  rw [read?, hrecord]
  simp [Json.defaulted?_fields, Json.document, Document.string?]

/-- The form of the time limit of calls. -/
def CallConfig.limit (c : CallConfig) : Json := .ofOption (fun x => .number (.float x)) c.timeoutSecs

/-- The section of calls is read but for the time limit, which is what its form is read as. -/
theorem CallConfig.read?_document (c : CallConfig) (s : Surplus) :
    CallConfig.read? s (room + 1) c.toJson.document =
      (c.limit.document.optional? Document.float?).map fun t => { c with timeoutSecs := t } := by
  have hrecord : s.record? ["timeout_secs", "retry_unavailable"] (room + 1) c.toJson.document = some (Json.fields _) :=
    s.record?_document (Nat.succ_ne_zero room) (by simp) (by simp)
  rw [read?, hrecord]
  have hretry : (Json.bool c.retryUnavailable).document.bool? = some c.retryUnavailable := rfl
  simp [Json.defaulted?_fields, List.lookup_cons, limit, hretry, Option.map_eq_bind]

end

/-! ## The time limit -/

/-- A double is written with a point or an exponent, so no integer is read for it. -/
theorem Number.value?_literal_float (x : Binary64) :
    (Number.float x).literal.value? = (Number.float x).literal.float?.map .float := by
  obtain ⟨-, hpoint, -⟩ := literal_float x
  unfold Literal.value?
  split
  · rename_i hfraction hexponent
    exact absurd hfraction (hpoint hexponent)
  · rfl

namespace CallConfig
variable {c : CallConfig}

/-- Whether the time limit, if there is one, is read as it is printed. No infinity is, and no NaN. -/
def isExact (c : CallConfig) : Bool := c.timeoutSecs.all fun x => (Number.float x).isExact

theorem isFinite_limit (h : c.isExact = true) : c.limit.isFinite = true := by
  obtain ⟨_ | x, retryUnavailable⟩ := c
  · rfl
  · exact Literal.isFinite_of_value? (of_decide_eq_true h)

/-- The time limit is read as it was if its digits stand for it. -/
theorem read_limit_iff : c.limit.document.optional? Document.float? = some c.timeoutSecs ↔ c.isExact = true := by
  obtain ⟨_ | x, retryUnavailable⟩ := c
  · simp [limit, isExact, Json.ofOption, Json.document, Document.optional?]
  · have hread (y : Option Binary64) : (Document.number (y.map .float)).optional? Document.float? = y.map some := by
      cases y <;> rfl
    simp [limit, isExact, Json.ofOption, Json.document, Number.isExact, Number.value?_literal_float, hread]

end CallConfig

/-! ## What is read -/

theorem Document.ascending_of_texts? {d : Document} {room : Nat} {ms : List (String × String)}
    (h : d.texts? room = some ms) : Entries.Ascending ms := by
  obtain ⟨members, -, h⟩ := Option.bind_eq_some_iff.1 h
  obtain ⟨entries, -, h⟩ := Option.bind_eq_some_iff.1 h
  cases h
  exact Entries.ascending_ordered entries

/-- A map that is read, or is not there and taken for empty, is in order. -/
theorem Record.ascending_of_defaulted? {r : Record} {name : String} {room : Nat} {ms : List (String × String)}
    (h : r.defaulted? name [] (Document.texts? room) = some ms) : Entries.Ascending ms := by
  rcases read_of_defaulted? h with rfl | ⟨e, -, he⟩
  · exact Entries.ascending_nil
  · exact Document.ascending_of_texts? he

theorem NodeSpec.ascending_of_read? {d : Document} {room : Nat} {n : NodeSpec} (h : NodeSpec.read? room d = some n) :
    n.headers.Ascending := by
  obtain ⟨-, -, h⟩ := Option.bind_eq_some_iff.1 h
  cases d with
  | string s =>
    obtain ⟨e, -, h⟩ := Option.bind_eq_some_iff.1 h
    cases h
    exact Entries.ascending_nil
  | object members =>
    obtain ⟨r, -, h⟩ := Option.bind_eq_some_iff.1 h
    obtain ⟨e, -, h⟩ := Option.bind_eq_some_iff.1 h
    obtain ⟨hs, hheaders, h⟩ := Option.bind_eq_some_iff.1 h
    cases h
    exact Record.ascending_of_defaulted? hheaders
  | _ => cases h

/-- A double that is read from numbers in range is finite, also where they are integers. -/
theorem Document.isFinite_of_float? {d : Document} {x : Binary64} (hd : d.numbersPass Number.inRange = true)
    (h : d.float? = some x) : x.isFinite = true := by
  match d, hd, h with
  | .number (some (.float x)), hd, rfl => exact hd
  | .number (some (.int n)), hd, rfl =>
    obtain ⟨hlow, hhigh⟩ := Number.isStable_int_iff.1 hd
    refine Binary64.isFinite_ofInt ?_
    simp only [UInt64.size]
    omega

theorem CallConfig.isFinite_of_read? {d : Document} {room : Nat} {c : CallConfig}
    (hd : d.numbersPass Number.inRange = true) (h : CallConfig.read? .refused room d = some c) :
    ∀ x ∈ c.timeoutSecs, x.isFinite = true := by
  obtain ⟨r, hr, h⟩ := Option.bind_eq_some_iff.1 h
  obtain ⟨t, ht, h⟩ := Option.bind_eq_some_iff.1 h
  obtain ⟨retryUnavailable, -, h⟩ := Option.bind_eq_some_iff.1 h
  cases h
  rintro x rfl
  rcases Record.read_of_defaulted? ht with hnone | ⟨e, hmem, he⟩
  · cases hnone
  · exact Document.isFinite_of_float? (Document.numbersPass_of_record? hd hr e hmem) (Document.read_of_optional? he)

/-! ## Configurations -/

namespace Config
variable {c : Config} {room : Nat}

/-- A configuration as programs hold it: the headers for all nodes are a map, and so are those of each node. -/
structure Held (c : Config) : Prop where
  headers : c.headers.Ascending
  nodes : ∀ n ∈ c.nodes, n.headers.Ascending

instance (c : Config) : Decidable c.Held :=
  decidable_of_iff (c.headers.Ascending ∧ ∀ n ∈ c.nodes, n.headers.Ascending)
    ⟨fun ⟨headers, nodes⟩ => ⟨headers, nodes⟩, fun h => ⟨h.headers, h.nodes⟩⟩

/-- The configuration with another time limit. -/
def withLimit (c : Config) (t : Option Binary64) : Config := { c with calls := { c.calls with timeoutSecs := t } }

/-- A configuration is read from its form but for the time limit, which is what its own form is read as. -/
theorem read?_document (h : c.Held) (s : Surplus) :
    Config.read? s (room + 4) c.toJson.document = (c.calls.limit.document.optional? Document.float?).map c.withLimit := by
  have hrecord : s.record? ["nodes", "headers", "transport", "backoff", "observability"] (room + 4) c.toJson.document =
      some (Json.fields _) := s.record?_document (Nat.succ_ne_zero _) (by simp) (by simp)
  have hnodes : Document.list? NodeSpec.read? (room + 3) (Json.array (c.nodes.map NodeSpec.toJson)).document =
      some c.nodes := Json.list?_document (Nat.succ_ne_zero _) fun n hn => NodeSpec.read?_document (h.nodes n hn)
  have hheaders : (Json.ofTexts c.headers).document.texts? (room + 3) = some c.headers :=
    Json.texts?_document (Nat.succ_ne_zero _) h.headers
  rw [Config.read?, hrecord]
  simp [Json.defaulted?_fields, List.lookup_cons, hnodes, hheaders, CallConfig.read?_document,
    BackoffConfig.read?_document, LogConfig.read?_document]
  cases c.calls.limit.document.optional? Document.float? <;> rfl

/-! ## Texts -/

theorem isFinite_toJson (h : c.calls.limit.isFinite = true) : c.toJson.isFinite = true := by
  have hnode (n : NodeSpec) : n.toJson.isFinite = true := by
    cases n with
    | plain e => rfl
    | detailed e hs =>
      refine Json.isFinite_object ?_
      simp only [List.forall_mem_cons, List.not_mem_nil, false_implies, implies_true, and_true]
      exact ⟨rfl, Json.isFinite_ofTexts hs⟩
  have hcalls : c.calls.toJson.isFinite = true := by
    refine Json.isFinite_object ?_
    simp only [List.forall_mem_cons, List.not_mem_nil, false_implies, implies_true, and_true]
    exact ⟨h, rfl⟩
  refine Json.isFinite_object ?_
  simp only [List.forall_mem_cons, List.not_mem_nil, false_implies, implies_true, and_true]
  exact ⟨Json.isFinite_map hnode _, Json.isFinite_ofTexts _, hcalls, rfl, rfl⟩

/-- A limit that is not finite is printed as none is. -/
theorem text_of_not_finite (h : c.calls.limit.isFinite = false) : c.toJson.text = (c.withLimit none).toJson.text := by
  have hlimit : c.calls.limit.chars = Json.null.chars := by
    obtain ⟨nodes, headers, ⟨_ | x, retryUnavailable⟩, backoff, logging⟩ := c
    · rfl
    · have hx : x.isFinite = false := h
      simp [CallConfig.limit, Json.ofOption, Json.chars, Number.chars, hx]
  have hform (d : CallConfig) :
      d.toJson = .object [("timeout_secs", d.limit), ("retry_unavailable", .bool d.retryUnavailable)] := rfl
  have hcalls : c.calls.toJson.chars = (c.withLimit none).calls.toJson.chars := by
    rw [hform, hform, Json.chars, Json.chars, Json.memberChars, Json.memberChars, hlimit]
    rfl
  simp only [Json.text, toJson, Json.chars, Json.memberChars, hcalls]
  rfl

theorem ofJson?_text (h : c.Held) (hfinite : c.calls.limit.isFinite = true) :
    ofJson? c.toJson.text = (c.calls.limit.document.optional? Document.float?).map c.withLimit := by
  rw [ofJson?, Document.parse?_text (isFinite_toJson hfinite)]
  exact read?_document h .refused

/-- **A configuration is read from its text**, if and only if its time limit is read as it is printed. -/
theorem ofJson?_text_iff (h : c.Held) : ofJson? c.toJson.text = some c ↔ c.calls.isExact = true := by
  cases hfinite : c.calls.limit.isFinite with
  | true =>
    have hlimit (t : Option Binary64) : c.withLimit t = c ↔ t = c.calls.timeoutSecs :=
      ⟨fun ht => congrArg (fun d : Config => d.calls.timeoutSecs) ht, fun ht => by subst ht; rfl⟩
    rw [ofJson?_text h hfinite, ← CallConfig.read_limit_iff, Option.map_eq_some_iff]
    simp only [hlimit, exists_eq_right]
  | false =>
    have hlost : ofJson? c.toJson.text = some (c.withLimit none) := by
      rw [text_of_not_finite hfinite]
      exact ofJson?_text (c := c.withLimit none) ⟨h.headers, h.nodes⟩ rfl
    refine ⟨fun hread => ?_, fun hexact => absurd (CallConfig.isFinite_limit hexact) (by rw [hfinite]; decide)⟩
    rw [hlost, Option.some.injEq] at hread
    -- What is read has no limit, so the configuration has none.
    rw [← hread]
    rfl

/-- Whatever is read is a configuration as programs hold it, with a finite limit if it has one. -/
theorem held_of_ofJson? {text : String} (h : ofJson? text = some c) :
    c.Held ∧ ∀ x ∈ c.calls.timeoutSecs, x.isFinite = true := by
  obtain ⟨d, hd, h⟩ := Option.bind_eq_some_iff.1 h
  have hrange := Document.numbersPass_of_parse? (fun _ _ => Literal.inRange_of_value?) hd
  obtain ⟨r, hr, h⟩ := Option.bind_eq_some_iff.1 h
  have hfields := Document.numbersPass_of_record? hrange hr
  obtain ⟨nodes, hnodes, h⟩ := Option.bind_eq_some_iff.1 h
  obtain ⟨headers, hheaders, h⟩ := Option.bind_eq_some_iff.1 h
  obtain ⟨calls, hcalls, h⟩ := Option.bind_eq_some_iff.1 h
  obtain ⟨backoff, -, h⟩ := Option.bind_eq_some_iff.1 h
  obtain ⟨logging, -, h⟩ := Option.bind_eq_some_iff.1 h
  cases h
  refine ⟨⟨Record.ascending_of_defaulted? hheaders, ?_⟩, ?_⟩
  · rcases Record.read_of_defaulted? hnodes with rfl | ⟨e, -, he⟩
    · exact nofun
    · obtain ⟨n, -, hitems⟩ := Document.list?_eq_some he
      intro spec hspec
      obtain ⟨e, he⟩ := hitems spec hspec
      exact NodeSpec.ascending_of_read? he
  · rcases Record.read_of_defaulted? hcalls with rfl | ⟨e, hmem, he⟩
    · exact nofun
    · exact CallConfig.isFinite_of_read? (hfields e hmem) he

/-- **Round trips.** A configuration is read from its text again, if and only if its time limit is read as it is printed.
A configuration that is read from any text has a finite limit, if it has one; and if this is read as it is printed, the
configuration is read from its own text again, with the same options and the same problems. -/
theorem settings_round_trip :
    (∀ c : Config, c.Held → (ofJson? c.toJson.text = some c ↔ c.calls.isExact = true)) ∧
    ∀ (text : String) (c : Config), ofJson? text = some c → (c.Held ∧ ∀ x ∈ c.calls.timeoutSecs, x.isFinite = true) ∧
      (c.calls.isExact = true → ∃ d, ofJson? c.toJson.text = some d ∧ d = c ∧ d.options = c.options ∧
        d.problems = c.problems) := by
  refine ⟨fun c => ofJson?_text_iff, fun text c h => ?_⟩
  have hheld := held_of_ofJson? h
  exact ⟨hheld, fun hexact => ⟨c, (ofJson?_text_iff hheld.1).2 hexact, rfl, rfl, rfl⟩⟩

/-- A configuration that says everything; and a text that leaves out two sections, gives one by position without its
last field and one with a field that is not known, and has the headers of a node out of order. -/
theorem settings_round_trip_partial : ∃ (c d : Config) (text : String),
    c.calls.timeoutSecs = some (Binary64.ofDecimal false 15 (-1)) ∧ ofJson? c.toJson.text = some c ∧
    ofJson? text = some d ∧ d.nodes = [.plain "localhost", .detailed "node" [("a", "1"), ("b", "2")]] ∧
    d.calls = ⟨some (Binary64.ofNat 20), false⟩ ∧ d.backoff = ⟨500, 10, 10, true⟩ ∧
    ofJson? d.toJson.text = some d := by
  let c : Config := ⟨[.plain "localhost", .detailed "https://node.xyz" [("app_key", "k")], .detailed "node" []],
    [("a", "1"), ("b", "2")], ⟨some (Binary64.ofDecimal false 15 (-1)), true⟩, ⟨18446744073709551615, 31, 10, true⟩, ⟨"debug"⟩⟩
  let text := "\x7b\"transport\":[20],\"other\":[1.5],\"backoff\":\x7b\"jitter\":true,\"more\":null\x7d," ++
    "\"nodes\":[\"localhost\",\x7b\"headers\":\x7b\"b\":\"2\",\"a\":\"1\"\x7d,\"endpoint\":\"node\"\x7d]\x7d"
  let d : Config := ⟨[.plain "localhost", .detailed "node" [("a", "1"), ("b", "2")]], [],
    ⟨some (Binary64.ofNat 20), false⟩, ⟨500, 10, 10, true⟩, LogConfig.standard⟩
  have hread : ofJson? text = some d := by decide +kernel
  have hexact : c.calls.isExact = true := by decide +kernel
  have hpartial : d.calls.isExact = true := by decide +kernel
  obtain ⟨e, he, rfl, -, -⟩ := (settings_round_trip.2 text d hread).2 hpartial
  exact ⟨c, _, text, rfl, (settings_round_trip.1 c (by decide +kernel)).2 hexact, hread, rfl, rfl, rfl, he⟩

end Config

end FederatedLedger
