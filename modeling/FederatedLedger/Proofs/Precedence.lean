import FederatedLedger.Proofs.Ordered
import FederatedLedger.Proofs.Unsent

/-!
# Which header is sent

A node gets headers from three maps: those for all nodes, its own, and those of the request. The first two are put
together by name as it is spelled, but what is sent tells names apart without regard to letter case, and of two
spellings the later in byte order counts. So a header of the node gives way to one for all nodes if that spells the same
name in a way that comes later (`shared_header_is_sent`); `header_precedence` says what is sent in every case.
-/

namespace FederatedLedger

namespace Headers
variable {hs shared own : Headers} {name : String}

/-- The header of a name, in whatever letter case: as it is spelled, with its value. -/
def named? (hs : Headers) (name : String) : Option (String × String) := hs.find? fun e => sameIgnoringCase e.1 name

/-- Headers as a map holds them, in the order of their names; each can be sent, and no two spell one name. -/
structure IsPlain (hs : Headers) : Prop where
  ascending : Entries.Ascending hs
  fit : ∀ e ∈ hs, isName e.1 = true ∧ isValue e.2 = true
  spelling : ∀ e ∈ hs, ∀ f ∈ hs, sameIgnoringCase e.1 f.1 = true → e = f

instance (hs : Headers) : Decidable hs.IsPlain :=
  decidable_of_iff (Entries.Ascending hs ∧ (∀ e ∈ hs, isName e.1 = true ∧ isValue e.2 = true) ∧
      ∀ e ∈ hs, ∀ f ∈ hs, sameIgnoringCase e.1 f.1 = true → e = f)
    ⟨fun ⟨ascending, fit, spelling⟩ => ⟨ascending, fit, spelling⟩, fun h => ⟨h.ascending, h.fit, h.spelling⟩⟩

/-- What is sent of a node's header and of one for all nodes with the same name: the node's, unless the other spelling
comes later in byte order. -/
def overlaid? (shared own : Headers) (name : String) : Option (String × String) :=
  match own.named? name, shared.named? name with
  | some o, some s => if o.1 < s.1 then some s else some o
  | some o, none => some o
  | none, s => s

theorem IsPlain.eq_of_same (h : hs.IsPlain) {e f : String × String} (he : e ∈ hs) (hf : f ∈ hs)
    (hen : sameIgnoringCase e.1 name = true) (hfn : sameIgnoringCase f.1 name = true) : e = f :=
  h.spelling e he f hf (sameIgnoringCase_iff.2 ((sameIgnoringCase_iff.1 hen).trans (sameIgnoringCase_iff.1 hfn).symm))

theorem mem_of_named? {e : String × String} (h : hs.named? name = some e) : e ∈ hs ∧ sameIgnoringCase e.1 name = true := by
  unfold named? at h
  have hname := List.find?_some h
  exact ⟨List.mem_of_find?_eq_some h, hname⟩

theorem not_mem_of_named? (h : hs.named? name = none) {e : String × String} (he : e ∈ hs) :
    ¬ sameIgnoringCase e.1 name = true := by
  unfold named? at h
  exact List.find?_eq_none.1 h e he

/-! ## What is sent of one map -/

theorem sendAll_of_fit (h : ∀ e ∈ hs, isName e.1 = true ∧ isValue e.2 = true) (done : Headers) :
    sendAll done hs = .ok (Entries.overlay done (hs.map fun e => (asciiLower e.1, e.2))) := by
  induction hs generalizing done with
  | nil => rfl
  | cons e hs ih =>
    obtain ⟨⟨hname, hvalue⟩, hrest⟩ := List.forall_mem_cons.1 h
    have hfit : faulty? e.1 e.2 = none := by simp [faulty?, hname, hvalue]
    rw [sendAll, hfit]
    exact ih hrest _

theorem lookup_map_asciiLower (hs : Headers) (name : String) :
    List.lookup (asciiLower name) (hs.map fun e => (asciiLower e.1, e.2)) = (hs.named? name).map Prod.snd := by
  induction hs with
  | nil => rfl
  | cons e hs ih =>
    rw [List.map_cons, List.lookup_cons, named?, List.find?_cons, sameIgnoringCase, Bool.beq_comm]
    cases asciiLower e.1 == asciiLower name with
    | true => rfl
    | false => exact ih

/-- Headers that are fit are sent, for each name the last of its spellings. -/
theorem sent_of_fit (h : ∀ e ∈ hs, isName e.1 = true ∧ isValue e.2 = true) : ∃ named, hs.sent = .ok named ∧
    Entries.Ascending named ∧ ∀ name, named.lookup (asciiLower name) = (named? hs.reverse name).map Prod.snd := by
  refine ⟨_, sendAll_of_fit h [], Entries.ascending_ordered _, fun name => ?_⟩
  rw [Entries.lookup_overlay, List.lookup_nil, Option.or_none, ← List.map_reverse, lookup_map_asciiLower]

theorem IsPlain.named?_eq_some (h : hs.IsPlain) {e : String × String} :
    hs.named? name = some e ↔ e ∈ hs ∧ sameIgnoringCase e.1 name = true := by
  refine ⟨mem_of_named?, fun ⟨he, hen⟩ => ?_⟩
  cases hf : hs.named? name with
  | none => exact absurd hen (not_mem_of_named? hf he)
  | some f =>
    obtain ⟨hfmem, hfn⟩ := mem_of_named? hf
    rw [h.eq_of_same he hfmem hen hfn]

/-- The last header with a name is the one whose spelling all others come before. -/
theorem named?_reverse_eq_some (h : Entries.Ascending hs) {e : String × String} (he : e ∈ hs)
    (hen : sameIgnoringCase e.1 name = true) (hlast : ∀ f ∈ hs, sameIgnoringCase f.1 name = true → f.1 ≤ e.1) :
    named? hs.reverse name = some e :=
  h.find?_reverse he hen hlast

theorem IsPlain.named?_reverse (h : hs.IsPlain) (name : String) : named? hs.reverse name = hs.named? name := by
  cases hn : hs.named? name with
  | none => exact List.find?_eq_none.2 fun e he => not_mem_of_named? hn (List.mem_reverse.1 he)
  | some e =>
    obtain ⟨he, hen⟩ := mem_of_named? hn
    refine named?_reverse_eq_some h.ascending he hen fun f hf hfn => ?_
    obtain rfl := h.eq_of_same hf he hfn hen
    exact String.le_refl _

/-! ## What is sent of two maps -/

/-- What is left of two maps with one name is what either has of it. -/
theorem named?_of_mem_overlay (hshared : shared.IsPlain) (hown : own.IsPlain) {e : String × String}
    (he : e ∈ Entries.overlay shared own) (hen : sameIgnoringCase e.1 name = true) :
    own.named? name = some e ∨ shared.named? name = some e :=
  (Entries.mem_overlay he).imp (fun he => hown.named?_eq_some.2 ⟨he, hen⟩) fun he => hshared.named?_eq_some.2 ⟨he, hen⟩

/-- The node's header is the last if no other spelling comes later. -/
theorem named?_overlay_own (hshared : shared.IsPlain) (hown : own.IsPlain) {o : String × String}
    (ho : own.named? name = some o) (hlast : ∀ s, shared.named? name = some s → ¬ o.1 < s.1) :
    named? (Entries.overlay shared own).reverse name = some o := by
  obtain ⟨homem, hon⟩ := mem_of_named? ho
  refine named?_reverse_eq_some (hshared.ascending.overlay own) (Entries.mem_overlay_upper hown.ascending homem) hon ?_
  intro f hf hfn
  rcases named?_of_mem_overlay hshared hown hf hfn with h | h
  · obtain rfl := Option.some.inj (ho.symm.trans h)
    exact String.le_refl _
  · exact String.not_lt.1 (hlast f h)

/-- The header for all nodes is the last if the node's, where there is one, is spelled in a way that comes before. -/
theorem named?_overlay_shared (hshared : shared.IsPlain) (hown : own.IsPlain) {s : String × String}
    (hs : shared.named? name = some s) (hlast : ∀ o, own.named? name = some o → o.1 < s.1) :
    named? (Entries.overlay shared own).reverse name = some s := by
  obtain ⟨hsmem, hsn⟩ := mem_of_named? hs
  -- so the node does not spell it the same way, and does not replace it
  have hnone : s.1 ∉ own.map Prod.fst := by
    intro hmem
    obtain ⟨o, ho, heq⟩ := List.mem_map.1 hmem
    have hlt := hlast o (hown.named?_eq_some.2 ⟨ho, heq ▸ hsn⟩)
    exact String.lt_irrefl _ (heq ▸ hlt)
  refine named?_reverse_eq_some (hshared.ascending.overlay own)
    (Entries.mem_overlay_under hshared.ascending hown.ascending hsmem hnone) hsn ?_
  intro f hf hfn
  rcases named?_of_mem_overlay hshared hown hf hfn with h | h
  · exact String.not_lt.1 (String.lt_asymm (hlast f h))
  · obtain rfl := Option.some.inj (hs.symm.trans h)
    exact String.le_refl _

theorem named?_overlay (hshared : shared.IsPlain) (hown : own.IsPlain) (name : String) :
    named? (Entries.overlay shared own).reverse name = overlaid? shared own name := by
  unfold overlaid?
  cases ho : own.named? name with
  | none =>
    cases hs : shared.named? name with
    | none =>
      refine List.find?_eq_none.2 fun e he hen => ?_
      rcases named?_of_mem_overlay hshared hown (List.mem_reverse.1 he) hen with h | h
      · rw [ho] at h; cases h
      · rw [hs] at h; cases h
    | some s => exact named?_overlay_shared hshared hown hs fun o h => by rw [ho] at h; cases h
  | some o =>
    cases hs : shared.named? name with
    | none => exact named?_overlay_own hshared hown ho fun s h => by rw [hs] at h; cases h
    | some s =>
      dsimp only
      split
      · rename_i hlt
        exact named?_overlay_shared hshared hown hs fun o' h => Option.some.inj (ho.symm.trans h) ▸ hlt
      · rename_i hlt
        exact named?_overlay_own hshared hown ho fun s' h => Option.some.inj (hs.symm.trans h) ▸ hlt

end Headers

theorem NodeSpec.headers_of_node {shared : Headers} {spec : NodeSpec} {node : Node} (h : spec.node shared = .ok node) :
    node.headers = Entries.overlay shared spec.headers := by
  unfold NodeSpec.node at h
  cases he : Endpoint.normalize spec.endpoint with
  | error e => rw [he] at h; cases h
  | ok endpoint =>
    rw [he] at h
    cases h
    rfl

namespace Connection
open Headers

theorem ascending_implied (u : Url) (r : Request) : Entries.Ascending (implied u r) := by
  have hauthorization : Entries.Ascending (authorization u) := by
    unfold authorization
    split
    · exact .nil
    · exact List.pairwise_singleton _ _
  unfold implied
  split
  · exact hauthorization
  · exact hauthorization.insert _ _

theorem lookup_implied_of_ne {u : Url} {r : Request} {name : String} (hauthorization : name ≠ "authorization")
    (hcontent : name ≠ "content-type") : (implied u r).lookup name = none := by
  have hnone : (authorization u).lookup name = none := by
    unfold authorization
    split
    · rfl
    · exact (Entries.lookup_cons_of_ne [] hauthorization _).trans rfl
  unfold implied
  split
  · exact hnone
  · exact (Entries.lookup_insert_of_ne hcontent _ _).trans hnone

/-- The headers of a composed request. -/
theorem compose_ok {c : Connection} {r : Request} {out : Outgoing} (h : c.compose r = .ok out) :
    ∃ named u, r.headers.sent = .ok named ∧ Url.parse (c.urlFor r.path).toList = .ok (.web u) ∧
      out.headers = Entries.overlay c.headers (Entries.overlay (implied u r) named) := by
  unfold compose at h
  split at h
  · cases h
  · rename_i named hnamed
    dsimp only at h
    split at h
    · cases h
    · cases h
    · rename_i u hu
      cases h
      exact ⟨named, u, hnamed, hu, rfl⟩

/-- A header that the request names wins over those that it implies, and those over the node's. -/
theorem lookup_composed {c : Connection} {r : Request} {out : Outgoing} (h : c.compose r = .ok out)
    (hcall : r.headers.IsPlain) : ∃ u, Url.parse (c.urlFor r.path).toList = .ok (.web u) ∧ ∀ name,
      out.headers.lookup (asciiLower name) = ((r.headers.named? name).map Prod.snd).or
        (((implied u r).lookup (asciiLower name)).or (c.headers.lookup (asciiLower name))) := by
  obtain ⟨named, u, hnamed, hu, hheaders⟩ := compose_ok h
  refine ⟨u, hu, fun name => ?_⟩
  obtain ⟨named', hnamed', hascending, hlookup⟩ := sent_of_fit hcall.fit
  obtain rfl : named' = named := Except.ok.inj (hnamed'.symm.trans hnamed)
  rw [hheaders, Entries.lookup_overlay_of_nodup ((ascending_implied u r).overlay named').nodup,
    Entries.lookup_overlay_of_nodup hascending.nodup, hlookup, hcall.named?_reverse, Option.or_assoc]

/-- The headers of a node, put together from those for all nodes and its own. -/
theorem lookup_toNode {shared own : Headers} (endpoint : String) (hshared : shared.IsPlain) (hown : own.IsPlain) :
    ∃ c, toNode ⟨endpoint, Entries.overlay shared own⟩ = .ok c ∧
      ∀ name, c.headers.lookup (asciiLower name) = (shared.overlaid? own name).map Prod.snd := by
  have hfit : ∀ e ∈ Entries.overlay shared own, isName e.1 = true ∧ isValue e.2 = true := fun e he =>
    (Entries.mem_overlay he).elim (hown.fit e) (hshared.fit e)
  obtain ⟨named, hnamed, -, hlookup⟩ := sent_of_fit hfit
  refine ⟨⟨endpoint, named⟩, ?_, fun name => ?_⟩
  · rw [toNode, hnamed]
  · rw [hlookup, named?_overlay hshared hown]

/-- **Which header is sent.** With headers that can be sent, a node can be connected to, and no request is refused for
its headers. The node gets, for each name, the header that the request names; else the one that it implies; else the
node's or the one for all nodes, of two spellings the later in byte order. -/
theorem header_precedence {shared : Headers} {spec : NodeSpec} {node : Node} {r : Request} (hshared : shared.IsPlain)
    (hown : spec.headers.IsPlain) (hcall : r.headers.IsPlain) (hnode : spec.node shared = .ok node) :
    ∃ c, toNode node = .ok c ∧ (∀ header, c.compose r ≠ .error (.header header)) ∧
      ∀ out, c.compose r = .ok out → ∃ u, Url.parse (c.urlFor r.path).toList = .ok (.web u) ∧ ∀ name,
        out.headers.lookup (asciiLower name) = ((r.headers.named? name).map Prod.snd).or
          (((implied u r).lookup (asciiLower name)).or ((shared.overlaid? spec.headers name).map Prod.snd)) := by
  obtain ⟨endpoint, headers⟩ := node
  obtain rfl : headers = Entries.overlay shared spec.headers := NodeSpec.headers_of_node hnode
  obtain ⟨c, hc, hlookup⟩ := lookup_toNode endpoint hshared hown
  refine ⟨c, hc, fun header h => ?_, fun out hout => ?_⟩
  · obtain ⟨named, hnamed, -⟩ := sent_of_fit hcall.fit
    rcases compose_error h with ⟨name, hname, -⟩ | ⟨-, cause, he⟩
    · rw [hnamed] at hname; cases hname
    · cases he
  · obtain ⟨u, hu, hcomposed⟩ := lookup_composed hout hcall
    exact ⟨u, hu, fun name => by rw [hcomposed, hlookup]⟩

/-! ## Runs -/

/-- What a specified node gets of a request, if nothing fails on the way. -/
def outgoing? (shared : Headers) (spec : NodeSpec) (r : Request) : Option Outgoing := do
  let node ← (spec.node shared).toOption
  let c ← (toNode node).toOption
  (c.compose r).toOption

theorem outgoing?_eq_some {shared : Headers} {spec : NodeSpec} {r : Request} {out : Outgoing}
    (h : outgoing? shared spec r = some out) :
    ∃ node c, spec.node shared = .ok node ∧ toNode node = .ok c ∧ c.compose r = .ok out := by
  have hok {ε α : Type} {x : Except ε α} {a : α} (h : x.toOption = some a) : x = .ok a := by
    cases x with
    | error e => cases h
    | ok b => cases h; rfl
  obtain ⟨node, hnode, h⟩ := Option.bind_eq_some_iff.1 h
  obtain ⟨c, hc, hout⟩ := Option.bind_eq_some_iff.1 h
  exact ⟨node, c, hok hnode, hok hc, hok hout⟩

/-- A header of the request, one of the node that is spelled later, and one for all nodes that is. -/
theorem header_precedence_three : ∃ (shared : Headers) (spec : NodeSpec) (r : Request) (node : Node) (c : Connection)
    (out : Outgoing), spec.node shared = .ok node ∧ toNode node = .ok c ∧ c.compose r = .ok out ∧
    out.headers.lookup "x-tag" = some "call" ∧ out.headers.lookup "x-late" = some "node" ∧
    out.headers.lookup "x-key" = some "shared" := by
  let shared : Headers := [("X-Late", "shared"), ("X-Tag", "shared"), ("x-key", "shared")]
  let spec : NodeSpec := .detailed "node1" [("X-Key", "node"), ("x-late", "node"), ("x-tag", "node")]
  let r : Request := Request.get.withHeader "X-tag" "call"
  have hsome : (outgoing? shared spec r).isSome = true := by decide +kernel
  obtain ⟨out, hout⟩ := Option.isSome_iff_exists.1 hsome
  obtain ⟨node, c, hnode, hc, hout⟩ := outgoing?_eq_some hout
  have hshared : shared.IsPlain := by decide +kernel
  have hown : spec.headers.IsPlain := by decide +kernel
  have hcall : r.headers.IsPlain := by decide +kernel
  obtain ⟨c', hc', -, hlookup⟩ := header_precedence hshared hown hcall hnode
  obtain rfl : c' = c := Except.ok.inj (hc'.symm.trans hc)
  obtain ⟨u, -, hlookup⟩ := hlookup out hout
  have hsent (name : String) (hlower : asciiLower name = name) (h : (implied u r).lookup name = none) :
      out.headers.lookup name =
        ((r.headers.named? name).map Prod.snd).or ((shared.overlaid? spec.headers name).map Prod.snd) := by
    have := hlookup name
    rwa [hlower, h, Option.none_or] at this
  refine ⟨shared, spec, r, node, c', out, hnode, hc, hout, ?_, ?_, ?_⟩
  · rw [hsent "x-tag" (by decide +kernel) (lookup_implied_of_ne (by decide) (by decide))]
    decide +kernel
  · rw [hsent "x-late" (by decide +kernel) (lookup_implied_of_ne (by decide) (by decide))]
    decide +kernel
  · rw [hsent "x-key" (by decide +kernel) (lookup_implied_of_ne (by decide) (by decide))]
    decide +kernel

/-- Of two spellings of a name the one for all nodes comes later, and its value is sent in place of the node's. -/
theorem shared_header_is_sent : ∃ (shared : Headers) (spec : NodeSpec) (node : Node) (c : Connection) (out : Outgoing),
    shared.IsPlain ∧ spec.headers.IsPlain ∧ Request.get.headers.IsPlain ∧ spec.node shared = .ok node ∧
    toNode node = .ok c ∧ c.compose Request.get = .ok out ∧ Request.get.headers.named? "x-key" = none ∧
    spec.headers.named? "x-key" = some ("X-Key", "node") ∧ out.headers.lookup "x-key" = some "driver" := by
  let shared : Headers := [("x-key", "driver")]
  let own : Headers := [("X-Key", "node")]
  have hrun : (outgoing? shared (.detailed "node1" own) Request.get).map (fun out => out.headers.lookup "x-key") =
      some (some "driver") := by decide +kernel
  obtain ⟨out, hout, hkey⟩ := Option.map_eq_some_iff.1 hrun
  obtain ⟨node, c, hnode, hc, hout⟩ := outgoing?_eq_some hout
  exact ⟨shared, _, node, c, out, by decide +kernel, by decide +kernel, by decide +kernel, hnode, hc, hout, rfl,
    by decide +kernel, hkey⟩

end Connection
end FederatedLedger
