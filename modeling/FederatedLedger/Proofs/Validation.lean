import FederatedLedger.Client
import FederatedLedger.Config.Validation
import FederatedLedger.Proofs.Precedence
import Mathlib.Data.List.Forall2

/-!
# Which configurations make a client

A configuration is checked (`Config.problems`) and a client is made of it (`Client.ofConfig`) in two walks over the same
data. The check looks at the endpoint of each node and at the name of each header; a connection takes the headers as they
are put together for its node, and looks at their values too. So a valid configuration makes a client if and only if no
value in those headers is at fault (`client_of_valid`), and one with a line break in a value is valid and makes none
(`bad_value_makes_no_client`).
-/

namespace FederatedLedger

/-! ## All or the first failure -/

section
variable {ε α β : Type} {f : α → Except ε β}

theorem mapM_eq_ok {as : List α} {bs : List β} :
    as.mapM f = .ok bs ↔ List.Forall₂ (fun a b => f a = .ok b) as bs := by
  induction as generalizing bs with
  | nil => cases bs <;> simp [pure, Except.pure]
  | cons a as ih =>
    rw [List.mapM_cons]
    cases ha : f a with
    | error e => cases bs <;> simp [bind, Except.bind, ha]
    | ok b =>
      cases hrest : as.mapM f with
      | error e => cases bs <;> simp [bind, Except.bind, ha, ← ih, hrest]
      | ok rest => cases bs <;> simp [bind, Except.bind, pure, Except.pure, ha, ← ih, hrest]

/-- The failure of a list is that of one of its elements. -/
theorem mapM_eq_error {as : List α} {e : ε} (h : as.mapM f = .error e) : ∃ a ∈ as, f a = .error e := by
  induction as with
  | nil => cases h
  | cons a as ih =>
    rw [List.mapM_cons] at h
    cases ha : f a with
    | error e' =>
      rw [ha] at h
      cases h
      exact ⟨a, List.mem_cons_self, ha⟩
    | ok b =>
      cases hrest : as.mapM f with
      | error e' =>
        rw [ha, hrest] at h
        cases h
        obtain ⟨x, hx, he⟩ := ih hrest
        exact ⟨x, List.mem_cons_of_mem _ hx, he⟩
      | ok rest =>
        rw [ha, hrest] at h
        cases h

theorem mapM_isOk_iff {as : List α} : (∃ bs, as.mapM f = .ok bs) ↔ ∀ a ∈ as, ∃ b, f a = .ok b := by
  constructor
  · rintro ⟨bs, h⟩
    have hall := (mapM_eq_ok.1 h).imp fun a b hb => And.intro (Exists.intro b hb) hb
    exact ((List.forall₂_and_left _ _).1 hall).1
  · intro h
    cases hm : as.mapM f with
    | ok bs => exact ⟨bs, rfl⟩
    | error e =>
      obtain ⟨a, ha, he⟩ := mapM_eq_error hm
      obtain ⟨b, hb⟩ := h a ha
      rw [he] at hb
      cases hb

end

/-! ## Headers -/

namespace Headers
variable {hs done sent : Headers} {name : String}

/-- Sending stops at a header that no request can carry. -/
theorem sendAll_eq_error (h : sendAll done hs = .error name) : ∃ e ∈ hs, faulty? e.1 e.2 = some name := by
  induction hs generalizing done with
  | nil => cases h
  | cons e hs ih =>
    rw [sendAll] at h
    split at h
    · rename_i hfaulty
      cases h
      exact ⟨e, List.mem_cons_self, hfaulty⟩
    · obtain ⟨x, hx, hfaulty⟩ := ih h
      exact ⟨x, List.mem_cons_of_mem _ hx, hfaulty⟩

theorem sendAll_eq_ok (h : sendAll done hs = .ok sent) : ∀ e ∈ hs, faulty? e.1 e.2 = none := by
  induction hs generalizing done with
  | nil => exact nofun
  | cons e hs ih =>
    rw [sendAll] at h
    split at h
    · cases h
    · rename_i hfit
      exact List.forall_mem_cons.2 ⟨hfit, ih h⟩

/-- With a fit name only the value can be at fault. -/
theorem faulty?_of_name {name value : String} (h : isName name = true) :
    faulty? name value = if isValue value then none else some (asciiLower name) := by
  simp only [faulty?, h, Bool.not_true, Bool.false_eq_true, if_false]
  cases isValue value <;> rfl

/-- Headers with fit names can be sent if their values are fit. -/
theorem sent_isOk_iff (hnames : ∀ e ∈ hs, isName e.1 = true) :
    (∃ sent, hs.sent = .ok sent) ↔ ∀ e ∈ hs, isValue e.2 = true := by
  constructor
  · rintro ⟨sent, h⟩ e he
    have hfit := sendAll_eq_ok h e he
    rw [faulty?_of_name (hnames e he)] at hfit
    by_contra hvalue
    rw [if_neg hvalue] at hfit
    cases hfit
  · exact fun hvalues => ⟨_, sendAll_of_fit (fun e he => ⟨hnames e he, hvalues e he⟩) []⟩

theorem sent_eq_error (hnames : ∀ e ∈ hs, isName e.1 = true) (h : hs.sent = .error name) :
    ∃ e ∈ hs, isValue e.2 = false ∧ name = asciiLower e.1 := by
  obtain ⟨e, he, hfaulty⟩ := sendAll_eq_error h
  rw [faulty?_of_name (hnames e he)] at hfaulty
  refine ⟨e, he, ?_⟩
  cases hvalue : isValue e.2 with
  | true =>
    rw [hvalue, if_pos rfl] at hfaulty
    cases hfaulty
  | false =>
    rw [hvalue, if_neg Bool.false_ne_true] at hfaulty
    exact ⟨rfl, (Option.some.inj hfaulty).symm⟩

theorem problems_eq_nil : hs.problems = [] ↔ ∀ e ∈ hs, isName e.1 = true := by
  simp [problems]

end Headers

theorem Connection.toNode_eq_ok {n : Node} {c : Connection} :
    toNode n = .ok c ↔ n.headers.sent = .ok c.headers ∧ c.endpoint = n.endpoint := by
  obtain ⟨endpoint, headers⟩ := c
  unfold toNode
  split
  · rename_i hsent
    simp [hsent, and_comm, eq_comm]
  · rename_i hsent
    simp [hsent]

theorem Connection.toNode_eq_error {n : Node} {e : RequestError} :
    toNode n = .error e ↔ ∃ name, n.headers.sent = .error name ∧ e = .header name := by
  unfold toNode
  split
  · rename_i hsent
    simp [hsent]
  · rename_i hsent
    simp [hsent, eq_comm]

/-! ## Nodes -/

/-- The node is the one that is specified, with headers for all nodes. -/
structure NodeSpec.Means (shared : Headers) (s : NodeSpec) (n : Node) : Prop where
  endpoint : Endpoint.normalize s.endpoint = .ok n.endpoint
  headers : n.headers = Entries.overlay shared s.headers

theorem NodeSpec.node_eq_ok {shared : Headers} {s : NodeSpec} {n : Node} :
    s.node shared = .ok n ↔ s.Means shared n := by
  constructor
  · intro h
    refine ⟨?_, headers_of_node h⟩
    unfold node at h
    cases he : Endpoint.normalize s.endpoint with
    | error e => rw [he] at h; cases h
    | ok endpoint =>
      rw [he] at h
      cases h
      rfl
  · rintro ⟨he, hh⟩
    unfold node
    rw [he, ← hh]
    rfl

theorem NodeSpec.problems_eq_nil {index : Nat} {s : NodeSpec} :
    s.problems index = [] ↔ (∃ endpoint, Endpoint.normalize s.endpoint = .ok endpoint) ∧
      ∀ e ∈ s.headers, Headers.isName e.1 = true := by
  unfold problems
  rw [List.append_eq_nil_iff, Headers.problems_eq_nil]
  cases Endpoint.normalize s.endpoint <;> simp

namespace Config
variable {c : Config}

/-- The headers that each node of a configuration gets, with those for all nodes. -/
def nodeHeaders (c : Config) : List Headers :=
  match c.nodes with
  | [] => [c.headers]
  | specs => specs.map fun s => Entries.overlay c.headers s.headers

/-- The nodes that a configuration describes, in its order. -/
structure Describes (c : Config) (nodes : List Node) : Prop where
  /-- Without any the standard node. -/
  standard : c.nodes = [] → nodes = [⟨Endpoint.standard, c.headers⟩]
  specified : c.nodes ≠ [] → List.Forall₂ (NodeSpec.Means c.headers) c.nodes nodes

/-- The transport that a configuration describes. Each node is connected to, and none has failed. -/
structure Builds (c : Config) (t : Transport) : Prop where
  nodes : c.Describes t.nodes
  members : List.Forall₂ (fun n m => Connection.toNode n = .ok m.connection ∧ m.health = Health.fresh) t.nodes
    t.pool.members
  timeout : t.timeout = c.timeout
  backoff : t.pool.backoff = c.policy
  retryUnavailable : t.retryUnavailable = c.calls.retryUnavailable

/-- What is checked about nodes and headers. -/
theorem isValid_nodes (h : c.isValid = true) : (∀ e ∈ c.headers, Headers.isName e.1 = true) ∧ ∀ s ∈ c.nodes,
    (∃ endpoint, Endpoint.normalize s.endpoint = .ok endpoint) ∧ ∀ e ∈ s.headers, Headers.isName e.1 = true := by
  simp only [isValid, problems, List.isEmpty_iff, List.append_eq_nil_iff] at h
  obtain ⟨⟨⟨⟨hnodes, hshared⟩, -⟩, -⟩, -⟩ := h
  refine ⟨Headers.problems_eq_nil.1 hshared, fun s hs => ?_⟩
  obtain ⟨i, hi, rfl⟩ := List.getElem_of_mem hs
  exact NodeSpec.problems_eq_nil.1 (List.flatten_eq_nil_iff.1 hnodes _
    (List.mem_mapIdx.2 ⟨i, hi, rfl⟩))

theorem nodeHeaders_names (h : c.isValid = true) :
    ∀ hs ∈ c.nodeHeaders, ∀ e ∈ hs, Headers.isName e.1 = true := by
  obtain ⟨hshared, hnodes⟩ := isValid_nodes h
  unfold nodeHeaders
  split
  · exact List.forall_mem_singleton.2 hshared
  · refine List.forall_mem_map.2 fun s hs e he => ?_
    exact (Entries.mem_overlay he).elim ((hnodes s hs).2 e) (hshared e)

theorem Describes.headers {nodes : List Node} (h : c.Describes nodes) : nodes.map Node.headers = c.nodeHeaders := by
  unfold nodeHeaders
  split
  · rename_i hnil
    rw [h.standard hnil]
    rfl
  · rename_i hne
    have heq : List.Forall₂ Eq (nodes.map Node.headers) (c.nodes.map fun s => Entries.overlay c.headers s.headers) := by
      rw [List.forall₂_map_left_iff, List.forall₂_map_right_iff]
      exact ((h.specified hne).imp fun s n hn => hn.headers).flip
    rwa [List.forall₂_eq_eq_eq] at heq

/-- A valid configuration describes nodes. -/
theorem ofSpecs_of_valid (h : c.isValid = true) :
    ∃ nodes, Node.ofSpecs c.nodes c.headers = .ok nodes ∧ c.Describes nodes := by
  obtain ⟨-, hnodes⟩ := isValid_nodes h
  unfold Node.ofSpecs
  split
  · rename_i hnil
    exact ⟨_, rfl, fun _ => rfl, fun hne => absurd hnil hne⟩
  · rename_i hne
    have hall : ∀ s ∈ c.nodes, ∃ n, s.node c.headers = .ok n := fun s hs => by
      obtain ⟨⟨endpoint, he⟩, -⟩ := hnodes s hs
      exact ⟨⟨endpoint, _⟩, NodeSpec.node_eq_ok.2 ⟨he, rfl⟩⟩
    obtain ⟨nodes, hm⟩ := mapM_isOk_iff.2 hall
    exact ⟨nodes, hm, fun hnil => absurd hnil hne, fun _ =>
      (mapM_eq_ok.1 hm).imp fun s n hn => NodeSpec.node_eq_ok.1 hn⟩

theorem Describes.ne_nil {nodes : List Node} (h : c.Describes nodes) : nodes ≠ [] := by
  rintro rfl
  by_cases hnil : c.nodes = []
  · exact absurd (h.standard hnil) (List.cons_ne_nil _ _).symm
  · exact hnil (List.forall₂_nil_right_iff.1 (h.specified hnil))

end Config

/-! ## Connections -/

/-- A pool of nodes that can be connected to has them in their order, and none has failed. -/
theorem Pool.ofNodes_eq_ok {nodes : List Node} {b : Backoff} {p : Pool} (h : ofNodes nodes b = .ok p) :
    List.Forall₂ (fun n m => Connection.toNode n = .ok m.connection ∧ m.health = Health.fresh) nodes p.members ∧
      p.backoff = b := by
  unfold ofNodes at h
  cases hm : nodes.mapM Connection.toNode with
  | error e => rw [hm] at h; cases h
  | ok connections =>
    rw [hm] at h
    have hall := mapM_eq_ok.1 hm
    cases connections with
    | nil => cases h
    | cons first rest =>
      cases h
      refine ⟨?_, rfl⟩
      have hmembers : List.Forall₂ (fun n (m : Member) => Connection.toNode n = .ok m.connection ∧ m.health = Health.fresh)
          nodes ((first :: rest).map fun x => ⟨x, Health.fresh⟩) := by
        rw [List.forall₂_map_right_iff]
        exact hall.imp fun n x hx => ⟨hx, rfl⟩
      exact hmembers

/-- Without a node there is no pool, and with one that cannot be connected to. -/
theorem Pool.ofNodes_isOk_iff {nodes : List Node} (hne : nodes ≠ []) {b : Backoff} :
    (∃ p, ofNodes nodes b = .ok p) ↔ ∀ n ∈ nodes, ∃ x, Connection.toNode n = .ok x := by
  rw [← mapM_isOk_iff]
  unfold ofNodes
  cases hm : nodes.mapM Connection.toNode with
  | error e => exact ⟨nofun, nofun⟩
  | ok connections =>
    refine ⟨fun _ => ⟨_, rfl⟩, fun _ => ?_⟩
    cases connections with
    | nil => exact absurd (List.forall₂_nil_right_iff.1 (mapM_eq_ok.1 hm)) hne
    | cons first rest => exact ⟨_, rfl⟩

theorem Pool.ofNodes_eq_error {nodes : List Node} (hne : nodes ≠ []) {b : Backoff} {e : TransportError}
    (h : ofNodes nodes b = .error e) : ∃ n ∈ nodes, ∃ cause, Connection.toNode n = .error cause ∧ e = .request cause := by
  unfold ofNodes at h
  cases hm : nodes.mapM Connection.toNode with
  | error cause =>
    rw [hm] at h
    cases h
    obtain ⟨n, hn, he⟩ := mapM_eq_error hm
    exact ⟨n, hn, cause, he, rfl⟩
  | ok connections =>
    rw [hm] at h
    cases connections with
    | nil => exact absurd (List.forall₂_nil_right_iff.1 (mapM_eq_ok.1 hm)) hne
    | cons first rest => cases h

/-! ## Clients -/

/-- Of a configuration that describes nodes a client is made if they can be connected to. -/
theorem Client.ofConfig_eq {c : Config} {nodes : List Node} (h : Node.ofSpecs c.nodes c.headers = .ok nodes) :
    ofConfig c = (Pool.ofNodes nodes c.policy).map fun p => (⟨nodes, p, c.timeout, c.calls.retryUnavailable⟩,
      (Report.empty.log (.transportReady nodes.length c.timeout)).log (.clientReady (nodes.map Node.endpoint))) := by
  have htransport : ofConfig c = (Transport.ofNodes nodes c.options).map fun x =>
      (⟨x.1⟩, x.2.log (.clientReady (nodes.map Node.endpoint))) := by
    simp only [ofConfig, ofSpecs, h, Except.mapError, bind, Except.bind]
    cases Transport.ofNodes nodes c.options <;> rfl
  rw [htransport, Transport.ofNodes]
  have hbackoff : c.options.backoff = c.policy := rfl
  rw [hbackoff]
  cases Pool.ofNodes nodes c.policy <;> rfl

/-- **Valid configurations.** A valid configuration makes a client if and only if no value is at fault in the headers of
its nodes, as they are put together. The client has the nodes of the configuration in their order, or the standard one;
where there is no client, the error names a header with such a value. -/
theorem client_of_valid {c : Config} (hc : c.isValid = true) :
    ((∃ client report, Client.ofConfig c = .ok (client, report)) ↔
      ∀ hs ∈ c.nodeHeaders, ∀ e ∈ hs, Headers.isValue e.2 = true) ∧
    (∀ client report, Client.ofConfig c = .ok (client, report) → c.Builds client.transport) ∧
    ∀ error, Client.ofConfig c = .error error → ∃ hs ∈ c.nodeHeaders, ∃ e ∈ hs,
      Headers.isValue e.2 = false ∧ error = .request (.header (asciiLower e.1)) := by
  obtain ⟨nodes, hnodes, hdescribes⟩ := Config.ofSpecs_of_valid hc
  have hnames := Config.nodeHeaders_names hc
  rw [← hdescribes.headers] at hnames ⊢
  have hnames := List.forall_mem_map.1 hnames
  have hall : (∀ n ∈ nodes, ∃ x, Connection.toNode n = .ok x) ↔
      ∀ hs ∈ nodes.map Node.headers, ∀ e ∈ hs, Headers.isValue e.2 = true := by
    rw [List.forall_mem_map]
    refine forall₂_congr fun n hn => ?_
    rw [← Headers.sent_isOk_iff (hnames n hn)]
    simp only [Connection.toNode_eq_ok]
    exact ⟨fun ⟨x, hx, _⟩ => ⟨_, hx⟩, fun ⟨sent, hsent⟩ => ⟨⟨n.endpoint, sent⟩, hsent, rfl⟩⟩
  rw [Client.ofConfig_eq hnodes, ← hall, ← Pool.ofNodes_isOk_iff (b := c.policy) hdescribes.ne_nil]
  cases hp : Pool.ofNodes nodes c.policy with
  | ok p =>
    obtain ⟨hmembers, hbackoff⟩ := Pool.ofNodes_eq_ok hp
    refine ⟨⟨fun _ => ⟨p, rfl⟩, fun _ => ⟨_, _, rfl⟩⟩, fun client report h => ?_, nofun⟩
    cases h
    exact ⟨hdescribes, hmembers, rfl, hbackoff, rfl⟩
  | error cause =>
    refine ⟨⟨nofun, nofun⟩, nofun, fun error h => ?_⟩
    cases h
    obtain ⟨n, hn, cause, hcause, rfl⟩ := Pool.ofNodes_eq_error hdescribes.ne_nil hp
    obtain ⟨name, hsent, rfl⟩ := Connection.toNode_eq_error.1 hcause
    obtain ⟨e, he, hvalue, rfl⟩ := Headers.sent_eq_error (hnames n hn) hsent
    exact ⟨_, List.mem_map_of_mem hn, e, he, hvalue, rfl⟩

/-- The value for all nodes has a line break, but the only node has one of its own. -/
theorem client_of_valid_overlaid : ∃ (c : Config) (client : Client) (report : Report),
    c.headers = [("x-key", "a\nb")] ∧ c.isValid = true ∧ Client.ofConfig c = .ok (client, report) ∧
    client.transport.nodes.map Node.endpoint = ["https://node2:443"] ∧ c.Builds client.transport := by
  let c : Config := { Config.standard with
    nodes := [.detailed "https://node2/" [("x-key", "own")]], headers := [("x-key", "a\nb")] }
  have hvalid : c.isValid = true := by decide +kernel
  have hvalues : ∀ hs ∈ c.nodeHeaders, ∀ e ∈ hs, Headers.isValue e.2 = true := by decide +kernel
  obtain ⟨hok, hbuilds, -⟩ := client_of_valid hvalid
  obtain ⟨client, report, h⟩ := hok.2 hvalues
  have hnodes := (hbuilds client report h).nodes.specified (List.cons_ne_nil _ _)
  obtain ⟨n, rest, hn, hrest, hall⟩ := List.forall₂_cons_left_iff.1 hnodes
  obtain rfl := List.forall₂_nil_left_iff.1 hrest
  have hendpoint : Endpoint.normalize "https://node2/" = .ok "https://node2:443" := by decide +kernel
  refine ⟨c, client, report, rfl, hvalid, h, ?_, hbuilds client report h⟩
  rw [hall, List.map_singleton, Except.ok.inj (hn.endpoint.symm.trans hendpoint)]

/-- A line break in the value of a header is not found by the check, but by the connection. -/
theorem bad_value_makes_no_client : ∃ c : Config, c.headers = [("x", "a\nb")] ∧ c.isValid = true ∧
    Client.ofConfig c = .error (.request (.header "x")) ∧ ∀ client report, Client.ofConfig c ≠ .ok (client, report) := by
  let c : Config := { Config.standard with headers := [("x", "a\nb")] }
  have hsent : Headers.sent c.headers = .error "x" := by decide +kernel
  have herror : Client.ofConfig c = .error (.request (.header "x")) := by
    have hnode : Connection.toNode ⟨Endpoint.standard, c.headers⟩ = .error (.header "x") :=
      Connection.toNode_eq_error.2 ⟨_, hsent, rfl⟩
    have hnodes : Node.ofSpecs c.nodes c.headers = .ok [⟨Endpoint.standard, c.headers⟩] := rfl
    rw [Client.ofConfig_eq hnodes, Pool.ofNodes, List.mapM_cons, hnode]
    rfl
  refine ⟨c, rfl, by decide +kernel, herror, fun client report h => ?_⟩
  rw [herror] at h
  cases h

end FederatedLedger
