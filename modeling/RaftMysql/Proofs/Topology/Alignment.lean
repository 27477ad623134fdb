import Mathlib.Data.Finset.Basic
import RaftMysql.Proofs.Cluster.Ordinals
import RaftMysql.Proofs.Health.Computation
import RaftMysql.Proofs.Program.Record
import RaftMysql.Proofs.Topology.Freshness
import RaftMysql.Topology.Membership

/-!
# The group that an alignment leaves

An alignment reads a listing of pods, the credentials and the leader's view of the group, and asks the
leader to take peers out of the group and then to put others in (`Topology.run_align`). A peer is known
for a member that is on its way out by its address alone, as an address tells the ordinal that it was
made from (`Topology.isStalePeer_address`).

`AgentView.group` is the group as a set that these calls change and a view shows. When nothing fails
and all members are vouched for, the group holds every member after the alignment and none that is on
its way out, and the next alignment has nothing to ask for (`Topology.align_converges`).
-/

namespace RaftMysql

/-! ### Addresses -/

namespace Cluster

variable {c : Cluster}

/-- The peer address of the member with an ordinal. -/
def address (c : Cluster) (ordinal : Int) : String := peerOf (c.hostOf (c.podName ordinal))

theorem peers_eq : c.peers = c.ordinals.map c.address := by
  unfold peers hosts
  rw [List.map_map]
  rfl

theorem mem_ordinals {i : Int} : i ∈ c.ordinals ↔ ∃ n : Nat, i = n ∧ (n : Int) < c.replicas := by
  unfold ordinals
  simp only [List.mem_map, List.mem_range]
  constructor
  · rintro ⟨n, hn, rfl⟩
    exact ⟨n, rfl, by omega⟩
  · rintro ⟨n, rfl, hn⟩
    exact ⟨n, by omega, rfl⟩

theorem peerOf_inj {host host' : String} (h : peerOf host = peerOf host') : host = host' := by
  unfold peerOf at h
  simpa only [String.append_left_inj] using h

theorem address_inj {n m : Nat} (h : c.address n = c.address m) : n = m :=
  podName_inj (Topology.hostOf_inj (peerOf_inj h))

theorem nodup_ordinals : c.ordinals.Nodup :=
  List.Nodup.map (fun _ _ => Int.ofNat.inj) List.nodup_range

end Cluster

namespace Topology

variable {c : Cluster}

theorem beforePoint_of_toList {s : String} {front rest : List Char}
    (h : s.toList = front ++ '.' :: rest) (hfront : '.' ∉ front) :
    beforePoint s = String.ofList front := by
  have hkeep : ∀ d ∈ front, decide (d ≠ '.') = true := by
    intro d hd
    refine decide_eq_true ?_
    rintro rfl
    exact hfront hd
  unfold beforePoint
  rw [h, List.takeWhile_append_of_pos hkeep, List.takeWhile_cons_of_neg (by simp), List.append_nil]

theorem beforePoint_address (hname : '.' ∉ c.name.toList) (n : Nat) :
    beforePoint (c.address n) = c.podName n := by
  have hpod : '.' ∉ (c.podName n).toList := by
    have hdigits : '.' ∉ Nat.toDigits 10 n := fun h => by
      cases Nat.isDigit_of_mem_toDigits (by decide) (by decide) h
    rw [toList_podName]
    simp [Cluster.workloadName, hname, hdigits]
  have haddress : (c.address n).toList = (c.podName n).toList ++
      '.' :: (c.workloadName ++ "." ++ c.space ++ ":" ++ toString Cluster.peerPort).toList := by
    simp [Cluster.address, Cluster.peerOf, Cluster.hostOf]
  rw [beforePoint_of_toList haddress hpod, String.ofList_toList]

/-- **The address of a member** is that of one on its way out just when the ordinal is beyond the
desired count. A number of more than 31 bits is no ordinal. -/
theorem isStalePeer_address (hname : '.' ∉ c.name.toList) (n : Nat) :
    isStalePeer c (c.address n) = true ↔ n < Nat.pow 2 31 ∧ c.replicas ≤ n := by
  have hprefix : (c.workloadName ++ "-").toList.isPrefixOf (c.podName n).toList = true := by
    rw [toList_podName]
    simp
  unfold isStalePeer isExempt
  dsimp only
  -- No part of a pod's name holds a dot, so what stands before the first one is the whole name.
  rw [beforePoint_address hname, hprefix, ordinal?_podName]
  by_cases hn : n < Nat.pow 2 31
  · simp [hn]
  · simp [hn]

/-- The peers `out` are those of a view to take out of the group, and `into` those to put in: of the
members that are missing from the view the ones that a listed pod vouches for, in their order. Members
are numbered by what 31 bits can hold. -/
structure IsDue (c : Cluster) (pods : List Pod) (view : AgentView) (out into : List String) : Prop
    where
  out_sublist : out.Sublist view.peers
  mem_out : ∀ n : Nat, n < Nat.pow 2 31 → c.replicas ≤ n → c.address n ∈ view.peers →
    c.address n ∈ out
  not_mem_out : ∀ peer ∈ c.peers, peer ∉ out
  into_eq : into = (c.ordinals.filter fun i => c.address i ∉ view.peers ∧
    ∃ pod ∈ pods, pod.name = c.podName i ∧ Pod.isHealthy pod = true).map c.address
  into_nodup : into.Nodup
  idle : (∀ peer, peer ∈ view.peers ↔ peer ∈ c.peers) → out = [] ∧ into = []

theorem isStalePeer_of_mem_peers (hname : '.' ∉ c.name.toList) {peer : String} (h : peer ∈ c.peers) :
    isStalePeer c peer = false := by
  rw [Cluster.peers_eq, List.mem_map] at h
  obtain ⟨i, hi, rfl⟩ := h
  obtain ⟨n, rfl, hn⟩ := Cluster.mem_ordinals.mp hi
  rw [Bool.eq_false_iff]
  intro hstale
  exact absurd ((isStalePeer_address hname n).mp hstale).2 (by omega)

theorem missingPeers_eq {pods : List Pod} {view : AgentView} :
    missingPeers c pods view = (c.ordinals.filter fun i => c.address i ∉ view.peers ∧
      ∃ pod ∈ pods, pod.name = c.podName i ∧ Pod.isHealthy pod = true).map c.address := by
  have hhealthy : ∀ i, c.hostOf (c.podName i) ∈ healthyHosts c pods ↔
      ∃ pod ∈ pods, pod.name = c.podName i ∧ Pod.isHealthy pod = true := by
    intro i
    unfold healthyHosts
    rw [List.mem_map]
    constructor
    · rintro ⟨pod, hpod, hhost⟩
      obtain ⟨hpod, hhealthy⟩ := List.mem_filter.mp hpod
      exact ⟨pod, hpod, hostOf_inj hhost, hhealthy⟩
    · rintro ⟨pod, hpod, hpodName, hhealthy⟩
      exact ⟨pod, List.mem_filter.mpr ⟨hpod, hhealthy⟩, by rw [hpodName]⟩
  unfold missingPeers Cluster.hosts
  rw [List.filter_map, List.map_map]
  have hsame : ∀ i ∈ c.ordinals,
      ((fun host => !view.peers.contains (Cluster.peerOf host) &&
        (healthyHosts c pods).contains host) ∘ fun i => c.hostOf (c.podName i)) i =
      decide (c.address i ∉ view.peers ∧
        ∃ pod ∈ pods, pod.name = c.podName i ∧ Pod.isHealthy pod = true) := by
    intro i _
    rw [Bool.eq_iff_iff, decide_eq_true_iff]
    simp [Cluster.address, hhealthy]
  rw [List.filter_congr hsame]
  rfl

theorem nodup_missingPeers {pods : List Pod} {view : AgentView} : (missingPeers c pods view).Nodup := by
  rw [missingPeers_eq]
  refine List.Nodup.map_on ?_ (Cluster.nodup_ordinals.filter _)
  intro i hi j hj h
  obtain ⟨n, rfl, -⟩ := Cluster.mem_ordinals.mp (List.mem_of_mem_filter hi)
  obtain ⟨m, rfl, -⟩ := Cluster.mem_ordinals.mp (List.mem_of_mem_filter hj)
  rw [Cluster.address_inj h]

theorem stalePeers_eq_nil {view : AgentView}
    (h : ∀ peer ∈ view.peers, isStalePeer c peer = false) : stalePeers c view = [] :=
  List.filter_eq_nil_iff.mpr fun peer hpeer => by
    rw [h peer hpeer]
    exact Bool.false_ne_true

theorem missingPeers_eq_nil {pods : List Pod} {view : AgentView}
    (h : ∀ peer ∈ c.peers, peer ∈ view.peers) : missingPeers c pods view = [] := by
  rw [missingPeers_eq, List.map_eq_nil_iff, List.filter_eq_nil_iff]
  intro i hi hmissing
  refine (of_decide_eq_true hmissing).1 (h _ ?_)
  rw [Cluster.peers_eq]
  exact List.mem_map_of_mem hi

/-- **What an alignment compares** is what it should. -/
theorem isDue_of_view (hname : '.' ∉ c.name.toList) (pods : List Pod) (view : AgentView) :
    IsDue c pods view (stalePeers c view) (missingPeers c pods view) where
  out_sublist := List.filter_sublist
  mem_out n hn hreplicas hmem :=
    List.mem_filter.mpr ⟨hmem, (isStalePeer_address hname n).mpr ⟨hn, hreplicas⟩⟩
  not_mem_out peer hpeer hout := by
    rw [stalePeers, List.mem_filter, isStalePeer_of_mem_peers hname hpeer] at hout
    cases hout.2
  into_eq := missingPeers_eq
  into_nodup := nodup_missingPeers
  idle hview :=
    ⟨stalePeers_eq_nil fun peer hpeer => isStalePeer_of_mem_peers hname ((hview peer).mp hpeer),
      missingPeers_eq_nil fun peer hpeer => (hview peer).mpr hpeer⟩

end Topology

/-! ### Calls that change the group -/

/-- The request neither takes a peer out of the consensus group nor puts one in. -/
def Request.LeavesGroup : Request → Prop
  | .agent _ _ (.addPeer _) | .agent _ _ (.removePeer _) => False
  | _ => True

/-- What a request to an agent makes of the group when it is granted. -/
def Request.onGroup (group : Finset String) : Request → Finset String
  | .agent _ _ (.addPeer peer) => insert peer group
  | .agent _ _ (.removePeer peer) => group.erase peer
  | _ => group

/-- An agent failed to do what it was asked for. -/
def Event.isRefusal : Event → Bool
  | ⟨.agent _ _ call, answer⟩ => !succeeded (answer : Except Error call.Answer)
  | _ => false

/-- The consensus group as a set: calls that are granted change it, and a view shows it. -/
def AgentView.group : Record (Finset String) where
  after group e := if e.isRefusal then group else e.request.onGroup group
  agrees
    | group, ⟨.agent _ _ .view, answer⟩ =>
      match (answer : Except Error AgentView) with
      | .ok view => view.peers.toFinset = group
      | .error _ => true
    | _, _ => true

namespace Topology

variable {c : Cluster} {host password : String} {pods : List Pod} {view : AgentView}
  {out into : List String} {t : Trace} {r : Except Error Unit}

/-- The calls that take peers out of the group and then put others in. -/
def groupCalls (host password : String) (out into : List String) : List Request :=
  (out.map fun peer => .agent host password (.removePeer peer)) ++
    into.map fun peer => .agent host password (.addPeer peer)

/-- What is asked of the leader once it has shown its view. -/
def adjust (c : Cluster) (pods : List Pod) (host password : String) (view : AgentView) :
    Procedure Unit := do
  askAll host password .removePeer (stalePeers c view)
  askAll host password .addPeer (missingPeers c pods view)

/-- These calls are made in this order, up to one that is refused. -/
structure Makes (calls : List Request) (t : Trace) (r : Except Error Unit) : Prop where
  calls_prefix : t.map Event.request <+: calls
  calls_eq : r = .ok () → t.map Event.request = calls
  granted : (∀ e ∈ t, e.isRefusal = false) → r = .ok ()

theorem Makes.failed {calls : List Request} {e : Error} (h : Makes calls t (.error e))
    (more : List Request) : Makes (calls ++ more) t (.error e) :=
  ⟨h.calls_prefix.trans (List.prefix_append ..), (fun he => by cases he), h.granted⟩

theorem Makes.append {calls more : List Request} {t' : Trace} (h : Makes calls t (.ok ()))
    (h' : Makes more t' r) : Makes (calls ++ more) (t ++ t') r := by
  refine ⟨?_, fun hr => ?_, fun hall => ?_⟩
  · rw [List.map_append, h.calls_eq rfl]
    exact (List.prefix_append_right_inj _).mpr h'.calls_prefix
  · rw [List.map_append, h.calls_eq rfl, h'.calls_eq hr]
  · exact h'.granted fun e he => hall e (List.mem_append_right _ he)

theorem makes_ask {call : AgentCall} {answer : Except Error call.Answer}
    (h : (Member.ask host password call).Run t answer) :
    Makes [.agent host password call] t (answer.map fun _ => ()) := by
  obtain rfl := Program.run_request.mp h
  refine ⟨List.prefix_refl _, fun _ => rfl, fun hall => ?_⟩
  match answer, hall _ List.mem_cons_self with
  | .ok a, _ => rfl

theorem makes_askAll {call : String → AgentCall} {peers : List String}
    (h : (askAll host password call peers).Run t r) :
    Makes (peers.map fun peer => .agent host password (call peer)) t r := by
  induction peers generalizing t with
  | nil =>
    obtain ⟨rfl, rfl⟩ := Procedure.run_pure.mp h
    exact ⟨List.nil_prefix, fun _ => rfl, fun _ => rfl⟩
  | cons peer peers ih =>
    rcases Procedure.run_bind.mp h with ⟨e, h₁, rfl⟩ | ⟨t₁, t₂, answer, rfl, h₁, h₂⟩
    · exact (makes_ask h₁).failed _
    · exact (makes_ask h₁).append (ih h₂)

theorem makes_adjust (h : (adjust c pods host password view).Run t r) :
    Makes (groupCalls host password (stalePeers c view) (missingPeers c pods view)) t r := by
  rcases Procedure.run_bind.mp h with ⟨e, h₁, rfl⟩ | ⟨t₁, t₂, _, rfl, h₁, h₂⟩
  · exact (makes_askAll h₁).failed _
  · exact (makes_askAll h₁).append (makes_askAll h₂)

/-! ### The ways of an alignment -/

/-- What an alignment reads when all of it succeeds, up to the view of the group. -/
def reads (c : Cluster) (pods : List Pod) (leader : Pod) (secret : Secret)
    (credentials : Credentials) (view : AgentView) : Trace :=
  [⟨.list .pod c.selector, .ok pods⟩, ⟨.get .secret c.secretName, .ok (some secret)⟩,
    ⟨.agent (c.hostOf leader.name) credentials.rootPassword .ping, .ok ()⟩,
    ⟨.agent (c.hostOf leader.name) credentials.rootPassword .view, .ok view⟩]

/-- The ways in which an alignment can go, by its trace. -/
inductive Aligns (c : Cluster) : Trace → Prop
  | unlisted {e : Error} : Aligns c [⟨.list .pod c.selector, .error e⟩]
  | leaderless {pods : List Pod} (h : leaderOf pods = none) :
    Aligns c [⟨.list .pod c.selector, .ok pods⟩]
  | unread {pods : List Pod} {answer : Except Error (Option Secret)}
    (h : ∀ secret credentials, answer = .ok (some secret) →
      Credentials.ofSecret c.secretName secret ≠ .ok credentials) :
    Aligns c [⟨.list .pod c.selector, .ok pods⟩, ⟨.get .secret c.secretName, answer⟩]
  | unanswered {pods : List Pod} {secret : Secret} {host password : String} {e : Error} :
    Aligns c [⟨.list .pod c.selector, .ok pods⟩, ⟨.get .secret c.secretName, .ok (some secret)⟩,
      ⟨.agent host password .ping, .error e⟩]
  | unseen {pods : List Pod} {secret : Secret} {host password : String} {e : Error} :
    Aligns c [⟨.list .pod c.selector, .ok pods⟩, ⟨.get .secret c.secretName, .ok (some secret)⟩,
      ⟨.agent host password .ping, .ok ()⟩, ⟨.agent host password .view, .error e⟩]
  | seen {pods : List Pod} {leader : Pod} {secret : Secret} {credentials : Credentials}
    {view : AgentView} {t : Trace} {r : Except Error Unit} (hleader : leaderOf pods = some leader)
    (hread : Credentials.ofSecret c.secretName secret = .ok credentials)
    (hmakes : Makes (groupCalls (c.hostOf leader.name) credentials.rootPassword (stalePeers c view)
      (missingPeers c pods view)) t r) :
    Aligns c (reads c pods leader secret credentials view ++ t)

/-- **The ways of an alignment** are all there are. -/
theorem run_align (h : (align c).Run t ()) : Aligns c t := by
  obtain ⟨t₀, _, r, rfl, htry, hend⟩ := Program.run_bind.mp h
  obtain ⟨rfl, -⟩ := Program.run_pure.mp hend
  rw [List.append_nil]
  rcases Procedure.run_bind.mp htry with ⟨e, h₁, -⟩ | ⟨t₁, t₂, pods, rfl, h₁, h₂⟩
  · obtain rfl := Store.run_list.mp h₁
    exact .unlisted
  obtain rfl := Store.run_list.mp h₁
  split at h₂ <;> rename_i hleader
  · obtain ⟨rfl, -⟩ := Procedure.run_pure.mp h₂
    exact .leaderless hleader
  rename_i leader
  rcases Procedure.run_bind.mp h₂ with ⟨e, h₃, -⟩ | ⟨t₃, t₄, credentials?, rfl, h₃, h₄⟩
  · obtain ⟨answer, rfl, hread⟩ := Cluster.run_credentials? h₃
    refine .unread fun secret credentials hanswer hsecret => ?_
    cases (hread credentials).mpr ⟨secret, hanswer, hsecret⟩
  obtain ⟨answer, rfl, hread⟩ := Cluster.run_credentials? h₃
  match credentials? with
  | none =>
    obtain ⟨rfl, -⟩ := Procedure.run_pure.mp h₄
    refine .unread fun secret credentials hanswer hsecret => ?_
    cases (hread credentials).mpr ⟨secret, hanswer, hsecret⟩
  | some credentials =>
    obtain ⟨secret, rfl, hsecret⟩ := (hread credentials).mp rfl
    rcases Procedure.run_bind.mp h₄ with ⟨e, h₅, -⟩ | ⟨t₅, t₆, _, rfl, h₅, h₆⟩
    · obtain rfl := Program.run_request.mp h₅
      exact .unanswered
    obtain rfl := Program.run_request.mp h₅
    rcases Procedure.run_bind.mp h₆ with ⟨e, h₇, -⟩ | ⟨t₇, t₈, view, rfl, h₇, h₈⟩
    · obtain rfl := Program.run_request.mp h₇
      exact .unseen
    · obtain rfl := Program.run_request.mp h₇
      exact .seen hleader hsecret (makes_adjust h₈)

/-! ### What an alignment makes of the group -/

theorem afterAll_group {group : Finset String} (hall : ∀ e ∈ t, e.isRefusal = false) :
    AgentView.group.afterAll group t = (t.map Event.request).foldl Request.onGroup group := by
  induction t generalizing group with
  | nil => rfl
  | cons e t ih =>
    obtain ⟨he, hall⟩ := List.forall_mem_cons.mp hall
    show AgentView.group.afterAll (if e.isRefusal then group else e.request.onGroup group) t = _
    rw [if_neg (by simp [he]), ih hall]
    rfl

theorem mem_foldl_removePeer {group : Finset String} {peer : String} :
    peer ∈ (out.map fun peer => Request.agent host password (.removePeer peer)).foldl
      Request.onGroup group ↔ peer ∈ group ∧ peer ∉ out := by
  induction out generalizing group with
  | nil => simp
  | cons gone out ih =>
    show peer ∈ List.foldl _ (group.erase gone) _ ↔ _
    rw [ih, Finset.mem_erase, List.mem_cons]
    tauto

theorem mem_foldl_addPeer {group : Finset String} {peer : String} :
    peer ∈ (into.map fun peer => Request.agent host password (.addPeer peer)).foldl
      Request.onGroup group ↔ peer ∈ group ∨ peer ∈ into := by
  induction into generalizing group with
  | nil => simp
  | cons new into ih =>
    show peer ∈ List.foldl _ (insert new group) _ ↔ _
    rw [ih, Finset.mem_insert, List.mem_cons]
    tauto

theorem mem_foldl_groupCalls {group : Finset String} {peer : String} :
    peer ∈ (groupCalls host password out into).foldl Request.onGroup group ↔
      (peer ∈ group ∧ peer ∉ out) ∨ peer ∈ into := by
  rw [groupCalls, List.foldl_append, mem_foldl_addPeer, mem_foldl_removePeer]

theorem leavesGroup_of_align {group : Finset String} (hrun : (align c).Run t ())
    (hanswers : AgentView.group.Answers group t) (hmembers : ∀ peer ∈ c.peers, peer ∈ group)
    (hstale : ∀ peer ∈ group, isStalePeer c peer = false) : ∀ e ∈ t, e.request.LeavesGroup := by
  cases run_align hrun with
  | unlisted | leaderless | unread | unanswered | unseen => simp [Request.LeavesGroup]
  | @seen pods leader secret credentials view t r hleader hread hmakes =>
    have hview : view.peers.toFinset = group := by
      obtain ⟨-, -, -, hview, -⟩ := hanswers
      exact of_decide_eq_true hview
    have hout : stalePeers c view = [] := stalePeers_eq_nil fun peer hpeer =>
      hstale peer (hview ▸ List.mem_toFinset.mpr hpeer)
    have hinto : missingPeers c pods view = [] := missingPeers_eq_nil fun peer hpeer =>
      List.mem_toFinset.mp (hview ▸ hmembers peer hpeer)
    have hnone : t.map Event.request <+: [] := by
      have hprefix := hmakes.calls_prefix
      rwa [hout, hinto] at hprefix
    rw [List.prefix_nil, List.map_eq_nil_iff] at hnone
    rw [hnone]
    simp [reads, Request.LeavesGroup]

/-- The group is what the view showed, without the peers that were taken out and with those put in. -/
theorem mem_afterAll_group {leader : Pod} {secret : Secret} {credentials : Credentials}
    {group : Finset String} (hcalls : t.map Event.request = groupCalls host password out into)
    (hgranted : ∀ e ∈ t, e.isRefusal = false)
    (hanswers : AgentView.group.Answers group (reads c pods leader secret credentials view ++ t))
    (peer : String) :
    peer ∈ AgentView.group.afterAll group (reads c pods leader secret credentials view ++ t) ↔
      (peer ∈ view.peers ∧ peer ∉ out) ∨ peer ∈ into := by
  have hview : view.peers.toFinset = group := by
    obtain ⟨-, -, -, hview, -⟩ := hanswers
    exact of_decide_eq_true hview
  have hread : AgentView.group.afterAll group (reads c pods leader secret credentials view) = group :=
    rfl
  rw [Record.afterAll_append, hread, afterAll_group hgranted, hcalls, mem_foldl_groupCalls, ← hview,
    List.mem_toFinset]

/-- An alignment that nothing stands in the way of asks for all that it has found to be due. -/
theorem exists_reads_of_align {secret : Secret} {credentials : Credentials}
    (hrun : (align c).Run t ()) (hlisted : ⟨.list .pod c.selector, .ok pods⟩ ∈ t)
    (hleader : ∃ pod ∈ pods, Pod.isLeader pod = true)
    (hsecret : ⟨.get .secret c.secretName, .ok (some secret)⟩ ∈ t)
    (hread : Credentials.ofSecret c.secretName secret = .ok credentials)
    (hgranted : ∀ e ∈ t, e.isRefusal = false) :
    ∃ leader view calls, leaderOf pods = some leader ∧
      t = reads c pods leader secret credentials view ++ calls ∧
      calls.map Event.request = groupCalls (c.hostOf leader.name) credentials.rootPassword
        (stalePeers c view) (missingPeers c pods view) := by
  cases run_align hrun with
  | unlisted => simp at hlisted
  | @leaderless pods' h =>
    obtain rfl : pods = pods' := by simpa using hlisted
    obtain ⟨pod, hpod, hlead⟩ := hleader
    exact absurd hlead (List.find?_eq_none.mp h pod hpod)
  | @unread pods' answer h =>
    obtain rfl : .ok (some secret) = answer := by simpa using hsecret
    exact absurd hread (h secret credentials rfl)
  | @unanswered _ _ host password e =>
    cases hgranted ⟨.agent host password .ping, .error e⟩ (by simp)
  | @unseen _ _ host password e =>
    cases hgranted ⟨.agent host password .view, .error e⟩ (by simp)
  | @seen pods' leader secret' credentials' view t r hleader' hread' hmakes =>
    -- All that follows are calls of an agent, so the listing and the secret are those that were read.
    have hcalls : ∀ e ∈ t, e.request ∈ groupCalls (c.hostOf leader.name) credentials'.rootPassword
        (stalePeers c view) (missingPeers c pods' view) :=
      fun e he => hmakes.calls_prefix.subset (List.mem_map_of_mem he)
    have hpods : ⟨.list .pod c.selector, .ok pods⟩ ∉ t := fun he => by
      simpa [groupCalls] using hcalls _ he
    have hget : ⟨.get .secret c.secretName, .ok (some secret)⟩ ∉ t := fun he => by
      simpa [groupCalls] using hcalls _ he
    obtain rfl : pods = pods' := by simpa [reads, hpods] using hlisted
    obtain rfl : secret = secret' := by simpa [reads, hget] using hsecret
    obtain rfl : credentials = credentials' := Except.ok.inj (hread.symm.trans hread')
    have hok := hmakes.granted fun e he => hgranted e (List.mem_append_right _ he)
    exact ⟨leader, view, t, hleader', rfl, hmakes.calls_eq hok⟩

/-- **An alignment that nothing stands in the way of** asks the leader for just what is due by its view:
to take out peers, and after that to put in others, each once. If the group is a set that these calls
change and all members are vouched for, it holds every member afterwards and nobody on the way out, and
whatever the next alignment finds, it leaves the group alone. -/
theorem align_converges {secret : Secret} {credentials : Credentials}
    (hname : '.' ∉ c.name.toList) (hrun : (align c).Run t ())
    (hlisted : ⟨.list .pod c.selector, .ok pods⟩ ∈ t)
    (hleader : ∃ pod ∈ pods, Pod.isLeader pod = true)
    (hsecret : ⟨.get .secret c.secretName, .ok (some secret)⟩ ∈ t)
    (hread : Credentials.ofSecret c.secretName secret = .ok credentials)
    (hgranted : ∀ e ∈ t, e.isRefusal = false) :
    ∃ leader view calls out into, leaderOf pods = some leader ∧
      t = reads c pods leader secret credentials view ++ calls ∧
      calls.map Event.request =
        groupCalls (c.hostOf leader.name) credentials.rootPassword out into ∧
      IsDue c pods view out into ∧
      ∀ group, AgentView.group.Answers group t →
        (∀ i ∈ c.ordinals, ∃ pod ∈ pods, pod.name = c.podName i ∧ Pod.isHealthy pod = true) →
        (∀ peer ∈ c.peers, peer ∈ AgentView.group.afterAll group t) ∧
          (∀ n : Nat, n < Nat.pow 2 31 → c.replicas ≤ n →
            c.address n ∉ AgentView.group.afterAll group t) ∧
          ∀ t', (align c).Run t' () →
            AgentView.group.Answers (AgentView.group.afterAll group t) t' →
              ∀ e ∈ t', e.request.LeavesGroup := by
  obtain ⟨leader, view, calls, hleader', rfl, hcalls⟩ :=
    exists_reads_of_align hrun hlisted hleader hsecret hread hgranted
  refine ⟨leader, view, calls, _, _, hleader', rfl, hcalls, isDue_of_view hname pods view, ?_⟩
  intro group hanswers hhealthy
  have hmem := mem_afterAll_group hcalls (fun e he => hgranted e (List.mem_append_right _ he)) hanswers
  have hmembers : ∀ peer ∈ c.peers, peer ∈ AgentView.group.afterAll group
      (reads c pods leader secret credentials view ++ calls) := by
    intro peer hpeer
    rw [hmem]
    by_cases hview : peer ∈ view.peers
    · exact .inl ⟨hview, (isDue_of_view hname pods view).not_mem_out peer hpeer⟩
    · rw [Cluster.peers_eq, List.mem_map] at hpeer
      obtain ⟨i, hi, rfl⟩ := hpeer
      rw [missingPeers_eq]
      exact .inr (List.mem_map_of_mem
        (List.mem_filter.mpr ⟨hi, decide_eq_true ⟨hview, hhealthy i hi⟩⟩))
  have hstale : ∀ peer ∈ AgentView.group.afterAll group
      (reads c pods leader secret credentials view ++ calls), isStalePeer c peer = false := by
    intro peer hpeer
    rcases (hmem peer).mp hpeer with ⟨hview, hout⟩ | hinto
    · rw [Bool.eq_false_iff]
      exact fun hstale => hout (List.mem_filter.mpr ⟨hview, hstale⟩)
    · refine isStalePeer_of_mem_peers hname ?_
      rw [missingPeers_eq, List.mem_map] at hinto
      obtain ⟨i, hi, rfl⟩ := hinto
      rw [Cluster.peers_eq]
      exact List.mem_map_of_mem (List.mem_of_mem_filter hi)
  refine ⟨hmembers, fun n hn hreplicas hpeer => ?_, fun t' hrun' hanswers' =>
    leavesGroup_of_align hrun' hanswers' hmembers hstale⟩
  have hout := (isStalePeer_address hname n).mpr ⟨hn, hreplicas⟩
  rw [hstale _ hpeer] at hout
  cases hout

/-! ### A group of two that is brought in line -/

/-- What answers for the group: its pods and its secret, and a leader that keeps the list of peers. -/
def peersAnswer : (q : Request) → List String → q.Answer × List String
  | .list .pod _, peers => (.ok groupPods, peers)
  | .get .secret _, peers => (.ok (some groupSecret), peers)
  | .agent _ _ .ping, peers => (.ok (), peers)
  | .agent _ _ .view, peers => (.ok { state := "LEADER", peers }, peers)
  | .agent _ _ (.addPeer peer), peers => (.ok (), peers ++ [peer])
  | .agent _ _ (.removePeer peer), peers => (.ok (), peers.filter (· != peer))
  | q, peers => ((Simulation.Nowhere.answer q { now := ⟨0, 0⟩ }).1, peers)

/-- Peers of the group: its first member, a former third one and somebody else. -/
def formerPeers : List String :=
  ["sample-mysql-0.sample-mysql.:8801", "sample-mysql-2.sample-mysql.:8801", "elsewhere:8801"]

/-- The trace of an alignment of the group. -/
def alignTrace : Trace := (align groupCluster).traceOf peersAnswer formerPeers

theorem alignTrace_spec :
    (∀ e ∈ alignTrace, e.isRefusal = false) ∧
      AgentView.group.Answers formerPeers.toFinset alignTrace ∧
      (∀ i ∈ groupCluster.ordinals, ∃ pod ∈ groupPods, pod.name = groupCluster.podName i ∧
        Pod.isHealthy pod = true) ∧
      '.' ∉ groupCluster.name.toList ∧ (∃ pod ∈ groupPods, Pod.isLeader pod = true) := by
  decide +kernel

theorem run_alignTrace : (align groupCluster).Run alignTrace () :=
  Program.run_traceOf peersAnswer _ _

/-- The alignment asks of the leader what is due, and leaves a group that holds both members and that
no later alignment changes. -/
theorem align_groupPods :
    (∃ leader view calls out into,
      alignTrace = reads groupCluster groupPods leader groupSecret ⟨"u", "p", "r"⟩ view ++ calls ∧
      calls.map Event.request = groupCalls (groupCluster.hostOf leader.name) "r" out into ∧
      IsDue groupCluster groupPods view out into) ∧
      (∀ peer ∈ groupCluster.peers,
        peer ∈ AgentView.group.afterAll formerPeers.toFinset alignTrace) ∧
      ∀ t', (align groupCluster).Run t' () →
        AgentView.group.Answers (AgentView.group.afterAll formerPeers.toFinset alignTrace) t' →
          ∀ e ∈ t', e.request.LeavesGroup := by
  obtain ⟨hgranted, hanswers, hhealthy, hname, hleader⟩ := alignTrace_spec
  have hlisted : ⟨.list .pod groupCluster.selector, .ok groupPods⟩ ∈ alignTrace := .head _
  have hsecret : ⟨.get .secret groupCluster.secretName, .ok (some groupSecret)⟩ ∈ alignTrace :=
    .tail _ (.head _)
  have hread : Credentials.ofSecret groupCluster.secretName groupSecret =
      .ok ⟨"u", "p", "r"⟩ := rfl
  obtain ⟨leader, view, calls, out, into, -, htrace, hcalls, hdue, hgroup⟩ :=
    align_converges hname run_alignTrace hlisted hleader hsecret hread hgranted
  obtain ⟨hmembers, -, hnext⟩ := hgroup formerPeers.toFinset hanswers hhealthy
  exact ⟨⟨leader, view, calls, out, into, htrace, hcalls, hdue⟩, hmembers, hnext⟩

end Topology

end RaftMysql
