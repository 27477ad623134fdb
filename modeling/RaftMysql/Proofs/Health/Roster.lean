import RaftMysql.Proofs.Health.Labelling
import RaftMysql.Proofs.Health.Serial

/-!
# Which members have an entry

A pass looks at the members in the ready pods of its listing, one after the other, and a member that
was looked at has an entry from then on. `Status.Grown` says how the entries before and after some
looks go together: hosts without an entry get one at the end, in the order of the looks, and an entry
of a host that was not looked at stays where it is and as it is. Over any passes one after the other
the names of the entries are therefore distinct, and those there were come first
(`Health.Course.roster`).
-/

namespace RaftMysql

namespace Status

/-! ### Hosts that are new -/

/-- The hosts that are not known, each once, in their order. -/
def newcomers (known hosts : List String) : List String := (hosts.filter (· ∉ known)).eraseDups

variable {known hosts : List String} {host : String}

theorem mem_newcomers : host ∈ newcomers known hosts ↔ host ∈ hosts ∧ host ∉ known := by
  unfold newcomers
  rw [List.mem_eraseDups, List.mem_filter, decide_eq_true_iff]

theorem newcomers_cons_of_mem (h : host ∈ known) :
    newcomers known (host :: hosts) = newcomers known hosts := by
  unfold newcomers
  rw [List.filter_cons_of_neg (by simpa using h)]

theorem newcomers_cons_of_notMem (h : host ∉ known) :
    newcomers known (host :: hosts) = host :: newcomers (known ++ [host]) hosts := by
  unfold newcomers
  rw [List.filter_cons_of_pos (by simpa using h), List.eraseDups_cons, List.filter_filter]
  congr 2
  refine List.filter_congr fun other _ => ?_
  rw [Bool.eq_iff_iff]
  simp [and_comm]

theorem newcomers_append (xs ys : List String) :
    newcomers known (xs ++ ys) = newcomers known xs ++ newcomers (known ++ newcomers known xs) ys := by
  induction xs generalizing known with
  | nil => simp [newcomers]
  | cons x xs ih =>
    by_cases h : x ∈ known
    · rw [List.cons_append, newcomers_cons_of_mem h, newcomers_cons_of_mem h, ih]
    · rw [List.cons_append, newcomers_cons_of_notMem h, newcomers_cons_of_notMem h, ih,
        List.append_assoc, List.singleton_append, List.cons_append]

theorem nodup_newcomers : (newcomers known hosts).Nodup := by
  induction hosts generalizing known with
  | nil => exact List.nodup_nil
  | cons host hosts ih =>
    by_cases h : host ∈ known
    · rw [newcomers_cons_of_mem h]
      exact ih
    · rw [newcomers_cons_of_notMem h]
      refine List.nodup_cons.mpr ⟨fun hmem => ?_, ih⟩
      exact (mem_newcomers.mp hmem).2 (List.mem_append_right _ (List.mem_singleton_self host))

/-! ### Entries of hosts that are looked at -/

/-- The names of the entries. -/
def names (status : Status) : List String := status.nodes.map Node.name

/-- After looks at the hosts those without an entry have one, at the end and in the order of the looks,
and the entries of all others are the same ones in the same places. -/
structure Grown (hosts : List String) (before after : Status) : Prop where
  names : after.names = before.names ++ newcomers before.names hosts
  kept : ∀ (i : ℕ) (n : Node), before.nodes[i]? = some n → n.name ∉ hosts → after.nodes[i]? = some n

variable {before status after : Status} {hosts₁ hosts₂ : List String}

theorem Grown.of_nodes (h : after.nodes = before.nodes) : Grown [] before after where
  names := by
    unfold Status.names
    rw [h]
    simp [newcomers]
  kept := by
    intro i n hi _
    rwa [h]

theorem Grown.trans (h₁ : Grown hosts₁ before status) (h₂ : Grown hosts₂ status after) :
    Grown (hosts₁ ++ hosts₂) before after where
  names := by rw [h₂.names, h₁.names, newcomers_append, List.append_assoc]
  kept := by
    intro i n hi hn
    have hstatus := h₁.kept i n hi fun hmem => hn (List.mem_append_left _ hmem)
    exact h₂.kept i n hstatus fun hmem => hn (List.mem_append_right _ hmem)

theorem Grown.nodup (h : Grown hosts before after) (hbefore : before.names.Nodup) :
    after.names.Nodup := by
  rw [h.names]
  refine List.Nodup.append hbefore nodup_newcomers fun name hname hnew => ?_
  exact (mem_newcomers.mp hnew).2 hname

theorem Grown.prefix_names (h : Grown hosts before after) : before.names <+: after.names :=
  ⟨_, h.names.symm⟩

theorem getElem?_updateFirst_of_ne {change : Node → Node} {nodes : List Node} {i : ℕ} {n : Node}
    (hi : nodes[i]? = some n) (hne : n.name ≠ host) : (updateFirst nodes host change)[i]? = some n := by
  induction nodes generalizing i with
  | nil => cases hi
  | cons m nodes ih =>
    unfold updateFirst
    split <;> rename_i hm
    · cases i with
      | zero =>
        obtain rfl := Option.some.inj hi
        exact absurd (beq_iff_eq.mp hm) hne
      | succ i => exact hi
    · cases i with
      | zero => exact hi
      | succ i => exact ih hi

theorem names_withNode (nodes : List Node) (now : Time) : (withNode nodes host now).map Node.name =
    nodes.map Node.name ++ newcomers (nodes.map Node.name) [host] := by
  have hany : (nodes.any fun n => n.name == host) = true ↔ host ∈ nodes.map Node.name := by simp
  unfold withNode
  split <;> rename_i h
  · rw [newcomers_cons_of_mem (hany.mp h)]
    simp [newcomers]
  · rw [newcomers_cons_of_notMem (mt hany.mpr h)]
    simp [newcomers, Node.unknown]

theorem grown_updateNode {now : Time} {change : Node → Node} (hchange : ∀ n, (change n).name = n.name) :
    Grown [host] status (status.updateNode host now change) where
  names := by
    unfold Status.names updateNode
    rw [map_name_updateFirst hchange, names_withNode]
  kept := by
    intro i n hi hn
    refine getElem?_updateFirst_of_ne ?_ (by simpa using hn)
    unfold withNode
    split
    · exact hi
    · rw [List.getElem?_append_left (List.getElem?_eq_some_iff.mp hi).1, hi]

end Status

/-! ### Looks in a trace -/

/-- The host whose agent a request asks for its view. -/
def Request.viewed? : Request → Option String
  | .agent host _ .view => some host
  | _ => none

/-- The hosts that were looked at, in their order: a look begins with the view of the agent. -/
def Trace.lookedAt (t : Trace) : List String := t.filterMap fun e => e.request.viewed?

namespace Trace

variable {t : Trace}

theorem lookedAt_append (t₁ t₂ : Trace) : lookedAt (t₁ ++ t₂) = lookedAt t₁ ++ lookedAt t₂ :=
  List.filterMap_append

theorem lookedAt_eq_nil (h : ∀ e ∈ t, e.request.viewed? = none) : lookedAt t = [] :=
  List.filterMap_eq_nil_iff.mpr h

end Trace

namespace Health

variable {c : Cluster} {settings : Settings} {now : Time} {credentials : Credentials}
  {status status' : Status} {pod : Pod} {pods : List Pod} {t : Trace} {report : Report}

theorem lookedAt_of_probe {host : String} {moving : Bool}
    (h : Program.Run (Member.probe credentials settings.probe host moving) t report) :
    t.lookedAt = [host] := by
  obtain ⟨t₁, t₂, found, rfl, h₁, h₂⟩ := Program.run_bind.mp h
  obtain ⟨t₃, t₄, answer, rfl, h₃, h₄⟩ := Program.run_bind.mp h₁
  obtain rfl := Program.run_request.mp h₃
  have hquiet : t₄ = [] := by
    match answer with
    | .ok (view : AgentView) => exact (Program.run_pure.mp h₄).1
    | .error e => exact (Program.run_pure.mp h₄).1
  subst hquiet
  -- Nothing after the view asks for another one.
  have hrest : ∀ e ∈ t₂, e.request.viewed? = none := by
    refine h₂.asks (P := fun q => q.viewed? = none)
      (Program.asks_bind (Member.asks_connect rfl fun _ => rfl) fun answer => ?_)
    match answer with
    | .error e => exact Program.asks_pure _
    | .ok session =>
      exact Member.asks_useSession (fun _ => rfl) (fun _ _ => rfl) fun _ _ => rfl
  rw [Trace.lookedAt_append, Trace.lookedAt_eq_nil hrest]
  rfl

theorem Looked.lookedAt (h : Looked c settings credentials pod t report) :
    t.lookedAt = [c.hostOf pod.name] := by
  cases h with
  | @kept moving look _ hprobe hlabels =>
    show look.lookedAt = _
    exact lookedAt_of_probe hprobe
  | @labelled moving look _ answer hprobe hlabels =>
    show Trace.lookedAt (look ++ _) = _
    rw [Trace.lookedAt_append, lookedAt_of_probe hprobe]
    rfl

theorem grown_of_lookAtAll
    (h : Program.Run (lookAtAll c settings credentials now status pods) t status') :
    t.lookedAt = pods.map (fun pod => c.hostOf pod.name) ∧ Status.Grown t.lookedAt status status' := by
  induction pods generalizing status t with
  | nil =>
    obtain ⟨rfl, rfl⟩ := Program.run_pure.mp h
    exact ⟨rfl, .of_nodes rfl⟩
  | cons pod pods ih =>
    obtain ⟨t₁, t₂, status₁, rfl, h₁, h₂⟩ := Program.run_bind.mp h
    obtain ⟨report, hlooked, rfl⟩ := looked_of_run h₁
    obtain ⟨hhosts, hgrown⟩ := ih h₂
    have hfirst : Status.Grown [c.hostOf pod.name] status
        (status.updateNode (c.hostOf pod.name) now fun node => node.record report now) :=
      Status.grown_updateNode fun _ => rfl
    rw [Trace.lookedAt_append, hlooked.lookedAt]
    exact ⟨by rw [hhosts]; rfl, hfirst.trans hgrown⟩

theorem grown_of_refresh (h : Program.Run (refresh c settings now status pods) t status') :
    (t.lookedAt = pods.map (fun pod => c.hostOf pod.name) ∨ t.lookedAt = []) ∧
      Status.Grown t.lookedAt status status' := by
  obtain ⟨t₁, t₂, x, rfl, h₁, h₂⟩ := Program.run_bind.mp h
  obtain ⟨answer, rfl, -⟩ := Cluster.run_credentials? h₁
  match x with
  | .ok (some credentials) =>
    obtain ⟨hhosts, hgrown⟩ := grown_of_lookAtAll h₂
    exact ⟨.inl hhosts, hgrown⟩
  | .ok none | .error _ =>
    obtain ⟨rfl, rfl⟩ := Program.run_pure.mp h₂
    exact ⟨.inr rfl, .of_nodes rfl⟩

/-! ### One pass -/

/-- The hosts looked at are those of the ready pods that were listed, in the order of the listing, or
none. -/
def LooksInOrder (c : Cluster) (t : Trace) : Prop :=
  t.lookedAt = [] ∨ ∃ pods, ⟨.list .pod c.selector, .ok pods⟩ ∈ t ∧
    t.lookedAt = (pods.filter Pod.isReady).map fun pod => c.hostOf pod.name

theorem looksInOrder_of_compute {r : Except Error Status} (h : (compute c settings).Run t r) :
    LooksInOrder c t := by
  have hlooks : ∀ {now : Time} {pods : List Pod} {looks after : Trace} {refreshed : Status},
      Program.Run (refresh c settings now (counted c pods) (pods.filter Pod.isReady)) looks refreshed →
        Trace.lookedAt after = [] → LooksInOrder c
          (⟨.now, now⟩ :: ⟨.list .pod c.selector, .ok pods⟩ :: (looks ++ after)) := by
    intro now pods looks after refreshed hrun hafter
    have heq : Trace.lookedAt (⟨.now, now⟩ :: ⟨.list .pod c.selector, .ok pods⟩ :: (looks ++ after)) =
        looks.lookedAt := by
      show Trace.lookedAt (looks ++ after) = _
      rw [Trace.lookedAt_append, hafter, List.append_nil]
    unfold LooksInOrder
    rw [heq]
    rcases (grown_of_refresh hrun).1 with hhosts | hnone
    · exact .inr ⟨pods, by simp, hhosts⟩
    · exact .inl hnone
  cases computes_of_run h with
  | unlisted => exact .inl rfl
  | unread hrun => exact hlooks hrun rfl
  | concluded hrun => exact hlooks hrun rfl

theorem grown_of_compute (h : (compute c settings).Run t (.ok status)) :
    Status.Grown t.lookedAt (c.status.getD {}) status := by
  cases computes_of_run h with
  | @concluded now pods looks refreshed workload occurrence hrun =>
    have hcounted : Status.Grown [] (c.status.getD {}) (counted c pods) := .of_nodes rfl
    have hconcluded : Status.Grown [] refreshed (conclude c settings now pods workload refreshed) :=
      .of_nodes Status.nodes_accept
    have hgrown := (hcounted.trans (grown_of_refresh hrun).2).trans hconcluded
    show Status.Grown (Trace.lookedAt (looks ++ _)) _ _
    rw [Trace.lookedAt_append]
    exact hgrown

/-! ### Pass after pass -/

namespace Attempt

variable {a : Attempt}

/-- The status that the pass begins with. -/
def before (a : Attempt) : Status := a.copy.status.getD {}

/-- The status that the pass ends with, or the one that it began with if it fails. -/
def left (a : Attempt) : Status :=
  match a.outcome with
  | .ok status => status
  | .error _ => a.before

/-- What the status may be after a pass: the one that it ends well with. If it fails, the one before,
or one that it sent and that was stored without its getting to know. -/
inductive Leaves (a : Attempt) : Status → Prop
  | finished {status : Status} (h : a.outcome = .ok status) : Leaves a status
  | failed {e : Error} (h : a.outcome = .error e) : Leaves a a.before
  | unanswered {sent : Cluster} {e : Error}
    (h : ⟨.replaceStatus .cluster sent, .error e⟩ ∈ a.trace) : Leaves a (sent.status.getD {})

theorem lookedAt_write {sent : Cluster} {answer : Except Error Cluster} :
    Trace.lookedAt (t ++ [⟨.replaceStatus .cluster sent, answer⟩]) = t.lookedAt := by
  rw [Trace.lookedAt_append]
  exact List.append_nil _

theorem looksInOrder (a : Attempt) : LooksInOrder a.copy a.trace := by
  obtain ⟨copy, settings, trace, outcome, run⟩ := a
  dsimp only
  cases goes_of_run run with
  | failed hrun => exact looksInOrder_of_compute hrun
  | unchanged hrun hsame => exact looksInOrder_of_compute hrun
  | written hrun hother =>
    unfold LooksInOrder
    rw [lookedAt_write]
    refine (looksInOrder_of_compute hrun).imp id ?_
    rintro ⟨pods, hlist, hhosts⟩
    exact ⟨pods, List.mem_append_left _ hlist, hhosts⟩

theorem grown_of_outcome (h : a.outcome = .ok status) :
    Status.Grown a.trace.lookedAt a.before status := by
  obtain ⟨copy, settings, trace, outcome, run⟩ := a
  dsimp only [before] at h ⊢
  cases goes_of_run run with
  | failed hrun => cases h
  | unchanged hrun hsame =>
    obtain rfl := Except.ok.inj h
    exact grown_of_compute hrun
  | written hrun hother =>
    obtain rfl := eq_of_afterWrite h
    rw [lookedAt_write]
    exact grown_of_compute hrun

theorem Leaves.grown (h : a.Leaves status) :
    Status.Grown a.trace.lookedAt a.before status ∨
      (∃ e, a.outcome = .error e) ∧ status = a.before := by
  cases h with
  | finished houtcome => exact .inl (grown_of_outcome houtcome)
  | failed houtcome => exact .inr ⟨⟨_, houtcome⟩, rfl⟩
  | unanswered hwrite =>
    obtain ⟨t, status, ht, hrun, rfl, -⟩ := Attempt.write hwrite
    rw [ht, lookedAt_write]
    exact .inl (grown_of_compute hrun)

theorem leaves_left (a : Attempt) : a.Leaves a.left := by
  unfold left
  split <;> rename_i houtcome
  · exact .finished houtcome
  · exact .failed houtcome

theorem Leaves.nodup (h : a.Leaves status) (hbefore : a.before.names.Nodup) : status.names.Nodup := by
  rcases h.grown with hgrown | ⟨-, rfl⟩
  · exact hgrown.nodup hbefore
  · exact hbefore

theorem Leaves.prefix_names (h : a.Leaves status) : a.before.names <+: status.names := by
  rcases h.grown with hgrown | ⟨-, rfl⟩
  · exact hgrown.prefix_names
  · exact List.prefix_refl _

end Attempt

/-- Passes one after the other, each from the status that the one before left, and the status that is
left in the end. -/
inductive Course : Status → List (Attempt × Status) → Status → Prop
  | nil {status : Status} : Course status [] status
  | cons {a : Attempt} {left last : Status} {passes : List (Attempt × Status)} (h : a.Leaves left)
    (hs : Course left passes last) : Course a.before ((a, left) :: passes) last

/-- How the entries go together in passes one after the other. -/
structure Roster (first : Status) (passes : List (Attempt × Status)) (last : Status) : Prop where
  /-- No two entries have the same name. -/
  distinct : ∀ status ∈ first :: passes.map Prod.snd, status.names.Nodup
  /-- No entry is taken out, or gives up its place. -/
  lasting : (first :: passes.map Prod.snd).Pairwise fun earlier later => earlier.names <+: later.names
  /-- New entries are those of the hosts looked at that had none, and the entries of hosts that were not
  looked at stay as they are; a pass that fails may leave everything as it was. -/
  grown : ∀ p ∈ passes, Status.Grown p.1.trace.lookedAt p.1.before p.2 ∨
    (∃ e, p.1.outcome = .error e) ∧ p.2 = p.1.before
  /-- Members are looked at in the order of the listing. -/
  inOrder : ∀ p ∈ passes, LooksInOrder p.1.copy p.1.trace
  last : (first :: passes.map Prod.snd).getLast? = some last

/-- **How the entries grow** over any passes one after the other that begin with none. -/
theorem Course.roster {passes : List (Attempt × Status)} {first last : Status}
    (h : Course first passes last) (hfirst : first.nodes = []) : Roster first passes last := by
  have hdistinct : first.names.Nodup := by
    unfold Status.names
    rw [hfirst]
    exact List.nodup_nil
  clear hfirst
  induction h with
  | nil =>
    exact ⟨List.forall_mem_singleton.mpr hdistinct, List.pairwise_singleton .., by simp, by simp, rfl⟩
  | @cons a left last passes hleft hs ih =>
    have hrest := ih (hleft.nodup hdistinct)
    refine ⟨List.forall_mem_cons.mpr ⟨hdistinct, hrest.distinct⟩, ?_,
      List.forall_mem_cons.mpr ⟨hleft.grown, hrest.grown⟩,
      List.forall_mem_cons.mpr ⟨a.looksInOrder, hrest.inOrder⟩, ?_⟩
    · refine List.pairwise_cons.mpr ⟨?_, hrest.lasting⟩
      have hstep := hleft.prefix_names
      obtain ⟨hlater, -⟩ := List.pairwise_cons.mp hrest.lasting
      exact List.forall_mem_cons.mpr ⟨hstep, fun status hmem => hstep.trans (hlater status hmem)⟩
    · rw [List.map_cons, List.getLast?_cons_cons]
      exact hrest.last

/-! ### Two passes -/

/-- A pass over a group of which these pods are ready. -/
def readyAttempt (c : Cluster) (names : List String) : Attempt :=
  ⟨c, {}, _, _, Program.run_traceOf (fun q s => match q with
    | .list .pod _ => (.ok (names.map readyPod), s)
    | q => fadedAnswer q s) (pass c {}).outcome []⟩

/-- A pass that finds the second member ready. -/
def firstAttempt : Attempt := readyAttempt Topology.groupCluster ["sample-mysql-1"]

/-- The pass after it, which finds the first member ready as well. -/
def secondAttempt : Attempt :=
  readyAttempt { Topology.groupCluster with status := some firstAttempt.left }
    ["sample-mysql-0", "sample-mysql-1"]

/-- The member that was seen first keeps the first place. -/
theorem roster_of_two :
    Roster {} [(firstAttempt, firstAttempt.left), (secondAttempt, secondAttempt.left)]
      secondAttempt.left ∧
      secondAttempt.left.names =
        [Topology.groupCluster.hostOf "sample-mysql-1", Topology.groupCluster.hostOf "sample-mysql-0"] := by
  have hcourse : Course firstAttempt.before
      [(firstAttempt, firstAttempt.left), (secondAttempt, secondAttempt.left)] secondAttempt.left :=
    .cons firstAttempt.leaves_left (.cons secondAttempt.leaves_left .nil)
  exact ⟨hcourse.roster rfl, by decide +kernel⟩

end Health

end RaftMysql
