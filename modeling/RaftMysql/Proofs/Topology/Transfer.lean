import RaftMysql.Proofs.Health.Handoff
import RaftMysql.Proofs.Member.Holds
import RaftMysql.Proofs.Program.Waits

/-!
# A transfer from its first request to its last

A transfer asks the follower to lead only when the leader was made to refuse writes and has been seen
to have sent everything (`Topology.Drained`), and never when the follower said that it leads. It ends
well just when the follower says so in the wait for it (`Topology.LeadsInTime`). However it ends, the
move is off the record afterwards, whatever others do at the same time about the moves of other
clusters (`Topology.transfer_conducted`).
-/

namespace RaftMysql

theorem contains_iff {part cs : List Char} : contains part cs = true ↔ part <:+: cs := by
  induction cs with
  | nil => simp [contains]
  | cons c cs ih => rw [contains, Bool.or_eq_true, List.isPrefixOf_iff_prefix, ih, List.infix_cons_iff]

theorem exists_within {α : Type} {xs ys zs before after : List α} {a : α}
    (h : xs ++ (ys ++ zs) = before ++ a :: after) (hxs : a ∉ xs) (hzs : a ∉ zs) :
    ∃ own own', before = xs ++ own ∧ ys = own ++ a :: own' ∧ after = own' ++ zs := by
  obtain ⟨own, rfl, hrest⟩ := (append_eq_split h).resolve_left (by
    rintro ⟨own', rfl, -⟩
    exact hxs (by simp))
  obtain ⟨own', hys, rfl⟩ := (append_eq_split hrest).resolve_right (by
    rintro ⟨own', -, rfl⟩
    exact hzs (by simp))
  exact ⟨own, own', rfl, hys, rfl⟩

/-! ### The record of moves -/

namespace Handoffs

variable {h h' : Handoffs} {q : Request} {t : Trace} {cluster other : String}

/-- The request neither begins a move of the cluster nor ends one. -/
def LeavesMove (cluster : String) (q : Request) : Prop :=
  q ≠ .startHandoff cluster ∧ q ≠ .stopHandoff cluster

theorem leavesMove_of_isAside (hq : q.IsAside) : LeavesMove cluster q := by
  constructor
  · rintro rfl
    exact hq
  · rintro rfl
    exact hq

theorem inProgress_after_of_leaves (hq : LeavesMove cluster q) :
    (h.after q).inProgress cluster = h.inProgress cluster := by
  unfold after
  split
  · rename_i other
    have hne : cluster ≠ other := fun heq => hq.1 (by rw [heq])
    rw [Bool.eq_iff_iff, inProgress_start_iff, or_iff_right hne]
  · rename_i other
    have hne : cluster ≠ other := fun heq => hq.2 (by rw [heq])
    rw [Bool.eq_iff_iff, inProgress_stop_iff, and_iff_right hne]
  · rfl

theorem inProgress_after_congr (hsame : h.inProgress cluster = h'.inProgress cluster) :
    (h.after q).inProgress cluster = (h'.after q).inProgress cluster := by
  unfold after
  split
  · rw [Bool.eq_iff_iff, inProgress_start_iff, inProgress_start_iff, hsame]
  · rw [Bool.eq_iff_iff, inProgress_stop_iff, inProgress_stop_iff, hsame]
  · exact hsame

theorem inProgress_afterAll_of_quiet (hquiet : ∀ e ∈ t, e.request ≠ .startHandoff cluster)
    (hoff : h.inProgress cluster = false) : (record.afterAll h t).inProgress cluster = false := by
  induction t generalizing h with
  | nil => exact hoff
  | cons e t ih =>
    refine ih (fun e he => hquiet e (List.mem_cons_of_mem _ he)) ?_
    show (h.after e.request).inProgress cluster = false
    have hfirst := hquiet e (by simp)
    unfold after
    split
    · rename_i other heq
      have hne : cluster ≠ other := fun h => hfirst (by rw [heq, h])
      rw [Bool.eq_false_iff, ne_eq, inProgress_start_iff, or_iff_right hne, hoff]
      exact Bool.false_ne_true
    · rw [Bool.eq_false_iff, ne_eq, inProgress_stop_iff, hoff]
      exact fun h => Bool.false_ne_true h.2
    · exact hoff

/-- Who has nothing to do with the moves of a cluster makes no difference to what others do. -/
theorem inProgress_afterAll_of_interleaved {xs ys zs : Trace} (hmix : Interleaved xs ys zs)
    (hxs : ∀ e ∈ xs, LeavesMove cluster e.request)
    (hsame : h.inProgress cluster = h'.inProgress cluster) :
    (record.afterAll h zs).inProgress cluster = (record.afterAll h' ys).inProgress cluster := by
  induction hmix generalizing h h' with
  | nil => exact hsame
  | left hmix ih =>
    obtain ⟨hx, hxs⟩ := List.forall_mem_cons.mp hxs
    exact ih hxs ((inProgress_after_of_leaves hx).trans hsame)
  | right hmix ih => exact ih hxs (inProgress_after_congr hsame)

end Handoffs

namespace Topology

variable {c : Cluster} {settings : Settings} {leader follower : String} {t : Trace}
  {r : Except Error Unit}

/-! ### What comes before the wait for the follower -/

/-- The leader accepted to be read-only on a session, and then one of its connections had sent
everything. -/
def Drained (c : Cluster) (leader : String) (t : Trace) : Prop :=
  ∃ (login : Login) (session : Session) (rows : List Row), login.host = c.hostOf leader ∧
    (∃ row ∈ rows, sentState.toList <:+: (Row.text row "State").toList) ∧
    [⟨.connect login, .ok session⟩, ⟨.execute session readOnlyOn, .ok ()⟩,
      ⟨.query session "show processlist", .ok rows⟩].Sublist t

theorem Drained.append {before : Trace} (h : Drained c leader before) (after : Trace) :
    Drained c leader (before ++ after) := by
  obtain ⟨login, session, rows, hhost, hrow, hsub⟩ := h
  exact ⟨login, session, rows, hhost, hrow, hsub.trans (List.sublist_append_left ..)⟩

theorem Drained.cons (h : Drained c leader t) (e : Event) : Drained c leader (e :: t) := by
  obtain ⟨login, session, rows, hhost, hrow, hsub⟩ := h
  exact ⟨login, session, rows, hhost, hrow, hsub.trans (List.sublist_cons_self ..)⟩

/-- The request asks no agent for anything. -/
def AsksNoAgent : Request → Prop
  | .agent .. => False
  | _ => True

theorem asksNoAgent_drain {session : Session} :
    (drain settings session leader).Asks AsksNoAgent := by
  refine Procedure.asks_poll trivial (fun _ => trivial) ?_
  refine Procedure.asks_bind (Program.asks_request trivial) fun _ => ?_
  exact Procedure.asks_bind (Program.asks_request trivial) fun _ => Procedure.asks_pure _

theorem asksNoAgent_connect {credentials : Credentials} {host : String} {s : ProbeSettings} :
    (Member.connect credentials host s).Asks AsksNoAgent :=
  Procedure.asks_retry (fun _ => trivial) (Program.asks_request trivial)

/-! ### The wait for the follower -/

/-- A look at whether a host leads: its view, and unless it leads a request to. -/
inductive Urges (host password : String) : Trace → Except Error Bool → Prop
  | unanswered {e : Error} : Urges host password [⟨.agent host password .view, .error e⟩] (.ok false)
  | leads {view : AgentView} (h : view.role = .leader) :
    Urges host password [⟨.agent host password .view, .ok view⟩] (.ok true)
  | urged {view : AgentView} {answer : Except Error Unit} (h : view.role ≠ .leader) :
    Urges host password
      [⟨.agent host password .view, .ok view⟩, ⟨.agent host password .lead, answer⟩] (.ok false)

theorem urges_of_run {host password : String} {x : Except Error Bool}
    (h : (urge host password).Run t x) : Urges host password t x := by
  obtain ⟨t₁, t₂, answer, rfl, h₁, h₂⟩ := Program.run_bind.mp h
  obtain rfl := Program.run_request.mp h₁
  match answer with
  | .error e =>
    obtain ⟨rfl, rfl⟩ := Program.run_pure.mp h₂
    exact .unanswered
  | .ok (view : AgentView) =>
    dsimp only at h₂
    split at h₂ <;> rename_i hview
    · obtain ⟨rfl, rfl⟩ := Program.run_pure.mp h₂
      exact .leads hview
    · obtain ⟨t₃, t₄, answer, rfl, h₃, h₄⟩ := Program.run_bind.mp h₂
      obtain rfl := Program.run_request.mp h₃
      obtain ⟨rfl, rfl⟩ := Program.run_pure.mp h₄
      exact .urged hview

/-- The event is an answer of the host that it leads. -/
def Leads (host : String) (e : Event) : Prop :=
  ∃ (password : String) (view : AgentView), e = ⟨.agent host password .view, .ok view⟩ ∧
    view.role = .leader

theorem not_leads_of_asksNoAgent {host : String} {e : Event} (h : AsksNoAgent e.request) :
    ¬Leads host e := by
  rintro ⟨password, view, rfl, -⟩
  exact h

theorem Urges.not_leads {host password : String} (h : Urges host password t (.ok false)) :
    ∀ e ∈ t, ¬Leads host e ∧ e.request ≠ .clock := by
  cases h with
  | unanswered => simp [Leads]
  | @urged view answer hview =>
    have hother : ∀ view' : AgentView, view = view' → view'.role ≠ .leader := by
      rintro _ rfl
      exact hview
    simpa [Leads] using hother

/-- **The wait for the follower** ends well as soon as it says that it leads; or it fails, and the follower
has not said so. -/
theorem leads_of_awaits {what host password : String} {wait : Wait}
    (h : Awaits what wait (Urges host password) t r) :
    ((∃ e, r = .error e) ∧ ∀ e ∈ t, ¬Leads host e) ∨
      r = .ok () ∧ ∃ (start : Duration) (looks : Trace) (e : Event),
        t = ⟨.clock, start⟩ :: (looks ++ [e]) ∧ Leads host e ∧ (∀ e ∈ looks, ¬Leads host e) ∧
        ∀ now : Duration, ⟨.clock, now⟩ ∈ looks → now < start + wait.timeout := by
  have hclock : ∀ now : Duration, ¬Leads host ⟨.clock, now⟩ := fun _ => not_leads_of_asksNoAgent trivial
  have hsleep : ∀ (d : Duration) (answer : Unit), ¬Leads host ⟨.sleep d, answer⟩ :=
    fun _ _ => not_leads_of_asksNoAgent trivial
  cases h with
  | unbegun => exact .inl ⟨⟨_, rfl⟩, List.forall_mem_singleton.mpr (hclock _)⟩
  | @begun start t' r h hs =>
    rcases hs.ends hclock hsleep fun t h => h.not_leads with
      ⟨rfl, hnone⟩ | ⟨looks, own, x, rfl, hnone, hearly, hown, hx, rfl⟩
    · exact .inl ⟨⟨_, rfl⟩, List.forall_mem_cons.mpr ⟨hclock start, hnone⟩⟩
    · cases hown with
      | unanswered => exact absurd rfl hx
      | urged => exact absurd rfl hx
      | leads hview => exact .inr ⟨rfl, start, looks, _, rfl, ⟨password, _, rfl, hview⟩, hnone, hearly⟩

/-- The host is asked to lead only before it says that it does. -/
theorem lead_of_awaits {what host password : String} {wait : Wait} {before after : Trace}
    {other password' : String} {answer : Except Error Unit}
    (h : Awaits what wait (Urges host password) t r)
    (ht : t = before ++ ⟨.agent other password' .lead, answer⟩ :: after) :
    other = host ∧ ∀ e ∈ before, ¬Leads host e := by
  constructor
  · have hhost := h.forall_mem (P := fun e => ∀ other password, e.request = .agent other password .lead →
      other = host) (by simp) (by simp) (by rintro t x (_ | _ | _) <;> simp_all)
    exact hhost ⟨.agent other password' .lead, answer⟩ (by simp [ht]) other password' rfl
  · rcases leads_of_awaits h with ⟨-, hnone⟩ | ⟨-, start, looks, e, rfl, hleads, hnone, -⟩
    · exact fun e he => hnone e (by simp [ht, he])
    · obtain ⟨password, view, rfl, -⟩ := hleads
      have heq : (⟨.clock, start⟩ :: looks) ++ [⟨.agent host password .view, .ok view⟩] =
          before ++ ⟨.agent other password' .lead, answer⟩ :: after := ht
      have hlooks : ∀ e ∈ (⟨.clock, start⟩ :: looks : Trace), ¬Leads host e :=
        List.forall_mem_cons.mpr ⟨not_leads_of_asksNoAgent trivial, hnone⟩
      rcases append_eq_split heq with ⟨own, hbefore, -⟩ | ⟨own, -, hlast⟩
      · rw [hbefore] at hlooks
        exact fun e he => hlooks e (List.mem_append_left _ he)
      · -- What comes last is an answer to a look.
        cases own <;> simp at hlast

/-! ### The whole transfer -/

/-- No agent is asked for anything until the leader is drained, and then only in the wait for the
follower, which decides how it ends. -/
inductive HandsOver (c : Cluster) (settings : Settings) (leader follower : String) :
    Trace → Except Error Unit → Prop
  | broken {t : Trace} {e : Error} (hquiet : ∀ e ∈ t, AsksNoAgent e.request) :
    HandsOver c settings leader follower t (.error e)
  | awaited {before waiting after : Trace} {password : String} {r : Except Error Unit}
    (hdrained : Drained c leader before) (hbefore : ∀ e ∈ before, AsksNoAgent e.request)
    (hwait : Awaits (follower ++ " to become leader") settings.rollout.leaderTransfer
      (Urges (c.hostOf follower) password) waiting r)
    (hafter : ∀ e ∈ after, AsksNoAgent e.request) :
    HandsOver c settings leader follower (before ++ (waiting ++ after)) r

theorem handsOver_of_run (h : (handOver c settings leader follower).Run t r) :
    HandsOver c settings leader follower t r := by
  have hsecret : (requireCredentials c).Asks AsksNoAgent := asks_requireCredentials trivial
  rcases Procedure.run_bind.mp h with ⟨e, h₁, rfl⟩ | ⟨t₁, t₂, credentials, rfl, h₁, h₂⟩
  · exact .broken (h₁.asks hsecret)
  rcases Procedure.run_bind.mp h₂ with ⟨e, h₃, rfl⟩ | ⟨t₃, t₄, session, rfl, h₃, h₄⟩
  · exact .broken (List.forall_mem_append.mpr ⟨h₁.asks hsecret, h₃.asks asksNoAgent_connect⟩)
  have hconnected := List.forall_mem_append.mpr ⟨h₁.asks hsecret, h₃.asks asksNoAgent_connect⟩
  rw [← List.append_assoc]
  rcases Procedure.run_bind.mp h₄ with ⟨e, h₅, rfl⟩ | ⟨t₅, t₆, _, rfl, h₅, h₆⟩
  · exact .broken (List.forall_mem_append.mpr ⟨hconnected, h₅.asks asksNoAgent_drain⟩)
  obtain ⟨login, hhost, hconnect⟩ := run_connect h₃
  obtain ⟨rows, hrows, hdrain⟩ := run_drain h₅
  have hdrained : Drained c leader (t₁ ++ t₃ ++ t₅) := by
    obtain ⟨row, hrow, hstate⟩ := List.any_eq_true.mp hrows
    refine ⟨login, session, rows, hhost, ⟨row, hrow, contains_iff.mp hstate⟩, ?_⟩
    rw [List.append_assoc]
    exact (hconnect.append hdrain).trans (List.sublist_append_right t₁ _)
  have hbefore := List.forall_mem_append.mpr ⟨hconnected, h₅.asks asksNoAgent_drain⟩
  rw [← List.append_assoc]
  rcases Procedure.run_bind.mp h₆ with ⟨e, h₇, rfl⟩ | ⟨t₇, t₈, _, rfl, h₇, h₈⟩
  · have hwait := awaits_of_run (fun _ _ => urges_of_run) h₇
    rw [← List.append_nil t₆]
    exact .awaited hdrained hbefore hwait (by simp)
  · have hwait := awaits_of_run (fun _ _ => urges_of_run) h₇
    obtain ⟨_, hrecord, rfl⟩ := Procedure.run_step.mp h₈
    obtain rfl := Program.run_request.mp hrecord
    exact .awaited hdrained hbefore hwait (List.forall_mem_singleton.mpr trivial)

theorem handsOver_of_transfer (h : (transferLeadership c settings leader follower).Run t r) :
    HandsOver c settings leader follower t r := by
  obtain ⟨t₁, t₂, _, rfl, h₁, h₂⟩ := Program.run_bind.mp h
  obtain rfl := Program.run_request.mp h₁
  obtain ⟨body, t₃, outcome, rfl, hbody, h₃⟩ := Program.run_bind.mp h₂
  obtain ⟨t₄, t₅, _, rfl, h₄, h₅⟩ := Program.run_bind.mp h₃
  obtain rfl := Program.run_request.mp h₄
  obtain ⟨rfl, rfl⟩ := Program.run_pure.mp h₅
  rw [List.append_nil, List.singleton_append]
  have hstop : ∀ e ∈ ([⟨.stopHandoff c.key, ()⟩] : Trace), AsksNoAgent e.request :=
    List.forall_mem_singleton.mpr trivial
  cases handsOver_of_run hbody with
  | broken hquiet =>
    exact .broken (List.forall_mem_cons.mpr ⟨trivial, List.forall_mem_append.mpr ⟨hquiet, hstop⟩⟩)
  | @awaited before waiting after password _ hdrained hbefore hwait hafter =>
    have hmarked : HandsOver c settings leader follower
        ((⟨.startHandoff c.key, ()⟩ :: before) ++ (waiting ++ (after ++ [⟨.stopHandoff c.key, ()⟩]))) r :=
      .awaited (hdrained.cons _) (List.forall_mem_cons.mpr ⟨trivial, hbefore⟩) hwait
        (List.forall_mem_append.mpr ⟨hafter, hstop⟩)
    simpa using hmarked

/-- The follower says that it leads when it is asked in the wait for it, while there is time left, and
the leader was drained before. -/
def LeadsInTime (c : Cluster) (settings : Settings) (leader follower : String) (t : Trace) : Prop :=
  ∃ (before : Trace) (start : Duration) (looks : Trace) (e : Event) (after : Trace),
    t = before ++ ⟨.clock, start⟩ :: (looks ++ e :: after) ∧ Drained c leader before ∧
      Leads (c.hostOf follower) e ∧
      ∀ now : Duration, ⟨.clock, now⟩ ∈ looks → now < start + settings.rollout.leaderTransfer.timeout

theorem HandsOver.ok_of_leads (h : HandsOver c settings leader follower t r) {e : Event}
    (he : e ∈ t) (hleads : Leads (c.hostOf follower) e) : r = .ok () := by
  cases h with
  | broken hquiet => exact absurd hleads (not_leads_of_asksNoAgent (hquiet e he))
  | awaited hdrained hbefore hwait hafter =>
    have hsince := (List.mem_append.mp he).resolve_left fun he =>
      not_leads_of_asksNoAgent (hbefore e he) hleads
    have hwaiting := (List.mem_append.mp hsince).resolve_right fun he =>
      not_leads_of_asksNoAgent (hafter e he) hleads
    rcases leads_of_awaits hwait with ⟨-, hnone⟩ | ⟨hr, -⟩
    · exact absurd hleads (hnone e hwaiting)
    · exact hr

theorem HandsOver.ok_iff (h : HandsOver c settings leader follower t r) :
    r = .ok () ↔ LeadsInTime c settings leader follower t := by
  constructor
  · rintro rfl
    cases h with
    | @awaited before waiting after password _ hdrained hbefore hwait hafter =>
      rcases leads_of_awaits hwait with ⟨⟨_, hr⟩, -⟩ | ⟨-, start, looks, e, rfl, hleads, -, hearly⟩
      · cases hr
      · exact ⟨before, start, looks, e, after, by simp, hdrained, hleads, hearly⟩
  · rintro ⟨before, start, looks, e, after, rfl, -, hleads, -⟩
    exact h.ok_of_leads (by simp) hleads

/-- A request to lead comes in the wait for the follower. -/
theorem HandsOver.asked (h : HandsOver c settings leader follower t r) {before after : Trace}
    {host password : String} {answer : Except Error Unit}
    (ht : t = before ++ ⟨.agent host password .lead, answer⟩ :: after) :
    host = c.hostOf follower ∧ Drained c leader before ∧
      ∀ e ∈ before, ¬Leads (c.hostOf follower) e := by
  cases h with
  | broken hquiet => exact absurd (hquiet ⟨.agent host password .lead, answer⟩ (by simp [ht])) id
  | awaited hdrained hbefore hwait hafter =>
    obtain ⟨own, own', rfl, hwaiting, -⟩ :=
      exists_within ht (fun hmem => hbefore _ hmem) fun hmem => hafter _ hmem
    obtain ⟨hhost, hnone⟩ := lead_of_awaits hwait hwaiting
    refine ⟨hhost, hdrained.append own, List.forall_mem_append.mpr ⟨fun e he => ?_, hnone⟩⟩
    exact not_leads_of_asksNoAgent (hbefore e he)

/-- What the trace and the outcome of a transfer say. -/
structure Conducted (c : Cluster) (settings : Settings) (leader follower : String) (t : Trace)
    (r : Except Error Unit) : Prop where
  /-- No one but the follower is asked to lead, the leader was drained before, and the follower has not
  said that it leads. -/
  asked : ∀ (before after : Trace) (host password : String) (answer : Except Error Unit),
    t = before ++ ⟨.agent host password .lead, answer⟩ :: after →
      host = c.hostOf follower ∧ Drained c leader before ∧
        ∀ e ∈ before, ¬Leads (c.hostOf follower) e
  /-- It ends well just when the follower says that it leads in the wait after the drain. -/
  ok_iff : r = .ok () ↔ LeadsInTime c settings leader follower t
  /-- The follower does not say so at any other time. -/
  ok_of_leads : ∀ e ∈ t, Leads (c.hostOf follower) e → r = .ok ()
  /-- However it ends, its move is off the record, unless someone else begins one; the moves of other
  clusters are those that others make. -/
  ended : ∀ (h : Handoffs) (others all : Trace), Interleaved t others all →
    (∀ e ∈ others, e.request ≠ .startHandoff c.key) →
      (Handoffs.record.afterAll h all).inProgress c.key = false ∧
        ∀ other, other ≠ c.key → (Handoffs.record.afterAll h all).inProgress other =
          (Handoffs.record.afterAll h others).inProgress other

theorem ended_of_transfer (h : (transferLeadership c settings leader follower).Run t r)
    (moves : Handoffs) {others all : Trace} (hmix : Interleaved t others all)
    (hothers : ∀ e ∈ others, e.request ≠ .startHandoff c.key) :
    (Handoffs.record.afterAll moves all).inProgress c.key = false ∧
      ∀ other, other ≠ c.key → (Handoffs.record.afterAll moves all).inProgress other =
        (Handoffs.record.afterAll moves others).inProgress other := by
  obtain ⟨body, rfl, hbody⟩ := exists_body_of_transfer h
  constructor
  · -- After the move is taken off the record there are only requests of others.
    have hmix' : Interleaved others ((⟨.startHandoff c.key, ()⟩ :: body) ++ [⟨.stopHandoff c.key, ()⟩])
        all := hmix.symm
    obtain ⟨others₁, others₂, all₁, rfl, rfl, -⟩ := hmix'.exists_last
    rw [Record.afterAll_append]
    refine Handoffs.inProgress_afterAll_of_quiet (h := (Handoffs.record.afterAll moves all₁).stop c.key)
      (fun e he => hothers e (List.mem_append_right _ he)) ?_
    rw [Bool.eq_false_iff, ne_eq, Handoffs.inProgress_stop_iff]
    exact fun h => h.1 rfl
  · intro other hother
    refine Handoffs.inProgress_afterAll_of_interleaved hmix ?_ rfl
    have hmarks : Handoffs.LeavesMove other (.startHandoff c.key) ∧
        Handoffs.LeavesMove other (.stopHandoff c.key) := by
      simp [Handoffs.LeavesMove, hother.symm]
    refine List.forall_mem_cons.mpr ⟨hmarks.1, List.forall_mem_append.mpr ⟨fun e he => ?_,
      List.forall_mem_singleton.mpr hmarks.2⟩⟩
    exact Handoffs.leavesMove_of_isAside (hbody e he)

/-- **A transfer**, whatever it is answered and however it ends. -/
theorem transfer_conducted (h : (transferLeadership c settings leader follower).Run t r) :
    Conducted c settings leader follower t r where
  asked _ _ _ _ _ ht := (handsOver_of_transfer h).asked ht
  ok_iff := (handsOver_of_transfer h).ok_iff
  ok_of_leads _ he hleads := (handsOver_of_transfer h).ok_of_leads he hleads
  ended moves _ _ hmix hothers := ended_of_transfer h moves hmix hothers

/-! ### A follower that is asked to lead -/

/-- What answers for the group of two when a member leads as soon as it was asked to. -/
def obligingAnswer : (q : Request) → List String → q.Answer × List String
  | .agent host _ .lead, asked => (.ok (), host :: asked)
  | .agent host _ .view, asked =>
    (.ok { state := if asked.contains host then "LEADER" else "FOLLOWER" }, asked)
  | q, asked => readOnlyAnswer q asked

/-- The trace of a transfer in this group. -/
def obligingTrace : Trace :=
  (transferLeadership groupCluster {} "sample-mysql-0" "sample-mysql-1").outcome.traceOf obligingAnswer []

/-- The follower is asked to lead, and does. -/
theorem obliging_conducted :
    Conducted groupCluster {} "sample-mysql-0" "sample-mysql-1" obligingTrace (.ok ()) ∧
      LeadsInTime groupCluster {} "sample-mysql-0" "sample-mysql-1" obligingTrace ∧
      (Handoffs.record.afterAll {} obligingTrace).inProgress groupCluster.key = false := by
  have hok : (Program.run obligingAnswer
      (transferLeadership groupCluster {} "sample-mysql-0" "sample-mysql-1").outcome []).1 = .ok () := by
    decide +kernel
  have hconducted : Conducted groupCluster {} "sample-mysql-0" "sample-mysql-1" obligingTrace (.ok ()) :=
    transfer_conducted (Program.run_traceOf_of_eq obligingAnswer hok)
  have halone : Interleaved obligingTrace [] obligingTrace := by
    simpa using Interleaved.nil.append_left obligingTrace
  obtain ⟨hended, -⟩ := hconducted.ended {} [] obligingTrace halone (by simp)
  exact ⟨hconducted, hconducted.ok_iff.mp rfl, hended⟩

end Topology

end RaftMysql
