import ServiceGen.Proofs.Analysis.Failure

/-!
What an analyzer depends on. In a walk that goes on after failures every analyzer has its turn, and
sees of what it requires just what is there in the end. So its turn is settled by the analyzers that
it requires, directly or through others: wherever the same of these take part, it has the same turn,
whatever else takes part, runs beside it or fails.
-/
namespace ServiceGen.Analysis

variable {ι υ ε κ : Type} {ρ : κ → Type}

namespace Turn

/-- Two turns of one analyzer that came to the same. -/
structure Alike (turn turn' : Turn ι ε ρ) : Prop where
  analyzer : turn.node.analyzer = turn'.node.analyzer
  name : turn.node.name = turn'.node.name
  seen : turn.seen = turn'.seen
  run : turn.run = turn'.run

theorem Alike.diagnostics_eq [Explained ε] {turn turn' : Turn ι ε ρ} (h : turn.Alike turn') :
    turn.diagnostics = turn'.diagnostics := by
  rw [diagnostics, diagnostics, h.name, h.run]

end Turn

namespace Walk

/-- Each node depends on what is done before it or on nodes that stand in front of it. -/
def Sequenced (nodes : List (Node ι κ)) : List (Node ι κ) → List (Node ι κ) → Prop
  | _, [] => True
  | done, node :: rest => Ready nodes done node ∧ Sequenced nodes (done ++ [node]) rest

theorem sequenced_append {nodes : List (Node ι κ)} {done batch rest : List (Node ι κ)}
    (hready : ∀ node ∈ batch, Ready nodes done node)
    (hrest : Sequenced nodes (done ++ batch) rest) : Sequenced nodes done (batch ++ rest) := by
  induction batch generalizing done with
  | nil => simpa using hrest
  | cons node batch ih =>
    refine ⟨hready node (List.mem_cons_self ..), ih ?_ ?_⟩
    · intro other hother
      exact (hready other (List.mem_cons_of_mem _ hother)).append _
    · rwa [List.append_assoc, List.singleton_append]

theorem Staged.sequenced {nodes done : List (Node ι κ)} {batches : List (List (Node ι κ))}
    (h : Staged nodes done batches) : Sequenced nodes done batches.flatten := by
  induction batches generalizing done with
  | nil => trivial
  | cons batch rest ih => exact sequenced_append h.1 (ih h.2)

/-- What passes from the requirements of a node on to the node holds of all nodes in sequence. -/
theorem Sequenced.forall_of_step {nodes done list : List (Node ι κ)} (h : Sequenced nodes done list)
    {P : κ → Prop} (hdone : ∀ node ∈ done, P node.kind)
    (hstep : ∀ node ∈ list, (∀ kind ∈ required nodes node, P kind) → P node.kind) :
    ∀ node ∈ list, P node.kind := by
  induction list generalizing done with
  | nil => simp
  | cons first rest ih =>
    obtain ⟨hready, hrest⟩ := h
    have hfirst : P first.kind := by
      apply hstep first (List.mem_cons_self ..)
      intro kind hkind
      obtain ⟨other, hother, rfl⟩ := List.mem_map.mp (hready.mem_kinds hkind)
      exact hdone other hother
    have hmore : ∀ node ∈ done ++ [first], P node.kind := by
      intro node hnode
      rcases List.mem_append.mp hnode with hnode | hnode
      · exact hdone node hnode
      · rw [List.mem_singleton.mp hnode]
        exact hfirst
    intro node hnode
    rcases List.mem_cons.mp hnode with rfl | hnode
    · exact hfirst
    · exact ih hrest hmore (fun other hother => hstep other (List.mem_cons_of_mem _ hother)) node
        hnode

section

variable [DecidableEq κ] {catalog : Catalog ι υ ε ρ} {nodes : List (Node ι κ)} {unit : υ}

theorem map_kind_chronicle (recorded : Results ρ) (list : List (Node ι κ)) :
    (chronicle catalog nodes unit recorded list).map Turn.kind = list.map Node.kind := by
  induction list generalizing recorded with
  | nil => rfl
  | cons node rest ih =>
    rw [chronicle, List.map_cons, List.map_cons, ih]
    rfl

/-- In sequence, every node sees what is there in the end. -/
theorem chronicle_of_sequenced {done list : List (Node ι κ)} (h : Sequenced nodes done list)
    (hfaithful : ∀ node ∈ list, Discovery.Faithful catalog node)
    (hdistinct : ((done ++ list).map Node.kind).Nodup) (recorded : Results ρ) :
    chronicle catalog nodes unit recorded list =
      list.map (turn catalog nodes unit
        (replay recorded (chronicle catalog nodes unit recorded list))) := by
  induction list generalizing done recorded with
  | nil => rfl
  | cons node rest ih =>
    obtain ⟨hready, hrest⟩ := h
    have hlater : ((done ++ [node] ++ rest).map Node.kind).Nodup := by
      rwa [List.append_assoc, List.singleton_append]
    have htail := ih hrest (fun other hother => hfaithful other (List.mem_cons_of_mem _ hother))
      hlater (record recorded (turn catalog nodes unit recorded node).run)
    have hself : turn catalog nodes unit recorded node = turn catalog nodes unit
        (replay recorded (chronicle catalog nodes unit recorded (node :: rest))) node := by
      apply turn_congr
      intro kind hkind
      refine (get?_replay_of_notMem (fun _ => own_of_mem_chronicle hfaithful) ?_ recorded).symm
      rw [map_kind_chronicle]
      rw [List.map_append] at hdistinct
      exact List.disjoint_of_nodup_append hdistinct (hready.mem_kinds hkind)
    rw [chronicle, List.map_cons, replay_cons, ← htail, ← replay_cons]
    exact congrArg (· :: _) hself

end

end Walk

variable [DecidableEq κ] {catalog : Catalog ι υ ε ρ}

namespace Discovery

theorem Lists.map_kind {nodes : List (Node ι κ)} {positions : List Nat} {kinds : List κ}
    (h : positions.map some = kinds.map (positionOf nodes)) :
    (positions.filterMap (nodes[·]?)).map Node.kind = kinds := by
  induction kinds generalizing positions with
  | nil => simp_all
  | cons kind rest ih =>
    cases positions with
    | nil => simp at h
    | cons position positions =>
      obtain ⟨hfirst, hrest⟩ := List.cons.inj h
      obtain ⟨node, hnode, rfl⟩ := kind_of_positionOf hfirst.symm
      rw [List.filterMap_cons_some hnode, List.map_cons, ih hrest]

/-- The kinds that a node depends on do not depend on its graph, nor does their order. -/
theorem Collected.required_eq {nodes : List (Node ι κ)} (h : Collected catalog nodes)
    {node : Node ι κ} (hnode : node ∈ nodes) :
    Walk.required nodes node = (catalog.requiredKinds node.analyzer).eraseDups :=
  Lists.map_kind (h.followed node hnode)

end Discovery

namespace Graph

variable {graph graph' : Graph ι κ} {unit : υ}

/-- The analyzer that takes part for a kind. -/
def chosen? (graph : Graph ι κ) (kind : κ) : Option ι :=
  (graph.nodes.find? (·.kind = kind)).map Node.analyzer

/-- The analyzer that takes part for a kind requires another kind. -/
def Needs (catalog : Catalog ι υ ε ρ) (graph : Graph ι κ) (kind other : κ) : Prop :=
  ∃ i, graph.chosen? kind = some i ∧ other ∈ catalog.requiredKinds i

theorem exists_node_of_chosen? {kind : κ} {i : ι} (h : graph.chosen? kind = some i) :
    ∃ node ∈ graph.nodes, node.kind = kind ∧ node.analyzer = i := by
  obtain ⟨node, hfind, rfl⟩ := Option.map_eq_some_iff.mp h
  exact ⟨node, List.mem_of_find?_eq_some hfind, by simpa using List.find?_some hfind, rfl⟩

/-- The results that a graph comes to in the end. -/
def finalResults (catalog : Catalog ι υ ε ρ) (graph : Graph ι κ) (unit : υ) : Results ρ :=
  Walk.replay .empty (Walk.chronicle catalog graph.nodes unit .empty (Walk.order graph))

/-- Two graphs come to the same for the analyzer of a kind: it has the same turn in the end, and
there is the same result of it. -/
structure Concur (catalog : Catalog ι υ ε ρ) (graph graph' : Graph ι κ) (unit : υ) (kind : κ) :
    Prop where
  result : (finalResults catalog graph unit).get? kind =
    (finalResults catalog graph' unit).get? kind
  turns : ∃ node ∈ graph.nodes, ∃ node' ∈ graph'.nodes, node.kind = kind ∧ node'.kind = kind ∧
    (Walk.turn catalog graph.nodes unit (finalResults catalog graph unit) node).Alike
      (Walk.turn catalog graph'.nodes unit (finalResults catalog graph' unit) node')

namespace Built

variable (h : Built catalog graph)

include h

theorem chosen?_kind {node : Node ι κ} (hnode : node ∈ graph.nodes) :
    graph.chosen? node.kind = some node.analyzer := by
  have hfound : (graph.nodes.find? (·.kind = node.kind)).isSome := by
    rw [List.find?_isSome]
    exact ⟨node, hnode, by simp⟩
  obtain ⟨other, hother⟩ := Option.isSome_iff_exists.mp hfound
  have hkind : other.kind = node.kind := by simpa using List.find?_some hother
  have hsame := List.inj_on_of_nodup_map h.collected.distinct (List.mem_of_find?_eq_some hother)
    hnode hkind
  rw [chosen?, hother, hsame, Option.map_some]

theorem sequenced : Walk.Sequenced graph.nodes [] (Walk.order graph) := by
  have hscheduled := h.scheduled ⟨1, true⟩
  rw [← hscheduled.inOrder]
  exact hscheduled.staged.sequenced

/-- What passes from the requirements of an analyzer on to the analyzer holds of all analyzers. -/
theorem forall_of_step {P : κ → Prop}
    (hstep : ∀ node ∈ graph.nodes,
      (∀ kind ∈ catalog.requiredKinds node.analyzer, P kind) → P node.kind) :
    ∀ node ∈ graph.nodes, P node.kind := by
  intro node hnode
  refine h.sequenced.forall_of_step (by simp) ?_ node (h.perm_order.mem_iff.mpr hnode)
  intro other hother hrequired
  have hmem := h.perm_order.mem_iff.mp hother
  apply hstep other hmem
  intro kind hkind
  exact hrequired kind ((h.collected.mem_required_iff hmem kind).mpr hkind)

theorem faithful_order {node : Node ι κ} (hnode : node ∈ Walk.order graph) :
    Discovery.Faithful catalog node :=
  h.collected.faithful node (h.perm_order.mem_iff.mp hnode)

/-- Every analyzer has the turn that it would have in the end. -/
theorem chronicle_eq (unit : υ) :
    Walk.chronicle catalog graph.nodes unit .empty (Walk.order graph) =
      (Walk.order graph).map
        (Walk.turn catalog graph.nodes unit (finalResults catalog graph unit)) :=
  Walk.chronicle_of_sequenced h.sequenced (fun _ hnode => h.faithful_order hnode)
    h.nodup_kinds_order .empty

/-- The result of an analyzer in the end is the one of the turn that it has then. -/
theorem get?_finalResults {node : Node ι κ} (hnode : node ∈ graph.nodes) {kind : κ}
    (hkind : node.kind = kind) (result : ρ kind) :
    (finalResults catalog graph unit).get? kind = some result ↔
      (Walk.turn catalog graph.nodes unit (finalResults catalog graph unit) node).Gave kind
        result := by
  subst hkind
  have hown : ∀ turn ∈ Walk.chronicle catalog graph.nodes unit .empty (Walk.order graph),
      turn.Own := fun turn => Walk.own_of_mem_chronicle fun _ hmem => h.faithful_order hmem
  have hdistinct := h.nodup_kinds_order
  have hkinds : (Walk.chronicle catalog graph.nodes unit .empty (Walk.order graph)).map Turn.kind =
      (Walk.order graph).map Node.kind := Walk.map_kind_chronicle .empty _
  rw [← hkinds] at hdistinct
  have hiff := Walk.get?_replay_iff hown hdistinct (fun turn _ => Results.get?_empty turn.kind)
    node.kind result
  rw [Results.get?_empty] at hiff
  apply hiff.trans
  rw [h.chronicle_eq]
  constructor
  · rintro (⟨turn, hturn, hgave⟩ | hnone)
    · obtain ⟨other, hother, rfl⟩ := List.mem_map.mp hturn
      have hkind : node.kind = other.kind :=
        Walk.own_turn (h.faithful_order hother) _ _ hgave
      have hsame := List.inj_on_of_nodup_map h.collected.distinct hnode
        (h.perm_order.mem_iff.mp hother) hkind
      subst hsame
      exact hgave
    · exact absurd hnone (by simp)
  · intro hgave
    exact .inl ⟨_, List.mem_map_of_mem (h.perm_order.mem_iff.mpr hnode), hgave⟩

/-- A node has the same turn in two graphs in which it sees the same of what its analyzer
requires. -/
theorem alike_turn (h' : Built catalog graph') (unit : υ) {node node' : Node ι κ}
    (hnode : node ∈ graph.nodes) (hnode' : node' ∈ graph'.nodes)
    (hanalyzer : node.analyzer = node'.analyzer) {results results' : Results ρ}
    (hsame : ∀ kind ∈ catalog.requiredKinds node.analyzer,
      results.get? kind = results'.get? kind) :
    (Walk.turn catalog graph.nodes unit results node).Alike
      (Walk.turn catalog graph'.nodes unit results' node') := by
  have hfaithful := h.collected.faithful node hnode
  have hfaithful' := h'.collected.faithful node' hnode'
  have hname : node.name = node'.name := by rw [hfaithful.2, hfaithful'.2, hanalyzer]
  have hview : Walk.view graph.nodes results node = Walk.view graph'.nodes results' node' := by
    rw [Walk.view, Walk.view, h.collected.required_eq hnode, h'.collected.required_eq hnode',
      ← hanalyzer]
    exact Results.restrict_congr fun kind hkind => hsame kind (List.mem_eraseDups.mp hkind)
  refine ⟨hanalyzer, hname, hview, ?_⟩
  change Walk.runOf catalog unit node _ = Walk.runOf catalog unit node' _
  rw [Walk.runOf, Walk.runOf, hview, hanalyzer, hname]

/-- Where the same analyzers take part for all that an analyzer requires, directly or through
others, two graphs concur in each of them. -/
theorem concur_of_closure (h' : Built catalog graph') (unit : υ) {x : κ}
    (hsame : ∀ kind, Relation.ReflTransGen (Needs catalog graph) x kind →
      graph.chosen? kind = graph'.chosen? kind) :
    ∀ node ∈ graph.nodes, Relation.ReflTransGen (Needs catalog graph) x node.kind →
      Concur catalog graph graph' unit node.kind := by
  refine h.forall_of_step
    (P := fun kind => Relation.ReflTransGen (Needs catalog graph) x kind →
      Concur catalog graph graph' unit kind) ?_
  intro node hnode hrequired hneeded
  have hchosen := h.chosen?_kind hnode
  obtain ⟨node', hnode', hkind, hanalyzer⟩ :=
    exists_node_of_chosen? ((hsame node.kind hneeded).symm.trans hchosen)
  have halike := h.alike_turn h' unit hnode hnode' hanalyzer.symm fun kind hkind' =>
    (hrequired kind hkind' (hneeded.tail ⟨node.analyzer, hchosen, hkind'⟩)).result
  refine ⟨?_, node, hnode, node', hnode', rfl, hkind, halike⟩
  apply Option.ext
  intro result
  rw [h.get?_finalResults hnode rfl, h'.get?_finalResults hnode' hkind, Turn.Gave, Turn.Gave,
    halike.run]

end Built

end Graph

section

variable [Explained ε] {graph graph' : Graph ι κ} {unit : υ}

/-- The part that the analyzer of a kind has in a walk that left an outcome. -/
structure Moment.Part (moment : Moment ι ε ρ) (kind : κ) (outcome : Outcome ρ)
    (turn : Turn ι ε ρ) : Prop where
  left : moment.walk.outcome = .ok outcome
  /-- It had a turn, and just one. -/
  had : turn ∈ moment.turns
  kind_eq : turn.kind = kind
  once : (moment.turns.map Turn.kind).count kind = 1
  result : ∀ result, outcome.results.get? kind = some result ↔ turn.Gave kind result
  /-- The diagnostics are those of the turns, one after the other. -/
  diagnostics : outcome.diagnostics = moment.turns.flatMap Turn.diagnostics
  failed : outcome.failed = (moment.turns.filter (·.Failed)).map (·.node.name)

namespace Graph

/-- In a walk that goes on to its end, every analyzer has the turn that it would have in the end. -/
theorem Built.exists_part (h : Built catalog graph) {parallelism : Nat} {moment : Moment ι ε ρ}
    (hreached : Moment.Reached catalog graph unit ⟨parallelism, true⟩ moment)
    (hover : moment.Over) {node : Node ι κ} (hnode : node ∈ graph.nodes) {kind : κ}
    (hkind : node.kind = kind) :
    ∃ outcome, moment.Part kind outcome
      (Walk.turn catalog graph.nodes unit (finalResults catalog graph unit) node) := by
  have hcoherent := Moment.coherent_of_reached h hreached
  obtain ⟨herror, hdiagnostics⟩ := Walk.tally_going parallelism .start moment.turns
  rw [← hcoherent.account] at herror hdiagnostics
  have hahead : moment.ahead = [] := hover.2.resolve_left (by simp [herror, Account.start])
  have hturns := hcoherent.turns_of_nil hover.1 hahead
  have hsame := hcoherent.results_of_nil hover.1
  rw [Moment.base, hturns] at hsame
  have hkinds : (moment.turns.map Turn.kind).Nodup := by
    rw [hturns, Walk.map_kind_chronicle]
    exact h.nodup_kinds_order
  have hmem : Walk.turn catalog graph.nodes unit (finalResults catalog graph unit) node ∈
      moment.turns := by
    rw [hturns, h.chronicle_eq]
    exact List.mem_map_of_mem (h.perm_order.mem_iff.mpr hnode)
  refine ⟨_, Walk.outcome_of_none herror, hmem, hkind, ?_, ?_, hdiagnostics, ?_⟩
  · apply List.count_eq_one_of_mem hkinds
    exact List.mem_map.mpr ⟨_, hmem, hkind⟩
  · intro result
    exact (hsame kind).symm ▸ h.get?_finalResults hnode hkind result
  · have haccount := hcoherent.account
    rw [haccount] at herror ⊢
    exact Walk.failed_tally ⟨parallelism, true⟩ herror

/-- What comes of an analyzer depends on nothing but the analyzers that it requires, directly or
through others. In two walks that go on after failures, of graphs in which the same of these take
part, it sees the same, has the same result or fails with the same failure, and reports the same,
whatever the other analyzers are and do. -/
theorem same_part_of_closure {roots roots' : List ι} (hbuild : build catalog roots = .ok graph)
    (hbuild' : build catalog roots' = .ok graph') {x : κ} (hx : x ∈ graph.nodes.map Node.kind)
    (hsame : ∀ kind, Relation.ReflTransGen (Needs catalog graph) x kind →
      graph.chosen? kind = graph'.chosen? kind)
    {parallelism parallelism' : Nat} {moment moment' : Moment ι ε ρ}
    (hreached : Moment.Reached catalog graph unit ⟨parallelism, true⟩ moment)
    (hover : moment.Over)
    (hreached' : Moment.Reached catalog graph' unit ⟨parallelism', true⟩ moment')
    (hover' : moment'.Over) :
    ∃ outcome outcome' turn turn', moment.Part x outcome turn ∧ moment'.Part x outcome' turn' ∧
      outcome.results.get? x = outcome'.results.get? x ∧ turn.Alike turn' ∧
      turn.diagnostics = turn'.diagnostics := by
  have h := built_of_build hbuild
  have h' := built_of_build hbuild'
  obtain ⟨first, hfirst, rfl⟩ := List.mem_map.mp hx
  obtain ⟨hresult, node, hnode, node', hnode', hkind, hkind', halike⟩ :=
    h.concur_of_closure h' unit hsame first hfirst .refl
  obtain ⟨outcome, hpart⟩ := h.exists_part hreached hover hnode hkind
  obtain ⟨outcome', hpart'⟩ := h'.exists_part hreached' hover' hnode' hkind'
  refine ⟨outcome, outcome', _, _, hpart, hpart', ?_, halike, halike.diagnostics_eq⟩
  apply Option.ext
  intro result
  rw [hpart.result, hpart'.result, Turn.Gave, Turn.Gave, halike.run]

/-- The alarm keeps silent. -/
def silenced : Graph Duty Duty :=
  ⟨[⟨.silence, .alarm, "silence", []⟩, ⟨.double, .double, "double", [2]⟩,
    ⟨.count, .count, "count", []⟩], [[0, 2], [1]]⟩

theorem build_silenced : build duties [.silence, .double] = .ok silenced := by cbv

theorem chosen_of_needed {kind : Duty}
    (hneeded : Relation.ReflTransGen (Needs duties alarmed) .double kind) :
    alarmed.chosen? kind = silenced.chosen? kind := by
  have hquiet : kind ≠ .alarm := by
    induction hneeded with
    | refl => decide
    | tail _ hlast _ =>
      obtain ⟨i, -, hrequired⟩ := hlast
      rintro rfl
      cases i <;> simp [Catalog.requiredKinds, duties, duty] at hrequired
  cases kind <;> first | rfl | exact absurd rfl hquiet

/-- Doubling is not disturbed by an alarm that breaks off beside the count that it requires. -/
theorem same_double :
    (build duties [.double, .alarm] = .ok alarmed ∧
        build duties [.silence, .double] = .ok silenced) ∧
      ∃ moment moment' : Moment Duty String fun _ : Duty => Nat,
        (moment.walk.outcome = alarmed.execute duties 3 ⟨2, true⟩ ∧
          moment'.walk.outcome = silenced.execute duties 3 ⟨1, true⟩) ∧
        ∃ outcome outcome' turn turn', moment.Part .double outcome turn ∧
          moment'.Part .double outcome' turn' ∧
          outcome.results.get? .double = outcome'.results.get? .double ∧
          turn.diagnostics = turn'.diagnostics := by
  obtain ⟨moment, hreached, hover, hwalk⟩ :=
    (built_of_build build_alarmed).exists_reached 3 ⟨2, true⟩
  obtain ⟨moment', hreached', hover', hwalk'⟩ :=
    (built_of_build build_silenced).exists_reached 3 ⟨1, true⟩
  have hmem : Duty.double ∈ alarmed.nodes.map Node.kind := by decide
  obtain ⟨outcome, outcome', turn, turn', hpart, hpart', hresult, -, hdiagnostics⟩ :=
    same_part_of_closure build_alarmed build_silenced hmem (fun _ => chosen_of_needed) hreached
      hover hreached' hover'
  refine ⟨⟨build_alarmed, build_silenced⟩, moment, moment', ⟨?_, ?_⟩, outcome, outcome', turn,
    turn', hpart, hpart', hresult, hdiagnostics⟩
  · rw [hwalk, execute]
  · rw [hwalk', execute]

end Graph

end

end ServiceGen.Analysis
