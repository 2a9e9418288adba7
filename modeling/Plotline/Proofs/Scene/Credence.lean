import Plotline.Proofs.Scene.Orderly

/-!
What conditions believe of completed nodes is so. The news that a node is complete are sent only when it has come to its
end, and a latch that waits for it is set only by these news.
-/

namespace Plotline.Scene

/-- The scene knows the node, and it is complete unless it can run more than once. -/
def Accomplished (s : Scene) (runner : RunnerId) (node : NodeId) : Prop :=
  s.Knows (runner, node) ∧ (s.repeats runner node = false → s.statusOf? runner node = some .completed)

/-- Nodes that are said to be complete have come to their end, and so have those that latches are set for. -/
structure Turn.Truthful (t : Turn) : Prop where
  told : ∀ runner board node, .nodeCompleted runner board node ∈ t.due ++ t.scene.channel.bus.queue →
    t.scene.Accomplished runner node
  believed : ∀ key target c, t.scene.condition? key = some c → c.satisfied = true →
    c.kind = .previousNodeCompleted target → ∃ runner, t.scene.Accomplished runner target

variable {op : Operation} {returning : Prop} {t t' : Turn} {runner : RunnerId} {node : NodeId} {s s' : Scene}

/-! ### Nodes that have come to their end -/

theorem Step.accomplished (step : Step op returning False t t') (plays : op.Plays)
    (before : t.scene.Accomplished runner node) : t'.scene.Accomplished runner node := by
  obtain ⟨knows, complete⟩ := before
  refine ⟨step.knows plays knows, ?_⟩
  obtain ⟨status, known⟩ := Option.isSome_iff_exists.mp knows
  obtain ⟨x, found, _⟩ := Option.bind_eq_some_iff.mp known
  have repeats : t'.scene.repeats runner node = t.scene.repeats runner node :=
    Turns.repeats (.single step) (plays.keepsRunners.1 runner) found node
  intro once
  have was := complete (repeats ▸ once)
  obtain ⟨events, _, conduct⟩ := step.conduct (plays.follows runner node) was
  cases conduct with
  | idle silent same active => exact same.trans was
  | begun waiting after active => cases was.symm.trans waiting
  | passed waiting silent after => cases was.symm.trans waiting
  | ended running early late after active => cases was.symm.trans running

private theorem accomplished_of_status {x y : Runner} (found : s.runner? x.id = some x) (alike : x.Alike y)
    (runners : s'.runners = (s.putRunner y s.channel).runners) (ended : y.statusOf? node = some (x.endStatus node)) :
    s'.Accomplished x.id node := by
  have looked := runner?_putRunner_self found alike.id s.channel
  have found' : s'.runner? x.id = some y := by
    unfold runner? at looked ⊢
    rw [runners]
    exact looked
  have status := (statusOf?_of_runner? found' node).trans ended
  refine ⟨Option.isSome_iff_exists.mpr ⟨_, status⟩, ?_⟩
  intro once
  rw [repeats_of_runner? found', alike.repeats] at once
  rw [status, Runner.endStatus, once]
  rfl

private theorem accomplished_of_end {x : Runner} {n : NodeId} {board : StoryboardName}
    (found : s.runner? x.id = some x) (runners : s'.runners = (s.putRunner (x.afterEnd n) s.channel).runners)
    (news : .nodeCompleted runner board node ∈ x.endNews n) : s'.Accomplished runner node := by
  cases Runner.eq_of_mem_endNews news
  have running : x.statusOf? node = some .inProgress := by
    by_contra idle
    unfold Runner.endNews at news
    rw [if_neg idle] at news
    cases news
  exact accomplished_of_status found (x.afterEnd_alike node) runners (Runner.statusOf?_afterEnd running)

private theorem accomplished_of_pass {x : Runner} (found : s.runner? x.id = some x)
    (waiting : x.statusOf? node = some .notStarted)
    (runners : s'.runners = (s.putRunner ((x.setStatus node .inProgress).afterEnd node) s.channel).runners) :
    s'.Accomplished x.id node := by
  refine accomplished_of_status found (passed_alike waiting) runners ?_
  rw [Runner.statusOf?_passed waiting, if_pos rfl]

private theorem waited_or_sent {due events : List StoryEvent} {granted : List (List Reward)} {ch ch' : Channel}
    (grown : ch.Grows events granted ch') {event : StoryEvent} (waits : event ∈ due ++ ch'.bus.queue) :
    event ∈ due ++ ch.bus.queue ∨ event ∈ events := by
  rw [grown.queue, ← List.append_assoc] at waits
  exact List.mem_append.mp waits

/-- News of a completion have waited before, or the node has come to its end now. -/
private theorem Step.told (step : Step op returning False t t') (world : op.FromWorld) {board : StoryboardName}
    (waits : .nodeCompleted runner board node ∈ t'.due ++ t'.scene.channel.bus.queue) :
    .nodeCompleted runner board node ∈ t.due ++ t.scene.channel.bus.queue ∨ t'.scene.Accomplished runner node := by
  have noTrigger : ∀ {triggers : List StoryEvent}, (∀ event ∈ triggers, event.topic = .triggerRequested) →
      .nodeCompleted runner board node ∉ triggers := by
    intro triggers topics member
    cases topics _ member
  cases step with
  | quiet grown => exact Or.inl ((waited_or_sent grown waits).resolve_right List.not_mem_nil)
  | directed program emitted grown => exact Or.inl ((waited_or_sent grown waits).resolve_right List.not_mem_nil)
  | started free found waiting known program emitted grown opens =>
      exact Or.inl ((waited_or_sent grown waits).resolve_right (by simp))
  | passed free found waiting grown opens =>
      obtain rfl := id_of_runner? found
      refine (waited_or_sent grown waits).imp_right fun sent => ?_
      obtain ⟨rfl, -, rfl⟩ : _ = _ ∧ _ = _ ∧ _ = _ := by simpa using sent
      exact accomplished_of_pass found waiting rfl
  | jammed free busy found waiting grown =>
      obtain rfl := id_of_runner? found
      refine (waited_or_sent grown waits).imp_right fun sent => ?_
      obtain ⟨rfl, -, rfl⟩ : _ = _ ∧ _ = _ ∧ _ = _ := by simpa using sent
      exact accomplished_of_pass found waiting rfl
  | resumed program emitted topics grown =>
      exact Or.inl ((waited_or_sent grown waits).resolve_right (noTrigger topics))
  | finished active found program emitted topics grown =>
      obtain rfl := id_of_runner? found
      refine (waited_or_sent grown waits).imp_right fun sent => ?_
      have news := (List.mem_append.mp ((List.mem_append.mp sent).resolve_right (by simp))).resolve_left
        (noTrigger topics)
      exact accomplished_of_end found rfl news
  | branched active program emitted topics grown =>
      refine Or.inl ((waited_or_sent grown waits).resolve_right fun sent => ?_)
      exact noTrigger topics ((List.mem_append.mp sent).resolve_right (by simp))
  | orphaned free busy program emitted topics grown =>
      exact Or.inl ((waited_or_sent grown waits).resolve_right (noTrigger topics))
  | batch =>
      refine Or.inl ?_
      simpa [Channel.takeBatch, Bus.takeBatch] using waits
  | cleared found inactive grown => exact (waited_or_sent grown waits).imp_right (accomplished_of_end found rfl)
  | originEnded jump back found grown =>
      obtain rfl := id_of_runner? found
      exact (waited_or_sent grown waits).imp_right (accomplished_of_end found rfl)
  | settled first other heard => exact Or.inl (first ▸ List.mem_cons_of_mem _ waits)
  | jumpSettled jump ended => exact Or.inl (jump ▸ List.mem_cons_of_mem _ waits)
  | published asked grown =>
      subst asked
      refine Or.inl ((waited_or_sent grown waits).resolve_right fun sent => ?_)
      rw [← List.mem_singleton.mp sent] at world
      exact world
  | observes asked =>
      subst asked
      exact False.elim world
  | stopsObserving asked =>
      subst asked
      exact False.elim world
  | joined asked fresh made =>
      subst asked
      exact False.elim world
  | parted asked found idle =>
      subst asked
      exact False.elim world
  | _ => exact Or.inl waits

/-! ### Latches that are set -/

/-- A latch that is set was set before, or it is one of those that have been set just now. -/
private theorem latched_of_put {x y : Runner} {key : ConditionKey} {c' : Condition} {new : Condition → Prop}
    (found : s.runner? x.id = some x) (alike : x.Alike y) (runners : s'.runners = (s.putRunner y s.channel).runners)
    (sets : y.Holds key.node key.index → x.Holds key.node key.index ∨
      ∃ c, x.condition? key.node key.index = some c ∧ new c)
    (slot' : s'.condition? key = some c') (satisfied : c'.satisfied = true) :
    ∃ c, s.condition? key = some c ∧ c.kind = c'.kind ∧ (c.satisfied = true ∨ new c) := by
  have looked := runner?_putRunner found alike.id s.channel key.runner
  obtain ⟨z, foundZ, slotZ⟩ := Option.bind_eq_some_iff.mp slot'
  rw [runner?, runners] at foundZ
  have here := looked.symm.trans foundZ
  by_cases same : key.runner = x.id
  · rw [if_pos same] at here
    cases here
    obtain ⟨c, slot, kind, -⟩ := alike.slot slotZ
    refine ⟨c, Option.bind_eq_some_iff.mpr ⟨x, same ▸ found, slot⟩, kind, ?_⟩
    rcases sets ⟨c', slotZ, satisfied⟩ with before | ⟨c₀, slot₀, now⟩
    · exact Or.inl (before.condition slot)
    · cases slot₀.symm.trans slot
      exact Or.inr now
  · rw [if_neg same] at here
    exact ⟨c', Option.bind_eq_some_iff.mpr ⟨z, here, slotZ⟩, rfl, Or.inl satisfied⟩

private theorem latched_of_eases {x y : Runner} {key : ConditionKey} {c' : Condition} {new : Condition → Prop}
    (found : s.runner? x.id = some x) (alike : x.Alike y) (eases : x.Eases y)
    (runners : s'.runners = (s.putRunner y s.channel).runners) (slot' : s'.condition? key = some c')
    (satisfied : c'.satisfied = true) :
    ∃ c, s.condition? key = some c ∧ c.kind = c'.kind ∧ (c.satisfied = true ∨ new c) :=
  latched_of_put found alike runners (fun holds => Or.inl (eases _ _ holds)) slot' satisfied

private theorem passed_eases {x : Runner} (waiting : x.statusOf? node = some .notStarted) :
    x.Eases ((x.setStatus node .inProgress).afterEnd node) := by
  intro other index holds
  exact Runner.setStatus_eases (Runner.contains_of_status waiting) .inProgress other index
    (Runner.afterEnd_eases node _ other index holds)

/-- A latch that is set was set before, or an event that is delivered matches its condition. -/
theorem Step.latched (step : Step op returning False t t') (world : op.FromWorld) {key : ConditionKey}
    {c' : Condition} (slot' : t'.scene.condition? key = some c') (satisfied : c'.satisfied = true) :
    ∃ c, t.scene.condition? key = some c ∧ c.kind = c'.kind ∧
      (c.satisfied = true ∨ ∃ event ∈ t.due, c.kind.matchedBy event = true) := by
  cases step with
  | started free found waiting known program emitted grown opens =>
      obtain rfl := id_of_runner? found
      have known := Runner.contains_of_status waiting
      exact latched_of_eases found (Runner.alike_setStatus known .inProgress) (Runner.setStatus_eases known .inProgress)
        rfl slot' satisfied
  | passed free found waiting grown opens =>
      obtain rfl := id_of_runner? found
      exact latched_of_eases found (passed_alike waiting) (passed_eases waiting) rfl slot' satisfied
  | jammed free busy found waiting grown =>
      obtain rfl := id_of_runner? found
      exact latched_of_eases found (passed_alike waiting) (passed_eases waiting) rfl slot' satisfied
  | finished active found program emitted topics grown =>
      obtain rfl := id_of_runner? found
      exact latched_of_eases found (Runner.afterEnd_alike _ _) (Runner.afterEnd_eases _ _) rfl slot' satisfied
  | @delivered m deliveredKey event rest x y ready j first found made =>
      refine latched_of_put (found_self found) (Runner.deliver_made made).1 rfl (fun holds => ?_) slot' satisfied
      refine (Runner.holds_of_deliver made holds).imp_right ?_
      rintro ⟨c, slot, matched⟩
      exact ⟨c, slot, event, first ▸ List.mem_cons_self, matched⟩
  | cleared found inactive grown =>
      exact latched_of_eases found (Runner.afterEnd_alike _ _) (Runner.afterEnd_eases _ _) rfl slot' satisfied
  | originEnded jump back found grown =>
      obtain rfl := id_of_runner? found
      exact latched_of_eases found (Runner.afterEnd_alike _ _) (Runner.afterEnd_eases _ _) rfl slot' satisfied
  | joined asked fresh made =>
      subst asked
      exact False.elim world
  | parted asked found idle =>
      subst asked
      exact False.elim world
  | restored asked member found made =>
      subst asked
      exact False.elim world
  | _ => exact ⟨c', slot', rfl, Or.inl satisfied⟩

/-! ### Whole runs -/

theorem completion_of_matched {target : NodeId} {event : StoryEvent}
    (matched : (ConditionKind.previousNodeCompleted target).matchedBy event = true) :
    ∃ runner board, event = .nodeCompleted runner board target := by
  cases event with
  | nodeCompleted runner board node =>
      obtain rfl : target = node := of_decide_eq_true matched
      exact ⟨runner, board, rfl⟩
  | _ => cases matched

theorem Step.truthful (step : Step op returning False t t') (world : op.FromWorld) (truthful : t.Truthful) :
    t'.Truthful := by
  have plays := Operation.plays_of_fromWorld world
  refine ⟨?_, ?_⟩
  · intro runner board node waits
    rcases step.told world waits with before | now
    · exact step.accomplished plays (truthful.told runner board node before)
    · exact now
  · intro key target c' slot' satisfied kind
    obtain ⟨c, slot, same, before | ⟨event, due, matched⟩⟩ := step.latched world slot' satisfied
    · obtain ⟨runner, accomplished⟩ := truthful.believed key target c slot before (same.trans kind)
      exact ⟨runner, step.accomplished plays accomplished⟩
    · rw [same, kind] at matched
      obtain ⟨runner, board, rfl⟩ := completion_of_matched matched
      exact ⟨runner, step.accomplished plays (truthful.told runner board target (List.mem_append_left _ due))⟩

/-- What is believed of completed nodes stays true, and what is complete can never run again. -/
theorem Turns.truthful (turns : Turns op returning False t t') (world : op.FromWorld)
    (kept : t.Orderly ∧ t.Truthful) : t'.Orderly ∧ t'.Truthful := by
  induction turns with
  | refl => exact kept
  | tail _ last ih => exact ⟨last.orderly (Operation.plays_of_fromWorld world) ih.1, last.truthful world ih.2⟩

end Plotline.Scene
