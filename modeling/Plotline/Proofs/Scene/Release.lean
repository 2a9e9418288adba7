import Plotline.Proofs.Scene.Orderly

/-!
What becomes of a request that is taken up from those that wait. The node begins at once, unless it is complete for
good, or unless it has branched and its own jump is still to be settled. In the last case the request is lost, even if
the node is repeatable: a jump or a trigger that starts a node without a program releases the next request in the
midst of its delivery, before the origin of the jump is completed.
-/

namespace Plotline.Scene

/-- The entry that follows the note that a request is taken up, after the events that were published until then. -/
inductive Answer (runner : RunnerId) (node : NodeId) (repeats : Bool) (events : List StoryEvent) : Entry → Prop
  | begun {board : StoryboardName} :
      Answer runner node repeats events (.note (.published (.nodeStarted runner board node)))
  | complete (once : repeats = false) :
      Answer runner node repeats events (.note (.startIgnored runner node .completed))
  | departing (leaves : Departing runner node events) :
      Answer runner node repeats events (.note (.startIgnored runner node .inProgress))

variable {op : Operation} {returning : Prop} {t t' : Turn} {runner : RunnerId} {node : NodeId}

/-- The request at the head of the journal has been taken up and is to be dealt with, and every other has been. -/
def Turn.Answered (t : Turn) : Prop :=
  ∀ (later earlier : Journal) runner node sequence,
    t.scene.channel.journal = later ++ .note (.releasing runner node sequence) :: earlier →
      (later = [] ∧ t.called = some (runner, node) ∧ t.scene.active = none) ∨
        ∃ rest next, later = rest ++ [next] ∧ t.scene.Knows (runner, node) ∧
          Answer runner node (t.scene.repeats runner node) earlier.published next

/-! ### What a step writes -/

/-- Only the step that takes up a request says so, and then the node is called for. -/
theorem Step.writes {past : Prop} (step : Step op returning past t t') :
    (∃ entries : Journal, t'.scene.channel.journal = entries ++ t.scene.channel.journal ∧
        ∀ entry ∈ entries, entry.takesRequest = false) ∨
      ∃ request : Request, t.called = none ∧ t'.called = some (request.runner, request.node) ∧
        t'.scene.active = none ∧ t'.scene.channel.journal =
          .note (.releasing request.runner request.node request.sequence) :: t.scene.channel.journal := by
  have silent : ∃ entries : Journal, t.scene.channel.journal = entries ++ t.scene.channel.journal ∧
      ∀ entry ∈ entries, entry.takesRequest = false := ⟨[], rfl, List.forall_mem_nil _⟩
  cases step with
  | quiet grown => exact Or.inl grown.journal.added
  | directed program emitted grown => exact Or.inl grown.journal.added
  | queued held => exact Or.inl (Journal.note_quiet rfl _).added
  | @taken m request pending releasing free first => exact Or.inr ⟨request, rfl, rfl, free, rfl⟩
  | unknown free missing => exact Or.inl (Journal.note_quiet rfl _).added
  | refused free found unready => exact Or.inl (Journal.note_quiet (Runner.refusal_isPlain _ _) _).added
  | started free found waiting known program emitted grown opens => exact Or.inl grown.journal.added
  | passed free found waiting grown opens => exact Or.inl grown.journal.added
  | jammed free busy found waiting grown => exact Or.inl grown.journal.added
  | resumed program emitted topics grown => exact Or.inl grown.journal.added
  | finished active found program emitted topics grown => exact Or.inl grown.journal.added
  | branched active program emitted topics grown => exact Or.inl grown.journal.added
  | orphaned free busy program emitted topics grown => exact Or.inl grown.journal.added
  | delivered first found made => exact Or.inl (Runner.deliver_made made).2.2.added
  | cleared found inactive grown => exact Or.inl grown.journal.added
  | originEnded jump back found grown => exact Or.inl grown.journal.added
  | published asked grown => exact Or.inl grown.journal.added
  | requested asked => exact Or.inl (Journal.note_quiet rfl _).added
  | observes asked => exact Or.inl (Channel.subscribe_rewired _ _ _).journal.added
  | stopsObserving asked => exact Or.inl (Channel.unsubscribe_rewired _ _).journal.added
  | joined asked fresh made => exact Or.inl ((Runner.setUp_made made).2.2.2.note rfl).journal.added
  | parted asked found idle => exact Or.inl ((Runner.takeDown_rewired _ _).note rfl).journal.added
  | restored asked member found made => exact Or.inl (Runner.restore_made made).2.added
  | _ => exact Or.inl silent

/-- A node that is called for while none is active is answered by the first that is written. -/
theorem Step.answers (step : Step op returning False t t') (idle : t.scene.active = none →
    t.scene.interpreter.program = none) (orderly : t.Orderly) (called : t.called = some (runner, node))
    (free : t.scene.active = none) :
    ∃ entry, Journal.Opens entry t.scene.channel.journal t'.scene.channel.journal ∧
      Answer runner node (t.scene.repeats runner node) t.scene.channel.journal.published entry := by
  have knows := orderly.called _ called
  cases step with
  | queued held =>
      cases called
      rw [isEventRunning, free] at held
      cases held
  | unknown through missing =>
      cases called
      rw [Knows, statusOf?, missing] at knows
      cases knows
  | @refused m r n x through found unready =>
      cases called
      obtain rfl := id_of_runner? found
      refine ⟨_, ⟨[], rfl⟩, ?_⟩
      obtain ⟨status, is⟩ := Option.isSome_iff_exists.mp knows
      have known := is
      rw [statusOf?_of_runner? found] at known
      unfold Runner.refusal
      rw [known]
      cases status with
      | notStarted => exact absurd known unready
      | completed => exact .complete (orderly.retired _ _ is)
      | inProgress =>
          rcases orderly.left _ _ is with active | departing
          · cases free.symm.trans active
          · exact .departing departing
  | started through found waiting known program emitted grown opens =>
      cases called
      exact ⟨_, opens, .begun⟩
  | passed through found waiting grown opens =>
      cases called
      exact ⟨_, opens, .begun⟩
  | jammed through busy found waiting grown => exact absurd (idle free) busy
  | _ => cases called

/-! ### Requests that wait -/

/-- Between the two journals the request has been taken up. -/
def TakenUp (request : Request) (before after : Journal) : Prop :=
  ∃ earlier, before <:+ earlier ∧ .note (.releasing request.runner request.node request.sequence) :: earlier <:+ after

variable {request : Request} {before mid after : Journal}

theorem TakenUp.of_earlier (taken : TakenUp request mid after) (first : before <:+ mid) : TakenUp request before after :=
  Exists.imp (fun _ taken => taken.imp_left first.trans) taken

theorem TakenUp.to_later (taken : TakenUp request before mid) (last : mid <:+ after) : TakenUp request before after :=
  Exists.imp (fun _ taken => taken.imp_right (·.trans last)) taken

theorem Step.appends {past : Prop} (step : Step op returning past t t') :
    t.scene.channel.journal <:+ t'.scene.channel.journal := by
  rcases step.writes with ⟨entries, written, -⟩ | ⟨_, -, -, -, written⟩
  · exact ⟨entries, written.symm⟩
  · exact ⟨[_], written.symm⟩

theorem Turns.appends {past : Prop} (turns : Turns op returning past t t') :
    t.scene.channel.journal <:+ t'.scene.channel.journal := by
  induction turns with
  | refl => exact List.suffix_rfl
  | tail _ last ih => exact ih.trans last.appends

theorem run_appends (ops : List Operation) {s : Scene} (coherent : s.Coherent) :
    s.channel.journal <:+ (run ops s).channel.journal := by
  induction ops generalizing s with
  | nil => exact List.suffix_rfl
  | cons op ops ih =>
      have steps : Steps op True True ⟨s, [], false⟩ ⟨op.perform s, [], false⟩ :=
        perform_steps op coherent (fun _ => trivial) fun _ => trivial
      exact (Turns.appends steps).trans (ih (perform_coherent op s coherent))

/-- Only the step that takes up a request removes one from those that wait, and only that one. -/
theorem Step.leaves {past : Prop} (step : Step op returning past t t') (plays : op.Plays)
    (waits : request ∈ t.scene.pending) :
    request ∈ t'.scene.pending ∨ TakenUp request t.scene.channel.journal t'.scene.channel.journal := by
  cases step with
  | queued held => exact Or.inl (List.mem_append_left _ waits)
  | reordered same => exact Or.inl (same.mem_iff.mp waits)
  | @taken m other pending releasing free first =>
      rw [first] at waits
      rcases List.mem_cons.mp waits with rfl | still
      · exact Or.inr ⟨_, List.suffix_rfl, List.suffix_rfl⟩
      · exact Or.inl still
  | requested asked => exact Or.inl (List.mem_append_left _ waits)
  | parted asked found idle =>
      subst asked
      exact False.elim plays
  | forgotten asked =>
      subst asked
      exact False.elim plays
  | _ => exact Or.inl waits

theorem Turns.leaves {past : Prop} (turns : Turns op returning past t t') (plays : op.Plays)
    (waits : request ∈ t.scene.pending) :
    request ∈ t'.scene.pending ∨ TakenUp request t.scene.channel.journal t'.scene.channel.journal := by
  induction turns with
  | refl => exact Or.inl waits
  | tail first last ih =>
      rcases ih with still | taken
      · exact (last.leaves plays still).imp_right (·.of_earlier (Turns.appends first))
      · exact Or.inr (taken.to_later last.appends)

/-- While a scene is only played, a request ceases to wait only by being taken up. -/
theorem run_leaves (ops : List Operation) {s : Scene} (coherent : s.Coherent) (plays : ∀ op ∈ ops, op.Plays)
    (waits : request ∈ s.pending) :
    request ∈ (run ops s).pending ∨ TakenUp request s.channel.journal (run ops s).channel.journal := by
  induction ops generalizing s with
  | nil => exact Or.inl waits
  | cons op ops ih =>
      obtain ⟨now, later⟩ := List.forall_mem_cons.mp plays
      have steps : Steps op True False ⟨s, [], false⟩ ⟨op.perform s, [], false⟩ :=
        perform_through op coherent (now.startsFree s) fun _ => trivial
      have coherentThen := perform_coherent op s coherent
      rcases Turns.leaves steps now waits with still | taken
      · exact (ih coherentThen later still).imp_right (·.of_earlier (Turns.appends steps))
      · exact Or.inr (taken.to_later (run_appends ops coherentThen))

/-! ### Runs -/

/-- Entries that take up no request come after every request that was taken up. -/
private theorem request_beyond {entries journal later earlier : Journal} {request : Entry}
    (silent : ∀ entry ∈ entries, entry.takesRequest = false) (takes : request.takesRequest = true)
    (same : entries ++ journal = later ++ request :: earlier) :
    ∃ rest, later = entries ++ rest ∧ journal = rest ++ request :: earlier := by
  rcases List.append_eq_append_iff.mp same with ⟨rest, isLater, isJournal⟩ | ⟨front, isEntries, isRequest⟩
  · exact ⟨rest, isLater, isJournal⟩
  · cases front with
    | nil => exact ⟨[], by simpa using isEntries.symm, isRequest.symm⟩
    | cons entry front =>
        obtain ⟨rfl, -⟩ := List.cons.inj isRequest
        have member : request ∈ entries := by
          rw [isEntries]
          simp
        rw [silent request member] at takes
        cases takes

theorem Step.answered (step : Step op returning False t t') (plays : op.Plays) (sound : t.scene.Sound)
    (orderly : t.Orderly) (answered : t.Answered) : t'.Answered := by
  have still : ∀ target : RunnerId × NodeId, t.scene.Knows target →
      t'.scene.Knows target ∧ t'.scene.repeats target.1 target.2 = t.scene.repeats target.1 target.2 := by
    intro target knows
    obtain ⟨status, known⟩ := Option.isSome_iff_exists.mp knows
    obtain ⟨x, found, _⟩ := Option.bind_eq_some_iff.mp known
    exact ⟨step.knows plays knows, Turns.repeats (.single step) (plays.keepsRunners.1 _) found target.2⟩
  intro later earlier runner node sequence journal
  rcases step.writes with ⟨entries, written, silent⟩ | ⟨request, uncalled, called, free, written⟩
  · rw [written] at journal
    obtain ⟨before, rfl, was⟩ := request_beyond silent rfl journal
    rcases answered before earlier runner node sequence was with ⟨rfl, called, free⟩ | ⟨rest, next, rfl, knows, answer⟩
    · obtain ⟨entry, ⟨rest, opens⟩, answer⟩ := step.answers sound.idle orderly called free
      have knows := orderly.called _ called
      obtain ⟨knows', same⟩ := still _ knows
      refine Or.inr ⟨rest, entry, ?_, knows', ?_⟩
      · have equal : entries ++ t.scene.channel.journal = (rest ++ [entry]) ++ t.scene.channel.journal := by
          rw [← written, opens]
          simp
        simpa using List.append_cancel_right equal
      · have publishes := (Journal.releasing_tells runner node sequence earlier).published
        rw [List.append_nil] at publishes
        rw [same, ← publishes]
        rw [was] at answer
        exact answer
    · obtain ⟨knows', same⟩ := still _ knows
      refine Or.inr ⟨entries ++ rest, next, by simp, knows', ?_⟩
      rw [same]
      exact answer
  · rw [written] at journal
    cases later with
    | nil =>
        cases journal
        exact Or.inl ⟨rfl, called, free⟩
    | cons entry later =>
        have was := (List.cons.inj journal).2
        rcases answered later earlier runner node sequence was with ⟨_, wasCalled, _⟩ | ⟨rest, next, rfl, knows, answer⟩
        · cases uncalled.symm.trans wasCalled
        · obtain ⟨knows', same⟩ := still _ knows
          refine Or.inr ⟨entry :: rest, next, rfl, knows', ?_⟩
          rw [same]
          exact answer

theorem Turns.answered (turns : Turns op returning False t t') (plays : op.Plays)
    (kept : t.scene.Sound ∧ t.Orderly ∧ t.Answered) : t'.scene.Sound ∧ t'.Orderly ∧ t'.Answered := by
  induction turns with
  | refl => exact kept
  | tail _ last ih =>
      obtain ⟨sound, orderly, answered⟩ := ih
      exact ⟨last.sound sound, last.orderly plays orderly, last.answered plays sound orderly answered⟩

theorem perform_answered (op : Operation) (s : Scene) (plays : op.Plays)
    (kept : s.Sound ∧ Turn.Orderly ⟨⟨s, [], false⟩, none⟩ ∧ Turn.Answered ⟨⟨s, [], false⟩, none⟩) :
    (op.perform s).Sound ∧ Turn.Orderly ⟨⟨op.perform s, [], false⟩, none⟩ ∧
      Turn.Answered ⟨⟨op.perform s, [], false⟩, none⟩ := by
  have steps : Steps op True False ⟨s, [], false⟩ ⟨op.perform s, [], false⟩ :=
    perform_through op kept.1.toCoherent (plays.startsFree s) fun _ => trivial
  exact Turns.answered steps plays kept

theorem empty_answered (settings : Settings) (stage : Stage) :
    (empty settings stage).Sound ∧ Turn.Orderly ⟨⟨empty settings stage, [], false⟩, none⟩ ∧
      Turn.Answered ⟨⟨empty settings stage, [], false⟩, none⟩ := by
  refine ⟨empty_sound settings stage, ⟨nofun, nofun, nofun, nofun⟩, ?_⟩
  intro later earlier runner node sequence journal
  have nonempty := congrArg List.length journal
  simp [empty] at nonempty

/-- While a scene is only played, no request is lost unseen: it waits, or it was taken up and is answered. -/
theorem request_waits_or_answered {s : Scene} (reached : Reached (fun op _ => op.Plays) s) (ops : List Operation)
    (plays : ∀ op ∈ ops, op.Plays) (waits : request ∈ s.pending) :
    request ∈ (run ops s).pending ∨
      ∃ (rest : Journal) (next : Entry) (earlier : Journal), s.channel.journal <:+ earlier ∧
        (run ops s).channel.journal =
          rest ++ next :: .note (.releasing request.runner request.node request.sequence) :: earlier ∧
        Answer request.runner request.node ((run ops s).repeats request.runner request.node) earlier.published next := by
  have kept := reached.keeps empty_answered perform_answered
  obtain ⟨-, -, answered⟩ := run_keeps perform_answered ops s (obeys_of_forall ops s plays) kept
  rcases run_leaves ops kept.1.toCoherent plays waits with still | ⟨earlier, since, later, written⟩
  · exact Or.inl still
  · rcases answered later earlier _ _ _ written.symm with ⟨-, called, -⟩ | ⟨rest, next, rfl, -, answer⟩
    · cases called
    · exact Or.inr ⟨rest, next, earlier, since, by simpa using written.symm, answer⟩

/-- While a scene is only played, every request that is taken up begins its node, unless the node is complete and runs
only once, or has branched and not yet been completed for it. -/
theorem release_answered {s : Scene} (reached : Reached (fun op _ => op.Plays) s) {runner : RunnerId} {node : NodeId}
    {sequence : Nat} {later earlier : Journal}
    (taken : s.channel.journal = later ++ .note (.releasing runner node sequence) :: earlier) :
    ∃ rest next, later = rest ++ [next] ∧ Answer runner node (s.repeats runner node) earlier.published next := by
  have kept := reached.keeps empty_answered perform_answered
  rcases kept.2.2 later earlier runner node sequence taken with ⟨-, called, -⟩ | ⟨rest, next, isLater, -, answer⟩
  · cases called
  · exact ⟨rest, next, isLater, answer⟩

/-- A crier whose news call for the bell, which the ringer rings without more ado. -/
def town : StoryPackage :=
  { runners :=
      [{ id := ⟨"crier"⟩
         storyboard :=
           { name := ⟨"square"⟩
             nodes :=
               [{ id := ⟨"news"⟩
                  isStart := true
                  isRepeatable := true
                  program :=
                    { instructions :=
                        [.dialogue "A" "Hear ye!" none,
                         .endOfProgram
                           { isBranching := true, targetNode := some ⟨"bell"⟩
                             targetStoryboard := some ⟨"tower"⟩ }] } }] } },
       { id := ⟨"ringer"⟩, priority := 1, storyboard := { name := ⟨"tower"⟩, nodes := [{ id := ⟨"bell"⟩ }] } }] }

/-- The news are asked for; as the story opens they are asked for again, and then they call for the bell. -/
def newsTwice : List Operation := [.trigger ⟨"crier"⟩ ⟨"news"⟩, .tick 0, .continueInput, .tick 0, .tick 0]

private theorem news_taken (s : Scene) (is : s = run newsTwice (ofPackage town {} .instant).2) :
    s.channel.journal =
      s.channel.journal.take 4 ++ .note (.releasing ⟨"crier"⟩ ⟨"news"⟩ 0) :: s.channel.journal.drop 5 := by
  subst is
  decide +kernel

/-- The bell releases the second request for the news before the first has been completed. -/
theorem town_release_answered :
    let s := run newsTwice (ofPackage town {} .instant).2
    s.repeats ⟨"crier"⟩ ⟨"news"⟩ = true ∧
      ∃ (rest : Journal) (next : Entry) (earlier : Journal),
        s.channel.journal = rest ++ next :: .note (.releasing ⟨"crier"⟩ ⟨"news"⟩ 0) :: earlier ∧
        next = .note (.startIgnored ⟨"crier"⟩ ⟨"news"⟩ .inProgress) ∧
          Departing ⟨"crier"⟩ ⟨"news"⟩ earlier.published := by
  intro s
  have fromWorld : ∀ op ∈ newsTwice, op.FromWorld := by simp [newsTwice, Operation.FromWorld]
  have taken := news_taken s rfl
  obtain ⟨rest, next, isLater, answer⟩ := release_answered (reached_of_package town {} .instant fromWorld) taken
  have last : (s.channel.journal.take 4).getLast? = some (.note (.startIgnored ⟨"crier"⟩ ⟨"news"⟩ .inProgress)) := by
    decide +kernel
  rw [isLater, List.getLast?_concat, Option.some.injEq] at last
  rw [isLater] at taken
  refine ⟨by decide +kernel, rest, next, s.channel.journal.drop 5, by simpa using taken, last, ?_⟩
  cases answer with
  | departing leaves => exact leaves
  | begun => cases last
  | complete once => cases last

/-- It is not true of every story that each request for a repeatable node begins it, although all ids are distinct. -/
theorem repeatable_request_lost :
    ¬ ∀ (package : StoryPackage) (ops : List Operation), (package.runners.map (·.id)).Nodup →
      (∀ d ∈ package.runners, (d.storyboard.nodes.map (·.id)).Nodup) → (∀ op ∈ ops, op.FromWorld) →
        ∀ (later earlier : Journal) runner node sequence,
          (run ops (ofPackage package {} .instant).2).channel.journal =
            later ++ .note (.releasing runner node sequence) :: earlier →
          (run ops (ofPackage package {} .instant).2).repeats runner node = true →
            ∃ rest board, later = rest ++ [.note (.published (.nodeStarted runner board node))] := by
  intro always
  have fromWorld : ∀ op ∈ newsTwice, op.FromWorld := by simp [newsTwice, Operation.FromWorld]
  obtain ⟨rest, board, isLater⟩ := always town newsTwice (by decide) (by decide) fromWorld _ _ ⟨"crier"⟩ ⟨"news"⟩ 0
    (news_taken _ rfl) (by decide +kernel)
  have last : ((run newsTwice (ofPackage town {} .instant).2).channel.journal.take 4).getLast? =
      some (.note (.startIgnored ⟨"crier"⟩ ⟨"news"⟩ .inProgress)) := by
    decide +kernel
  rw [isLater, List.getLast?_concat] at last
  cases last

end Plotline.Scene
