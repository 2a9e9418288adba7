import Plotline.Proofs.Runner.Status
import Plotline.Proofs.Scene.Order

/-!
The release of waiting requests, as far as it can be told from what has started, what is loaded and who comes first.
How the runners were set up, what their conditions have heard and what the log says is left out; two scenes with one
outlook release the same requests.
-/

namespace Plotline

/-! ### Requests in the journal -/

def Entry.request? : Entry → Option Request
  | .note (.releasing runner node sequence) => some ⟨runner, node, sequence⟩
  | _ => none

namespace Journal

/-- The requests that were taken up. -/
def takenUp (j : Journal) : List Request := j.reverse.filterMap Entry.request?

theorem takenUp_append (entries j : Journal) : takenUp (entries ++ j) = takenUp j ++ takenUp entries := by
  unfold takenUp
  rw [List.reverse_append, List.filterMap_append]

theorem Grows.takenUp {events : List StoryEvent} {granted : List (List Reward)} {before after : Journal}
    (grown : Grows events granted before after) : after.takenUp = before.takenUp := by
  obtain ⟨entries, rfl, silent⟩ := grown.added
  have none : Journal.takenUp entries = [] := by
    refine List.filterMap_eq_nil_iff.mpr fun entry member => ?_
    have other := silent entry (List.mem_reverse.mp member)
    unfold Entry.request?
    split
    · cases other
    · rfl
  rw [takenUp_append, none, List.append_nil]

end Journal

/-! ### Outlooks -/

/-- What decides which request is released next, and what comes of it. -/
structure Outlook where
  priorityOf : RunnerId → Int
  boardOf : RunnerId → Option StoryboardName
  programOf : RunnerId → NodeId → Option Program
  repeats : RunnerId → NodeId → Bool
  statusOf : RunnerId → NodeId → Option NodeStatus
  interpreter : Interpreter
  active : Option (RunnerId × NodeId)
  pending : List Request

def Scene.outlook (s : Scene) : Outlook where
  priorityOf := s.priorityOf
  boardOf runner := (s.runner? runner).map (·.storyboard.name)
  programOf runner node := (s.runner? runner).bind fun x => (x.node? node).map (·.program)
  repeats := s.repeats
  statusOf := s.statusOf?
  interpreter := s.interpreter
  active := s.active
  pending := s.pending

namespace Outlook

/-- The node has another status. -/
def marked (runner : RunnerId) (node : NodeId) (status : NodeStatus) (o : Outlook) : Outlook :=
  { o with statusOf := fun r n => if (r, n) = (runner, node) then some status else o.statusOf r n }

/-- The status of a node that has come to its end: one that can run again waits for that. -/
def endStatus (o : Outlook) (runner : RunnerId) (node : NodeId) : NodeStatus :=
  if o.repeats runner node then .notStarted else .completed

def spent (runner : RunnerId) (node : NodeId) (o : Outlook) : Outlook :=
  o.marked runner node (o.endStatus runner node)

/-- What becomes of a node that is called for, with the events that tell of it. Only if there are `jams` can it find
another program in its place. -/
inductive Fate (jams : Prop) (o : Outlook) (runner : RunnerId) (node : NodeId) : List StoryEvent → Outlook → Prop
  | passedOver (unready : o.statusOf runner node ≠ some .notStarted) : Fate jams o runner node [] o
  | ended {program : Program} {board : StoryboardName} (waiting : o.statusOf runner node = some .notStarted)
      (known : o.programOf runner node = some program) (empty : program.isEmpty = true)
      (home : o.boardOf runner = some board) :
      Fate jams o runner node
        [.nodeStarted runner board node, .nodeCompleted runner board node, .programFinished runner node []]
        { o.spent runner node with active := none }
  | jammed {program : Program} {board : StoryboardName} (jam : jams)
      (waiting : o.statusOf runner node = some .notStarted) (known : o.programOf runner node = some program)
      (filled : program.isEmpty = false) (busy : o.interpreter.program ≠ none) (home : o.boardOf runner = some board) :
      Fate jams o runner node [.nodeStarted runner board node, .nodeCompleted runner board node]
        (o.spent runner node)
  | begun {program : Program} {board : StoryboardName} (waiting : o.statusOf runner node = some .notStarted)
      (known : o.programOf runner node = some program) (filled : program.isEmpty = false)
      (idle : o.interpreter.program = none) (home : o.boardOf runner = some board) :
      Fate jams o runner node [.nodeStarted runner board node]
        { o.marked runner node .inProgress with
          interpreter := o.interpreter.load program
          active := some (runner, node) }

/-- Requests are taken up in turn until one of them runs or none is left. -/
inductive Course (jams : Prop) : Outlook → List Request → List StoryEvent → Outlook → Prop
  | rests {o : Outlook} (settled : o.active.isSome = true ∨ o.pending = []) : Course jams o [] [] o
  | takes {o o' o'' : Outlook} {request : Request} {rest taken : List Request} {events more : List StoryEvent}
      (free : o.active = none) (first : o.pending = request :: rest)
      (fate : Fate jams { o with pending := rest } request.runner request.node events o')
      (course : Course jams o' taken more o'') : Course jams o (request :: taken) (events ++ more) o''

variable {jams : Prop} {o o' o'' : Outlook} {runner : RunnerId} {node : NodeId} {events more : List StoryEvent}
  {taken other : List Request}

namespace Fate

theorem pending (fate : Fate jams o runner node events o') : o'.pending = o.pending := by
  cases fate <;> rfl

theorem priorityOf (fate : Fate jams o runner node events o') : o'.priorityOf = o.priorityOf := by
  cases fate <;> rfl

/-- Only for a node that is active from then on anything is loaded. -/
theorem interpreter (fate : Fate jams o runner node events o') (free : o'.active = none) :
    o'.interpreter = o.interpreter := by
  cases fate with
  | begun => cases free
  | _ => rfl

theorem mono {jams' : Prop} (fate : Fate jams o runner node events o') (more : jams → jams') :
    Fate jams' o runner node events o' := by
  cases fate with
  | passedOver unready => exact .passedOver unready
  | ended waiting known empty home => exact .ended waiting known empty home
  | jammed jam waiting known filled busy home => exact .jammed (more jam) waiting known filled busy home
  | begun waiting known filled idle home => exact .begun waiting known filled idle home

/-- Nothing is left to chance. -/
theorem unique (fate : Fate jams o runner node events o') (again : Fate jams o runner node more o'') :
    events = more ∧ o' = o'' := by
  cases fate <;> cases again <;> grind

end Fate

namespace Course

theorem mono {jams' : Prop} (course : Course jams o taken events o') (more : jams → jams') :
    Course jams' o taken events o' := by
  induction course with
  | rests settled => exact .rests settled
  | takes free first fate course ih => exact .takes free first (fate.mono more) ih

/-- What is taken up is the beginning of what waits, and the rest goes on waiting. -/
theorem taken_append (course : Course jams o taken events o') : o.pending = taken ++ o'.pending := by
  induction course with
  | rests => rfl
  | takes free first fate course ih => rw [first, List.cons_append, ← ih, fate.pending]

theorem settled (course : Course jams o taken events o') : o'.active.isSome = true ∨ o'.pending = [] := by
  induction course with
  | rests settled => exact settled
  | takes free first fate course ih => exact ih

/-- A node that is active afterwards is the one that was taken up last. -/
theorem last (course : Course jams o taken events o') (free : o.active = none) {target : RunnerId × NodeId}
    (active : o'.active = some target) :
    ∃ earlier request, taken = earlier ++ [request] ∧ target = (request.runner, request.node) := by
  induction course with
  | rests => cases free.symm.trans active
  | @takes o o' o'' request rest taken events more _ first fate course ih =>
      cases still : o'.active with
      | none =>
          obtain ⟨earlier, last, rfl, same⟩ := ih still active
          exact ⟨request :: earlier, last, rfl, same⟩
      | some running =>
          cases fate with
          | begun waiting known filled idle home =>
              cases course with
              | rests =>
                  cases active
                  exact ⟨[], request, rfl, rfl⟩
              | takes busy => cases busy
          | passedOver => cases free.symm.trans still
          | ended => cases still
          | jammed => cases free.symm.trans still

theorem unique (course : Course jams o taken events o') (again : Course jams o other more o'') :
    taken = other ∧ events = more ∧ o' = o'' := by
  induction course generalizing other more with
  | rests settled =>
      cases again with
      | rests => exact ⟨rfl, rfl, rfl⟩
      | takes free first =>
          rw [free, first] at settled
          simp at settled
  | takes free first fate course ih =>
      cases again with
      | rests settled =>
          rw [free, first] at settled
          simp at settled
      | takes free' first' fate' course' =>
          cases first.symm.trans first'
          obtain ⟨rfl, rfl⟩ := fate.unique fate'
          obtain ⟨rfl, rfl, rfl⟩ := ih course'
          exact ⟨rfl, rfl, rfl⟩

end Course

end Outlook

/-! ### The outlook of a scene -/

namespace Scene

open Outlook

variable {s : Scene} {jams : Prop}

private theorem programs_alike {x y : Runner} (alike : x.Alike y) (node : NodeId) :
    (y.node? node).map (·.program) = (x.node? node).map (·.program) := by
  have same := congrArg (Option.map Node.program) (alike.node node)
  rwa [Option.map_map, Option.map_map] at same

/-- If one node of a runner has another status, that is all that is to be seen. -/
theorem putRunner_outlook {x y : Runner} {runner : RunnerId} {node : NodeId} {status : NodeStatus}
    (found : s.runner? runner = some x) (alike : x.Alike y)
    (touched : ∀ other, y.statusOf? other = if other = node then some status else x.statusOf? other) (ch : Channel) :
    (s.putRunner y ch).outlook = s.outlook.marked runner node status := by
  obtain rfl := id_of_runner? found
  have priorities : (s.putRunner y ch).priorityOf = s.priorityOf :=
    putRunner_priorityOf found alike.id alike.priority ch
  have boards (runner : RunnerId) : ((s.putRunner y ch).runner? runner).map (·.storyboard.name) =
      (s.runner? runner).map (·.storyboard.name) :=
    read_putRunner found alike.id (Option.map (·.storyboard.name)) (congrArg some alike.board) ch runner
  have programs (runner : RunnerId) (other : NodeId) :
      (((s.putRunner y ch).runner? runner).bind fun z => (z.node? other).map (·.program)) =
        (s.runner? runner).bind fun z => (z.node? other).map (·.program) :=
    read_putRunner found alike.id (fun r => r.bind fun z : Runner => (z.node? other).map Node.program)
      (programs_alike alike other) ch runner
  have repeats : (s.putRunner y ch).repeats = s.repeats := by
    funext runner other
    exact read_putRunner found alike.id (fun r => (r.map fun z : Runner => z.repeats other).getD false)
      (alike.repeats other) ch runner
  have statuses : (s.putRunner y ch).statusOf? = fun runner other =>
      if (runner, other) = (x.id, node) then some status else s.statusOf? runner other := by
    funext runner other
    rw [statusOf?_putRunner found alike.id]
    by_cases here : runner = x.id
    · rw [if_pos here, touched, here, ← statusOf?_of_runner? found]
      simp
    · rw [if_neg here, if_neg fun same => here (Prod.mk.inj same).1]
  simp only [outlook, marked, priorities, boards, programs, repeats, statuses]
  rfl

theorem programOf_found {x : Runner} {d : Node} {runner : RunnerId} {node : NodeId} (found : s.runner? runner = some x)
    (known : x.node? node = some d) : s.outlook.programOf runner node = some d.program := by
  simp only [outlook, found, Option.bind_some, known, Option.map_some]

theorem boardOf_found {x : Runner} {runner : RunnerId} (found : s.runner? runner = some x) :
    s.outlook.boardOf runner = some x.storyboard.name := by
  simp only [outlook, found, Option.map_some]

/-- A node that begins and ends at once. -/
theorem passed_outlook {x : Runner} {runner : RunnerId} {node : NodeId} (found : s.runner? runner = some x)
    (waiting : x.statusOf? node = some .notStarted) (ch : Channel) :
    (s.putRunner ((x.setStatus node .inProgress).afterEnd node) ch).outlook = s.outlook.spent runner node := by
  rw [putRunner_outlook found (passed_alike waiting) (Runner.statusOf?_passed waiting)]
  unfold spent Outlook.endStatus Runner.endStatus
  rw [← repeats_of_runner? found]
  rfl

theorem closed_outlook {x : Runner} {runner : RunnerId} {node : NodeId} (found : s.runner? runner = some x)
    (waiting : x.statusOf? node = some .notStarted) (ch : Channel) :
    Scene.outlook { s.putRunner ((x.setStatus node .inProgress).afterEnd node) ch with active := none } =
      { s.outlook.spent runner node with active := none } :=
  congrArg (fun o : Outlook => { o with active := none }) (passed_outlook found waiting ch)

/-- Beginning a node is a matter of the outlook. -/
theorem beginNode_fate (coherent : s.Coherent) (left : s.interpreter.program ≠ none → jams) (runner : RunnerId)
    (node : NodeId) :
    ∃ events, s.outlook.Fate jams runner node events (s.beginNode runner node).2.outlook ∧
      s.channel.Grows events [] (s.beginNode runner node).2.channel := by
  have begins := beginNode_begins coherent runner node
  generalize (s.beginNode runner node).1 = begun, (s.beginNode runner node).2 = s' at begins ⊢
  cases begins with
  | unknown missing =>
      have unready : s.statusOf? runner node ≠ some .notStarted := by simp [statusOf?, missing]
      exact ⟨[], .passedOver unready, Channel.note_quiet rfl _⟩
  | @refused x found unready =>
      have unready : s.statusOf? runner node ≠ some .notStarted := by
        rw [statusOf?_of_runner? found]
        exact unready
      exact ⟨[], .passedOver unready, Channel.note_quiet (Runner.refusal_isPlain x node) _⟩
  | @started x d ch found waiting known filled idle grown opens =>
      have ready := (statusOf?_of_runner? found node).trans waiting
      have seen := putRunner_outlook found (Runner.alike_setStatus (Runner.contains_of_status waiting) .inProgress)
        (fun other => Runner.statusOf?_setStatus node other .inProgress x) ch
      have after : Scene.outlook { s.putRunner (x.setStatus node .inProgress) ch with
            interpreter := s.interpreter.load d.program, active := some (runner, node) } =
          { s.outlook.marked runner node .inProgress with
            interpreter := s.interpreter.load d.program, active := some (runner, node) } :=
        congrArg (fun o : Outlook =>
          { o with interpreter := s.interpreter.load d.program, active := some (runner, node) }) seen
      rw [after]
      exact ⟨_, .begun ready (programOf_found found known) filled idle (boardOf_found found), grown⟩
  | @passed x d ch found waiting known empty grown opens =>
      have ready := (statusOf?_of_runner? found node).trans waiting
      rw [closed_outlook found waiting]
      exact ⟨_, .ended ready (programOf_found found known) empty (boardOf_found found), grown⟩
  | @jammed x d ch found waiting known filled busy grown =>
      have ready := (statusOf?_of_runner? found node).trans waiting
      rw [passed_outlook found waiting]
      exact ⟨_, .jammed (left busy) ready (programOf_found found known) filled busy (boardOf_found found), grown⟩

/-- What a release writes down. -/
structure Recounts (taken : List Request) (events : List StoryEvent) (before after : Channel) : Prop where
  takenUp : after.journal.takenUp = before.journal.takenUp ++ taken
  queue : after.bus.queue = before.bus.queue ++ events

private theorem coherent_taken (coherent : s.Coherent) (request : Request) (rest : List Request) :
    Coherent ({ s with pending := rest }.note (.releasing request.runner request.node request.sequence)) :=
  coherent.of_same coherent.attached coherent.emitted rfl rfl rfl

theorem takeUp_coherent (coherent : s.Coherent) (request : Request) (rest : List Request) :
    (s.takeUp request rest).Coherent :=
  beginNode_coherent (coherent_taken coherent request rest) request.runner request.node

/-- What becomes of the node of a request when this is taken up. -/
theorem takeUp_fate (coherent : s.Coherent) (left : s.interpreter.program ≠ none → jams) (request : Request)
    (rest : List Request) :
    ∃ events, Fate jams { s.outlook with pending := rest } request.runner request.node events
        (s.takeUp request rest).outlook ∧
      Recounts [request] events s.channel (s.takeUp request rest).channel := by
  obtain ⟨events, fate, grown⟩ :=
    beginNode_fate (coherent_taken coherent request rest) left request.runner request.node
  refine ⟨events, fate, ?_, grown.queue⟩
  have taken : (s.takeUp request rest).channel.journal.takenUp =
      Journal.takenUp (.note (.releasing request.runner request.node request.sequence) :: s.channel.journal) :=
    grown.journal.takenUp
  rw [taken]
  exact Journal.takenUp_append [_] _

/-- Requests are released in the course that the outlook allows. -/
theorem releaseAll_course (order : List Request) (coherent : s.Coherent) (waiting : s.pending = order)
    (left : s.active = none → s.interpreter.program ≠ none → jams) :
    ∃ taken events, s.outlook.Course jams taken events (releaseAll order s).outlook ∧
      Recounts taken events s.channel (releaseAll order s).channel := by
  induction order generalizing s with
  | nil =>
      have same : releaseAll [] s = s := by rw [releaseAll, ← waiting]
      rw [same]
      exact ⟨[], [], .rests (.inr waiting), (List.append_nil _).symm, (List.append_nil _).symm⟩
  | cons request rest ih =>
      by_cases running : s.isEventRunning = true
      · have same : releaseAll (request :: rest) s = s := by rw [releaseAll_of_running running, ← waiting]
        rw [same]
        exact ⟨[], [], .rests (.inl running), (List.append_nil _).symm, (List.append_nil _).symm⟩
      · have free : s.active = none := by simpa [isEventRunning] using running
        obtain ⟨events, fate, first⟩ := takeUp_fate coherent (left free) request rest
        have still : (s.takeUp request rest).active = none →
            (s.takeUp request rest).interpreter.program ≠ none → jams := by
          intro free' busy
          have same := fate.interpreter free'
          exact left free fun idle => busy (congrArg Interpreter.program same |>.trans idle)
        obtain ⟨taken, more, course, recounts⟩ :=
          ih (takeUp_coherent coherent request rest) (takeUp_pending request rest s) still
        rw [releaseAll_of_free running]
        refine ⟨request :: taken, events ++ more, .takes free waiting fate course, ?_, ?_⟩
        · rw [recounts.takenUp, first.takenUp, List.append_assoc]
          rfl
        · rw [recounts.queue, first.queue, List.append_assoc]

theorem release_course (coherent : s.Coherent) (free : s.active = none) (left : s.interpreter.program ≠ none → jams) :
    ∃ taken events, Course jams { s.outlook with pending := s.releaseOrder } taken events s.release.outlook ∧
      Recounts taken events s.channel s.release.channel := by
  have released : s.release = releaseAll s.releaseOrder { s with pending := s.releaseOrder } := by
    unfold release
    rw [if_neg (by simp [isEventRunning, free])]
    exact (releaseAll_pending _ s _).symm
  have ordered : Coherent { s with pending := s.releaseOrder } :=
    coherent.of_same coherent.attached coherent.emitted rfl rfl rfl
  rw [released]
  exact releaseAll_course s.releaseOrder ordered rfl fun _ => left

end Scene

end Plotline
