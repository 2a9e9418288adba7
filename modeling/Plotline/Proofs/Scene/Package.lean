import Plotline.Proofs.Runner.Primed
import Plotline.Proofs.Scene.Registry
import Plotline.Scene.Schedule

/-!
The scene that a package opens with. If the ids of its runners are distinct, and those of the nodes within each
storyboard, every runner is registered and every condition listens; and this does not depend on the settings.
-/

namespace Plotline

/-- What is handed out to the runners is in order: all ids are distinct where they have to be, and no condition is
subscribed yet. -/
structure StoryPackage.Proper (p : StoryPackage) : Prop where
  runners : (p.runners.map (·.id)).Nodup
  nodes : ∀ d ∈ p.runners, (d.storyboard.nodes.map (·.id)).Nodup
  unsubscribed : ∀ d ∈ p.runners, Runner.Unsubscribed d.storyboard.nodes

/-- The runner goes by the id of the definition and knows the nodes of its storyboard. -/
def Runner.Enacts (d : RunnerDefinition) (x : Runner) : Prop :=
  x.id = d.id ∧ ∀ node, x.contains node = (d.storyboard.node? node).isSome

namespace Scene

/-- Runners to whom nothing has happened, on a bus without events. -/
structure Cast (runners : List Runner) (bus : Bus) : Prop where
  distinct : (runners.map (·.id)).Nodup
  primed : ∀ x ∈ runners, x.Primed bus
  numbered : bus.Numbered
  quiet : bus.queue = []

/-- A runner under a new id is set up and takes its place; none of its nodes is ready yet. -/
theorem register_new {s : Scene} {r y : Runner} {ready : List NodeId} {ch : Channel} (new : s.runner? r.id = none)
    (made : r.setUp s.channel = (ready, y, ch)) :
    s.register r = (.ok (),
      { s with runners := insertRunner y s.runners, channel := ch.note (.registered y.id y.priority) }) := by
  obtain ⟨rfl, -, -, -⟩ := Runner.setUp_made made
  unfold register
  rw [new, made]
  rfl

theorem insertRunner_perm (y : Runner) (runners : List Runner) :
    (insertRunner y runners).Perm (y :: runners) := by
  induction runners with
  | nil => exact .refl _
  | cons x runners ih =>
      unfold insertRunner
      split
      · exact (ih.cons x).trans (.swap y x runners)
      · exact .refl _

private theorem Cast.insert {runners : List Runner} {bus bus' : Bus} (cast : Cast runners bus) {y : Runner}
    (new : ∀ x ∈ runners, x.id ≠ y.id) (primed : y.Primed bus') (wider : bus.Widens bus') (quiet : bus'.queue = []) :
    Cast (insertRunner y runners) bus' := by
  refine ⟨?_, ?_, wider.numbered cast.numbered, quiet⟩
  · have inserted := (insertRunner_perm y runners).map (·.id)
    rw [inserted.nodup_iff, List.map_cons, List.nodup_cons]
    refine ⟨?_, cast.distinct⟩
    intro old
    obtain ⟨x, member, same⟩ := List.mem_map.mp old
    exact new x member same
  · intro x member
    rcases mem_insertRunner member with rfl | old
    · exact primed
    · exact (cast.primed x old).widen wider

/-- Registering the runners comes to the same in every scene that starts from the same runners and the same bus. -/
private theorem registerAll_cast (definitions : List RunnerDefinition) {runners : List Runner} (ch : Channel)
    (cast : Cast runners ch.bus) (ids : (definitions.map (·.id)).Nodup)
    (nodes : ∀ d ∈ definitions, (d.storyboard.nodes.map (·.id)).Nodup)
    (unsubscribed : ∀ d ∈ definitions, Runner.Unsubscribed d.storyboard.nodes)
    (new : ∀ d ∈ definitions, ∀ x ∈ runners, x.id ≠ d.id) :
    ∃ runners' ch', Cast runners' ch'.bus ∧
      (∀ x ∈ runners', x ∈ runners ∨ ∃ d ∈ definitions, Runner.Enacts d x) ∧
      ∀ s : Scene, s.runners = runners → s.channel = ch →
        registerAll definitions s = (.ok (), { s with runners := runners', channel := ch' }) := by
  induction definitions generalizing runners ch with
  | nil =>
      refine ⟨runners, ch, cast, fun x member => Or.inl member, ?_⟩
      rintro s rfl rfl
      rfl
  | cons d ds ih =>
      have later : ∀ e ∈ ds, e ∈ d :: ds := fun e member => List.mem_cons_of_mem d member
      obtain ⟨other, idsRest⟩ := List.nodup_cons.mp ids
      cases made : (Runner.ofDefinition d).setUp ch with
      | mk ready made' =>
          obtain ⟨y, ch'⟩ := made'
          obtain ⟨-, sameId, -, rewired⟩ := Runner.setUp_made made
          obtain ⟨primed, wider⟩ := Runner.setUp_primed (r := .ofDefinition d) rfl
            (unsubscribed d List.mem_cons_self) (nodes d List.mem_cons_self) cast.numbered
          have sameNodes := Runner.setUp_sameNodes (.ofDefinition d) ch
          rw [made] at primed wider sameNodes
          have enacts : Runner.Enacts d y := ⟨sameId, fun node => (primed.listed node).trans (sameNodes node)⟩
          have newHere : ∀ x ∈ runners, x.id ≠ y.id := by
            intro x member
            rw [sameId]
            exact new d List.mem_cons_self x member
          have castNext := cast.insert newHere primed wider (rewired.queue.trans cast.quiet)
          obtain ⟨runners', ch'', castAll, enacted, rest⟩ := ih (ch'.note (.registered y.id y.priority)) castNext idsRest
            (fun e member => nodes e (later e member)) (fun e member => unsubscribed e (later e member)) (by
              intro e member x among
              rcases mem_insertRunner among with rfl | old
              · rw [sameId]
                exact fun same => other (List.mem_map.mpr ⟨e, member, same.symm⟩)
              · exact new e (later e member) x old)
          refine ⟨runners', ch'', castAll, ?_, ?_⟩
          · intro x member
            rcases enacted x member with among | ⟨e, defined, enactsE⟩
            · rcases mem_insertRunner among with rfl | old
              · exact Or.inr ⟨d, List.mem_cons_self, enacts⟩
              · exact Or.inl old
            · exact Or.inr ⟨e, later e defined, enactsE⟩
          rintro s rfl rfl
          have unknown : s.runner? (Runner.ofDefinition d).id = none := by
            rw [← sameId]
            exact List.find?_eq_none.mpr fun x member => by simpa using newHere x member
          rw [registerAll, register_new unknown made]
          exact rest _ rfl rfl

/-- A scene in which nothing has happened yet. -/
def opening (runners : List Runner) (ch : Channel) (settings : Settings) (stage : Stage) : Scene :=
  { empty settings stage with runners, channel := ch }

theorem ofPackage_enacted {package : StoryPackage} (proper : package.Proper) :
    ∃ runners ch, Cast runners ch.bus ∧ (∀ x ∈ runners, ∃ d ∈ package.runners, Runner.Enacts d x) ∧
      ∀ settings stage, ofPackage package settings stage = (.ok (), opening runners ch settings stage) := by
  have empty : Cast [] ({} : Channel).bus := ⟨List.nodup_nil, nofun, nofun, rfl⟩
  obtain ⟨runners, ch, cast, enacted, made⟩ := registerAll_cast package.runners {} empty proper.runners proper.nodes
    proper.unsubscribed nofun
  refine ⟨runners, ch, cast, ?_, fun settings stage => made (Scene.empty settings stage) rfl rfl⟩
  intro x member
  exact (enacted x member).resolve_left List.not_mem_nil

theorem ofPackage_cast {package : StoryPackage} (proper : package.Proper) :
    ∃ runners ch, Cast runners ch.bus ∧ ∀ settings stage,
      ofPackage package settings stage = (.ok (), opening runners ch settings stage) := by
  obtain ⟨runners, ch, cast, -, made⟩ := ofPackage_enacted proper
  exact ⟨runners, ch, cast, made⟩

section

variable {runners : List Runner} {ch : Channel} (cast : Cast runners ch.bus) (settings : Settings) (stage : Stage)

include cast

theorem Cast.owned : (opening runners ch settings stage).Owned := fun _ member => find?_of_nodup cast.distinct member

theorem Cast.primed_of_found {id : RunnerId} {x : Runner}
    (found : (opening runners ch settings stage).runner? id = some x) : x.Primed ch.bus :=
  cast.primed x (List.mem_of_find?_eq_some found)

theorem Cast.waiting {id : RunnerId} {node : NodeId} {status : NodeStatus}
    (known : (opening runners ch settings stage).statusOf? id node = some status) : status = .notStarted := by
  obtain ⟨x, found, known⟩ := Option.bind_eq_some_iff.mp known
  exact (cast.primed_of_found settings stage found).waiting node status known

end

end Scene

end Plotline
