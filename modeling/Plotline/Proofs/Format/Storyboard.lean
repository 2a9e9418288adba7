import Plotline.Format.Storyboard
import Plotline.Proofs.Format.Program
import Plotline.Proofs.Number.Restored
import Plotline.Proofs.Story.Package

/-!
Packages are read back from their JSON: conditions without what has happened to them, nodes, storyboards and runners
whole.
-/

namespace Plotline

open Decoder Fields

namespace ConditionKind

private theorem json_object (kind : ConditionKind) : ∃ members, kind.json = .object members := by
  cases kind <;> exact ⟨_, rfl⟩

theorem json_reads (kind : ConditionKind) : shape.decoder.Reads 1 kind.json kind := by
  cases kind with
  | areaEntered area =>
      have written : Written 0 (.cons (required "trigger_id" text) .nil) [("trigger_id", .text area)] (area, ()) := by
        apply Written.given (text_reads area)
        exact .nil
      exact shape.fielded_reads "area_entered" (fun _ => rfl) written (by decide)
  | interactionTriggered interaction =>
      have written : Written 0 (.cons (required "interaction_id" text) .nil) [("interaction_id", .text interaction)]
          (interaction, ()) := by
        apply Written.given (text_reads interaction)
        exact .nil
      exact shape.fielded_reads "interaction_triggered" (fun _ => rfl) written (by decide)
  | previousNodeCompleted target =>
      have written : Written 0 (.cons (required "target_node_id" nodeId) .nil)
          [("target_node_id", .text target.text)] (target, ()) := by
        apply Written.given (text_reads target.text).map
        exact .nil
      exact shape.fielded_reads "previous_node_completed" (fun _ => rfl) written (by decide)

end ConditionKind

namespace Condition

/-- Only the kind of a condition is written, so it is read back if nothing has happened to it. -/
theorem json_reads {c : Condition} (fresh : c.satisfied = false ∧ c.subscription = none) :
    decoder.Reads 1 c.json c := by
  obtain ⟨kind, satisfied, subscription⟩ := c
  obtain ⟨rfl, rfl⟩ := fresh
  have reads := kind.json_reads
  obtain ⟨members, object⟩ := kind.json_object
  unfold json
  rw [object] at reads ⊢
  exact (Tagged.spread_reads "struct Condition" reads).map

end Condition

namespace Node

theorem json_reads {n : Node} (fresh : ∀ c ∈ n.conditions, c.satisfied = false ∧ c.subscription = none)
    (restored : ∀ i ∈ n.program.instructions, ∀ x ∈ i.singles, x.Restored)
    (fit : ∀ i ∈ n.program.instructions, ∀ r ∈ i.rewards, r.amount < UInt32.size) : decoder.Reads 6 n.json n := by
  have conditions : (list Condition.decoder).Reads 2 (.list (n.conditions.map Condition.json)) n.conditions :=
    list_reads fun c member => Condition.json_reads (fresh c member)
  have next : (list nodeId).Reads 1 (.list (n.next.map fun id => .text id.text)) n.next :=
    list_reads fun id _ => (text_reads id.text).map
  have written : Written 5
      (.cons (required "id" nodeId)
        (.cons (withDefault "name" text "")
          (.cons (withDefault "archetype" Archetype.decoder .generic)
            (.cons (withDefault "is_start_node" boolean false)
              (.cons (withDefault "is_repeatable" boolean false)
                (.cons (withDefault "conditions" (list Condition.decoder) [])
                  (.cons (withDefault "next" (list nodeId) [])
                    (.cons (withDefault "program" Program.decoder {}) .nil))))))))
      [("id", .text n.id.text), ("name", .text n.name), ("archetype", n.archetype.json),
        ("is_start_node", .bool n.isStart), ("is_repeatable", .bool n.isRepeatable),
        ("conditions", .list (n.conditions.map Condition.json)),
        ("next", .list (n.next.map fun id => .text id.text)), ("program", n.program.json)]
      (n.id, n.name, n.archetype, n.isStart, n.isRepeatable, n.conditions, n.next, n.program, ()) := by
    have few : 0 ≤ 5 := by decide
    apply Written.given ((text_reads n.id.text).map.mono few)
    apply Written.given ((text_reads n.name).mono few)
    apply Written.given (n.archetype.json_reads.mono few)
    apply Written.given ((boolean_reads n.isStart).mono few)
    apply Written.given ((boolean_reads n.isRepeatable).mono few)
    apply Written.given (conditions.mono (by decide))
    apply Written.given (next.mono (by decide))
    apply Written.given (Program.json_reads restored fit)
    exact .nil
  exact record_reads _ _ written (by decide)

end Node

theorem Connection.json_reads (c : Connection) : decoder.Reads 1 c.json c := by
  have written : Written 0 (.cons (required "from" nodeId) (.cons (required "to" nodeId) .nil))
      [("from", .text c.source.text), ("to", .text c.target.text)] (c.source, c.target, ()) := by
    apply Written.given (text_reads c.source.text).map
    apply Written.given (text_reads c.target.text).map
    exact .nil
  exact record_reads _ _ written (by decide)

theorem Storyboard.json_reads {b : Storyboard} (nodes : ∀ n ∈ b.nodes, Node.decoder.Reads 6 n.json n) :
    decoder.Reads 8 b.json b := by
  have listed : (list Node.decoder).Reads 7 (.list (b.nodes.map Node.json)) b.nodes := list_reads nodes
  have connections : (list Connection.decoder).Reads 2 (.list (b.connections.map Connection.json)) b.connections :=
    list_reads fun c _ => c.json_reads
  have written : Written 7
      (.cons (required "name" storyboardName)
        (.cons (withDefault "nodes" (list Node.decoder) [])
          (.cons (withDefault "connections" (list Connection.decoder) []) .nil)))
      [("name", .text b.name.text), ("nodes", .list (b.nodes.map Node.json)),
        ("connections", .list (b.connections.map Connection.json))] (b.name, b.nodes, b.connections, ()) := by
    apply Written.given ((text_reads b.name.text).map.mono (by decide))
    apply Written.given listed
    apply Written.given (connections.mono (by decide))
    exact .nil
  exact record_reads _ _ written (by decide)

theorem RunnerDefinition.json_reads {d : RunnerDefinition} (least : -2147483648 ≤ d.priority)
    (most : d.priority < 2147483648) (nodes : ∀ n ∈ d.storyboard.nodes, Node.decoder.Reads 6 n.json n) :
    decoder.Reads 9 d.json d := by
  have written : Written 8
      (.cons (required "id" runnerId)
        (.cons (withDefault "priority" integer32 0) (.cons (required "storyboard" Storyboard.decoder) .nil)))
      [("id", .text d.id.text), ("priority", .number d.priority), ("storyboard", d.storyboard.json)]
      (d.id, d.priority, d.storyboard, ()) := by
    apply Written.given ((text_reads d.id.text).map.mono (by decide))
    apply Written.given ((integer32_reads least most).mono (by decide))
    apply Written.given (Storyboard.json_reads nodes)
    exact .nil
  exact record_reads _ _ written (by decide)

namespace StoryPackage

theorem json_reads {p : StoryPackage} (fresh : p.Fresh) (inRange : p.InRange)
    (finite : ∀ x ∈ p.singles, x.isFinite = true) : decoder.Reads 11 p.json p := by
  have nodes : ∀ n ∈ p.nodes, Node.decoder.Reads 6 n.json n := by
    intro n member
    have instructions : ∀ i ∈ n.program.instructions, i ∈ p.instructions := fun i held =>
      List.mem_flatMap.mpr ⟨n, member, held⟩
    apply Node.json_reads
    · exact fun c held => fresh c (List.mem_flatMap.mpr ⟨n, member, held⟩)
    · intro i held x carried
      have among : x ∈ p.singles := List.mem_flatMap.mpr ⟨i, instructions i held, carried⟩
      exact Single.restored_of_finite (finite x among)
    · exact fun i held r carried => inRange.amounts r (List.mem_flatMap.mpr ⟨i, instructions i held, carried⟩)
  have runners : (list RunnerDefinition.decoder).Reads 10 (.list (p.runners.map RunnerDefinition.json)) p.runners := by
    apply list_reads
    intro d member
    obtain ⟨least, most⟩ := inRange.priorities d member
    exact RunnerDefinition.json_reads least most fun n held => nodes n (List.mem_flatMap.mpr ⟨d, member, held⟩)
  have written : Written 10 (.cons (withDefault "runners" (list RunnerDefinition.decoder) []) .nil)
      [("runners", .list (p.runners.map RunnerDefinition.json))] (p.runners, ()) := by
    apply Written.given runners
    exact .nil
  exact record_reads _ _ written (by decide)

/-- A package that nothing has happened to, and whose numbers are finite, is read back from its JSON. -/
theorem read_json_render {p : StoryPackage} (fresh : p.Fresh) (inRange : p.InRange)
    (finite : ∀ x ∈ p.singles, x.isFinite = true) : read p.json.render = .ok p := by
  have reads := json_reads fresh inRange finite
  rw [read, read_render]
  exact reads.ofText (by decide)

private def thirdOfSecond : Single := ⟨0x3eaaaaab⟩

/-- A pageant that uses instructions and commands of every kind, with and without what they may leave out. -/
def pageant : StoryPackage :=
  { runners :=
      [{ id := ⟨"herald \"🎺\""⟩
         priority := -2
         storyboard :=
           { name := ⟨"square\\market"⟩
             nodes :=
               [{ id := ⟨"call"⟩
                  name := "The\ncall"
                  archetype := .dialogue
                  isStart := true
                  isRepeatable := true
                  conditions :=
                    [{ kind := .areaEntered "gate" }, { kind := .interactionTriggered "" },
                      { kind := .previousNodeCompleted ⟨"dawn"⟩ }]
                  next := [⟨"dance"⟩, ⟨"dance"⟩]
                  program :=
                    { archetype := .dialogue
                      instructions :=
                        [.dialogue "Hērald" "Hear ye!" none, .dialogue "" "" (some thirdOfSecond),
                          .choice none [⟨"Go", ⟨"on"⟩⟩], .choice (some "Well?") [], .label ⟨"on"⟩, .jump ⟨"on"⟩,
                          .unknown,
                          .endOfProgram
                            { isBranching := true
                              targetNode := some ⟨"dance"⟩
                              targetStoryboard := some ⟨"square\\market"⟩ }] } },
                { id := ⟨"dance"⟩
                  program :=
                    { instructions :=
                        [.actor "fool" (.appear none), .actor "fool" (.appear (some "left")), .actor "fool" .hide,
                          .actor "fool" (.moveTo "right" thirdOfSecond), .actor "fool" (.animate "bow" (.ofNat 2)),
                          .background (.display "night.png"), .background .hide,
                          .audio (.playMusic "drums" (.ofNat 0)), .audio (.stopMusic thirdOfSecond),
                          .audio (.playOneShot "gong"), .camera (.focus "fool" (.ofNat 1)),
                          .camera (.shake ⟨1⟩ ⟨0x7f7fffff⟩), .camera (.reset ⟨0x80000000⟩),
                          .screenEffect (.fadeOut (.ofNat 1)), .screenEffect (.fadeIn thirdOfSecond),
                          .screenEffect (.flash (.ofNat 3)), .trigger ⟨"crowd"⟩ ⟨"cheer"⟩,
                          .endOfProgram { rewards := [⟨"coin", 4294967295⟩] }] } }]
             connections := [⟨⟨"call"⟩, ⟨"dance"⟩⟩] } },
        { id := ⟨"crowd"⟩, storyboard := { name := ⟨"stands"⟩ } }] }

theorem pageant_read_json_render : read pageant.json.render = .ok pageant := by
  have fresh : pageant.Fresh := by
    unfold Fresh
    decide
  have inRange : pageant.InRange := ⟨by decide, by decide⟩
  have finite : ∀ x ∈ pageant.singles, x.isFinite = true := by decide +kernel
  exact read_json_render fresh inRange finite

end StoryPackage

end Plotline
