import Mathlib.Data.List.Chain
import Plotline.Proofs.Interpreter.Budget
import Plotline.Proofs.Interpreter.Poise
import Plotline.Proofs.Story.Label

/-!
Where labels lead. A jump that is carried out and an option that is accepted send the program to the first label of the
name, or to the next instruction if there is none. That is where the next instruction is fetched, be it in the same
resumption or in a much later one; and a program that falls off its end does so just behind its last instruction.
-/

namespace Plotline

/-- Where a label leads from the cursor. -/
inductive Program.Lands (p : Program) (label : LabelName) (cursor : Nat) : Nat → Prop
  | first {target : Nat} (first : p.FirstLabel label target) : Lands p label cursor target
  | onward (absent : Instruction.label label ∉ p.instructions) : Lands p label cursor (cursor + 1)

theorem Program.resolve_lands (p : Program) (label : LabelName) (cursor : Nat) :
    p.Lands label cursor (p.resolve label cursor).1 := by
  unfold resolve
  split
  · exact .first (position?_eq_some.mp ‹_›)
  · exact .onward (position?_eq_none.mp ‹_›)

/-- A point of a run at which it matters where in its program the run is. -/
inductive Mark
  /-- The instruction at the cursor is asked for. -/
  | fetched (program : Program) (cursor : Nat)
  /-- An option that leads to the label is accepted. -/
  | accepted (program : Program) (cursor : Nat) (label : LabelName)
  deriving DecidableEq

namespace Mark

/-- The program that the mark is about. -/
def program : Mark → Program
  | fetched p _ => p
  | accepted p _ _ => p

/-- The run is sent to a label, by a jump that is carried out or by an option that is accepted. -/
inductive Turns (p : Program) (cursor : Nat) (label : LabelName) : Mark → Prop
  | jump (here : p.instructions[cursor]? = some (.jump label)) : Turns p cursor label (.fetched p cursor)
  | option : Turns p cursor label (.accepted p cursor label)

/-- Where the one sends the run, the other fetches an instruction. -/
def Leads (m next : Mark) : Prop :=
  ∀ p cursor label, m.Turns p cursor label → ∃ target, p.Lands label cursor target ∧ next = .fetched p target

end Mark

namespace Interpreter

/-- The marks of a run, in order. -/
def fetches (stage : Stage) (budget : Nat) (i : Interpreter) (j : Journal) : List Mark :=
  match budget with
  | 0 => []
  | budget + 1 =>
    match i.program with
    | none => []
    | some program =>
      .fetched program i.cursor ::
        match i.step stage j with
        | .stop .. => []
        | .next i j => fetches stage budget i j

/-- The marks of a resumption, in order. -/
def fetchesAfter (stage : Stage) (elapsed : Duration) (i : Interpreter) (j : Journal) : List Mark :=
  if i.isRunning then
    let (ready, i, j) := i.settleSuspension elapsed j
    if ready then i.fetches stage i.maxSteps j else []
  else []

end Interpreter

/-- The marks of a call, in order. -/
def Call.marks (stage : Stage) : Call → Rehearsal → List Mark
  | resume elapsed, r => r.interpreter.fetchesAfter stage elapsed r.journal
  | selectChoice index, r =>
    match r.interpreter.program, r.interpreter.options?.bind (·[index]?) with
    | some program, some option => [.accepted program r.interpreter.cursor option.target]
    | _, _ => []
  | _, _ => []

/-- The marks of the calls, in order. -/
def marks (stage : Stage) : List Call → Rehearsal → List Mark
  | [], _ => []
  | call :: calls, r => call.marks stage r ++ marks stage calls (call.perform stage r)

theorem CommandTable.standard_jump (archetype : Archetype) :
    standard.handler? archetype .jump = some (.standard .jump) := by
  cases archetype <;> rfl

namespace Interpreter

variable {i i' i'' : Interpreter} {program : Program}

/-- A jump that is fetched is carried out. -/
theorem step_of_jump (standard : i.table = .standard) (loaded : i.program = some program) {label : LabelName}
    (here : program.instructions[i.cursor]? = some (.jump label)) (stage : Stage) (j : Journal) :
    ∃ j', i.step stage j = .next { i with cursor := (program.resolve label i.cursor).1 } j' := by
  have handler : i.handlerFor program.archetype (.jump label) = .ok (.standard .jump) := by
    unfold handlerFor
    rw [standard]
    dsimp only [Instruction.kind]
    rw [CommandTable.standard_jump]
  have made : i.deedFor program (.jump label) =
      .ok { note := some (program.resolve label i.cursor).2
            flow := fun _ => .redirect (program.resolve label i.cursor).1 } := by
    unfold deedFor
    rw [handler]
    rfl
  unfold step
  rw [loaded]
  dsimp only
  rw [here]
  dsimp only
  rw [made]
  exact ⟨_, rfl⟩

/-- What the mark asks for is still to be done: the program stands where it has been sent, and waits for nothing. -/
def Owes (m : Mark) (i : Interpreter) : Prop :=
  ∀ p cursor label, m.Turns p cursor label →
    i.program = some p ∧ i.suspension = none ∧ p.Lands label cursor i.cursor

/-- From the one state to the other the interpreter passes these marks, each of which does what the one before it asks
for. -/
structure Passes (i : Interpreter) (ms : List Mark) (i' : Interpreter) : Prop where
  table : i'.table = i.table
  maxSteps : i'.maxSteps = i.maxSteps
  within : ∀ p cursor, .fetched p cursor ∈ ms → cursor ≤ p.length
  chain : ms.IsChain Mark.Leads
  first : ∀ m, i.Owes m → ∀ next ∈ ms.head?, m.Leads next
  last : ∀ m ∈ ms.getLast?, i'.Owes m
  owed : ms = [] → ∀ m, i.Owes m → i'.Owes m

namespace Passes

/-- Where there is no mark, what is owed stays owed. -/
theorem nil (table : i'.table = i.table) (maxSteps : i'.maxSteps = i.maxSteps) (owed : ∀ m, i.Owes m → i'.Owes m) :
    Passes i [] i' where
  table := table
  maxSteps := maxSteps
  within := nofun
  chain := .nil
  first := nofun
  last := nofun
  owed _ := owed

theorem refl (i : Interpreter) : Passes i [] i := nil rfl rfl fun _ owes => owes

theorem trans {ms ms' : List Mark} (head : Passes i ms i') (tail : Passes i' ms' i'') : Passes i (ms ++ ms') i'' where
  table := tail.table.trans head.table
  maxSteps := tail.maxSteps.trans head.maxSteps
  within p cursor member := (List.mem_append.mp member).elim (head.within p cursor) (tail.within p cursor)
  chain := List.isChain_append.mpr ⟨head.chain, tail.chain, fun m last => tail.first m (head.last m last)⟩
  first m owes next member := by
    cases ms with
    | nil => exact tail.first m (head.owed rfl m owes) next member
    | cons first rest => exact head.first m owes next member
  last m member := by
    rcases List.eq_nil_or_concat ms' with rfl | ⟨rest, final, rfl⟩
    · rw [List.append_nil] at member
      exact tail.owed rfl m (head.last m member)
    · refine tail.last m ?_
      simpa using member
  owed none m owes := by
    obtain ⟨rfl, rfl⟩ := List.append_eq_nil_iff.mp none
    exact tail.owed rfl m (head.owed rfl m owes)

end Passes

/-- What is owed stays owed where the program does not move. -/
theorem Owes.of_same {m : Mark} (owes : i.Owes m) (program : i'.program = i.program) (cursor : i'.cursor = i.cursor)
    (suspension : i'.suspension = i.suspension) : i'.Owes m := by
  intro p cursor' label turns
  obtain ⟨loaded, free, lands⟩ := owes p cursor' label turns
  exact ⟨program.trans loaded, suspension.trans free, cursor ▸ lands⟩

/-- Where the program waits, or where there is none, nothing is owed. -/
theorem Owes.of_none {m : Mark} (owes : i.Owes m) (none : i.program ≠ none → i.suspension ≠ none)
    (i' : Interpreter) : i'.Owes m := by
  intro p cursor label turns
  obtain ⟨loaded, free, -⟩ := owes p cursor label turns
  exact absurd free (none (by simp [loaded]))

/-! ### Carrying out instructions -/

theorem step_passes (standard : i.table = .standard) (loaded : i.program = some program)
    (free : i.suspension = none) (within : i.cursor ≤ program.length) (stage : Stage) (j : Journal) :
    Passes i [.fetched program i.cursor] (i.step stage j).interpreter where
  table := (step_voices standard stage j).table
  maxSteps := step_maxSteps stage i j
  within p cursor member := by
    cases List.mem_singleton.mp member
    exact within
  chain := List.isChain_singleton _
  first m owes next member := by
    obtain rfl : next = .fetched program i.cursor := (Option.mem_some_iff.mp member).symm
    intro p cursor label turns
    obtain ⟨held, -, lands⟩ := owes p cursor label turns
    obtain rfl : program = p := Option.some.inj (loaded.symm.trans held)
    exact ⟨i.cursor, lands, rfl⟩
  last m member := by
    obtain rfl : m = .fetched program i.cursor := (Option.mem_some_iff.mp member).symm
    intro p cursor label turns
    cases turns with
    | jump here =>
        obtain ⟨j', carried⟩ := step_of_jump standard loaded here stage j
        rw [carried]
        exact ⟨loaded, free, program.resolve_lands label i.cursor⟩
  owed := nofun

theorem run_passes (stage : Stage) (budget : Nat) {j : Journal} (poised : i.Poised j) (free : i.suspension = none)
    (running : i.isRunning = true) (standard : i.table = .standard) :
    Passes i (i.fetches stage budget j) (i.run stage budget j).2.1 := by
  induction budget generalizing i j with
  | zero => exact .refl i
  | succ budget ih =>
      obtain ⟨program, loaded⟩ := Option.isSome_iff_exists.mp running
      have passes := step_passes standard loaded free (poised.within program loaded).1 stage j
      have carried := step_poised stage poised free
      unfold fetches
      rw [loaded, run]
      dsimp only
      cases stepped : i.step stage j with
      | stop outcome i' j' =>
          rw [stepped] at passes
          exact passes
      | next i' j' =>
          rw [stepped] at passes carried
          exact passes.trans (ih carried.1 carried.2.1 carried.2.2 (passes.table.trans standard))

/-- A resumption that comes to fetch behind the last instruction ends the program. -/
theorem run_of_behind (stage : Stage) (budget : Nat) {p : Program} {cursor : Nat}
    (behind : p.instructions[cursor]? = none) {j : Journal} (fetched : .fetched p cursor ∈ i.fetches stage budget j) :
    (i.run stage budget j).1 = some (.finished []) ∧ (i.run stage budget j).2.1.isRunning = false := by
  induction budget generalizing i j with
  | zero => cases fetched
  | succ budget ih =>
      cases loaded : i.program with
      | none =>
          unfold fetches at fetched
          rw [loaded] at fetched
          cases fetched
      | some program =>
          unfold fetches at fetched
          rw [loaded] at fetched
          dsimp only at fetched
          rw [run]
          rcases List.mem_cons.mp fetched with here | later
          · obtain ⟨rfl, rfl⟩ : p = program ∧ cursor = i.cursor := by simpa using here
            have ends : i.step stage j = i.follow (.finish {}) j := by
              unfold step
              rw [loaded]
              dsimp only
              rw [behind]
            rw [ends]
            exact ⟨rfl, rfl⟩
          · cases stepped : i.step stage j with
            | stop outcome i' j' =>
                rw [stepped] at later
                cases later
            | next i' j' =>
                rw [stepped] at later
                exact ih later

/-! ### Calls -/

theorem settleSuspension_passes (elapsed : Duration) (i : Interpreter) (j : Journal) :
    Passes i [] (i.settleSuspension elapsed j).2.1 := by
  have nothing : i.suspension ≠ none → ∀ i' : Interpreter, ∀ m, i.Owes m → i'.Owes m :=
    fun waits i' m owes => owes.of_none (fun _ => waits) i'
  unfold settleSuspension
  split
  · exact .refl i
  · rename_i input
    split
    · exact .refl i
    · exact .nil rfl rfl (nothing (by simp [input]) _)
  · exact .refl i
  · rename_i timer
    split
    · exact .nil rfl rfl (nothing (by simp [timer]) _)
    · split <;> exact .nil rfl rfl (nothing (by simp [timer]) _)

theorem resume_passes (stage : Stage) (elapsed : Duration) {j : Journal} (poised : i.Poised j)
    (standard : i.table = .standard) : Passes i (i.fetchesAfter stage elapsed j) (i.resume stage elapsed j).2.1 := by
  have passes := settleSuspension_passes elapsed i j
  have settled := settleSuspension_settled elapsed poised
  unfold fetchesAfter resume
  split
  · rename_i running
    cases ended : i.settleSuspension elapsed j with
    | mk ready rest =>
        rw [ended] at passes settled
        cases ready with
        | true =>
            exact passes.trans (run_passes stage _ settled.poised (settled.free rfl) (settled.running.trans running)
              (passes.table.trans standard))
        | false => exact passes
  · exact .refl i

theorem resume_of_behind (stage : Stage) (elapsed : Duration) {p : Program} {cursor : Nat}
    (behind : p.instructions[cursor]? = none) {j : Journal}
    (fetched : .fetched p cursor ∈ i.fetchesAfter stage elapsed j) :
    (i.resume stage elapsed j).1 = some (.finished []) ∧ (i.resume stage elapsed j).2.1.isRunning = false := by
  unfold fetchesAfter at fetched
  unfold resume
  split
  · rename_i running
    rw [if_pos running] at fetched
    cases ended : i.settleSuspension elapsed j with
    | mk ready rest =>
        rw [ended] at fetched
        cases ready with
        | true => exact run_of_behind stage _ behind fetched
        | false => cases fetched
  · rename_i idle
    rw [if_neg idle] at fetched
    cases fetched

/-- A program that waits for nothing fetches where it stands as soon as it is resumed. -/
theorem fetchesAfter_of_free (loaded : i.program = some program) (free : i.suspension = none) (steps : 0 < i.maxSteps)
    (stage : Stage) (elapsed : Duration) (j : Journal) :
    ∃ later, i.fetchesAfter stage elapsed j = .fetched program i.cursor :: later := by
  have running : i.isRunning = true := by simp [isRunning, loaded]
  have settled : i.settleSuspension elapsed j = (true, i, j) := by
    unfold settleSuspension
    rw [free]
  obtain ⟨budget, some⟩ : ∃ budget, i.maxSteps = budget + 1 := ⟨i.maxSteps - 1, by omega⟩
  unfold fetchesAfter
  rw [if_pos running, settled]
  dsimp only
  rw [if_pos rfl, some, fetches, loaded]
  exact ⟨_, rfl⟩

theorem start_passes (program : Program) (i : Interpreter) (j : Journal) : Passes i [] (i.start program j).2.1 := by
  unfold start
  split
  · exact .refl i
  · rename_i idle
    split
    · exact .refl i
    · have none : i.program ≠ none → i.suspension ≠ none := by
        intro loaded
        exact absurd (Option.isSome_iff_ne_none.mpr loaded) idle
      exact .nil rfl rfl fun m owes => owes.of_none none _

/-- The option that is accepted, if one is. -/
theorem selectChoice_passes {index : Nat} {j j' : Journal} (poised : i.Poised j)
    (selected : i.selectChoice index j = .ok (i', j')) :
    ∃ program option, i.program = some program ∧ i.options?.bind (·[index]?) = some option ∧
      Passes i [.accepted program i.cursor option.target] i' := by
  unfold selectChoice at selected
  split at selected
  · cases selected
  · rename_i options offered
    split at selected
    · cases selected
    · rename_i option found
      have waits : i.suspension ≠ none := by simp [options?_eq_some offered]
      obtain ⟨program, loaded⟩ := poised.loaded waits
      rw [loaded] at selected
      cases selected
      refine ⟨program, option, loaded, by simp [offered, found], ?_⟩
      exact
        { table := rfl
          maxSteps := rfl
          within := by simp
          chain := List.isChain_singleton _
          first := by
            intro m owes next _ p cursor label turns
            obtain ⟨-, free, -⟩ := owes p cursor label turns
            exact absurd free waits
          last := by
            intro m member p cursor label turns
            obtain rfl : m = .accepted program i.cursor option.target := (Option.mem_some_iff.mp member).symm
            cases turns
            exact ⟨rfl, rfl, program.resolve_lands option.target i.cursor⟩
          owed := nofun }

theorem selectChoice_of_missing {index : Nat} {j : Journal} {error : SceneError}
    (refused : i.selectChoice index j = .error error) : i.options?.bind (·[index]?) = none := by
  unfold selectChoice at refused
  split at refused
  · simp [*]
  · split at refused
    · simp [*]
    · cases refused

end Interpreter

namespace Rehearsal

theorem perform_passes (stage : Stage) (call : Call) (keeps : call.KeepsTable) (r : Rehearsal)
    (poised : r.interpreter.Poised r.journal) (standard : r.interpreter.table = .standard) :
    r.interpreter.Passes (call.marks stage r) (call.perform stage r).interpreter := by
  cases call with
  | start program =>
      have passes := Interpreter.start_passes program r.interpreter r.journal
      dsimp only [Call.perform, Call.marks]
      split <;> (rename_i answered; rw [answered] at passes; exact passes)
  | resume elapsed => exact Interpreter.resume_passes stage elapsed poised standard
  | continueInput =>
      have passes : ∀ i', r.interpreter.continueInput = .ok i' → r.interpreter.Passes [] i' := by
        intro i' continued
        unfold Interpreter.continueInput at continued
        split at continued
        · cases continued
          exact .nil rfl rfl fun m owes => owes.of_same rfl rfl rfl
        · cases continued
      dsimp only [Call.perform, Call.marks]
      split
      · exact passes _ ‹_›
      · exact .refl _
  | selectChoice index =>
      dsimp only [Call.perform, Call.marks]
      cases selected : r.interpreter.selectChoice index r.journal with
      | ok result =>
          obtain ⟨program, option, loaded, found, passes⟩ := Interpreter.selectChoice_passes poised selected
          rw [loaded, found]
          exact passes
      | error error =>
          rw [Interpreter.selectChoice_of_missing selected]
          cases r.interpreter.program <;> exact .refl _
  | requestSkip => exact .nil rfl rfl fun m owes => owes.of_same rfl rfl rfl
  | takeEmitted => exact .nil rfl rfl fun m owes => owes.of_same rfl rfl rfl
  | setTable table => exact absurd keeps id

theorem rehearse_passes (stage : Stage) (calls : List Call) (keeps : ∀ call ∈ calls, call.KeepsTable) (r : Rehearsal)
    (poised : r.interpreter.Poised r.journal) (standard : r.interpreter.table = .standard) :
    r.interpreter.Passes (marks stage calls r) (rehearse stage calls r).interpreter := by
  induction calls generalizing r with
  | nil => exact .refl _
  | cons call calls ih =>
      have passes := perform_passes stage call (keeps call List.mem_cons_self) r poised standard
      exact passes.trans (ih (fun other member => keeps other (List.mem_cons_of_mem call member)) _
        (perform_poised stage call r poised) (passes.table.trans standard))

end Rehearsal

end Plotline
