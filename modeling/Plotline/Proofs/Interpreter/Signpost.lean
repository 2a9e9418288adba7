import Plotline.Proofs.Interpreter.Landing

/-!
Going by the table of labels. Wherever an interpreter that keeps an index fetches an instruction or accepts an option,
its table is the one that was made of the program when that started. So what the table says of first labels holds of
every jump and every option, however long the program has waited in between.
-/

namespace Plotline

/-- The mark, and the table that belongs to its program. -/
def Mark.indexed (m : Mark) : Mark × LabelTable := (m, m.program.labels.first)

namespace Interpreter.Indexed

/-- The marks of a run, in order, each with the table that the interpreter has there. -/
def fetches (stage : Stage) (budget : Nat) (x : Indexed) (j : Journal) : List (Mark × LabelTable) :=
  match budget with
  | 0 => []
  | budget + 1 =>
    match x.interpreter.program with
    | none => []
    | some program =>
      (.fetched program x.interpreter.cursor, x.labels) ::
        match x.step stage j with
        | .stop .. => []
        | .next x j => fetches stage budget x j

/-- The marks of a resumption, in order, each with its table. -/
def fetchesAfter (stage : Stage) (elapsed : Duration) (x : Indexed) (j : Journal) : List (Mark × LabelTable) :=
  if x.running then
    let (ready, x, j) := x.settleSuspension elapsed j
    if ready then x.fetches stage x.interpreter.maxSteps j else []
  else []

/-- The marks of a call, in order, each with its table. -/
def marks (stage : Stage) : Call → Indexed → Journal → List (Mark × LabelTable)
  | .resume elapsed, x, j => x.fetchesAfter stage elapsed j
  | .selectChoice index, x, _ =>
    match x.interpreter.program, x.interpreter.options?.bind (·[index]?) with
    | some program, some option => [(.accepted program x.interpreter.cursor option.target, x.labels)]
    | _, _ => []
  | _, _, _ => []

/-- The marks of the calls, in order, each with its table. -/
def marksAll (stage : Stage) : List Call → Indexed → Journal → List (Mark × LabelTable)
  | [], _, _ => []
  | call :: calls, x, j =>
    let (_, y, k) := x.perform stage call j
    x.marks stage call j ++ y.marksAll stage calls k

/-! ### The table belongs to the program -/

theorem fetches_eq (stage : Stage) (budget : Nat) (i : Interpreter) (j : Journal) :
    i.indexed.fetches stage budget j = (i.fetches stage budget j).map Mark.indexed := by
  induction budget generalizing i j with
  | zero => rfl
  | succ budget ih =>
      unfold fetches Interpreter.fetches
      rw [indexed_interpreter, step_eq]
      cases loaded : i.program with
      | none => rfl
      | some program =>
          have labels : i.indexed.labels = program.labels.first := congrArg Indexed.labels (indexed_loaded loaded)
          dsimp only
          rw [List.map_cons, labels]
          cases i.step stage j with
          | stop outcome i' j' => rfl
          | next i' j' => exact congrArg _ (ih i' j')

theorem fetchesAfter_eq (stage : Stage) (elapsed : Duration) (i : Interpreter) (j : Journal) :
    i.indexed.fetchesAfter stage elapsed j = (i.fetchesAfter stage elapsed j).map Mark.indexed := by
  unfold fetchesAfter Interpreter.fetchesAfter
  rw [settleSuspension_eq]
  change (if i.isRunning = true then _ else _) = _
  split
  · dsimp only
    split
    · exact fetches_eq stage _ _ _
    · rfl
  · rfl

theorem marks_eq (stage : Stage) (call : Call) (r : Rehearsal) :
    r.interpreter.indexed.marks stage call r.journal = (call.marks stage r).map Mark.indexed := by
  cases call with
  | resume elapsed => exact fetchesAfter_eq stage elapsed r.interpreter r.journal
  | selectChoice index =>
      dsimp only [marks, Call.marks]
      rw [indexed_interpreter]
      cases loaded : r.interpreter.program with
      | none => rfl
      | some program =>
          have labels : r.interpreter.indexed.labels = program.labels.first :=
            congrArg Indexed.labels (indexed_loaded loaded)
          rw [labels]
          cases r.interpreter.options?.bind (·[index]?) with
          | none => rfl
          | some option => rfl
  | _ => rfl

theorem marksAll_eq (stage : Stage) (calls : List Call) (r : Rehearsal) :
    r.interpreter.indexed.marksAll stage calls r.journal = (Plotline.marks stage calls r).map Mark.indexed := by
  induction calls generalizing r with
  | nil => rfl
  | cons call calls ih =>
      rw [marksAll, Plotline.marks, perform_eq, marks_eq, List.map_append]
      exact congrArg _ (ih (call.perform stage r))

private theorem map_fst_indexed (ms : List Mark) : (ms.map Mark.indexed).map Prod.fst = ms := by
  simp [Mark.indexed, Function.comp_def]

/-- The table of labels leads to the first label of each name and lists the others in order, and in every run under the
usual command table the table that the interpreter goes by is the one of its program: at every instruction that is
fetched, at every option that is accepted, and after the run. So the instruction that is fetched after a jump or an
accepted option is the one at the first label, or else the next one. Nothing is fetched beyond the end, and what is
fetched just behind the last instruction ends the program. -/
theorem labels_lead_to_first (stage : Stage) (settings : InterpreterSettings) (calls : List Call)
    (keeps : ∀ call ∈ calls, call.KeepsTable) :
    let trail := (ofSettings settings .standard).marksAll stage calls []
    let (_, x, j) := (ofSettings settings .standard).performAll stage calls []
    (∀ p : Program, p.Tabulated) ∧
    (∀ stop ∈ trail, stop.2 = stop.1.program.labels.first) ∧
    (∀ p, x.interpreter.program = some p → x.labels = p.labels.first) ∧
    (trail.map Prod.fst).IsChain Mark.Leads ∧
    (∀ p cursor, .fetched p cursor ∈ trail.map Prod.fst → cursor ≤ p.length) ∧
    ∀ elapsed,
      let next := (x.marks stage (.resume elapsed) j).map Prod.fst
      let (answer, y, _) := x.perform stage (.resume elapsed) j
      (∀ m ∈ (trail.map Prod.fst).getLast?, ∀ p cursor label, m.Turns p cursor label →
        ∃ target later, p.Lands label cursor target ∧ next = .fetched p target :: later) ∧
      ∀ p cursor, .fetched p cursor ∈ next → p.instructions[cursor]? = none →
        cursor = p.length ∧ answer = .outcome (some (.finished [])) ∧ y.running = false := by
  let start := Rehearsal.ofSettings settings .standard
  let r := rehearse stage calls start
  have passes : start.interpreter.Passes (Plotline.marks stage calls start) r.interpreter :=
    Rehearsal.rehearse_passes stage calls keeps start (Rehearsal.ofSettings_poised settings .standard) rfl
  have poised : r.interpreter.Poised r.journal := Rehearsal.rehearse_poised stage settings .standard calls
  have steps : 0 < r.interpreter.maxSteps := by
    rw [passes.maxSteps]
    exact Nat.lt_of_lt_of_le Nat.zero_lt_one (Nat.le_max_left 1 settings.maxSteps)
  have trail : (ofSettings settings .standard).marksAll stage calls [] =
      (Plotline.marks stage calls start).map Mark.indexed := marksAll_eq stage calls start
  have run : (ofSettings settings .standard).performAll stage calls [] =
      (answers stage calls start, r.interpreter.indexed, r.journal) := performAll_eq stage calls start
  rw [trail, run]
  dsimp only
  rw [map_fst_indexed]
  refine ⟨Program.labels_tabulated, ?_, ?_, passes.chain, passes.within, ?_⟩
  · intro stop member
    obtain ⟨m, -, rfl⟩ := List.mem_map.mp member
    rfl
  · intro p loaded
    exact congrArg Indexed.labels (indexed_loaded loaded)
  · intro elapsed
    rw [marks_eq stage (.resume elapsed) r, map_fst_indexed, perform_eq stage (.resume elapsed) r]
    constructor
    · intro m last p cursor label turns
      obtain ⟨loaded, free, lands⟩ := passes.last m last p cursor label turns
      obtain ⟨later, fetched⟩ := Interpreter.fetchesAfter_of_free loaded free steps stage elapsed r.journal
      exact ⟨_, later, lands, fetched⟩
    · intro p cursor fetched behind
      have next := Interpreter.resume_passes stage elapsed poised passes.table
      have within : cursor ≤ p.length := next.within p cursor fetched
      have beyond : p.length ≤ cursor := List.getElem?_eq_none_iff.mp behind
      obtain ⟨ended, idle⟩ := Interpreter.resume_of_behind stage elapsed behind fetched
      exact ⟨Nat.le_antisymm within beyond, congrArg Call.Answer.outcome ended, idle⟩

/-- The gate is met twice, and one way leads nowhere. -/
def maze : Program where
  instructions :=
    [.jump ⟨"gate"⟩, .label ⟨"yard"⟩, .label ⟨"gate"⟩, .jump ⟨"fork"⟩, .label ⟨"gate"⟩, .label ⟨"fork"⟩,
      .choice none [⟨"Back", ⟨"yard"⟩⟩, ⟨"On", ⟨"exit"⟩⟩]]

/-- One step at a time through the maze, and out of it by the way that leads nowhere. -/
def way : List Call :=
  [.start maze, .resume 0, .resume 0, .resume 0, .resume 0, .resume 0, .selectChoice 1, .requestSkip]

theorem maze_leads_out :
    let start := ofSettings ⟨.ofNat 2, 1⟩ .standard
    let trail := (start.marksAll .instant way []).map Prod.fst
    let (_, x, j) := start.performAll .instant way []
    trail =
        [.fetched maze 0, .fetched maze 2, .fetched maze 3, .fetched maze 5, .fetched maze 6,
          .accepted maze 6 ⟨"exit"⟩] ∧
      trail.IsChain Mark.Leads ∧
      x.labels = [(⟨"yard"⟩, 1), (⟨"gate"⟩, 2), (⟨"fork"⟩, 5)] ∧
      (∃ target later, maze.Lands ⟨"exit"⟩ 6 target ∧
        (x.marks .instant (.resume 0) j).map Prod.fst = .fetched maze target :: later) ∧
      (x.perform .instant (.resume 0) j).1 = .outcome (some (.finished [])) := by
  have told : ((ofSettings ⟨.ofNat 2, 1⟩ .standard).marksAll .instant way []).map Prod.fst =
      [.fetched maze 0, .fetched maze 2, .fetched maze 3, .fetched maze 5, .fetched maze 6,
        .accepted maze 6 ⟨"exit"⟩] := by
    decide +kernel
  have keeps : ∀ call ∈ way, call.KeepsTable := by simp [way, Call.KeepsTable]
  obtain ⟨-, -, table, chain, -, next⟩ := labels_lead_to_first .instant ⟨.ofNat 2, 1⟩ way keeps
  obtain ⟨landed, ended⟩ := next 0
  have last : .accepted maze 6 ⟨"exit"⟩ ∈
      (((ofSettings ⟨.ofNat 2, 1⟩ .standard).marksAll .instant way []).map Prod.fst).getLast? := by
    rw [told]
    rfl
  refine ⟨told, chain, ?_, landed _ last maze 6 ⟨"exit"⟩ .option, (ended maze 7 (by decide +kernel) rfl).2.1⟩
  exact (table maze (by decide +kernel)).trans (by decide +kernel)

end Interpreter.Indexed

end Plotline
