import Adventure.CommandLine.Run
import Adventure.Proofs.Files.Writing
import Adventure.Proofs.Game.RoundTrip

/-!
# What commands leave behind

To compile a project puts out the text of its game and nothing else, also where lints make the
command fail. To lint a project only reports, and it reports the same.

* `runOn_compile`, `runOn_lint` : what a command leaves behind after its project is compiled.
* `leavesBehind_run` : what the two commands leave behind for the same project.
-/

namespace Adventure.CommandLine

open Files

variable {files : Tree} {dir : String} {out : Option String} {pretty deny : Bool}
  {game : Game.Data} {lints : List Game.Lint} {o : Outcome} {emojis : Markdown.Emojis}

namespace Outcome

/-! ### Output -/

/-- The text is all that the command has put out: as a line on the standard output, or in the file
`out`. -/
def Emits (o : Outcome) : Option String → String → Prop
  | none,      text => o.output = text ++ "\n" ∧ o.written = none
  | some path, text => o.output = "" ∧ o.written = some (path, text)

/-- Puts out a text: as a line on the standard output, or in the file `out`. -/
def emit (o : Outcome) (out : Option String) (text : String) : Outcome :=
  match out with
  | none      => { o with output := text ++ "\n" }
  | some path => { o with written := some (path, text) }

/-- The files after the command. -/
def filesAfter (o : Outcome) (files : Tree) : Except Problem Tree :=
  match o.written with
  | none              => .ok files
  | some (path, text) => files.writeText path text.toList

@[simp] lemma status_emit (out : Option String) (text : String) :
    (o.emit out text).status = o.status := by
  cases out <;> rfl

@[simp] lemma errors_emit (out : Option String) (text : String) :
    (o.emit out text).errors = o.errors := by
  cases out <;> rfl

lemma emits_emit_iff (houtput : o.output = "") (hwritten : o.written = none) {text text' : String} :
    (o.emit out text).Emits out text' ↔ text = text' := by
  cases out <;> simp [emit, Emits, houtput, hwritten]

/-- The empty output is no line. -/
lemma not_emits (houtput : o.output = "") (hwritten : o.written = none) (text : String) :
    ¬ o.Emits out text := by
  cases out with
  | none =>
    rintro ⟨h, -⟩
    rw [houtput, eq_comm, String.append_eq_empty_iff] at h
    exact absurd h.2 (by decide)
  | some path =>
    rintro ⟨-, h⟩
    rw [hwritten] at h
    cases h

/-! ### Denied warnings -/

/-- The report of a command that fails for its warnings. -/
def denialText (deny : Bool) (lints : List Game.Lint) : String :=
  if deny = true ∧ lints ≠ [] then
    failureText (toString lints.length ++ " lint(s) reported and --deny-warnings is set") []
  else ""

/-- Lints change the status and the report of a command, and nothing that it puts out. -/
lemma deny_eq (o : Outcome) (deny : Bool) (lints : List Game.Lint) :
    o.deny deny lints =
      { o with
        status := if deny = true ∧ lints ≠ [] then failureStatus else o.status
        errors := o.errors ++ denialText deny lints } := by
  by_cases h : deny = true ∧ lints ≠ []
  · simp [Outcome.deny, denialText, fail, h]
  · have hdeny : (deny && !lints.isEmpty) = false := by
      cases deny <;> simp_all
    simp [Outcome.deny, denialText, h, hdeny]

@[simp] lemma output_deny (o : Outcome) (deny : Bool) (lints : List Game.Lint) :
    (o.deny deny lints).output = o.output := by
  rw [deny_eq]

@[simp] lemma written_deny (o : Outcome) (deny : Bool) (lints : List Game.Lint) :
    (o.deny deny lints).written = o.written := by
  rw [deny_eq]

lemma emits_deny_iff {text : String} : (o.deny deny lints).Emits out text ↔ o.Emits out text := by
  cases out <;> simp [Emits]

/-- Only denied warnings make a command fail that has gone well so far. -/
lemma status_deny_eq_zero_iff (h : o.status = 0) :
    (o.deny deny lints).status = 0 ↔ deny = false ∨ lints = [] := by
  rw [deny_eq]
  dsimp only
  split_ifs with hdeny
  · simp [failureStatus, hdeny]
  · cases deny <;> simp_all

end Outcome

/-! ### Projects that compile -/

/-- What a command has left behind that has only reported lints. -/
def reported (lints : List Game.Lint) : Outcome :=
  { errors := warningText lints }

lemma runOn_lint (files : Tree) (game : Game.Data) (dir : String) (deny : Bool) :
    ∃ output, runOn files game (.lint dir deny) =
      { reported game.lints with output }.deny deny game.lints :=
  ⟨_, rfl⟩

/-- A game that is compiled is put out whole, whatever its lints. -/
lemma runOn_compile (hout : ∀ path ∈ out, files.IsWritable path) (game : Game.Data) (dir : String)
    (pretty deny : Bool) :
    runOn files game (.compile dir out pretty deny) =
      ((reported game.lints).emit out (gameText pretty game)).deny deny game.lints := by
  cases out with
  | none => rfl
  | some path =>
    obtain ⟨files', hfiles'⟩ := (hout path rfl).exists_writeText (gameText pretty game).toList
    simp only [runOn, hfiles']
    rfl

lemma run_of_ok (command : Command)
    (h : (Project.compile files command.dir emojis).result = .ok game) :
    run files command emojis = runOn files game command := by
  unfold run
  rw [h]

lemma run_compile_of_ok (hout : ∀ path ∈ out, files.IsWritable path)
    (h : (Project.compile files dir emojis).result = .ok game) (pretty deny : Bool) :
    run files (.compile dir out pretty deny) emojis =
      ((reported game.lints).emit out (gameText pretty game)).deny deny game.lints :=
  (run_of_ok (.compile dir out pretty deny) h).trans (runOn_compile hout game dir pretty deny)

lemma run_lint_of_ok (h : (Project.compile files dir emojis).result = .ok game) (deny : Bool) :
    ∃ output, run files (.lint dir deny) emojis =
      { reported game.lints with output }.deny deny game.lints := by
  obtain ⟨output, hlint⟩ := runOn_lint files game dir deny
  exact ⟨output, (run_of_ok (.lint dir deny) h).trans hlint⟩

/-! ### Projects that do not compile -/

/-- What a command has left behind whose project does not compile. -/
def rejected (dir : String) (e : Project.Defect) : Outcome :=
  ({} : Outcome).fail ("while compiling " ++ dir) e.trace

lemma run_of_error (command : Command) {e : Project.Defect}
    (h : (Project.compile files command.dir emojis).result = .error e) :
    run files command emojis = rejected command.dir e := by
  unfold run
  rw [h]
  rfl

/-! ### Both commands -/

/-- What the commands to compile and to lint a project leave behind. -/
structure LeavesBehind (files : Tree) (out : Option String) (pretty deny : Bool)
    (compiled : Except Project.Defect Game.Data) (compile lint : Outcome) : Prop where
  /-- The text of the game is put out if there is a game, and only that text. -/
  emits_iff : ∀ text, compile.Emits out text ↔
    ∃ game, compiled = .ok game ∧ text = gameText pretty game
  /-- The game can be read back from the text. -/
  ofText_eq : ∀ game, compiled = .ok game →
    Game.Data.ofText (gameText pretty game).toList = .ok game
  /-- The text is found in the file that was written, and no other file has changed. -/
  readText_eq : ∀ game, compiled = .ok game → ∀ path ∈ out,
    ∃ files', compile.filesAfter files = .ok files' ∧
      files'.readText path = .ok (gameText pretty game).toList ∧
      ∀ path' text', files'.resolve path' ≠ files'.resolve path →
        files.readText path' = .ok text' → files'.readText path' = .ok text'
  /-- Nothing is put out if there is no game. -/
  output_eq : ∀ e, compiled = .error e → compile.output = "" ∧ compile.written = none
  /-- The command succeeds if there is a game without lints, or with lints that are not denied. -/
  status_eq_zero_iff : compile.status = 0 ↔
    ∃ game, compiled = .ok game ∧ (deny = false ∨ game.lints = [])
  /-- A warning is reported for each lint, and then the failure if there is one. -/
  errors_eq : ∀ game, compiled = .ok game →
    compile.errors = String.join (game.lints.map fun l => "warning: " ++ l.message ++ "\n") ++
      Outcome.denialText deny game.lints
  /-- To lint a project writes no file, reports the same and fails in the same cases. -/
  lint_eq : lint.written = none ∧ lint.errors = compile.errors ∧ lint.status = compile.status

/-- Both commands report the same lints. The one that compiles puts out the game, and the other one
leaves all files as they are. -/
lemma leavesBehind_of_ok (hout : ∀ path ∈ out, files.IsWritable path)
    (hgame : game.HasPositiveAmounts) (pretty deny : Bool) (output : String) :
    LeavesBehind files out pretty deny (.ok game)
      (((reported game.lints).emit out (gameText pretty game)).deny deny game.lints)
      ({ reported game.lints with output }.deny deny game.lints) where
  emits_iff text := by
    rw [Outcome.emits_deny_iff, Outcome.emits_emit_iff rfl rfl]
    simp [eq_comm]
  ofText_eq game' h := by
    obtain rfl := Except.ok.inj h
    exact Game.Data.ofText_gameText_of_hasPositiveAmounts hgame pretty
  readText_eq game' h path hpath := by
    obtain rfl := Except.ok.inj h
    obtain rfl := Option.mem_def.1 hpath
    obtain ⟨files', hfiles'⟩ := (hout path rfl).exists_writeText (gameText pretty game).toList
    refine ⟨files', ?_, Tree.readText_writeText hfiles', fun path' text' hne hread =>
      Tree.readText_writeText_of_ne hfiles' hne hread⟩
    rw [Outcome.filesAfter, Outcome.written_deny]
    exact hfiles'
  output_eq e h := nomatch h
  status_eq_zero_iff := by
    rw [Outcome.status_deny_eq_zero_iff (Outcome.status_emit out _)]
    simp
  errors_eq game' h := by
    obtain rfl := Except.ok.inj h
    rw [Outcome.deny_eq]
    simp [reported, warningText]
  lint_eq := by
    rw [Outcome.deny_eq, Outcome.deny_eq]
    simp [reported]

/-- Both commands report the same defect, and put out nothing. -/
lemma leavesBehind_of_error (files : Tree) (out : Option String) (pretty deny : Bool)
    (dir : String) (e : Project.Defect) :
    LeavesBehind files out pretty deny (.error e) (rejected dir e) (rejected dir e) where
  emits_iff text := by simpa using Outcome.not_emits rfl rfl text
  ofText_eq game h := nomatch h
  readText_eq game h := nomatch h
  output_eq _ _ := ⟨rfl, rfl⟩
  status_eq_zero_iff := by simp [rejected, Outcome.fail, failureStatus]
  errors_eq game h := nomatch h
  lint_eq := ⟨rfl, rfl, rfl⟩

/-- To compile a project puts out the text of its game if and only if the project compiles, with or
without lints, and to lint it reports the same and fails in the same cases. -/
theorem leavesBehind_run (emojis : Markdown.Emojis) (hout : ∀ path ∈ out, files.IsWritable path)
    (dir : String) (pretty deny : Bool) :
    LeavesBehind files out pretty deny (Project.compile files dir emojis).result
      (run files (.compile dir out pretty deny) emojis) (run files (.lint dir deny) emojis) := by
  cases h : (Project.compile files dir emojis).result with
  | error e =>
    rw [run_of_error (.compile dir out pretty deny) h, run_of_error (.lint dir deny) h]
    exact leavesBehind_of_error files out pretty deny dir e
  | ok game =>
    obtain ⟨output, hlint⟩ := run_lint_of_ok h deny
    rw [run_compile_of_ok hout h pretty deny, hlint]
    exact leavesBehind_of_ok hout (Project.hasPositiveAmounts_of_compile h) pretty deny output

/-- An exit that leads nowhere, where warnings are denied: the file is written all the same. -/
theorem leavesBehind_run_attic :
    let text := "\n".intercalate ["---", "north: attic", "---", "x"]
    let files : Tree := .directory [("rooms", .directory [("origin.md", .file text.toList)])]
    let compile := run files (.compile "" (some "game.json") true true)
    let lint := run files (.lint "" true)
    ∃ game : Game.Data, game.lints = [.missingRoom "origin" .north "attic"] ∧
      compile.written = some ("game.json", gameText true game) ∧ compile.status ≠ 0 ∧
      lint.written = none ∧ lint.status ≠ 0 := by
  intro text files compile lint
  have hout : ∀ path ∈ some "game.json", files.IsWritable path := by
    rintro path ⟨⟩
    exact ⟨[], _, rfl⟩
  have hlints : ((Project.compile files "").result.toOption.map Game.Data.lints) =
      some [.missingRoom "origin" .north "attic"] := by decide +kernel
  obtain ⟨game, hgame, hgamelints⟩ := Option.map_eq_some_iff.1 hlints
  have hcompiled : (Project.compile files "").result = .ok game := by
    cases h : (Project.compile files "").result with
    | error e => simp [h, Except.toOption] at hgame
    | ok game' => simpa [h, Except.toOption] using hgame
  have hleaves := leavesBehind_run Markdown.knownEmojis hout "" true true
  have hstatus : compile.status ≠ 0 := by
    rw [Ne, hleaves.status_eq_zero_iff, hcompiled]
    simp [hgamelints]
  obtain ⟨hwritten, -, heq⟩ := hleaves.lint_eq
  refine ⟨game, hgamelints, ?_, hstatus, hwritten, heq ▸ hstatus⟩
  exact ((hleaves.emits_iff _).2 ⟨game, hcompiled, rfl⟩).2

end Adventure.CommandLine
