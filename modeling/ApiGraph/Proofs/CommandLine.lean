import ApiGraph.CommandLine
import ApiGraph.CommandLine.FileTree

namespace ApiGraph.CommandLine

/-! # What commands do to files

A command is run here on a tree of files in memory. It reads what it is told to and saves the report
that it is asked for. No other file changes, whatever goes wrong on the way. -/

/-! ## Trees of files -/

namespace FileTree

variable {tree after : FileTree} {place start final : FilePlace} {path : String}

theorem held?_put_of_ne (entry : FileEntry) {other : FilePlace} (different : other ≠ place) :
    (tree.put place entry).held? other = tree.held? other := by
  have apart : (other == place) = false := beq_false_of_ne different
  simp [held?, put, List.lookup_cons, apart]

theorem held?_put (entry : FileEntry) (free : tree.held? place ≠ some .directory) :
    (tree.put place entry).held? place = some entry := by
  unfold held? at free ⊢
  split at free
  next => exact absurd rfl free
  next outside => simp [put, outside]

/-- A path leads through directories. So it leads where it did before something was put at a place
that is no directory. -/
theorem follow_put (entry : FileEntry) (free : tree.held? place ≠ some .directory)
    {parts : List (List Char)} (followed : tree.follow start parts = .ok final) :
    (tree.put place entry).follow start parts = .ok final := by
  induction parts generalizing start with
  | nil => exact followed
  | cons part parts induction =>
      unfold follow at followed ⊢
      split at followed
      next => cases followed
      next => cases followed
      next directory =>
        have different : start ≠ place := by
          rintro rfl
          exact free directory
        rw [held?_put_of_ne entry different, directory]
        dsimp only at followed ⊢
        split at followed
        next stays =>
          rw [if_pos stays]
          exact induction followed
        next moves =>
          rw [if_neg moves]
          split at followed
          next leaves =>
            rw [if_pos leaves]
            exact induction followed
          next enters =>
            rw [if_neg enters]
            split at followed
            next => cases followed
            next short =>
              rw [if_neg short]
              exact induction followed

theorem locate_put (entry : FileEntry) (free : tree.held? place ≠ some .directory)
    (located : tree.locate path = .ok final) :
    (tree.put place entry).locate path = .ok final := by
  by_cases long : pathLimit < path.utf8ByteSize
  · simp [locate, long] at located
  · simp only [locate, if_neg long] at located ⊢
    exact follow_put entry free located

/-- What a file is written with is where its path leads from then on, and nothing else changes. -/
theorem write_eq_ok {text : String} (written : tree.write path text = .ok after) :
    ∃ place, after.locate path = .ok place ∧
      after.held? place = some (.file text.toUTF8.toList) ∧
      ∀ other, other ≠ place → after.held? other = tree.held? other := by
  unfold write at written
  cases located : tree.locate path with
  | error fault =>
      rw [located] at written
      cases written
  | ok place =>
      rw [located] at written
      dsimp only [bind, Except.bind] at written
      split at written
      next => cases written
      next free =>
        cases written
        exact ⟨place, locate_put _ free located, held?_put _ free,
          fun other different => held?_put_of_ne _ different⟩

/-- A file that has been written is read as it was written. -/
theorem read_of_write {text : String} (written : tree.write path text = .ok after) :
    after.read path = some text.toUTF8.toList := by
  rcases write_eq_ok written with ⟨place, located, content, _⟩
  simp [read, find?, located, content]

/-- All that is there stays as it is. -/
def Keeps (before after : FileTree) : Prop :=
  ∀ place entry, before.held? place = some entry → after.held? place = some entry

theorem Keeps.refl (tree : FileTree) : Keeps tree tree := fun _ _ found => found

theorem Keeps.trans {first second third : FileTree} (earlier : Keeps first second)
    (later : Keeps second third) : Keeps first third :=
  fun place entry found => later place entry (earlier place entry found)

theorem keeps_of_makeDirectory (made : tree.makeDirectory path = .ok after) : Keeps tree after := by
  unfold makeDirectory at made
  cases located : tree.locate path with
  | error fault =>
      rw [located] at made
      cases made
  | ok place =>
      rw [located] at made
      dsimp only [bind, Except.bind] at made
      split at made
      next => cases made
      next free =>
        cases made
        intro other entry found
        have different : other ≠ place := by
          rintro rfl
          exact free (Option.isSome_iff_exists.mpr ⟨entry, found⟩)
        rw [held?_put_of_ne _ different, found]

/-- All that is there stays as it is, except at the place that a path leads to. -/
def KeepsBut (path : String) (before after : FileTree) : Prop :=
  ∀ place entry, before.held? place = some entry →
    after.held? place = some entry ∨ after.locate path = .ok place

end FileTree

/-! ## Actions -/

/-- How the files before an action, what comes of it and the files after it are related. -/
def Does {α : Type} (action : Action (StateM Session) α)
    (meaning : FileTree → Except String α → FileTree → Prop) : Prop :=
  ∀ session : Session,
    meaning session.files (action.run.run session).1 (action.run.run session).2.files

/-- An action that does nothing to the files. -/
abbrev Looks {α : Type} (action : Action (StateM Session) α) : Prop :=
  Does action fun before _ after => after = before

section Rules

variable {α β : Type}

theorem Does.mono {action : Action (StateM Session) α}
    {meaning other : FileTree → Except String α → FileTree → Prop} (does : Does action meaning)
    (weaker : ∀ before outcome after,
      meaning before outcome after → other before outcome after) : Does action other :=
  fun session => weaker _ _ _ (does session)

theorem Does.bind {action : Action (StateM Session) α} {next : α → Action (StateM Session) β}
    {first : FileTree → Except String α → FileTree → Prop}
    {second : α → FileTree → Except String β → FileTree → Prop}
    {whole : FileTree → Except String β → FileTree → Prop}
    (does : Does action first) (continues : ∀ value, Does (next value) (second value))
    (stops : ∀ before error after,
      first before (.error error) after → whole before (.error error) after)
    (joins : ∀ before value between outcome after, first before (.ok value) between →
      second value between outcome after → whole before outcome after) :
    Does (action >>= next) whole := by
  intro session
  have here := does session
  have run : (action >>= next).run.run session =
    ExceptT.bindCont next (action.run.run session).1 (action.run.run session).2 := rfl
  rcases outcome : action.run.run session with ⟨result, state⟩
  rw [outcome] at here run
  rw [run]
  cases result with
  | error error => exact stops _ _ _ here
  | ok value => exact joins _ _ _ _ _ here (continues value state)

/-- What goes on from an action that looks does what the rest does. -/
theorem Looks.bind {action : Action (StateM Session) α} {next : α → Action (StateM Session) β}
    {meaning : FileTree → Except String β → FileTree → Prop} (looks : Looks action)
    (continues : ∀ value, Does (next value) meaning)
    (stops : ∀ files error, meaning files (.error error) files) :
    Does (action >>= next) meaning := by
  refine Does.bind looks continues ?_ ?_
  · intro before error after same
    rw [same]
    exact stops before error
  · intro before value between outcome after same means
    exact same ▸ means

theorem Looks.result (value : α) : Looks (pure value : Action (StateM Session) α) := fun _ => rfl

theorem Looks.failure (message : String) : Looks (throw message : Action (StateM Session) α) :=
  fun _ => rfl

theorem Looks.andThen {action : Action (StateM Session) α} {next : α → Action (StateM Session) β}
    (looks : Looks action) (continues : ∀ value, Looks (next value)) : Looks (action >>= next) :=
  looks.bind continues fun _ _ => rfl

theorem Looks.forIn {action : α → Action (StateM Session) PUnit} (values : List α)
    (looks : ∀ value, Looks (action value)) :
    Looks (forIn values PUnit.unit fun value _ => do
      action value
      pure (.yield PUnit.unit)) := by
  induction values with
  | nil => exact .result _
  | cons value rest induction =>
      rw [List.forIn_cons]
      refine ((looks value).andThen fun _ => .result _).andThen fun step => ?_
      cases step with
      | done => exact .result _
      | yield => exact induction

/-- An action that does nothing to the files and gives what they hold. -/
def Finds (action : Action (StateM Session) α) (found : FileTree → α → Prop) : Prop :=
  Does action fun before outcome after =>
    after = before ∧ ∀ value, outcome = .ok value → found before value

theorem Finds.looks {action : Action (StateM Session) α} {found : FileTree → α → Prop}
    (finds : Finds action found) : Looks action :=
  finds.mono fun _ _ _ both => both.1

theorem Finds.bind {action : Action (StateM Session) α} {next : α → Action (StateM Session) β}
    {found : FileTree → α → Prop} {meaning : FileTree → Except String β → FileTree → Prop}
    (finds : Finds action found)
    (continues : ∀ value, Does (next value) fun before outcome after =>
      found before value → meaning before outcome after)
    (stops : ∀ files error, meaning files (.error error) files) :
    Does (action >>= next) meaning := by
  refine Does.bind finds continues ?_ ?_
  · intro before error after both
    rw [both.1]
    exact stops before error
  · intro before value between outcome after both means
    rw [both.1] at means
    exact means (both.2 value rfl)

/-- An action that leaves all that is there as it is. -/
abbrev Spares (action : Action (StateM Session) α) : Prop :=
  Does action fun before _ after => before.Keeps after

theorem Looks.spares {action : Action (StateM Session) α} (looks : Looks action) : Spares action :=
  looks.mono fun before _ _ same => same ▸ .refl before

theorem Spares.andThen {action : Action (StateM Session) α} {next : α → Action (StateM Session) β}
    (spares : Spares action) (continues : ∀ value, Spares (next value)) : Spares (action >>= next) :=
  Does.bind spares continues (fun _ _ _ kept => kept) fun _ _ _ _ _ earlier later =>
    earlier.trans later

end Rules

/-! ## The system -/

section System

variable (time : String) (colors : Option String)

theorem looks_printLine (line : String) : Looks ((Session.system time colors).printLine line) :=
  fun _ => rfl

theorem looks_printErrorLine (line : String) :
    Looks ((Session.system time colors).printErrorLine line) :=
  fun _ => rfl

/-- What a file is read as. -/
def FileTree.Holds {α : Type} (files : FileTree) (read : Source.Text → Except Source.Fault α)
    (path : String) (value : α) : Prop :=
  ∃ content, files.read path = some content ∧
    read ((Source.Format.ofPath path).source content) = .ok value

theorem finds_loadAs {α : Type} (read : Source.Text → Except Source.Fault α) (path : String) :
    Finds ((Session.system time colors).loadAs read path) fun files value =>
      files.Holds read path value := by
  have opened : Finds (liftM ((Session.system time colors).read path))
      fun files content? => files.read path = content? := by
    intro session
    refine ⟨rfl, fun value success => ?_⟩
    cases success
    rfl
  unfold System.loadAs
  refine opened.bind (fun content? => ?_) fun _ _ => ⟨rfl, fun _ failure => by cases failure⟩
  intro session content
  cases content? with
  | none => exact ⟨rfl, fun _ failure => by cases failure⟩
  | some octets =>
      dsimp only
      cases parsed : read ((Source.Format.ofPath path).source octets) with
      | error => exact ⟨rfl, fun _ failure => by cases failure⟩
      | ok value =>
          refine ⟨rfl, fun other success => ?_⟩
          cases success
          exact ⟨octets, content, parsed⟩

/-- The configuration of a command: that of its file, or else the default one. -/
def FileTree.HoldsConfig (files : FileTree) (path? : Option String) (config : Config) : Prop :=
  match path? with
  | none => config = {}
  | some path => files.Holds Config.ofSource path config

theorem finds_loadConfig (path? : Option String) :
    Finds ((Session.system time colors).loadConfig path?) fun files config =>
      files.HoldsConfig path? config := by
  cases path? with
  | none =>
      intro session
      refine ⟨rfl, fun value success => ?_⟩
      cases success
      rfl
  | some path => exact finds_loadAs time colors Config.ofSource path

theorem run_change (change : FileTree → Except FileFault FileTree) (session : Session) :
    (Session.change change).run session =
      match change session.files with
      | .ok files => (none, { session with files := files })
      | .error fault => (some fault, session) := rfl

/-- A change of the files, which is made unless there is a fault. -/
theorem does_change (change : FileTree → Except FileFault FileTree) :
    Does (liftM (Session.change change)) fun before outcome after =>
      (∃ fault, outcome = .ok (some fault) ∧ after = before) ∨
        outcome = .ok none ∧ change before = .ok after := by
  intro session
  have run : (liftM (Session.change change) : Action (StateM Session) _).run.run session =
      (.ok ((Session.change change).run session).1, ((Session.change change).run session).2) := rfl
  rw [run, run_change]
  cases change session.files with
  | error fault => exact .inl ⟨fault, rfl, rfl⟩
  | ok files => exact .inr ⟨rfl, rfl⟩

theorem spares_makeDirectory (path : String) :
    Spares (liftM ((Session.system time colors).makeDirectory path)) := by
  refine (does_change (·.makeDirectory path)).mono ?_
  intro before outcome after change
  rcases change with ⟨_, _, same⟩ | ⟨_, made⟩
  · exact same ▸ .refl _
  · exact FileTree.keeps_of_makeDirectory made

theorem spares_ensureDirectory (path : String) :
    Spares ((Session.system time colors).ensureDirectory path) := by
  unfold System.ensureDirectory
  refine (spares_makeDirectory time colors path).andThen fun fault? => ?_
  split
  · exact (Looks.result _).spares
  · refine Looks.spares (Looks.andThen (fun _ => rfl) fun found => ?_)
    split
    · exact .failure _
    · exact .result _

theorem spares_ensureDirectories (absolute : Bool) (parts : List (List Char)) :
    Spares ((Session.system time colors).ensureDirectories absolute parts) := by
  induction parts with
  | nil => exact (Looks.result _).spares
  | cons part outer induction =>
      unfold System.ensureDirectories
      refine (spares_makeDirectory time colors _).andThen fun fault? => ?_
      split
      · exact (Looks.result _).spares
      · split
        · exact induction.andThen fun _ => spares_ensureDirectory time colors _
        · refine Looks.spares (Looks.andThen (fun _ => rfl) fun found => ?_)
          split
          · exact .failure _
          · exact .result _

/-- A text that is written can be read where it was written, and nothing else that was there is
lost. -/
theorem does_write (path text message : String) :
    Does (do if (← liftM ((Session.system time colors).write path text)).isSome then throw message)
      fun before outcome after =>
        before.KeepsBut path after ∧
          (outcome = .ok () → after.read path = some text.toUTF8.toList) := by
  have told (fault? : Option FileFault) : Does
      (if fault?.isSome then throw message else pure ())
      fun before outcome after => after = before ∧ (outcome = .ok () → fault? = none) := by
    intro session
    cases fault? with
    | none => exact ⟨rfl, fun _ => rfl⟩
    | some fault => exact ⟨rfl, fun success => by cases success⟩
  refine (does_change (·.write path text)).bind told ?_ ?_
  · intro before error after changed
    rcases changed with ⟨_, failure, _⟩ | ⟨failure, _⟩ <;> cases failure
  · rintro before fault? between outcome after changed ⟨rfl, silent⟩
    rcases changed with ⟨fault, given, rfl⟩ | ⟨given, written⟩
    · cases given
      exact ⟨fun _ _ found => .inl found, fun success => by cases silent success⟩
    · rcases FileTree.write_eq_ok written with ⟨place, located, _, others⟩
      refine ⟨fun other entry found => ?_, fun _ => FileTree.read_of_write written⟩
      by_cases same : other = place
      · exact .inr (same ▸ located)
      · exact .inl ((others other same).trans found)

/-- The directories that a text is saved in may be new. -/
theorem does_save (path text : String) :
    Does ((Session.system time colors).save path text) fun before outcome after =>
      before.KeepsBut path after ∧
        (outcome = .ok () → after.read path = some text.toUTF8.toList) := by
  unfold System.save
  refine Does.bind (spares_ensureDirectories time colors _ _)
    (fun _ => does_write time colors path text _) ?_ ?_
  · intro before error after kept
    exact ⟨fun place entry found => .inl (kept place entry found), fun failure => by cases failure⟩
  · intro before _ between outcome after kept written
    exact ⟨fun place entry found => written.1 place entry (kept place entry found), written.2⟩

end System

/-! ## Commands -/

section Commands

variable (time : String) (colors : Option String)

theorem looks_buildFrom (input : String) (config : Config) :
    Looks (buildFrom (Session.system time colors) input config) := by
  unfold buildFrom
  refine (finds_loadAs time colors _ _).looks.andThen fun document => ?_
  split
  · exact .result _
  · exact .failure _

theorem looks_runListOperations (input : String) :
    Looks (runListOperations (Session.system time colors) input) :=
  (looks_buildFrom time colors input {}).andThen fun _ => looks_printLine time colors _

theorem looks_runListModules (input : String) (config : Option String) :
    Looks (runListModules (Session.system time colors) input config) := by
  unfold runListModules
  refine (finds_loadConfig time colors config).looks.andThen fun config => ?_
  refine (looks_buildFrom time colors input config).andThen fun result => ?_
  refine (looks_printLine time colors _).andThen fun _ => ?_
  split
  · exact looks_printLine time colors _
  · exact .result _

variable (style : Terminal.Style) (options : BuildOptions)

theorem looks_logLine (line : String) :
    Looks (logLine (Session.system time colors) options line) := by
  unfold logLine
  split
  · exact .result _
  · split
    · exact looks_printErrorLine time colors line
    · exact looks_printLine time colors line

theorem looks_logEvent (role : Terminal.Role) (message : String) :
    Looks (logEvent (Session.system time colors) style options role message) := by
  unfold logEvent
  exact Looks.andThen (fun _ => rfl) fun time => looks_logLine _ _ options _

theorem looks_logStatistics (statistics : Statistics) :
    Looks (logStatistics (Session.system time colors) style options statistics) := by
  unfold logStatistics
  refine (Looks.forIn _ fun line => looks_logLine time colors options _).andThen fun _ => ?_
  split
  · refine (Looks.forIn _ fun line => looks_logLine time colors options _).andThen fun _ => ?_
    split
    · refine (looks_printErrorLine time colors _).andThen fun _ => ?_
      exact (Looks.forIn _ fun _ => looks_printErrorLine time colors _).andThen fun _ => .result _
    · exact .result _
  · exact .result _

/-- What a build command is given: the document and the configuration that its files hold. -/
structure FileTree.Gives (files : FileTree) (options : BuildOptions) (document : Document)
    (config : Config) : Prop where
  document : files.Holds Document.ofSource options.input document
  config : files.HoldsConfig options.config config

/-- A build command does what its last part does, the writing of the report. -/
theorem does_runBuild {meaning : FileTree → Except String Unit → FileTree → Prop}
    (stops : ∀ files error, meaning files (.error error) files)
    (ends : ∀ before outcome after, meaning before (.ok ()) after → meaning before outcome after)
    (writes : ∀ document config result, build document config = .ok result →
      Does (writeReport (Session.system time colors) options result.report.text)
        fun before outcome after =>
          before.Gives options document config → meaning before outcome after) :
    Does (runBuild (Session.system time colors) style options) meaning := by
  have log := looks_logEvent time colors style options
  have closes : Looks (do
      logLine (Session.system time colors) options ""
      logEvent (Session.system time colors) style options .success
        "Successfully built type graph") :=
    (looks_logLine time colors options _).andThen fun _ => log _ _
  unfold runBuild
  refine (log _ _).bind (fun _ => ?_) stops
  split
  case' h_1 => refine (log _ _).bind (fun _ => ?_) stops
  all_goals
    refine (finds_loadAs time colors Document.ofSource _).bind (fun document => ?_) stops
    refine (finds_loadConfig time colors options.config).bind (fun config => ?_)
      fun files error _ => stops files error
    refine (log _ _).bind (fun _ => ?_) fun files error _ _ => stops files error
    cases built : build document config with
    | error error => exact fun _ _ _ => stops _ _
    | ok result =>
        refine (looks_logStatistics time colors style options _).bind (fun _ => ?_)
          fun files error _ _ => stops files error
        refine (log _ _).bind (fun _ => ?_) fun files error _ _ => stops files error
        refine (writes document config result built).bind (fun _ => closes) ?_ ?_
        · exact fun before error after means given holds => means ⟨holds, given⟩
        · rintro before value between outcome after means rfl given holds
          exact ends before outcome after (means ⟨holds, given⟩)

/-- Without an output path a build command leaves the files alone. -/
theorem looks_runBuild (unsaved : options.output = none) :
    Looks (runBuild (Session.system time colors) style options) := by
  refine does_runBuild time colors style options (fun _ _ => rfl) (fun _ _ _ same => same) ?_
  intro document config result _
  unfold writeReport
  rw [unsaved]
  exact (looks_printLine time colors _).mono fun _ _ _ same _ => same

/-- A build command that is asked to save its report touches nothing else that is there, and when it
succeeds, the report of the document can be read. -/
theorem does_runBuild_of_output {path : String} (saved : options.output = some path) :
    Does (runBuild (Session.system time colors) style options) fun before outcome after =>
      before.KeepsBut path after ∧ (outcome = .ok () → ∃ document config result,
        before.Gives options document config ∧ build document config = .ok result ∧
          after.read path = some result.report.text.toUTF8.toList) := by
  refine does_runBuild time colors style options ?_ ?_ ?_
  · intro files error
    exact ⟨fun place entry found => .inl found, fun success => by cases success⟩
  · intro before outcome after means
    exact ⟨means.1, fun _ => means.2 rfl⟩
  · intro document config result built
    unfold writeReport
    rw [saved]
    refine (does_save time colors path _).mono fun before outcome after saves gives => ?_
    exact ⟨saves.1, fun success => ⟨document, config, result, gives, built, saves.2 success⟩⟩

end Commands

/-! ## Runs of the program -/

section Runs

variable (time : String) (colors : Option String) {arguments : List String}
  {invocation : Invocation}

/-- A run of a command ends where the command ends, and is a success when the command is. -/
theorem run_eq (parsed : parse arguments = .run invocation) (session : Session) :
    let system := Session.system time colors
    let action := runCommand system (styleOf system invocation) invocation.command
    ((run system arguments).run session).2 = (action.run.run session).2 ∧
      (((run system arguments).run session).1 = .success →
        (action.run.run session).1 = .ok ()) := by
  intro system action
  rw [run, parsed, runRequest, StateT.run_bind]
  generalize action.run.run session = ended
  rcases ended with ⟨_ | _, after⟩
  · exact ⟨rfl, fun success => by cases success⟩
  · exact ⟨rfl, fun _ => rfl⟩

/-- Only a build command that is given an output path does anything to the files. -/
theorem run_keepsFiles
    (unsaved : ∀ invocation options, parse arguments = .run invocation →
      invocation.command = .build options → options.output = none) (session : Session) :
    ((run (Session.system time colors) arguments).run session).2.files = session.files := by
  cases parsed : parse arguments with
  | run invocation =>
      rw [(run_eq time colors parsed session).1]
      cases command : invocation.command with
      | build options =>
          exact looks_runBuild time colors _ options (unsaved _ _ parsed command) session
      | listOperations input => exact looks_runListOperations time colors input session
      | listModules input config => exact looks_runListModules time colors input config session
  | _ =>
      rw [run, parsed]
      rfl

/-- A run that is to save a report changes nothing else that is there, whatever comes of it. When it
succeeds, the document and the configuration could be read and built, and what is read where the
report was to go is the report. -/
theorem run_saves {options : BuildOptions} {path : String}
    (parsed : parse arguments = .run invocation) (command : invocation.command = .build options)
    (saved : options.output = some path) (session : Session) :
    let done := (run (Session.system time colors) arguments).run session
    session.files.KeepsBut path done.2.files ∧
      (done.1 = .success → ∃ document config result,
        session.files.Gives options document config ∧ build document config = .ok result ∧
          done.2.files.read path = some result.report.text.toUTF8.toList) := by
  intro done
  rcases run_eq time colors parsed session with ⟨ended, succeeded⟩
  rw [command] at ended succeeded
  have does := does_runBuild_of_output time colors
    (styleOf (Session.system time colors) invocation) options saved session
  refine ⟨?_, fun success => ?_⟩
  · rw [ended]
    exact does.1
  · rw [ended]
    exact does.2 (succeeded success)

end Runs

end ApiGraph.CommandLine
