import PageAssets.CommandLine.Grammar

/-! What reading a command line leaves of its options. A path that is given is not empty, and silence comes
and stays. Main statement: silence in front of a command line that goes without changes nothing else in how
it is understood. -/

namespace PageAssets.CommandLine
open Files Environment

namespace Given

/-- What reading on may do to the options: a path that is not an empty one is taken in, and silence is asked
for. -/
structure Grows (given next : Given) : Prop where
  config : next.config = given.config ∨ ∃ path, next.config = some path ∧ path.isEmpty = false
  webDir : next.webDir = given.webDir ∨ ∃ path, next.webDir = some path ∧ path.isEmpty = false
  silent : given.silent = true → next.silent = true

def hushed (given : Given) : Given := { given with silent := true }

variable {given between next : Given}

theorem Grows.refl (given : Given) : Grows given given := ⟨.inl rfl, .inl rfl, id⟩

theorem Grows.trans (first : Grows given between) (second : Grows between next) : Grows given next where
  config := second.config.elim (fun same => same ▸ first.config) .inr
  webDir := second.webDir.elim (fun same => same ▸ first.webDir) .inr
  silent := second.silent ∘ first.silent

theorem pathArgument?_eq_some {text : String} {path : FilePath} (taken : pathArgument? text = some path) :
    path.isEmpty = false := by
  rw [pathArgument?] at taken
  split at taken
  next => cases taken
  next visible =>
    cases taken
    exact eq_false_of_ne_true visible

/-- An option that is not there yet is read. -/
theorem some_of_unless {α β : Type} {given : Prop} [Decidable given] {read : Option α} {take : α → β} {taken : β}
    (done : (if given then none else read.map take) = some taken) :
    ¬ given ∧ ∃ value, read = some value ∧ take value = taken := by
  split at done
  next => cases done
  next missing => exact ⟨missing, Option.map_eq_some_iff.mp done⟩

theorem grows_of_take? {key : OptionKey} {value : String} (taken : given.take? key value = some next) :
    Grows given next := by
  cases key with
  | config =>
    obtain ⟨-, path, read, rfl⟩ := some_of_unless taken
    exact ⟨.inr ⟨path, rfl, pathArgument?_eq_some read⟩, .inl rfl, id⟩
  | logLevel =>
    obtain ⟨-, level, -, rfl⟩ := some_of_unless taken
    exact ⟨.inl rfl, .inl rfl, id⟩
  | webDir =>
    obtain ⟨-, path, read, rfl⟩ := some_of_unless taken
    exact ⟨.inl rfl, .inr ⟨path, rfl, pathArgument?_eq_some read⟩, id⟩
  | help | silent | version => cases taken

/-- The value of an option has nothing to do with silence. -/
theorem take?_hushed {key : OptionKey} {value : String} (taken : given.take? key value = some next) :
    given.hushed.take? key value = some next.hushed := by
  cases key with
  | config | logLevel | webDir =>
    obtain ⟨missing, found, read, rfl⟩ := some_of_unless taken
    simp only [take?, hushed, if_neg missing, read, Option.map_some]
  | help | silent | version => cases taken

theorem hush?_eq_some (hush : given.hush? = some next) : next = given.hushed := by
  rw [hush?] at hush
  split at hush
  next => cases hush
  next => exact (Option.some.inj hush).symm

theorem grows_hushed (given : Given) : Grows given given.hushed := ⟨.inl rfl, .inl rfl, fun _ => rfl⟩

end Given

section Reading
open Given
variable {scope : Scope} {given next : Given} {pending waiting : Option OptionKey} {loud quiet : Option Reading}

/-- What comes of options that are read, and beside it what comes of the same ones behind a call for
silence. -/
structure Follows (given : Given) (loud quiet : Option Reading) : Prop where
  grows : ∀ {next waiting}, loud = some (.options next waiting) → Grows given next
  hushed : ∀ {next waiting}, loud = some (.options next waiting) → next.silent = false →
    quiet = some (.options next.hushed waiting)
  word : loud ≠ some .word

namespace Follows

theorem none : Follows given none quiet := ⟨nofun, nofun, nofun⟩

theorem help : Follows given (some .help) quiet := ⟨nofun, nofun, nofun⟩

theorem version : Follows given (some .version) quiet := ⟨nofun, nofun, nofun⟩

theorem options (waiting : Option OptionKey) :
    Follows given (some (.options given waiting)) (some (.options given.hushed waiting)) := by
  refine ⟨?_, ?_, nofun⟩
  · rintro _ _ ⟨⟩
    exact .refl given
  · rintro _ _ ⟨⟩ _
    rfl

theorem take (key : OptionKey) (value : String) :
    Follows given ((given.take? key value).map (.options · .none))
      ((given.hushed.take? key value).map (.options · .none)) := by
  cases taken : given.take? key value with
  | none => exact .none
  | some next =>
    rw [take?_hushed taken]
    refine ⟨?_, ?_, nofun⟩
    · rintro _ _ ⟨⟩
      exact grows_of_take? taken
    · rintro _ _ ⟨⟩ _
      rfl

/-- Silence that is asked for shows in all that comes of what stands behind it. -/
theorem hush {read : Given → Option Reading} (further : Follows given.hushed (read given.hushed) quiet)
    (other : Option Reading) : Follows given (given.hush?.bind read) other := by
  cases asked : given.hush? with
  | none => exact .none
  | some hushed =>
    cases hush?_eq_some asked
    refine ⟨fun same => (grows_hushed given).trans (further.grows same), ?_, further.word⟩
    intro next waiting same silent
    rw [(further.grows same).silent rfl] at silent
    cases silent

end Follows

theorem follows_readShort (text : List Char) :
    Follows given (readShort scope given text) (readShort scope given.hushed text) := by
  induction text generalizing given with
  | nil => exact .options none
  | cons c rest ih =>
    rw [readShort, readShort]
    cases shortOption? scope c with
    | none => exact .none
    | some key =>
      cases key with
      | help => exact .help
      | version => exact .version
      | silent => exact .hush ih _
      | config | logLevel | webDir =>
        dsimp only
        split
        · exact .options _
        · exact .take _ _
        · exact .take _ _

theorem follows_readLong (text : List Char) :
    Follows given (readLong scope given text) (readLong scope given.hushed text) := by
  rw [readLong, readLong]
  split
  next => exact .none
  next => exact .help
  next => exact .version
  next =>
    rw [Option.map_eq_bind]
    exact .hush (.options none) _
  next => exact .none
  next => exact .none
  next => exact .none
  next => exact .options _
  next => exact .take _ _

/-- One argument is a word or the end of the options, whatever has been read of them, or is read with them. -/
theorem readArgument_cases (scope : Scope) (given : Given) (pending : Option OptionKey) (argument : String) :
    (∀ other, readArgument scope other pending argument = some .word) ∨
      (∀ other, readArgument scope other pending argument = some .endOfOptions) ∨
      Follows given (readArgument scope given pending argument)
        (readArgument scope given.hushed pending argument) := by
  unfold readArgument
  split
  next => exact .inr (.inr (.take _ _))
  next => exact .inr (.inr .none)
  next => exact .inl fun _ => rfl
  next => exact .inr (.inl fun _ => rfl)
  next => exact .inr (.inr (follows_readLong _))
  next => exact .inr (.inr (follows_readShort _))

theorem follows_of_options {argument : String}
    (read : readArgument scope given pending argument = some (.options next waiting)) :
    Follows given (some (.options next waiting)) (readArgument scope given.hushed pending argument) := by
  rcases readArgument_cases scope given pending argument with word | ending | follows
  · cases read.symm.trans (word given)
  · cases read.symm.trans (ending given)
  · rwa [read] at follows

/-- A word is one whatever the options say. -/
theorem readArgument_word {argument : String} (read : readArgument scope given pending argument = some .word)
    (other : Given) : readArgument scope other pending argument = some .word := by
  rcases readArgument_cases scope given pending argument with word | ending | follows
  · exact word other
  · cases read.symm.trans (ending given)
  · exact absurd read follows.word

/-- All arguments behind a command's name. -/
theorem grows_of_readArguments {arguments words : List String}
    (read : readArguments scope given pending arguments = some (.full next words)) : Grows given next := by
  induction arguments generalizing given pending words with
  | nil =>
    rw [readArguments] at read
    split at read
    next => cases read
    next =>
      cases read
      exact .refl _
  | cons argument rest ih =>
    rw [readArguments] at read
    split at read
    next step => exact ((follows_of_options step).grows rfl).trans (ih read)
    next =>
      obtain ⟨_ | _, further, same⟩ := Option.map_eq_some_iff.mp read
      · cases same
      · cases same
        exact ih further
    next =>
      cases read
      exact .refl _
    all_goals cases read

structure Understood (outer : Given) (name : String) (arguments : List String) (config : Option FilePath)
    (level : Option LogLevel) (silent : Bool) (command : Command) (scope : Scope) (inner : Given)
    (words : List String) : Prop where
  known : scopeOf? name = some scope
  read : readArguments scope .nothing none arguments = some (.full inner words)
  meant : commandOf? name inner words = some command
  config : config = inner.config.or outer.config
  level : level = inner.logLevel.or outer.logLevel
  silent : silent = (inner.silent || outer.silent)

theorem readCommand_eq_some {outer : Given} {name : String} {arguments : List String} {config : Option FilePath}
    {level : Option LogLevel} {silent : Bool} {command : Command}
    (read : readCommand outer name arguments = some (.run config level silent command)) :
    ∃ scope inner words, Understood outer name arguments config level silent command scope inner words := by
  obtain ⟨scope, known, rest⟩ := Option.bind_eq_some_iff.mp read
  obtain ⟨words | ⟨inner, words⟩, understood, rest⟩ := Option.bind_eq_some_iff.mp rest
  · obtain ⟨found, meant, same⟩ := Option.bind_eq_some_iff.mp rest
    cases same
  · obtain ⟨found, meant, same⟩ := Option.bind_eq_some_iff.mp rest
    cases same
    exact ⟨scope, inner, words, known, understood, meant, rfl, rfl, rfl⟩

theorem readHelp_ne_run (arguments : List String) (config : Option FilePath) (level : Option LogLevel) (silent : Bool)
    (command : Command) : readHelp arguments ≠ some (.run config level silent command) := by
  intro read
  unfold readHelp at read
  split at read
  next => cases read
  next => cases read
  next =>
    obtain ⟨scope, -, same⟩ := Option.map_eq_some_iff.mp read
    cases same
  next => cases read

/-- A word that leads to a command is its name. -/
theorem readCommand_of_word {outer : Given} {name : String} {arguments : List String} {config : Option FilePath}
    {level : Option LogLevel} {silent : Bool} {command : Command}
    (read : (if name = "help" then readHelp arguments else readCommand outer name arguments) =
      some (.run config level silent command)) :
    name ≠ "help" ∧ readCommand outer name arguments = some (.run config level silent command) := by
  split at read
  next => exact absurd read (readHelp_ne_run _ _ _ _ _)
  next other => exact ⟨other, read⟩

/-- The way to the command of a command line: options in front of it, each read in turn, and what stands
behind its name. -/
theorem exists_readCommand {arguments : List String} {config : Option FilePath} {level : Option LogLevel}
    {silent : Bool} {command : Command}
    (read : readTop given pending arguments = some (.run config level silent command)) :
    ∃ outer name rest, Grows given outer ∧ readCommand outer name rest = some (.run config level silent command) := by
  induction arguments generalizing given pending with
  | nil => cases read
  | cons argument rest ih =>
    rw [readTop] at read
    split at read
    next step =>
      obtain ⟨outer, name, behind, grows, meant⟩ := ih read
      exact ⟨outer, name, behind, ((follows_of_options step).grows rfl).trans grows, meant⟩
    next => exact ⟨given, argument, rest, .refl given, (readCommand_of_word read).2⟩
    all_goals cases read

theorem readTop_hushed {arguments : List String} {config : Option FilePath} {level : Option LogLevel}
    {command : Command} (read : readTop given pending arguments = some (.run config level false command)) :
    readTop given.hushed pending arguments = some (.run config level true command) := by
  induction arguments generalizing given pending with
  | nil => cases read
  | cons argument rest ih =>
    rw [readTop] at read ⊢
    split at read
    next next waiting step =>
      have still : next.silent = false := by
        obtain ⟨outer, name, behind, grows, meant⟩ := exists_readCommand read
        obtain ⟨scope, inner, words, found⟩ := readCommand_eq_some meant
        have silent := found.silent
        exact eq_false_of_ne_true fun quiet => by simp [grows.silent quiet] at silent
      rw [(follows_of_options step).hushed rfl still]
      exact ih read
    next step =>
      rw [readArgument_word step]
      obtain ⟨other, named⟩ := readCommand_of_word read
      obtain ⟨scope, inner, words, known, understood, meant, rfl, rfl, silent⟩ := readCommand_eq_some named
      simp only [if_neg other, readCommand, known, understood, meant, within, hushed, Bool.or_true,
        Option.bind_eq_bind, Option.bind_some, Option.pure_def]
    all_goals cases read

end Reading

def Command.paths : Command → List FilePath
  | .extract webDir | .unify webDir _ => webDir.toList
  | .initConfig path => [path]
  | .environmentDocs => []

theorem nonempty_of_taken {taken : Option FilePath}
    (step : taken = none ∨ ∃ path, taken = some path ∧ path.isEmpty = false) :
    ∀ path ∈ taken, path.isEmpty = false := by
  rintro path rfl
  obtain ⟨_, ⟨⟩, visible⟩ := step.resolve_left nofun
  exact visible

theorem nonempty_of_commandOf? {name : String} {given : Given} {words : List String} {command : Command}
    (visible : ∀ path ∈ given.webDir, path.isEmpty = false) (meant : commandOf? name given words = some command) :
    ∀ path ∈ command.paths, path.isEmpty = false := by
  unfold commandOf? at meant
  split at meant
  next =>
    cases meant
    simpa [Command.paths] using visible
  next =>
    cases meant
    simpa [Command.paths] using visible
  next =>
    cases meant
    simp only [Command.paths, List.mem_singleton, forall_eq]
    decide
  next =>
    obtain ⟨path, read, same⟩ := Option.map_eq_some_iff.mp meant
    cases same
    simpa [Command.paths] using Given.pathArgument?_eq_some read
  next =>
    cases meant
    exact nofun
  next => cases meant

/-- No path of a command line is an empty one. -/
theorem nonempty_of_parse? {arguments : List String} {config : Option FilePath} {level : Option LogLevel}
    {silent : Bool} {command : Command} (parsed : parse? arguments = some (.run config level silent command)) :
    (∀ path ∈ config, path.isEmpty = false) ∧ ∀ path ∈ command.paths, path.isEmpty = false := by
  obtain ⟨outer, name, rest, grows, read⟩ := exists_readCommand parsed
  obtain ⟨scope, inner, words, -, understood, meant, rfl, -, -⟩ := readCommand_eq_some read
  have within := grows_of_readArguments understood
  refine ⟨?_, nonempty_of_commandOf? (nonempty_of_taken within.webDir) meant⟩
  intro path member
  rcases Option.or_eq_some_iff.mp member with own | ⟨-, other⟩
  · exact nonempty_of_taken within.config path own
  · exact nonempty_of_taken grows.config path other

/-- Silence in front changes nothing but itself. -/
theorem parse?_silent {arguments : List String} {config : Option FilePath} {level : Option LogLevel} {command : Command}
    (parsed : parse? arguments = some (.run config level false command)) :
    parse? ("-s" :: arguments) = some (.run config level true command) := by
  have switch : readArgument .top .nothing none "-s" = some (.options Given.nothing.hushed none) := by rfl
  rw [parse?, readTop, switch]
  exact readTop_hushed parsed

end PageAssets.CommandLine
