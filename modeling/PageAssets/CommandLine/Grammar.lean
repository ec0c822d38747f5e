import PageAssets.Environment.Setting

/-! The command line. Options may be given in short or long form, with their value attached or in
the next argument; those that concern every command may stand before or after its name. Reading
goes from left to right, one argument at a time, and a call for help or for the version ends it. -/

namespace PageAssets.CommandLine
open Files Environment

inductive OptionKey where
  | config
  | help
  | logLevel
  | silent
  | version
  | webDir
  deriving DecidableEq, Repr

structure Given where
  config : Option FilePath
  logLevel : Option LogLevel
  silent : Bool
  webDir : Option FilePath
  deriving DecidableEq, Repr

namespace Given

def nothing : Given := ⟨none, none, false, none⟩

/-- Options given behind a command's name count before those in front of it. -/
def within (inner outer : Given) : Given where
  config := inner.config.or outer.config
  logLevel := inner.logLevel.or outer.logLevel
  silent := inner.silent || outer.silent
  webDir := inner.webDir

end Given

def pathArgument? (text : String) : Option FilePath :=
  let path : FilePath := ⟨text⟩
  if path.isEmpty then none else some path

/-- Takes in the value of an option. None is given twice at one place. -/
def Given.take? (given : Given) (key : OptionKey) (value : String) : Option Given :=
  match key with
  | .config =>
    if given.config.isSome then none
    else (pathArgument? value).map fun path => { given with config := some path }
  | .logLevel =>
    if given.logLevel.isSome then none
    else (LogLevel.ofText? value).map fun level => { given with logLevel := some level }
  | .webDir =>
    if given.webDir.isSome then none
    else (pathArgument? value).map fun path => { given with webDir := some path }
  | .help | .silent | .version => none

def Given.hush? (given : Given) : Option Given :=
  if given.silent then none else some { given with silent := true }

inductive Scope where
  | top
  | withWebDir
  | plain
  deriving DecidableEq, Repr

def shortOption? (scope : Scope) (c : Char) : Option OptionKey :=
  match c, scope with
  | 'c', _ => some .config
  | 'h', _ => some .help
  | 's', _ => some .silent
  | 'V', .top => some .version
  | 'w', .withWebDir => some .webDir
  | _, _ => none

def longOption? (scope : Scope) (name : String) : Option OptionKey :=
  match name, scope with
  | "config", _ => some .config
  | "help", _ => some .help
  | "log-level", _ => some .logLevel
  | "silent", _ => some .silent
  | "version", .top => some .version
  | "web-dir", .withWebDir => some .webDir
  | _, _ => none

inductive Reading where
  | help
  | version
  /-- The options so far, and the one that waits for its value in the next argument. -/
  | options (given : Given) (pending : Option OptionKey)
  | word
  | endOfOptions
  deriving DecidableEq, Repr

/-- Reads short options behind a hyphen. One that takes a value takes the rest of the argument,
without an equals sign in front. -/
def readShort (scope : Scope) (given : Given) : List Char → Option Reading
  | [] => some (.options given none)
  | c :: rest =>
    match shortOption? scope c with
    | none => none
    | some .help => some .help
    | some .version => some .version
    | some .silent => given.hush?.bind fun given => readShort scope given rest
    | some key =>
      match rest with
      | [] => some (.options given (some key))
      | '=' :: value => (given.take? key (String.ofList value)).map (.options · none)
      | value => (given.take? key (String.ofList value)).map (.options · none)

def readLong (scope : Scope) (given : Given) (text : List Char) : Option Reading :=
  let name := String.ofList (text.takeWhile (· != '='))
  match longOption? scope name, text.dropWhile (· != '=') with
  | none, _ => none
  | some .help, [] => some .help
  | some .version, [] => some .version
  | some .silent, [] => given.hush?.map (.options · none)
  | some .help, _ | some .version, _ | some .silent, _ => none
  | some key, [] => some (.options given (some key))
  | some key, _ :: value => (given.take? key (String.ofList value)).map (.options · none)

/-- The shape of an argument, before it is known whether an option waits for a value. -/
inductive Shape where
  | endOfOptions
  | long (text : List Char)
  | short (text : List Char)
  | word
  deriving DecidableEq, Repr

def shapeOf (argument : String) : Shape :=
  match argument.toList with
  | ['-', '-'] => .endOfOptions
  | '-' :: '-' :: text => .long text
  | '-' :: c :: text => .short (c :: text)
  | _ => .word

/-- Reads one argument. Only a word can be the value that an option waits for. -/
def readArgument (scope : Scope) (given : Given) (pending : Option OptionKey) (argument : String) :
    Option Reading :=
  match shapeOf argument, pending with
  | .word, some key => (given.take? key argument).map (.options · none)
  | _, some _ => none
  | .word, none => some .word
  | .endOfOptions, none => some .endOfOptions
  | .long text, none => readLong scope given text
  | .short text, none => readShort scope given text

/-- What stands behind the name of a command: options and words, or a call for help behind the
words in front of it. -/
inductive Behind where
  | help (words : List String)
  | full (given : Given) (words : List String)
  deriving DecidableEq, Repr

def Behind.cons (word : String) : Behind → Behind
  | help words => help (word :: words)
  | full given words => full given (word :: words)

def readArguments (scope : Scope) (given : Given) (pending : Option OptionKey) :
    List String → Option Behind
  | [] => if pending.isSome then none else some (.full given [])
  | argument :: rest =>
    match readArgument scope given pending argument with
    | some (.options given pending) => readArguments scope given pending rest
    | some .word => (readArguments scope given none rest).map (.cons argument)
    | some .endOfOptions => some (.full given rest)
    | some .help => some (.help [])
    | some .version | none => none

inductive Command where
  | extract (webDir : Option FilePath)
  | unify (webDir : Option FilePath) (targets : List String)
  | initConfig (path : FilePath)
  | environmentDocs
  deriving DecidableEq, Repr

inductive Request where
  | help
  | version
  | run (config : Option FilePath) (level : Option LogLevel) (silent : Bool) (command : Command)
  deriving DecidableEq, Repr

def Request.level? : Request → Option LogLevel
  | .help | .version => none
  | .run _ level _ _ => level

def defaultConfigPath : FilePath := ⟨"extricate.toml"⟩

def commandOf? (name : String) (given : Given) (words : List String) : Option Command :=
  match name, words with
  | "extract", [] => some (.extract given.webDir)
  | "unify", targets => some (.unify given.webDir targets)
  | "init-config", [] => some (.initConfig defaultConfigPath)
  | "init-config", [path] => (pathArgument? path).map .initConfig
  | "env-docs", [] => some .environmentDocs
  | _, _ => none

def scopeOf? (name : String) : Option Scope :=
  match name with
  | "extract" | "unify" => some .withWebDir
  | "init-config" | "env-docs" => some .plain
  | _ => none

/-- The words in front of a call for help must be ones that the command takes. -/
def readCommand (outer : Given) (name : String) (arguments : List String) : Option Request := do
  let scope ← scopeOf? name
  match ← readArguments scope .nothing none arguments with
  | .help words =>
    let _ ← commandOf? name .nothing words
    return .help
  | .full inner words =>
    let command ← commandOf? name inner words
    let given := inner.within outer
    return .run given.config given.logLevel given.silent command

/-- Reads what help is asked for: nothing, one command, or help itself. -/
def readHelp : List String → Option Request
  | [] | ["help"] => some .help
  | [name] => (scopeOf? name).map fun _ => .help
  | _ => none

def readTop (given : Given) (pending : Option OptionKey) : List String → Option Request
  | [] => none
  | argument :: rest =>
    match readArgument .top given pending argument with
    | some (.options given pending) => readTop given pending rest
    | some .word => if argument = "help" then readHelp rest else readCommand given argument rest
    | some .help => some .help
    | some .version => some .version
    | some .endOfOptions | none => none

/-- Understands a command line without the program's name; absent when it is not well formed. -/
def parse? (arguments : List String) : Option Request := readTop .nothing none arguments

end PageAssets.CommandLine
