import ReportQuery.Text.Search

/-!
# Command-line arguments

Options have long names, and most have short ones, of which several may share a
hyphen. The value of an option is attached to it or follows it. No option may
be given twice. The word `config` asks for the settings template; no other word
is understood.
-/

namespace ReportQuery

/-- What the arguments of a run say. -/
structure Options where
  script : Option String := none
  settingsFile : Option String := none
  catalog : Option String := none
  accountId : Option String := none
  apiVersion : Option String := none
  developerToken : Option String := none
  accessToken : Option String := none
  cache : Bool := false
  zeroImpressions : Bool := false
  verbose : Bool := false
  /-- Whether rows are printed without borders. -/
  batch : Bool := false
deriving DecidableEq, Repr

/-- An option that has a value. -/
inductive ValueOption where
  | script
  | settingsFile
  | catalog
  | accountId
  | apiVersion
  | developerToken
  | accessToken
deriving DecidableEq, Repr

/-- An option that is given or not. -/
inductive Switch where
  | cache
  | zeroImpressions
  | verbose
  | batch
deriving DecidableEq, Repr

/-- What a run is asked to do. -/
inductive Invocation where
  | run (options : Options)
  | showTemplate
  | showHelp
  | showVersion
  /-- The arguments make no sense. -/
  | misuse
deriving DecidableEq, Repr

/-- An option by what it needs. -/
inductive OptionKind where
  | valued (option : ValueOption)
  | switch (switch : Switch)
  | help
  | version
deriving DecidableEq, Repr

namespace OptionKind

/-- The option with a long name. -/
def ofLongName? : String → Option OptionKind
  | "execute" => some (valued .script)
  | "config" => some (valued .settingsFile)
  | "catalog" => some (valued .catalog)
  | "id" => some (valued .accountId)
  | "api-version" => some (valued .apiVersion)
  | "developer-token" => some (valued .developerToken)
  | "access-token" => some (valued .accessToken)
  | "cache" => some (switch .cache)
  | "zero-impressions" => some (switch .zeroImpressions)
  | "verbose" => some (switch .verbose)
  | "batch" => some (switch .batch)
  | "help" => some help
  | "version" => some version
  | _ => none

/-- The option with a short name. -/
def ofShortName? : Char → Option OptionKind
  | 'e' => some (valued .script)
  | 'i' => some (valued .accountId)
  | 'V' => some (valued .apiVersion)
  | 'D' => some (valued .developerToken)
  | 'T' => some (valued .accessToken)
  | 'c' => some (switch .cache)
  | 'z' => some (switch .zeroImpressions)
  | 'v' => some (switch .verbose)
  | 'B' => some (switch .batch)
  | 'h' => some help
  | _ => none

end OptionKind

namespace Options

/-- A value in a place that has none yet. -/
def fill (place : Option String) (value : String) : Option (Option String) :=
  if place.isSome then none else some (some value)

/-- The options with a value for one that has none yet. The path of a file is
not empty. -/
def give (options : Options) (option : ValueOption) (value : String) :
    Option Options :=
  match option with
  | .script => (fill options.script value).map fun script =>
    { options with script }
  | .settingsFile =>
    if value.isEmpty then none
    else (fill options.settingsFile value).map fun settingsFile =>
      { options with settingsFile }
  | .catalog => (fill options.catalog value).map fun catalog =>
    { options with catalog }
  | .accountId => (fill options.accountId value).map fun accountId =>
    { options with accountId }
  | .apiVersion =>
    (fill options.apiVersion value).map fun apiVersion =>
      { options with apiVersion }
  | .developerToken =>
    (fill options.developerToken value).map fun developerToken =>
      { options with developerToken }
  | .accessToken =>
    (fill options.accessToken value).map fun accessToken =>
      { options with accessToken }

/-- The options with a switch that was off turned on. -/
def turnOn (options : Options) (switch : Switch) : Option Options :=
  match switch with
  | .cache =>
    if options.cache then none else some { options with cache := true }
  | .zeroImpressions =>
    if options.zeroImpressions then none
    else some { options with zeroImpressions := true }
  | .verbose =>
    if options.verbose then none else some { options with verbose := true }
  | .batch =>
    if options.batch then none else some { options with batch := true }

end Options

/-- What an argument, or the short options in it, leave to be done. -/
inductive Step where
  | proceed (options : Options)
  /-- The next argument is the value of an option. -/
  | expect (option : ValueOption) (options : Options)
  | stop (invocation : Invocation)

namespace Step

/-- Go on with options, which are missing after a misuse. -/
def orMisuse : Option Options → Step
  | some options => proceed options
  | none => stop .misuse

/-- What a long option leaves to be done, with the value attached to it. -/
def ofLong (options : Options) (name : String) (value : Option String) : Step :=
  match OptionKind.ofLongName? name, value with
  | some (.valued option), some value => orMisuse (options.give option value)
  | some (.valued option), none => expect option options
  | some (.switch switch), none => orMisuse (options.turnOn switch)
  | some .help, none => stop .showHelp
  | some .version, none => stop .showVersion
  | _, _ => stop .misuse

/-- What short options leave to be done. What follows an option with a value is
its value, after an equals sign or at once. -/
def ofShort (options : Options) : List Char → Step
  | [] => proceed options
  | c :: cs =>
    match OptionKind.ofShortName? c with
    | some (.valued option) =>
      match cs with
      | [] => expect option options
      | '=' :: value => orMisuse (options.give option (String.ofList value))
      | value => orMisuse (options.give option (String.ofList value))
    | some (.switch switch) =>
      match options.turnOn switch with
      | some options => ofShort options cs
      | none => stop .misuse
    | some .help => stop .showHelp
    | some .version => stop .showVersion
    | none => stop .misuse

end Step

/-- An argument by its form. -/
inductive Argument where
  /-- Two hyphens, after which there are no options. -/
  | divider
  | long (name : String) (value : Option String)
  | short (names : List Char)
  | word (text : String)
deriving DecidableEq, Repr

namespace Argument

/-- The form of an argument; a single hyphen is a word. -/
def ofText (text : String) : Argument :=
  match text.toList with
  | ['-', '-'] => divider
  | '-' :: '-' :: rest =>
    let name := String.ofList (rest.takeWhile (· != '='))
    match rest.dropWhile (· != '=') with
    | _ :: value => long name (some (String.ofList value))
    | [] => long name none
  | '-' :: c :: rest => short (c :: rest)
  | _ => word text

/-- The text of an argument that may be the value of an option. -/
def value? : Argument → Option String
  | word text => some text
  | _ => none

end Argument

namespace Invocation

/-- What the arguments after `config` ask for. -/
def ofTemplateArguments : List Argument → Invocation
  | [] => showTemplate
  | [.divider] => showTemplate
  | .long "help" none :: _ => showHelp
  | .short ('h' :: _) :: _ => showHelp
  | _ => misuse

/-- What the arguments after `help` ask for. -/
def ofHelpArguments : List Argument → Invocation
  | [] => showHelp
  | [.word name] => if name = "config" ∨ name = "help" then showHelp else misuse
  | _ => misuse

/-- What arguments ask for, after options that were read before. -/
def ofArgumentsAfter (options : Options) : List Argument → Invocation
  | [] => run options
  | .divider :: rest => if rest.isEmpty then run options else misuse
  | .word "config" :: rest => ofTemplateArguments rest
  | .word "help" :: rest => ofHelpArguments rest
  | .word _ :: _ => misuse
  | .long name value :: rest => go (Step.ofLong options name value) rest
  | .short names :: rest => go (Step.ofShort options names) rest
where
  /-- What is asked for after an argument. -/
  go : Step → List Argument → Invocation
  | .proceed options, rest => ofArgumentsAfter options rest
  | .stop invocation, _ => invocation
  | .expect option options, argument :: rest =>
    match argument.value?.bind (options.give option) with
    | some options => ofArgumentsAfter options rest
    | none => misuse
  | .expect _ _, [] => misuse

/-- What arguments ask for. -/
def ofArguments (arguments : List String) : Invocation :=
  ofArgumentsAfter {} (arguments.map Argument.ofText)

end Invocation

end ReportQuery
