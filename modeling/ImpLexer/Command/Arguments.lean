import ImpLexer.Config
import ImpLexer.Text.Terminal

/-!
# Arguments of the command

An argument list is read from left to right. Options and paths may be mixed, and
behind a `--` everything is a path. What is given is checked as soon as it is
complete, and not before: the word after `--leading-zeros` may still be missing,
and further paths may follow a path, so the last of these is kept *pending*
until another option or the end of the list settles it. That decides which of
two mistakes is reported. An option that does not exist, or that was given a
value it does not take, is reported at once, before what is pending is looked
at.

Asking for help or for the version ends the reading on the spot. Anything wrong
behind it goes unnoticed, anything wrong in front of it does not.
-/

namespace ImpLexer

/-- What a run is to do. -/
structure Arguments where
  paths : List Text
  config : Config
  verbose : Bool
  deriving DecidableEq, Repr

/-- An option that takes no value. -/
inductive Flag where
  | verbose
  | help
  | version
  deriving DecidableEq, Repr

namespace Flag

/-- The long name of a flag. -/
def name : Flag → Text
  | verbose => "verbose".toList
  | help => "help".toList
  | version => "version".toList

def ofName? (name : Text) : Option Flag :=
  [verbose, help, version].find? fun flag => flag.name = name

def ofLetter? : Char → Option Flag
  | 'v' => some verbose
  | 'h' => some help
  | 'V' => some version
  | _ => none

end Flag

/-- What can be wrong with an argument list. -/
inductive UsageError where
  | noPath
  | emptyPath
  /-- `--leading-zeros` is followed by no word, or by an empty one. -/
  | noPolicy
  /-- The word after `--leading-zeros` selects no policy. -/
  | unknownPolicy (word : Text)
  | repeatedPolicy
  | repeatedVerbose
  /-- There is no such option; `option` has its dashes. -/
  | unknownOption (option : Text)
  | unexpectedValue (flag : Flag) (value : Text)
  deriving DecidableEq, Repr

/-- A mistake in words. What is quoted from the arguments is quoted as a terminal
shows it: an argument is not to colour or move the words around it. -/
def UsageError.message : UsageError → Text
  | noPath => "the following required arguments were not provided:".toList
  | emptyPath => "a value is required for '<FILES>...' but none was supplied".toList
  | noPolicy =>
      "a value is required for '--leading-zeros <LEADING_ZEROS>' but none was supplied".toList
  | unknownPolicy word =>
      "invalid value '".toList ++ Terminal.shown word ++
        "' for '--leading-zeros <LEADING_ZEROS>'".toList
  | repeatedPolicy =>
      "the argument '--leading-zeros <LEADING_ZEROS>' cannot be used multiple times".toList
  | repeatedVerbose => "the argument '--verbose' cannot be used multiple times".toList
  | unknownOption option =>
      "unexpected argument '".toList ++ Terminal.shown option ++ "' found".toList
  | unexpectedValue flag value =>
      "unexpected value '".toList ++ Terminal.shown value ++ "' for '--".toList ++ flag.name ++
        "' found; no more were expected".toList

/-- How long a text on the command's use is wanted. -/
inductive Detail where
  | brief
  | full
  deriving DecidableEq, Repr

/-- Why an argument list is not read to a run. -/
inductive Stop where
  | help (detail : Detail)
  | version
  | refused (error : UsageError)
  deriving DecidableEq, Repr

/-! ## The form of one argument -/

/-- What an argument looks like, in front of a `--`. -/
inductive Form where
  /-- `--` -/
  | separator
  /-- `--name` or `--name=value` -/
  | long (name : Text) (value : Option Text)
  /-- `-` and at least one letter -/
  | short (letters : List Char)
  /-- anything else, `-` among it -/
  | plain (text : Text)
  deriving DecidableEq, Repr

def Form.of : Text → Form
  | c :: d :: more =>
      if c ≠ '-' then .plain (c :: d :: more)
      else if d ≠ '-' then .short (d :: more)
      else if more = [] then .separator
      else
        .long (more.takeWhile (· ≠ '='))
          (if '=' ∈ more then some (more.dropWhile (· ≠ '=')).tail else none)
  | text => .plain text

/-! ## Reading a list -/

/-- What has been given but not yet checked. -/
inductive Pending where
  | nothing
  /-- `--leading-zeros`, and its word if that has come. -/
  | policy (word : Option Text)
  /-- Paths that stand one behind another. -/
  | paths (given : List Text)
  deriving DecidableEq, Repr

/-- An argument list that has been read up to some point. -/
structure Progress where
  verbose : Bool := false
  policy : Option LeadingZeros := none
  paths : List Text := []
  pending : Pending := .nothing
  /-- Whether a `--` has gone by. -/
  separated : Bool := false
  deriving DecidableEq, Repr

namespace Progress

/-- Takes the word after `--leading-zeros`. -/
def choose (progress : Progress) (word : Text) : Except UsageError Progress :=
  if progress.policy.isSome then .error .repeatedPolicy
  else if word = [] then .error .noPolicy
  else
    match LeadingZeros.ofWord false word with
    | .ok policy => .ok { progress with policy := some policy }
    | .error unknown => .error (.unknownPolicy unknown.word)

/-- Checks what is pending and makes it final. -/
def settle (progress : Progress) : Except UsageError Progress :=
  match progress.pending with
  | .nothing => .ok progress
  | .policy none => .error .noPolicy
  | .policy (some word) => { progress with pending := .nothing }.choose word
  | .paths given =>
      if [] ∈ given then .error .emptyPath
      else .ok { progress with paths := progress.paths ++ given, pending := .nothing }

/-- Like `settle`, where a list may also end. -/
def settled (progress : Progress) : Except Stop Progress :=
  progress.settle.mapError .refused

def path (progress : Progress) (given : Text) : Except Stop Progress :=
  match progress.pending with
  | .paths before => .ok { progress with pending := .paths (before ++ [given]) }
  | _ => do
      let progress ← progress.settled
      .ok { progress with pending := .paths [given] }

/-- Takes a flag, of which help has as much to say as `detail` wants. -/
def raise (detail : Detail) (progress : Progress) (flag : Flag) : Except Stop Progress := do
  let progress ← progress.settled
  match flag with
  | .verbose =>
      if progress.verbose then .error (.refused .repeatedVerbose)
      else .ok { progress with verbose := true }
  | .help => .error (.help detail)
  | .version => .error .version

/-- Takes an option by its long name. -/
def long (progress : Progress) (name : Text) (value : Option Text) : Except Stop Progress :=
  if name = "leading-zeros".toList then do
    let progress ← progress.settled
    match value with
    | some word => (progress.choose word).mapError .refused
    | none => .ok { progress with pending := .policy none }
  else
    match Flag.ofName? name, value with
    | some flag, some value => .error (.refused (.unexpectedValue flag value))
    | some flag, none => progress.raise .full flag
    | none, _ => .error (.refused (.unknownOption ('-' :: '-' :: name)))

/-- Takes a flag by its short name. -/
def short (progress : Progress) (letter : Char) : Except Stop Progress :=
  match Flag.ofLetter? letter with
  | some flag => progress.raise .brief flag
  | none => .error (.refused (.unknownOption ['-', letter]))

def next (progress : Progress) (argument : Text) : Except Stop Progress :=
  if progress.separated then progress.path argument
  else
    match Form.of argument with
    | .separator => .ok { progress with separated := true }
    | .long name value => progress.long name value
    | .short letters => letters.foldlM short progress
    | .plain text =>
        if progress.pending = .policy none then
          .ok { progress with pending := .policy (some text) }
        else progress.path text

/-- What the list comes to when it ends here. -/
def finish (progress : Progress) : Except Stop Arguments := do
  let progress ← progress.settled
  if progress.paths = [] then .error (.refused .noPath)
  else .ok ⟨progress.paths, (progress.policy.map Config.mk).getD {}, progress.verbose⟩

end Progress

def Arguments.parse (arguments : List Text) : Except Stop Arguments := do
  let progress ← arguments.foldlM Progress.next {}
  progress.finish

end ImpLexer
