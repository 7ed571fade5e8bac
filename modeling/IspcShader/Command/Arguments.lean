import IspcShader.Command.Settings
import IspcShader.Text.Search

/-!
The arguments of the command line. They are read from left to right; the first one that does not fit
decides, and so does the first request for help.
-/
namespace IspcShader.Command

inductive Request where
  | help
  | rejected
  | run (settings : Settings)
  deriving DecidableEq, Repr

structure Given where
  input : Option Path := none
  output : Option Path := none
  stage : Option Stage := none
  returnType : Option Text := none
  structParams : List Text := []
  builtinParams : List Text := []
  invariant : Bool := false
  waveOps : Bool := false
  policy : Option ResourcePolicy := none
  keepName : Bool := false
  header : Option Path := none
  deriving DecidableEq, Repr

inductive ValueOption where
  | output
  | stage
  | returnType
  | structParam
  | builtinParam
  | policy
  | header
  deriving DecidableEq, Repr

inductive Flag where
  | invariant
  | waveOps
  | keepName
  deriving DecidableEq, Repr

inductive LongOption where
  | help
  | flag (flag : Flag)
  | value (option : ValueOption)
  deriving DecidableEq, Repr

def longOptions : List (Text × LongOption) :=
  [("help", .help),
   ("invariant", .flag .invariant),
   ("waveops", .flag .waveOps),
   ("no-mangle", .flag .keepName),
   ("output", .value .output),
   ("stage", .value .stage),
   ("return-type", .value .returnType),
   ("struct-arg", .value .structParam),
   ("flat-arg", .value .builtinParam),
   ("resource-emission", .value .policy),
   ("header", .value .header)]

def longOption? (name : Text) : Option LongOption :=
  (longOptions.find? fun entry => decide (entry.1 = name)).map (·.2)

def stages : List (Text × Stage) :=
  [("vert", .vert), ("frag", .frag), ("comp", .comp), ("geom", .geom), ("tesc", .tesc),
   ("tese", .tese)]

def stage? (word : Text) : Option Stage :=
  (stages.find? fun entry => decide (entry.1 = word)).map (·.2)

def policies : List (Text × ResourcePolicy) :=
  [("comment", .comment), ("alias", .alias)]

def policy? (word : Text) : Option ResourcePolicy :=
  (policies.find? fun entry => decide (entry.1 = word)).map (·.2)

/-- A path has at least one character. -/
def path? (value : Text) : Option Path :=
  if value.isEmpty then none else some value

def once? {α : Type} (old new : Option α) : Option α :=
  match old with
  | some _ => none
  | none => new

namespace Given

/-- Sets a flag, which must not be set yet. -/
def raise? (given : Given) : Flag → Option Given
  | .invariant => if given.invariant then none else some { given with invariant := true }
  | .waveOps => if given.waveOps then none else some { given with waveOps := true }
  | .keepName => if given.keepName then none else some { given with keepName := true }

/-- Takes the value of an option. Only the two kinds of parameters may be repeated. -/
def assign? (given : Given) (option : ValueOption) (value : Text) : Option Given :=
  match option with
  | .output => (once? given.output (path? value)).map fun path => { given with output := some path }
  | .stage => (once? given.stage (stage? value)).map fun stage => { given with stage := some stage }
  | .returnType =>
    (once? given.returnType (some value)).map fun type => { given with returnType := some type }
  | .structParam => some { given with structParams := given.structParams ++ [value] }
  | .builtinParam => some { given with builtinParams := given.builtinParams ++ [value] }
  | .policy =>
    (once? given.policy (policy? value)).map fun policy => { given with policy := some policy }
  | .header => (once? given.header (path? value)).map fun path => { given with header := some path }

def place? (given : Given) (arg : Text) : Option Given :=
  (once? given.input (path? arg)).map fun path => { given with input := some path }

def request (given : Given) : Request :=
  match given.input, given.output with
  | some input, some output =>
    .run
      { input, output
        stage := given.stage.getD .comp
        returnType := given.returnType
        structParams := given.structParams
        builtinParams := given.builtinParams
        invariant := given.invariant
        waveOps := given.waveOps
        policy := given.policy.getD .alias
        keepName := given.keepName
        header := given.header }
  | _, _ => .rejected

end Given

/-- How an argument reads before any value that stands apart from it is known. -/
inductive Token where
  | help
  | flag (flag : Flag)
  /-- An option, with its value if that is written in the same argument. -/
  | option (option : ValueOption) (attached : Option Text)
  | plain (text : Text)
  | endOfOptions
  | unknown
  deriving DecidableEq, Repr

namespace Token

/-- The text behind two dashes: a name, and a value behind the first equals sign. -/
def ofLong (text : Text) : Token :=
  let (name, attached) :=
    match Text.cut? "=" text with
    | some (name, value) => (name, some value)
    | none => (text, none)
  match longOption? name, attached with
  | some .help, none => help
  | some (.flag chosen), none => flag chosen
  | some (.value chosen), attached => option chosen attached
  | _, _ => unknown

/-- The text behind a single dash. An equals sign may stand before the value. -/
def ofShort : Text → Token
  | 'h' :: _ => help
  | ['o'] => option .output none
  | 'o' :: '=' :: value => option .output (some value)
  | 'o' :: value => option .output (some value)
  | _ => unknown

/-- A single dash alone is no option. -/
def ofArg : Text → Token
  | ['-', '-'] => endOfOptions
  | '-' :: '-' :: text => ofLong text
  | ['-'] => plain ['-']
  | '-' :: text => ofShort text
  | text => plain text

end Token

def isSeparateValue (arg : Text) : Bool :=
  match Token.ofArg arg with
  | .plain _ => true
  | _ => false

def parsePlain (given : Given) : List Text → Request
  | [] => given.request
  | arg :: rest =>
    match given.place? arg with
    | some given => parsePlain given rest
    | none => .rejected

def parseFrom (given : Given) : List Text → Request
  | [] => given.request
  | arg :: rest =>
    match Token.ofArg arg with
    | .help => .help
    | .unknown => .rejected
    | .endOfOptions => parsePlain given rest
    | .plain text =>
      match given.place? text with
      | some given => parseFrom given rest
      | none => .rejected
    | .flag flag =>
      match given.raise? flag with
      | some given => parseFrom given rest
      | none => .rejected
    | .option option (some value) =>
      match given.assign? option value with
      | some given => parseFrom given rest
      | none => .rejected
    | .option option none =>
      match rest with
      | [] => .rejected
      | value :: rest =>
        if isSeparateValue value then
          match given.assign? option value with
          | some given => parseFrom given rest
          | none => .rejected
        else .rejected

def parse (args : List Text) : Request :=
  parseFrom {} args

end IspcShader.Command
