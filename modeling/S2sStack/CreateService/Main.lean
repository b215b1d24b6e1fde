import S2sStack.CreateService.CliArgs
import S2sStack.CreateService.Render
import S2sStack.CreateService.Validators

set_option autoImplicit false

/- `index.ts` of the scaffolder. -/
namespace S2s

open Files
open Js (Number Json Obj)

variable {Content : Type}

/-- The elements of `scopes` and `outboundAudiences` are what the configuration has there. -/
structure PromptAnswers where
  serviceName : String
  boundedContext : String
  scopes : List Json
  containerPort : Number
  albPathPattern : String
  environment : String
  outboundAudiences : List Json
  generateSampleCedar : Bool

/-- What the templates are rendered with. -/
structure TemplateData where
  answers : PromptAnswers
  sdkVersion : String
  hasOutbound : Bool

/-- What surrounds a run: the template directory, `ejs`, the decoding of a file's text,
`JSON.parse`, and the answers of an interactive run. -/
structure Scaffolder (Content : Type) where
  template : Template Content
  render : Renderer Content TemplateData
  text : Content → String
  parseJson : String → Except Fault Json
  prompts : CliArgs → Except Fault PromptAnswers
  cliVersion : String

/-- `resolve(cwd, dir)` -/
def resolve (cwd : Path) (dir : String) : Path :=
  (Js.split '/' dir).foldl pushSegment (if startsWith "/" dir then [] else cwd)

/-- `Array.isArray(value) ? value : []` -/
def arrayItems : Option Json → List Json
  | some (.arr items) => items
  | _ => []

/-- `String(flag ?? configured ?? fallback)` over what a spread puts in front. -/
def mergedText (flag : Option String) (configured : Option Json) (fallback : String) : String :=
  match flag, Js.nullish configured with
  | some text, _ => text
  | none, some value => value.toText
  | none, none => fallback

def mergedItems (flag : Option (List String)) (configured : Option Json) : List Json :=
  match flag with
  | some items => items.map Json.str
  | none => arrayItems configured

def mergedPort (flag : Option Number) (configured : Option Json) : Number :=
  match flag, Js.nullish configured with
  | some port, _ => port
  | none, some value => Js.numberOf value
  | none, none => .finite 3000

def mergedBool (flag : Option Bool) (configured : Option Json) : Bool :=
  match flag, Js.nullish configured with
  | some value, _ => value
  | none, some value => value.truthy
  | none, none => true

/-- `{ ...fromConfig, ...args.flags }`, with the default of each answer. -/
def mergeAnswers (config : Obj) (flags : PartialAnswers) : PromptAnswers where
  serviceName := mergedText flags.serviceName (config.get? "serviceName") ""
  boundedContext := mergedText flags.boundedContext (config.get? "boundedContext") ""
  scopes := mergedItems flags.scopes (config.get? "scopes")
  containerPort := mergedPort flags.containerPort (config.get? "containerPort")
  albPathPattern := mergedText flags.albPathPattern (config.get? "albPathPattern") ""
  environment := mergedText flags.environment (config.get? "environment") "dev"
  outboundAudiences := mergedItems flags.outboundAudiences (config.get? "outboundAudiences")
  generateSampleCedar := mergedBool flags.generateSampleCedar (config.get? "generateSampleCedar")

/-- `JSON.parse(await readFile(path, 'utf8'))`; of what is not an object nothing is read. -/
def readConfig (env : Scaffolder Content) (tree : FileTree Content) (path : Path) :
    Except ScaffoldFault Obj :=
  match tree.entry path with
  | none => .error (.disk .missing)
  | some .directory => .error (.disk .isDirectory)
  | some (.file content) =>
      match env.parseJson (env.text content) with
      | .error fault => .error (.thrown fault)
      | .ok (.obj fields) => .ok fields
      | .ok _ => .ok []

/-- The two branches that find the answers. -/
def answersOf (env : Scaffolder Content) (cwd : Path) (args : CliArgs) (tree : FileTree Content) :
    Except ScaffoldFault PromptAnswers :=
  if args.nonInteractive then do
    let config ←
      match args.configPath.filter (· ≠ "") with
      | some path => readConfig env tree (resolve cwd path)
      | none => .ok []
    return mergeAnswers config args.flags
  else (env.prompts args).mapError ScaffoldFault.thrown

/-- One row of `checks`. -/
def checkAnswer (name : String) : ValidationResult → ValidationResult
  | .ok _ => .ok ()
  | .error message => .error (name ++ ": " ++ message)

def validateAll (a : PromptAnswers) : ValidationResult := do
  checkAnswer "service-name" (validateServiceName a.serviceName)
  checkAnswer "bounded-context" (validateBoundedContext (.str a.boundedContext))
  checkAnswer "container-port" (validateContainerPort a.containerPort)
  checkAnswer "alb-path" (validateAlbPathPattern a.albPathPattern)
  checkAnswer "environment" (validateEnvironment a.environment)
  a.scopes.forM fun s => checkAnswer ("scopes: " ++ s.toText) (validateScope s)
  a.outboundAudiences.forM fun o =>
    checkAnswer ("outbound-audiences: " ++ o.toText) (validateBoundedContext o)

/-- How `main` ends, where it throws nothing. -/
inductive Ending where
  | helped
  | unaimed
  | invalid (message : String)
  | refused (dir : Path)
  | scaffolded
  deriving DecidableEq, Repr

/-- The number `main` returns. -/
def Ending.code : Ending → Nat
  | helped | scaffolded => 0
  | unaimed | invalid _ => 2
  | refused _ => 3

def templateData (env : Scaffolder Content) (answers : PromptAnswers) : TemplateData where
  answers := answers
  sdkVersion := env.cliVersion
  hasOutbound := answers.outboundAudiences ≠ []

def main (env : Scaffolder Content) (cwd : Path) (argv : List String) (disk : Disk Content) :
    Disk Content × Except ScaffoldFault Ending :=
  let args := parseArgs argv
  if args.help then (disk, .ok .helped)
  else if args.targetDir = "" then (disk, .ok .unaimed)
  else
    let target := resolve cwd args.targetDir
    match answersOf env cwd args disk.tree with
    | .error fault => (disk, .error fault)
    | .ok answers =>
        match validateAll answers with
        | .error message => (disk, .ok (.invalid message))
        | .ok _ =>
            match assertEmptyDir disk.tree target (args.force || args.existingApp) with
            | .error (.refused dir) => (disk, .ok (.refused dir))
            | .error fault => (disk, .error fault)
            | .ok _ =>
                match renderTemplate env.render env.template target (templateData env answers)
                    args.existingApp disk with
                | (after, .ok _) => (after, .ok .scaffolded)
                | (after, .error fault) => (after, .error fault)

end S2s
