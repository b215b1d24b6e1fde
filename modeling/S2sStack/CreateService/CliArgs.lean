import S2sStack.Js.Number

set_option autoImplicit false

/- `cli-args.ts` of the scaffolder. -/
namespace S2s

open Js (Number)

/-- `Partial<PromptAnswers>` -/
structure PartialAnswers where
  serviceName : Option String := none
  boundedContext : Option String := none
  scopes : Option (List String) := none
  containerPort : Option Number := none
  albPathPattern : Option String := none
  environment : Option String := none
  outboundAudiences : Option (List String) := none
  generateSampleCedar : Option Bool := none
  deriving DecidableEq, Repr

structure CliArgs where
  targetDir : String := ""
  nonInteractive : Bool := false
  configPath : Option String := none
  existingApp : Bool := false
  force : Bool := false
  help : Bool := false
  region : Option String := none
  flags : PartialAnswers := {}
  deriving DecidableEq, Repr

/-- `text.startsWith(word)` -/
def startsWith (word text : String) : Bool := (Js.afterWord word.toList text.toList).isSome

/-- `arg.slice(arg.indexOf('=') + 1)` -/
def takeValue (arg : String) : String :=
  match Js.splitFirst '=' arg with
  | some (_, value) => value
  | none => ""

/-- `text.split(',').filter(Boolean)` -/
def nonEmptyItems (text : String) : List String := (Js.split ',' text).filter (· ≠ "")

/-- The options with a value. -/
inductive ValueOption where
  | config
  | region
  | serviceName
  | boundedContext
  | scopes
  | containerPort
  | albPath
  | environment
  | outboundAudiences
  | generateSampleCedar
  deriving DecidableEq, Repr

/-- In the order in which the parser tries them. -/
def ValueOption.all : List ValueOption :=
  [config, region, serviceName, boundedContext, scopes, containerPort, albPath, environment,
    outboundAudiences, generateSampleCedar]

def ValueOption.text : ValueOption → String
  | config => "--config="
  | region => "--region="
  | serviceName => "--service-name="
  | boundedContext => "--bounded-context="
  | scopes => "--scopes="
  | containerPort => "--container-port="
  | albPath => "--alb-path="
  | environment => "--environment="
  | outboundAudiences => "--outbound-audiences="
  | generateSampleCedar => "--generate-sample-cedar="

/-- What an argument is to the parser. -/
inductive Arg where
  | help
  | nonInteractive
  | force
  | existingApp
  | option (name : ValueOption) (value : String)
  | positional (dir : String)
  | ignored
  deriving DecidableEq, Repr

/-- The conditions of the parser's `if` chain, in order. -/
def argOf (a : String) : Arg :=
  if a = "--help" ∨ a = "-h" then .help
  else if a = "--non-interactive" then .nonInteractive
  else if a = "--force" then .force
  else if a = "--existing-app" then .existingApp
  else
    match ValueOption.all.find? (fun name => startsWith name.text a) with
    | some name => .option name (takeValue a)
    | none => if startsWith "-" a then .ignored else .positional a

/-- An argument is one of the flags, an option with a value, or none of them. -/
theorem argOf_cases (a : String) :
    argOf a = .help ∨ argOf a = .nonInteractive ∨ (a = "--force" ∧ argOf a = .force) ∨
      (a = "--existing-app" ∧ argOf a = .existingApp) ∨
      (∃ name, argOf a = .option name (takeValue a)) ∨ argOf a = .ignored ∨
      argOf a = .positional a := by
  unfold argOf
  by_cases help : a = "--help" ∨ a = "-h"
  · simp [help]
  · by_cases alone : a = "--non-interactive"
    · simp [alone]
    · by_cases force : a = "--force"
      · simp [force]
      · by_cases existing : a = "--existing-app"
        · simp [existing]
        · rw [if_neg help, if_neg alone, if_neg force, if_neg existing]
          cases ValueOption.all.find? (fun name => startsWith name.text a) with
          | some name => simp
          | none => by_cases dashed : startsWith "-" a <;> simp [dashed]

/-- The assignments for the options with a value. -/
def assignOption (out : CliArgs) (value : String) : ValueOption → CliArgs
  | .config => { out with configPath := some value }
  | .region => { out with region := some value }
  | .serviceName => { out with flags := { out.flags with serviceName := some value } }
  | .boundedContext => { out with flags := { out.flags with boundedContext := some value } }
  | .scopes => { out with flags := { out.flags with scopes := some (nonEmptyItems value) } }
  | .containerPort =>
      { out with flags := { out.flags with containerPort := some (Js.toNumber value) } }
  | .albPath => { out with flags := { out.flags with albPathPattern := some value } }
  | .environment => { out with flags := { out.flags with environment := some value } }
  | .outboundAudiences =>
      { out with flags := { out.flags with outboundAudiences := some (nonEmptyItems value) } }
  | .generateSampleCedar =>
      { out with flags := { out.flags with generateSampleCedar := some (value = "true") } }

/-- The assignments for one argument; `--existing-app` is here without a directory. -/
def applyArg (out : CliArgs) : Arg → CliArgs
  | .help => { out with help := true }
  | .nonInteractive => { out with nonInteractive := true }
  | .force => { out with force := true }
  | .existingApp => { out with existingApp := true, targetDir := "." }
  | .option name value => assignOption out value name
  | .positional dir => if out.targetDir = "" then { out with targetDir := dir } else out
  | .ignored => out

/-- `next && !next.startsWith('--')`: `--existing-app` takes it as its directory. -/
def isDirectory (next : String) : Bool := next ≠ "" ∧ ¬ startsWith "--" next

/-- The loop of `parseArgs`. -/
def parseFrom (out : CliArgs) : List String → CliArgs
  | [] => out
  | [a] => applyArg out (argOf a)
  | a :: next :: rest =>
      if argOf a = .existingApp ∧ isDirectory next then
        parseFrom { out with existingApp := true, targetDir := next } rest
      else parseFrom (applyArg out (argOf a)) (next :: rest)

def parseArgs (argv : List String) : CliArgs := parseFrom {} argv

end S2s
