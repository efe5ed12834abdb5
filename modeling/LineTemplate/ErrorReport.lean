import LineTemplate.Number.Printing

/-!
Errors as a caller sees them: a name, a message and the facts that belong to the kind of error. Each
kind has its usual message; a caller that builds an error may give another one.
-/

set_option autoImplicit false

namespace LineTemplate

inductive PathStep where
  | key (name : Text)
  | position (index : Nat)
deriving DecidableEq, Repr

namespace PathStep

def text : PathStep → Text
  | .key name => name
  | .position index => Text.ofNat index

end PathStep

structure OptionIssue where
  path : List PathStep
  message : Text
deriving DecidableEq, Repr

inductive ErrorDetail where
  | none
  /-- A template includes a name that nobody supplied. -/
  | unresolvedInclude (includeName templateName : Text) (line : Int)
  /-- A template ends up including itself. -/
  | includeCycle (chain : List Text)
  | invalidOptions (optionSet : Text) (issues : List OptionIssue)
  /-- An expression has no value. -/
  | undefinedReference (expression : Text)
  /-- A conversion gave something other than text. -/
  | badConversion (resultType : Text)
  /-- A file is not usable. -/
  | file (path : Text)
deriving DecidableEq, Repr

structure ErrorReport where
  name : Text
  message : Text
  detail : ErrorDetail
deriving DecidableEq, Repr

namespace ErrorReport

def plain (name : String) (message : Text) : ErrorReport := ⟨name, message, .none⟩

def unresolvedInclude (includeName templateName : Text) (line : Int)
    (message : Option Text) : ErrorReport where
  name := "UnresolvedIncludeError"
  message := message.getD (("Template \"" : Text) ++ templateName ++
    ("\" includes unknown template \"" : Text) ++ includeName ++ ("\" at line " : Text) ++
    Number.textOfInt line)
  detail := .unresolvedInclude includeName templateName line

def includeCycle (chain : List Text) (message : Option Text) : ErrorReport where
  name := "IncludeCycleError"
  message := message.getD (("Circular template inclusion: " : Text) ++ Text.join " -> " chain)
  detail := .includeCycle chain

def invalidOptions (optionSet : Text) (issues : List OptionIssue)
    (message : Option Text) : ErrorReport where
  name := "TemplateOptionsError"
  message := message.getD (("Invalid " : Text) ++ optionSet ++ (": " : Text) ++
    Text.ofNat issues.length ++ (" validation error(s)" : Text))
  detail := .invalidOptions optionSet issues

def undefinedReference (expression : Text) (message : Option Text) : ErrorReport where
  name := "UndefinedReferenceError"
  message := message.getD (("Expression '" : Text) ++ expression ++
    ("' is undefined in the current scope" : Text))
  detail := .undefinedReference expression

def badConversion (resultType : Text) (message : Option Text) : ErrorReport where
  name := "BadConversionError"
  message := message.getD (("The 'toText' function did not return a string (got " : Text) ++
    resultType ++ (")" : Text))
  detail := .badConversion resultType

def templateLoad (path : Text) (message : Option Text) : ErrorReport where
  name := "TemplateLoadError"
  message := message.getD (("Failed to load template: " : Text) ++ path)
  detail := .file path

def variablesFile (path : Text) (message : Option Text) : ErrorReport where
  name := "VarsFileError"
  message := message.getD (("Invalid variables file: " : Text) ++ path)
  detail := .file path

def config (message : Text) : ErrorReport := plain "ConfigError" message

def issueListing (optionSet : Text) (issues : List OptionIssue) : Text :=
  let row (issue : OptionIssue) : Text :=
    let place : Text :=
      if issue.path.isEmpty then "(root)" else Text.join "." (issue.path.map PathStep.text)
    ("  - " : Text) ++ place ++ (": " : Text) ++ issue.message
  Text.join "\n" ((("Invalid " : Text) ++ optionSet ++ (":" : Text)) :: issues.map row)

def headline (e : ErrorReport) : Text := e.name ++ (": " : Text) ++ e.message

end ErrorReport

end LineTemplate
