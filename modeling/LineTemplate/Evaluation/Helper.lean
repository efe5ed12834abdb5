import LineTemplate.Script.Iteration
import LineTemplate.Template.Code

/-!
What generated code calls: the conversion of a field to text and the lines of a list. Both read an
expression by calling a function, so that a name without a value is told apart from other failures.
A scope that has a function `toText` uses it for every conversion.
-/

set_option autoImplicit false

namespace LineTemplate

open Script

def conversionName : Text := "toText"

def indexedName : Text := "indexed"

def entriesName : Text := "entries"

namespace Script.Run

def isReferenceError (v : Value) : Run Bool := do
  match v with
  | .ref _ =>
    if ← isFunction v then return false
    match ← member v "name" with
    | .text name => return name = "ReferenceError"
    | _ => return false
  | _ => return false

def readExpression (engine : Engine) (frames : List Frame) (read : Value) (expression : Text) :
    Run Value := do
  if !(← isFunction read) then raiseType frames "read is not a function"
  tryCatch (engine.call frames read .undefined []) fun stop => do
    match stop with
    | .thrown v =>
      if ← isReferenceError v then raise frames (.undefinedReference expression none)
      else throw stop
    | .unfollowed => throw stop

def convertValue (engine : Engine) (frames : List Frame) (scope : Nat) (v : Value)
    (expression : Text) : Run Text := do
  if v.isMissing then raise frames (.undefinedReference expression none)
  let convert ← member (.ref scope) conversionName
  if ← isFunction convert then
    match ← engine.call frames convert .undefined [v] with
    | .text t => return t
    | other => raise frames (.badConversion (← describeType other) none)
  else textOf engine frames v

def pushLine (engine : Engine) (frames : List Frame) (output : Value) (line : Text) : Run Unit := do
  if output.isMissing then
    raiseType frames (("Cannot read properties of " : Text) ++ plainText output ++
      (" (reading 'push')" : Text))
  let push ← member output "push"
  if ← isFunction push then discard (engine.call frames push output [.text line])
  else raiseType frames "out.push is not a function"

def listSource (engine : Engine) (frames : List Frame) (v : Value) (expression : Text) :
    Run Value := do
  if v.isMissing then raise frames (.undefinedReference expression none)
  let source ← if ← isFunction v then engine.call frames v .undefined [] else pure v
  if ← isSequenceObject source then return source
  raiseType frames (("'" : Text) ++ expression ++
    ("' is not a sequence or a function returning one (got " : Text) ++ (← describeType source) ++
    (")" : Text))

/-- Adds a line for each item of a list. An item without text gives an empty line; a list without
items gives its indentation, if it has one. -/
def emitLines (engine : Engine) (frames : List Frame) (scope : Nat) (output v : Value)
    (indent expression : Text) : Run Unit := do
  let source ← listSource engine frames v expression
  match ← open? source with
  | none => return ()
  | some cursor =>
    let emit (_ : Bool) (item : Value) : Run Bool := do
      let content ← convertValue engine frames scope item expression
      pushLine engine frames output (if content.isEmpty then [] else indent ++ content)
      return true
    let found ← fold engine frames emit (← loopLimit source) false cursor
    if !found && !indent.isEmpty then pushLine engine frames output indent

/-- Sets a scope entry that its owner has not set. -/
def provideMember (scope : Nat) (key : Text) (f : Native) : Run Unit := do
  match ← object? scope with
  | some o => if o.members.has key then return () else setMember scope key (← allocateFunction f)
  | none => return ()

def readOnlyMessage (key : Text) : Text :=
  ("Cannot assign to read only property '" : Text) ++ key ++ ("' of object '#<Object>'" : Text)

/-- Assigns to an entry of a scope whose read-only entries have the names `fixed`. -/
def assignEntry (frames : List Frame) (fixed : List Text) (scope : Nat) (key : Text) (value : Value) :
    Run Unit :=
  if fixed.contains key then raiseType frames (readOnlyMessage key)
  else modifyObject scope fun o => { o with members := o.members.assign key value }

def prepareScopeWith (frames : List Frame) (fixed : List Text) (scope : Nat) : Run Unit := do
  provideMember scope indexedName .indexed
  provideMember scope entriesName .entries
  assignEntry frames fixed scope textHelperName (← allocateFunction (.textHelper scope))
  assignEntry frames fixed scope listHelperName (← allocateFunction (.listHelper scope))

def prepareScope (scope : Nat) : Run Unit := prepareScopeWith [] [] scope

theorem assignEntry_of_notMem (frames : List Frame) {fixed : List Text} (scope : Nat) {key : Text}
    (free : key ∉ fixed) (value : Value) :
    assignEntry frames fixed scope key value =
      modifyObject scope fun o => { o with members := o.members.assign key value } :=
  if_neg fun listed => free (List.contains_iff_mem.1 listed)

theorem assignEntry_of_ne (frames : List Frame) {fixed : List Text} (scope : Nat) {key : Text}
    (free : key ∉ fixed) (named : key ≠ Members.prototypeName) (value : Value) :
    assignEntry frames fixed scope key value = setMember scope key value := by
  unfold setMember
  simp only [assignEntry_of_notMem frames scope free, Members.assign_of_ne _ named]

theorem prepareScopeWith_eq (frames : List Frame) {fixed : List Text} (scope : Nat)
    (text : textHelperName ∉ fixed) (list : listHelperName ∉ fixed) :
    prepareScopeWith frames fixed scope = (do
      provideMember scope indexedName .indexed
      provideMember scope entriesName .entries
      setMember scope textHelperName (← allocateFunction (.textHelper scope))
      setMember scope listHelperName (← allocateFunction (.listHelper scope))) := by
  unfold prepareScopeWith
  simp only [assignEntry_of_ne frames scope text (by decide), assignEntry_of_ne frames scope list (by decide)]

theorem prepareScopeWith_nil (frames : List Frame) (scope : Nat) :
    prepareScopeWith frames [] scope = prepareScope scope := by
  unfold prepareScope
  rw [prepareScopeWith_eq frames scope List.not_mem_nil List.not_mem_nil,
    prepareScopeWith_eq [] scope List.not_mem_nil List.not_mem_nil]

def indexedItems (frames : List Frame) (v : Value) : Run Value := do
  if ← isSequenceObject v then allocateKind (.generator (.indexed v))
  else
    raiseType frames
      (("indexed() expects an iterable (got " : Text) ++ (← describeType v) ++ (")" : Text))

def entryPairs (frames : List Frame) (v : Value) : Run Value := do
  match v, ← kind? v with
  | _, some (.map pairs) =>
    allocateArray (← pairs.mapM fun (key, value) => allocateArray [key, value])
  | .ref address, some kind =>
    if kind.isFunction then refuse
    else
      allocateArray (← (← listedMembers address).mapM fun (key, value) =>
        allocateArray [.text key, value])
  | _, _ => refuse
where
  refuse : Run Value := do
    raiseType frames
      (("entries() expects a Map or an object (got " : Text) ++ (← describeType v) ++ (")" : Text))

end Script.Run

end LineTemplate
