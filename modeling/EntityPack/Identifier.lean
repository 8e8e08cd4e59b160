import EntityPack.Text

/-!
# Identifiers and causes of failure

Ids made from display names, names with an optional scope in front, the generated ids of loop states
and the conditions that test them. Every builder operation that can refuse its input says why with
one of the causes.
-/
namespace EntityPack

/-- The id that a display name stands for: small letters, and underscores for spaces. -/
def idOfName (name : String) : String :=
  String.ofList ((Text.lowercase name).toList.map fun c => if c = ' ' then '_' else c)

def qualify (scope : Option String) (name : String) : String :=
  match scope with
  | some scope => scope ++ ":" ++ name
  | none => name

def hubState : String := "init"

/-- The position of a loop state in its entity. -/
structure StateId where
  index : Nat
  deriving DecidableEq, Repr, Inhabited

namespace StateId

def label (s : StateId) : String := "state_" ++ toString s.index

def next (s : StateId) : StateId := ⟨s.index + 1⟩

def prev? (s : StateId) : Option StateId :=
  match s.index with
  | 0 => none
  | n + 1 => some ⟨n⟩

def first : StateId := ⟨0⟩

def isFirst (s : StateId) : Bool := s.index == 0

def activeCondition (s : StateId) : String := "query.skin_id==" ++ toString s.index

def inactiveCondition (s : StateId) : String := "query.skin_id!=" ++ toString s.index

end StateId

def finishedCondition : String := "query.all_animations_finished"

inductive ControllerKind where
  | behavior
  | render
  deriving DecidableEq, Repr

def ControllerKind.name : ControllerKind → String
  | .behavior => "behavior"
  | .render => "render"

inductive Severity where
  | validation
  | fatal
  deriving DecidableEq, Repr

def Severity.name : Severity → String
  | .validation => "validation"
  | .fatal => "fatal"

inductive BuildError where
  | controllerIndex (kind : ControllerKind) (index count : Nat)
  | duplicateState (controller state : String)
  | unresolvedBranch (name : String) (sources : List String)
  | duplicateBranchTarget (name existing requested : String)
  | reservedBranchName (name : String)
  | incompleteEffect
  | tagEventMismatch (tags events : Nat)
  | variableType (name : String)
  deriving DecidableEq, Repr

namespace BuildError

/-- Only a reference to a controller that was never created is fatal. -/
def severity : BuildError → Severity
  | .controllerIndex .. => .fatal
  | _ => .validation

def code : BuildError → String
  | .controllerIndex .. => "controller_index"
  | .duplicateState .. => "duplicate_state"
  | .unresolvedBranch .. => "unresolved_branch"
  | .duplicateBranchTarget .. => "duplicate_branch_target"
  | .reservedBranchName .. => "reserved_branch_name"
  | .incompleteEffect => "missing_parameter"
  | .tagEventMismatch .. => "tag_event_mismatch"
  | .variableType .. => "variable_type"

def message : BuildError → String
  | .controllerIndex kind index count =>
    kind.name ++ " controller index " ++ toString index ++ " out of range (" ++
      toString count ++ " created)"
  | .duplicateState controller state =>
    "controller `" ++ controller ++ "` already has a state named `" ++ state ++ "`"
  | .unresolvedBranch name sources =>
    "branch `" ++ name ++ "` was connected from " ++ Text.quotedList sources ++
      " but never given a target state"
  | .duplicateBranchTarget name existing requested =>
    "branch `" ++ name ++ "` already targets `" ++ existing ++ "`, cannot retarget to `" ++
      requested ++ "`"
  | .reservedBranchName name =>
    "branch name `" ++ name ++ "` collides with a generated state id or condition token"
  | .incompleteEffect =>
    "attack component: effect_id and effect_duration must both be given or both be omitted"
  | .tagEventMismatch tags events =>
    "tag sensor has " ++ toString tags ++ " tags but " ++ toString events ++ " events"
  | .variableType name =>
    "string variable `%" ++ name ++
      "` is not a string and can only replace a whole value"

end BuildError
end EntityPack
