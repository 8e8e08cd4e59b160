import EntityPack.Identifier
import EntityPack.Text

/-!
# Branches

A branch is a name for a loop state that other states may mention before the state exists. The
registry holds, in order of first mention, the target of each name once it is known and the states
that connect to it. An id is replaced when it is a branch name as a whole; in a text every branch
name that stands as a token is replaced, one branch after the other.
-/
namespace EntityPack

structure Branch where
  name : String
  target : Option StateId := none
  sources : List StateId := []
  deriving DecidableEq, Repr, Inhabited

abbrev Registry := List Branch

structure ResolvedBranch where
  name : String
  target : StateId
  sources : List StateId
  deriving DecidableEq, Repr

namespace Branch

def conditionWords : List String := ["query", "skin_id", "all_animations_finished"]

/-- Whether a name collides with a generated id or with a word of a generated condition. -/
def isReserved (name : String) : Bool :=
  name == hubState || conditionWords.contains name ||
  match name.toList with
  | 's' :: 't' :: 'a' :: 't' :: 'e' :: '_' :: digits =>
    !digits.isEmpty && digits.all Char.isDigit
  | _ => false

def resolved (b : Branch) : Except BuildError ResolvedBranch :=
  match b.target with
  | some target => .ok ⟨b.name, target, b.sources⟩
  | none => .error (.unresolvedBranch b.name (b.sources.map StateId.label))

end Branch

namespace Registry

def get? (name : String) (r : Registry) : Option Branch := r.find? (·.name == name)

/-- Changes the branch of a name, which is added at the end if it is new. -/
def update (name : String) (f : Branch → Branch) : Registry → Registry
  | [] => [f { name }]
  | b :: rest => if b.name = name then f b :: rest else b :: update name f rest

def checkTarget (name : String) (state : StateId) (r : Registry) : Except BuildError Unit :=
  match (get? name r).bind (·.target) with
  | some existing =>
    if existing = state then .ok ()
    else .error (.duplicateBranchTarget name existing.label state.label)
  | none => .ok ()

def setTarget (name : String) (state : StateId) (r : Registry) : Except BuildError Registry :=
  (checkTarget name state r).map fun _ => update name (fun b => { b with target := some state }) r

def addSource (name : String) (state : StateId) (r : Registry) : Registry :=
  update name (fun b =>
    if b.sources.contains state then b else { b with sources := b.sources ++ [state] }) r

/-- Every branch with its target, or the first one that never got a target. -/
def resolved (r : Registry) : Except BuildError (List ResolvedBranch) := r.mapM Branch.resolved

end Registry

namespace Branch

def substituteId (branches : List ResolvedBranch) (id : String) : String :=
  match branches.find? (·.name == id) with
  | some branch => branch.target.label
  | none => id

def substituteText (branches : List ResolvedBranch) (text : String) : String :=
  branches.foldl (fun text branch => Text.replaceToken branch.name branch.target.label text) text

end Branch
end EntityPack
