import WideTable.Text.Blank

namespace WideTable

structure Config where
  projectId  : String
  instanceId : String
  -- The routing profile that goes with each request.
  profile    : Option String := none
  deriving DecidableEq, Repr

inductive IdError
  | empty
  | separated
  deriving DecidableEq, Repr

def IdError.reason : IdError → String
  | empty => "must not be empty"
  | separated => "must not contain '/' or whitespace"

-- Ids become parts of a path, so they are not empty, and neither `/` nor white space is in them.
def checkId (id : String) : Except IdError Unit :=
  if id.isEmpty then throw .empty
  else if id.toList.any fun c => c == '/' || Text.isBlank c then throw .separated
  else return

namespace Config

inductive Key
  | projectId
  | instanceId
  | profile
  deriving DecidableEq, Repr

def Key.name : Key → String
  | projectId => "project_id"
  | instanceId => "instance_id"
  | profile => "app_profile_id"

structure Invalid where
  key   : Key
  error : IdError
  deriving DecidableEq, Repr

def Invalid.message (e : Invalid) : String :=
  "invalid " ++ e.key.name ++ ": " ++ e.error.reason

def checkKey (key : Key) (id : String) : Except Invalid Unit :=
  (checkId id).mapError fun error => ⟨key, error⟩

def validate (c : Config) : Except Invalid Unit := do
  checkKey .projectId c.projectId
  checkKey .instanceId c.instanceId
  match c.profile with
  | some profile => checkKey .profile profile
  | none => return

end Config
end WideTable
