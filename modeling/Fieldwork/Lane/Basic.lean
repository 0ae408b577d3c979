import Fieldwork.Condition.Basic
import Fieldwork.Fault

/-!
# Lanes

A lane of a process names the users who may act on it: by the roles that they are members of, by
their accounts, or by both.
-/

namespace Fieldwork

structure SiteUser where
  uuid : String
  username : String
  /-- What else the directory knows of the user. -/
  extra : Row

/-- A member of a role, linked by name: a bare name or a user record. -/
inductive Member where
  | name (username : String)
  | record (username : String)
  deriving DecidableEq, Repr

def Member.username : Member → String
  | .name username | .record username => username

structure Role where
  uuid : String
  members : List Member
  deriving DecidableEq, Repr

/-- Look-ups of users and of roles with their members. -/
structure Directory where
  users : Condition → Except Fault (List SiteUser)
  roles : Condition → Except Fault (List Role)

structure Lane where
  id : String
  useRole : Bool
  roles : List String
  useAccount : Bool
  accounts : List String
  deriving DecidableEq, Repr

/-- A search in a directory, which keeps the look-ups it made. -/
abbrev Search := StateT (List Condition) (Except Fault)

namespace Directory

def findUsers (d : Directory) (c : Condition) : Search (List SiteUser) := do
  modify (· ++ [c])
  d.users c

def findRoles (d : Directory) (c : Condition) : Search (List Role) := do
  modify (· ++ [c])
  d.roles c

end Directory

/-- The first of those with the same key, in their order. -/
def firstByKey {α : Type} (key : α → String) : List α → List String → List α
  | [], _ => []
  | a :: rest, seen =>
    if seen.contains (key a) then firstByKey key rest seen
    else a :: firstByKey key rest (key a :: seen)

namespace Lane

/-- The users whose accounts the lane lists. -/
def accountUsers (l : Lane) (d : Directory) : Search (List SiteUser) :=
  if l.useAccount && !l.accounts.isEmpty then d.findUsers (.oneOf "uuid" l.accounts)
  else pure []

/-- The users who are members of the roles the lane lists. -/
def roleUsers (l : Lane) (d : Directory) : Search (List SiteUser) := do
  if l.useRole && !l.roles.isEmpty then
    let roles ← d.findRoles (.oneOf "uuid" l.roles)
    let named := (roles.flatMap Role.members).map Member.username
    match firstByKey (fun name => name) named [] with
    | [] => return []
    | names => d.findUsers (.oneOf "username" names)
  else return []

/-- Users found through roles come first; each is listed once. -/
def users (l : Lane) (d : Directory) : Search (List SiteUser) := do
  let byRole ← l.roleUsers d
  let byAccount ← l.accountUsers d
  return firstByKey SiteUser.uuid (byRole ++ byAccount) []

end Lane

end Fieldwork
