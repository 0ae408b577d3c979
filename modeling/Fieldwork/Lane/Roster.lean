import Fieldwork.Lane.Document

/-!
# Rosters

A directory kept as lists. A record is looked up by the members of its document; only equality and
being one of a list are understood.
-/

namespace Fieldwork

/-- The users and roles of a directory in memory, whose look-ups may be made to fail. -/
structure Roster where
  users : List SiteUser
  roles : List Role
  rolesUnavailable : Bool := false
  /-- Look-ups of users by this key fail. -/
  failingKey : Option String := none

namespace Rule

/-- A rule on a record that stands in memory; only membership and equality are known. -/
def admits (record : Json) (r : Rule) : Bool :=
  match record.get? r.key with
  | none => false
  | some current =>
    match r.operator, r.value with
    | .isIn, .array items => items.any (· == current)
    | .equals, value => value == current
    | _, _ => false

end Rule

namespace Condition

mutual

/-- A record meets a group by all of its members or by one of them. -/
def admits (record : Json) : Condition → Bool
  | .rule r => Rule.admits record r
  | .group .and members => admitsAll record members
  | .group .or members => admitsAny record members

def admitsAll (record : Json) : List Condition → Bool
  | [] => true
  | c :: cs => admits record c && admitsAll record cs

def admitsAny (record : Json) : List Condition → Bool
  | [] => false
  | c :: cs => admits record c || admitsAny record cs

end

/-- The condition is a single rule on that key. -/
def isOnKey (key : String) : Condition → Bool
  | .rule r => r.key = key
  | _ => false

end Condition

namespace Roster

/-- The records whose documents meet the condition, in their order. -/
def matching {α : Type} (document : α → Document) (c : Condition) (records : List α) : List α :=
  records.filter fun record => (document record).json?.any fun v => Condition.admits v c

/-- The users that meet a condition, unless look-ups by its key fail. -/
def findUsers (r : Roster) (c : Condition) : Except Fault (List SiteUser) :=
  match r.failingKey with
  | some key =>
    if c.isOnKey key then .error (.transient ("user lookup by " ++ key ++ " unavailable"))
    else .ok (matching SiteUser.document c r.users)
  | none => .ok (matching SiteUser.document c r.users)

/-- The roles that meet a condition, unless they cannot be looked up. -/
def findRoles (r : Roster) (c : Condition) : Except Fault (List Role) :=
  if r.rolesUnavailable then .error (.failed "role lookup unavailable")
  else .ok (matching Role.document c r.roles)

/-- The look-ups of a roster. -/
def directory (r : Roster) : Directory :=
  { users := r.findUsers, roles := r.findRoles }

end Roster

end Fieldwork
