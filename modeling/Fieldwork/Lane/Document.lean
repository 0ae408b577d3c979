import Fieldwork.Json.Decode
import Fieldwork.Lane.Basic

/-!
# Lanes, users and roles as documents
-/

namespace Fieldwork

open Document

namespace SiteUser

/-- Only an object stands for a user; all members that are not named here are kept. -/
def ofDocument? : Document → Option SiteUser
  | .object members => do
    match ← (Document.object members).members? [["uuid"], ["username"]] with
    | [uuid, username] =>
      let uuid ← required string? uuid
      let username ← required string? username
      let extra ← row? (.object (members.filter fun member =>
        member.1 ≠ "uuid" ∧ member.1 ≠ "username"))
      return { uuid, username, extra }
    | _ => none
  | _ => none

def document (u : SiteUser) : Document :=
  .object (("uuid", .string u.uuid) :: ("username", .string u.username)
    :: Json.documentMembers u.extra)

end SiteUser

namespace Member

/-- A name, or an object that has one; nothing in it may be unreadable. -/
def ofDocument? : Document → Option Member
  | .string username => some (.name username)
  | .object members => do
    let _ ← (Document.object members).json?
    match ← (Document.object members).members? [["username"]] with
    | [username] => return .record (← required string? username)
    | _ => none
  | _ => none

def document : Member → Document
  | .name username => .string username
  | .record username => .object [("username", .string username)]

end Member

namespace Role

def ofDocument? (d : Document) : Option Role := do
  match ← d.members? [["uuid"], ["users"]] with
  | [uuid, members] =>
    let uuid ← required string? uuid
    let members ← orElse [] (list? Member.ofDocument?) members
    return { uuid, members }
  | _ => none

def document (r : Role) : Document :=
  .object [("uuid", .string r.uuid), ("users", .array (r.members.map Member.document))]

end Role

namespace Lane

/-- One id, a list of ids, or none. -/
def idsOf? : Document → Option (List String)
  | .null => some []
  | .string id => some [id]
  | d => list? string? d

def ofDocument? (d : Document) : Option Lane := do
  match ← d.members? [["id"], ["useRole"], ["role"], ["useAccount"], ["account"]] with
  | [id, useRole, roles, useAccount, accounts] =>
    let id ← orElse "" string? id
    let useRole ← orElse false bool? useRole
    let roles ← orElse [] idsOf? roles
    let useAccount ← orElse false bool? useAccount
    let accounts ← orElse [] idsOf? accounts
    return { id, useRole, roles, useAccount, accounts }
  | _ => none

def document (l : Lane) : Document :=
  .object
    [("id", .string l.id), ("useRole", .bool l.useRole), ("role", ofStrings l.roles),
     ("useAccount", .bool l.useAccount), ("account", ofStrings l.accounts)]

end Lane

end Fieldwork
