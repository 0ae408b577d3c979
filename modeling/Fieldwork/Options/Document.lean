import Fieldwork.Condition.Document
import Fieldwork.Options.Basic

/-!
# Query options as documents
-/

namespace Fieldwork

open Document

namespace Direction

def word : Direction → String
  | .ascending => "asc"
  | .descending => "desc"

/-- A direction is read from its word. -/
def ofDocument? (d : Document) : Option Direction := do
  let word ← d.word?
  [Direction.ascending, .descending].find? fun direction => direction.word = word

end Direction

namespace SortEntry

/-- A sort entry goes by either of two names for each member, and ascends by default. -/
def ofDocument? (d : Document) : Option SortEntry := do
  match ← d.members? [["field", "key"], ["direction", "dir"]] with
  | [field, direction] =>
    let field ← required string? field
    let direction ← orElse .ascending Direction.ofDocument? direction
    return { field, direction }
  | _ => none

def document (s : SortEntry) : Document :=
  .object [("field", .string s.field), ("direction", .string s.direction.word)]

end SortEntry

namespace Options

/-- Every member of the options may be left out. -/
def ofDocument? (d : Document) : Option Options := do
  match ← d.members? [["where"], ["sort"], ["offset"], ["limit"], ["columnNames"],
      ["includeRowNumber"], ["includeColumns"], ["rewriteTranslations"],
      ["skipExistingConditions"]] with
  | [condition, sort, offset, limit, columnNames, includeRowNumber, includeColumns,
      mergeTranslations, skipExistingConditions] =>
    let condition ← orElse none (nullable Condition.ofDocument?) condition
    let sort ← orElse [] (list? SortEntry.ofDocument?) sort
    let offset ← orElse none (nullable uint64?) offset
    let limit ← orElse none (nullable uint64?) limit
    let columnNames ← orElse none (nullable (list? string?)) columnNames
    let includeRowNumber ← orElse true bool? includeRowNumber
    let includeColumns ← orElse true bool? includeColumns
    let mergeTranslations ← orElse true bool? mergeTranslations
    let skipExistingConditions ← orElse false bool? skipExistingConditions
    return { condition, sort, offset, limit, columnNames, includeRowNumber, includeColumns,
             mergeTranslations, skipExistingConditions }
  | _ => none

def document (o : Options) : Document :=
  .object
    [("where", ofOption Condition.document o.condition),
     ("sort", .array (o.sort.map SortEntry.document)),
     ("offset", ofOption (fun n => ofNat n.toNat) o.offset),
     ("limit", ofOption (fun n => ofNat n.toNat) o.limit),
     ("columnNames", ofOption ofStrings o.columnNames),
     ("includeRowNumber", .bool o.includeRowNumber),
     ("includeColumns", .bool o.includeColumns),
     ("rewriteTranslations", .bool o.mergeTranslations),
     ("skipExistingConditions", .bool o.skipExistingConditions)]

end Options

namespace User

/-- A user may have no name and no language. -/
def ofDocument? (d : Document) : Option User := do
  match ← d.members? [["username"], ["languageCode"]] with
  | [username, languageCode] =>
    let username ← orElse none (nullable string?) username
    let languageCode ← orElse none (nullable string?) languageCode
    return { username, languageCode }
  | _ => none

def document (u : User) : Document :=
  .object
    [("username", ofOption .string u.username), ("languageCode", ofOption .string u.languageCode)]

end User

end Fieldwork
