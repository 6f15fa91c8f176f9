import Middleware.Toml.Statement

namespace Middleware.Toml

/-!
# Reading documents
-/

/-- A document in the making: its root, and the table that assignments go to. -/
structure Draft where
  root : Section
  current : List String

namespace Draft

/-- The draft of a document without statements. -/
def blank : Draft :=
  ⟨.written, []⟩

/-- Carry out a statement, unless the tables do not allow it. -/
def obey
    (draft : Draft) :
    Statement →
    Option Draft
  | .assignment target value => do
      let root ←
        draft.root.editAt false
          (fun table => table.assign target.path target.last value)
          draft.current
      return { draft with root := root }
  | .tableHeader target => do
      let root ← draft.root.openTable target.path target.last
      return ⟨root, target.path ++ [target.last]⟩
  | .seriesHeader target => do
      let root ← draft.root.extendSeries target.path target.last
      return ⟨root, target.path ++ [target.last]⟩

end Draft

/-- The document that a text writes, if it is one. -/
def parse? (text : String) : Option Document := do
  let (read, _) ← statements text.toList
  let draft ← read.foldlM Draft.obey .blank
  return draft.root.toEntries

end Middleware.Toml
