import ChefDsl.Entity
import ChefDsl.Source.Writer

/-! The DSL file of an entity: one call for each of its properties, with blank lines between them. A draft is what is
written before the text is finished. -/

namespace ChefDsl

def RunList.values (items : RunList) : List Value := items.map fun item => .string item.toString

namespace Role
open Source

def header : Text := "# encoding: utf-8".toList

/-- Run lists are written by environment only from the second one on. A role with fewer is written with its
global run list, whatever the single list by environment holds. -/
def writesByEnvironment (role : Role) : Bool := 1 < role.envRunLists.length

def runListCall (role : Role) : String × List Value :=
  if role.writesByEnvironment then
    ("env_run_lists", [.hash (role.envRunLists.map fun entry => (entry.1, .array entry.2.values))])
  else ("run_list", role.runList.values)

def draft (role : Role) : Writing Unit := do
  Writer.write header
  Writer.newLine
  Writer.newLine
  Writer.call "name" [.string role.name]
  Writer.newLine
  Writer.call "description" [.string role.description]
  Writer.newLine
  Writer.call "default_attributes" [.hash role.defaultAttributes]
  Writer.newLine
  Writer.call "override_attributes" [.hash role.overrideAttributes]
  Writer.newLine
  Writer.call role.runListCall.1 role.runListCall.2
  Writer.newLine

def source (role : Role) : Except Error Text := Writer.finished role.draft

end Role

namespace Environment
open Source

def draft (environment : Environment) : Writing Unit := do
  Writer.call "name" [.string environment.name]
  Writer.newLine
  Writer.call "description" [.string environment.description]
  Writer.newLine
  environment.cookbookVersions.forM fun entry => Writer.call "cookbook" [.string entry.1, .string entry.2]
  Writer.newLine
  Writer.call "default_attributes" [.hash environment.defaultAttributes]
  Writer.newLine
  Writer.call "override_attributes" [.hash environment.overrideAttributes]
  Writer.newLine

def source (environment : Environment) : Except Error Text := Writer.finished environment.draft

end Environment

def Entity.draft : Entity → Source.Writing Unit
  | .role value => value.draft
  | .environment value => value.draft

def Entity.source : Entity → Except Error Text
  | .role value => value.source
  | .environment value => value.source

end ChefDsl
