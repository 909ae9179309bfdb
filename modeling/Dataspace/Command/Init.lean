/-
The command that writes a configuration file to begin with.
-/
import Dataspace.Command.Desk
import Dataspace.Config.Template

namespace Dataspace.Command

variable {σ η : Type}

/-- Writes the template of a profile into a directory, unless there is a configuration
already; gives the path of the file. -/
def writeConfiguration (directory : String) (profile : Profile) : Command σ η String := fun d =>
  let path := Path.join directory configFileName
  if d.disk.doesExist path then (.error ⟨[], .configurationExists path⟩, d)
  else match d.disk.write path (Text.Utf8.encode profile.template) with
    | .ok disk => (.ok path, { d with disk := disk })
    | .error fault => (.error ⟨[.writingFile path], .file fault⟩, d)

/-- The command. -/
def init (directory : String) (profile : Profile) : Command σ η Unit := do
  let path ← writeConfiguration directory profile
  sayAll
    [s!"Created {path}",
     "  edit [connector] and [registry] before running `idsprov provision`"]

end Dataspace.Command
