/-
The configuration files that are written to begin with, one for each profile.
-/
import Dataspace.Config.Basic

namespace Dataspace.Profile

/-- Lines, each with its line end. -/
def document (lines : List String) : String :=
  String.join (lines.map (· ++ "\n"))

/-- A connector in the network. -/
def remoteLines : List String :=
  ["profile = \"remote\"", "",
   "[connector]",
   "url = \"https://connector.example.org\"",
   "username = \"admin\"",
   "password = \"password\"",
   "insecure_tls = false",
   "read_delay_secs = 5", "",
   "[registry]",
   "address = \"registry.example.org\"",
   "repository = \"ids-apps\"",
   "username = \"robot\"",
   "password = \"change-me\"", "",
   "[image]",
   "name = \"tutum/hello-world:latest\"",
   "version = \"latest\"", "",
   "[negotiation]",
   "download = false"]

/-- A connector on the local host. -/
def localLines : List String :=
  ["profile = \"local\"", "",
   "[connector]",
   "url = \"https://localhost:8080\"",
   "username = \"admin\"",
   "password = \"password\"",
   "insecure_tls = true",
   "read_delay_secs = 5", "",
   "[registry]",
   "address = \"localhost:5000\"",
   "repository = \"ids-apps\"",
   "username = \"admin\"",
   "password = \"password\"", "",
   "[image]",
   "name = \"tutum/hello-world:latest\"",
   "version = \"latest\"", "",
   "[negotiation]",
   "recipient = \"https://localhost:8080/api/ids/data\"",
   "download = false"]

/-- The configuration file to begin with. -/
def template : Profile → String
  | remote => document remoteLines
  | onLocalHost => document localLines

end Dataspace.Profile
