/-
Creation payloads, one record for each kind of entity.

A payload is what is posted to create an entity.  Optional members are left out
of its JSON form when absent, as are empty lists of keywords and of supported
usage policies; the same members take the example offer's values when a payload
is read without them.  So reading back a written payload can only fill in what
was left out.  A contract has no defaults: both ends of its window are needed.
-/
import Dataspace.Json.Record

namespace Dataspace

/-! ## The records -/

/-- A catalog groups offered resources; it may have no members at all. -/
structure CatalogPayload where
  title : Option String
  description : Option String
deriving DecidableEq

/-- An offered resource. -/
structure ResourcePayload where
  title : Option String
  description : Option String
  keywords : List String
  publisher : Option String
  sovereign : Option String
  language : Option String
  license : Option String
  paymentMethod : Option String
deriving DecidableEq

/-- A technical form of a resource. -/
structure RepresentationPayload where
  title : Option String
  description : Option String
  language : Option String
  runtimeEnvironment : Option String
  distributionService : Option String
deriving DecidableEq

/-- A data app. -/
structure AppPayload where
  title : Option String
  description : Option String
  docs : Option String
  /-- Pairs `KEY=value` separated by `;`. -/
  environmentVariables : Option String
  storageConfig : Option String
  supportedUsagePolicies : List String
deriving DecidableEq

/-- A network access point of an app. -/
structure EndpointPayload where
  title : Option String
  description : Option String
  location : Option String
  mediaType : Option String
  port : Option UInt16
  protocol : Option String
  /-- The role of the endpoint: `Input`, `Output` or `Status`. -/
  role : Option String
  docs : Option String
  info : Option String
  path : Option String
deriving DecidableEq

/-- The content that a representation exposes. -/
structure ArtifactPayload where
  title : String
  description : String
  /-- The content itself, in line. -/
  value : String
deriving DecidableEq

/-- A validity window in RFC 3339 form. -/
structure ContractPayload where
  start : String
  finish : String
deriving DecidableEq

/-- A usage rule; `value` is a policy document as JSON text. -/
structure RulePayload where
  title : Option String
  description : Option String
  value : String
deriving DecidableEq

/-! ## The usage policy of the example offer -/

/-- A policy that allows at most five uses of its target. -/
def usageLimitPolicy : String :=
  "\n".intercalate
    ["\x7b",
     "  \"@context\" : \x7b",
     "    \"xsd\" : \"http://www.w3.org/2001/XMLSchema#\",",
     "    \"ids\" : \"https://w3id.org/idsa/core/\",",
     "    \"idsc\" : \"https://w3id.org/idsa/code/\"",
     "  \x7d,",
     "  \"@type\" : \"ids:Permission\",",
     "  \"@id\" : \"https://w3id.org/idsa/autogen/permission/00f09a77-0f0f-474d-8198-5195ef55e0eb\",",
     "  \"ids:title\" : [ \x7b",
     "    \"@value\" : \"Example Usage Policy\",",
     "    \"@type\" : \"http://www.w3.org/2001/XMLSchema#string\"",
     "  \x7d ],",
     "  \"ids:description\" : [ \x7b",
     "    \"@value\" : \"n-times-usage\",",
     "    \"@type\" : \"http://www.w3.org/2001/XMLSchema#string\"",
     "  \x7d ],",
     "  \"ids:action\" : [ \x7b",
     "    \"@id\" : \"https://w3id.org/idsa/code/USE\"",
     "  \x7d ],",
     "  \"ids:constraint\" : [ \x7b",
     "    \"@type\" : \"ids:Constraint\",",
     "    \"@id\" : \"https://w3id.org/idsa/autogen/constraint/e0a353a2-ef1d-4932-b3cf-a5a0a5a1455e\",",
     "    \"ids:operator\" : \x7b",
     "      \"@id\" : \"https://w3id.org/idsa/code/LTEQ\"",
     "    \x7d,",
     "    \"ids:leftOperand\" : \x7b",
     "      \"@id\" : \"https://w3id.org/idsa/code/COUNT\"",
     "    \x7d,",
     "    \"ids:rightOperand\" : \x7b",
     "      \"@value\" : \"5\",",
     "      \"@type\" : \"xsd:double\"",
     "    \x7d",
     "  \x7d ]",
     "\x7d"]

/-! ## The payloads of the example offer -/

def CatalogPayload.sample : CatalogPayload :=
  ⟨none, none⟩

def ResourcePayload.sample : ResourcePayload where
  title := some "HelloWorldDataProcessingApp"
  description := some "data app for processing data."
  keywords := ["data", "processing", "fit"]
  publisher := some "https://fit.fraunhofer.de"
  sovereign := some "https://fit.fraunhofer.de"
  language := some "EN"
  license := some "https://www.apache.org/licenses/LICENSE-2.0"
  paymentMethod := some "free"

def RepresentationPayload.sample : RepresentationPayload where
  title := some "Docker Representation"
  description := some "This is the docker representation for the DataProcessingApp"
  language := some "EN"
  runtimeEnvironment := some "docker"
  distributionService := some "https://binac.fit.fraunhofer.de"

def AppPayload.sample : AppPayload where
  title := some "DataApp Information"
  description := some "This is the dataApp information for the DataProcessingApp."
  docs := some "App-related human-readable documentation."
  environmentVariables := some "Env1=environmentvariable;Env2=environmentvariable2"
  storageConfig := some "/data/temp:/temp"
  supportedUsagePolicies := ["PROVIDE_ACCESS"]

def EndpointPayload.sample : EndpointPayload where
  title := some "DataApp Input Endpoint"
  description := some "This is the input endpoint for the DataProcessingApp."
  location := some "/output"
  mediaType := some "application/json"
  port := some 80
  protocol := some "HTTP/1.1"
  role := some "Output"
  docs := some "https://app.swaggerhub.com/apis/app/1337"
  info := some "More information about the endpoint"
  path := some "/output"

def ArtifactPayload.sample : ArtifactPayload :=
  ⟨"", "", ""⟩

def RulePayload.sample : RulePayload :=
  ⟨none, none, usageLimitPolicy⟩

/-- An endpoint without title at `path` on `port`. -/
def EndpointPayload.atPath (path : String) (port : UInt16) (role : String) : EndpointPayload where
  title := none
  description := none
  location := some path
  mediaType := some "application/json"
  port := some port
  protocol := some "HTTP/1.1"
  role := some role
  docs := some "https://app.swaggerhub.com/apis/app/1337"
  info := some "Endpoint-related human-readable information"
  path := some path

end Dataspace
