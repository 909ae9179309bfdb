/-
The JSON form of payloads.

Each record has a writer and a reader over the same list of member names, in the
order of the record's fields.  The writers leave out absent members; the readers
take missing members from the example payload.
-/
import Dataspace.Payload.Basic

namespace Dataspace

open Json

/-- An optional text. -/
def Json.text? : Json → Option (Option String) :=
  optional asString?

/-- A list of texts. -/
def Json.textList? : Json → Option (List String) :=
  listOf asString?

namespace CatalogPayload

def memberNames : List String :=
  ["title", "description"]

def toJson (p : CatalogPayload) : Json :=
  .object (memberIf "title" .str p.title ++ memberIf "description" .str p.description)

def ofJson? (v : Json) : Option CatalogPayload := do
  match ← v.fields? memberNames with
  | [title, description] =>
    return { title := ← withDefault text? sample.title title
             description := ← withDefault text? sample.description description }
  | _ => none

end CatalogPayload

namespace ResourcePayload

def memberNames : List String :=
  ["title", "description", "keywords", "publisher", "sovereign", "language", "license",
   "paymentMethod"]

def toJson (p : ResourcePayload) : Json :=
  .object (memberIf "title" .str p.title ++ memberIf "description" .str p.description
    ++ textsIf "keywords" p.keywords ++ memberIf "publisher" .str p.publisher
    ++ memberIf "sovereign" .str p.sovereign ++ memberIf "language" .str p.language
    ++ memberIf "license" .str p.license ++ memberIf "paymentMethod" .str p.paymentMethod)

def ofJson? (v : Json) : Option ResourcePayload := do
  match ← v.fields? memberNames with
  | [title, description, keywords, publisher, sovereign, language, license, paymentMethod] =>
    return { title := ← withDefault text? sample.title title
             description := ← withDefault text? sample.description description
             keywords := ← withDefault textList? sample.keywords keywords
             publisher := ← withDefault text? sample.publisher publisher
             sovereign := ← withDefault text? sample.sovereign sovereign
             language := ← withDefault text? sample.language language
             license := ← withDefault text? sample.license license
             paymentMethod := ← withDefault text? sample.paymentMethod paymentMethod }
  | _ => none

end ResourcePayload

namespace RepresentationPayload

def memberNames : List String :=
  ["title", "description", "language", "runtimeEnvironment", "distributionService"]

def toJson (p : RepresentationPayload) : Json :=
  .object (memberIf "title" .str p.title ++ memberIf "description" .str p.description
    ++ memberIf "language" .str p.language
    ++ memberIf "runtimeEnvironment" .str p.runtimeEnvironment
    ++ memberIf "distributionService" .str p.distributionService)

def ofJson? (v : Json) : Option RepresentationPayload := do
  match ← v.fields? memberNames with
  | [title, description, language, runtimeEnvironment, distributionService] =>
    return { title := ← withDefault text? sample.title title
             description := ← withDefault text? sample.description description
             language := ← withDefault text? sample.language language
             runtimeEnvironment :=
               ← withDefault text? sample.runtimeEnvironment runtimeEnvironment
             distributionService :=
               ← withDefault text? sample.distributionService distributionService }
  | _ => none

end RepresentationPayload

namespace AppPayload

def memberNames : List String :=
  ["title", "description", "docs", "environmentVariables", "storageConfig",
   "supportedUsagePolicies"]

def toJson (p : AppPayload) : Json :=
  .object (memberIf "title" .str p.title ++ memberIf "description" .str p.description
    ++ memberIf "docs" .str p.docs
    ++ memberIf "environmentVariables" .str p.environmentVariables
    ++ memberIf "storageConfig" .str p.storageConfig
    ++ textsIf "supportedUsagePolicies" p.supportedUsagePolicies)

def ofJson? (v : Json) : Option AppPayload := do
  match ← v.fields? memberNames with
  | [title, description, docs, environmentVariables, storageConfig, policies] =>
    return { title := ← withDefault text? sample.title title
             description := ← withDefault text? sample.description description
             docs := ← withDefault text? sample.docs docs
             environmentVariables :=
               ← withDefault text? sample.environmentVariables environmentVariables
             storageConfig := ← withDefault text? sample.storageConfig storageConfig
             supportedUsagePolicies :=
               ← withDefault textList? sample.supportedUsagePolicies policies }
  | _ => none

end AppPayload

namespace EndpointPayload

def memberNames : List String :=
  ["title", "description", "location", "mediaType", "port", "protocol", "type", "docs",
   "info", "path"]

/-- A port is written as a number. -/
def portNumber (n : UInt16) : Json :=
  .nat n.toNat

def toJson (p : EndpointPayload) : Json :=
  .object (memberIf "title" .str p.title ++ memberIf "description" .str p.description
    ++ memberIf "location" .str p.location ++ memberIf "mediaType" .str p.mediaType
    ++ memberIf "port" portNumber p.port ++ memberIf "protocol" .str p.protocol
    ++ memberIf "type" .str p.role ++ memberIf "docs" .str p.docs
    ++ memberIf "info" .str p.info ++ memberIf "path" .str p.path)

/-- A port has 16 bits. -/
def port? (v : Json) : Option UInt16 :=
  (natBelow 0x10000 v).map UInt16.ofNat

def ofJson? (v : Json) : Option EndpointPayload := do
  match ← v.fields? memberNames with
  | [title, description, location, mediaType, port, protocol, role, docs, info, path] =>
    return { title := ← withDefault text? sample.title title
             description := ← withDefault text? sample.description description
             location := ← withDefault text? sample.location location
             mediaType := ← withDefault text? sample.mediaType mediaType
             port := ← withDefault (optional port?) sample.port port
             protocol := ← withDefault text? sample.protocol protocol
             role := ← withDefault text? sample.role role
             docs := ← withDefault text? sample.docs docs
             info := ← withDefault text? sample.info info
             path := ← withDefault text? sample.path path }
  | _ => none

end EndpointPayload

namespace ArtifactPayload

def memberNames : List String :=
  ["title", "description", "value"]

def toJson (p : ArtifactPayload) : Json :=
  .object [("title", .str p.title), ("description", .str p.description),
    ("value", .str p.value)]

def ofJson? (v : Json) : Option ArtifactPayload := do
  match ← v.fields? memberNames with
  | [title, description, value] =>
    return { title := ← withDefault asString? sample.title title
             description := ← withDefault asString? sample.description description
             value := ← withDefault asString? sample.value value }
  | _ => none

end ArtifactPayload

namespace ContractPayload

def memberNames : List String :=
  ["start", "end"]

def toJson (p : ContractPayload) : Json :=
  .object [("start", .str p.start), ("end", .str p.finish)]

def ofJson? (v : Json) : Option ContractPayload := do
  match ← v.fields? memberNames with
  | [start, finish] =>
    return { start := ← required asString? start
             finish := ← required asString? finish }
  | _ => none

end ContractPayload

namespace RulePayload

def memberNames : List String :=
  ["title", "description", "value"]

def toJson (p : RulePayload) : Json :=
  .object (memberIf "title" .str p.title ++ memberIf "description" .str p.description
    ++ [("value", .str p.value)])

def ofJson? (v : Json) : Option RulePayload := do
  match ← v.fields? memberNames with
  | [title, description, value] =>
    return { title := ← withDefault text? sample.title title
             description := ← withDefault text? sample.description description
             value := ← withDefault asString? sample.value value }
  | _ => none

end RulePayload

end Dataspace
