import SourceRegistry.Host
import SourceRegistry.Samples.Sources

/-!
A sample host: it keeps datasources in the order in which they came in, refuses taken names unless
it is told to replace, and records every request that it is asked.
-/

set_option autoImplicit false
set_option relaxedAutoImplicit false

namespace SourceRegistry.Samples

/-- A request as it was recorded, with the assets that its datasource had at that time. -/
structure Recorded where
  request : Request
  assets : Option (List String)

structure SampleHost where
  /-- A taken name is replaced in place. -/
  replaces : Bool := false
  /-- The reason with which every request fails. -/
  failure : Option String := none
  kept : NamedList Hosted := .empty
  requests : List Recorded := []

namespace SampleHost

def attach (h : SampleHost) (handle : Handle) : Except HostError Unit × SampleHost :=
  if h.kept.contains handle.name && !h.replaces then (.error (.nameTaken handle.name), h)
  else (.ok (), { h with kept := h.kept.put handle.name (.managed handle) })

def assetNames (h : SampleHost) (sources : List SampleSource) (key : String) :
    Option (List String) :=
  match h.kept.get? key with
  | some (.managed handle) => (sources[handle.source]?).map (·.shelf.names)
  | _ => none

def validate (h : SampleHost) (sources : List SampleSource) (request : Request) :
    Except HostError Validator × SampleHost :=
  let recorded : Recorded := { request, assets := h.assetNames sources request.source }
  let h := { h with requests := h.requests ++ [recorded] }
  match h.failure with
  | some reason => (.error (.noValidator reason), h)
  | none => (.ok { request }, h)

/-- The application around a sample host does nothing, and its hosts change no datasource. -/
instance : Host SampleHost SampleSource where
  attach host sources handle := ((host.attach handle).1, (host.attach handle).2, sources)
  datasources := kept
  validate host sources request :=
    ((host.validate sources request).1, (host.validate sources request).2, sources)
  act host sources _ _ := ("", host, sources)

end SampleHost

end SourceRegistry.Samples
