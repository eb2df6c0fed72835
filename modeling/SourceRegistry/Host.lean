import SourceRegistry.Handle

/-!
Hosts: the owners of live datasources.  A host decides which datasources it takes and which requests
it answers; the registry only asks.
-/

set_option autoImplicit false
set_option relaxedAutoImplicit false

namespace SourceRegistry

inductive Hosted where
  /-- One that was built through a registry. -/
  | managed (handle : Handle)
  /-- Anything else that the host keeps. -/
  | foreign (name kind : String)

namespace Hosted

def name : Hosted → String
  | .managed handle => handle.name
  | .foreign name _ => name

def kindName : Hosted → String
  | .managed handle => handle.type.name
  | .foreign _ kind => kind

end Hosted

/-- What hosts can do, over datasources `σ`.  Whatever a host is asked, it has all datasources at hand
and may change them. -/
class Host (η σ : Type) where
  /-- Takes a datasource, which is among those at hand, or refuses it. -/
  attach : η → List σ → Handle → Except HostError Unit × η × List σ
  /-- The datasources it keeps, under their keys. -/
  datasources : η → NamedList Hosted
  /-- Answers a request. -/
  validate : η → List σ → Request → Except HostError Validator × η × List σ
  /-- What the application around it does on a message from a function of its own, which runs for the
  datasource at a place. -/
  act : η → List σ → SourceId → String → String × η × List σ

end SourceRegistry
