import SourceRegistry.Registry

/-!
Plugins: datasource kinds that wait to be registered.  They are loaded in the order of their tags,
whatever the order in which they were collected, up to the first that fails.  A plugin may also carry a
function of its own that registers.  Such a function can only call the registry, so that loading it is
the sequence of the calls that it makes.
-/

set_option autoImplicit false
set_option relaxedAutoImplicit false

namespace SourceRegistry

/-- A datasource kind that waits to be registered, under a tag of its own. -/
structure Plugin (σ : Type) where
  tag : String
  kind : SourceKind σ

namespace Plugin

variable {σ : Type}

def ofKind (kind : SourceKind σ) : Plugin σ := { tag := kind.spec.tag, kind }

/-- The plugins in the order in which they are loaded: rising by tag. -/
def inOrder (plugins : List (Plugin σ)) : List (Plugin σ) :=
  plugins.mergeSort fun a b => decide (a.tag ≤ b.tag)

theorem inOrder_perm (plugins : List (Plugin σ)) : (inOrder plugins).Perm plugins :=
  List.mergeSort_perm plugins _

/-- Registers kinds one after another up to the first that fails; what was registered before it
stays registered. -/
def loadAll (r : Registry σ) : List (Plugin σ) → Except RegistrationError Unit × Registry σ
  | [] => (.ok (), r)
  | plugin :: rest =>
    match r.registerKind plugin.kind with
    | .ok r' => loadAll r' rest
    | .error cause => (.error cause, r)

def load (r : Registry σ) (plugins : List (Plugin σ)) :
    Except RegistrationError Nat × Registry σ :=
  match loadAll r (inOrder plugins) with
  | (.ok (), r') => (.ok plugins.length, r')
  | (.error cause, r') => (.error cause, r')

end Plugin

end SourceRegistry
