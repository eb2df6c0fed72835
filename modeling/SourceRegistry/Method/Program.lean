import SourceRegistry.Asset

/-!
Programs: what a function that a user supplied does, as a tree of steps.  An asset method adds to the
datasource it is called on and asks the datasource's context; whatever else such a function does, it
does as a part of the application that a context belongs to.  A program is run by a world that holds
datasources and hosts.
-/

set_option autoImplicit false
set_option relaxedAutoImplicit false

namespace SourceRegistry

abbrev ContextId := Nat

/-- The steps of a function that answers with a `β`. -/
inductive Program (β : Type) where
  /-- Ends with an outcome. -/
  | done (outcome : Except CallError β)
  /-- Hands an asset to the datasource, which may refuse it. -/
  | addAsset (asset : Asset) (next : Except AssetError Asset → Program β)
  /-- Asks the datasource's live context for a validator; there may be no such context. -/
  | ask (request : Request) (next : Option (Except HostError Validator) → Program β)
  /-- Lets the application behind a context act on a message; there may be no such context. -/
  | act (context : ContextId) (message : String) (next : Option String → Program β)

namespace Program

variable {β γ : Type}

def fail (cause : CallError) : Program β := .done (.error cause)

/-- Continues with the answer of a program; a failure ends the whole. -/
def andThen (p : Program β) (next : β → Program γ) : Program γ :=
  match p with
  | .done (.ok answer) => next answer
  | .done (.error cause) => .done (.error cause)
  | .addAsset asset rest => .addAsset asset fun outcome => (rest outcome).andThen next
  | .ask request rest => .ask request fun outcome => (rest outcome).andThen next
  | .act context message rest => .act context message fun reply => (rest reply).andThen next

def buildAndAdd (spec : AssetSpec) (source name : String) (fields : Fields) : Program Asset :=
  match spec.build name fields with
  | .error cause => fail cause
  | .ok asset =>
    .addAsset asset fun
      | .ok added => .done (.ok added)
      | .error cause => fail (.assetRefused source cause)

def askFor (source : String) (asset : Asset) : Program Validator :=
  .ask (asset.request source) fun
    | none => fail (.detached source)
    | some (.ok validator) => .done (.ok validator)
    | some (.error cause) => fail (.host cause)

end Program

end SourceRegistry
