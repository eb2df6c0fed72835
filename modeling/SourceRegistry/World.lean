import SourceRegistry.Host
import SourceRegistry.Source

/-!
Worlds: the datasources that were built and the hosts that are alive.  A world runs programs and hands
handles to hosts.
-/

set_option autoImplicit false
set_option relaxedAutoImplicit false

namespace SourceRegistry

/-- Datasources and hosts by their places.  A host that was dropped leaves its place empty. -/
structure World (σ η : Type) where
  sources : List σ := []
  hosts : List (Option η) := []

namespace World

variable {σ η β : Type}

def empty : World σ η := {}

def host? (w : World σ η) (context : ContextId) : Option η := w.hosts[context]?.join

def setHost (w : World σ η) (context : ContextId) (host : η) : World σ η :=
  { w with hosts := w.hosts.set context (some host) }

def addHost (w : World σ η) (host : η) : ContextId × World σ η :=
  (w.hosts.length, { w with hosts := w.hosts ++ [some host] })

def dropHost (w : World σ η) (context : ContextId) : World σ η :=
  { w with hosts := w.hosts.set context none }

def source? (w : World σ η) (source : SourceId) : Option σ := w.sources[source]?

def setSource (w : World σ η) (source : SourceId) (value : σ) : World σ η :=
  { w with sources := w.sources.set source value }

def addSource (w : World σ η) (value : σ) : World σ η :=
  { w with sources := w.sources ++ [value] }

/-- Lets the host at a place work on the datasources.  Without a host there is no answer and nothing
changes. -/
def letHost {α : Type} (w : World σ η) (context : ContextId) (work : η → List σ → α × η × List σ) :
    Option α × World σ η :=
  match w.host? context with
  | none => (none, w)
  | some host =>
    let (answer, host, sources) := work host w.sources
    (some answer, { w with sources }.setHost context host)

def offer [Host η σ] (w : World σ η) (context : ContextId) (handle : Handle) :
    Except HostError Unit × World σ η :=
  let (outcome, w') := w.letHost context fun host sources => Host.attach host sources handle
  (outcome.getD (.error (.nameTaken handle.name)), w')

variable [Source σ] [Host η σ]

/-- Hands an asset to the datasource at a place.  Where there is none the asset is rejected. -/
def addAsset (w : World σ η) (source : SourceId) (asset : Asset) :
    Except AssetError Asset × World σ η :=
  match w.source? source with
  | none => (.error (.rejected asset.name), w)
  | some value =>
    let (outcome, value) := Source.addAsset value asset
    (outcome, w.setSource source value)

def contextOf (w : World σ η) (source : SourceId) : Option ContextId :=
  ((w.source? source).bind Source.context).filter fun context => (w.host? context).isSome

def ask (w : World σ η) (source : SourceId) (request : Request) :
    Option (Except HostError Validator) × World σ η :=
  match w.contextOf source with
  | none => (none, w)
  | some context => w.letHost context fun host sources => Host.validate host sources request

/-- Lets the application behind a context act on a message for the datasource at a place. -/
def act (w : World σ η) (context : ContextId) (source : SourceId) (message : String) :
    Option String × World σ η :=
  w.letHost context fun host sources => Host.act host sources source message

def run (w : World σ η) (source : SourceId) : Program β → Except CallError β × World σ η
  | .done outcome => (outcome, w)
  | .addAsset asset next =>
    let (outcome, w') := w.addAsset source asset
    w'.run source (next outcome)
  | .ask request next =>
    let (outcome, w') := w.ask source request
    w'.run source (next outcome)
  | .act context message next =>
    let (reply, w') := w.act context source message
    w'.run source (next reply)

def invokeAdd (w : World σ η) (h : Handle) (method name : String) (fields : Fields) :
    Except CallError Asset × World σ η :=
  w.run h.source (h.addProgram method name fields)

def invokeRead (w : World σ η) (h : Handle) (method : String) (name : Option String)
    (fields : Fields) : Except CallError Validator × World σ η :=
  w.run h.source (h.readProgram method name fields)

def viewAs (w : World σ η) (h : Handle) (type : TypeIdent) : Option σ :=
  (w.source? h.source).filter fun value => (Source.type value).same type

/-- Changes the datasource of a handle if it is of a type.  The change has to keep the type. -/
def editAs (w : World σ η) (h : Handle) (type : TypeIdent)
    (change : { f : σ → σ // ∀ value, Source.type (f value) = Source.type value }) : World σ η :=
  match w.viewAs h type with
  | some value => w.setSource h.source (change.val value)
  | none => w

def attach (w : World σ η) (h : Handle) (context : ContextId) :
    Except SlotError Unit × World σ η :=
  match w.source? h.source with
  | none => (.error .missing, w)
  | some value =>
    let (outcome, value) := Source.attach value context
    (outcome, w.setSource h.source value)

end World

end SourceRegistry
