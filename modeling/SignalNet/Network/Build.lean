import SignalNet.Network.Error
import SignalNet.Network.Order
import SignalNet.Preset.Blend

/-!
Contract: building a network from a template.

Procs are created in the order of the template, a replicated subnet once per
voice. A subnet is built with everything in it before its own initial literals
and arguments are written through its variables. Then connections are resolved,
required connections are checked, the order of execution is found, and the
presets asked for at construction are applied.

Owns: one level of building, which is handed the building of inner levels, and the
whole recursion over the nesting of classes.
-/

set_option autoImplicit false

namespace SignalNet

/-- A built network. -/
structure Network (P : Type) where
  /-- The label of the subnet that it is the inside of, or `root`. -/
  label : String
  level : Level P
  store : Store P
  devices : List Device
  timing : Timing
  /-- The number of completed cycles. -/
  cycleIndex : Nat

namespace Build

variable {P : Type}

/-- What all levels of a network are built with. -/
structure Environment (P : Type) where
  classes : ClassSet P
  timing : Timing
  devices : List Device

/-- Building a level from its template, for a voice, with the variables that the subnet
around it exposes, on top of the cells that are already there. -/
abbrev LevelBuilder (P : Type) :=
  Template → Option Nat → List VarRef → Store P → Except NetworkError (Level P × Store P)

/-- The first label that an earlier proc has already. -/
def duplicate? : List String → List ProcSpec → Option String
  | _, [] => none
  | earlier, spec :: rest =>
      if earlier.contains spec.label then some spec.label
      else duplicate? (spec.label :: earlier) rest

/-- The voices of a proc: one, with the number of the level it is on, or as many as a
subnet asks for. -/
def voices (description : ClassDescription P) (spec : ProcSpec) (replica : Option Nat) :
    Except NetworkError (List (Option Nat)) :=
  match spec.polyCount with
  | none => .ok [replica]
  | some count =>
      if !description.isSubnet then .error (.polyOnPlain spec.label)
      else if replica.isSome then .error (.nestedPoly spec.label)
      else .ok ((List.range (max count 1)).map some)

/-- The position of the device that a proc asks for. -/
def findDevice (environment : Environment P) (spec : ProcSpec) :
    Except NetworkError (Option Nat) :=
  match spec.device with
  | none => .ok none
  | some label =>
      match environment.devices.findIdx? (·.label == label) with
      | some position => .ok (some position)
      | none => .error (.unknownDevice spec.label label)

/-- Apply the arguments of a native proc to its bank. -/
def applyArguments (spec : ProcSpec) :
    List (String × Literal) → Bank → Except NetworkError Bank
  | [], bank => .ok bank
  | (label, literal) :: rest, bank =>
      match bank.indexOf? label with
      | none => .error (.unknownVariable spec.label label)
      | some var =>
          match bank.applyLiteral var literal with
          | (_, .error fault) => .error (.invalidValue spec.label label fault)
          | (bank, .ok ()) => applyArguments spec rest bank

/-- The state of a new native proc. -/
def createCell (environment : Environment P) (spec : ProcSpec)
    (description : ClassDescription P) (native : NativeClass P) (device : Option Nat) :
    Except NetworkError (Cell P) := do
  if native.deviceKind.isSome && device.isNone then
    .error (.deviceRequired spec.label description.label)
  else
    let bank ← (Bank.ofDeclarations description.vars).mapError fun (var, fault) =>
      .invalidValue spec.label var fault
    let bank ← applyArguments spec spec.arguments.entries bank
    let context : CreateContext :=
      ⟨spec.label, environment.timing, device.bind (environment.devices[·]?)⟩
    let (processor, bank) ← (native.create context bank).mapError
      (.construct spec.label description.label)
    return ⟨processor, bank⟩

/-- The inner variables that a variable of a subnet forwards to: that of every voice of
the proc that it names. -/
def forwards (spec : ProcSpec) (procs : List (Proc P)) (declaration : Declaration) :
    Except NetworkError (List (Nat × Nat)) :=
  match declaration.target with
  | none => .error (.unknownVariable spec.label declaration.label)
  | some target =>
      let found := procs.zipIdx.filterMap fun (proc, position) =>
        if proc.label = target.proc then
          (proc.variableIndex? target.var).map fun var => (position, var)
        else none
      if found.isEmpty then
        .error (.unknownVariable (spec.label ++ "/" ++ target.proc) target.var)
      else .ok found

/-- Write a literal to the channels of a variable, on behalf of the description. -/
def writeLiteral [Processor P] (proc : Proc P) (var : Nat) (literal : Literal) :
    List Nat → Store P → Except NetworkError (Store P)
  | [], store => .ok store
  | ch :: rest, store =>
      match literal.channel? ch with
      | none => writeLiteral proc var literal rest store
      | some item =>
          let type := ((proc.declaration? var).map (·.type)).getD .double
          let refused := NetworkError.invalidValue proc.label (proc.variableLabel var)
          match item.toValue type with
          | .error fault => .error (refused fault)
          | .ok value =>
              match store.write false ch value (proc.terminals var) with
              | (_, .error fault) => .error (refused fault)
              | (written, .ok _) => writeLiteral proc var literal rest written

def writeVariable [Processor P] (proc : Proc P) (var : Nat) (literal : Literal)
    (store : Store P) : Except NetworkError (Store P) :=
  writeLiteral proc var literal (List.range (store.channelCount (proc.terminals var))) store

/-- The initial literals that a subnet declares itself, by position. -/
def ownInitials (description : ClassDescription P) : List (Nat × Literal) :=
  description.vars.zipIdx.filterMap fun (declaration, var) =>
    if declaration.inherited then none
    else declaration.initial.map fun literal => (var, literal)

/-- Write what a subnet and its arguments ask for through its variables. -/
def writeSubnet [Processor P] (spec : ProcSpec) (proc : Proc P) (store : Store P) :
    Except NetworkError (Store P) := do
  let store ← (ownInitials proc.description).foldlM
    (fun store (var, literal) => writeVariable proc var literal store) store
  spec.arguments.entries.foldlM (fun store (label, literal) =>
    match proc.variableIndex? label with
    | some var => writeVariable proc var literal store
    | none => .error (.unknownVariable spec.label label)) store

/-- Create one proc. -/
def createProc [Processor P] (environment : Environment P) (inner : LevelBuilder P)
    (spec : ProcSpec) (description : ClassDescription P) (replica : Option Nat)
    (store : Store P) : Except NetworkError (Proc P × Store P) := do
  let device ← findDevice environment spec
  let head : ProcHead P := ⟨spec.label, replica, description, [], device⟩
  match description.kind with
  | .plain native =>
      let cell ← createCell environment spec description native device
      return (.native head store.length, store ++ [cell])
  | .subnet template =>
      let exposed := description.vars.filterMap (·.target)
      let (level, store) ← inner template replica exposed store
      let targets ← description.vars.mapM (forwards spec level.procs)
      let proc := Proc.subnet head level.procs level.order level.presets targets
      let store ← writeSubnet spec proc store
      return (proc, store)

def createVoices [Processor P] (environment : Environment P) (inner : LevelBuilder P)
    (spec : ProcSpec) (description : ClassDescription P) :
    List (Option Nat) → Store P → Except NetworkError (List (Proc P × ProcSpec) × Store P)
  | [], store => .ok ([], store)
  | replica :: rest, store => do
      let (proc, store) ← createProc environment inner spec description replica store
      let (procs, store) ← createVoices environment inner spec description rest store
      return ((proc, spec) :: procs, store)

/-- Create the procs of a template in turn, each with the spec that it comes from. -/
def createProcs [Processor P] (environment : Environment P) (inner : LevelBuilder P)
    (replica : Option Nat) :
    List ProcSpec → Store P → Except NetworkError (List (Proc P × ProcSpec) × Store P)
  | [], store => .ok ([], store)
  | spec :: rest, store =>
      match environment.classes.get? spec.className with
      | none => .error (.unknownClass spec.label spec.className)
      | some description => do
          let numbers ← voices description spec replica
          let (first, store) ← createVoices environment inner spec description numbers store
          let (others, store) ← createProcs environment inner replica rest store
          return (first ++ others, store)

/-- Refuse a network with more procs of a class than the class allows. -/
def checkPolyLimits (procs : List (Proc P)) : Except NetworkError Unit :=
  procs.forM fun proc =>
    let count :=
      (procs.filter fun other => other.description.label == proc.description.label).length
    match proc.description.polyLimit with
    | some limit =>
        if limit < count then .error (.polyLimit proc.description.label limit count) else .ok ()
    | none => .ok ()

/-- The proc that a connection reads: of the same voice if there is one, else without
a voice, else the first with the label. -/
def findSource (procs : List (Proc P)) (label : String) (replica : Option Nat) : Option Nat :=
  let find := fun accept : Option Nat → Bool =>
    procs.findIdx? fun proc => proc.label == label && accept proc.head.replica
  (find (· == replica)).orElse fun _ => (find (·.isNone)).orElse fun _ => find fun _ => true

/-- Numbers and switches connect to each other, everything else to its own type. -/
def connectable (source destination : ValueType) : Bool :=
  source == destination || (source.isScalar && destination.isScalar)

/-- Resolve one connection of the proc at a position. -/
def bindInput (procs : List (Proc P)) (position : Nat) (proc : Proc P) (input : InputSpec) :
    Except NetworkError Connection :=
  let refuse := NetworkError.badConnection proc.label input.var input.source
  match proc.variableIndex? input.var with
  | none => .error (.unknownVariable proc.label input.var)
  | some destination =>
      match VarRef.parse input.source with
      | .error fault => .error (refuse (.malformed fault))
      | .ok source =>
          match findSource procs source.proc proc.head.replica with
          | none => .error (refuse (.noProc source.proc))
          | some sourceProc =>
              if sourceProc = position then .error (.connectionCycle proc.label)
              else
                let read := procs[sourceProc]?
                match read.bind (·.variableIndex? source.var) with
                | none => .error (refuse (.noVariable source.proc source.var))
                | some sourceVariable =>
                    match read.bind (·.declaration? sourceVariable),
                        proc.declaration? destination with
                    | some given, some wanted =>
                        if connectable given.type wanted.type then
                          .ok ⟨destination, sourceProc, sourceVariable⟩
                        else .error (refuse (.incompatible given.type wanted.type))
                    | _, _ => .ok ⟨destination, sourceProc, sourceVariable⟩

/-- Resolve the connections of all procs. -/
def bindInputs (created : List (Proc P × ProcSpec)) : Except NetworkError (List (Proc P)) :=
  let procs := created.map (·.1)
  created.zipIdx.mapM fun ((proc, spec), position) =>
    (spec.inputs.mapM (bindInput procs position proc)).map proc.withInputs

/-- Whether a variable of a proc is fed by a connection or from around the level. -/
def isFed (exposed : List VarRef) (proc : Proc P) (var : Nat) (label : String) : Bool :=
  proc.head.inputs.any (·.destination == var) || exposed.contains ⟨proc.label, label⟩

/-- Refuse variables that need a connection and have none. -/
def checkSources (exposed : List VarRef) (procs : List (Proc P)) : Except NetworkError Unit :=
  procs.forM fun proc => proc.description.vars.zipIdx.forM fun (declaration, var) =>
    if declaration.has .source && !isFed exposed proc var declaration.label then
      .error (.missingSource proc.label declaration.label)
    else .ok ()

/-- The order of execution that the connections ask for. -/
def orderProcs (procs : List (Proc P)) : Except NetworkError (List Nat) :=
  (releaseOrder (procs.map fun proc => proc.head.inputs.map (·.sourceProc))).mapError
    fun stuck => .connectionCycle (((procs[stuck]?).map (·.label)).getD "")

def applyClassPreset [Processor P] (proc : Proc P) (label : String) (store : Store P) :
    Store P × Except PresetError Unit :=
  match proc.description.preset? label with
  | none => (store, .error (.unknownPreset label))
  | some body =>
      let (written, failures) := Blend.applyBodies proc [(some body, 1)] store
      (written, Blend.outcome label failures)

/-- Apply the presets that procs ask for at construction. -/
def applyConstructionPresets [Processor P] :
    List (Proc P × ProcSpec) → Store P → Except NetworkError (Store P)
  | [], store => .ok store
  | (proc, spec) :: rest, store =>
      match spec.preset with
      | none => applyConstructionPresets rest store
      | some label =>
          match applyClassPreset proc label store with
          | (_, .error fault) => .error (.preset spec.label fault)
          | (written, .ok ()) => applyConstructionPresets rest written

/-- Build one level. -/
def buildLevel [Processor P] (environment : Environment P) (inner : LevelBuilder P) :
    LevelBuilder P := fun template replica exposed store => do
  match duplicate? [] template.procs with
  | some label => .error (.duplicateProc label)
  | none =>
      let (created, store) ← createProcs environment inner replica template.procs store
      checkPolyLimits (created.map (·.1))
      let procs ← bindInputs created
      checkSources exposed procs
      let order ← orderProcs procs
      let store ← applyConstructionPresets (procs.zip (created.map (·.2))) store
      return (⟨procs, order, template.presets⟩, store)

/-- Build levels that nest at most `depth` deep. -/
def buildNested [Processor P] (environment : Environment P) : Nat → LevelBuilder P
  | 0 => fun _ _ _ _ => .error .endlessNesting
  | depth + 1 => buildLevel environment (buildNested environment depth)

/-- How deep levels can nest. A level is inside at most one of each class without a voice
and one of each class with one; anything deeper meets itself again. -/
def depthLimit (classes : ClassSet P) : Nat := 2 * classes.size + 2

end Build

/-- Build a root network on devices. -/
def Network.build {P : Type} [Processor P] (classes : ClassSet P) (template : Template)
    (timing : Timing) (devices : List Device) : Except NetworkError (Network P) := do
  let (level, store) ← Build.buildNested ⟨classes, timing, devices⟩
    (Build.depthLimit classes) template none [] []
  return ⟨"root", level, store, devices, timing, 0⟩

end SignalNet
