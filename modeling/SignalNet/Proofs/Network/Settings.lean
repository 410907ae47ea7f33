import SignalNet.Proofs.Network.Literals
import SignalNet.Proofs.Network.Replication
import SignalNet.Proofs.Schema.Inheritance

/-!
Contract: what sets the channels of a native variable when a network is built.

A variable starts with the zero of its type, and literals are written over that: the default of
the class, then arguments, then what each subnet around it says, from the inside outwards. Each
phase puts its literals in front of the earlier ones in a list of settings, so a channel always
holds what the first of them stands for. All literals are scalars here, which stand for every
channel.

Owns: the settings that specs and classes make themselves (`Catalogue.setting?`), values that
come from settings (`Value.ComesFrom`), and one lemma for each phase: declarations, arguments of a
native proc, and what is written through a subnet.
-/

set_option autoImplicit false

namespace SignalNet

variable {P : Type}

/-! ## Settings -/

/-- A literal that stands for every channel. -/
def Literal.Scalar (literal : Literal) : Prop := literal.listLength? = none

instance (literal : Literal) : Decidable literal.Scalar :=
  inferInstanceAs (Decidable (literal.listLength? = none))

theorem Literal.Scalar.channel?_eq {literal : Literal} (scalar : literal.Scalar) (ch : Nat) :
    literal.channel? ch = some literal := by
  cases literal with
  | list items => cases scalar
  | bool | int | float | string => rfl

/-- The argument that a spec has for a variable of its class, the last of several. -/
def ProcSpec.argument? (spec : ProcSpec) (description : ClassDescription P) (var : Nat) :
    Option Literal :=
  spec.arguments.entries.reverse.findSome? fun entry =>
    if description.variableIndex? entry.1 = some var then some entry.2 else none

/-- A class as it was read, before it takes over anything from other ones. -/
def Catalogue.read? (catalogue : Catalogue P) (label : String) : Option (ClassDescription P) :=
  (⟨catalogue.plain ++ catalogue.subnets⟩ : ClassSet P).get? label

/-- The default that a class itself declares for a variable. -/
def Catalogue.default? (catalogue : Catalogue P) (label : String) (var : Nat) : Option Literal :=
  ((catalogue.read? label).bind (·.vars[var]?)).bind (·.initial)

/-- The initial literal of a variable, unless it was taken over from another one. -/
def Declaration.own? (declaration : Declaration) : Option Literal :=
  if declaration.inherited then none else declaration.initial

/-- What a proc sets a variable to: its argument, or else the default that its class itself
declares. -/
def Catalogue.setting? (catalogue : Catalogue P) (spec : ProcSpec)
    (description : ClassDescription P) (var : Nat) : Option Literal :=
  (spec.argument? description var).or (catalogue.default? description.label var)

/-- A value is what the first of some literals stands for in its type, or the zero of its type. -/
def Value.ComesFrom (value : Value) (settings : List Literal) : Prop :=
  match settings.head? with
  | some literal => literal.toValue value.type = .ok value
  | none => value = Value.zero value.type

theorem Value.ComesFrom.congr {value : Value} {settings others : List Literal}
    (comesFrom : value.ComesFrom settings) (same : others.head? = settings.head?) :
    value.ComesFrom others := by
  rw [ComesFrom, same]
  exact comesFrom

theorem Value.comesFrom_cons {value : Value} {type : ValueType} {literal : Literal}
    (converted : literal.toValue type = .ok value) (settings : List Literal) :
    value.ComesFrom (literal :: settings) := by
  rw [← Literal.type_of_toValue converted] at converted
  exact converted

theorem Value.comesFrom_nil (type : ValueType) : (Value.zero type).ComesFrom [] := by
  show Value.zero type = Value.zero (Value.zero type).type
  rw [Value.type_zero]

/-! ## Defaults that a class declares itself -/

namespace Catalogue.WellFormed

variable {catalogue : Catalogue P} {classes : ClassSet P} {label : String}
  {description : ClassDescription P}

theorem read?_of_mem (wellFormed : catalogue.WellFormed)
    (member : description ∈ catalogue.plain ++ catalogue.subnets) :
    catalogue.read? description.label = some description := by
  have nodup : (⟨catalogue.plain ++ catalogue.subnets⟩ : ClassSet P).labels.Nodup := by
    rw [ClassSet.labels, List.map_append]
    exact wellFormed.taken_nodup
  exact ClassSet.get?_of_mem nodup member

/-- The default of a plain class is the initial literal of its declaration. -/
theorem default?_plain (wellFormed : catalogue.WellFormed)
    (finished : catalogue.finish = .ok classes) (found : classes.get? label = some description)
    {native : NativeClass P} (isPlain : description.kind = .plain native) (var : Nat) :
    catalogue.default? description.label var = (description.vars[var]?).bind (·.initial) := by
  obtain ⟨resolved, -⟩ := wellFormed.finish_eq_ok.mp finished
  have member := wellFormed.plain_of_get? resolved found isPlain
  rw [default?, wellFormed.read?_of_mem (List.mem_append_left _ member), Option.bind_some]

/-- The default that a subnet itself declares is the initial literal of its variable, unless the
variable has taken that over. -/
theorem default?_subnet (wellFormed : catalogue.WellFormed)
    (declared : catalogue.Each fun kind description =>
      ∀ declaration ∈ description.vars, declaration.AsRead kind)
    (finished : catalogue.finish = .ok classes) (found : classes.get? label = some description)
    {template : Template} (isSubnet : description.kind = .subnet template) (var : Nat) :
    catalogue.default? description.label var = (description.vars[var]?).bind (·.own?) := by
  obtain ⟨subnet, member, sameLabel, -, each⟩ :=
    wellFormed.inherits declared finished found isSubnet
  rw [default?, ClassSet.label_of_get? found, ← sameLabel,
    wellFormed.read?_of_mem (List.mem_append_right _ member), Option.bind_some]
  cases listed : description.vars[var]? with
  | none =>
      rw [List.getElem?_eq_none (each.length_eq ▸ List.getElem?_eq_none_iff.mp listed)]
      rfl
  | some final =>
      obtain ⟨read, isRead, target, spec, inner, taken, -, -, -, -, -, -, -, -, initial,
        inherited⟩ := exists_getElem?_of_forall₂ each.flip listed
      rw [isRead, Option.bind_some, Option.bind_some, Declaration.own?, initial, inherited]
      cases read.initial with
      | some literal => rfl
      | none => cases taken.initial <;> rfl

end Catalogue.WellFormed

/-! ## Native procs -/

namespace Variable

/-- A completed scalar is in every channel. -/
theorem comesFrom_of_assignLiteral {entry : Variable} {literal : Literal} (scalar : literal.Scalar)
    (completed : (entry.assignLiteral literal).2 = .ok ()) {ch : Nat} {value : Value}
    (held : (entry.assignLiteral literal).1.channels[ch]? = some value) (settings : List Literal) :
    value.ComesFrom (literal :: settings) := by
  have below : ch < entry.channels.length := by
    rw [← length_assignLiteral entry literal]
    exact (List.getElem?_eq_some_iff.mp held).1
  obtain ⟨converted, isValue, there⟩ :=
    holdsItem_of_assignLiteral completed below (scalar.channel?_eq ch)
  obtain rfl := Option.some.inj (held.symm.trans there)
  exact Value.comesFrom_cons isValue settings

theorem comesFrom_of_ofDeclaration {declaration : Declaration} {entry : Variable}
    (scalar : ∀ literal, declaration.initial = some literal → literal.Scalar)
    (made : ofDeclaration declaration = .ok entry) {ch : Nat} {value : Value}
    (held : entry.channels[ch]? = some value) : value.ComesFrom declaration.initial.toList := by
  unfold ofDeclaration at made
  cases initial : declaration.initial with
  | none =>
      rw [initial] at made
      cases made
      rw [List.mem_singleton.mp (List.mem_of_getElem? held)]
      exact Value.comesFrom_nil declaration.type
  | some literal =>
      rw [initial] at made
      dsimp only at made
      obtain ⟨⟨⟩, completed, rfl⟩ := map_eq_ok.mp made
      exact comesFrom_of_assignLiteral (scalar literal initial) completed held []

end Variable

namespace Bank

/-- Every channel of a bank holds what the first setting of its variable stands for. -/
def Settled (bank : Bank) (settings : Nat → List Literal) : Prop :=
  ∀ var ch value, bank.get? var ch = some value → value.ComesFrom (settings var)

theorem settled_ofDeclarations {declarations : List Declaration} {bank : Bank}
    (scalar : ∀ declaration ∈ declarations, ∀ literal, declaration.initial = some literal →
      literal.Scalar)
    (made : ofDeclarations declarations = .ok bank) :
    bank.Settled fun var => ((declarations[var]?).bind (·.initial)).toList := by
  induction declarations generalizing bank with
  | nil =>
      cases made
      intro var ch value held
      cases held
  | cons declaration rest inductionHypothesis =>
      rw [ofDeclarations] at made
      split at made
      · cases made
      · rename_i entry first
        obtain ⟨others, remaining, rfl⟩ := map_eq_ok.mp made
        intro var ch value held
        cases var with
        | zero =>
            exact Variable.comesFrom_of_ofDeclaration (scalar declaration List.mem_cons_self) first
              held
        | succ var =>
            exact inductionHypothesis
              (fun other member => scalar other (List.mem_cons_of_mem declaration member)) remaining
              var ch value held

/-- A scalar goes into all channels of its variable, and other variables stay as they are. -/
theorem settled_applyLiteral {bank stored : Bank} {var : Nat} {literal : Literal}
    (scalar : literal.Scalar) (applied : bank.applyLiteral var literal = (stored, .ok ()))
    {settings : Nat → List Literal} (settled : bank.Settled settings) :
    stored.Settled fun other =>
      if other = var then literal :: settings other else settings other := by
  intro other ch value held
  dsimp only
  unfold applyLiteral at applied
  cases found : bank.vars[var]? with
  | none =>
      rw [found] at applied
      cases applied
      have apart : other ≠ var := by
        rintro rfl
        rw [get?, found] at held
        cases held
      rw [if_neg apart]
      exact settled other ch value held
  | some entry =>
      have unsized : literal.listLength? = none := scalar
      simp only [found, unsized] at applied
      obtain ⟨rfl, completed⟩ := Prod.mk.inj applied
      by_cases here : other = var
      · subst here
        rw [get?, List.getElem?_set_self (List.getElem?_eq_some_iff.mp found).1,
          Option.bind_some] at held
        rw [if_pos rfl]
        exact Variable.comesFrom_of_assignLiteral scalar completed held _
      · rw [get?, List.getElem?_set_ne (Ne.symm here)] at held
        rw [if_neg here]
        exact settled other ch value held

end Bank

namespace Build

variable {description : ClassDescription P}

/-- The literals that some entries have for a variable, the last of them first. -/
def entriesFor (description : ClassDescription P) (entries : List (String × Literal)) (var : Nat) :
    List Literal :=
  entries.reverse.flatMap fun entry =>
    if description.variableIndex? entry.1 = some var then [entry.2] else []

theorem head?_entriesFor (description : ClassDescription P) (spec : ProcSpec) (var : Nat) :
    (entriesFor description spec.arguments.entries var).head? = spec.argument? description var := by
  rw [entriesFor, List.head?_flatMap, ProcSpec.argument?]
  refine congrArg (List.findSome? · _) (funext fun entry => ?_)
  split <;> rfl

/-- What a proc sets a variable to is what its arguments say, with the default behind them. -/
theorem head?_setting? (catalogue : Catalogue P) (description : ClassDescription P)
    (spec : ProcSpec) (var : Nat) (rest : List Literal) :
    ((catalogue.setting? spec description var).toList ++ rest).head? =
      (entriesFor description spec.arguments.entries var ++
        ((catalogue.default? description.label var).toList ++ rest)).head? := by
  rw [Catalogue.setting?, List.head?_append, List.head?_append, List.head?_append,
    head?_entriesFor]
  cases spec.argument? description var <;> cases catalogue.default? description.label var <;> rfl

theorem indexOf?_of_laid {bank : Bank} (laid : bank.Laid (description.vars.map (·.label)))
    (label : String) : bank.indexOf? label = description.variableIndex? label := by
  have labels := congrArg (List.findIdx? (· == label)) laid.labels_eq
  rwa [List.findIdx?_map, List.findIdx?_map] at labels

/-- The arguments of a native proc come in front of what its declarations say. -/
theorem settled_applyArguments {spec : ProcSpec} {entries : List (String × Literal)}
    (scalar : ∀ entry ∈ entries, entry.2.Scalar) {bank stored : Bank}
    (applied : applyArguments spec entries bank = .ok stored)
    (laid : bank.Laid (description.vars.map (·.label))) {settings : Nat → List Literal}
    (settled : bank.Settled settings) :
    stored.Settled fun var => entriesFor description entries var ++ settings var := by
  fun_induction applyArguments spec entries bank generalizing settings with
  | case1 bank =>
      cases applied
      exact settled
  | case2 label literal rest bank absent => cases applied
  | case3 label literal rest bank var found kept fault refused => cases applied
  | case4 label literal rest bank var found next result inductionHypothesis =>
      obtain ⟨isScalar, restScalar⟩ := List.forall_mem_cons.mp scalar
      have nextLaid := laid.applyLiteral var literal
      rw [result] at nextLaid
      have nextSettled := inductionHypothesis restScalar applied nextLaid
        (Bank.settled_applyLiteral isScalar result settled)
      intro other ch value held
      refine (nextSettled other ch value held).congr ?_
      rw [indexOf?_of_laid laid] at found
      dsimp only [entriesFor]
      rw [List.reverse_cons, List.flatMap_append, List.flatMap_singleton, found, List.append_assoc]
      by_cases same : other = var
      · rw [same, if_pos rfl, if_pos rfl]
        rfl
      · rw [if_neg same, if_neg fun isOther => same (Option.some.inj isOther).symm, List.nil_append]

end Build

/-! ## Subnets -/

/-- A place holds a value of a type that comes from some settings. -/
def Store.Shows (store : Store P) (terminal : Terminal) (ch : Nat) (type : ValueType)
    (settings : List Literal) : Prop :=
  ∃ value, store.place? terminal ch = some value ∧ value.type = type ∧ value.ComesFrom settings

theorem Store.Shows.congr {store after : Store P} {terminal : Terminal} {ch : Nat}
    {type : ValueType} {settings others : List Literal}
    (shows : store.Shows terminal ch type settings)
    (samePlace : after.place? terminal ch = store.place? terminal ch)
    (sameHead : others.head? = settings.head?) : after.Shows terminal ch type others := by
  obtain ⟨value, there, isType, comesFrom⟩ := shows
  exact ⟨value, samePlace.trans there, isType, comesFrom.congr sameHead⟩

namespace Build

/-- The initial literals of a subnet that are for one variable. -/
theorem flatMap_initials (declarations : List Declaration) (first var : Nat) :
    (((declarations.zipIdx first).filterMap fun entry =>
        entry.1.own?.map fun literal => (entry.2, literal)).reverse.flatMap
          fun item => if item.1 = first + var then [item.2] else []) =
      ((declarations[var]?).bind (·.own?)).toList := by
  induction declarations generalizing first var with
  | nil => rfl
  | cons declaration rest inductionHypothesis =>
      rw [List.zipIdx_cons, List.filterMap_cons]
      cases var with
      | zero =>
          have later : (((rest.zipIdx (first + 1)).filterMap fun entry =>
              entry.1.own?.map fun literal => (entry.2, literal)).reverse.flatMap
                fun item => if item.1 = first then [item.2] else []) = [] := by
            rw [List.flatMap_eq_nil_iff]
            intro item member
            obtain ⟨entry, listed, isItem⟩ := List.mem_filterMap.mp (List.mem_reverse.mp member)
            obtain ⟨literal, -, rfl⟩ := Option.map_eq_some_iff.mp isItem
            have behind := List.le_snd_of_mem_zipIdx listed
            rw [if_neg (by dsimp only; omega)]
          rw [Nat.add_zero, List.getElem?_cons_zero, Option.bind_some]
          cases own : declaration.own? with
          | none => exact later
          | some literal =>
              rw [Option.map_some]
              dsimp only
              rw [List.reverse_cons, List.flatMap_append, later, List.flatMap_singleton, if_pos rfl]
              rfl
      | succ var =>
          have shifted := inductionHypothesis (first + 1) var
          rw [Nat.add_right_comm, Nat.add_assoc] at shifted
          rw [List.getElem?_cons_succ, ← shifted]
          cases own : declaration.own? with
          | none => rfl
          | some literal =>
              rw [Option.map_some]
              dsimp only
              rw [List.reverse_cons, List.flatMap_append, List.flatMap_singleton,
                if_neg (by omega), List.append_nil]

theorem ownInitials_eq (description : ClassDescription P) :
    ownInitials description = (description.vars.zipIdx 0).filterMap fun entry =>
      entry.1.own?.map fun literal => (entry.2, literal) := by
  refine List.filterMap_congr fun entry _ => ?_
  obtain ⟨declaration, position⟩ := entry
  dsimp only [Declaration.own?]
  split <;> rfl

theorem exists_declaration_of_mem_ownInitials {description : ClassDescription P}
    {item : Nat × Literal} (member : item ∈ ownInitials description) :
    ∃ declaration ∈ description.vars, declaration.initial = some item.2 := by
  rw [ownInitials_eq] at member
  obtain ⟨entry, listed, isItem⟩ := List.mem_filterMap.mp member
  obtain ⟨literal, own, rfl⟩ := Option.map_eq_some_iff.mp isItem
  refine ⟨entry.1, List.fst_mem_of_mem_zipIdx listed, ?_⟩
  rw [Declaration.own?] at own
  split at own
  · cases own
  · exact own

variable [Processor P] {proc : Proc P} {var : Nat} {terminal : Terminal} {ch : Nat}

/-- The declared type of a variable of a proc. -/
def typeOf (proc : Proc P) (var : Nat) : ValueType :=
  ((proc.declaration? var).map (·.type)).getD .double

/-- What is written to the variable that leads to a place comes in front of what set the place
earlier. Writes to other variables pass it by. -/
theorem holds_of_writeVariable (reached : terminal ∈ proc.terminals var)
    (only : ∀ other, terminal ∈ proc.terminals other → other = var) {other : Nat}
    {literal : Literal} (scalar : literal.Scalar) {store after : Store P}
    (completed : writeVariable proc other literal store = .ok after)
    (below : ch < store.channelCount (proc.terminals var)) {settings : List Literal}
    (shows : store.Shows terminal ch (typeOf proc var) settings) :
    ch < after.channelCount (proc.terminals var) ∧
      after.Shows terminal ch (typeOf proc var)
        ((if other = var then [literal] else []) ++ settings) := by
  have written := written_writeLiteral completed
  refine ⟨Store.channelCount_congr written.shape_eq (proc.terminals var) ▸ below, ?_⟩
  by_cases same : other = var
  · subst same
    obtain ⟨place, there, isType, -⟩ := shows
    have present : (store.place? terminal ch).isSome = true := by rw [there, Option.isSome_some]
    obtain ⟨value, held, converted, heldThere, isHeld⟩ := holdsItem_of_writeLiteral completed
      (List.mem_range.mpr below) (scalar.channel?_eq ch) reached present
    have heldType : held.type = typeOf proc other := by
      have kept := written.place?_type terminal ch
      rw [heldThere, there, Option.map_some, Option.map_some, isType] at kept
      exact Option.some.inj kept
    -- the value has the type of the place, so it is stored as it is
    have valueType : value.type = held.type :=
      (Literal.type_of_toValue converted).trans heldType.symm
    rw [Value.convert, if_pos valueType] at isHeld
    obtain rfl := Except.ok.inj isHeld
    rw [if_pos rfl]
    exact ⟨value, heldThere, heldType, Value.comesFrom_cons converted settings⟩
  · rw [if_neg same, List.nil_append]
    exact shows.congr (written.place?_unchanged (fun leads => same (only other leads)) ch) rfl

/-- What a subnet and its arguments ask for comes in front of what is set inside. -/
theorem shows_of_writeSubnet (reached : terminal ∈ proc.terminals var)
    (only : ∀ other, terminal ∈ proc.terminals other → other = var) {spec : ProcSpec}
    (scalarArguments : ∀ entry ∈ spec.arguments.entries, entry.2.Scalar)
    (scalarDefaults : ∀ declaration ∈ proc.description.vars, ∀ literal,
      declaration.initial = some literal → literal.Scalar)
    {store after : Store P} (completed : writeSubnet spec proc store = .ok after)
    (below : ch < store.channelCount (proc.terminals var)) {settings : List Literal}
    (shows : store.Shows terminal ch (typeOf proc var) settings) :
    after.Shows terminal ch (typeOf proc var)
      (entriesFor proc.description spec.arguments.entries var ++
        (((proc.description.vars[var]?).bind (·.own?)).toList ++ settings)) := by
  rw [writeSubnet] at completed
  obtain ⟨initialized, initials, arguments⟩ := bind_eq_ok.mp completed
  have afterInitials := foldlM_collects
    (motive := fun settings store => ch < store.channelCount (proc.terminals var) ∧
      store.Shows terminal ch (typeOf proc var) settings)
    (h := fun item : Nat × Literal => if item.1 = var then [item.2] else [])
    (fun item member settings before next holds written => by
      obtain ⟨declaration, declared, isInitial⟩ := exists_declaration_of_mem_ownInitials member
      exact holds_of_writeVariable reached only (scalarDefaults declaration declared _ isInitial)
        written holds.1 holds.2)
    ⟨below, shows⟩ initials
  have ofInitials := flatMap_initials proc.description.vars 0 var
  rw [← ownInitials_eq, Nat.zero_add] at ofInitials
  rw [ofInitials] at afterInitials
  refine (foldlM_collects
    (motive := fun settings store => ch < store.channelCount (proc.terminals var) ∧
      store.Shows terminal ch (typeOf proc var) settings)
    (h := fun entry : String × Literal =>
      if proc.description.variableIndex? entry.1 = some var then [entry.2] else [])
    (fun entry member settings before next holds written => ?_) afterInitials arguments).2
  dsimp only at written
  cases found : proc.variableIndex? entry.1 with
  | none =>
      rw [found] at written
      cases written
  | some other =>
      rw [found] at written
      have next := holds_of_writeVariable reached only (scalarArguments entry member) written
        holds.1 holds.2
      rw [Proc.variableIndex?] at found
      simpa only [found, Option.some.injEq] using next

end Build

end SignalNet
